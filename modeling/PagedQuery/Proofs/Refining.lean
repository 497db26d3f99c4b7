import Mathlib
import PagedQuery.Proofs.Filtering
import PagedQuery.Proofs.Paging

/-!
# Refining a search

A search that is refined by more criteria finds what it has found before, less the records that do
not meet them, and in the same order. What makes this so is that a sort does not care when records
are left out: it puts a record before those that are not less (`mergeSort_cons_eq`), which moves no
other record, so it is the same to the others whether the record is left out before or after.

* `filter_mergeSort`, `filter_arrange`: leaving records out before a sort and after it;
* `Criteria.union`, `Criteria.exists_compile_union`: criteria on different names, taken together;
* `result_union`: the main result.
-/

namespace PagedQuery

/-! ## Leaving out and sorting -/

section

variable {α : Type} {le : α → α → Bool}

/-- A sort puts an element before those that are not less. -/
theorem mergeSort_cons_eq (htrans : ∀ a b c, le a b → le b c → le a c)
    (htotal : ∀ a b, le a b || le b a) (a : α) (l : List α) :
    (a :: l).mergeSort le =
      (l.mergeSort le).filter (fun b => !le a b) ++ a :: (l.mergeSort le).filter (le a) := by
  obtain ⟨before, after, hcons, hl, hbefore⟩ := List.mergeSort_cons htrans htotal a l
  have hafter : ∀ b ∈ after, le a b = true := by
    have hsorted := List.pairwise_mergeSort htrans htotal (a :: l)
    rw [hcons, List.pairwise_append, List.pairwise_cons] at hsorted
    exact hsorted.2.1.1
  have hnone : after.filter (fun b => !le a b) = [] := by
    simpa [List.filter_eq_nil_iff] using hafter
  have hnone' : before.filter (le a) = [] := by
    simpa [List.filter_eq_nil_iff] using hbefore
  rw [hcons, hl, List.filter_append, List.filter_append, List.filter_eq_self.2 hbefore, hnone,
    hnone', List.filter_eq_self.2 hafter, List.append_nil, List.nil_append]

/-- Leaving elements out and sorting can be done in either order. -/
theorem filter_mergeSort (htrans : ∀ a b c, le a b → le b c → le a c)
    (htotal : ∀ a b, le a b || le b a) (p : α → Bool) (l : List α) :
    (l.mergeSort le).filter p = (l.filter p).mergeSort le := by
  induction l with
  | nil => simp
  | cons a l ih =>
    cases hp : p a with
    | false =>
      have hp : ¬p a = true := by simp [hp]
      obtain ⟨before, after, hcons, hl, -⟩ := List.mergeSort_cons htrans htotal a l
      rw [hcons, List.filter_append, List.filter_cons_of_neg hp, ← List.filter_append, ← hl, ih,
        List.filter_cons_of_neg hp]
    | true =>
      -- The others are split by the element in the same way, before they are left out or after.
      have hsplit (q : α → Bool) : ((l.mergeSort le).filter q).filter p =
          ((l.filter p).mergeSort le).filter q := by
        rw [← ih, List.filter_comm]
      rw [mergeSort_cons_eq htrans htotal, List.filter_append, List.filter_cons_of_pos hp, hsplit,
        hsplit, List.filter_cons_of_pos hp, mergeSort_cons_eq htrans htotal]

end

theorem filter_arrange (order : Option (Field × Direction)) (p : Record → Bool)
    (records : List Record) :
    (arrange order records).filter p = arrange order (records.filter p) := by
  rcases order with _ | ⟨field, direction⟩
  · rfl
  · exact filter_mergeSort compareRecords_isLE_trans compareRecords_isLE_total p records

/-! ## Criteria together -/

section

variable {schema : Schema} {c d : Criteria} {compiled other : CompiledFilter}

/-- Two criteria taken together. Where both have the same name the second prevails. -/
def Criteria.union (c d : Criteria) : Criteria :=
  .ofList (c.toList ++ d.toList)

/-- Two criteria on different names compile together if each of them does, and a record passes them
    if it passes both. -/
theorem Criteria.exists_compile_union (hc : c.compile schema = .ok compiled)
    (hd : d.compile schema = .ok other) (hnames : c.keys.Disjoint d.keys) :
    ∃ both, (c.union d).compile schema = .ok both ∧
      ∀ r, both.accepts r = (compiled.accepts r && other.accepts r) := by
  have hkeys : ((c.toList ++ d.toList).map (·.1)).Nodup := by
    rw [List.map_append]
    exact c.nodup_keys.append d.nodup_keys hnames
  obtain ⟨both, hboth, haccepts⟩ := exists_compile_ofList hkeys
    (List.forall_mem_append.2 ⟨suits_of_compile hc, suits_of_compile hd⟩)
  refine ⟨both, hboth, fun r => ?_⟩
  rw [Bool.eq_iff_iff, Bool.and_eq_true, haccepts, List.forall_mem_append,
    accepts_iff_of_compile hc, accepts_iff_of_compile hd]

end

/-! ## Refined searches -/

namespace RecordSource

variable {source : RecordSource} {c d : Criteria} {compiled other : CompiledFilter}

/-- Criteria that pass what two others both pass leave of the result of one what passes the
    other. -/
theorem result_of_accepts {both : Criteria} {all : CompiledFilter}
    (hboth : both.compile source.schema = .ok all) (hc : c.compile source.schema = .ok compiled)
    (haccepts : ∀ r, all.accepts r = (compiled.accepts r && other.accepts r))
    (sort : Option SortSpec) : source.result (some both) sort =
      (source.result (some c) sort).map (·.filter other.accepts) := by
  have hfilter (records : List Record) : records.filter all.accepts =
      (records.filter compiled.accepts).filter other.accepts := by
    rw [List.filter_filter]
    exact List.filter_congr fun r _ => (haccepts r).trans (Bool.and_comm _ _)
  rw [result, result, compileFilter, compileFilter, hboth, hc, ok_bind, ok_bind]
  cases resolveSort source.schema sort with
  | error e => rfl
  | ok order =>
    cases source.scan with
    | error e => rfl
    | ok records =>
      refine congrArg Except.ok ?_
      rw [hfilter]
      exact (filter_arrange order other.accepts _).symm

/-- A count is the length of the result without a sort. -/
theorem count_eq_length_result (source : RecordSource) (filter : Option Criteria) :
    source.count filter = (source.result filter none).map List.length := by
  rw [count, result]
  cases compileFilter source.schema filter with
  | error e => rfl
  | ok compiled => cases source.scan <;> rfl

/-- A search by two criteria on different names finds what a search by the first one finds, less
    what does not pass the second, in the same order; and it is the same with the first and the
    second exchanged. A page of it is a page of what is left. It counts no more than the search by
    the first one, or fails as this does. -/
theorem result_union (hc : c.compile source.schema = .ok compiled)
    (hd : d.compile source.schema = .ok other) (hnames : c.keys.Disjoint d.keys) :
    (∃ both, (c.union d).compile source.schema = .ok both ∧
      ∀ r, both.accepts r = (compiled.accepts r && other.accepts r)) ∧
    (∀ sort,
      source.result (some (c.union d)) sort =
        (source.result (some c) sort).map (·.filter other.accepts) ∧
      source.result (some (c.union d)) sort =
        (source.result (some d) sort).map (·.filter compiled.accepts)) ∧
    (∀ sort request, source.query (some (c.union d)) sort request = do
      request.validate
      let all ← source.result (some c) sort
      return .slice (all.filter other.accepts) request) ∧
    SameOutcome (· ≤ ·) (source.count (some (c.union d))) (source.count (some c)) := by
  obtain ⟨both, hboth, haccepts⟩ := Criteria.exists_compile_union hc hd hnames
  have hfirst := result_of_accepts hboth hc haccepts
  have hsecond := result_of_accepts hboth hd fun r => (haccepts r).trans (Bool.and_comm _ _)
  refine ⟨⟨both, hboth, haccepts⟩, fun sort => ⟨hfirst sort, hsecond sort⟩, fun sort request => ?_,
    ?_⟩
  · rw [query, hfirst sort]
    cases source.result (some c) sort <;> rfl
  · rw [count_eq_length_result, count_eq_length_result, hfirst none]
    cases source.result (some c) none with
    | error e => exact .error e
    | ok all => exact .ok (List.length_filter_le _ _)

/-- Frames, some under the same number and some of the same price. -/
def frames : RecordSource where
  schema :=
    { entity := "Frame"
      identifier := "FrameID"
      attributes := [⟨"Color", .text⟩, ⟨"ListPrice", .decimal⟩]
      names_valid := by decide
      names_distinct := by decide }
  scan := .ok
    [.ofList (.integer 2) [("Color", .text "Red"), ("ListPrice", .decimal ⟨95000, 2⟩)],
      .ofList (.integer 2) [("Color", .text "Black"), ("ListPrice", .integer 950)],
      .ofList (.integer 2) [("Color", .text "Red"), ("ListPrice", .integer 950)],
      .ofList (.integer 1) [("Color", .text "Red"), ("ListPrice", .integer 500)]]

/-- Criteria on the color. -/
def isRed : Criteria :=
  .ofList [("Color", .equals (.text "Red"))]

/-- Criteria on the price. -/
def isDear : Criteria :=
  .ofList [("ListPrice", .atLeast (.integer 900))]

/-- The dear ones of the red frames, from the dearest on, and the red ones of the dear frames. -/
theorem redFrames_refined :
    isRed.keys.Disjoint isDear.keys ∧ ∃ red dear, isRed.compile frames.schema = .ok red ∧
      isDear.compile frames.schema = .ok dear ∧
      frames.result (some (isRed.union isDear)) (some ⟨"ListPrice", .descending⟩) =
        (frames.result (some isRed) (some ⟨"ListPrice", .descending⟩)).map (·.filter dear.accepts) ∧
      frames.result (some (isRed.union isDear)) (some ⟨"ListPrice", .descending⟩) =
        (frames.result (some isDear) (some ⟨"ListPrice", .descending⟩)).map (·.filter red.accepts) ∧
      SameOutcome (· ≤ ·) (frames.count (some (isRed.union isDear)))
        (frames.count (some isRed)) := by
  have hnames : isRed.keys.Disjoint isDear.keys := List.disjoint_singleton.2 (by decide)
  obtain ⟨-, hresult, -, hcount⟩ := @result_union frames isRed isDear _ _ rfl rfl hnames
  exact ⟨hnames, _, _, rfl, rfl, (hresult _).1, (hresult _).2, hcount⟩

end RecordSource

end PagedQuery
