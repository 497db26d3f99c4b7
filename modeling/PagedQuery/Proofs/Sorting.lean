import Mathlib
import PagedQuery.Proofs.Value.Order
import PagedQuery.Source

/-!
# Sorted records

The comparison of records that a sort goes by is total and transitive, so a sort results in a list
that is in order, has the same records, and keeps the order of those that compare equal.

* `eq_of_perm_of_ordered`: two lists in order with the same records are one list, if none but equal
  records compare equal;
* `IsListing`: what the whole answer to a query is, before a page is taken of it;
* `isListing_arrange`: the records that pass a filter, once arranged, are this answer.
-/

namespace PagedQuery

/-- Records compared by a field alone, in a direction. -/
abbrev compareKeys (field : Field) (direction : Direction) (a b : Record) : Ordering :=
  direction.apply (compare (a.field? field) (b.field? field))

instance (field : Field) (direction : Direction) : Std.TransCmp (compareKeys field direction) := by
  cases direction with
  | ascending => exact inferInstanceAs (Std.TransCmp (compareOn (Record.field? · field)))
  | descending =>
    have hswap : compareKeys field .descending =
        fun a b => compareOn (Record.field? · field) b a := by
      funext a b
      exact (Std.OrientedOrd.eq_swap (a := b.field? field)).symm
    rw [hswap]
    infer_instance

instance (field : Field) (direction : Direction) : Std.TransCmp (compareRecords field direction) :=
  inferInstanceAs (Std.TransCmp (compareLex (compareKeys field direction) (compareOn Record.id)))

variable {field : Field} {direction : Direction} {records all : List Record}

theorem sortRecords_perm (field : Field) (direction : Direction) (records : List Record) :
    (sortRecords field direction records).Perm records :=
  List.mergeSort_perm _ _

theorem length_arrange (order : Option (Field × Direction)) (records : List Record) :
    (arrange order records).length = records.length := by
  rcases order with _ | ⟨field, direction⟩
  · rfl
  · exact (sortRecords_perm field direction records).length_eq

theorem compareRecords_isLE_trans (a b c : Record) (hab : (compareRecords field direction a b).isLE)
    (hbc : (compareRecords field direction b c).isLE) :
    (compareRecords field direction a c).isLE :=
  Std.TransCmp.isLE_trans hab hbc

theorem compareRecords_isLE_total (a b : Record) :
    ((compareRecords field direction a b).isLE || (compareRecords field direction b a).isLE) := by
  have hswap : compareRecords field direction b a = (compareRecords field direction a b).swap :=
    Std.OrientedCmp.eq_swap
  rw [hswap]
  cases compareRecords field direction a b <;> rfl

theorem sortRecords_pairwise (field : Field) (direction : Direction) (records : List Record) :
    (sortRecords field direction records).Pairwise
      fun a b => (compareRecords field direction a b).isLE :=
  List.pairwise_mergeSort compareRecords_isLE_trans compareRecords_isLE_total records

/-- Two lists in order that have the same records are one list, if none but equal records compare
    equal. -/
theorem eq_of_perm_of_ordered {l m : List Record}
    (hl : l.Pairwise fun a b => (compareRecords field direction a b).isLE)
    (hm : m.Pairwise fun a b => (compareRecords field direction a b).isLE) (h : l.Perm m)
    (heq : ∀ a ∈ l, ∀ b ∈ l, compareRecords field direction a b = .eq → a = b) : l = m := by
  refine h.eq_of_pairwise (fun a b ha hb hab hba => ?_) hl hm
  exact heq a ha b (h.mem_iff.2 hb) (Std.OrientedCmp.isLE_antisymm hab hba)

/-- Records that are in order already keep their order in a sort. -/
theorem sublist_sortRecords {sub : List Record}
    (hsub : sub.Pairwise fun a b => (compareRecords field direction a b).isLE)
    (h : sub.Sublist records) : sub.Sublist (sortRecords field direction records) :=
  List.sublist_mergeSort compareRecords_isLE_trans compareRecords_isLE_total hsub h

/-- The list `all` has the records that pass a filter, each as often as it occurs among `records`.
    They are in the order of the sort, those that compare equal as in `records`; without a sort they
    are all as in `records`. -/
structure IsListing (filter : CompiledFilter) (order : Option (Field × Direction))
    (records all : List Record) : Prop where
  perm : all.Perm (records.filter filter.accepts)
  unsorted : order = none → all = records.filter filter.accepts
  sorted : ∀ field direction, order = some (field, direction) →
    all.Pairwise fun a b => (compareRecords field direction a b).isLE
  stable : ∀ field direction, order = some (field, direction) →
    ∀ a b, compareRecords field direction a b = .eq →
      [a, b].Sublist (records.filter filter.accepts) → [a, b].Sublist all

theorem isListing_arrange (filter : CompiledFilter) (order : Option (Field × Direction))
    (records : List Record) :
    IsListing filter order records (arrange order (records.filter filter.accepts)) := by
  cases order with
  | none => exact ⟨.rfl, fun _ => rfl, nofun, nofun⟩
  | some order =>
    obtain ⟨field, direction⟩ := order
    refine ⟨sortRecords_perm _ _ _, nofun, ?_, ?_⟩
    · rintro _ _ ⟨⟩
      exact sortRecords_pairwise _ _ _
    · rintro _ _ ⟨⟩ a b hab hsub
      exact sublist_sortRecords (by simp [hab]) hsub

end PagedQuery
