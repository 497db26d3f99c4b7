import Mathlib
import PagedQuery.Proofs.Blindness

/-!
# Records that no query tells apart

Two records agree if they have the same identifier and, leaving nulls aside, the same attributes
with agreeing values; two values agree if they are of one kind and compare equal. A filter reads a
record only through the values that are not null, and a sort only compares them, so agreement goes
through both.

* `Value.Agrees`, `Record.Agrees`, `RecordSource.Agrees`, `Page.Agrees`: agreement;
* `RecordSource.Agrees.query`, `RecordSource.Agrees.count`: sources that agree answer every query
  alike.

That the kinds are the same is more than that the values compare equal. It is needed where a filter
looks into a value for a text: it finds one in an integer, but none in the decimal that equals it.
-/

namespace PagedQuery

/-! ## Values -/

namespace Value

/-- Two values of one kind that compare equal. Only the scale of a decimal can tell them apart. -/
structure Agrees (v w : Value) : Prop where
  kind : v.kind? = w.kind?
  compare : Ord.compare v w = .eq

theorem Agrees.refl (v : Value) : v.Agrees v :=
  ⟨rfl, Std.ReflCmp.compare_self⟩

theorem kind?_eq_none_iff {v : Value} : v.kind? = none ↔ v.isNull = true := by
  cases v <;> simp [kind?, isNull]

theorem Agrees.isNull {v w : Value} (h : v.Agrees w) : v.isNull = w.isNull := by
  rw [Bool.eq_iff_iff, ← kind?_eq_none_iff, ← kind?_eq_none_iff, h.kind]

end Value

theorem Matcher.accepts_congr {v w : Value} (h : v.Agrees w) (matcher : Matcher) :
    matcher.accepts v = matcher.accepts w := by
  cases matcher with
  | equals expected | range lower upper => exact accepts_congr_of_compare h.compare nofun
  | contains needle =>
    -- Only texts and integers are looked into, and of these two that compare equal are the same.
    obtain ⟨hkind, hcompare⟩ := h
    cases v <;> cases w <;> cases hkind
    case integer.integer.refl m n =>
      have heq : m = n := Std.LawfulEqOrd.eq_of_compare hcompare
      rw [heq]
    case text.text.refl s t =>
      have heq : s = t := Std.LawfulEqOrd.eq_of_compare hcompare
      rw [heq]
    all_goals rfl

/-! ## Records -/

namespace Record

/-- The attributes of a record that are not null. -/
def present (r : Record) : List (String × Value) :=
  r.attributes.toList.filter fun binding => !binding.2.isNull

theorem present_pairwise (r : Record) : r.present.Pairwise (·.1 < ·.1) :=
  r.attributes.sorted.sublist List.filter_sublist

/-- Two records with the same identifier and, leaving nulls aside, the same attributes with agreeing
    values. -/
structure Agrees (r s : Record) : Prop where
  id : r.id = s.id
  present : List.Forall₂ (fun b c => b.1 = c.1 ∧ b.2.Agrees c.2) r.present s.present

theorem Agrees.refl (r : Record) : r.Agrees r :=
  ⟨rfl, List.forall₂_same.2 fun b _ => ⟨rfl, .refl b.2⟩⟩

/-- In a list without repeated names, looking a name up and leaving bindings out can be done in
    either order. -/
theorem lookup_filter {p : Value → Bool} {l : List (String × Value)} (h : l.Pairwise (·.1 < ·.1))
    (name : String) : (l.filter fun b => p b.2).lookup name = (l.lookup name).filter p := by
  induction l with
  | nil => rfl
  | cons b l ih =>
    obtain ⟨n, v⟩ := b
    rw [List.pairwise_cons] at h
    cases hname : name == n with
    | false =>
      rw [List.lookup_cons, hname, ← ih h.2, List.filter_cons]
      split
      · rw [List.lookup_cons, hname]
      · rfl
    | true =>
      -- The name is not bound a second time, so leaving its binding out leaves it unbound.
      have hnone : l.lookup name = none := by
        rw [List.lookup_eq_none_iff]
        intro b hb
        rw [bne_iff_ne, beq_iff_eq.1 hname]
        exact ne_of_lt (h.1 b hb)
      rw [List.lookup_cons, hname, List.filter_cons]
      split
      · next hv => rw [List.lookup_cons, hname, Option.filter_some, if_pos hv]
      · next hv => rw [ih h.2, hnone, Option.filter_some, if_neg hv, Option.filter_none]

theorem value?_eq (r : Record) (name : String) : r.value? name = r.present.lookup name :=
  (lookup_filter r.attributes.sorted name).symm

theorem rel_lookup {l m : List (String × Value)}
    (h : List.Forall₂ (fun b c => b.1 = c.1 ∧ b.2.Agrees c.2) l m) (name : String) :
    Option.Rel Value.Agrees (l.lookup name) (m.lookup name) := by
  induction h with
  | nil => exact .none
  | @cons b c l m hbc _ ih =>
    obtain ⟨n, v⟩ := b
    obtain ⟨_, w⟩ := c
    obtain ⟨rfl, hvw⟩ := hbc
    rw [List.lookup_cons, List.lookup_cons]
    cases name == n with
    | true => exact .some hvw
    | false => exact ih

theorem Agrees.field? {r s : Record} (h : r.Agrees s) (field : Field) :
    Option.Rel Value.Agrees (r.field? field) (s.field? field) := by
  cases field with
  | identifier =>
    rw [Record.field?, Record.field?, h.id]
    exact .some (.refl _)
  | declared a =>
    rw [Record.field?, Record.field?, value?_eq, value?_eq]
    exact rel_lookup h.present a.name

end Record

theorem Matcher.any_accepts_congr {x y : Option Value} (h : Option.Rel Value.Agrees x y)
    (matcher : Matcher) : x.any matcher.accepts = y.any matcher.accepts := by
  cases h with
  | none => rfl
  | some hvw => exact matcher.accepts_congr hvw

theorem Clause.accepts_congr {r s : Record} (h : r.Agrees s) (clause : Clause) :
    clause.accepts r = clause.accepts s :=
  clause.matcher.any_accepts_congr (h.field? clause.field)

theorem Value.compare_eq_of_rel {x y : Option Value} (h : Option.Rel Value.Agrees x y) :
    Ord.compare x y = .eq := by
  cases h with
  | none => rfl
  | some hvw => exact hvw.compare

/-- Every schema is blind to the difference between records that agree. -/
theorem Schema.blindTo_agrees (schema : Schema) : schema.BlindTo Record.Agrees where
  id h := h.id
  clause _ _ _ h := Clause.accepts_congr h _
  key _ _ _ h := Value.compare_eq_of_rel (h.field? _)

/-! ## Lists of records -/

variable {records others : List Record}

theorem map_id_eq_of_agrees (h : List.Forall₂ Record.Agrees records others) :
    others.map (·.id) = records.map (·.id) :=
  (map_id_eq h Record.Agrees.id).symm

/-! ## Queries -/

/-- Two pages with the same numbers and agreeing records. -/
structure Page.Agrees (page other : Page Record) : Prop where
  items : List.Forall₂ Record.Agrees page.items other.items
  number : page.number = other.number
  size : page.size = other.size
  totalRecords : page.totalRecords = other.totalRecords
  totalPages : page.totalPages = other.totalPages

theorem Page.slice_agrees (h : List.Forall₂ Record.Agrees records others) (request : PageRequest) :
    (Page.slice records request).Agrees (Page.slice others request) where
  items := List.forall₂_take _ (List.forall₂_drop _ h)
  number := rfl
  size := rfl
  totalRecords := h.length_eq
  totalPages := congrArg (Page.pagesFor · request.size.toNat) h.length_eq

/-- Two sources with the same schema whose records agree one by one, or that fail alike. -/
structure RecordSource.Agrees (source other : RecordSource) : Prop where
  schema : source.schema = other.schema
  scan : SameOutcome (List.Forall₂ Record.Agrees) source.scan other.scan

namespace RecordSource.Agrees

variable {source other : RecordSource}

theorem result (h : source.Agrees other) (filter : Option Criteria) (sort : Option SortSpec) :
    SameOutcome (List.Forall₂ Record.Agrees) (source.result filter sort)
      (other.result filter sort) :=
  source.schema.blindTo_agrees.result h.schema h.scan filter sort

/-- Sources that agree answer every query alike. -/
theorem query (h : source.Agrees other) (filter : Option Criteria) (sort : Option SortSpec)
    (page : PageRequest) :
    SameOutcome Page.Agrees (source.query filter sort page) (other.query filter sort page) := by
  refine .bind (.of_eq page.validate) fun _ _ _ => ?_
  exact .bind (h.result filter sort) fun _ _ hall => .ok (Page.slice_agrees hall page)

/-- Sources that agree answer with pages of the same identifiers. -/
theorem query_ids (h : source.Agrees other) (filter : Option Criteria) (sort : Option SortSpec)
    (request : PageRequest) : (source.query filter sort request).map (Page.map Record.id) =
      (other.query filter sort request).map (Page.map Record.id) :=
  source.schema.blindTo_agrees.query_ids h.schema h.scan filter sort request

/-- Sources that agree count alike. -/
theorem count (h : source.Agrees other) (filter : Option Criteria) :
    source.count filter = other.count filter :=
  source.schema.blindTo_agrees.count h.schema h.scan filter

end RecordSource.Agrees

end PagedQuery
