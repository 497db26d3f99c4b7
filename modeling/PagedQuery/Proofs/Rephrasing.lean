import Mathlib
import PagedQuery.Proofs.Filtering

/-!
# Asking the same in other words

Predicates ask the same under a name if they compile to clauses that the same records pass, or fail
to compile for the same reason. Criteria are compiled clause by clause, so predicates in them can be
replaced by others that ask the same, and no query tells the difference.

* `Predicate.AskSame`, `Criteria.AskSame`: predicates and criteria that ask the same;
* `Criteria.askSame_insert`: one predicate replaced by another one;
* `Criteria.AskSame.compile`, `Criteria.AskSame.query_eq`, `Criteria.AskSame.count_eq`: criteria
  that ask the same cannot be told apart;
* `Criteria.only`, `Criteria.compile_only`: criteria of one predicate.
-/

namespace PagedQuery

variable {schema : Schema} {name : String} {field : Field} {p q : Predicate} {c d : Criteria}
  {lower upper : Bound}

/-- Two filters that the same records pass. -/
def CompiledFilter.PassSame (filter other : CompiledFilter) : Prop :=
  ∀ r, filter.accepts r = other.accepts r

/-! ## Predicates -/

namespace Predicate

/-- Two predicates that, under a name, either compile to clauses that the same records pass, or fail
    to compile with the same error. -/
def AskSame (schema : Schema) (name : String) (p q : Predicate) : Prop :=
  SameOutcome (fun clause other : Clause => ∀ r, clause.accepts r = other.accepts r)
    (p.compile schema name) (q.compile schema name)

theorem AskSame.refl (schema : Schema) (name : String) (p : Predicate) : AskSame schema name p p :=
  (SameOutcome.of_eq _).imp fun _ _ heq _ => heq ▸ rfl

/-- Under a name that means a field only the checks and the tests of this field matter. -/
theorem askSame_of_resolve (hfield : schema.resolve name = .ok field)
    (hcheck : p.check name field = q.check name field)
    (haccepts : p.check name field = .ok () → ∀ v, p.matcher.accepts v = q.matcher.accepts v) :
    AskSame schema name p q := by
  rw [AskSame, compile, compile, hfield, ok_bind, ok_bind, ← hcheck]
  refine .bind_self fun _ hok => .ok fun r => ?_
  rw [Clause.accepts, Clause.accepts, funext (haccepts hok)]

theorem literals_range (lower upper : Bound) :
    (range lower upper).literals =
      (range lower .unbounded).literals ++ (range .unbounded upper).literals := by
  cases lower <;> cases upper <;> rfl

/-- A range is checked from its lower bound to its upper bound. -/
theorem check_range (name : String) (field : Field) (lower upper : Bound) :
    (range lower upper).check name field = ((range lower .unbounded).check name field >>= fun _ =>
      (range .unbounded upper).check name field) := by
  simp only [check, literals_range lower upper, List.filterMap_append, List.find?_append]
  cases ((range lower .unbounded).literals.filterMap Value.kind?).find? (!field.accepts ·) <;> rfl

end Predicate

/-! ## Criteria -/

theorem NameMap.forall₂_insert {α : Type} {R : String × α → String × α → Prop} (hrefl : ∀ b, R b b)
    {v w : α} (h : R (name, v) (name, w)) (m : NameMap α) :
    List.Forall₂ R (m.insert name v).toList (m.insert name w).toList := by
  obtain ⟨l, hl⟩ := m
  show List.Forall₂ R (insertSorted name v l) (insertSorted name w l)
  clear hl
  have hsame : ∀ l : List (String × α), List.Forall₂ R l l := fun l =>
    List.forall₂_same.2 fun b _ => hrefl b
  induction l with
  | nil => exact .cons h .nil
  | cons b l ih =>
    simp only [insertSorted]
    split
    · exact .cons h (hsame _)
    · split
      · exact .cons h (hsame _)
      · exact .cons (hrefl b) ih

namespace Criteria

/-- Two criteria on the same names, which ask the same under each of them. -/
def AskSame (schema : Schema) (c d : Criteria) : Prop :=
  List.Forall₂ (fun b b' => b.1 = b'.1 ∧ Predicate.AskSame schema b.1 b.2 b'.2) c.toList d.toList

/-- A predicate can be replaced by one that asks the same, whatever else is asked. -/
theorem askSame_insert (h : Predicate.AskSame schema name p q) (c : Criteria) :
    AskSame schema (c.insert name p) (c.insert name q) :=
  NameMap.forall₂_insert (fun b => ⟨rfl, .refl schema b.1 b.2⟩) ⟨rfl, h⟩ c

/-- Criteria that ask the same compile to filters that the same records pass, or fail alike. -/
theorem AskSame.compile (h : AskSame schema c d) :
    SameOutcome CompiledFilter.PassSame (c.compile schema) (d.compile schema) := by
  have hclauses : SameOutcome (List.Forall₂ fun clause other : Clause =>
      ∀ r, clause.accepts r = other.accepts r) (c.compile schema) (d.compile schema) := by
    refine SameOutcome.mapM (h.imp fun b b' hb => ?_)
    obtain ⟨_, p⟩ := b
    obtain ⟨_, q⟩ := b'
    obtain ⟨rfl, hpq⟩ := hb
    exact hpq
  refine hclauses.imp fun filter other hall r => ?_
  rw [CompiledFilter.accepts, CompiledFilter.accepts]
  induction hall with
  | nil => rfl
  | cons hclause _ ih => rw [List.all_cons, List.all_cons, hclause, ih]

section

variable {source : RecordSource}

theorem AskSame.result_eq (h : AskSame source.schema c d) (sort : Option SortSpec) :
    source.result (some c) sort = source.result (some d) sort := by
  refine SameOutcome.eq (h.compile.bind fun filter other hpass => ?_)
  have haccepts : filter.accepts = other.accepts := funext hpass
  rw [haccepts]
  exact .of_eq _

/-- Criteria that ask the same have every query answered with the same page, or the same error. -/
theorem AskSame.query_eq (h : AskSame source.schema c d) (sort : Option SortSpec)
    (request : PageRequest) :
    source.query (some c) sort request = source.query (some d) sort request := by
  rw [RecordSource.query, RecordSource.query, h.result_eq]

theorem AskSame.count_eq (h : AskSame source.schema c d) :
    source.count (some c) = source.count (some d) := by
  refine SameOutcome.eq (h.compile.bind fun filter other hpass => ?_)
  have haccepts : filter.accepts = other.accepts := funext hpass
  rw [haccepts]
  exact .of_eq _

end

/-- Criteria of one predicate. -/
def only (name : String) (p : Predicate) : Criteria :=
  .ofList [(name, p)]

theorem compile_only (schema : Schema) (name : String) (p : Predicate) :
    (only name p).compile schema = (p.compile schema name).map fun clause => [clause] := by
  show [(name, p)].mapM (fun b => b.2.compile schema b.1) = _
  rw [List.mapM_cons]
  cases p.compile schema name <;> rfl

end Criteria

end PagedQuery
