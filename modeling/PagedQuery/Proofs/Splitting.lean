import Mathlib
import PagedQuery.Proofs.Rephrasing
import PagedQuery.Proofs.Value.Order

/-!
# Ranges and equality

A value other than null splits the records that have something in a field: what they have there is
less than the value, equal to it, or greater, and never two of these. Equality is the range from the
value to itself, and a range is what its two halves have in common. All of this is said by one
comparison, of the field with a bound, which never has more than one outcome.

* `Field.takes`: the values that a field can be compared with;
* `countP_split`, `accepts_between`, `accepts_range`: the predicates on a value of the field;
* `ranges_and_equality_split`: the main result.
-/

namespace PagedQuery

variable {schema : Schema} {name : String} {field : Field} {p : Predicate} {v x : Value}
  {lower upper : Bound} {r : Record}

/-- Whether a value can be compared with a field: it is null, or of a kind that the field
    accepts. -/
def Field.takes (field : Field) (v : Value) : Bool :=
  v.kind?.all field.accepts

/-! ## What is compared -/

/-- Of the values below, equal to and above a value that is not null, each is one. -/
theorem countP_split (hv : v ≠ .null) (x : Value) :
    [Predicate.range .unbounded (.exclusive v), .equals v, .range (.exclusive v) .unbounded].countP
      (·.matcher.accepts x) = 1 := by
  have hnull : v.isNull = false := by
    cases v with
    | null => exact absurd rfl hv
    | _ => rfl
  simp only [List.countP_cons, List.countP_nil, Predicate.matcher, Matcher.accepts,
    Bound.admitsAbove, Bound.admitsBelow, hnull]
  cases compare x v <;> rfl

/-- A value lies between a bound and itself if it equals the bound. -/
theorem accepts_between (v x : Value) :
    (Predicate.between v v).matcher.accepts x = (Predicate.equals v).matcher.accepts x := by
  show (!v.isNull && (compare x v).isGE && (!v.isNull && (compare x v).isLE)) =
    (!v.isNull && (compare x v).isEq)
  cases v.isNull <;> cases compare x v <;> rfl

/-- Nothing equals null. -/
theorem accepts_equals_null (x : Value) : (Predicate.equals .null).matcher.accepts x = false := rfl

/-- A range is what its halves have in common. -/
theorem accepts_range (lower upper : Bound) (x : Value) :
    (Predicate.range lower upper).matcher.accepts x =
      ((Predicate.range lower .unbounded).matcher.accepts x &&
        (Predicate.range .unbounded upper).matcher.accepts x) := by
  show (lower.admitsAbove x && upper.admitsBelow x) =
    (lower.admitsAbove x && true && (true && upper.admitsBelow x))
  rw [Bool.and_true, Bool.true_and]

/-- Nothing lies between two values of which the first is greater. -/
theorem accepts_between_of_gt {v w : Value} (h : compare v w = .gt) (x : Value) :
    (Predicate.between v w).matcher.accepts x = false := by
  rw [Bool.eq_false_iff]
  intro hx
  obtain ⟨hlower, hupper⟩ := Bool.and_eq_true_iff.1 hx
  have hvx : (compare v x).isLE := Std.OrientedCmp.isGE_iff_isLE.1 (Bool.and_eq_true_iff.1 hlower).2
  have hxw : (compare x w).isLE := (Bool.and_eq_true_iff.1 hupper).2
  have hvw := Std.TransOrd.isLE_trans hvx hxw
  rw [h] at hvw
  cases hvw

/-! ## Criteria -/

/-- Predicates that compare a field with values that it takes compile. -/
theorem compile_only_eq_ok (hfield : schema.resolve name = .ok field)
    (hp : ∀ needle, p ≠ .contains needle) (htakes : ∀ v ∈ p.literals, field.takes v = true) :
    (Criteria.only name p).compile schema = .ok [⟨field, p.matcher⟩] := by
  have hcheck : p.check name field = .ok () :=
    Predicate.check_eq_ok (fun needle h => absurd h (hp needle)) fun v hv =>
      Option.all_eq_true _ _ |>.1 (htakes v hv)
  rw [Criteria.compile_only, Predicate.compile_eq_ok hfield hcheck]
  rfl

/-- A clause passes if there is something in the field, and it passes. -/
theorem accepts_clause (field : Field) (p : Predicate) (r : Record) :
    CompiledFilter.accepts [⟨field, p.matcher⟩] r = (r.field? field).any p.matcher.accepts :=
  CompiledFilter.accepts_single _ _

/-- How many of some predicates on a field a record passes: none, if it has nothing there. -/
theorem countP_clauses (predicates : List Predicate) (field : Field) (r : Record) :
    (predicates.map fun p => [⟨field, p.matcher⟩]).countP (CompiledFilter.accepts · r) =
      (r.field? field).elim 0 fun x => predicates.countP (·.matcher.accepts x) := by
  rw [List.countP_map]
  show predicates.countP (fun p => CompiledFilter.accepts [⟨field, p.matcher⟩] r) = _
  simp only [accepts_clause]
  cases r.field? field with
  | none => exact List.countP_eq_zero.2 fun _ _ => Bool.false_ne_true
  | some x => rfl

/-- To equal a value and to lie between it and itself is the same to ask. -/
theorem askSame_between (hfield : schema.resolve name = .ok field) (v : Value) :
    Predicate.AskSame schema name (.equals v) (.between v v) := by
  have hcheck : (Predicate.equals v).check name field =
      (Predicate.between v v).check name field := by
    -- Each half of the range is checked as the equality is.
    rw [Predicate.between, Predicate.check_range]
    show _ = ((Predicate.equals v).check name field >>= fun _ =>
      (Predicate.equals v).check name field)
    cases (Predicate.equals v).check name field <;> rfl
  exact Predicate.askSame_of_resolve hfield hcheck fun _ x => (accepts_between v x).symm

/-- A range compiles if both of its halves do, and then passes what they both pass. -/
theorem sameOutcome_range (hfield : schema.resolve name = .ok field) (lower upper : Bound) :
    SameOutcome (fun range halves => ∀ r, range.accepts r =
        (halves.1.accepts r && halves.2.accepts r))
      ((Criteria.only name (.range lower upper)).compile schema)
      (do
        let above ← (Criteria.only name (.range lower .unbounded)).compile schema
        let below ← (Criteria.only name (.range .unbounded upper)).compile schema
        return (above, below)) := by
  simp only [Criteria.compile_only, Predicate.compile, hfield, ok_bind]
  rw [Predicate.check_range name field lower upper]
  cases (Predicate.range lower .unbounded).check name field with
  | error e => exact .error e
  | ok =>
    cases (Predicate.range .unbounded upper).check name field with
    | error e => exact .error e
    | ok =>
      refine .ok fun r => ?_
      rw [accepts_clause, accepts_clause, accepts_clause]
      cases r.field? field with
      | none => rfl
      | some x => exact accepts_range lower upper x

/-- What a field holds is split by every value that can be compared with it, other than null: a
    record that has something there passes one of the criteria that ask for what is below, equal and
    above, and no other record passes any. To equal a value and to lie between it and itself is the
    same, in every query and even for null, which nothing equals. A range passes what both of its
    halves pass, and nothing if it ends below its beginning. -/
theorem ranges_and_equality_split {source : RecordSource}
    (hfield : source.schema.resolve name = .ok field) :
    (∀ v, field.takes v = true → v ≠ .null → ∃ below equal above,
      (Criteria.only name (.range .unbounded (.exclusive v))).compile source.schema = .ok below ∧
      (Criteria.only name (.equals v)).compile source.schema = .ok equal ∧
      (Criteria.only name (.range (.exclusive v) .unbounded)).compile source.schema = .ok above ∧
      ∀ r : Record, [below, equal, above].countP (·.accepts r) =
        if (r.field? field).isSome then 1 else 0) ∧
    (∀ v, field.takes v = true → ∃ equal between,
      (Criteria.only name (.equals v)).compile source.schema = .ok equal ∧
      (Criteria.only name (.between v v)).compile source.schema = .ok between ∧
      ∀ r, between.accepts r = equal.accepts r ∧ (v = .null → equal.accepts r = false)) ∧
    (∀ (c : Criteria) v sort request,
      source.query (some (c.insert name (.equals v))) sort request =
        source.query (some (c.insert name (.between v v))) sort request) ∧
    (∀ lower upper,
      SameOutcome (fun range halves => ∀ r, range.accepts r =
          (halves.1.accepts r && halves.2.accepts r))
        ((Criteria.only name (.range lower upper)).compile source.schema)
        (do
          let above ← (Criteria.only name (.range lower .unbounded)).compile source.schema
          let below ← (Criteria.only name (.range .unbounded upper)).compile source.schema
          return (above, below))) ∧
    ∀ lower upper, (∀ v ∈ (Predicate.range lower upper).literals, field.takes v = true) →
      ∃ range, (Criteria.only name (.range lower upper)).compile source.schema = .ok range ∧
        ∀ v w, lower = .inclusive v → upper = .inclusive w → compare v w = .gt →
          ∀ r, range.accepts r = false := by
  refine ⟨fun v htakes hv => ?_, fun v htakes => ?_, fun c v sort request => ?_,
    fun lower upper => sameOutcome_range hfield lower upper, fun lower upper htakes => ?_⟩
  · have hliteral : ∀ w ∈ [v], field.takes w = true := List.forall_mem_singleton.2 htakes
    refine ⟨_, _, _, compile_only_eq_ok hfield nofun hliteral,
      compile_only_eq_ok hfield nofun hliteral, compile_only_eq_ok hfield nofun hliteral,
      fun r => ?_⟩
    refine (countP_clauses [_, _, _] field r).trans ?_
    cases r.field? field with
    | none => rfl
    | some x => exact countP_split hv x
  · have hliteral : ∀ w ∈ [v], field.takes w = true := List.forall_mem_singleton.2 htakes
    have hliterals : ∀ w ∈ [v, v], field.takes w = true :=
      List.forall_mem_cons.2 ⟨htakes, hliteral⟩
    refine ⟨_, _, compile_only_eq_ok hfield nofun hliteral,
      compile_only_eq_ok hfield nofun hliterals, fun r => ⟨?_, ?_⟩⟩
    · rw [accepts_clause, accepts_clause, funext (accepts_between v)]
    · rintro rfl
      rw [accepts_clause, funext accepts_equals_null, Option.any_false]
  · exact (Criteria.askSame_insert (askSame_between hfield v) c).query_eq sort request
  · refine ⟨_, compile_only_eq_ok hfield nofun htakes, ?_⟩
    rintro v w rfl rfl hgt r
    have hnone : (Predicate.range (.inclusive v) (.inclusive w)).matcher.accepts = fun _ => false :=
      funext (accepts_between_of_gt hgt)
    rw [accepts_clause, hnone, Option.any_false]

/-- Parts, which have weights. -/
def parts : RecordSource where
  schema :=
    { entity := "Part"
      identifier := "PartID"
      attributes := [⟨"Weight", .decimal⟩]
      names_valid := by decide
      names_distinct := by decide }
  scan := .ok
    [.ofList (.integer 1) [("Weight", .decimal ⟨400, 2⟩)], .ofList (.integer 2) [],
      .ofList (.integer 3) [("Weight", .decimal ⟨39, 1⟩)]]

/-- The parts are split by the integer 4, and none weighs at least 4.01 and at most 4. -/
theorem parts_split : (∃ below equal above,
      (Criteria.only "Weight" (.range .unbounded (.exclusive (.integer 4)))).compile parts.schema =
        .ok below ∧
      (Criteria.only "Weight" (.equals (.integer 4))).compile parts.schema = .ok equal ∧
      (Criteria.only "Weight" (.range (.exclusive (.integer 4)) .unbounded)).compile parts.schema =
        .ok above ∧
      ∀ r : Record, [below, equal, above].countP (·.accepts r) =
        if (r.field? (.declared ⟨"Weight", .decimal⟩)).isSome then 1 else 0) ∧
    ∃ none, (Criteria.only "Weight" (.between (.decimal ⟨401, 2⟩) (.integer 4))).compile
        parts.schema = .ok none ∧ ∀ r, none.accepts r = false := by
  have hfield : parts.schema.resolve "Weight" = .ok (.declared ⟨"Weight", .decimal⟩) := rfl
  obtain ⟨hsplit, -, -, -, hrange⟩ := ranges_and_equality_split hfield
  obtain ⟨none, hnone, hempty⟩ := hrange (.inclusive (.decimal ⟨401, 2⟩)) (.inclusive (.integer 4))
    (by decide)
  exact ⟨hsplit (.integer 4) rfl nofun, none, hnone, hempty _ _ rfl rfl rfl⟩

end PagedQuery
