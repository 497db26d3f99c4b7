import Mathlib
import PagedQuery.Proofs.Filtering
import PagedQuery.Proofs.Params.Language
import PagedQuery.Proofs.Reading

/-!
# Faults of parameters

Whatever is wrong with parameters is said in two ways: something is malformed, or an attribute is
not known. Nothing that is read or checked on the way from parameters to a query fails otherwise,
and once they are parsed only the name to sort by can still be at fault: the criteria compile,
since each predicate was read as one of its field.

* `Error.BlamesParameters`, `FailsOnParameters`: these errors, and computations without any other;
* `parse_failsOnParameters`: parsing fails in no other way;
* `exists_compile_of_parse`: the criteria that are parsed compile.
-/

namespace PagedQuery

variable {α β : Type}

/-- The errors that say that parameters make no sense. -/
inductive Error.BlamesParameters : Error → Prop
  | malformed (reason : String) : BlamesParameters (.invalidArgument reason)
  | unknown (entity name : String) : BlamesParameters (.unknownAttribute entity name)

/-- A computation that fails only because parameters make no sense. -/
def FailsOnParameters (x : Except Error α) : Prop :=
  ∀ e, x = .error e → e.BlamesParameters

namespace FailsOnParameters

theorem ok (a : α) : FailsOnParameters (.ok a) :=
  nofun

theorem error {e : Error} (h : e.BlamesParameters) :
    FailsOnParameters (.error e : Except Error α) := by
  rintro _ ⟨⟩
  exact h

theorem bind {x : Except Error α} {f : α → Except Error β} (hx : FailsOnParameters x)
    (hf : ∀ a, x = .ok a → FailsOnParameters (f a)) : FailsOnParameters (x >>= f) := by
  cases x with
  | error e => exact error (hx e rfl)
  | ok a => exact hf a rfl

theorem map {x : Except Error α} (hx : FailsOnParameters x) (f : α → β) :
    FailsOnParameters (x.map f) := by
  cases x with
  | error e => exact error (hx e rfl)
  | ok a => exact ok _

/-- A check that comes before something else. -/
theorem guarded {c : Prop} [Decidable c] {e : Error} {y : PUnit → Except Error α}
    {x : Except Error α} (he : e.BlamesParameters) (hx : FailsOnParameters x) :
    FailsOnParameters (if c then throw e >>= y else x) := by
  split
  · exact error he
  · exact hx

theorem foldlM {f : β → α → Except Error β} (hf : ∀ b a, FailsOnParameters (f b a)) (b : β)
    (l : List α) : FailsOnParameters (l.foldlM f b) := by
  induction l generalizing b with
  | nil => exact ok b
  | cons a l ih =>
    rw [List.foldlM_cons]
    exact (hf b a).bind fun c _ => ih c

end FailsOnParameters

open FailsOnParameters

/-! ## Pages and sorts -/

theorem PageRequest.validate_failsOnParameters (page : PageRequest) :
    FailsOnParameters page.validate := by
  rw [validate]
  split
  · exact error (.malformed _)
  · split
    · exact error (.malformed _)
    · exact ok _

theorem PageRequest.ofInt64_failsOnParameters (what : String) (n : Int64) :
    FailsOnParameters (ofInt64 what n) := by
  rw [ofInt64]
  split
  · exact ok _
  · exact error (.malformed _)

theorem Settings.pageRequest_failsOnParameters (settings : Settings) (number size : Option Int64) :
    FailsOnParameters (settings.pageRequest number size) :=
  (PageRequest.ofInt64_failsOnParameters _ _).bind fun _ _ =>
    (PageRequest.ofInt64_failsOnParameters _ _).bind fun _ _ =>
      (PageRequest.validate_failsOnParameters _).bind fun _ _ => ok _

theorem Schema.resolve_failsOnParameters (schema : Schema) (name : String) :
    FailsOnParameters (schema.resolve name) := by
  rw [resolve]
  split
  · exact ok _
  · split
    · exact ok _
    · exact error (.unknown _ _)

theorem resolveSort_failsOnParameters (schema : Schema) (sort : Option SortSpec) :
    FailsOnParameters (resolveSort schema sort) := by
  cases sort with
  | none => exact ok _
  | some sort =>
    exact FailsOnParameters.map ((schema.resolve_failsOnParameters _).bind fun _ _ => ok _) _

theorem Direction.parse_failsOnParameters (raw : String) : FailsOnParameters (parse raw) := by
  rw [parse]
  split
  · exact ok _
  · split
    · exact ok _
    · exact error (.malformed _)

/-! ## Parameters -/

namespace QueryParams

theorem parseNumber_failsOnParameters (key raw : String) :
    FailsOnParameters (parseNumber key raw) := by
  rw [parseNumber]
  split
  · exact ok _
  · exact error (.malformed _)

theorem parseValue_failsOnParameters (field : Field) (raw : String) :
    FailsOnParameters (parseValue field raw) := by
  rw [parseValue]
  split
  · rw [Value.parse]
    split
    · exact ok _
    · exact error (.malformed _)
  · exact ok _

theorem plainPredicate_failsOnParameters (field : Field) (raw : String) :
    FailsOnParameters (plainPredicate field raw) := by
  rw [plainPredicate]
  split
  · exact ok _
  · exact (parseValue_failsOnParameters field raw).map _

theorem readFilter_failsOnParameters (schema : Schema) (state : Draft) (key raw : String) :
    FailsOnParameters (readFilter schema state key raw) := by
  obtain ⟨⟨name, op⟩, hkey⟩ : ∃ parts, splitKey key = parts := ⟨_, rfl⟩
  rw [readFilter]
  simp only [hkey]
  refine (schema.resolve_failsOnParameters name).bind fun field _ => guarded (.malformed _) ?_
  cases op with
  | plain =>
    exact guarded (.malformed _) ((plainPredicate_failsOnParameters field raw).bind fun _ _ => ok _)
  | exactly | least | most =>
    exact guarded (.malformed _) ((parseValue_failsOnParameters field raw).bind fun _ _ => ok _)
  | unknown word => exact error (.malformed _)

theorem read_failsOnParameters (schema : Schema) (state : Draft) (p : String × String) :
    FailsOnParameters (read schema state p) := by
  unfold read
  split
  · exact (parseNumber_failsOnParameters _ _).bind fun _ _ => ok _
  · exact (parseNumber_failsOnParameters _ _).bind fun _ _ => ok _
  · exact ok _
  · exact (Direction.parse_failsOnParameters _).bind fun _ _ => ok _
  · exact readFilter_failsOnParameters _ _ _ _

theorem parse_failsOnParameters (schema : Schema) (settings : Settings)
    (params : List (String × String)) : FailsOnParameters (parse schema settings params) :=
  (FailsOnParameters.foldlM (read_failsOnParameters schema) _ _).bind fun _ _ =>
    (settings.pageRequest_failsOnParameters _ _).bind fun _ _ => ok _

/-! ## Parsed criteria -/

variable {schema : Schema} {settings : Settings} {params : List (String × String)}
  {query : QueryParams} {field : Field} {raw : String} {v : Value} {predicate : Predicate}

/-- The value that a text stands for in a field can be compared with the field. -/
theorem Denotes.accepts (h : Denotes field raw v) {kind : Kind} (hkind : v.kind? = some kind) :
    field.accepts kind = true := by
  cases h with
  | identifier =>
    cases hid : RecordId.parse raw <;>
    · rw [hid] at hkind
      cases hkind
      rfl
  | text _ ha =>
    cases hkind
    rw [Field.accepts, ha]
    rfl
  | value _ hv =>
    obtain rfl := Option.some.inj ((Value.kind?_of_parse? hv).symm.trans hkind)
    rw [Field.accepts, Kind.accepts, decide_eq_true rfl, Bool.true_or]

/-- So can the value at the end of a range that a text is given for. -/
theorem Given.IsEnd.accepts {given : List String} {bound : Bound} (h : IsEnd field given bound)
    (hv : bound.value? = some v) {kind : Kind} (hkind : v.kind? = some kind) :
    field.accepts kind = true := by
  cases h with
  | missing => cases hv
  | given hdenotes =>
    cases hv
    exact hdenotes.accepts hkind

/-- The predicate that is asked for suits its field. -/
theorem Given.Asks.check {g : Given} (h : g.Asks field (some predicate)) (name : String) :
    predicate.check name field = .ok () := by
  refine Predicate.check_eq_ok ?_ fun v hv kind hkind => ?_
  · rintro needle rfl
    cases h with
    | search htext =>
      rw [Field.isSearchable, htext]
      rfl
  · cases h with
    | search => cases hv
    | equals _ hdenotes | exactly hdenotes =>
      rw [List.mem_singleton.1 hv] at hkind
      exact hdenotes.accepts hkind
    | range _ hleast hmost =>
      obtain ⟨bound, hbound, hvalue⟩ := List.mem_filterMap.1 hv
      rw [List.mem_pair] at hbound
      obtain rfl | rfl := hbound
      · exact hleast.accepts hvalue hkind
      · exact hmost.accepts hvalue hkind

/-- Criteria that are parsed compile against the schema that they were parsed against. -/
theorem exists_compile_of_parse (h : parse schema settings params = .ok query) :
    ∃ compiled, query.filter.compile schema = .ok compiled := by
  have hmeans := means_of_parse h
  have hsuits : ∀ name predicate, query.filter.get? name = some predicate →
      ∃ field, schema.resolve name = .ok field ∧ predicate.check name field = .ok () := by
    intro name predicate hname
    by_cases hdeclared : ∃ field, schema.resolve name = .ok field
    · obtain ⟨field, hfield⟩ := hdeclared
      have hasks := hmeans.filter name field hfield
      rw [hname] at hasks
      exact ⟨field, hfield, hasks.check name⟩
    · rw [hmeans.undeclared name hdeclared] at hname
      cases hname
  obtain ⟨compiled, hcompiled, -⟩ := Criteria.exists_compile hsuits
  exact ⟨compiled, hcompiled⟩

end QueryParams

end PagedQuery
