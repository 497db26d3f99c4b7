import Mathlib
import PagedQuery.Proofs.Agreement
import PagedQuery.Proofs.Checking
import PagedQuery.Proofs.Filtering

/-!
# Well-typed criteria

A schema types criteria: a name has to mean the identifier or an attribute, a text is looked for
only in texts, and a field is compared only with values whose kind goes with its own. Compiling
decides exactly this (`Predicate.Fits`), and of several predicates that do not fit it reports the
first one by name (`Predicate.Fault`).

What the types are for is that values are compared by what they hold. All values stand in one order,
in which those of kinds that do not go together are told apart by the places of their kinds, so an
ill-typed comparison has a result just the same, and nobody would notice it. `Clause.test?` is the
test that has no such results: it gets stuck where a value is compared with one of another sort, or
where a text is looked for in something that is none. On a record that fits the schema a clause on
an attribute never gets stuck, and the test is the one that is made.

* `Kind.Comparable`, `Field.Compares`, `Schema.Means`: the types;
* `Predicate.check_eq_error_iff`, `Predicate.compile_eq_error_iff`: what a predicate fails with;
* `Value.compareContents?`, `Matcher.test?`: tests without ranks;
* `compile_checks_types`: the main result.
-/

namespace PagedQuery

variable {schema : Schema} {name : String} {field : Field} {p : Predicate} {v w : Value}
  {k l : Kind} {e : Error}

/-! ## Types -/

/-- Two kinds whose values can be compared: one kind, or two kinds of numbers. -/
def Kind.Comparable (k l : Kind) : Prop :=
  k = l ∨ k.isNumeric = true ∧ l.isNumeric = true

/-- A field can be compared with values of a kind: an attribute with values that its own can be
    compared with, and the identifier with integers and texts. -/
inductive Field.Compares : Field → Kind → Prop
  | integer : Compares .identifier .integer
  | text : Compares .identifier .text
  | attribute {a : Attribute} {k : Kind} : a.kind.Comparable k → Compares (.declared a) k

/-- All of some values can be compared with a field. Null can be compared with every field, and
    equals nothing. -/
def Field.ComparesAll (field : Field) (values : List Value) : Prop :=
  ∀ v ∈ values, ∀ k, v.kind? = some k → field.Compares k

/-- What a name means in a schema. -/
inductive Schema.Means (schema : Schema) (name : String) : Field → Prop
  | identifier : name = schema.identifier → schema.Means name .identifier
  | attribute {a : Attribute} : a ∈ schema.attributes → a.name = name →
      schema.Means name (.declared a)

/-- A predicate suits a field: it looks for a text only in the identifier and in attributes that
    hold texts, and its values can be compared with the field. -/
structure Predicate.Fits (p : Predicate) (field : Field) : Prop where
  search : ∀ needle, p = .contains needle → ∀ a, field = .declared a → a.kind = .text
  compare : field.ComparesAll p.literals

/-- What is wrong with a predicate that is asked of a field. -/
inductive Predicate.Misfit (p : Predicate) (name : String) : Field → Error → Prop
  | search {needle : String} {a : Attribute} : p = .contains needle → a.kind ≠ .text →
      p.Misfit name (.declared a) (.kindMismatch name a.kind "a substring predicate")
  /-- A value cannot be compared with the field; it is the first one. -/
  | compare {field : Field} {before rest : List Value} {v : Value} {k : Kind} :
      p.literals = before ++ v :: rest → field.ComparesAll before → v.kind? = some k →
      ¬field.Compares k →
      p.Misfit name field (.kindMismatch name (field.kind?.getD .text) k.name)

/-- What is wrong with a predicate under a name: the name means nothing, or the predicate does not
    suit what it means. -/
inductive Predicate.Fault (schema : Schema) (name : String) (p : Predicate) : Error → Prop
  | name : ¬schema.Declares name → p.Fault schema name (.unknownAttribute schema.entity name)
  | predicate {field : Field} {e : Error} : schema.Means name field → p.Misfit name field e →
      p.Fault schema name e

/-! ## Names and fields -/

theorem Schema.resolve_eq_ok_iff : schema.resolve name = .ok field ↔ schema.Means name field := by
  constructor
  · intro h
    rw [resolve] at h
    split at h
    · next hname =>
      cases h
      exact .identifier hname
    · split at h
      · next a ha =>
        cases h
        obtain ⟨hmem, hname⟩ := attribute?_eq_some_iff.1 ha
        exact .attribute hmem hname
      · cases h
  · rintro (hname | ⟨hmem, rfl⟩)
    · rw [resolve, if_pos hname]
    · next a =>
      -- No attribute has the name of the identifier.
      have hidentifier : a.name ≠ schema.identifier := fun heq =>
        (List.nodup_cons.1 schema.names_distinct).1 (heq ▸ List.mem_map_of_mem hmem)
      rw [resolve, if_neg hidentifier, attribute?_eq_some_iff.2 ⟨hmem, rfl⟩]

theorem Schema.means_declared_iff {a : Attribute} :
    schema.Means name (.declared a) ↔ a ∈ schema.attributes ∧ a.name = name :=
  ⟨fun | .attribute ha hname => ⟨ha, hname⟩, fun ⟨ha, hname⟩ => .attribute ha hname⟩

theorem Field.compares_declared_iff {a : Attribute} :
    (declared a).Compares k ↔ a.kind.Comparable k :=
  ⟨fun | .attribute h => h, .attribute⟩

theorem Field.accepts_iff : field.accepts k = true ↔ field.Compares k := by
  cases field with
  | identifier =>
    rw [accepts, Bool.or_eq_true, decide_eq_true_iff, decide_eq_true_iff]
    constructor
    · rintro (rfl | rfl)
      exacts [.integer, .text]
    · rintro (_ | _)
      exacts [.inl rfl, .inr rfl]
  | declared a =>
    rw [compares_declared_iff, accepts, Kind.accepts, Bool.or_eq_true, Bool.and_eq_true,
      decide_eq_true_iff]
    rfl

theorem Field.isSearchable_iff :
    field.isSearchable = true ↔ ∀ a, field = .declared a → a.kind = .text := by
  cases field <;> simp [isSearchable, kind?]

/-! ## Compiling -/

theorem Field.find?_kinds_eq_none {values : List Value} :
    (values.filterMap Value.kind?).find? (!field.accepts ·) = none ↔ field.ComparesAll values := by
  simp only [List.find?_eq_none, List.mem_filterMap, Bool.not_eq_true', Bool.not_eq_false,
    accepts_iff]
  exact ⟨fun h v hv k hk => h k ⟨v, hv, hk⟩, fun h k ⟨v, hv, hk⟩ => h v hv k hk⟩

theorem Field.find?_kinds_eq_some {values : List Value} :
    (values.filterMap Value.kind?).find? (!field.accepts ·) = some k ↔
      ∃ before v rest, values = before ++ v :: rest ∧ field.ComparesAll before ∧
        v.kind? = some k ∧ ¬field.Compares k := by
  have hpasses (w : Value) : (!(w.kind?.any (!field.accepts ·))) = true ↔
      ∀ l, w.kind? = some l → field.Compares l := by
    simp [← accepts_iff, Option.any_eq_false]
  rw [List.find?_filterMap, Option.bind_eq_some_iff]
  simp only [List.find?_eq_some_iff_append, hpasses]
  constructor
  · rintro ⟨v, ⟨hv, before, rest, rfl, hbefore⟩, hk⟩
    rw [hk, Option.any_some, Bool.not_eq_true', ← Bool.not_eq_true, accepts_iff] at hv
    exact ⟨before, v, rest, rfl, hbefore, hk, hv⟩
  · rintro ⟨before, v, rest, rfl, hbefore, hk, hv⟩
    refine ⟨v, ⟨?_, before, rest, rfl, hbefore⟩, hk⟩
    rwa [hk, Option.any_some, Bool.not_eq_true', ← Bool.not_eq_true, accepts_iff]

namespace Predicate

theorem check_contains (needle : String) : (contains needle).check name field =
    if field.isSearchable then .ok ()
    else .error (.kindMismatch name (field.kind?.getD .text) "a substring predicate") := rfl

/-- A predicate that looks for no text is checked by its values. -/
theorem check_of_ne_contains (hp : ∀ needle, p ≠ .contains needle) : p.check name field =
    match (p.literals.filterMap Value.kind?).find? (!field.accepts ·) with
    | none => .ok ()
    | some k => .error (.kindMismatch name (field.kind?.getD .text) k.name) := by
  cases p with
  | contains needle => exact absurd rfl (hp needle)
  | equals v => rfl
  | range lower upper => rfl

theorem check_eq_error_iff : p.check name field = .error e ↔ p.Misfit name field e := by
  by_cases hp : ∃ needle, p = .contains needle
  · obtain ⟨needle, rfl⟩ := hp
    rw [check_contains]
    constructor
    · intro h
      split at h
      · cases h
      · next hsearch =>
        cases h
        rw [Field.isSearchable_iff] at hsearch
        push Not at hsearch
        obtain ⟨a, rfl, ha⟩ := hsearch
        exact .search rfl ha
    · rintro (⟨-, ha⟩ | ⟨hsplit, -⟩)
      · rw [if_neg fun hsearch => ha (Field.isSearchable_iff.1 hsearch _ rfl)]
        rfl
      · simp [literals] at hsplit
  · rw [check_of_ne_contains fun needle hneedle => hp ⟨needle, hneedle⟩]
    constructor
    · intro h
      split at h
      · cases h
      · next k hk =>
        cases h
        obtain ⟨before, v, rest, hsplit, hbefore, hv, hcompares⟩ := Field.find?_kinds_eq_some.1 hk
        exact .compare hsplit hbefore hv hcompares
    · rintro (⟨hneedle, -⟩ | ⟨hsplit, hbefore, hv, hcompares⟩)
      · exact absurd ⟨_, hneedle⟩ hp
      · rw [Field.find?_kinds_eq_some.2 ⟨_, _, _, hsplit, hbefore, hv, hcompares⟩]

theorem check_eq_ok_iff : p.check name field = .ok () ↔ p.Fits field := by
  by_cases hp : ∃ needle, p = .contains needle
  · obtain ⟨needle, rfl⟩ := hp
    rw [check_contains]
    constructor
    · intro h
      split at h
      · next hsearch =>
        exact ⟨fun _ _ => Field.isSearchable_iff.1 hsearch, fun v hv => absurd hv List.not_mem_nil⟩
      · cases h
    · intro h
      rw [if_pos (Field.isSearchable_iff.2 (h.search needle rfl))]
  · rw [check_of_ne_contains fun needle hneedle => hp ⟨needle, hneedle⟩]
    constructor
    · intro h
      split at h
      · next hnone =>
        exact ⟨fun needle hneedle => absurd ⟨needle, hneedle⟩ hp,
          Field.find?_kinds_eq_none.1 hnone⟩
      · cases h
    · intro h
      rw [Field.find?_kinds_eq_none.2 h.compare]

/-- A predicate compiles if its name means something that it suits. -/
theorem exists_compile_iff : (∃ clause, p.compile schema name = .ok clause) ↔
    ∃ field, schema.Means name field ∧ p.Fits field := by
  simp only [compile_eq_ok_iff, Schema.resolve_eq_ok_iff, check_eq_ok_iff]
  constructor
  · rintro ⟨clause, hfield, hfits, -⟩
    exact ⟨clause.field, hfield, hfits⟩
  · rintro ⟨field, hfield, hfits⟩
    exact ⟨⟨field, p.matcher⟩, hfield, hfits, rfl⟩

theorem compile_eq_error_iff :
    p.compile schema name = .error e ↔ p.Fault schema name e := by
  rw [compile, bind_eq_error, Schema.resolve_eq_error_iff]
  constructor
  · rintro (⟨hname, rfl⟩ | ⟨field, hfield, h⟩)
    · exact .name hname
    · obtain hcheck | ⟨_, -, h⟩ := bind_eq_error.1 h
      · exact .predicate (Schema.resolve_eq_ok_iff.1 hfield) (check_eq_error_iff.1 hcheck)
      · cases h
  · rintro (hname | ⟨hfield, hmisfit⟩)
    · exact .inl ⟨hname, rfl⟩
    · exact .inr ⟨_, Schema.resolve_eq_ok_iff.2 hfield,
        bind_eq_error.2 (.inl (check_eq_error_iff.2 hmisfit))⟩

end Predicate

/-- Criteria compile if each of their predicates does. -/
theorem Criteria.exists_compile_iff {criteria : Criteria} :
    (∃ compiled, criteria.compile schema = .ok compiled) ↔
      ∀ name p, criteria.get? name = some p → ∃ field, schema.Means name field ∧ p.Fits field := by
  constructor
  · rintro ⟨compiled, hcompiled⟩ name p hp
    obtain ⟨clause, -, hclause⟩ := exists_clause hcompiled (NameMap.mem_of_get? hp)
    exact Predicate.exists_compile_iff.1 ⟨clause, hclause⟩
  · intro h
    obtain ⟨compiled, hcompiled, -⟩ := exists_compile fun name p hp => by
      obtain ⟨field, hfield, hfits⟩ := h name p hp
      exact ⟨field, Schema.resolve_eq_ok_iff.2 hfield, Predicate.check_eq_ok_iff.2 hfits⟩
    exact ⟨compiled, hcompiled⟩

/-- Criteria that do not compile fail over the first of their predicates, by name, that does not. -/
theorem Criteria.compile_eq_error_iff {criteria : Criteria} :
    criteria.compile schema = .error e ↔ ∃ name p, criteria.get? name = some p ∧
      p.Fault schema name e ∧ ∀ n q, n < name → criteria.get? n = some q →
        ∃ field, schema.Means n field ∧ q.Fits field := by
  have hwalk : criteria.compile schema = .error e ↔ ∃ name p, criteria.get? name = some p ∧
      p.compile schema name = .error e ∧ ∀ n q, n < name → criteria.get? n = some q →
        ∃ clause, q.compile schema n = .ok clause := NameMap.mapM_eq_error_iff
  simp only [hwalk, Predicate.exists_compile_iff, Predicate.compile_eq_error_iff]

/-! ## Testing -/

/-- The comparison of two values by what they hold: it does not look at the ranks of kinds. There is
    none of null, and none of values whose kinds do not go together. -/
def Value.compareContents? : Value → Value → Option Ordering
  | .boolean a, .boolean b => some (Ord.compare a b)
  | .integer a, .integer b => some (Ord.compare a b)
  | .integer a, .decimal b => some (Ord.compare (Decimal.ofInt a.toInt) b)
  | .decimal a, .integer b => some (Ord.compare a (Decimal.ofInt b.toInt))
  | .decimal a, .decimal b => some (Ord.compare a b)
  | .text a, .text b => some (Ord.compare a b)
  | .date a, .date b => some (Ord.compare a b)
  | .timestamp a, .timestamp b => some (Ord.compare a b)
  | _, _ => none

/-- Values have contents to compare exactly if their kinds go together, and the comparison of values
    is then that of their contents. -/
theorem Value.compareContents?_eq_some_iff {order : Ordering} :
    v.compareContents? w = some order ↔
      (∃ k l, v.kind? = some k ∧ w.kind? = some l ∧ k.Comparable l) ∧ compare v w = order := by
  cases v <;> cases w <;>
    simp [compareContents?, kind?, Kind.Comparable, Kind.isNumeric, Ord.compare, Value.compare]

/-- What a comparison with a value asked for says, once it is made by contents. Nothing passes null,
    and where the two have no contents to compare the test is stuck. -/
def Value.judge? (v w : Value) (passes : Ordering → Bool) : Option Bool :=
  if w.isNull then some false else (v.compareContents? w).map passes

/-- What one end of a range says of a value: how the two compare has to pass the first test where
    the end belongs to the range, and the second one where it does not. -/
def Bound.judge? (bound : Bound) (v : Value) (within beyond : Ordering → Bool) : Option Bool :=
  match bound with
  | unbounded => some true
  | inclusive w => v.judge? w within
  | exclusive w => v.judge? w beyond

/-- The test of a value by contents. Both ends of a range are tested, whatever the first one says,
    and only a text is searched for a text. -/
def Matcher.test? (matcher : Matcher) (v : Value) : Option Bool :=
  match matcher with
  | equals w => v.judge? w (·.isEq)
  | contains needle =>
    match v with
    | .text s => some (Text.occurs needle (Text.lowercase s.toList))
    | _ => none
  | range lower upper => do
    let above ← lower.judge? v (·.isGE) (·.isGT)
    let below ← upper.judge? v (·.isLE) (·.isLT)
    return above && below

/-- The test of a field by contents. A field that is null or absent passes nothing. -/
def Clause.test? (clause : Clause) (r : Record) : Option Bool :=
  (r.field? clause.field).elim (some false) clause.matcher.test?

variable {a : Attribute} {r : Record}

/-- What is compared with an attribute can be judged of the values of its kind. -/
theorem Value.judge?_eq (hv : v.kind? = some a.kind) (hw : (Field.declared a).ComparesAll [w])
    (passes : Ordering → Bool) :
    v.judge? w passes = some (!w.isNull && passes (compare v w)) := by
  rw [judge?]
  split
  · next hnull => rw [hnull]; rfl
  · next hnull =>
    obtain ⟨k, hk⟩ := Option.ne_none_iff_exists'.1 (mt kind?_eq_none_iff.1 hnull)
    have hcomparable := Field.compares_declared_iff.1 (hw w List.mem_cons_self k hk)
    have hcontents : v.compareContents? w = some (compare v w) :=
      compareContents?_eq_some_iff.2 ⟨⟨a.kind, k, hv, hk, hcomparable⟩, rfl⟩
    rw [hcontents, Bool.eq_false_of_not_eq_true hnull]
    rfl

theorem Bound.judge?_above {bound : Bound} (hv : v.kind? = some a.kind)
    (hbound : (Field.declared a).ComparesAll bound.value?.toList) :
    bound.judge? v (·.isGE) (·.isGT) = some (bound.admitsAbove v) := by
  cases bound with
  | unbounded => rfl
  | inclusive w | exclusive w => exact Value.judge?_eq hv hbound _

theorem Bound.judge?_below {bound : Bound} (hv : v.kind? = some a.kind)
    (hbound : (Field.declared a).ComparesAll bound.value?.toList) :
    bound.judge? v (·.isLE) (·.isLT) = some (bound.admitsBelow v) := by
  cases bound with
  | unbounded => rfl
  | inclusive w | exclusive w => exact Value.judge?_eq hv hbound _

/-- A predicate that suits an attribute is never stuck on a value of its kind. -/
theorem Predicate.test?_matcher (hfits : p.Fits (.declared a)) (hv : v.kind? = some a.kind) :
    p.matcher.test? v = some (p.matcher.accepts v) := by
  obtain ⟨hsearch, hcompare⟩ := hfits
  cases p with
  | equals w => exact Value.judge?_eq hv hcompare _
  | contains needle =>
    rw [hsearch needle rfl a rfl] at hv
    cases v <;> cases hv
    rfl
  | range lower upper =>
    have hliterals (bound : Bound) (hbound : bound ∈ [lower, upper]) :
        (Field.declared a).ComparesAll bound.value?.toList := fun w hw =>
      hcompare w (List.mem_filterMap.2 ⟨bound, hbound, Option.mem_toList.1 hw⟩)
    show (do
      let above ← lower.judge? v (·.isGE) (·.isGT)
      let below ← upper.judge? v (·.isLE) (·.isLT)
      return above && below) = _
    rw [Bound.judge?_above hv (hliterals lower (by simp)),
      Bound.judge?_below hv (hliterals upper (by simp))]
    rfl

/-- What a record that fits has in an attribute is of the kind of this attribute. -/
theorem Schema.Admits.kind?_of_value? (h : schema.Admits r) (ha : a ∈ schema.attributes)
    (hv : r.value? a.name = some v) : v.kind? = some a.kind := by
  obtain ⟨hget, hnull⟩ := Option.filter_eq_some_iff.1 hv
  obtain ⟨b, hb, hkind⟩ := h a.name v (NameMap.mem_of_get? hget)
  obtain rfl := Option.some_inj.1 (hb.symm.trans (attribute?_eq_some_iff.2 ⟨ha, rfl⟩))
  refine hkind.resolve_left fun hnone => ?_
  rw [Value.kind?_eq_none_iff.1 hnone] at hnull
  cases hnull

/-- Compiling decides whether criteria are well typed: each name means the identifier or an
    attribute, a text is looked for only in texts, and what a field is compared with goes with its
    kind. Where this is not so, the error is about the first predicate by name that is to blame, and
    says what is wrong with it. What compiles has a clause for each predicate, and on records that
    fit no clause on an attribute compares values of different sorts, or searches anything but
    texts: the test that would get stuck there has the same result. -/
theorem compile_checks_types (schema : Schema) (criteria : Criteria) :
    ((∃ compiled, criteria.compile schema = .ok compiled) ↔
      ∀ name p, criteria.get? name = some p →
        ∃ field, schema.Means name field ∧ p.Fits field) ∧
    (∀ e, criteria.compile schema = .error e ↔ ∃ name p, criteria.get? name = some p ∧
      p.Fault schema name e ∧ ∀ n q, n < name → criteria.get? n = some q →
        ∃ field, schema.Means n field ∧ q.Fits field) ∧
    ∀ compiled, criteria.compile schema = .ok compiled →
      List.Forall₂ (fun b clause => schema.Means b.1 clause.field ∧ clause.matcher = b.2.matcher)
        criteria.toList compiled ∧
      ∀ r, schema.validate r = .ok () → ∀ clause ∈ compiled, ∀ a, clause.field = .declared a →
        clause.test? r = some (clause.accepts r) := by
  refine ⟨Criteria.exists_compile_iff, fun _ => Criteria.compile_eq_error_iff,
    fun compiled hcompiled => ?_⟩
  have hclauses := Criteria.compile_eq_ok_iff.1 hcompiled
  refine ⟨hclauses.imp fun b clause h => ⟨Schema.resolve_eq_ok_iff.1 h.1, h.2.2⟩,
    fun r hr clause hclause a ha => ?_⟩
  obtain ⟨b, -, hfield, hcheck, hmatcher⟩ := exists_of_mem_right hclauses hclause
  rw [ha] at hfield hcheck
  have hfits := Predicate.check_eq_ok_iff.1 hcheck
  have hattribute := (Schema.means_declared_iff.1 (Schema.resolve_eq_ok_iff.1 hfield)).1
  rw [Clause.test?, Clause.accepts, ha, hmatcher]
  cases hv : r.field? (.declared a) with
  | none => rfl
  | some v =>
    have hadmits := Schema.validate_eq_ok_iff.1 hr
    exact Predicate.test?_matcher hfits (hadmits.kind?_of_value? hattribute hv)

/-- Bolts, which are made of something, have a length, and are tested some day. -/
def bolts : Schema where
  entity := "Bolt"
  identifier := "BoltID"
  attributes := [⟨"Material", .text⟩, ⟨"Length", .decimal⟩, ⟨"Tested", .date⟩]
  names_valid := by decide
  names_distinct := by decide

/-- A search in lengths is refused, but only after the colors, which bolts do not have. A length may
    be compared with an integer, and a bolt that fits is then tested without getting stuck. -/
theorem bolts_checked :
    Criteria.compile (.ofList [("Length", .contains "4"), ("Color", .equals .null)]) bolts =
      .error (.unknownAttribute "Bolt" "Color") ∧
    ∃ compiled,
      Criteria.compile (.ofList [("Length", .atLeast (.integer 4)), ("Material", .contains "Zn")])
        bolts = .ok compiled ∧
      ∀ clause ∈ compiled, ∀ a, clause.field = .declared a →
        let bolt := Record.ofList (.integer 1)
          [("Length", .decimal ⟨401, 2⟩), ("Material", .text "CuZn"), ("Tested", .null)]
        clause.test? bolt = some (clause.accepts bolt) := by
  obtain ⟨-, hfails, -⟩ := compile_checks_types bolts
    (.ofList [("Length", .contains "4"), ("Color", .equals .null)])
  obtain ⟨hcompiles, -, hsound⟩ := compile_checks_types bolts
    (.ofList [("Length", .atLeast (.integer 4)), ("Material", .contains "Zn")])
  refine ⟨(hfails _).2 ⟨"Color", .equals .null, rfl, .name (by decide), fun n q hn hq => ?_⟩, ?_⟩
  · have hmem := NameMap.mem_of_mem_ofList (NameMap.mem_of_get? hq)
    simp only [List.mem_cons, Prod.mk.injEq, List.not_mem_nil, or_false] at hmem
    obtain ⟨rfl, -⟩ | ⟨rfl, -⟩ := hmem <;> exact absurd hn (by decide)
  · obtain ⟨compiled, hcompiled⟩ := hcompiles.2 fun n q hq => by
      have hmem := NameMap.mem_of_mem_ofList (NameMap.mem_of_get? hq)
      simp only [List.mem_cons, Prod.mk.injEq, List.not_mem_nil, or_false] at hmem
      obtain ⟨rfl, rfl⟩ | ⟨rfl, rfl⟩ := hmem
      · exact ⟨.declared ⟨"Length", .decimal⟩, .attribute (by decide) rfl,
          Predicate.check_eq_ok_iff.1 (rfl : Predicate.check "Length" _ _ = _)⟩
      · exact ⟨.declared ⟨"Material", .text⟩, .attribute (by decide) rfl,
          Predicate.check_eq_ok_iff.1 (rfl : Predicate.check "Material" _ _ = _)⟩
    exact ⟨compiled, hcompiled, (hsound compiled hcompiled).2 _ rfl⟩

end PagedQuery
