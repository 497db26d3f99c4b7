import Mathlib
import PagedQuery.Proofs.Blindness
import PagedQuery.Proofs.Rephrasing

/-!
# Equal numbers

An attribute of integers or decimals holds numbers and is compared with numbers, and in either place
nothing but the number counts: `5`, `5.0` and `50E-1` can be exchanged. They pass the same check,
since an attribute of one numeric kind accepts both, and compare alike with everything. Nothing
looks into their digits, since a numeric attribute cannot be searched for a text.

* `Value.SameNumber`: values that are one number;
* `Predicate.SameNumbers`, `Criteria.SameNumbers`: the same predicates with other spellings of their
  numbers, which ask the same;
* `Record.SameNumbers`, `RecordSource.SameNumbers`: the same records with other spellings of their
  numbers, to which queries are blind;
* `equal_numbers_interchangeable`: the main result.
-/

namespace PagedQuery

variable {schema : Schema} {name : String} {a : Attribute} {v w : Value}

/-! ## Values -/

namespace Value

/-- Two values that are one number, each as an integer or as a decimal of some scale. -/
def SameNumber (v w : Value) : Prop :=
  ∃ q, v.number? = some q ∧ w.number? = some q

theorem SameNumber.symm (h : v.SameNumber w) : w.SameNumber v :=
  h.imp fun _ hq => hq.symm

/-- One number compares equal in both spellings. -/
theorem SameNumber.compare_eq (h : v.SameNumber w) : Ord.compare v w = .eq := by
  obtain ⟨q, hv, hw⟩ := h
  rw [compare_of_number? hv hw, Std.ReflOrd.compare_self]

theorem SameNumber.isNull (h : v.SameNumber w) : v.isNull = false := by
  obtain ⟨q, hv, -⟩ := h
  cases v <;> cases hv <;> rfl

/-- A numeric attribute accepts numbers of either kind. -/
theorem accepts_of_number? {q : ℚ} (hv : v.number? = some q) (ha : a.kind.isNumeric = true) :
    ∀ kind, v.kind? = some kind → (Field.declared a).accepts kind = true := by
  intro kind hkind
  have hnumeric : kind.isNumeric = true := by
    cases v <;> cases hv <;> cases hkind <;> rfl
  rw [Field.accepts, Kind.accepts, ha, hnumeric, Bool.and_self, Bool.or_true]

end Value

/-! ## Criteria -/

/-- An attribute of integers or of decimals has this name. -/
def Schema.IsNumeric (schema : Schema) (name : String) : Prop :=
  ∃ a, schema.resolve name = .ok (.declared a) ∧ a.kind.isNumeric = true

/-- Two bounds that are the same, but for how a number is written. -/
inductive Bound.SameNumber : Bound → Bound → Prop
  | refl (bound : Bound) : SameNumber bound bound
  | inclusive {v w : Value} : v.SameNumber w → SameNumber (.inclusive v) (.inclusive w)
  | exclusive {v w : Value} : v.SameNumber w → SameNumber (.exclusive v) (.exclusive w)

namespace Bound.SameNumber

variable {bound other : Bound}

theorem admitsAbove_eq (h : bound.SameNumber other) (x : Value) :
    bound.admitsAbove x = other.admitsAbove x := by
  cases h with
  | refl => rfl
  | inclusive hvw | exclusive hvw =>
    simp only [admitsAbove, hvw.isNull, hvw.symm.isNull, Std.TransCmp.congr_right hvw.compare_eq]

theorem admitsBelow_eq (h : bound.SameNumber other) (x : Value) :
    bound.admitsBelow x = other.admitsBelow x := by
  cases h with
  | refl => rfl
  | inclusive hvw | exclusive hvw =>
    simp only [admitsBelow, hvw.isNull, hvw.symm.isNull, Std.TransCmp.congr_right hvw.compare_eq]

end Bound.SameNumber

/-- Two predicates that are the same, but for how their numbers are written. -/
inductive Predicate.SameNumbers : Predicate → Predicate → Prop
  | refl (p : Predicate) : SameNumbers p p
  | equals {v w : Value} : v.SameNumber w → SameNumbers (.equals v) (.equals w)
  | range {lower lower' upper upper' : Bound} : lower.SameNumber lower' → upper.SameNumber upper' →
    SameNumbers (.range lower upper) (.range lower' upper')

namespace Predicate

variable {p q : Predicate}

/-- A predicate that compares with numbers suits a numeric attribute. -/
theorem check_of_numbers (name : String) (ha : a.kind.isNumeric = true)
    (hp : ∀ needle, p ≠ .contains needle) (hnumbers : ∀ v ∈ p.literals, ∃ q, v.number? = some q) :
    p.check name (.declared a) = .ok () := by
  refine check_eq_ok (fun needle hneedle => absurd hneedle (hp needle)) fun v hv => ?_
  obtain ⟨q, hq⟩ := hnumbers v hv
  exact Value.accepts_of_number? hq ha

theorem exists_compile_of_numbers (hname : schema.IsNumeric name)
    (hp : ∀ needle, p ≠ .contains needle) (hnumbers : ∀ v ∈ p.literals, ∃ q, v.number? = some q) :
    ∃ clause, p.compile schema name = .ok clause := by
  obtain ⟨a, hfield, ha⟩ := hname
  exact ⟨_, compile_eq_ok hfield (check_of_numbers name ha hp hnumbers)⟩

/-- A numeric attribute is not searched for a text. -/
theorem check_contains_ne_ok (name : String) (ha : a.kind.isNumeric = true) (needle : String) :
    (contains needle).check name (.declared a) ≠ .ok () := by
  have hsearch : (Field.declared a).isSearchable = false := by
    obtain ⟨_, kind⟩ := a
    cases kind <;> cases ha <;> rfl
  have herror : (contains needle).check name (.declared a) =
      .error (.kindMismatch name a.kind "a substring predicate") :=
    if_neg (Bool.eq_false_iff.1 hsearch)
  rw [herror]
  nofun

theorem SameNumbers.check_eq (h : p.SameNumbers q) (name : String) (ha : a.kind.isNumeric = true) :
    p.check name (.declared a) = q.check name (.declared a) := by
  have hok {p : Predicate} {v w : Value} (hvw : v.SameNumber w) (hp : p.literals = [v]) :
      p.check name (.declared a) = .ok () := by
    refine check_of_numbers name ha (fun needle hneedle => ?_) ?_
    · subst hneedle
      cases hp
    · rw [hp]
      exact List.forall_mem_singleton.2 (hvw.imp fun _ => And.left)
  have hone {p q : Predicate} {v w : Value} (hvw : v.SameNumber w) (hp : p.literals = [v])
      (hq : q.literals = [w]) : p.check name (.declared a) = q.check name (.declared a) :=
    (hok hvw hp).trans (hok hvw.symm hq).symm
  cases h with
  | refl => rfl
  | equals hvw => exact hone hvw rfl rfl
  | @range lower lower' upper upper' hlower hupper =>
    have hlower : (Predicate.range lower .unbounded).check name (.declared a) =
        (Predicate.range lower' .unbounded).check name (.declared a) := by
      cases hlower with
      | refl => rfl
      | inclusive hvw | exclusive hvw => exact hone hvw rfl rfl
    have hupper : (Predicate.range .unbounded upper).check name (.declared a) =
        (Predicate.range .unbounded upper').check name (.declared a) := by
      cases hupper with
      | refl => rfl
      | inclusive hvw | exclusive hvw => exact hone hvw rfl rfl
    rw [check_range, check_range name _ lower', hlower, hupper]

theorem SameNumbers.accepts_eq (h : p.SameNumbers q) (x : Value) :
    p.matcher.accepts x = q.matcher.accepts x := by
  cases h with
  | refl => rfl
  | equals hvw =>
    simp only [matcher, Matcher.accepts, hvw.isNull, hvw.symm.isNull,
      Std.TransCmp.congr_right hvw.compare_eq]
  | range hlower hupper =>
    simp only [matcher, Matcher.accepts, hlower.admitsAbove_eq, hupper.admitsBelow_eq]

end Predicate

namespace Criteria

variable {c d : Criteria}

/-- Two criteria that are the same, but for how the numbers are written that numeric attributes are
    compared with. -/
def SameNumbers (schema : Schema) (c d : Criteria) : Prop :=
  List.Forall₂ (fun b b' => b.1 = b'.1 ∧
    (b.2 = b'.2 ∨ schema.IsNumeric b.1 ∧ b.2.SameNumbers b'.2)) c.toList d.toList

/-- The numbers of one predicate are written otherwise, whatever else is asked. -/
theorem sameNumbers_insert {p q : Predicate} (hname : schema.IsNumeric name)
    (h : p.SameNumbers q) (c : Criteria) :
    SameNumbers schema (c.insert name p) (c.insert name q) :=
  NameMap.forall₂_insert (fun _ => ⟨rfl, .inl rfl⟩) ⟨rfl, .inr ⟨hname, h⟩⟩ c

theorem SameNumbers.askSame (h : SameNumbers schema c d) : AskSame schema c d := by
  refine h.imp fun b b' hb => ⟨hb.1, ?_⟩
  rcases hb.2 with heq | ⟨⟨a, hfield, ha⟩, hnumbers⟩
  · rw [heq]
    exact .refl _ _ _
  · exact Predicate.askSame_of_resolve hfield (hnumbers.check_eq b.1 ha) fun _ =>
      hnumbers.accepts_eq

end Criteria

/-! ## Records -/

/-- Two records that are the same, but for how the numbers are written that numeric attributes
    hold. -/
structure Record.SameNumbers (schema : Schema) (r s : Record) : Prop where
  id : r.id = s.id
  attributes : ∀ name, r.attributes.get? name = s.attributes.get? name ∨
    schema.IsNumeric name ∧ ∃ v w, r.attributes.get? name = some v ∧
      s.attributes.get? name = some w ∧ v.SameNumber w

namespace Record

variable {r s : Record} {field : Field}

/-- The number of one attribute is written otherwise. -/
theorem sameNumbers_insert (hname : schema.IsNumeric name) (hvw : v.SameNumber w) (r : Record) :
    SameNumbers schema ⟨r.id, r.attributes.insert name v⟩ ⟨r.id, r.attributes.insert name w⟩ := by
  refine ⟨rfl, fun n => ?_⟩
  rw [NameMap.get?_insert, NameMap.get?_insert]
  split
  · next heq => exact .inr ⟨heq ▸ hname, v, w, rfl, rfl, hvw⟩
  · exact .inl rfl

/-- What is in a field is the same, or the field is numeric and it is the same number. -/
theorem SameNumbers.field?_cases (h : r.SameNumbers schema s)
    (hfield : schema.resolve name = .ok field) : r.field? field = s.field? field ∨
      ∃ a v w, field = .declared a ∧ a.kind.isNumeric = true ∧ r.field? field = some v ∧
        s.field? field = some w ∧ v.SameNumber w := by
  cases field with
  | identifier => exact .inl (by rw [field?, field?, h.id])
  | declared a =>
    have hname := Schema.name_of_resolve hfield
    rcases h.attributes name with heq | ⟨⟨a', hfield', ha⟩, v, w, hv, hw, hvw⟩
    · exact .inl (by rw [field?, field?, value?, value?, hname, heq])
    · cases hfield.symm.trans hfield'
      refine .inr ⟨a, v, w, rfl, ha, ?_, ?_, hvw⟩
      · rw [field?, value?, hname, hv, Option.filter_some, hvw.isNull]
        rfl
      · rw [field?, value?, hname, hw, Option.filter_some, hvw.symm.isNull]
        rfl

end Record

/-- No query sees how the numbers of numeric attributes are written. -/
theorem Schema.blindTo_sameNumbers (schema : Schema) :
    schema.BlindTo (Record.SameNumbers schema) where
  id h := h.id
  clause := by
    intro name predicate clause hclause r s h
    obtain ⟨hfield, hcheck, hmatcher⟩ := Predicate.compile_eq_ok_iff.1 hclause
    rw [Clause.accepts, Clause.accepts]
    rcases h.field?_cases hfield with heq | ⟨a, v, w, hdeclared, ha, hv, hw, hvw⟩
    · rw [heq]
    · rw [hv, hw]
      refine Matcher.accepts_congr_of_compare hvw.compare_eq fun needle hneedle => ?_
      -- A predicate that looks for a text would not suit the attribute.
      cases predicate with
      | contains text =>
        rw [hdeclared] at hcheck
        exact Predicate.check_contains_ne_ok name ha text hcheck
      | equals | range => cases hmatcher.symm.trans hneedle
  key := by
    intro name field hfield r s h
    rcases h.field?_cases hfield with heq | ⟨a, v, w, -, -, hv, hw, hvw⟩
    · rw [heq]
      exact Std.ReflCmp.compare_self
    · rw [hv, hw]
      exact hvw.compare_eq

/-! ## Sources -/

/-- Two sources with the same schema whose records are the same one by one, but for how their
    numbers are written, or that fail alike. -/
structure RecordSource.SameNumbers (source other : RecordSource) : Prop where
  schema : source.schema = other.schema
  scan : SameOutcome (List.Forall₂ (Record.SameNumbers source.schema)) source.scan other.scan

/-- How a number is written does not matter, on either side of a comparison. Predicates that compare
    a numeric attribute with numbers compile. Where they occur in criteria the numbers can be
    exchanged for others that are equal: the criteria compile or fail as before, the same records
    pass, and every query has the same answer. And where numeric attributes hold numbers, these can
    be exchanged: the same records pass every filter, and every query has an answer with the same
    identifiers in the same order and the same totals. -/
theorem equal_numbers_interchangeable {source other : RecordSource} {c d : Criteria}
    (hcriteria : c.SameNumbers source.schema d) (hrecords : source.SameNumbers other) :
    (∀ name (p : Predicate), source.schema.IsNumeric name → (∀ needle, p ≠ .contains needle) →
      (∀ v ∈ p.literals, ∃ q, v.number? = some q) →
      ∃ clause, p.compile source.schema name = .ok clause) ∧
    SameOutcome CompiledFilter.PassSame (c.compile source.schema) (d.compile source.schema) ∧
    (∀ sort request, source.query (some c) sort request = source.query (some d) sort request) ∧
    source.count (some c) = source.count (some d) ∧
    (∀ filter compiled, compileFilter source.schema filter = .ok compiled → ∀ r s : Record,
      r.SameNumbers source.schema s → compiled.accepts r = compiled.accepts s) ∧
    (∀ filter sort request, (source.query filter sort request).map (Page.map Record.id) =
      (other.query filter sort request).map (Page.map Record.id)) ∧
    ∀ filter, source.count filter = other.count filter := by
  have hask := hcriteria.askSame
  have hblind := source.schema.blindTo_sameNumbers
  refine ⟨fun name p => Predicate.exists_compile_of_numbers, hask.compile, hask.query_eq,
    hask.count_eq, fun filter compiled hcompiled r s hrs => hblind.accepts hcompiled hrs,
    hblind.query_ids hrecords.schema hrecords.scan, hblind.count hrecords.schema hrecords.scan⟩

/-- Two tubes, one of which has the given diameter. -/
def tubes (diameter : Value) : RecordSource where
  schema :=
    { entity := "Tube"
      identifier := "TubeID"
      attributes := [⟨"Diameter", .decimal⟩]
      names_valid := by decide
      names_distinct := by decide }
  scan := .ok
    [.ofList (.integer 2) [("Diameter", .decimal ⟨7, 0⟩)],
      ⟨.integer 1, NameMap.empty.insert "Diameter" diameter⟩]

/-- Tubes from a diameter on. -/
def fromDiameter (diameter : Value) : Criteria :=
  NameMap.empty.insert "Diameter" (.atLeast diameter)

/-- It does not matter whether the tube has 5 or 5.0, nor whether 5 or 5.0 is asked for. -/
theorem tubes_interchangeable :
    (fromDiameter (.integer 5)).SameNumbers (tubes (.integer 5)).schema
      (fromDiameter (.decimal ⟨50, 1⟩)) ∧
    (tubes (.integer 5)).SameNumbers (tubes (.decimal ⟨50, 1⟩)) ∧
    (tubes (.integer 5)).query (some (fromDiameter (.integer 5))) (some ⟨"Diameter", .descending⟩)
        ⟨2, 1⟩ =
      (tubes (.integer 5)).query (some (fromDiameter (.decimal ⟨50, 1⟩)))
        (some ⟨"Diameter", .descending⟩) ⟨2, 1⟩ ∧
    ((tubes (.integer 5)).query (some (fromDiameter (.integer 5)))
        (some ⟨"Diameter", .descending⟩) ⟨2, 1⟩).map (Page.map Record.id) =
      ((tubes (.decimal ⟨50, 1⟩)).query (some (fromDiameter (.integer 5)))
        (some ⟨"Diameter", .descending⟩) ⟨2, 1⟩).map (Page.map Record.id) := by
  have hfive : Value.SameNumber (.integer 5) (.decimal ⟨50, 1⟩) := by
    refine ⟨5, rfl, ?_⟩
    rw [Value.number?, Decimal.toRat, show Int64.toInt 1 = 1 from rfl]
    norm_num
  have hname : (tubes (.integer 5)).schema.IsNumeric "Diameter" := ⟨_, rfl, rfl⟩
  have hcriteria := Criteria.sameNumbers_insert hname
    (.range (.inclusive hfive) (.refl .unbounded)) .empty
  have hsame : (tubes (.integer 5)).SameNumbers (tubes (.decimal ⟨50, 1⟩)) :=
    ⟨rfl, .ok (.cons ⟨rfl, fun _ => .inl rfl⟩
      (.cons (Record.sameNumbers_insert hname hfive ⟨.integer 1, .empty⟩) .nil))⟩
  obtain ⟨-, -, hquery, -, -, hids, -⟩ := equal_numbers_interchangeable hcriteria hsame
  exact ⟨hcriteria, hsame, hquery _ _, hids _ _ _⟩

end PagedQuery
