import Mathlib
import PagedQuery.Proofs.Search
import PagedQuery.Proofs.Text.AsciiCase

/-!
# Searching without regard to case

A search looks into the text of a field: into a text as it is, and into the digits of an integer,
which only an identifier can be (`Record.searched?`). It passes if the small form of what it looks
for occurs in that of the text (`accepts_contains_iff_searched`). Neither depends on the case of
ASCII letters, whatever is around them, and so neither does the search; nor does it tell an integer
from the text of its digits.

* `Value.searched?`, `Record.searched?`: the text that is looked into;
* `Record.SameButCase`: records that are the same but for the case of ASCII letters;
* `search_ignores_case`: the main result.
-/

namespace PagedQuery

open Text

variable {schema : Schema} {name needle other : String} {field : Field} {v : Value}
  {r s : Record}

/-! ## What is looked into -/

/-- The text that a search looks into. -/
def Value.searched? : Value → Option String
  | .text t => some t
  | .integer n => some (RecordId.integer n).toText
  | _ => none

/-- The text that a search of a field looks into. -/
def Record.searched? (r : Record) (field : Field) : Option String :=
  (r.field? field).bind Value.searched?

theorem RecordId.searched?_toValue (id : RecordId) : id.toValue.searched? = some id.toText := by
  cases id <;> rfl

theorem Record.searched?_identifier (r : Record) : r.searched? .identifier = some r.id.toText :=
  r.id.searched?_toValue

/-- A value passes if the small form of the needle occurs in that of the text of the value. -/
theorem Matcher.accepts_contains_iff_searched :
    (Predicate.contains needle).matcher.accepts v = true ↔
      ∃ t, v.searched? = some t ∧ lowercase needle.toList <:+: lowercase t.toList := by
  cases v with
  | text t => simp [accepts, Predicate.matcher, Value.searched?, occurs_iff]
  | integer n =>
    simp [accepts, Predicate.matcher, Value.searched?, occurs_iff, RecordId.toText,
      lowercase_integerText]
  | _ => simp [accepts, Predicate.matcher, Value.searched?]

theorem accepts_contains_iff_searched :
    CompiledFilter.accepts [⟨field, (Predicate.contains needle).matcher⟩] r = true ↔
      ∃ t, r.searched? field = some t ∧ lowercase needle.toList <:+: lowercase t.toList := by
  rw [CompiledFilter.accepts_single, Clause.accepts, Record.searched?]
  cases r.field? field with
  | none => simp
  | some v => exact Matcher.accepts_contains_iff_searched

/-! ## Letters in either case -/

/-- Records that are the same but for the case of ASCII letters in their texts. An identifier may be
    an integer in one of them and the text of its digits in the other. -/
structure Record.SameButCase (r s : Record) : Prop where
  id : Text.SameButCase r.id.toText.toList s.id.toText.toList
  value? : ∀ name, r.value? name = s.value? name ∨ ∃ t u, r.value? name = some (.text t) ∧
    s.value? name = some (.text u) ∧ Text.SameButCase t.toList u.toList

/-- The small form of what is looked into does not depend on the case of ASCII letters. -/
theorem Record.SameButCase.lowercase_searched? (h : r.SameButCase s) (field : Field) :
    (r.searched? field).map (lowercase ·.toList) =
      (s.searched? field).map (lowercase ·.toList) := by
  cases field with
  | identifier =>
    rw [Record.searched?_identifier, Record.searched?_identifier]
    exact congrArg some h.id.lowercase_eq
  | declared a =>
    rw [Record.searched?, Record.searched?, Record.field?, Record.field?]
    rcases h.value? a.name with heq | ⟨t, u, ht, hu, htu⟩
    · rw [heq]
    · rw [ht, hu]
      exact congrArg some htu.lowercase_eq

/-- Of a needle and of what is looked into only the small forms matter. -/
theorem accepts_contains_congr (hneedle : lowercase needle.toList = lowercase other.toList)
    (h : (r.searched? field).map (lowercase ·.toList) =
      (s.searched? field).map (lowercase ·.toList)) :
    CompiledFilter.accepts [⟨field, (Predicate.contains needle).matcher⟩] r =
      CompiledFilter.accepts [⟨field, (Predicate.contains other).matcher⟩] s := by
  have hsmall (needle : String) (r : Record) :
      CompiledFilter.accepts [⟨field, (Predicate.contains needle).matcher⟩] r = true ↔
        ∃ cs, (r.searched? field).map (lowercase ·.toList) = some cs ∧
          lowercase needle.toList <:+: cs := by
    rw [accepts_contains_iff_searched]
    simp
  rw [Bool.eq_iff_iff, hsmall, hsmall, hneedle, h]

/-- Where a text can be looked for, in the identifier or in an attribute that holds texts, the
    search passes if the small form of the needle occurs in that of the text. It does not matter in
    which case the ASCII letters are, in the needle or in the texts of the record, and an integer
    passes as an identifier exactly if the text of its digits does. -/
theorem search_ignores_case (hfield : schema.resolve name = .ok field)
    (hsearchable : field.isSearchable = true)
    (hneedle : Text.SameButCase needle.toList other.toList) :
    ∃ compiled changed,
      Criteria.compile (.ofList [(name, .contains needle)]) schema = .ok compiled ∧
      Criteria.compile (.ofList [(name, .contains other)]) schema = .ok changed ∧
      (∀ r, compiled.accepts r = true ↔
        ∃ t, r.searched? field = some t ∧ lowercase needle.toList <:+: lowercase t.toList) ∧
      (∀ r s : Record, r.SameButCase s → compiled.accepts r = changed.accepts s) ∧
      ∀ n attributes, compiled.accepts ⟨.integer n, attributes⟩ =
        changed.accepts ⟨.text (RecordId.integer n).toText, attributes⟩ := by
  have hcheck (needle : String) : (Predicate.contains needle).check name field = .ok () :=
    if_pos hsearchable
  have hsame (r s : Record) (h : r.SameButCase s) :=
    accepts_contains_congr hneedle.lowercase_eq (h.lowercase_searched? field)
  exact ⟨_, _, Criteria.compile_single hfield (hcheck needle),
    Criteria.compile_single hfield (hcheck other), fun r => accepts_contains_iff_searched, hsame,
    fun n attributes => hsame _ _ ⟨.refl _, fun name => .inl rfl⟩⟩

/-- A shade of blue, by some spelling of its name. -/
def shade (id : RecordId) (spelling : String) : Record :=
  .ofList id [("Name", .text spelling)]

/-- A final sigma between ASCII letters, and a capital whose small form has two characters, are
    found in the shade however it is spelled, and under an integer as well as its digits. -/
theorem shade_found_in_either_case :
    ∃ compiled changed,
      Criteria.compile (.ofList [("Name", .contains "eΣ-İs")]) colors = .ok compiled ∧
      Criteria.compile (.ofList [("Name", .contains "EΣ-İS")]) colors = .ok changed ∧
      compiled.accepts (shade (.integer (-12)) "Blue blueΣ-İsles") = true ∧
      changed.accepts (shade (.text "-12") "bLUE BLUEΣ-İSLes") = true := by
  have hspelling : Text.SameButCase "Blue blueΣ-İsles".toList "bLUE BLUEΣ-İSLes".toList := by
    decide
  have hneedle : Text.SameButCase "eΣ-İs".toList "EΣ-İS".toList := by decide
  obtain ⟨compiled, changed, hcompiled, hchanged, haccepts, hsame, -⟩ :=
    @search_ignores_case colors "Name" "eΣ-İs" "EΣ-İS" (.declared ⟨"Name", .text⟩) rfl rfl hneedle
  have hshades : (shade (.integer (-12)) "Blue blueΣ-İsles").SameButCase
      (shade (.text "-12") "bLUE BLUEΣ-İSLes") := by
    refine ⟨.refl _, fun name => ?_⟩
    by_cases hname : name = "Name"
    · subst hname
      exact .inr ⟨_, _, rfl, rfl, hspelling⟩
    · left
      simp [shade, Record.value?, Record.ofList, NameMap.ofList, NameMap.get?_insert, hname]
  have hfound : compiled.accepts (shade (.integer (-12)) "Blue blueΣ-İsles") = true :=
    (haccepts _).2 ⟨_, rfl, occurs_iff.1 (by decide +kernel)⟩
  exact ⟨compiled, changed, hcompiled, hchanged, hfound, hsame _ _ hshades ▸ hfound⟩

end PagedQuery
