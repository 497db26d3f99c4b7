import Mathlib
import PagedQuery.Proofs.Filtering
import PagedQuery.Proofs.Text.Lowercase

/-!
# Searching for a text

A predicate `contains` compares small forms, which it makes of the text that is looked for and of
the text that is looked into, each as a whole. So a text that occurs in another as it stands is
found if its capital sigmas become the same small letters in both, that is, if none of them ends a
word in one and not in the other (`contains_finds_occurrence`). Where there is no capital sigma this
is so whatever stands around it.

Otherwise the text may be missed: the small form of `ΘΑΛΑΣ` ends in a final sigma, and there is none
in that of `ΘΑΛΑΣΣΙ` (`seaBlue_not_found`).
-/

namespace PagedQuery

open Text

variable {schema : Schema} {name needle t : String} {field : Field} {r : Record}
  {before after : List Char}

/-- A field that can be searched passes if the small form of the needle occurs in that of its
    text. -/
theorem accepts_contains_iff (htext : r.field? field = some (.text t)) :
    CompiledFilter.accepts [⟨field, (Predicate.contains needle).matcher⟩] r = true ↔
      lowercase needle.toList <:+: lowercase t.toList := by
  rw [CompiledFilter.accepts_single, Clause.accepts, htext, ← occurs_iff]
  rfl

/-- A needle that occurs in the text of an attribute or of an identifier, in any place, is found
    there, provided that its capital sigmas end a word in this place if, and only if, they do in the
    needle alone. In particular, a needle without capital sigmas is always found. -/
theorem contains_finds_occurrence (hfield : schema.resolve name = .ok field)
    (hsearchable : field.isSearchable = true) (htext : r.field? field = some (.text t))
    (hoccurs : t.toList = before ++ needle.toList ++ after) :
    ∃ compiled, Criteria.compile (.ofList [(name, .contains needle)]) schema = .ok compiled ∧
      (SameSigmas before.reverse needle.toList after → compiled.accepts r = true) ∧
      ('Σ' ∉ needle.toList → compiled.accepts r = true) := by
  have hcheck : (Predicate.contains needle).check name field = .ok () := if_pos hsearchable
  have haccepts (hsigmas : SameSigmas before.reverse needle.toList after) :
      CompiledFilter.accepts [⟨field, (Predicate.contains needle).matcher⟩] r = true := by
    rw [accepts_contains_iff htext, hoccurs, ← lowercaseBetween_eq_lowercase_iff.2 hsigmas]
    exact lowercaseBetween_infix before needle.toList after
  exact ⟨_, Criteria.compile_single hfield hcheck, haccepts, fun h =>
    haccepts (sameSigmas_of_not_mem h)⟩

/-- Colors, which have names. -/
def colors : Schema where
  entity := "Color"
  identifier := "ColorID"
  attributes := [⟨"Name", .text⟩]
  names_valid := by decide
  names_distinct := by decide

/-- The color of the sea, in capitals. -/
def seaBlue : Record :=
  .ofList (.text "ΘΑΛΑΣΣΙ") [("Name", .text "ΘΑΛΑΣΣΙ")]

/-- The color is found by the end of its identifier, which has two capital sigmas. -/
theorem seaBlue_found :
    ∃ compiled, Criteria.compile (.ofList [("ColorID", .contains "ΑΣΣΙ")]) colors = .ok compiled ∧
      compiled.accepts seaBlue = true := by
  have hsigmas : SameSigmas "ΘΑΛ".toList.reverse "ΑΣΣΙ".toList [] :=
    lowercaseBetween_eq_lowercase_iff.1 (by decide +kernel)
  obtain ⟨compiled, hcompiled, haccepts, -⟩ := @contains_finds_occurrence colors "ColorID" "ΑΣΣΙ"
    "ΘΑΛΑΣΣΙ" .identifier seaBlue "ΘΑΛ".toList [] rfl rfl rfl (by decide)
  exact ⟨compiled, hcompiled, haccepts hsigmas⟩

/-- The color is not found by the beginning of its name, although this occurs there as it stands:
    what ends a word when it is looked for is in the middle of one in the name. -/
theorem seaBlue_not_found :
    ¬∀ (schema : Schema) (name needle t : String) (field : Field) (r : Record),
      schema.resolve name = .ok field → field.isSearchable = true →
      r.field? field = some (.text t) → needle.toList <:+: t.toList →
        ∃ compiled, Criteria.compile (.ofList [(name, .contains needle)]) schema = .ok compiled ∧
          compiled.accepts r = true := by
  intro h
  obtain ⟨compiled, hcompiled, haccepts⟩ := h colors "Name" "ΘΑΛΑΣ" "ΘΑΛΑΣΣΙ"
    (.declared ⟨"Name", .text⟩) seaBlue rfl rfl rfl ⟨[], "ΣΙ".toList, by decide⟩
  obtain rfl := Except.ok.inj (hcompiled.symm.trans (Criteria.compile_single rfl rfl))
  rw [accepts_contains_iff rfl, ← occurs_iff] at haccepts
  exact absurd haccepts (by decide +kernel)

end PagedQuery
