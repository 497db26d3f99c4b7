import Mathlib
import PagedQuery.Record.Schema

/-!
# Schemas

A schema is declared from its parts, if their names are valid and no two are the same, and so the
attribute that is found under a name is the only one with this name.

* `declare_self`, `declare_eq_ok`: what is declared has the parts that were given, and the parts of
  a schema declare it;
* `attribute?_eq_some_iff`, `attribute?_eq_none_iff`: the attribute with a name.
-/

namespace PagedQuery.Schema

variable {s : Schema} {name : String}

/-! ## Declaring -/

/-- What is declared has the parts that were given. -/
theorem declare_eq_ok {entity identifier : String} {attributes : List Attribute}
    (h : declare entity identifier attributes = .ok s) :
    s.entity = entity ∧ s.identifier = identifier ∧ s.attributes = attributes := by
  rw [declare] at h
  split at h
  · cases h
  · split at h
    · cases h
    · cases h
      exact ⟨rfl, rfl, rfl⟩

theorem firstRepeated?_of_nodup {names seen : List String} (h : names.Nodup)
    (hseen : ∀ n ∈ names, n ∉ seen) : firstRepeated? seen names = none := by
  induction names generalizing seen with
  | nil => rfl
  | cons n ns ih =>
    obtain ⟨hn, hns⟩ := List.nodup_cons.1 h
    obtain ⟨hnseen, hseen⟩ := List.forall_mem_cons.1 hseen
    rw [firstRepeated?, if_neg hnseen]
    refine ih hns fun m hm hmem => ?_
    rcases List.mem_cons.1 hmem with rfl | hmem
    · exact hn hm
    · exact hseen m hm hmem

/-- The parts of a schema are those of a schema, namely of itself. -/
theorem declare_self (s : Schema) : declare s.entity s.identifier s.attributes = .ok s := by
  rw [declare]
  split
  · next name hname =>
    have hvalid := s.names_valid name (List.mem_of_find?_eq_some hname)
    have hinvalid := List.find?_some hname
    rw [hvalid] at hinvalid
    cases hinvalid
  · split
    · next name hname =>
      rw [firstRepeated?_of_nodup s.names_distinct (by simp)] at hname
      cases hname
    · rfl

/-! ## Attributes -/

/-- An attribute is found under its name, since no other one has it. -/
theorem attribute?_eq_some_iff {a : Attribute} :
    s.attribute? name = some a ↔ a ∈ s.attributes ∧ a.name = name := by
  constructor
  · intro h
    exact ⟨List.mem_of_find?_eq_some h, by simpa using List.find?_some h⟩
  · rintro ⟨ha, rfl⟩
    obtain ⟨b, hb⟩ : ∃ b, s.attribute? a.name = some b :=
      Option.isSome_iff_exists.1 (List.find?_isSome.2 ⟨a, ha, by simp⟩)
    have hnames := (List.nodup_cons.1 s.names_distinct).2
    rw [hb, List.inj_on_of_nodup_map hnames (List.mem_of_find?_eq_some hb) ha
      (by simpa using List.find?_some hb)]

theorem attribute?_eq_none_iff :
    s.attribute? name = none ↔ ∀ a ∈ s.attributes, a.name ≠ name := by
  simp [attribute?, List.find?_eq_none]

end PagedQuery.Schema
