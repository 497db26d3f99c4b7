import Mathlib
import PagedQuery.Database.Cell
import PagedQuery.Proofs.Agreement
import PagedQuery.Proofs.Calendar.RoundTrip
import PagedQuery.Proofs.Decimal.RoundTrip

/-!
# Values and identifiers survive being kept

What is read from a text is what was written (`Value.exists_parse?_toText`), and what is read from a
cell is what was put there (`Value.exists_ofCell_toCell`, `RecordId.ofCell_toCell`). For decimals
this is so up to `Value.Agrees`: the kind is the same and the two compare equal, but the scale may
be another one. A table that looks for an identifier finds it and no other (`RecordId.same_toCell`).
-/

namespace PagedQuery

open Text

namespace Value

/-- A value that agrees with another one, and is this very one unless the two are decimals. -/
structure Survives (v w : Value) : Prop extends v.Agrees w where
  same : v.kind? ≠ some .decimal → w = v

theorem Survives.refl (v : Value) : v.Survives v :=
  ⟨.refl v, fun _ => rfl⟩

/-- A value survives being written as text. -/
theorem exists_parse?_toText {v : Value} {kind : Kind} (h : v.kind? = some kind) :
    ∃ w, parse? kind v.toText = some w ∧ v.Survives w := by
  cases v with
  | null => cases h
  | boolean b =>
    cases h
    exact ⟨.boolean b, by cases b <;> rfl, .refl _⟩
  | integer n =>
    cases h
    refine ⟨.integer n, ?_, .refl _⟩
    rw [parse?, toText, String.toList_ofList, int64?_trim_integerText]
    rfl
  | decimal d =>
    cases h
    -- The one kind whose values may change: the scale is not kept, the number is.
    obtain ⟨e, he, hvalue⟩ := Decimal.exists_parse?_text d
    refine ⟨.decimal e, ?_, ⟨rfl, Decimal.compare_eq_eq_iff.2 hvalue.symm⟩, fun h => absurd rfl h⟩
    rw [parse?, toText, String.toList_ofList, trim_eq_self fun _ => Decimal.isBlank_of_mem_text, he]
    rfl
  | text s =>
    cases h
    exact ⟨.text s, rfl, .refl _⟩
  | date d =>
    cases h
    refine ⟨.date d, ?_, .refl _⟩
    rw [parse?, toText, String.toList_ofList, Date.trim_text, Date.parse?_text]
    rfl
  | timestamp t =>
    cases h
    refine ⟨.timestamp t, ?_, .refl _⟩
    rw [parse?, toText, String.toList_ofList, Timestamp.trim_text, Timestamp.parse?_text]
    rfl

/-- A value that is kept as text is read back as what its text stands for. -/
theorem ofCell_text {kind : Kind} {s : String} {v : Value} (hboolean : kind ≠ .boolean)
    (hinteger : kind ≠ .integer) (h : parse? kind s = some v) : ofCell kind (.text s) = .ok v := by
  cases kind with
  | boolean => exact absurd rfl hboolean
  | integer => exact absurd rfl hinteger
  | decimal | text | date | timestamp => rw [ofCell, h] <;> nofun

/-- A value survives being kept in a cell. -/
theorem exists_ofCell_toCell {v : Value} {kind : Kind} (h : v.kind? = some kind) :
    ∃ w, ofCell kind v.toCell = .ok w ∧ v.Survives w := by
  cases v with
  | null => cases h
  | boolean b =>
    cases h
    exact ⟨.boolean b, by cases b <;> rfl, .refl _⟩
  | integer n =>
    cases h
    exact ⟨.integer n, rfl, .refl _⟩
  | decimal | text | date | timestamp =>
    obtain ⟨w, hw, hsurvives⟩ := exists_parse?_toText h
    cases h
    exact ⟨w, ofCell_text (by decide) (by decide) hw, hsurvives⟩

end Value

namespace RecordId

theorem ofCell_toCell (i : RecordId) : ofCell i.toCell = .ok i := by
  cases i <;> rfl

/-- A table finds an identifier where this identifier is kept, and nowhere else. -/
theorem same_toCell {i j : RecordId} : Cell.same i.toCell j.toCell = true ↔ i = j := by
  cases i <;> cases j <;> simp [toCell, Cell.same]

end RecordId

end PagedQuery
