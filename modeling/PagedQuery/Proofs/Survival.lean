import Mathlib
import PagedQuery.Proofs.Database.Cell
import PagedQuery.Proofs.Json.RoundTrip
import PagedQuery.Proofs.Reading

/-!
# Values survive every form that they take

A value is read from a text or from JSON, and written as a text, as JSON or into a cell. Whatever
form it is written in, reading this form for its kind gives it back: every text with all of its
characters, every integer, every day of the calendar and every moment, down to a leap second. A
decimal comes back as the same number, with the digits that this number is written with.

* `Value.exists_parse?_toText`, `Value.exists_ofCell_toCell`: texts and cells;
* `Value.exists_ofJson?_toJson`, `Value.parse?_compact_toJson`: JSON, as a value and as a text;
* `Value.Obtained`: where values come from;
* `values_survive_every_form`: the main result.
-/

namespace PagedQuery

open Text

namespace Value

variable {kind : Kind} {v : Value}

/-- A value of a kind that is read from a text or from JSON, and is not null. -/
inductive Obtained (kind : Kind) (v : Value) : Prop
  | text {raw : String} : parse kind raw = .ok v → Obtained kind v
  | json {json : Json} : ofJson? kind json = some v → v ≠ .null → Obtained kind v

theorem parse_eq_ok_iff {raw : String} : parse kind raw = .ok v ↔ parse? kind raw = some v := by
  rw [parse]
  cases parse? kind raw <;> simp

theorem Obtained.kind? (h : Obtained kind v) : v.kind? = some kind := by
  rcases h with h | ⟨h, hnull⟩
  · exact kind?_of_parse? (parse_eq_ok_iff.1 h)
  · refine (ofJson?_eq_some_iff.1 h).kind?.resolve_left fun hnone => hnull ?_
    cases v with
    | null => rfl
    | _ => cases hnone

/-- A value survives being written as JSON. -/
theorem exists_ofJson?_toJson (h : v.kind? = some kind) :
    ∃ w, ofJson? kind v.toJson = some w ∧ v.Survives w := by
  cases v with
  | null => cases h
  | boolean b =>
    cases h
    exact ⟨.boolean b, rfl, .refl _⟩
  | integer n =>
    cases h
    refine ⟨.integer n, ?_, .refl _⟩
    rw [toJson, ofJson?, toInt64?_toInt, Option.map_some]
  | text s =>
    cases h
    exact ⟨.text s, rfl, .refl _⟩
  | decimal d =>
    obtain ⟨w, hw, hsurvives⟩ := exists_parse?_toText h
    cases h
    refine ⟨w, ?_, hsurvives⟩
    rw [parse?, toText, String.toList_ofList, trim_eq_self fun _ => Decimal.isBlank_of_mem_text]
      at hw
    show (Decimal.parse? (String.ofList d.text).toList).map decimal = some w
    rw [String.toList_ofList, hw]
  | date | timestamp =>
    obtain ⟨w, hw, hsurvives⟩ := exists_parse?_toText h
    cases h
    exact ⟨w, hw, hsurvives⟩

/-- JSON text that a value is written as is read as the JSON that it is. -/
theorem parse?_compact_toJson (h : v.kind? = some kind) :
    Json.parse? v.toJson.compact = some v.toJson := by
  cases v with
  | null => cases h
  | boolean b => exact Json.parse?_compact_bool b
  | integer n => exact Json.parse?_compact_integer n
  | decimal | text | date | timestamp => exact Json.parse?_compact_string _

end Value

/-- Whatever value of a kind is read from a text or from JSON, it is of this kind, and it survives
    being written as a text, as JSON and into a cell: what each of them is read as is of the kind,
    too, equals the value, and is the value itself unless it is a decimal. The text of the JSON is
    read as this JSON. -/
theorem values_survive_every_form (kind : Kind) (v : Value) (h : Value.Obtained kind v) :
    v.kind? = some kind ∧
    (∃ w, Value.parse kind v.toText = .ok w ∧ w.kind? = some kind ∧ v.Survives w) ∧
    (∃ w, Value.ofJson? kind v.toJson = some w ∧ w.kind? = some kind ∧ v.Survives w) ∧
    Json.parse? v.toJson.compact = some v.toJson ∧
    ∃ w, Value.ofCell kind v.toCell = .ok w ∧ w.kind? = some kind ∧ v.Survives w := by
  have hkind := h.kind?
  obtain ⟨fromText, htext, hfromText⟩ := Value.exists_parse?_toText hkind
  obtain ⟨fromJson, hjson, hfromJson⟩ := Value.exists_ofJson?_toJson hkind
  obtain ⟨fromCell, hcell, hfromCell⟩ := Value.exists_ofCell_toCell hkind
  have hsame {w : Value} (hw : v.Survives w) : w.kind? = some kind := hw.kind ▸ hkind
  exact ⟨hkind, ⟨fromText, Value.parse_eq_ok_iff.2 htext, hsame hfromText, hfromText⟩,
    ⟨fromJson, hjson, hsame hfromJson, hfromJson⟩, Value.parse?_compact_toJson hkind,
    fromCell, hcell, hsame hfromCell, hfromCell⟩

/-- A number of eighteen digits that is written with an exponent comes back with all of its zeros.
    A moment within a leap second, and a day before the common era, are what they were. -/
theorem rare_values_survive :
    (∃ v w, Value.parse .decimal "1.50e17" = .ok v ∧ v.toText = "150000000000000000" ∧
      Value.parse .decimal v.toText = .ok w ∧ Ord.compare v w = .eq ∧ w ≠ v) ∧
    (∃ v, Value.parse .timestamp "2016-12-31T23:59:60.5" = .ok v ∧
      v.toText = "2016-12-31 23:59:60.500" ∧ Value.ofJson? .timestamp v.toJson = some v) ∧
    ∃ v, Value.ofJson? .date (.string "-0044-03-15 ") = some v ∧
      Value.ofCell .date v.toCell = .ok v := by
  refine ⟨?_, ?_, ?_⟩
  · have hread : Value.parse .decimal "1.50e17" = .ok (.decimal ⟨150, -15⟩) := rfl
    obtain ⟨-, ⟨w, hw, -, hsurvives⟩, -⟩ := values_survive_every_form _ _ (.text hread)
    refine ⟨_, w, hread, rfl, hw, hsurvives.compare, ?_⟩
    rintro rfl
    exact absurd hw (by decide)
  · obtain ⟨v, hread, htext⟩ : ∃ v, Value.parse .timestamp "2016-12-31T23:59:60.5" = .ok v ∧
      v.toText = "2016-12-31 23:59:60.500" := ⟨_, rfl, rfl⟩
    obtain ⟨hkind, -, ⟨w, hw, -, hsurvives⟩, -⟩ := values_survive_every_form _ _ (.text hread)
    exact ⟨v, hread, htext, hsurvives.same (by simp [hkind]) ▸ hw⟩
  · obtain ⟨v, hread, hnull⟩ : ∃ v, Value.ofJson? .date (.string "-0044-03-15 ") = some v ∧
      v ≠ .null := ⟨_, rfl, nofun⟩
    obtain ⟨hkind, -, -, -, w, hw, -, hsurvives⟩ :=
      values_survive_every_form _ _ (.json hread hnull)
    exact ⟨v, hread, hsurvives.same (by simp [hkind]) ▸ hw⟩

end PagedQuery
