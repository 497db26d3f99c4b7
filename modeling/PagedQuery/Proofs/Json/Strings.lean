import Mathlib
import PagedQuery.Proofs.Survival

/-!
# Strings in JSON and texts that are typed in

A decimal, a date, a timestamp and a text can be given as a string in JSON, and be typed in. A
string stands for no other value than the same text typed in: dates and timestamps are read alike in
both places, white space around them or not, and a text is what it is.

Decimals are read alike but for white space around them, which is dropped from what is typed in and
makes a string stand for no decimal: of the characters that a decimal is read off none is white
space (`Decimal.isBlank_of_mem_of_parse?`). So ` 1.5` can be typed in and is no decimal in JSON
(`blankBeforePrice_not_read`).

* `Value.ofJson?_string_eq_some_iff`: what a string stands for;
* `strings_read_as_typed`: the main result.
-/

namespace PagedQuery

open Text

variable {cs : List Char} {c : Char}

/-! ## What decimals are read off -/

namespace Decimal

/-- The characters that a decimal is read off. -/
def IsNumeralChar (c : Char) : Prop :=
  c.isDigit = true ∨ c ∈ ['_', '-', '+', '.', 'e', 'E']

theorem IsNumeralChar.isBlank_eq_false (h : IsNumeralChar c) : isBlank c = false := by
  have hmarks : ['_', '-', '+', '.', 'e', 'E'].all (fun c => !isBlank c) = true := by decide
  rcases h with hdigit | hmark
  · exact isBlank_of_isDigit hdigit
  · simpa using List.all_eq_true.1 hmarks c hmark

/-- What is split is there on either side of the character that it is split at. -/
theorem eq_of_splitAtFirst {p : Char → Bool} {before : List Char} {after : Option (List Char)}
    (h : splitAtFirst p cs = (before, after)) :
    (after = none ∧ cs = before) ∨
      ∃ d ds, p d = true ∧ after = some ds ∧ cs = before ++ d :: ds := by
  rw [splitAtFirst, List.span_eq_takeWhile_dropWhile] at h
  have hsplit := List.takeWhile_append_dropWhile (p := fun c => !p c) (l := cs)
  cases hrest : cs.dropWhile fun c => !p c with
  | nil =>
    rw [hrest] at h hsplit
    cases h
    rw [List.append_nil] at hsplit
    exact .inl ⟨rfl, hsplit.symm⟩
  | cons d ds =>
    rw [hrest] at h hsplit
    cases h
    have hd := List.head?_dropWhile_not (fun c => !p c) cs
    rw [hrest] at hd
    exact .inr ⟨d, ds, by simpa using hd, rfl, hsplit.symm⟩

theorem isNumeralChar_of_grouped? {n : ℕ} (h : grouped? cs = some n) (hc : c ∈ cs) :
    IsNumeralChar c := by
  unfold grouped? at h
  split at h
  · cases h
  · split at h
    · next hall =>
      have hmark := List.all_eq_true.1 (Bool.and_eq_true_iff.1 hall).2 c hc
      rw [Bool.or_eq_true, beq_iff_eq] at hmark
      exact hmark.imp_right fun h => by simp [h]
    · cases h

theorem isNumeralChar_of_coefficient? {n : ℤ} (h : coefficient? cs = some n) (hc : c ∈ cs) :
    IsNumeralChar c := by
  unfold coefficient? at h
  split at h
  · obtain ⟨_, hm, -⟩ := Option.map_eq_some_iff.1 h
    obtain ⟨m, hm, -⟩ := Option.bind_eq_some_iff.1 hm
    rcases List.mem_cons.1 hc with rfl | hc
    · exact .inr (by decide)
    · exact isNumeralChar_of_grouped? hm hc
  · obtain ⟨m, hm, -⟩ := Option.map_eq_some_iff.1 h
    rcases List.mem_cons.1 hc with rfl | hc
    · exact .inr (by decide)
    · exact isNumeralChar_of_grouped? hm hc
  · obtain ⟨m, hm, -⟩ := Option.map_eq_some_iff.1 h
    exact isNumeralChar_of_grouped? hm hc

theorem isNumeralChar_of_parse? {d : Decimal} (h : parse? cs = some d) (hc : c ∈ cs) :
    IsNumeralChar c := by
  obtain ⟨⟨significand, exponent⟩, hexponent⟩ : ∃ parts,
    splitAtFirst (fun c => c == 'e' || c == 'E') cs = parts := ⟨_, rfl⟩
  obtain ⟨⟨whole, fraction⟩, hfraction⟩ : ∃ parts,
    splitAtFirst (· == '.') significand = parts := ⟨_, rfl⟩
  simp only [parse?, hexponent, hfraction, Option.bind_eq_bind, Option.bind_eq_some_iff] at h
  obtain ⟨x, hx, _, -, n, hn, -⟩ := h
  -- In front of the exponent there is nothing but the coefficient and a point.
  have hsignificand : ∀ c ∈ significand, IsNumeralChar c := by
    intro c hc
    rcases eq_of_splitAtFirst hfraction with ⟨rfl, rfl⟩ | ⟨point, ds, hpoint, rfl, rfl⟩
    · exact isNumeralChar_of_coefficient? hn (List.mem_append_left _ hc)
    · rcases List.mem_append.1 hc with hc | hc
      · exact isNumeralChar_of_coefficient? hn (List.mem_append_left _ hc)
      · rcases List.mem_cons.1 hc with rfl | hc
        · exact .inr (by simp [eq_of_beq hpoint])
        · exact isNumeralChar_of_coefficient? hn (List.mem_append_right _ hc)
  rcases eq_of_splitAtFirst hexponent with ⟨rfl, rfl⟩ | ⟨mark, ds, hmark, rfl, rfl⟩
  · exact hsignificand c hc
  · rcases List.mem_append.1 hc with hc | hc
    · exact hsignificand c hc
    · rcases List.mem_cons.1 hc with rfl | hc
      · rw [Bool.or_eq_true, beq_iff_eq, beq_iff_eq] at hmark
        exact .inr (by simp [hmark])
      · rcases (integer?_eq_some_iff.1 hx).isDigit_or_sign hc with hdigit | hsign
        · exact .inl hdigit
        · exact .inr (by rcases hsign with rfl | rfl <;> decide)

/-- A decimal is read off no white space. -/
theorem isBlank_of_mem_of_parse? {d : Decimal} (h : parse? cs = some d) (hc : c ∈ cs) :
    isBlank c = false :=
  (isNumeralChar_of_parse? h hc).isBlank_eq_false

theorem trim_of_parse? {d : Decimal} (h : parse? cs = some d) : trim cs = cs :=
  trim_eq_self fun _ => isBlank_of_mem_of_parse? h

end Decimal

/-! ## What strings stand for -/

/-- The kinds whose values can be given as strings in JSON. -/
def Kind.asStrings : List Kind :=
  [.decimal, .text, .date, .timestamp]

namespace Value

variable {kind : Kind} {s : String} {v : Value}

/-- A string stands for the value that is read off the same text. White space around a decimal is
    only allowed in the text. -/
theorem ofJson?_string_eq_some_iff (hkind : kind ∈ Kind.asStrings) :
    ofJson? kind (.string s) = some v ↔
      parse? kind s = some v ∧ (kind = .decimal → trim s.toList = s.toList) := by
  cases kind with
  | boolean | integer => exact absurd hkind (by decide)
  | text | date | timestamp => exact (and_iff_left nofun).symm
  | decimal =>
    show (Decimal.parse? s.toList).map decimal = some v ↔
      (Decimal.parse? (trim s.toList)).map decimal = some v ∧ (_ → trim s.toList = s.toList)
    constructor
    · intro h
      obtain ⟨d, hd, -⟩ := Option.map_eq_some_iff.1 h
      have htrim := Decimal.trim_of_parse? hd
      exact ⟨htrim.symm ▸ h, fun _ => htrim⟩
    · rintro ⟨h, htrim⟩
      rwa [htrim rfl] at h

/-- White space around a text does not count, unless it is to be a text. -/
theorem parse?_trim (hkind : kind ≠ .text) :
    parse? kind (String.ofList (trim s.toList)) = parse? kind s := by
  cases kind with
  | text => exact absurd rfl hkind
  | _ => simp only [parse?, String.toList_ofList, trim_trim]

end Value

/-- Where strings in JSON can stand for values of a kind, a string stands for a value if and only if
    the value is read off the same text typed in, except that white space around a decimal is not
    allowed in a string. What is typed in is always read off the string without that white space. -/
theorem strings_read_as_typed (kind : Kind) (hkind : kind ∈ Kind.asStrings) (s : String)
    (v : Value) :
    (Value.ofJson? kind (.string s) = some v ↔
      Value.parse kind s = .ok v ∧ (kind = .decimal → trim s.toList = s.toList)) ∧
    (kind ≠ .text → (Value.parse kind s = .ok v ↔
      Value.ofJson? kind (.string (String.ofList (trim s.toList))) = some v)) := by
  refine ⟨?_, fun htext => ?_⟩
  · rw [Value.ofJson?_string_eq_some_iff hkind, Value.parse_eq_ok_iff]
  · rw [Value.ofJson?_string_eq_some_iff hkind, Value.parse_eq_ok_iff, Value.parse?_trim htext,
      String.toList_ofList, trim_trim]
    exact (and_iff_left fun _ => rfl).symm

/-- A moment with white space around it is read off a string, and a price without. -/
theorem moment_and_price_read :
    (∃ v, Value.ofJson? .timestamp (.string " 2014-09-12T11:15:07\n") = some v) ∧
    Value.ofJson? .decimal (.string "+1_0.50e-3") = some (.decimal ⟨1050, 5⟩) ∧
    Value.ofJson? .decimal (.string " 1.5") ≠ some (.decimal ⟨15, 1⟩) := by
  refine ⟨?_, ?_, fun h => ?_⟩
  · obtain ⟨v, hv⟩ : ∃ v, Value.parse .timestamp " 2014-09-12T11:15:07\n" = .ok v := ⟨_, rfl⟩
    exact ⟨v, (strings_read_as_typed .timestamp (by decide) _ v).1.2 ⟨hv, nofun⟩⟩
  · exact (strings_read_as_typed .decimal (by decide) _ _).1.2 ⟨rfl, fun _ => rfl⟩
  · exact absurd (((strings_read_as_typed .decimal (by decide) _ _).1.1 h).2 rfl) (by decide)

/-- A price with a blank before it can be typed in, and is no price in JSON. -/
theorem blankBeforePrice_not_read :
    ¬∀ kind : Kind, kind ∈ Kind.asStrings → ∀ s : String,
      (∃ v, Value.ofJson? kind (.string s) = some v) ↔ ∃ v, Value.parse kind s = .ok v := by
  intro h
  obtain ⟨v, hv⟩ := (h .decimal (by decide) " 1.5").2 ⟨.decimal ⟨15, 1⟩, rfl⟩
  cases hv

end PagedQuery
