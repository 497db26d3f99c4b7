import Mathlib
import PagedQuery.Proofs.Json.Lexing
import PagedQuery.Proofs.Json.Meaning

/-!
# JSON survives being written

A string, an integer of 64 bits and a boolean are read back from JSON text as what they were. A
string may hold every character: those that cannot stand between quotes are escaped, in one of two
ways (`IsEscaped`), and what is escaped may stand there and stands for its character.

* `isBody_flatMap_escaped`, `unescapes_flatMap_escaped`: strings, as written and as read;
* `Literal.isWritten_ofInteger`, `Literal.isInteger_ofInteger`: integers, as written and as read;
* `parse?_compact_string`, `parse?_compact_integer`, `parse?_compact_bool`: whole texts.
-/

namespace PagedQuery.Json

open Text

/-! ## Strings -/

/-- How a character stands inside a string: behind a backslash, as a letter or as a number, or as it
    is. -/
inductive IsEscaped (c : Char) : List Char → Prop
  | letter {d : Char} : d ∈ ['"', '\\', '/', 'b', 'f', 'n', 'r', 't'] → simpleEscape d = c →
      IsEscaped c ['\\', d]
  | number : c.toNat < 0x20 →
      IsEscaped c ['\\', 'u', '0', '0', hexDigit (c.toNat / 16), hexDigit (c.toNat % 16)]
  | plain : c ≠ '"' → c ≠ '\\' → 0x20 ≤ c.toNat → IsEscaped c [c]

theorem isEscaped_escaped (c : Char) : IsEscaped c (escaped c) := by
  unfold escaped
  split
  case h_8 hquote hbackslash _ _ _ _ _ =>
    split
    · next h => exact .number h
    · next h => exact .plain hquote hbackslash (not_lt.1 h)
  all_goals exact .letter (by decide) rfl

theorem isHexDigit_hexDigit {n : ℕ} (h : n < 16) : isHexDigit (hexDigit n) = true := by
  revert n
  decide

theorem hexNumber_hexDigits {n : ℕ} (h : n < 0x20) :
    hexNumber ['0', '0', hexDigit (n / 16), hexDigit (n % 16)] = n := by
  revert n
  decide

variable {c : Char} {cs s text : List Char}

/-- A character that is escaped may stand between quotes. -/
theorem IsEscaped.isBody (h : IsEscaped c text) : IsBody text := by
  cases h with
  | letter hd _ => exact .letter hd .nil
  | number hc =>
    refine .unit ?_ .nil
    have hhigh := isHexDigit_hexDigit (show c.toNat / 16 < 16 by omega)
    have hlow := isHexDigit_hexDigit (Nat.mod_lt c.toNat (by decide : 0 < 16))
    simp [hhigh, hlow, show isHexDigit '0' = true from rfl]
  | plain hquote hbackslash hc => exact .plain hquote hbackslash hc .nil

/-- A character that is escaped stands for itself. -/
theorem IsEscaped.unescapes (h : IsEscaped c text) (hs : Unescapes cs s) :
    Unescapes (text ++ cs) (c :: s) := by
  cases h with
  | @letter d hd hc =>
    have hu : d ≠ 'u' := fun hu => by simp [hu] at hd
    rw [← hc]
    exact .letter (fun h => absurd h hu) hs
  | number hc =>
    have hunit := Unescapes.unit (hexNumber_hexDigits hc) (.inl (hc.trans (by decide))) hs
    rwa [Char.ofNat_toNat] at hunit
  | plain _ hbackslash _ => exact .plain (fun h => absurd h hbackslash) hs

theorem isBody_flatMap_escaped (s : List Char) : IsBody (s.flatMap escaped) := by
  induction s with
  | nil => exact .nil
  | cons c s ih => exact (isEscaped_escaped c).isBody.append ih

theorem unescapes_flatMap_escaped (s : List Char) : Unescapes (s.flatMap escaped) s := by
  induction s with
  | nil => exact .nil
  | cons c s ih => exact (isEscaped_escaped c).unescapes ih

/-! ## Integers -/

/-- A number that is not zero does not begin with a zero. -/
theorem exists_naturalText {n : ℕ} (hn : n ≠ 0) :
    ∃ d ds, naturalText n = d :: ds ∧ d ≠ '0' := by
  induction n using Nat.strongRecOn with
  | ind n ih =>
    by_cases hlt : n < 10
    · refine ⟨n.digitChar, [], Nat.toDigits_of_lt_base hlt, ?_⟩
      have hdigit : ∀ m < 10, m ≠ 0 → m.digitChar ≠ '0' := by decide
      exact hdigit n hlt hn
    · obtain ⟨d, ds, hds, hd⟩ := ih (n / 10) (by omega) (by omega)
      rw [naturalText] at hds
      rw [naturalText, Nat.toDigits_of_base_le (by decide) (not_lt.1 hlt), hds]
      exact ⟨d, _, rfl, hd⟩

/-- An integer as it is written: its digits, without a point or an exponent. -/
def Literal.ofInteger (n : ℤ) : Literal :=
  ⟨decide (n < 0), naturalText n.natAbs, [], none⟩

theorem Literal.negative_ofInteger_iff {n : ℤ} : (Literal.ofInteger n).negative = true ↔ n < 0 :=
  decide_eq_true_iff

theorem Literal.isWritten_ofInteger (n : ℤ) : (Literal.ofInteger n).IsWritten (integerText n) := by
  have hwhole : IsWhole (naturalText n.natAbs) := by
    by_cases hn : n.natAbs = 0
    · rw [hn]
      exact .inl rfl
    · obtain ⟨d, ds, hds, hd⟩ := exists_naturalText hn
      exact .inr ⟨d, ds, hds, hd, hds ▸ allDigits_naturalText n.natAbs⟩
  refine ⟨naturalText n.natAbs, ⟨hwhole, [], [], .inl ⟨rfl, rfl⟩, .inl ⟨rfl, rfl⟩, ?_⟩, ?_⟩
  · exact (List.append_nil _).symm
  · exact if_congr negative_ofInteger_iff.symm rfl rfl

/-- An integer of 64 bits is read exactly. -/
theorem Literal.isInteger_ofInteger (n : Int64) : (Literal.ofInteger n.toInt).IsInteger n.toInt := by
  have hmin := Int64.le_iff_toInt_le.1 (Int64.minValue_le n)
  have hmax := Int64.le_iff_toInt_le.1 (Int64.le_maxValue n)
  rw [show Int64.maxValue.toInt = 9223372036854775807 from rfl] at hmax
  refine ⟨rfl, rfl, ?_, hmin, ?_, fun h => (negative_ofInteger_iff.1 h).ne⟩
  · rw [signed, if_congr negative_ofInteger_iff rfl rfl, ofInteger, ofDigitChars_naturalText]
    split <;> omega
  · rw [UInt64.size]
    omega

/-! ## Values -/

/-- The text of a token that is a document of its own is the text of this document. -/
theorem Document.parse?_of_isWritten {d : Document} {token : Token} (hd : d.tokens = [token])
    (h : token.IsWritten cs) : Document.parse? cs = some d := by
  have hspells : Spells [token] (cs ++ []) := .token h nofun .nil
  rw [List.append_nil, ← hd] at hspells
  exact Document.parse?_eq_some_iff.2 hspells

theorem parse?_compact_string (s : String) : parse? (compact (.string s)) = some (.string s) := by
  have hdocument := Document.parse?_of_isWritten (d := .string (s.toList.flatMap escaped)) rfl
    (.string (isBody_flatMap_escaped s.toList))
  rw [parse?, compact, String.toList_ofList, chars, quoted, hdocument]
  show (unescape? (s.toList.flatMap escaped)).map _ = _
  rw [unescape?_eq_some_iff.2 (unescapes_flatMap_escaped s.toList), Option.map_some,
    String.ofList_toList]

theorem parse?_compact_integer (n : Int64) :
    parse? (compact (.integer n.toInt)) = some (.integer n.toInt) := by
  have hdocument := Document.parse?_of_isWritten (d := .number (.ofInteger n.toInt)) rfl
    (.number (Literal.isWritten_ofInteger n.toInt))
  rw [parse?, compact, String.toList_ofList, chars, hdocument]
  exact Literal.value?_eq_some_iff.2 (.integer (Literal.isInteger_ofInteger n))

theorem parse?_compact_bool (b : Bool) : parse? (compact (.bool b)) = some (.bool b) := by
  cases b <;> rfl

end PagedQuery.Json
