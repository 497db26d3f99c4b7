import Mathlib
import PagedQuery.Proofs.Text.AsciiCase
import PagedQuery.Settings.Value

/-!
# Spellings in the environment

A text in the environment is taken for a boolean, an integer or a double if it reads as one, and a
setting that is a text has this value written out again. So the text comes out in the spelling that
the value is written in: `TRUE` as `true`, `0042` as `42` and `1.0` as `1`. A text that reads as
none of them comes out as it is, and this is so of every text with a character in it that is neither
a letter or digit of ASCII nor a sign or a point, such as a path with a slash or an address with a
colon.

* `SettingValue.Respells`: the spelling that a text comes out in;
* `SettingValue.text?_ofEnvironment_eq_some_iff`: this is what is made of it;
* `SettingValue.respells_self_of_mem`: texts that come out as they are.
-/

namespace PagedQuery

open Text

variable {s t : String} {cs : List Char} {c : Char}

/-! ## What numbers and words are read off -/

/-- The characters that words and numbers in the environment are read off. -/
def IsGuessed (c : Char) : Prop :=
  c.isAlpha = true ∨ c.isDigit = true ∨ c ∈ ['+', '-', '.']

instance (c : Char) : Decidable (IsGuessed c) :=
  inferInstanceAs (Decidable (_ ∨ _))

theorem isGuessed_of_integer? {n : ℤ} (h : integer? cs = some n) (hc : c ∈ cs) : IsGuessed c := by
  obtain hdigit | rfl | rfl := (integer?_eq_some_iff.1 h).isDigit_or_sign hc
  · exact .inr (.inl hdigit)
  · exact .inr (.inr (by decide))
  · exact .inr (.inr (by decide))

theorem isGuessed_of_mem_takeWhile (hc : c ∈ cs.takeWhile Char.isDigit) : IsGuessed c :=
  .inr (.inl (List.mem_takeWhile_imp hc))

/-- A word that is known in every case is read off letters. -/
theorem isGuessed_of_map_toLower {w : String} (hw : w.toList.all Char.isAlpha = true)
    (h : String.ofList (cs.map Char.toLower) = w) (hc : c ∈ cs) : IsGuessed c := by
  subst h
  rw [String.toList_ofList] at hw
  left
  rw [← Char.isAlpha_toLower_eq_isAlpha]
  exact List.all_eq_true.1 hw _ (List.mem_map_of_mem hc)

namespace Double

theorem isGuessed_of_exponent? {n : ℤ} (h : exponent? cs = some n) (hc : c ∈ cs) :
    IsGuessed c := by
  cases cs with
  | nil => cases hc
  | cons mark rest =>
    rw [exponent?] at h
    split at h
    · next hmark =>
      rw [Bool.or_eq_true, beq_iff_eq, beq_iff_eq] at hmark
      rcases List.mem_cons.1 hc with rfl | hc
      · left
        rcases hmark with rfl | rfl <;> rfl
      · exact isGuessed_of_integer? h hc
    · cases h

theorem isGuessed_of_magnitude? {x : Float} (h : magnitude? cs = some x) (hc : c ∈ cs) :
    IsGuessed c := by
  rw [magnitude?] at h
  rw [← takeWhile_append_drop cs] at hc
  rcases List.mem_append.1 hc with hc | hc
  · exact isGuessed_of_mem_takeWhile hc
  · split at h
    next fraction rest hsplit =>
    split at h
    · cases h
    · obtain ⟨n, hn, -⟩ := Option.map_eq_some_iff.1 h
      split at hsplit
      · next ds hpoint =>
        obtain ⟨rfl, rfl⟩ := Prod.mk.inj hsplit
        rw [hpoint] at hc
        rcases List.mem_cons.1 hc with rfl | hc
        · exact .inr (.inr (by decide))
        · rw [← List.takeWhile_append_dropWhile (p := Char.isDigit) (l := ds)] at hc
          rcases List.mem_append.1 hc with hc | hc
          · exact isGuessed_of_mem_takeWhile hc
          · exact isGuessed_of_exponent? hn hc
      · obtain ⟨-, rfl⟩ := Prod.mk.inj hsplit
        exact isGuessed_of_exponent? hn hc

/-- A double is read off its sign and the rest of the text. -/
theorem isGuessed_of_parse? {x : Float} (h : parse? cs = some x) (hc : c ∈ cs) : IsGuessed c := by
  unfold parse? at h
  split at h
  next negative unsigned hsplit =>
  have hplace : c = '-' ∨ c = '+' ∨ c ∈ unsigned := by
    split at hsplit <;> obtain ⟨-, rfl⟩ := Prod.mk.inj hsplit
    · exact (List.mem_cons.1 hc).imp_right .inr
    · exact .inr (List.mem_cons.1 hc)
    · exact .inr (.inr hc)
  obtain rfl | rfl | hc := hplace
  · exact .inr (.inr (by decide))
  · exact .inr (.inr (by decide))
  obtain ⟨y, hy, -⟩ := Option.map_eq_some_iff.1 h
  simp only [Bool.or_eq_true, decide_eq_true_eq] at hy
  split_ifs at hy with hinf hnan
  · rcases hinf with hinf | hinf
    · exact isGuessed_of_map_toLower (by decide) hinf hc
    · exact isGuessed_of_map_toLower (by decide) hinf hc
  · exact isGuessed_of_map_toLower (by decide) hnan hc
  · exact isGuessed_of_magnitude? hy hc

end Double

/-! ## Spellings -/

namespace SettingValue

/-- The word for a boolean. -/
def wordText (b : Bool) : String :=
  if b then "true" else "false"

/-- The text is the word for a boolean, in some case. -/
def IsWord (b : Bool) (s : String) : Prop :=
  SameButCase (wordText b).toList s.toList

instance (b : Bool) (s : String) : Decidable (IsWord b s) :=
  inferInstanceAs (Decidable (SameButCase _ _))

/-- The spelling in which a text comes out that is taken for what it reads as. -/
inductive Respells : String → String → Prop
  | word {s : String} {b : Bool} : IsWord b s → Respells s (wordText b)
  | integer {s : String} {n : Int64} : (∀ b, ¬IsWord b s) → int64? s.toList = some n →
      Respells s (String.ofList (integerText n.toInt))
  | double {s : String} {x : Float} : (∀ b, ¬IsWord b s) → int64? s.toList = none →
      Double.parse? s.toList = some x → Respells s (doubleText x)
  | plain {s : String} : (∀ b, ¬IsWord b s) → int64? s.toList = none →
      Double.parse? s.toList = none → Respells s s

theorem lowercase_eq_word_iff {b : Bool} :
    String.ofList (lowercase s.toList) = wordText b ↔ IsWord b s := by
  have hletters : (wordText b).toList.all plainSmallLetters.contains = true := by
    cases b <;> decide
  have hsmall : lowercase (wordText b).toList = (wordText b).toList := by
    cases b <;> decide +kernel
  rw [IsWord, ← lowercase_eq_iff (fun d hd => List.elem_iff.1 (List.all_eq_true.1 hletters d hd))
    hsmall, ← String.toList_inj, String.toList_ofList]

theorem ofEnvironment_of_isWord {b : Bool} (h : IsWord b s) : ofEnvironment s = boolean b := by
  have hword := lowercase_eq_word_iff.2 h
  cases b with
  | false => rw [ofEnvironment, hword]; rfl
  | true => rw [ofEnvironment, hword]; rfl

theorem ofEnvironment_of_not_isWord (h : ∀ b, ¬IsWord b s) :
    ofEnvironment s = match int64? s.toList, Double.parse? s.toList with
      | some n, _ => integer n.toInt
      | none, some x => double x
      | none, none => string s := by
  have htrue : String.ofList (lowercase s.toList) ≠ "true" :=
    fun hword => h true (lowercase_eq_word_iff.1 hword)
  have hfalse : String.ofList (lowercase s.toList) ≠ "false" :=
    fun hword => h false (lowercase_eq_word_iff.1 hword)
  exact (if_neg htrue).trans (if_neg hfalse)

theorem text?_ofEnvironment_eq_some_iff : (ofEnvironment s).text? = some t ↔ Respells s t := by
  constructor
  · intro h
    by_cases hword : ∃ b, IsWord b s
    · obtain ⟨b, hb⟩ := hword
      rw [ofEnvironment_of_isWord hb] at h
      cases h
      exact .word hb
    · rw [not_exists] at hword
      rw [ofEnvironment_of_not_isWord hword] at h
      split at h
      · next n hn =>
        cases h
        exact .integer hword hn
      · next x hn hx =>
        cases h
        exact .double hword hn hx
      · next hn hx =>
        cases h
        exact .plain hword hn hx
  · rintro (hb | ⟨hword, hn⟩ | ⟨hword, hn, hx⟩ | ⟨hword, hn, hx⟩)
    · rw [ofEnvironment_of_isWord hb]
      rfl
    · rw [ofEnvironment_of_not_isWord hword, hn]
      rfl
    · rw [ofEnvironment_of_not_isWord hword, hn, hx]
      rfl
    · rw [ofEnvironment_of_not_isWord hword, hn, hx]
      rfl

/-- Every text comes out in some spelling. -/
theorem exists_respells (s : String) : ∃ t, Respells s t := by
  by_cases hword : ∃ b, IsWord b s
  · obtain ⟨b, hb⟩ := hword
    exact ⟨_, .word hb⟩
  rw [not_exists] at hword
  cases hn : int64? s.toList with
  | some n => exact ⟨_, .integer hword hn⟩
  | none =>
    cases hx : Double.parse? s.toList with
    | some x => exact ⟨_, .double hword hn hx⟩
    | none => exact ⟨_, .plain hword hn hx⟩

theorem isGuessed_of_isWord {b : Bool} (h : IsWord b s) (hc : c ∈ s.toList) : IsGuessed c := by
  have hletters : (wordText b).toList.all Char.isAlpha = true := by cases b <;> decide
  have hsmall : String.ofList (lowercaseAscii (wordText b).toList) = wordText b := by
    cases b <;> decide
  rw [h.lowercaseAscii_eq] at hsmall
  exact isGuessed_of_map_toLower hletters hsmall hc

/-- Texts with a character in them that no word and no number has. -/
theorem respells_self_of_mem (hc : c ∈ s.toList) (h : ¬IsGuessed c) : Respells s s := by
  refine .plain (fun b hb => h (isGuessed_of_isWord hb hc)) ?_ ?_
  · refine Option.eq_none_iff_forall_ne_some.2 fun n hn => h ?_
    obtain ⟨m, hm, -⟩ := Option.bind_eq_some_iff.1 hn
    exact isGuessed_of_integer? hm hc
  · exact Option.eq_none_iff_forall_ne_some.2 fun x hx => h (Double.isGuessed_of_parse? hx hc)

end SettingValue

end PagedQuery
