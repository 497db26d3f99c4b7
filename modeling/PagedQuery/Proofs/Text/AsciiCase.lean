import Mathlib
import PagedQuery.Proofs.Text.Digits
import PagedQuery.Proofs.Text.Lowercase

/-!
# The case of ASCII letters

The small form of a text does not depend on the case of the ASCII letters in it. This is not only a
matter of the letters themselves: a capital sigma looks at the characters around it, and what it
sees must not depend on their case either. It asks of them whether they are skipped and whether they
are cased letters (`startsCased`), and ASCII letters answer this alike in both cases.

* `SameButCase`: texts that are the same but for the case of ASCII letters;
* `startsCased_lowercaseAscii`, `lowercaseWithin_lowercaseAscii`: what is around a character, and
  the small form that it has there;
* `lowercase_lowercaseAscii`, `SameButCase.lowercase_eq`: the small form of a text;
* `lowercase_eq_iff`: the texts whose small form is a given word;
* `lowercase_integerText`: integers are written without letters.
-/

namespace PagedQuery.Text

variable {cs ds : List Char} {c : Char}

/-- Texts that are the same but for the case of ASCII letters, any of which may be changed. -/
def SameButCase : List Char → List Char → Prop :=
  List.Forall₂ fun c d => d = c ∨ d = c.toLower ∨ d = c.toUpper

instance (cs ds : List Char) : Decidable (SameButCase cs ds) :=
  inferInstanceAs (Decidable (List.Forall₂ _ cs ds))

theorem SameButCase.refl (cs : List Char) : SameButCase cs cs :=
  List.forall₂_same.2 fun _ _ => .inl rfl

theorem SameButCase.lowercaseAscii_eq (h : SameButCase cs ds) :
    lowercaseAscii cs = lowercaseAscii ds := by
  induction h with
  | nil => rfl
  | cons hcd _ ih =>
    refine congrArg₂ List.cons ?_ ih
    rcases hcd with rfl | rfl | rfl
    · rfl
    · rw [Char.toLower_toLower_eq_toLower]
    · rw [Char.toLower_toUpper_eq_toLower]

theorem lowercaseAscii_eq_iff : lowercaseAscii cs = lowercaseAscii ds ↔ SameButCase cs ds := by
  refine ⟨fun h => ?_, SameButCase.lowercaseAscii_eq⟩
  rw [lowercaseAscii, lowercaseAscii, ← List.forall₂_eq_eq_eq, List.forall₂_map_left_iff,
    List.forall₂_map_right_iff] at h
  refine h.imp fun c d hcd => ?_
  by_cases hd : d.isUpper = true
  · have hsame := Char.toUpper_eq_of_not_isLower (Char.not_isLower_of_isUpper hd)
    exact .inr (.inr (by rw [← Char.toUpper_toLower_eq_toUpper, hcd,
      Char.toUpper_toLower_eq_toUpper, hsame]))
  · exact .inr (.inl (by rw [hcd, Char.toLower_eq_of_not_isUpper hd]))

/-! ## Characters -/

/-- The capital letters of ASCII. -/
def asciiCapitals : List Char :=
  (List.range' 65 26).map Char.ofNat

theorem mem_asciiCapitals (h : c.isUpper = true) : c ∈ asciiCapitals := by
  have hrange : 65 ≤ c.toNat ∧ c.toNat ≤ 90 := by
    simpa [Char.isUpper, UInt32.le_iff_toNat_le] using h
  refine List.mem_map.2 ⟨c.toNat, List.mem_range'_1.2 ?_, Char.ofNat_toNat c⟩
  omega

/-- What is the same of each capital letter of ASCII and of its small letter is the same of every
    character whatever its case. -/
theorem apply_toLower {β : Type} [DecidableEq β] {f : Char → β}
    (h : asciiCapitals.all (fun c => f c.toLower = f c) = true) (c : Char) :
    f c.toLower = f c := by
  by_cases hc : c.isUpper = true
  · exact of_decide_eq_true (List.all_eq_true.1 h c (mem_asciiCapitals hc))
  · rw [Char.toLower_eq_of_not_isUpper hc]

/-- No letter of ASCII is skipped: some characters between the capitals and the small letters are,
    and this is where the ranges come closest. -/
theorem isCaseIgnorable_of_isAlpha (h : c.isAlpha = true) : isCaseIgnorable c = false := by
  have hletter : 65 ≤ c.toNat ∧ c.toNat ≤ 90 ∨ 97 ≤ c.toNat ∧ c.toNat ≤ 122 := by
    simpa [Char.isAlpha, Char.isUpper, Char.isLower, UInt32.le_iff_toNat_le] using h
  have hranges : caseIgnorableRanges.all
      (fun range => range.2 < 65 || (90 < range.1 && range.2 < 97) || 122 < range.1) = true := by
    decide +kernel
  refine List.any_eq_false.2 fun range hrange => ?_
  have houtside := List.all_eq_true.1 hranges range hrange
  simp only [Bool.or_eq_true, Bool.and_eq_true, decide_eq_true_eq] at houtside ⊢
  omega

@[simp]
theorem isCaseIgnorable_toLower (c : Char) : isCaseIgnorable c.toLower = isCaseIgnorable c := by
  by_cases h : c.isAlpha = true
  · rw [isCaseIgnorable_of_isAlpha h, isCaseIgnorable_of_isAlpha]
    rwa [Char.isAlpha_toLower_eq_isAlpha]
  · have hupper : ¬c.isUpper = true := fun hupper => h (by rw [Char.isAlpha, hupper, Bool.true_or])
    rw [Char.toLower_eq_of_not_isUpper hupper]

@[simp]
theorem isCased_toLower (c : Char) : isCased c.toLower = isCased c :=
  apply_toLower (by decide +kernel) c

@[simp]
theorem lowercaseChar_toLower (c : Char) : lowercaseChar c.toLower = lowercaseChar c :=
  apply_toLower (by decide +kernel) c

theorem toLower_eq_sigma_iff : c.toLower = 'Σ' ↔ c = 'Σ' :=
  decide_eq_decide.1 (apply_toLower (f := fun c => decide (c = 'Σ')) (by decide +kernel) c)

theorem toLower_eq_dotted_iff : c.toLower = 'İ' ↔ c = 'İ' :=
  decide_eq_decide.1 (apply_toLower (f := fun c => decide (c = 'İ')) (by decide +kernel) c)

/-! ## Texts -/

theorem lowercaseAscii_cons (c : Char) (cs : List Char) :
    lowercaseAscii (c :: cs) = c.toLower :: lowercaseAscii cs := rfl

theorem startsCased_lowercaseAscii (cs : List Char) :
    startsCased (lowercaseAscii cs) = startsCased cs := by
  have hskip : isCaseIgnorable ∘ Char.toLower = isCaseIgnorable := funext isCaseIgnorable_toLower
  rw [startsCased, startsCased, lowercaseAscii, List.dropWhile_map, hskip]
  cases cs.dropWhile isCaseIgnorable with
  | nil => rfl
  | cons c cs => exact isCased_toLower c

/-- A character has the same small form whatever the case of the ASCII letters around it, and its
    own if it is one. -/
theorem lowercaseWithin_lowercaseAscii (before : List Char) (c : Char) (after : List Char) :
    lowercaseWithin (lowercaseAscii before) c.toLower (lowercaseAscii after) =
      lowercaseWithin before c after := by
  simp only [lowercaseWithin, toLower_eq_sigma_iff, toLower_eq_dotted_iff,
    startsCased_lowercaseAscii, lowercaseChar_toLower]

theorem lowercaseAfter_lowercaseAscii (before cs : List Char) :
    lowercaseAfter (lowercaseAscii before) (lowercaseAscii cs) = lowercaseAfter before cs := by
  induction cs generalizing before with
  | nil => rfl
  | cons c cs ih =>
    rw [lowercaseAscii_cons, lowercaseAfter_cons, lowercaseAfter_cons,
      lowercaseWithin_lowercaseAscii, ← lowercaseAscii_cons, ih]

theorem lowercase_lowercaseAscii (cs : List Char) : lowercase (lowercaseAscii cs) = lowercase cs :=
  lowercaseAfter_lowercaseAscii [] cs

/-- The small form of a text does not depend on the case of its ASCII letters. -/
theorem SameButCase.lowercase_eq (h : SameButCase cs ds) : lowercase cs = lowercase ds := by
  rw [← lowercase_lowercaseAscii cs, h.lowercaseAscii_eq, lowercase_lowercaseAscii]

/-! ## Words -/

/-- The small letters of ASCII, but for `k`. -/
def plainSmallLetters : List Char :=
  "abcdefghijlmnopqrstuvwxyz".toList

/-- No capital outside ASCII has one of these for its small letter. The Kelvin sign has `k`. -/
theorem eq_or_eq_toUpper_of_lowercaseChar {d : Char} (hd : d ∈ plainSmallLetters)
    (h : lowercaseChar c = d) : c = d ∨ c = d.toUpper := by
  have hruns : capitalRuns.all (fun run => plainSmallLetters.all fun d =>
      !run.contains (d.toNat - run.shift).toNat || (d.toNat - run.shift).toNat == d.toUpper.toNat)
      = true := by
    decide +kernel
  have hpos : plainSmallLetters.all (0 < ·.toNat) = true := by decide
  have hletter : 0 < d.toNat := of_decide_eq_true (List.all_eq_true.1 hpos d hd)
  rw [lowercaseChar] at h
  split at h
  · next run hrun =>
    have hcontains : run.contains c.toNat = true := by simpa using List.find?_some hrun
    have hcheck := List.all_eq_true.1
      (List.all_eq_true.1 hruns run (List.mem_of_find?_eq_some hrun)) d hd
    have hshift : ((c.toNat : ℤ) + run.shift).toNat = d.toNat := by
      have hvalue := congrArg Char.toNat h
      rw [Char.toNat_ofNat] at hvalue
      split at hvalue <;> omega
    have hback : ((d.toNat : ℤ) - run.shift).toNat = c.toNat := by omega
    rw [hback, hcontains] at hcheck
    right
    exact Char.toNat_inj.1 (by simpa using hcheck)
  · exact .inl h

/-- A text whose small form is a word of such letters is the word in some case. -/
theorem sameButCase_of_lowercaseAfter {before w : List Char} (hw : ∀ d ∈ w, d ∈ plainSmallLetters)
    (h : lowercaseAfter before cs = w) : SameButCase w cs := by
  induction cs generalizing before w with
  | nil =>
    subst h
    exact .nil
  | cons c cs ih =>
    subst h
    rw [lowercaseAfter_cons] at hw ⊢
    obtain ⟨hletter, hrest⟩ := List.forall_mem_append.1 hw
    rw [lowercaseWithin] at hletter ⊢
    split_ifs at hletter ⊢ with hsigma _ hdotted
    · exact absurd (hletter _ List.mem_cons_self) (by decide)
    · exact absurd (hletter _ List.mem_cons_self) (by decide)
    · exact absurd (hletter '\u0307' (by decide)) (by decide)
    · refine .cons ?_ (ih hrest rfl)
      exact (eq_or_eq_toUpper_of_lowercaseChar (hletter _ List.mem_cons_self) rfl).imp_right .inr

/-- The texts whose small form is a word of such letters are the word in every case. -/
theorem lowercase_eq_iff {w : List Char} (hw : ∀ d ∈ w, d ∈ plainSmallLetters)
    (hsmall : lowercase w = w) : lowercase cs = w ↔ SameButCase w cs := by
  refine ⟨sameButCase_of_lowercaseAfter hw, fun h => ?_⟩
  rw [← h.lowercase_eq, hsmall]

/-! ## Integers -/

/-- There are no capitals in front of `A`. -/
theorem lowercaseWithin_of_lt (before : List Char) (h : c.toNat < 65) (after : List Char) :
    lowercaseWithin before c after = [c] := by
  have hsigma : c ≠ 'Σ' := by
    rintro rfl
    exact absurd h (by decide)
  have hdotted : c ≠ 'İ' := by
    rintro rfl
    exact absurd h (by decide)
  have hruns : capitalRuns.all (65 ≤ ·.first) = true := by decide
  have hnone : capitalRuns.find? (·.contains c.toNat) = none := by
    refine List.find?_eq_none.2 fun run hrun hcontains => ?_
    have hfirst : 65 ≤ run.first := of_decide_eq_true (List.all_eq_true.1 hruns run hrun)
    simp only [CapitalRun.contains, Bool.and_eq_true, decide_eq_true_eq] at hcontains
    omega
  rw [lowercaseWithin, if_neg hsigma, if_neg hdotted, lowercaseChar, hnone]

theorem lowercaseAfter_of_lt (before : List Char) (h : ∀ c ∈ cs, c.toNat < 65) :
    lowercaseAfter before cs = cs := by
  induction cs generalizing before with
  | nil => rfl
  | cons c cs ih =>
    rw [List.forall_mem_cons] at h
    rw [lowercaseAfter_cons, lowercaseWithin_of_lt _ h.1, ih _ h.2, List.singleton_append]

theorem lowercase_integerText (n : ℤ) : lowercase (integerText n) = integerText n := by
  refine lowercaseAfter_of_lt [] fun c hc => ?_
  rcases mem_integerText hc with rfl | hdigit
  · decide
  · exact (Char.isDigit_iff_toNat.1 hdigit).2.trans_lt (by decide)

end PagedQuery.Text
