import Mathlib
import PagedQuery.Text.Blank
import PagedQuery.Text.Integer

/-!
# Digits and integers as text

An integer that is written is read back as it was (`integer?_integerText`, `int64?_integerText`),
what is read as one is some digits, perhaps with a sign (`integer?_eq_some_iff`), and a text
without white space at its ends, such as one that was trimmed, is not changed by trimming it
(`trim_eq_self`, `trim_trim`).
-/

namespace PagedQuery.Text

/-! ## Digits -/

/-- All characters of a text are ASCII digits. -/
def AllDigits (cs : List Char) : Prop :=
  ∀ c ∈ cs, c.isDigit = true

theorem allDigits_naturalText (n : ℕ) : AllDigits (naturalText n) :=
  fun _ hc => Nat.isDigit_of_mem_toDigits (by decide) (by decide) hc

theorem naturalText_ne_nil (n : ℕ) : naturalText n ≠ [] :=
  Nat.toDigits_ne_nil

theorem ofDigitChars_naturalText (n : ℕ) : Nat.ofDigitChars 10 (naturalText n) 0 = n :=
  Nat.ofDigitChars_ten_toDigits

theorem allDigits_replicate_zero (n : ℕ) : AllDigits (List.replicate n '0') := by
  intro c hc
  rw [List.eq_of_mem_replicate hc]
  rfl

theorem allDigits_append {cs ds : List Char} :
    AllDigits (cs ++ ds) ↔ AllDigits cs ∧ AllDigits ds :=
  List.forall_mem_append

theorem AllDigits.sublist {cs ds : List Char} (hds : AllDigits ds) (h : cs.Sublist ds) :
    AllDigits cs :=
  fun c hc => hds c (h.subset hc)

theorem AllDigits.takeWhile {cs : List Char} (h : AllDigits cs) : cs.takeWhile Char.isDigit = cs :=
  List.takeWhile_eq_self_iff.2 h

theorem AllDigits.filter {cs : List Char} (h : AllDigits cs) : cs.filter Char.isDigit = cs :=
  List.filter_eq_self.2 h

/-- A digit differs from every character that is not one. -/
theorem ne_of_isDigit {c d : Char} (hc : c.isDigit = true) (hd : d.isDigit = false) : c ≠ d := by
  rintro rfl
  rw [hc] at hd
  cases hd

/-- The text does not start with a digit. -/
def StartsOff (cs : List Char) : Prop :=
  ∀ c ∈ cs.head?, c.isDigit = false

theorem startsOff_cons {c : Char} (hc : c.isDigit = false) (cs : List Char) :
    StartsOff (c :: cs) := by
  rintro _ ⟨⟩
  exact hc

theorem StartsOff.takeWhile {cs : List Char} (h : StartsOff cs) :
    cs.takeWhile Char.isDigit = [] := by
  cases cs with
  | nil => rfl
  | cons c cs => rw [List.takeWhile_cons_of_neg (by rw [h c rfl]; decide)]

/-- The digits in front of a text that does not start with one. -/
theorem takeWhile_append {ds rest : List Char} (h : AllDigits ds) (hrest : StartsOff rest) :
    (ds ++ rest).takeWhile Char.isDigit = ds := by
  rw [List.takeWhile_append_of_pos h, hrest.takeWhile, List.append_nil]

theorem allDigits_takeWhile (cs : List Char) : AllDigits (cs.takeWhile Char.isDigit) :=
  fun _ => List.mem_takeWhile_imp

/-- A text is the digits that it begins with, and the rest. -/
theorem takeWhile_append_drop (cs : List Char) :
    cs.takeWhile Char.isDigit ++ cs.drop (cs.takeWhile Char.isDigit).length = cs := by
  conv_rhs => rw [← List.take_append_drop (cs.takeWhile Char.isDigit).length cs]
  rw [← List.prefix_iff_eq_take.1 (List.takeWhile_prefix _)]

theorem isBlank_of_isDigit {c : Char} (h : c.isDigit = true) : isBlank c = false := by
  have hrange : 48 ≤ c.toNat ∧ c.toNat ≤ 57 := Char.isDigit_iff_toNat.1 h
  simp only [isBlank, Bool.or_eq_false_iff, Bool.and_eq_false_iff, decide_eq_false_iff_not,
    beq_eq_false_iff_ne]
  omega

/-! ## White space -/

theorem trimStart_cons {c : Char} (h : isBlank c = false) (cs : List Char) :
    trimStart (c :: cs) = c :: cs := by
  rw [trimStart, List.dropWhile_cons, h]
  rfl

/-- A text is not changed by trimming it if neither its first nor its last character is white
    space. -/
theorem trim_eq_self_of_ends {cs : List Char} (hfirst : ∀ c ∈ cs.head?, isBlank c = false)
    (hlast : ∀ c ∈ cs.getLast?, isBlank c = false) : trim cs = cs := by
  have hdrop : ∀ ds : List Char, (∀ c ∈ ds.head?, isBlank c = false) →
      ds.dropWhile isBlank = ds := by
    intro ds hds
    cases ds with
    | nil => rfl
    | cons d ds => exact trimStart_cons (hds d rfl) ds
  -- The end is trimmed as the start of the reversed text.
  rw [trim, trimStart, hdrop cs hfirst, trimEnd, hdrop, List.reverse_reverse]
  rwa [List.head?_reverse]

theorem trim_eq_self {cs : List Char} (h : ∀ c ∈ cs, isBlank c = false) : trim cs = cs :=
  trim_eq_self_of_ends (fun c hc => h c (List.mem_of_head? hc))
    fun c hc => h c (List.mem_of_getLast? hc)

theorem isBlank_of_mem_head?_trimStart {cs : List Char} {c : Char} (h : c ∈ (trimStart cs).head?) :
    isBlank c = false := by
  have hhead := List.head?_dropWhile_not isBlank cs
  rw [Option.mem_def, trimStart] at h
  rw [h] at hhead
  exact hhead

theorem trimEnd_prefix (cs : List Char) : trimEnd cs <+: cs := by
  rw [trimEnd, ← List.reverse_suffix, List.reverse_reverse]
  exact List.dropWhile_suffix isBlank

/-- There is nothing left to trim off a text that was trimmed. -/
theorem trim_trim (cs : List Char) : trim (trim cs) = trim cs := by
  refine trim_eq_self_of_ends (fun c hc => ?_) fun c hc => ?_
  · obtain ⟨rest, hrest⟩ := trimEnd_prefix (trimStart cs)
    refine @isBlank_of_mem_head?_trimStart cs c ?_
    rw [← hrest, List.head?_append, show (trimEnd (trimStart cs)).head? = some c from hc]
    rfl
  · rw [trim, trimEnd, List.getLast?_reverse] at hc
    exact isBlank_of_mem_head?_trimStart hc

/-! ## Integers -/

theorem natural?_eq_some_iff {cs : List Char} {n : ℕ} :
    natural? cs = some n ↔ cs ≠ [] ∧ AllDigits cs ∧ Nat.ofDigitChars 10 cs 0 = n := by
  rw [natural?]
  split
  · next h =>
    rw [Bool.and_eq_true, List.all_eq_true] at h
    rw [Option.some.injEq]
    exact ⟨fun hn => ⟨by simpa using h.1, h.2, hn⟩, fun hn => hn.2.2⟩
  · next h =>
    rw [Bool.and_eq_true, List.all_eq_true] at h
    exact iff_of_false (Option.some_ne_none n).symm fun hn => h ⟨by simpa using hn.1, hn.2.1⟩

theorem natural?_naturalText (n : ℕ) : natural? (naturalText n) = some n :=
  natural?_eq_some_iff.2
    ⟨naturalText_ne_nil n, allDigits_naturalText n, ofDigitChars_naturalText n⟩

/-- The texts of an integer: some digits, with a sign in front of them or without. -/
inductive IsInteger : ℤ → List Char → Prop
  | plain {ds : List Char} : ds ≠ [] → AllDigits ds → IsInteger (Nat.ofDigitChars 10 ds 0) ds
  | plus {ds : List Char} : ds ≠ [] → AllDigits ds →
      IsInteger (Nat.ofDigitChars 10 ds 0) ('+' :: ds)
  | minus {ds : List Char} : ds ≠ [] → AllDigits ds →
      IsInteger (-Nat.ofDigitChars 10 ds 0) ('-' :: ds)

/-- A text that starts with a digit has no sign. -/
theorem integer?_of_allDigits {cs : List Char} (h : AllDigits cs) :
    integer? cs = (natural? cs).map Int.ofNat := by
  rw [integer?]
  · rintro _ rfl
    exact ne_of_isDigit (h '-' List.mem_cons_self) rfl rfl
  · rintro _ rfl
    exact ne_of_isDigit (h '+' List.mem_cons_self) rfl rfl

theorem integer?_eq_some_iff {cs : List Char} {n : ℤ} :
    integer? cs = some n ↔ IsInteger n cs := by
  constructor
  · intro h
    unfold integer? at h
    split at h <;> obtain ⟨m, hm, rfl⟩ := Option.map_eq_some_iff.1 h
    all_goals obtain ⟨hne, hds, rfl⟩ := natural?_eq_some_iff.1 hm
    · exact .minus hne hds
    · exact .plus hne hds
    · exact .plain hne hds
  · rintro (⟨hne, hds⟩ | ⟨hne, hds⟩ | ⟨hne, hds⟩)
    · rw [integer?_of_allDigits hds, natural?_eq_some_iff.2 ⟨hne, hds, rfl⟩]
      rfl
    · rw [integer?, natural?_eq_some_iff.2 ⟨hne, hds, rfl⟩]
      rfl
    · rw [integer?, natural?_eq_some_iff.2 ⟨hne, hds, rfl⟩]
      rfl

theorem integer?_naturalText (n : ℕ) : integer? (naturalText n) = some (n : ℤ) := by
  rw [integer?_of_allDigits (allDigits_naturalText n), natural?_naturalText]
  rfl

theorem integer?_integerText (n : ℤ) : integer? (integerText n) = some n := by
  rw [integerText]
  split
  · next h =>
    rw [integer?, natural?_naturalText]
    show some (-(n.natAbs : ℤ)) = some n
    rw [Int.ofNat_natAbs_of_nonpos h.le, neg_neg]
  · next h => rw [integer?_naturalText, Int.natAbs_of_nonneg (not_lt.1 h)]

theorem toInt64?_toInt (n : Int64) : toInt64? n.toInt = some n := by
  have hmin := Int64.le_iff_toInt_le.1 (Int64.minValue_le n)
  have hmax := Int64.le_iff_toInt_le.1 (Int64.le_maxValue n)
  rw [toInt64?, if_pos ⟨hmin, hmax⟩, Int64.ofInt_toInt]

theorem toInt64?_eq_some_iff {n : ℤ} {i : Int64} : toInt64? n = some i ↔ i.toInt = n := by
  constructor
  · intro h
    rw [toInt64?] at h
    split at h
    · next hn =>
      cases h
      exact Int64.toInt_ofInt_of_le hn.1 (Int.lt_add_one_of_le hn.2)
    · cases h
  · rintro rfl
    exact toInt64?_toInt i

theorem int64?_integerText (n : Int64) : int64? (integerText n.toInt) = some n := by
  rw [int64?, integer?_integerText]
  exact toInt64?_toInt n

/-- An integer is read off digits, but for its sign. -/
theorem IsInteger.isDigit_or_sign {cs : List Char} {n : ℤ} (h : IsInteger n cs) {c : Char}
    (hc : c ∈ cs) : c.isDigit = true ∨ c = '-' ∨ c = '+' := by
  obtain ⟨-, hds⟩ | ⟨-, hds⟩ | ⟨-, hds⟩ := h
  · exact .inl (hds c hc)
  · exact (List.mem_cons.1 hc).symm.imp (hds c) .inr
  · exact (List.mem_cons.1 hc).symm.imp (hds c) .inl

/-- An integer is written in digits, but for its sign. -/
theorem mem_integerText {n : ℤ} {c : Char} (h : c ∈ integerText n) :
    c = '-' ∨ c.isDigit = true := by
  rw [integerText] at h
  split at h
  · exact (List.mem_cons.1 h).imp_right (allDigits_naturalText _ c)
  · exact .inr (allDigits_naturalText _ c h)

theorem isBlank_of_mem_integerText {n : ℤ} {c : Char} (h : c ∈ integerText n) :
    isBlank c = false := by
  rcases mem_integerText h with rfl | hdigit
  · rfl
  · exact isBlank_of_isDigit hdigit

theorem int64?_trim_integerText (n : Int64) : int64? (trim (integerText n.toInt)) = some n := by
  rw [trim_eq_self fun _ => isBlank_of_mem_integerText, int64?_integerText]

end PagedQuery.Text
