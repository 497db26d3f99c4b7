import Mathlib
import PagedQuery.Decimal.Text
import PagedQuery.Proofs.Decimal.Order
import PagedQuery.Proofs.Text.Digits

/-!
# Decimals survive being written

A decimal that is written and read back stands for the same number (`exists_parse?_text`). It need
not be the same decimal: a number with zeros behind its last significant digit may be written
without an exponent, and is then read back with these zeros as digits. An integer is read as itself
(`parse?_integerText`).

Every layout of a decimal is a run of digits, perhaps with a point in it (`IsSignificand`), in front
of an exponent that may be missing (`IsExponent`); `parse?_eq` says what reading makes of the two
after a sign. What is left for each layout is to find its digits (`exists_isNumeral_magnitudeText`).
-/

namespace PagedQuery.Decimal

open Text

/-! ## Reading -/

theorem splitAtFirst_eq_none {p : Char → Bool} {cs : List Char} (h : ∀ c ∈ cs, p c = false) :
    splitAtFirst p cs = (cs, none) := by
  have hspan : cs.span (fun c => !p c) = (cs, []) := by
    have hkeep : ∀ c ∈ cs, (!p c) = true := fun c hc => by rw [h c hc]; rfl
    rw [List.span_eq_takeWhile_dropWhile, List.takeWhile_eq_self_iff.2 hkeep,
      List.dropWhile_eq_nil_iff.2 hkeep]
  rw [splitAtFirst, hspan]

theorem splitAtFirst_append {p : Char → Bool} {cs ds : List Char} {d : Char}
    (h : ∀ c ∈ cs, p c = false) (hd : p d = true) :
    splitAtFirst p (cs ++ d :: ds) = (cs, some ds) := by
  have hspan : (cs ++ d :: ds).span (fun c => !p c) = (cs, d :: ds) := by
    have hkeep : ∀ c ∈ cs, (!p c) = true := fun c hc => by rw [h c hc]; rfl
    have hstop : ¬(!p d) = true := by rw [hd]; decide
    rw [List.span_eq_takeWhile_dropWhile, List.takeWhile_append_of_pos hkeep,
      List.dropWhile_append_of_pos hkeep, List.takeWhile_cons_of_neg (p := fun c => !p c) hstop,
      List.dropWhile_cons_of_neg (p := fun c => !p c) hstop, List.append_nil]
  rw [splitAtFirst, hspan]

/-- The text consists of the digits of the number `n`, perhaps with a point among them; `places`
    digits stand behind the point. -/
inductive IsSignificand : List Char → ℕ → ℕ → Prop
  | whole {ds : List Char} : AllDigits ds → ds ≠ [] → IsSignificand ds (Nat.ofDigitChars 10 ds 0) 0
  | point {ws fs : List Char} : AllDigits ws → ws ≠ [] → AllDigits fs →
    IsSignificand (ws ++ '.' :: fs) (Nat.ofDigitChars 10 (ws ++ fs) 0) fs.length

/-- The minus sign of a negative number. -/
def signText (negative : Bool) : List Char :=
  if negative then ['-'] else []

/-- An exponent as it is written behind a significand. A missing one is zero. -/
inductive IsExponent : List Char → ℤ → Prop
  | none : IsExponent [] 0
  | up (n : ℕ) : IsExponent ('e' :: '+' :: naturalText n) n
  | down (n : ℕ) : IsExponent ('E' :: '-' :: naturalText n) (-n)

/-- The text is a significand with an exponent, and writes the number `n` with the scale `t`. -/
def IsNumeral (text : List Char) (n : ℕ) (t : ℤ) : Prop :=
  ∃ cs tail places x, IsSignificand cs n places ∧ IsExponent tail x ∧ text = cs ++ tail ∧
    t = places - x

theorem grouped?_eq {cs : List Char} (h : AllDigits cs) (hne : cs ≠ []) :
    grouped? cs = some (Nat.ofDigitChars 10 cs 0) := by
  cases cs with
  | nil => exact absurd rfl hne
  | cons c cs =>
    have hc := h c List.mem_cons_self
    have hall : ((c :: cs).all fun c => c.isDigit || c == '_') = true :=
      List.all_eq_true.2 fun d hd => by rw [h d hd]; rfl
    rw [grouped?, hc, hall, h.filter]
    rfl

theorem coefficient?_eq {cs : List Char} (h : AllDigits cs) (hne : cs ≠ []) (negative : Bool) :
    coefficient? (signText negative ++ cs) =
      some (if negative then -(Nat.ofDigitChars 10 cs 0 : ℤ) else Nat.ofDigitChars 10 cs 0) := by
  cases negative with
  | true =>
    show coefficient? ('-' :: cs) = _
    rw [coefficient?, grouped?_eq h hne]
    rfl
  | false =>
    show coefficient? cs = _
    rw [coefficient?, grouped?_eq h hne]
    · rfl
    · rintro _ rfl
      exact ne_of_isDigit (h '-' List.mem_cons_self) rfl rfl
    · rintro _ rfl
      exact ne_of_isDigit (h '+' List.mem_cons_self) rfl rfl

theorem eq_of_mem_signText {negative : Bool} {c : Char} (h : c ∈ signText negative) : c = '-' := by
  cases negative with
  | true => exact List.mem_singleton.1 h
  | false => cases h

/-- On either side of the point stand the digits, `places` of them behind it. -/
theorem IsSignificand.split {cs : List Char} {n places : ℕ} (h : IsSignificand cs n places)
    (negative : Bool) : ∃ ws fs?, splitAtFirst (· == '.') (signText negative ++ cs) =
      (signText negative ++ ws, fs?) ∧ AllDigits (ws ++ fs?.getD []) ∧ ws ++ fs?.getD [] ≠ [] ∧
      Nat.ofDigitChars 10 (ws ++ fs?.getD []) 0 = n ∧ (fs?.getD []).length = places := by
  have hsign : ∀ ws : List Char, AllDigits ws →
      ∀ c ∈ signText negative ++ ws, (c == '.') = false := by
    intro ws hws c hc
    rw [beq_eq_false_iff_ne]
    rcases List.mem_append.1 hc with hc | hc
    · rw [eq_of_mem_signText hc]
      decide
    · exact ne_of_isDigit (hws c hc) rfl
  cases h with
  | whole hds hne =>
    exact ⟨cs, none, splitAtFirst_eq_none (hsign cs hds), by simpa, by simpa, by simp, rfl⟩
  | @point ws fs hws hne hfs =>
    refine ⟨ws, some fs, ?_, allDigits_append.2 ⟨hws, hfs⟩, by simp [hne], rfl, rfl⟩
    rw [← List.append_assoc]
    exact splitAtFirst_append (hsign ws hws) rfl

theorem IsSignificand.isDigit_or_point {cs : List Char} {n places : ℕ}
    (h : IsSignificand cs n places) {c : Char} (hc : c ∈ cs) : c.isDigit = true ∨ c = '.' := by
  cases h with
  | whole hds _ => exact .inl (hds c hc)
  | point hws _ hfs =>
    rcases List.mem_append.1 hc with hc | hc
    · exact .inl (hws c hc)
    · exact (List.mem_cons.1 hc).symm.imp_left (hfs c)

theorem IsExponent.split {tail : List Char} {x : ℤ} (h : IsExponent tail x) {cs : List Char}
    (hcs : ∀ c ∈ cs, (c == 'e' || c == 'E') = false) :
    ∃ exponent, splitAtFirst (fun c => c == 'e' || c == 'E') (cs ++ tail) = (cs, exponent) ∧
      exponent.elim (some 0) integer? = some x := by
  cases h with
  | none => exact ⟨Option.none, by rw [List.append_nil, splitAtFirst_eq_none hcs], rfl⟩
  | up n =>
    refine ⟨_, splitAtFirst_append hcs rfl, ?_⟩
    rw [Option.elim_some, integer?, natural?_naturalText]
    rfl
  | down n =>
    refine ⟨_, splitAtFirst_append hcs rfl, ?_⟩
    rw [Option.elim_some, integer?, natural?_naturalText]
    rfl

/-- What reading makes of a sign and a numeral. -/
theorem parse?_eq {text : List Char} {n : ℕ} {t : Int64} (h : IsNumeral text n t.toInt)
    (negative : Bool) :
    parse? (signText negative ++ text) = some ⟨if negative then -(n : ℤ) else n, t⟩ := by
  obtain ⟨cs, tail, places, x, hcs, htail, rfl, ht⟩ := h
  have hunmarked : ∀ c ∈ signText negative ++ cs, (c == 'e' || c == 'E') = false := by
    intro c hc
    rw [Bool.or_eq_false_iff, beq_eq_false_iff_ne, beq_eq_false_iff_ne]
    rcases List.mem_append.1 hc with hc | hc
    · rw [eq_of_mem_signText hc]
      decide
    · rcases hcs.isDigit_or_point hc with hc | rfl
      · exact ⟨ne_of_isDigit hc rfl, ne_of_isDigit hc rfl⟩
      · decide
  obtain ⟨exponent, hexponent, hx⟩ := htail.split hunmarked
  obtain ⟨ws, fs?, hsplit, hdigits, hne, hvalue, hplaces⟩ := hcs.split negative
  have hfraction : (fs?.getD []).filter (· != '_') = fs?.getD [] := by
    rw [List.filter_eq_self]
    intro c hc
    exact bne_iff_ne.2 (ne_of_isDigit ((allDigits_append.1 hdigits).2 c hc) rfl)
  have hcoefficient : coefficient? (signText negative ++ ws ++ fs?.getD []) =
      some (if negative then -(n : ℤ) else n) := by
    rw [List.append_assoc, coefficient?_eq hdigits hne, hvalue]
  rw [parse?, ← List.append_assoc, hexponent]
  simp only [hx, hsplit, hfraction, hplaces, hcoefficient]
  show (toInt64? (places - x)).bind _ = _
  rw [← ht, toInt64?_toInt]
  rfl

/-- An integer is read as the decimal that it is. -/
theorem parse?_integerText (n : ℤ) : parse? (integerText n) = some (ofInt n) := by
  have hwhole := IsSignificand.whole (allDigits_naturalText n.natAbs) (naturalText_ne_nil n.natAbs)
  rw [ofDigitChars_naturalText] at hwhole
  have hnumeral : IsNumeral (naturalText n.natAbs) n.natAbs (0 : Int64).toInt :=
    ⟨_, [], 0, 0, hwhole, .none, (List.append_nil _).symm, rfl⟩
  have hparse := parse?_eq hnumeral (decide (n < 0))
  rw [integerText, ofInt]
  by_cases hn : n < 0
  · simp only [hn, decide_true, signText, if_true, List.singleton_append] at hparse ⊢
    rw [hparse, Int.ofNat_natAbs_of_nonpos hn.le, neg_neg]
  · rw [if_neg hn, ← Int.natAbs_of_nonneg (not_lt.1 hn)]
    rw [decide_eq_false hn] at hparse
    exact hparse

/-! ## Layouts -/

theorem isSignificand_leading {ds : List Char} (h : AllDigits ds) (hne : ds ≠ []) :
    IsSignificand (leading ds) (Nat.ofDigitChars 10 ds 0) (ds.length - 1) := by
  match ds, h, hne with
  | [d], h, hne => exact .whole h hne
  | d :: e :: es, h, _ =>
    obtain ⟨hd, hes⟩ : AllDigits [d] ∧ AllDigits (e :: es) := allDigits_append.1 h
    exact .point hd (List.cons_ne_nil d []) hes

/-- The digits of a number written with a scale. Where the scale is negative the number gets zeros
    behind its digits and no scale. -/
theorem isSignificand_positional {ds : List Char} (h : AllDigits ds) (hne : ds ≠ []) (s : ℤ) :
    IsSignificand (positional ds (ds.length - s)) (Nat.ofDigitChars 10 ds 0 * 10 ^ (-s).toNat)
      s.toNat := by
  have hlength : 0 < ds.length := List.length_pos_iff.2 hne
  rw [positional]
  split
  -- The point stands in front of the digits, among them or behind them.
  · next hpoint =>
    have hzeros := allDigits_replicate_zero (-(ds.length - s)).toNat
    have hplaces : (List.replicate (-(ds.length - s)).toNat '0' ++ ds).length = s.toNat := by
      rw [List.length_append, List.length_replicate]
      omega
    have hvalue : Nat.ofDigitChars 10
        (['0'] ++ (List.replicate (-(ds.length - s)).toNat '0' ++ ds)) 0 =
        Nat.ofDigitChars 10 ds 0 * 10 ^ (-s).toNat := by
      rw [Nat.ofDigitChars_append, Nat.ofDigitChars_append, ← List.replicate_one,
        Nat.ofDigitChars_replicate_zero, Nat.ofDigitChars_replicate_zero, Nat.mul_zero,
        Int.toNat_eq_zero.2 (by omega), pow_zero, Nat.mul_one]
    rw [← hplaces, ← hvalue]
    exact .point (allDigits_replicate_zero 1) (List.cons_ne_nil _ _)
      (allDigits_append.2 ⟨hzeros, h⟩)
  · next hpoint =>
    split
    · next hinside =>
      have hplaces : (ds.drop (ds.length - s).toNat).length = s.toNat := by
        rw [List.length_drop]
        omega
      have hvalue : Nat.ofDigitChars 10
          (ds.take (ds.length - s).toNat ++ ds.drop (ds.length - s).toNat) 0 =
          Nat.ofDigitChars 10 ds 0 * 10 ^ (-s).toNat := by
        rw [List.take_append_drop, Int.toNat_eq_zero.2 (by omega), pow_zero, Nat.mul_one]
      rw [← hplaces, ← hvalue]
      refine .point (h.sublist (List.take_sublist _ _)) ?_ (h.sublist (List.drop_sublist _ _))
      rw [← List.length_pos_iff, List.length_take]
      omega
    · next houtside =>
      have hplaces : s.toNat = 0 := by omega
      have hvalue : Nat.ofDigitChars 10
          (ds ++ List.replicate (ds.length - s - ds.length).toNat '0') 0 =
          Nat.ofDigitChars 10 ds 0 * 10 ^ (-s).toNat := by
        rw [Nat.ofDigitChars_append, Nat.ofDigitChars_replicate_zero, Nat.mul_comm,
          sub_sub_cancel_left]
      rw [hplaces, ← hvalue]
      exact .whole (allDigits_append.2 ⟨h, allDigits_replicate_zero _⟩)
        (List.append_ne_nil_of_left_ne_nil hne _)

/-- Each layout is a numeral that stands for the number of the digits and the scale. -/
theorem exists_isNumeral_magnitudeText {ds : List Char} (h : AllDigits ds) (hne : ds ≠ [])
    (s : Int64) : ∃ n, ∃ t : Int64, IsNumeral (magnitudeText ds s.toInt) n t.toInt ∧
      (n * 10 ^ (-t.toInt) : ℚ) = Nat.ofDigitChars 10 ds 0 * 10 ^ (-s.toInt) := by
  have hlength : 0 < ds.length := List.length_pos_iff.2 hne
  rw [magnitudeText]
  split
  · next hsmall =>
    rw [leadingZeroLimit] at hsmall
    refine ⟨_, s, ⟨_, _, _, _, isSignificand_leading h hne, .down (s.toInt - ds.length + 1).natAbs,
      ?_, ?_⟩, rfl⟩
    · rw [integerText, if_neg (by omega)]
    · omega
  · split
    · next hlarge =>
      rw [trailingZeroLimit] at hlarge
      refine ⟨_, s, ⟨_, _, _, _, .whole h hne, .up (-s.toInt).natAbs, ?_, ?_⟩, rfl⟩
      · rw [integerText, if_neg (by omega)]
      · omega
    · have hpositional := isSignificand_positional h hne s.toInt
      rcases le_or_gt 0 s.toInt with hs | hs
      · refine ⟨_, s, ⟨_, [], _, _, hpositional, .none, (List.append_nil _).symm, ?_⟩, ?_⟩
        · omega
        · rw [Int.toNat_eq_zero.2 (by omega), pow_zero, Nat.mul_one]
      -- Here the scale is lost: the zeros behind the digits are read as digits.
      · refine ⟨_, 0, ⟨_, [], _, _, hpositional, .none, (List.append_nil _).symm, ?_⟩, ?_⟩
        · rw [Int.toNat_eq_zero.2 hs.le]
          rfl
        · have hexponent : ((-s.toInt).toNat : ℤ) = -s.toInt := Int.toNat_of_nonneg (by omega)
          rw [Nat.cast_mul, Nat.cast_pow, Nat.cast_ofNat, ← zpow_natCast, hexponent]
          simp

theorem text_eq {d : Decimal} (h : d.coefficient ≠ 0) :
    d.text = signText (d.coefficient < 0) ++
      magnitudeText (naturalText d.coefficient.natAbs) d.scale.toInt := by
  rw [text, if_neg h]
  by_cases hneg : d.coefficient < 0 <;> simp [hneg, signText]

/-- A decimal that is written and read back stands for the same number. -/
theorem exists_parse?_text (d : Decimal) : ∃ e, parse? d.text = some e ∧ e.toRat = d.toRat := by
  by_cases hzero : d.coefficient = 0
  · refine ⟨⟨0, 0⟩, ?_, (toRat_zero rfl).trans (toRat_zero hzero).symm⟩
    rw [text, if_pos hzero]
    rfl
  · obtain ⟨n, t, hnumeral, hvalue⟩ := exists_isNumeral_magnitudeText
      (allDigits_naturalText d.coefficient.natAbs) (naturalText_ne_nil _) d.scale
    rw [ofDigitChars_naturalText] at hvalue
    refine ⟨_, by rw [text_eq hzero, parse?_eq hnumeral], ?_⟩
    rcases lt_or_gt_of_ne hzero with hneg | hpos
    · rw [toRat_of_neg hneg, ← hvalue]
      simp [toRat, hneg]
    · rw [toRat_of_pos hpos, ← hvalue]
      simp [toRat, hpos.not_gt]

/-! ## White space -/

theorem IsNumeral.isBlank_eq_false {text : List Char} {n : ℕ} {t : ℤ} (h : IsNumeral text n t)
    {c : Char} (hc : c ∈ text) : isBlank c = false := by
  obtain ⟨cs, tail, places, x, hcs, htail, rfl, -⟩ := h
  rcases List.mem_append.1 hc with hc | hc
  · rcases hcs.isDigit_or_point hc with hc | rfl
    · exact isBlank_of_isDigit hc
    · rfl
  · cases htail with
    | none => cases hc
    | up n | down n =>
      rcases List.mem_cons.1 hc with rfl | hc
      · rfl
      · rcases List.mem_cons.1 hc with rfl | hc
        · rfl
        · exact isBlank_of_isDigit (allDigits_naturalText n c hc)

theorem isBlank_of_mem_text {d : Decimal} {c : Char} (hc : c ∈ d.text) : isBlank c = false := by
  by_cases hzero : d.coefficient = 0
  · rw [text, if_pos hzero, List.mem_singleton] at hc
    rw [hc]
    rfl
  · obtain ⟨n, t, hnumeral, -⟩ := exists_isNumeral_magnitudeText
      (allDigits_naturalText d.coefficient.natAbs) (naturalText_ne_nil _) d.scale
    rw [text_eq hzero] at hc
    rcases List.mem_append.1 hc with hc | hc
    · rw [eq_of_mem_signText hc]
      rfl
    · exact hnumeral.isBlank_eq_false hc

end PagedQuery.Decimal
