import Mathlib
import PagedQuery.Decimal.Basic

/-!
# The order of decimals

A decimal stands for a rational number (`Decimal.toRat`), and the comparison of decimals, which
never writes these numbers out, is the comparison of the numbers (`Decimal.compare_eq`). So it is
total and transitive, and two decimals compare equal exactly if they stand for the same number.

The one step with an idea in it is `compareMagnitude_eq`: with `k` digits a number lies between
`10 ^ (k - 1)` and `10 ^ k`, so numbers whose leading digits have different places are told apart by
the places alone.
-/

namespace PagedQuery.Decimal

/-- The number that a decimal stands for. -/
def toRat (d : Decimal) : ℚ :=
  d.coefficient * 10 ^ (-d.scale.toInt)

theorem toRat_ofInt (n : ℤ) : (ofInt n).toRat = n := by
  simp [toRat, ofInt]

/-! ## Magnitudes -/

theorem lt_pow_digitCount (n : ℕ) : n < 10 ^ digitCount n :=
  (Nat.length_toDigits_le_iff (by decide) Nat.length_toDigits_pos).1 le_rfl

theorem pow_digitCount_le {n : ℕ} (hn : 0 < n) : 10 ^ (digitCount n - 1) ≤ n := by
  rcases Nat.eq_zero_or_pos (digitCount n - 1) with h | h
  · rw [h, pow_zero]
    exact hn
  · refine Nat.le_of_not_lt fun hlt => ?_
    have hle := (Nat.length_toDigits_le_iff (b := 10) (by decide) h).2 hlt
    rw [← digitCount] at hle
    omega

/-- A decimal is below the power of ten just above its leading digit. -/
theorem lt_pow_leading (m : ℕ) (s : ℤ) : (m * 10 ^ (-s) : ℚ) < 10 ^ ((digitCount m : ℤ) - s) := by
  rw [sub_eq_add_neg, zpow_add₀ (by norm_num), zpow_natCast]
  have hm : (m : ℚ) < 10 ^ digitCount m := by exact_mod_cast lt_pow_digitCount m
  exact mul_lt_mul_of_pos_right hm (by positivity)

/-- A decimal is not below the place of its leading digit. -/
theorem pow_leading_le {n : ℕ} (hn : 0 < n) (t : ℤ) :
    (10 ^ ((digitCount n : ℤ) - t - 1) : ℚ) ≤ n * 10 ^ (-t) := by
  have hcount : 0 < digitCount n := Nat.length_toDigits_pos
  have hexponent : (digitCount n : ℤ) - t - 1 = ((digitCount n - 1 : ℕ) : ℤ) + -t := by omega
  rw [hexponent, zpow_add₀ (by norm_num), zpow_natCast]
  have hle : ((10 ^ (digitCount n - 1) : ℕ) : ℚ) ≤ n := by exact_mod_cast pow_digitCount_le hn
  rw [Nat.cast_pow, Nat.cast_ofNat] at hle
  exact mul_le_mul_of_nonneg_right hle (by positivity)

/-- Of two decimals the one whose leading digit has the lower place is the smaller one. -/
theorem lt_of_leading_lt {m n : ℕ} {s t : ℤ} (hn : 0 < n)
    (h : (digitCount m : ℤ) - s < digitCount n - t) : (m * 10 ^ (-s) : ℚ) < n * 10 ^ (-t) := by
  refine (lt_pow_leading m s).trans_le (le_trans ?_ (pow_leading_le hn t))
  exact zpow_le_zpow_right₀ (by norm_num) (by omega)

/-- Bringing a decimal to a scale that is no smaller. -/
theorem scaled_eq (m : ℕ) {s u : ℤ} (h : s ≤ u) :
    ((m * Nat.pow 10 (u - s).toNat : ℕ) : ℚ) * 10 ^ (-u) = m * 10 ^ (-s) := by
  have hpow : ((Nat.pow 10 (u - s).toNat : ℕ) : ℚ) = 10 ^ (u - s) := by
    rw [Nat.pow_eq, Nat.cast_pow, Nat.cast_ofNat, ← zpow_natCast, Int.toNat_of_nonneg (by omega)]
  rw [Nat.cast_mul, hpow, mul_assoc, ← zpow_add₀ (by norm_num)]
  congr 2
  omega

/-- Pairs that stand in the same order compare alike. -/
theorem compare_congr {α β : Type} [LinearOrder α] [LinearOrder β] {a b : α} {c d : β}
    (hlt : a < b ↔ c < d) (hgt : b < a ↔ d < c) : Ord.compare a b = Ord.compare c d := by
  rcases lt_trichotomy a b with h | h | h
  · rw [compare_lt_iff_lt.2 h, compare_lt_iff_lt.2 (hlt.1 h)]
  · have hcd : c = d := le_antisymm (not_lt.1 fun hdc => (hgt.2 hdc).ne' h)
      (not_lt.1 fun hcd => (hlt.2 hcd).ne h)
    rw [compare_eq_iff_eq.2 h, compare_eq_iff_eq.2 hcd]
  · rw [compare_gt_iff_gt.2 h, compare_gt_iff_gt.2 (hgt.1 h)]

theorem compareMagnitude_eq {m n : ℕ} {s t : ℤ} (hm : 0 < m) (hn : 0 < n) :
    compareMagnitude m s n t = Ord.compare (m * 10 ^ (-s) : ℚ) (n * 10 ^ (-t)) := by
  rw [compareMagnitude]
  cases h : Ord.compare ((digitCount m : ℤ) - s) (digitCount n - t) with
  | lt => exact (compare_lt_iff_lt.2 (lt_of_leading_lt hn (compare_lt_iff_lt.1 h))).symm
  | gt => exact (compare_gt_iff_gt.2 (lt_of_leading_lt hm (compare_gt_iff_gt.1 h))).symm
  | eq =>
    -- The same place: at a common scale the coefficients decide.
    have hpos : (0 : ℚ) < 10 ^ (-max s t) := by positivity
    rw [← scaled_eq m (le_max_left s t), ← scaled_eq n (le_max_right s t)]
    refine compare_congr ?_ ?_ <;> rw [mul_lt_mul_iff_left₀ hpos, Nat.cast_lt]

/-! ## Signs -/

theorem toRat_pos {d : Decimal} (h : 0 < d.coefficient) : 0 < d.toRat := by
  have hq : (0 : ℚ) < d.coefficient := by exact_mod_cast h
  rw [toRat]
  positivity

theorem toRat_neg {d : Decimal} (h : d.coefficient < 0) : d.toRat < 0 := by
  have hq : (d.coefficient : ℚ) < 0 := by exact_mod_cast h
  exact mul_neg_of_neg_of_pos hq (by positivity)

theorem toRat_zero {d : Decimal} (h : d.coefficient = 0) : d.toRat = 0 := by
  rw [toRat, h, Int.cast_zero, zero_mul]

theorem toRat_of_pos {d : Decimal} (h : 0 < d.coefficient) :
    d.toRat = d.coefficient.natAbs * 10 ^ (-d.scale.toInt) := by
  have hcast : ((d.coefficient.natAbs : ℤ) : ℚ) = d.coefficient := by
    rw [Int.natAbs_of_nonneg h.le]
  rw [toRat, ← hcast, Int.cast_natCast]

theorem toRat_of_neg {d : Decimal} (h : d.coefficient < 0) :
    d.toRat = -(d.coefficient.natAbs * 10 ^ (-d.scale.toInt)) := by
  have hcast : ((d.coefficient.natAbs : ℤ) : ℚ) = -d.coefficient := by
    rw [Int.ofNat_natAbs_of_nonpos h.le, Int.cast_neg]
  rw [toRat, ← Int.cast_natCast, hcast]
  ring

theorem toRat_lt_of_sign_lt {a b : Decimal} (h : a.coefficient.sign < b.coefficient.sign) :
    a.toRat < b.toRat := by
  rcases lt_trichotomy a.coefficient 0 with ha | ha | ha <;>
    rcases lt_trichotomy b.coefficient 0 with hb | hb | hb
  · simp [Int.sign_eq_neg_one_of_neg, ha, hb] at h
  · exact (toRat_neg ha).trans_eq (toRat_zero hb).symm
  · exact (toRat_neg ha).trans (toRat_pos hb)
  · simp [Int.sign_eq_neg_one_of_neg, ha, hb] at h
  · simp [ha, hb] at h
  · exact (toRat_zero ha).trans_lt (toRat_pos hb)
  · simp [Int.sign_eq_neg_one_of_neg, Int.sign_eq_one_of_pos, ha, hb] at h
  · simp [Int.sign_eq_one_of_pos, ha, hb] at h
  · simp [Int.sign_eq_one_of_pos, ha, hb] at h

/-- Decimals compare as the numbers that they stand for. -/
theorem compare_eq (a b : Decimal) : Ord.compare a b = Ord.compare a.toRat b.toRat := by
  show Decimal.compare a b = _
  rw [Decimal.compare]
  cases h : Ord.compare a.coefficient.sign b.coefficient.sign with
  | lt => exact (compare_lt_iff_lt.2 (toRat_lt_of_sign_lt (compare_lt_iff_lt.1 h))).symm
  | gt => exact (compare_gt_iff_gt.2 (toRat_lt_of_sign_lt (compare_gt_iff_gt.1 h))).symm
  | eq =>
    have hsign : a.coefficient.sign = b.coefficient.sign := compare_eq_iff_eq.1 h
    -- Of two decimals of one sign the magnitudes decide, the other way round below zero.
    rcases lt_trichotomy a.coefficient 0 with ha | ha | ha
    · have hb : b.coefficient < 0 := by
        rwa [← Int.sign_eq_neg_one_iff_neg, ← hsign, Int.sign_eq_neg_one_iff_neg]
      simp only [ha, ha.not_gt, if_false, if_true]
      rw [compareMagnitude_eq (Int.natAbs_pos.2 hb.ne) (Int.natAbs_pos.2 ha.ne), toRat_of_neg ha,
        toRat_of_neg hb]
      exact compare_congr neg_lt_neg_iff.symm neg_lt_neg_iff.symm
    · have hb : b.coefficient = 0 := by
        rwa [← Int.sign_eq_zero_iff_zero, ← hsign, Int.sign_eq_zero_iff_zero]
      simp only [ha, lt_irrefl, if_false]
      exact (compare_eq_iff_eq.2 ((toRat_zero ha).trans (toRat_zero hb).symm)).symm
    · have hb : 0 < b.coefficient := by
        rwa [← Int.sign_eq_one_iff_pos, ← hsign, Int.sign_eq_one_iff_pos]
      simp only [ha, if_true]
      rw [compareMagnitude_eq (Int.natAbs_pos.2 ha.ne') (Int.natAbs_pos.2 hb.ne'), toRat_of_pos ha,
        toRat_of_pos hb]

theorem compare_eq_eq_iff {a b : Decimal} : Ord.compare a b = .eq ↔ a.toRat = b.toRat := by
  rw [compare_eq, compare_eq_iff_eq]

end PagedQuery.Decimal
