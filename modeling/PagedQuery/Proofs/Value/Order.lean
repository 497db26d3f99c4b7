import Mathlib
import PagedQuery.Proofs.Decimal.Order
import PagedQuery.Record.Id

/-!
# The order of values

The comparison of values is lexicographic: by rank, and within a rank by the content that the values
of this rank have (`Value.compare_eq_lex`). So it is total and transitive, whatever kinds meet.
Values that compare equal have the same rank and equal content, where the content of a number is a
rational number, whether it is written as an integer or as a decimal.

Identifiers are embedded in this order by `RecordId.toValue`, and two that compare equal are the
same.

* `Value.compare_of_number?`, `Value.compare_eq_eq_iff`: how numbers compare, and which values
  compare equal;
* `RecordId.compare_toValue`: identifiers among the values;
* `OrdersTotally`: the laws of a total order, in terms of its comparison;
* `values_totally_ordered`: the main result.
-/

namespace PagedQuery

/-! ## Dates and times -/

instance : Std.TransOrd Date :=
  inferInstanceAs (Std.TransCmp (compareLex _ _))

instance : Std.TransOrd ClockTime :=
  inferInstanceAs (Std.TransCmp (compareLex _ _))

instance : Std.TransOrd Timestamp :=
  inferInstanceAs (Std.TransCmp (compareLex _ _))

instance : Std.LawfulEqOrd Date where
  eq_of_compare := by
    rintro ⟨y, m, d, h⟩ ⟨y', m', d', h'⟩ heq
    obtain ⟨hyear, hrest⟩ := Ordering.then_eq_eq.1 heq
    obtain ⟨hmonth, hday⟩ := Ordering.then_eq_eq.1 hrest
    obtain rfl : y = y' := Std.LawfulEqOrd.eq_of_compare hyear
    obtain rfl : m = m' := Std.LawfulEqOrd.eq_of_compare hmonth
    obtain rfl : d = d' := Std.LawfulEqOrd.eq_of_compare hday
    rfl

instance : Std.LawfulEqOrd ClockTime where
  eq_of_compare := by
    rintro ⟨h, m, s, n⟩ ⟨h', m', s', n'⟩ heq
    obtain ⟨hhour, hrest⟩ := Ordering.then_eq_eq.1 heq
    obtain ⟨hminute, hrest⟩ := Ordering.then_eq_eq.1 hrest
    obtain ⟨hsecond, hnanosecond⟩ := Ordering.then_eq_eq.1 hrest
    obtain rfl : h = h' := Std.LawfulEqOrd.eq_of_compare hhour
    obtain rfl : m = m' := Std.LawfulEqOrd.eq_of_compare hminute
    obtain rfl : s = s' := Std.LawfulEqOrd.eq_of_compare hsecond
    obtain rfl : n = n' := Std.LawfulEqOrd.eq_of_compare hnanosecond
    rfl

instance : Std.LawfulEqOrd Timestamp where
  eq_of_compare := by
    rintro ⟨d, t⟩ ⟨d', t'⟩ heq
    obtain ⟨hdate, htime⟩ := Ordering.then_eq_eq.1 heq
    obtain rfl : d = d' := Std.LawfulEqOrd.eq_of_compare hdate
    obtain rfl : t = t' := Std.LawfulEqOrd.eq_of_compare htime
    rfl

namespace Value

variable {v w : Value}

/-! ## The contents of values -/

/-- The content of a boolean. -/
def boolean? : Value → Option Bool
  | boolean b => some b
  | _ => none

/-- The content of a number. -/
def number? : Value → Option ℚ
  | integer n => some n.toInt
  | decimal d => some d.toRat
  | _ => none

/-- The content of a text. -/
def text? : Value → Option String
  | text s => some s
  | _ => none

/-- The content of a date. -/
def date? : Value → Option Date
  | date d => some d
  | _ => none

/-- The content of a timestamp. -/
def timestamp? : Value → Option Timestamp
  | timestamp t => some t
  | _ => none

/-! ## The order -/

/-- The comparison by rank, and then by whichever content the values have. -/
abbrev lexicographic : Value → Value → Ordering :=
  compareLex (compareOn rank) (compareLex (compareOn boolean?) (compareLex (compareOn number?)
    (compareLex (compareOn text?) (compareLex (compareOn date?) (compareOn timestamp?)))))

theorem compare_integers (m n : Int64) :
    Ord.compare m n = Ord.compare ((m.toInt : ℤ) : ℚ) ((n.toInt : ℤ) : ℚ) := by
  rw [LinearOrder.compare_eq_compareOfLessAndEq ((m.toInt : ℤ) : ℚ)]
  show compareOfLessAndEq m n = _
  simp only [compareOfLessAndEq, Int64.lt_iff_toInt_lt, Int.cast_lt, Int.cast_inj, Int64.toInt_inj]

theorem compare_eq_lex (v w : Value) : Ord.compare v w = lexicographic v w := by
  show Value.compare v w = _
  -- Of two values with different ranks the ranks decide, and of two with the same the contents.
  cases v <;> cases w <;>
    simp [Value.compare, compareLex, compareOn, rank, boolean?, number?, text?, date?, timestamp?,
      compare_integers, Decimal.compare_eq, Decimal.toRat_ofInt] <;> rfl

instance : Std.TransOrd Value where
  eq_swap := by
    intro v w
    rw [compare_eq_lex, compare_eq_lex]
    exact Std.OrientedCmp.eq_swap
  isLE_trans := by
    intro u v w huv hvw
    rw [compare_eq_lex] at *
    exact Std.TransCmp.isLE_trans huv hvw

/-- Numbers compare as what they are, each as an integer or as a decimal of some scale. -/
theorem compare_of_number? {q r : ℚ} (hv : v.number? = some q) (hw : w.number? = some r) :
    Ord.compare v w = Ord.compare q r := by
  rw [compare_eq_lex]
  -- The values have one rank and nothing but a number for content.
  cases v <;> cases w <;> simp only [number?, Option.some_inj, reduceCtorEq] at hv hw
  all_goals
    subst hv hw
    simp [compareLex, compareOn, rank, boolean?, number?, text?, date?, timestamp?]
    rfl

/-- Null comes before everything else. -/
theorem compare_null_of_ne (h : v ≠ null) : Ord.compare null v = .lt := by
  cases v with
  | null => exact absurd rfl h
  | _ => rfl

/-- Values compare equal if they are the same, or the same number. -/
theorem compare_eq_eq_iff :
    Ord.compare v w = .eq ↔ v = w ∨ ∃ q, v.number? = some q ∧ w.number? = some q := by
  constructor
  · intro h
    simp only [compare_eq_lex, compareLex, compareOn, Ordering.then_eq_eq,
      Std.LawfulEqOrd.compare_eq_iff_eq] at h
    obtain ⟨hrank, hboolean, hnumber, htext, hdate, htimestamp⟩ := h
    cases hv : v.number? with
    | some q => exact .inr ⟨q, rfl, hnumber ▸ hv⟩
    | none =>
      -- Other values have a content that determines them, or are both null.
      left
      cases v <;> cases w <;> simp_all [rank, boolean?, number?, text?, date?, timestamp?]
  · rintro (rfl | ⟨q, hv, hw⟩)
    · exact Std.ReflOrd.compare_self
    · rw [compare_of_number? hv hw, Std.ReflOrd.compare_self]

end Value

/-! ## Identifiers -/

namespace RecordId

/-- Identifiers compare as the values that they are. -/
theorem compare_toValue (i j : RecordId) :
    Ord.compare i.toValue j.toValue = Ord.compare i j := by
  cases i <;> cases j <;> rfl

instance : Std.TransOrd RecordId where
  eq_swap := by
    intro i j
    rw [← compare_toValue, ← compare_toValue]
    exact Std.OrientedOrd.eq_swap
  isLE_trans := by
    intro i j k hij hjk
    rw [← compare_toValue] at *
    exact Std.TransOrd.isLE_trans hij hjk

instance : Std.LawfulEqOrd RecordId where
  eq_of_compare := by
    intro i j h
    cases i with
    | integer m =>
      cases j with
      | integer n => exact congrArg integer (Std.LawfulEqOrd.eq_of_compare h)
      | text t => cases h
    | text s =>
      cases j with
      | integer n => cases h
      | text t => exact congrArg text (Std.LawfulEqOrd.eq_of_compare h)

/-- An identifier equals, as a value, no other identifier. -/
theorem compare_toValue_eq_iff {i j : RecordId} :
    Ord.compare i.toValue j.toValue = .eq ↔ i = j := by
  rw [compare_toValue, Std.LawfulEqOrd.compare_eq_iff_eq]

end RecordId

/-! ## The laws -/

/-- A comparison that puts all elements of a type in one order. Elements that compare equal need not
    be the same, but nothing tells them apart. -/
structure OrdersTotally {α : Type} (compare : α → α → Ordering) : Prop where
  /-- One of two elements comes first, or they are equal, and no two of these at once. -/
  exactly_one : ∀ a b,
    (compare a b = .lt ∧ compare a b ≠ .eq ∧ compare b a ≠ .lt) ∨
    (compare a b ≠ .lt ∧ compare a b = .eq ∧ compare b a ≠ .lt) ∨
    (compare a b ≠ .lt ∧ compare a b ≠ .eq ∧ compare b a = .lt)
  reverse : ∀ a b, compare b a = (compare a b).swap
  trans : ∀ a b c, (compare a b).isLE → (compare b c).isLE → (compare a c).isLE
  equivalence : Equivalence fun a b => compare a b = .eq
  congr_left : ∀ a b c, compare a b = .eq → compare a c = compare b c
  congr_right : ∀ a b c, compare a b = .eq → compare c a = compare c b

theorem OrdersTotally.of_transCmp {α : Type} {compare : α → α → Ordering}
    [Std.TransCmp compare] : OrdersTotally compare where
  exactly_one a b := by
    have hreverse : compare b a = (compare a b).swap := Std.OrientedCmp.eq_swap
    rw [hreverse]
    cases compare a b <;> decide
  reverse _ _ := Std.OrientedCmp.eq_swap
  trans _ _ _ := Std.TransCmp.isLE_trans
  equivalence := ⟨fun _ => Std.ReflCmp.compare_self, Std.OrientedCmp.eq_symm, Std.TransCmp.eq_trans⟩
  congr_left _ _ _ h := Std.TransCmp.congr_left h
  congr_right _ _ _ h := Std.TransCmp.congr_right h

/-- Values are totally ordered, whatever kinds meet. Null is below every other value; numbers are
    compared as numbers, whether they are written as integers or as decimals, and however large they
    are or finely written; and no two values are equal unless they are the same or the same number.
    Identifiers are ordered as the values that they are. -/
theorem values_totally_ordered :
    OrdersTotally (Ord.compare : Value → Value → Ordering) ∧
    (∀ v : Value, v ≠ .null → Ord.compare .null v = .lt) ∧
    (∀ (v w : Value) (q r : ℚ), v.number? = some q → w.number? = some r →
      Ord.compare v w = Ord.compare q r) ∧
    (∀ v w : Value, Ord.compare v w = .eq ↔
      v = w ∨ ∃ q, v.number? = some q ∧ w.number? = some q) ∧
    ∀ i j : RecordId, Ord.compare i j = Ord.compare i.toValue j.toValue :=
  ⟨.of_transCmp, fun _ => Value.compare_null_of_ne, fun _ _ _ _ => Value.compare_of_number?,
    fun _ _ => Value.compare_eq_eq_iff, fun i j => (RecordId.compare_toValue i j).symm⟩

/-- The largest integer is below a number that needs one digit more, and this one below a number
    with more zeros than can be written out. An integer stands where the decimal of the same number
    stands, although it is not this decimal. -/
theorem largestInteger_below :
    Ord.compare (Value.integer 9223372036854775807)
      (Value.decimal ⟨92233720368547758071, 1⟩) = .lt ∧
    (Ord.compare (Value.integer 9223372036854775807)
      (Value.decimal ⟨1, -9223372036854775808⟩)).isLE ∧
    Ord.compare (Value.integer 4) (Value.text "4") =
      Ord.compare (Value.decimal ⟨400, 2⟩) (Value.text "4") ∧
    Ord.compare Value.null (Value.boolean false) = .lt := by
  obtain ⟨horder, hnull, hnumbers, hequal, -⟩ := values_totally_ordered
  have hdigit : Ord.compare (Value.integer 9223372036854775807)
      (Value.decimal ⟨92233720368547758071, 1⟩) = .lt := by
    have hlargest : (9223372036854775807 : Int64).toInt = 9223372036854775807 := rfl
    have hscale : (1 : Int64).toInt = 1 := rfl
    rw [hnumbers _ _ _ _ rfl rfl, compare_lt_iff_lt, Decimal.toRat, hlargest, hscale]
    norm_num
  have hzeros : Ord.compare (Value.decimal ⟨92233720368547758071, 1⟩)
      (Value.decimal ⟨1, -9223372036854775808⟩) = .lt := by
    decide +kernel
  have hfour : Ord.compare (Value.integer 4) (Value.decimal ⟨400, 2⟩) = .eq := by
    have hcents : (2 : Int64).toInt = 2 := rfl
    refine (hequal _ _).2 (.inr ⟨4, rfl, congrArg some ?_⟩)
    rw [Decimal.toRat, hcents]
    norm_num
  refine ⟨hdigit, horder.trans _ (Value.decimal ⟨92233720368547758071, 1⟩) _ ?_ ?_,
    horder.congr_left _ _ _ hfour, hnull _ (by decide)⟩
  · rw [hdigit]
    rfl
  · rw [hzeros]
    rfl

end PagedQuery
