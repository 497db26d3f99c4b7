import Mathlib
import PagedQuery.Json.Reader

/-!
# What documents mean

The characters of a string stand for themselves or for others, one at a time but for the two halves
of a surrogate pair (`Unescapes`). A number is an integer if 64 bits hold it, signed or unsigned, and
otherwise a double, for which only those of its digits count that 64 bits hold (`Literal.Means`). A
document means the value that its parts mean, as long as it does not nest too deep
(`Document.MeansWithin`). All three are functions: they are what `unescape?`, `Literal.value?` and
`Document.valueWithin?` compute.
-/

namespace PagedQuery.Json

open Text

/-! ## Strings -/

/-- The characters that those of a string stand for. A backslash at the end, and a `u` behind one
    without four digits, come in no string. -/
inductive Unescapes : List Char → List Char → Prop
  | nil : Unescapes [] []
  | plain {c : Char} {cs s : List Char} : (c = '\\' → cs = []) → Unescapes cs s →
      Unescapes (c :: cs) (c :: s)
  | letter {c : Char} {cs s : List Char} : (c = 'u' → cs.length < 4) → Unescapes cs s →
      Unescapes ('\\' :: c :: cs) (simpleEscape c :: s)
  | unit {p q r t : Char} {cs s : List Char} {n : ℕ} : hexNumber [p, q, r, t] = n →
      n < 0xD800 ∨ 0xDFFF < n → Unescapes cs s →
      Unescapes ('\\' :: 'u' :: p :: q :: r :: t :: cs) (Char.ofNat n :: s)
  | pair {p q r t p' q' r' t' : Char} {cs s : List Char} {high low : ℕ} :
      hexNumber [p, q, r, t] = high → hexNumber [p', q', r', t'] = low →
      0xD800 ≤ high → high < 0xDC00 → 0xDC00 ≤ low → low ≤ 0xDFFF → Unescapes cs s →
      Unescapes ('\\' :: 'u' :: p :: q :: r :: t :: '\\' :: 'u' :: p' :: q' :: r' :: t' :: cs)
        (Char.ofNat (0x10000 + (high - 0xD800) * 0x400 + (low - 0xDC00)) :: s)

theorem length_lt_four {cs : List Char}
    (h : ∀ p q r t rest, cs = p :: q :: r :: t :: rest → False) : cs.length < 4 := by
  match cs, h with
  | [], _ | [_], _ | [_, _], _ | [_, _, _], _ => simp
  | p :: q :: r :: t :: rest, h => exact (h p q r t rest rfl).elim

/-- The characters of a string are computed. -/
theorem unescape?_eq_some_iff {cs s : List Char} : unescape? cs = some s ↔ Unescapes cs s := by
  constructor
  · intro h
    fun_induction unescape? cs generalizing s with
    | case1 =>
      cases h
      exact .nil
    | case2 p q r t rest n hn =>
      rename_i ih
      obtain ⟨s, hs, rfl⟩ := Option.map_eq_some_iff.1 h
      exact .unit rfl (by simpa using hn) (ih hs)
    | case3 p q r t n hn p' q' r' t' rest n' hn' code =>
      rename_i ih
      obtain ⟨s, hs, rfl⟩ := Option.map_eq_some_iff.1 h
      simp only [Bool.or_eq_true, decide_eq_true_eq, not_or, not_lt] at hn
      simp only [Bool.and_eq_true, decide_eq_true_eq] at hn'
      exact .pair rfl rfl hn.1 hn'.1.1 hn'.1.2 hn'.2 (ih hs)
    | case4 | case5 => cases h
    | case6 c rest hc ih =>
      obtain ⟨s, hs, rfl⟩ := Option.map_eq_some_iff.1 h
      exact .letter (fun hu => length_lt_four fun p q r t tail => hc p q r t tail hu) (ih hs)
    | case7 c rest _ hc ih =>
      obtain ⟨s, hs, rfl⟩ := Option.map_eq_some_iff.1 h
      refine .plain (fun hbackslash => ?_) (ih hs)
      exact List.eq_nil_iff_forall_not_mem.2 fun d hd => by
        obtain ⟨e, tail, rfl⟩ := List.exists_cons_of_ne_nil (List.ne_nil_of_mem hd)
        exact hc e tail hbackslash rfl
  · intro h
    induction h with
    | nil => rfl
    | @plain c cs s hc _ ih =>
      rw [unescape?, ih]
      · rfl
      · rintro p q r t rest hbackslash rfl
        cases hc hbackslash
      · rintro d rest hbackslash rfl
        cases hc hbackslash
    | @letter c cs s hc _ ih =>
      rw [unescape?, ih]
      · rfl
      · rintro p q r t rest hu rfl
        exact absurd (hc hu) (by simp)
    | @unit p q r t cs s n hn hrange _ ih =>
      subst hn
      rw [unescape?.eq_def]
      refine (if_pos (by simpa using hrange)).trans ?_
      rw [ih]
      rfl
    | @pair p q r t p' q' r' t' cs s high low hhigh hlow h₁ h₂ h₃ h₄ _ ih =>
      subst hhigh hlow
      rw [unescape?.eq_def]
      refine (if_neg (by simp; omega)).trans ?_
      refine (if_pos (by simp; omega)).trans ?_
      rw [ih]
      rfl

/-! ## Numbers -/

/-- The first digits that can be put behind a number within 64 bits, and those that are left. -/
def Fit (n : ℕ) (ds kept left : List Char) : Prop :=
  ds = kept ++ left ∧ Nat.ofDigitChars 10 kept n < UInt64.size ∧
    ∀ d ∈ left.head?, UInt64.size ≤ Nat.ofDigitChars 10 (kept ++ [d]) n

theorem le_ofDigitChars (ds : List Char) (n : ℕ) : n ≤ Nat.ofDigitChars 10 ds n := by
  induction ds generalizing n with
  | nil => exact le_rfl
  | cons d ds ih =>
    rw [Nat.ofDigitChars_cons]
    exact le_trans (by omega) (ih _)

theorem exists_fit {n : ℕ} (h : n < UInt64.size) (ds : List Char) :
    ∃ kept left, Fit n ds kept left := by
  induction ds generalizing n with
  | nil => exact ⟨[], [], rfl, h, nofun⟩
  | cons d ds ih =>
    by_cases hnext : Nat.ofDigitChars 10 [d] n < UInt64.size
    · obtain ⟨kept, left, rfl, hkept, hleft⟩ := ih hnext
      exact ⟨d :: kept, left, rfl, hkept, hleft⟩
    · refine ⟨[], d :: ds, rfl, h, ?_⟩
      rintro _ ⟨⟩
      exact not_lt.1 hnext

/-- Digits go in as long as they fit. -/
theorem Fit.appendDigits_eq {n : ℕ} {ds kept left : List Char} (h : Fit n ds kept left) :
    appendDigits n ds = (Nat.ofDigitChars 10 kept n, left.length) := by
  obtain ⟨rfl, hkept, hleft⟩ := h
  induction kept generalizing n with
  | nil =>
    cases left with
    | nil => rfl
    | cons d left =>
      have hd := hleft d rfl
      rw [List.nil_append, Nat.ofDigitChars_cons, Nat.ofDigitChars_nil, Nat.mul_comm] at hd
      exact if_neg (not_lt.2 hd)
  | cons d kept ih =>
    rw [Nat.ofDigitChars_cons, Nat.mul_comm] at hkept ⊢
    rw [List.cons_append, appendDigits, if_pos ((le_ofDigitChars kept _).trans_lt hkept)]
    refine ih hkept fun e he => ?_
    have hmore := hleft e he
    rwa [List.cons_append, Nat.ofDigitChars_cons, Nat.mul_comm] at hmore

namespace Literal

/-- The integer in front of the point. -/
def signed (l : Literal) : ℤ :=
  if l.negative then -Nat.ofDigitChars 10 l.whole 0 else Nat.ofDigitChars 10 l.whole 0

/-- An integer of 64 bits, signed or unsigned. There is no negative zero among them. -/
def IsInteger (l : Literal) (n : ℤ) : Prop :=
  l.fraction = [] ∧ l.exponent = none ∧ n = l.signed ∧ Int64.minValue.toInt ≤ n ∧
    n < UInt64.size ∧ (l.negative = true → n ≠ 0)

/-- A double, rounded from the digits that fit in 64 bits and the exponent that they have then. -/
def IsDouble (l : Literal) (x : Float) : Prop :=
  ∃ whole dropped fraction unread y, Fit 0 l.whole whole dropped ∧
    Fit (Nat.ofDigitChars 10 whole 0) l.fraction fraction unread ∧
    scaled? (Nat.ofDigitChars 10 (whole ++ fraction) 0)
      (dropped.length - fraction.length + l.exponent.getD 0) = some y ∧
    x = if l.negative then -y else y

/-- The value of a number: the integer that it is, or else a double. -/
inductive Means (l : Literal) : Json → Prop
  | integer {n : ℤ} : l.IsInteger n → l.Means (.integer n)
  | double {x : Float} : (∀ n, ¬l.IsInteger n) → l.IsDouble x → l.Means (.double x)

variable {l : Literal}

/-- The digits of an integer of 64 bits fit, with none left. -/
theorem IsInteger.eq_nil {n : ℤ} {whole dropped : List Char} (h : l.IsInteger n)
    (hfit : Fit 0 l.whole whole dropped) : dropped = [] := by
  obtain ⟨-, -, hn, hlow, hhigh, -⟩ := h
  obtain ⟨hwhole, -, hleft⟩ := hfit
  cases dropped with
  | nil => rfl
  | cons d ds =>
    have hlarge : UInt64.size ≤ Nat.ofDigitChars 10 l.whole 0 := by
      rw [hwhole, List.append_cons, Nat.ofDigitChars_append]
      exact (hleft d rfl).trans (le_ofDigitChars ds _)
    rw [signed] at hn
    rw [show Int64.minValue.toInt = -9223372036854775808 from rfl] at hlow
    rw [UInt64.size] at hlarge hhigh
    split at hn <;> omega

theorem isInteger_signed_iff {whole dropped : List Char} (hfit : Fit 0 l.whole whole dropped) :
    l.IsInteger l.signed ↔ l.fraction = [] ∧ l.exponent = none ∧ dropped = [] ∧
      (l.negative = true → 0 < Nat.ofDigitChars 10 whole 0 ∧
        Int64.minValue.toInt ≤ -(Nat.ofDigitChars 10 whole 0 : ℤ)) := by
  have hsame (hdropped : dropped = []) : l.whole = whole := by
    rw [hfit.1, hdropped, List.append_nil]
  have hkept := hfit.2.1
  have hmin : Int64.minValue.toInt = -9223372036854775808 := rfl
  constructor
  · intro h
    have hdropped := h.eq_nil hfit
    obtain ⟨hfraction, hexponent, -, hlow, -, hzero⟩ := h
    refine ⟨hfraction, hexponent, hdropped, fun hnegative => ?_⟩
    rw [signed, if_pos hnegative, hsame hdropped] at hlow hzero
    have hne := hzero hnegative
    omega
  · rintro ⟨hfraction, hexponent, hdropped, hnegative⟩
    refine ⟨hfraction, hexponent, rfl, ?_⟩
    rw [signed, hsame hdropped]
    split
    · next h =>
      obtain ⟨hpos, hlow⟩ := hnegative h
      rw [UInt64.size]
      omega
    · next h => exact ⟨by omega, by exact_mod_cast hkept, fun h' => absurd h' h⟩

theorem value?_of_isInteger {n : ℤ} (h : l.IsInteger n) : l.value? = some (.integer n) := by
  obtain ⟨whole, dropped, hfit⟩ := exists_fit (by decide : 0 < UInt64.size) l.whole
  obtain rfl : n = l.signed := h.2.2.1
  obtain ⟨hfraction, hexponent, rfl, hnegative⟩ := (isInteger_signed_iff hfit).1 h
  unfold value?
  rw [hfit.appendDigits_eq]
  dsimp only
  rw [if_pos (by simpa [hfraction, hexponent, or_iff_not_imp_left] using hnegative), signed, hfit.1,
    List.append_nil]

/-- A number that is no integer is rounded. -/
theorem value?_of_fit {whole dropped fraction unread : List Char} (h : ∀ n, ¬l.IsInteger n)
    (hwhole : Fit 0 l.whole whole dropped)
    (hfraction : Fit (Nat.ofDigitChars 10 whole 0) l.fraction fraction unread) :
    l.value? = (scaled? (Nat.ofDigitChars 10 (whole ++ fraction) 0)
      (dropped.length - fraction.length + l.exponent.getD 0)).map
        fun y => .double (if l.negative then -y else y) := by
  have hlength : (l.fraction.length - unread.length : ℤ) = fraction.length := by
    rw [hfraction.1, List.length_append]
    omega
  have hno := mt (isInteger_signed_iff hwhole).2 (h l.signed)
  unfold value?
  rw [hwhole.appendDigits_eq]
  dsimp only
  rw [if_neg (by simpa [or_iff_not_imp_left] using hno), hfraction.appendDigits_eq]
  dsimp only
  rw [hlength, Nat.ofDigitChars_append, Option.map_eq_bind]
  rfl

/-- The value of a number is computed. -/
theorem value?_eq_some_iff {v : Json} : l.value? = some v ↔ l.Means v := by
  constructor
  · intro h
    by_cases hinteger : l.IsInteger l.signed
    · cases (value?_of_isInteger hinteger).symm.trans h
      exact .integer hinteger
    · have hnone : ∀ n, ¬l.IsInteger n := fun n hn => hinteger (hn.2.2.1 ▸ hn)
      obtain ⟨whole, dropped, hwhole⟩ := exists_fit (by decide : 0 < UInt64.size) l.whole
      obtain ⟨fraction, unread, hfraction⟩ := exists_fit hwhole.2.1 l.fraction
      rw [value?_of_fit hnone hwhole hfraction] at h
      obtain ⟨y, hy, rfl⟩ := Option.map_eq_some_iff.1 h
      exact .double hnone ⟨whole, dropped, fraction, unread, y, hwhole, hfraction, hy, rfl⟩
  · rintro (hinteger | ⟨hnone, whole, dropped, fraction, unread, y, hwhole, hfraction, hy, rfl⟩)
    · exact value?_of_isInteger hinteger
    · rw [value?_of_fit hnone hwhole hfraction, hy, Option.map_some]

end Literal

/-! ## Values -/

namespace Document

mutual

/-- The value that a document means, if it nests arrays and objects at most so deep. The members of
    an object come in the order of their names, and of several with one name the last counts. -/
inductive MeansWithin : ℕ → Document → Json → Prop
  | null {depth : ℕ} : MeansWithin depth .null .null
  | bool {depth : ℕ} {b : Bool} : MeansWithin depth (.bool b) (.bool b)
  | number {depth : ℕ} {literal : Literal} {v : Json} : literal.Means v →
      MeansWithin depth (.number literal) v
  | string {depth : ℕ} {text s : List Char} : Unescapes text s →
      MeansWithin depth (.string text) (.string (String.ofList s))
  | array {depth : ℕ} {elements : List Document} {values : List Json} :
      ElementsMean depth elements values →
      MeansWithin (depth + 1) (.array elements) (.array values)
  | object {depth : ℕ} {members : List (List Char × Document)} {named : List (String × Json)} :
      MembersMean depth members named →
      MeansWithin (depth + 1) (.object members) (.object (NameMap.ofList named).toList)

/-- The values that the elements of an array mean. -/
inductive ElementsMean : ℕ → List Document → List Json → Prop
  | nil {depth : ℕ} : ElementsMean depth [] []
  | cons {depth : ℕ} {d : Document} {v : Json} {ds : List Document} {vs : List Json} :
      MeansWithin depth d v → ElementsMean depth ds vs → ElementsMean depth (d :: ds) (v :: vs)

/-- The names and values that the members of an object mean. -/
inductive MembersMean : ℕ → List (List Char × Document) → List (String × Json) → Prop
  | nil {depth : ℕ} : MembersMean depth [] []
  | cons {depth : ℕ} {text name : List Char} {d : Document} {v : Json}
      {members : List (List Char × Document)} {named : List (String × Json)} :
      Unescapes text name → MeansWithin depth d v → MembersMean depth members named →
      MembersMean depth ((text, d) :: members) ((String.ofList name, v) :: named)

end

mutual

/-- The value of a document is computed. -/
theorem valueWithin?_eq_some_iff : ∀ (d : Document) {depth : ℕ} {v : Json},
    d.valueWithin? depth = some v ↔ d.MeansWithin depth v
  | .null, _, _ => by
    constructor
    · rintro ⟨⟩
      exact .null
    · rintro ⟨⟩
      rfl
  | .bool _, _, _ => by
    constructor
    · rintro ⟨⟩
      exact .bool
    · rintro ⟨⟩
      rfl
  | .number _, _, _ => by
    rw [valueWithin?, Literal.value?_eq_some_iff]
    constructor
    · exact .number
    · rintro (_ | _ | hv)
      exact hv
  | .string text, depth, v => by
    rw [valueWithin?, Option.map_eq_some_iff]
    simp only [unescape?_eq_some_iff]
    constructor
    · rintro ⟨s, hs, rfl⟩
      exact .string hs
    · rintro (_ | _ | _ | hs)
      exact ⟨_, hs, rfl⟩
  | .array elements, 0, v => ⟨nofun, nofun⟩
  | .array elements, depth + 1, v => by
    rw [valueWithin?, Option.map_eq_some_iff]
    simp only [elementsWithin?_eq_some_iff elements]
    constructor
    · rintro ⟨values, hvalues, rfl⟩
      exact .array hvalues
    · rintro (_ | _ | _ | _ | hvalues)
      exact ⟨_, hvalues, rfl⟩
  | .object members, 0, v => ⟨nofun, nofun⟩
  | .object members, depth + 1, v => by
    rw [valueWithin?, Option.map_eq_some_iff]
    simp only [membersWithin?_eq_some_iff members]
    constructor
    · rintro ⟨named, hnamed, rfl⟩
      exact .object hnamed
    · rintro (_ | _ | _ | _ | _ | hnamed)
      exact ⟨_, hnamed, rfl⟩

/-- The values of the elements of an array are computed. -/
theorem elementsWithin?_eq_some_iff : ∀ (ds : List Document) {depth : ℕ} {vs : List Json},
    elementsWithin? depth ds = some vs ↔ ElementsMean depth ds vs
  | [], _, _ => by
    constructor
    · rintro ⟨⟩
      exact .nil
    · rintro ⟨⟩
      rfl
  | d :: ds, depth, vs => by
    rw [elementsWithin?]
    constructor
    · intro h
      obtain ⟨v, hv, h⟩ := Option.bind_eq_some_iff.1 h
      obtain ⟨rest, hrest, h⟩ := Option.bind_eq_some_iff.1 h
      cases h
      exact .cons ((valueWithin?_eq_some_iff d).1 hv) ((elementsWithin?_eq_some_iff ds).1 hrest)
    · rintro (_ | ⟨hv, hrest⟩)
      rw [(valueWithin?_eq_some_iff d).2 hv, (elementsWithin?_eq_some_iff ds).2 hrest]
      rfl

/-- The names and values of the members of an object are computed. -/
theorem membersWithin?_eq_some_iff : ∀ (members : List (List Char × Document)) {depth : ℕ}
    {named : List (String × Json)},
    membersWithin? depth members = some named ↔ MembersMean depth members named
  | [], _, _ => by
    constructor
    · rintro ⟨⟩
      exact .nil
    · rintro ⟨⟩
      rfl
  | (text, d) :: members, depth, named => by
    rw [membersWithin?]
    constructor
    · intro h
      obtain ⟨name, hname, h⟩ := Option.bind_eq_some_iff.1 h
      obtain ⟨v, hv, h⟩ := Option.bind_eq_some_iff.1 h
      obtain ⟨rest, hrest, h⟩ := Option.bind_eq_some_iff.1 h
      cases h
      exact .cons (unescape?_eq_some_iff.1 hname) ((valueWithin?_eq_some_iff d).1 hv)
        ((membersWithin?_eq_some_iff members).1 hrest)
    · rintro (_ | ⟨hname, hv, hrest⟩)
      rw [unescape?_eq_some_iff.2 hname, (valueWithin?_eq_some_iff d).2 hv,
        (membersWithin?_eq_some_iff members).2 hrest]
      rfl

end

end Document

end PagedQuery.Json
