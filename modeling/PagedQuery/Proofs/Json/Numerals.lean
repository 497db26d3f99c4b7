import Mathlib
import PagedQuery.Json.Document
import PagedQuery.Proofs.Text.Digits

/-!
# How numbers are written

A number begins with a minus or has no sign. Its digits have no zero in front of others, and behind
them there may be a point with more digits, and an exponent, whose sign may be a plus as well.

* `Literal.IsWritten`: the texts of a number, in their parts;
* `Literal.ofText?_eq_some_iff`: a number is read off its texts, and off no others.
-/

namespace PagedQuery.Json

open Text

/-- Some digits, without a zero in front of others. -/
def IsWhole (cs : List Char) : Prop :=
  cs = ['0'] ∨ ∃ d ds, cs = d :: ds ∧ d ≠ '0' ∧ AllDigits (d :: ds)

/-- A point with some digits behind it, or nothing where there are none. -/
def IsFraction (ds cs : List Char) : Prop :=
  ds = [] ∧ cs = [] ∨ ds ≠ [] ∧ AllDigits ds ∧ cs = '.' :: ds

/-- A letter with the exponent behind it, or nothing where there is none. -/
def IsExponent (exponent : Option ℤ) (cs : List Char) : Prop :=
  exponent = none ∧ cs = [] ∨
    ∃ e text n, (e = 'e' ∨ e = 'E') ∧ IsInteger n text ∧ exponent = some n ∧ cs = e :: text

namespace Literal

/-- The text of a number behind its sign. -/
def IsUnsigned (l : Literal) (cs : List Char) : Prop :=
  IsWhole l.whole ∧ ∃ fraction exponent, IsFraction l.fraction fraction ∧
    IsExponent l.exponent exponent ∧ cs = l.whole ++ (fraction ++ exponent)

/-- The text of a number. -/
def IsWritten (l : Literal) (text : List Char) : Prop :=
  ∃ cs, l.IsUnsigned cs ∧ text = if l.negative then '-' :: cs else cs

end Literal

/-- A character that numbers are written with. -/
def IsNumeral (c : Char) : Prop :=
  c.isDigit = true ∨ c ∈ ['+', '-', '.', 'e', 'E']

variable {cs ds rest whole fraction text : List Char} {exponent : Option ℤ} {l : Literal}
  {negative : Bool}

/-! ## The parts of a number -/

theorem IsWhole.allDigits (h : IsWhole whole) : AllDigits whole := by
  rcases h with rfl | ⟨d, ds, rfl, -, hds⟩
  · exact List.forall_mem_singleton.2 rfl
  · exact hds

theorem IsWhole.exists_cons (h : IsWhole whole) :
    ∃ d ds, whole = d :: ds ∧ d.isDigit = true := by
  rcases h with rfl | ⟨d, ds, rfl, -, hds⟩
  · exact ⟨'0', [], rfl, rfl⟩
  · exact ⟨d, ds, rfl, hds d List.mem_cons_self⟩

theorem wholeOk_iff (h : AllDigits whole) : wholeOk whole = true ↔ IsWhole whole := by
  unfold wholeOk
  split
  · simp [IsWhole]
  · exact iff_of_true rfl (.inl rfl)
  · next d ds hzero =>
    rw [bne_iff_ne]
    constructor
    · exact fun hd => .inr ⟨d, ds, rfl, hd, h⟩
    · rintro (heq | ⟨_, _, heq, hd, -⟩)
      · obtain ⟨hd, hds⟩ := List.cons.inj heq
        exact absurd hds (hzero hd)
      · cases heq
        exact hd

theorem exponent?_eq_some_iff : exponent? cs = some exponent ↔ IsExponent exponent cs := by
  unfold exponent? IsExponent
  split
  · simp [eq_comm]
  next e text =>
  constructor
  · intro h
    split at h
    · next he =>
      obtain ⟨n, hn, rfl⟩ := Option.map_eq_some_iff.1 h
      rw [Bool.or_eq_true, beq_iff_eq, beq_iff_eq] at he
      exact .inr ⟨e, text, n, he, integer?_eq_some_iff.1 hn, rfl, rfl⟩
    · cases h
  · rintro (⟨-, h⟩ | ⟨_, _, n, he, hn, rfl, h⟩)
    · cases h
    · cases h
      rw [if_pos (by simpa using he), integer?_eq_some_iff.2 hn]
      rfl

theorem IsExponent.startsOff (h : IsExponent exponent cs) :
    StartsOff cs ∧ ∀ ds, cs ≠ '.' :: ds := by
  rcases h with ⟨-, rfl⟩ | ⟨e, text, n, rfl | rfl, -, -, rfl⟩
  · exact ⟨nofun, nofun⟩
  · exact ⟨startsOff_cons rfl _, nofun⟩
  · exact ⟨startsOff_cons rfl _, nofun⟩

theorem startsOff_append (hfraction : IsFraction fraction cs) (hrest : StartsOff rest) :
    StartsOff (cs ++ rest) := by
  rcases hfraction with ⟨-, rfl⟩ | ⟨-, -, rfl⟩
  · exact hrest
  · exact startsOff_cons rfl _

/-- The digits behind a point are taken, whatever follows them. -/
theorem takeFraction?_append (hfraction : IsFraction fraction cs)
    (hrest : StartsOff rest ∧ ∀ ds, rest ≠ '.' :: ds) :
    takeFraction? (cs ++ rest) = some (fraction, rest) := by
  rcases hfraction with ⟨rfl, rfl⟩ | ⟨hne, hds, rfl⟩
  · rw [List.nil_append]
    unfold takeFraction?
    split
    · next h => exact absurd rfl (hrest.2 _)
    · rfl
  · rw [List.cons_append, takeFraction?, takeWhile_append hds hrest.1, List.drop_left]
    exact if_neg (by simpa using hne)

theorem exists_of_takeFraction? (h : takeFraction? cs = some (fraction, rest)) :
    ∃ point, IsFraction fraction point ∧ cs = point ++ rest := by
  unfold takeFraction? at h
  split at h
  · next ds =>
    dsimp only at h
    split at h <;> cases h
    next hne =>
    refine ⟨'.' :: _, .inr ⟨by simpa using hne, allDigits_takeWhile ds, rfl⟩, ?_⟩
    rw [List.cons_append, takeWhile_append_drop]
  · cases h
    exact ⟨[], .inl ⟨rfl, rfl⟩, rfl⟩

/-! ## Numbers -/

namespace Literal

theorem ofUnsigned?_eq_some_iff :
    ofUnsigned? negative cs = some l ↔ l.negative = negative ∧ l.IsUnsigned cs := by
  constructor
  · intro h
    obtain ⟨⟨fraction, rest⟩, hfraction, h⟩ := Option.bind_eq_some_iff.1 h
    obtain ⟨exponent, hexponent, h⟩ := Option.bind_eq_some_iff.1 h
    split at h
    · next hwhole =>
      cases h
      obtain ⟨point, hpoint, hrest⟩ := exists_of_takeFraction? hfraction
      refine ⟨rfl, (wholeOk_iff (allDigits_takeWhile cs)).1 hwhole, point, rest, hpoint,
        exponent?_eq_some_iff.1 hexponent, ?_⟩
      rw [← hrest, takeWhile_append_drop]
    · cases h
  · rintro ⟨rfl, hwhole, fraction, exponent, hfraction, hexponent, rfl⟩
    unfold ofUnsigned?
    rw [takeWhile_append hwhole.allDigits (startsOff_append hfraction hexponent.startsOff.1)]
    dsimp only
    rw [List.drop_left, takeFraction?_append hfraction hexponent.startsOff]
    simp only [Option.bind_eq_bind, Option.bind_some, exponent?_eq_some_iff.2 hexponent,
      if_pos ((wholeOk_iff hwhole.allDigits).2 hwhole)]

theorem IsUnsigned.exists_cons (h : l.IsUnsigned cs) :
    ∃ d ds, cs = d :: ds ∧ d.isDigit = true := by
  obtain ⟨hwhole, _, _, -, -, rfl⟩ := h
  obtain ⟨d, ds, hds, hd⟩ := hwhole.exists_cons
  exact ⟨d, _, by rw [hds, List.cons_append], hd⟩

/-- A number is read off its texts. -/
theorem ofText?_eq_some_iff : ofText? text = some l ↔ l.IsWritten text := by
  constructor
  · intro h
    unfold ofText? at h
    split at h <;> obtain ⟨hnegative, hcs⟩ := ofUnsigned?_eq_some_iff.1 h
    · exact ⟨_, hcs, by rw [hnegative, if_pos rfl]⟩
    · exact ⟨_, hcs, by rw [hnegative]; rfl⟩
  · rintro ⟨cs, hcs, rfl⟩
    by_cases hnegative : l.negative = true
    · rw [if_pos hnegative]
      exact ofUnsigned?_eq_some_iff.2 ⟨hnegative, hcs⟩
    · rw [if_neg hnegative]
      unfold ofText?
      split
      · -- A digit is not taken for the sign.
        obtain ⟨d, ds, heq, hd⟩ := hcs.exists_cons
        exact absurd (List.cons.inj heq).1.symm (ne_of_isDigit hd rfl)
      · exact ofUnsigned?_eq_some_iff.2 ⟨Bool.eq_false_iff.2 hnegative, hcs⟩

/-! ## Characters of numbers -/

theorem IsWritten.exists_cons (h : l.IsWritten text) :
    ∃ c cs, text = c :: cs ∧ (c = '-' ∨ c.isDigit = true) := by
  obtain ⟨cs, hcs, rfl⟩ := h
  split
  · exact ⟨'-', cs, rfl, .inl rfl⟩
  · obtain ⟨d, ds, rfl, hd⟩ := hcs.exists_cons
    exact ⟨d, ds, rfl, .inr hd⟩

end Literal

theorem isNumeral_of_allDigits (h : AllDigits ds) : ∀ c ∈ ds, IsNumeral c :=
  fun c hc => .inl (h c hc)

theorem Literal.IsWritten.isNumeral (h : l.IsWritten text) : ∀ c ∈ text, IsNumeral c := by
  obtain ⟨cs, ⟨hwhole, fraction, exponent, hfraction, hexponent, rfl⟩, rfl⟩ := h
  have hunsigned : ∀ c ∈ l.whole ++ (fraction ++ exponent), IsNumeral c := by
    refine List.forall_mem_append.2 ⟨isNumeral_of_allDigits hwhole.allDigits,
      List.forall_mem_append.2 ⟨?_, ?_⟩⟩
    · rcases hfraction with ⟨-, rfl⟩ | ⟨-, hds, rfl⟩
      · exact nofun
      · exact List.forall_mem_cons.2 ⟨.inr (by decide), isNumeral_of_allDigits hds⟩
    · rcases hexponent with ⟨-, rfl⟩ | ⟨e, cs, n, he, hn, -, rfl⟩
      · exact nofun
      · refine List.forall_mem_cons.2 ⟨.inr (by rcases he with rfl | rfl <;> decide), ?_⟩
        intro c hc
        rcases hn.isDigit_or_sign hc with hdigit | rfl | rfl
        · exact .inl hdigit
        · exact .inr (by decide)
        · exact .inr (by decide)
  split
  · exact List.forall_mem_cons.2 ⟨.inr (by decide), hunsigned⟩
  · exact hunsigned

end PagedQuery.Json
