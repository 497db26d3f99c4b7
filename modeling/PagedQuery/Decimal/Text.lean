import PagedQuery.Decimal.Basic
import PagedQuery.Decimal.Layout

/-!
# Decimals as text

A decimal is written with all its digits, so that its scale can be read off: `1431.50` keeps its
zero. Very small numbers get one digit in front of the point and an exponent (`1.50E-9`), and a
number with many zeros between its digits and the point gets its digits and an exponent (`15e+16`).

What is read is wider than what is written: a sign, digits with at most one point among them and
single or repeated underscores after the first of them, then an exponent after `e` or `E`. The
scale is the number of digits behind the point less the exponent; a text whose scale does not fit
in 64 bits is refused.

* `Decimal.parse?`: reading;
* `Decimal.text`: writing.
-/

namespace PagedQuery.Decimal

open Text

/-- The number of a run of digits and underscores that starts with a digit. -/
def grouped? (cs : List Char) : Option Nat :=
  match cs with
  | [] => none
  | c :: _ =>
    if c.isDigit && cs.all (fun c => c.isDigit || c == '_') then
      some (Nat.ofDigitChars 10 (cs.filter Char.isDigit) 0)
    else none

/-- The number of grouped digits after an optional sign. -/
def coefficient? : List Char → Option Int
  | '-' :: cs => (grouped? cs).map fun n => -(n : Int)
  | '+' :: cs => (grouped? cs).map Int.ofNat
  | cs => (grouped? cs).map Int.ofNat

/-- Splits a text at the first character that satisfies `p`, which goes to neither side. -/
def splitAtFirst (p : Char → Bool) (cs : List Char) : List Char × Option (List Char) :=
  match cs.span (fun c => !p c) with
  | (whole, []) => (whole, none)
  | (before, _ :: after) => (before, some after)

/-- Reads a decimal. -/
def parse? (cs : List Char) : Option Decimal := do
  let (significand, exponent) := splitAtFirst (fun c => c == 'e' || c == 'E') cs
  let (whole, fraction) := splitAtFirst (· == '.') significand
  let fraction := fraction.getD []
  let exponent ← exponent.elim (some 0) integer?
  let scale ← toInt64? ((fraction.filter (· != '_')).length - exponent)
  let coefficient ← coefficient? (whole ++ fraction)
  return ⟨coefficient, scale⟩

/-- The most zeros that are written between the point and the first digit. -/
def leadingZeroLimit : Int := 5

/-- The most zeros that are written between the last digit and the point. -/
def trailingZeroLimit : Int := 15

/-- The text of a number other than zero from its digits and its scale. -/
def magnitudeText (digits : List Char) (scale : Int) : List Char :=
  if digits.length + leadingZeroLimit < scale then
    leading digits ++ 'E' :: '-' :: integerText (scale - digits.length + 1)
  else if trailingZeroLimit < -scale then digits ++ 'e' :: '+' :: integerText (-scale)
  else positional digits (digits.length - scale)

/-- Writes a decimal. Zero is `0` whatever its scale. -/
def text (d : Decimal) : List Char :=
  if d.coefficient = 0 then ['0']
  else
    let magnitude := magnitudeText (naturalText d.coefficient.natAbs) d.scale.toInt
    if d.coefficient < 0 then '-' :: magnitude else magnitude

end PagedQuery.Decimal
