import PagedQuery.Text.Integer

/-!
# Doubles nearest to decimals

The double that a decimal number rounds to, whatever the size of its exponent: a number too large
for the doubles is infinite, and one too small is zero. Rounding happens once and on exact numbers;
a number halfway between two doubles goes to the one whose last bit is zero.

* `Double.ofRatio`: the double nearest to a quotient;
* `Double.nearest`: the double nearest to a number of digits and an exponent;
* `Double.parse?`: the double that a text denotes.
-/

namespace PagedQuery.Double

open Text

/-- A quotient rounded to an integer, a half going to the even one. -/
def roundedQuotient (num den : Nat) : Nat :=
  let whole := num / den
  match compare (2 * (num % den)) den with
  | .lt => whole
  | .gt => whole + 1
  | .eq => whole + whole % 2

/-- A quotient divided by `2 ^ q`. -/
def scaledBy (q : Int) (num den : Nat) : Nat × Nat :=
  (num <<< (-q).toNat, den <<< q.toNat)

/-- The exponent with which a positive quotient is written as `m * 2 ^ q`: the one for which `m` has
    53 bits before the point, but not less than that of the smallest double. -/
def binaryExponent (num den : Nat) : Int :=
  let q : Int := num.log2 - den.log2 - 53
  let (num, den) := scaledBy q num den
  max (-1074) (if num / den < 0x20000000000000 then q else q + 1)

/-- The double nearest to a positive quotient. With `m * 2 ^ q` rounded to an integer `m`, the bits
    of the double are `m` above `q + 1074` times the step from one exponent to the next; should `m`
    be rounded up to 54 bits, this is the next exponent just the same. -/
def ofRatio (num den : Nat) : Float :=
  let q := binaryExponent num den
  let (num, den) := scaledBy q num den
  let bits := (q + 1074).toNat * 0x10000000000000 + roundedQuotient num den
  Float.ofBits (UInt64.ofNat (min bits 0x7FF0000000000000))

/-- The double nearest to `n * 10 ^ exponent`. -/
def nearest (n : Nat) (exponent : Int) : Float :=
  let place := (naturalText n).length + exponent
  if n = 0 || place < -330 then 0
  else if 310 < place then 1 / 0
  else ofRatio (n * Nat.pow 10 exponent.toNat) (Nat.pow 10 (-exponent).toNat)

/-- Reads an exponent: `e` or `E` and an integer, or nothing at all. -/
def exponent? : List Char → Option Int
  | [] => some 0
  | c :: cs => if c == 'e' || c == 'E' then integer? cs else none

/-- Reads digits with at most one point among them and an exponent after them. -/
def magnitude? (cs : List Char) : Option Float :=
  let whole := cs.takeWhile Char.isDigit
  let afterWhole := cs.drop whole.length
  let (fraction, rest) := match afterWhole with
    | '.' :: cs => (cs.takeWhile Char.isDigit, cs.dropWhile Char.isDigit)
    | cs => ([], cs)
  if whole.isEmpty && fraction.isEmpty then none
  else (exponent? rest).map fun e =>
    nearest (Nat.ofDigitChars 10 (whole ++ fraction) 0) (e - fraction.length)

/-- Reads a double: digits with at most one point and an optional exponent, or one of the words for
    infinity and for what is no number, after an optional sign. -/
def parse? (cs : List Char) : Option Float :=
  let (negative, unsigned) := match cs with
    | '-' :: cs => (true, cs)
    | '+' :: cs => (false, cs)
    | cs => (false, cs)
  let word := String.ofList (unsigned.map Char.toLower)
  let magnitude :=
    if word = "inf" || word = "infinity" then some (1 / 0)
    else if word = "nan" then some (0 / 0)
    else magnitude? unsigned
  magnitude.map fun x => if negative then -x else x

end PagedQuery.Double
