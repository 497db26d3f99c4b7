/-!
# Integers in decimal

An integer is written as ASCII digits after an optional sign, with nothing in between; a plus
sign and leading zeros are read but never written.

* `natural?`, `integer?`: reading digits, and digits with a sign;
* `toInt64?`, `int64?`: the same within 64 bits;
* `naturalText`, `integerText`: writing.
-/

namespace PagedQuery.Text

/-- The number that a run of digits denotes; at least one digit is needed. -/
def natural? (cs : List Char) : Option Nat :=
  if !cs.isEmpty && cs.all Char.isDigit then some (Nat.ofDigitChars 10 cs 0) else none

/-- The integer that an optional sign and a run of digits denote. -/
def integer? : List Char → Option Int
  | '-' :: cs => (natural? cs).map fun n : Nat => -(n : Int)
  | '+' :: cs => (natural? cs).map Int.ofNat
  | cs => (natural? cs).map Int.ofNat

/-- The 64-bit integer of the same value, if there is one. -/
def toInt64? (n : Int) : Option Int64 :=
  if Int64.minValue.toInt ≤ n ∧ n ≤ Int64.maxValue.toInt then some (Int64.ofInt n) else none

/-- Reads a 64-bit integer; one that does not fit is refused. -/
def int64? (cs : List Char) : Option Int64 :=
  (integer? cs).bind toInt64?

/-- The digits of a number, without leading zeros. -/
def naturalText (n : Nat) : List Char :=
  Nat.toDigits 10 n

/-- The digits of an integer after a minus sign if it is negative. -/
def integerText (n : Int) : List Char :=
  if n < 0 then '-' :: naturalText n.natAbs else naturalText n.natAbs

end PagedQuery.Text
