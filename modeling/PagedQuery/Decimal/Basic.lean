/-!
# Decimal numbers

A `Decimal` is an integer coefficient with a scale, the number of its digits that stand behind the
point; a negative scale puts zeros in front of the point. `1.50` and `1.5` differ as decimals and
are equal as numbers.

* `Decimal.compare`: the order of the numbers, whatever their scales;
* `Decimal.ofInt`: an integer as a decimal.

The comparison never writes a number out. Two numbers of one sign are told apart by the place of
their leading digits, and only where those agree are the coefficients brought to a common scale, so
that a scale near the ends of its range costs nothing.
-/

namespace PagedQuery

/-- The number `coefficient * 10 ^ (-scale)`, along with the scale that it is written with. -/
structure Decimal where
  coefficient : Int
  scale : Int64
deriving DecidableEq

namespace Decimal

/-- An integer, written without a point. -/
def ofInt (n : Int) : Decimal :=
  ⟨n, 0⟩

/-- How many digits a number is written with. -/
def digitCount (n : Nat) : Nat :=
  (Nat.toDigits 10 n).length

/-- Compares `m * 10 ^ (-s)` with `n * 10 ^ (-t)`, for positive `m` and `n`: first the places of
    their leading digits, then the digits themselves. -/
def compareMagnitude (m : Nat) (s : Int) (n : Nat) (t : Int) : Ordering :=
  match Ord.compare (digitCount m - s) (digitCount n - t) with
  | .eq => Ord.compare (m * Nat.pow 10 (max s t - s).toNat) (n * Nat.pow 10 (max s t - t).toNat)
  | order => order

/-- Compares the numbers: their signs first, and for two of one sign their magnitudes. -/
def compare (a b : Decimal) : Ordering :=
  let (s, t) := (a.scale.toInt, b.scale.toInt)
  match Ord.compare a.coefficient.sign b.coefficient.sign with
  | .eq =>
    if 0 < a.coefficient then compareMagnitude a.coefficient.natAbs s b.coefficient.natAbs t
    else if a.coefficient < 0 then compareMagnitude b.coefficient.natAbs t a.coefficient.natAbs s
    else .eq
  | order => order

instance : Ord Decimal := ⟨compare⟩

end Decimal

end PagedQuery
