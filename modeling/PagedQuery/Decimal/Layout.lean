import PagedQuery.Text.Integer

/-!
# Digits around a point

The layouts that the printers of numbers share. A digit string together with a place for the point
is a number: with the point at place `p` its value is `0.d₁d₂d₃… * 10 ^ p`, so `p` digits stand in
front of the point.

* `positional`: the digits with a point in its place, filled up with zeros where it lies outside;
* `leading`: one digit in front of the point, for the layouts with an exponent.
-/

namespace PagedQuery.Decimal

/-- The digits with the point at place `point`. There is always a digit in front of the point, and
    no point at the very end. -/
def positional (digits : List Char) (point : Int) : List Char :=
  if point ≤ 0 then '0' :: '.' :: List.replicate (-point).toNat '0' ++ digits
  else if point < digits.length then digits.take point.toNat ++ '.' :: digits.drop point.toNat
  else digits ++ List.replicate (point - digits.length).toNat '0'

/-- The digits with the point after the first one, and none where that is all of them. -/
def leading : List Char → List Char
  | [] => []
  | [d] => [d]
  | d :: ds => d :: '.' :: ds

end PagedQuery.Decimal
