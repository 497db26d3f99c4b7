import PagedQuery.Text.Integer

/-!
# Shortest decimals of doubles

A double stands for every real that rounds to it. Of the decimals among those reals the shortest
one is taken, and of several of that length the one nearest to the double; which of two equally near
ones it is, is for whoever writes the text.

The search is in exact arithmetic. A finite double is `m * 2 ^ q`; the reals that round to it form
an interval, ends included exactly if `m` is even. On the grid of the decimals with one digit, then
two, and so on, the two neighbours of the double are tried: if any point of a grid lies in the
interval, one of these two does.

* `Tie`: the choice between two equally near decimals;
* `Double.shortest`: the digits and the place of the point, for the layouts of
  `PagedQuery.Decimal.Layout`;
* `Double.parts`: a double as `m * 2 ^ q`.
-/

namespace PagedQuery.Double

/-- Which of two neighbouring decimals is taken for a magnitude halfway between them: the one whose
    last digit is even, or the greater one. -/
inductive Tie
  | even
  | up

/-- The choice between a number and the next one. -/
def Tie.choose : Tie → Nat → Nat
  | even, n => if n % 2 == 0 then n else n + 1
  | up, n => n + 1

/-- Whether the sign bit is set, as it is for `-0.0`. -/
def isNegative (x : Float) : Bool :=
  x.toBits >>> 63 == 1

/-- The magnitude of a finite double as `m * 2 ^ q`, and whether the double below it is only half
    as far away as the one above. -/
def parts (x : Float) : Nat × Int × Bool :=
  let fraction := (x.toBits &&& 0xFFFFFFFFFFFFF).toNat
  let exponent := ((x.toBits >>> 52) &&& 0x7FF).toNat
  if exponent = 0 then (fraction, -1074, false)
  else (fraction + 0x10000000000000, exponent - 1075, fraction == 0 && 1 < exponent)

/-- The interval of the reals that round to a magnitude: its middle and its two ends over one
    denominator. -/
structure Interval where
  low : Nat
  middle : Nat
  high : Nat
  denominator : Nat
  closed : Bool

/-- Halfway to the neighbour below, the magnitude, and halfway to the neighbour above, in quarters
    of the gap between `m` and `m + 1`. -/
def interval (x : Float) : Interval :=
  let (m, q, narrow) := parts x
  let unit := 1 <<< (q - 2).toNat
  { low := (4 * m - if narrow then 1 else 2) * unit
    middle := 4 * m * unit
    high := (4 * m + 2) * unit
    denominator := 1 <<< (2 - q).toNat
    closed := m % 2 == 0 }

/-- Whether the quotient `num / den` lies in the interval. -/
def Interval.contains (i : Interval) (num den : Nat) : Bool :=
  let (low, point, high) := (i.low * den, num * i.denominator, i.high * den)
  if i.closed then low ≤ point && point ≤ high else low < point && point < high

/-- The place of the leading digit: the `e` with `10 ^ e ≤ middle < 10 ^ (e + 1)`. -/
def Interval.leadingPlace (i : Interval) : Int :=
  let whole := i.middle / i.denominator
  if 0 < whole then (Nat.toDigits 10 whole).length - 1
  else -((Nat.toDigits 10 ((i.denominator - 1) / i.middle)).length : Int)

/-- The decimal in the interval that is a multiple of `10 ^ place`, if the middle's neighbour below
    or above is one: the nearer of the two, and of two equally near ones as `tie` says. -/
def Interval.onGrid? (i : Interval) (tie : Tie) (place : Int) : Option Nat :=
  let (up, down) := (Nat.pow 10 place.toNat, Nat.pow 10 (-place).toNat)
  let (num, den) := (i.middle * down, i.denominator * up)
  let below := num / den
  let hit (n : Nat) := i.contains (n * up) down
  match hit below, hit (below + 1) with
  | false, false => none
  | true, false => some below
  | false, true => some (below + 1)
  | true, true =>
    match compare (2 * num) ((2 * below + 1) * den) with
    | .lt => some below
    | .gt => some (below + 1)
    | .eq => some (tie.choose below)

/-- The significant digits of the magnitude of a finite double and the place of its point. -/
def shortest (tie : Tie) (x : Float) : List Char × Int :=
  let i := interval x
  if i.middle = 0 then (['0'], 1)
  else
    let place := i.leadingPlace
    let onGrid? (k : Nat) := (i.onGrid? tie (place - k)).map (·, place - (k : Int))
    match (List.range 17).findSome? onGrid? with
    | none => ([], 0)
    | some (n, unit) =>
      let digits := Text.naturalText n
      ((digits.reverse.dropWhile (· == '0')).reverse, digits.length + unit)

end PagedQuery.Double
