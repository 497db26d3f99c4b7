import PagedQuery.Settings.Toml.Moment
import PagedQuery.Settings.Value
import PagedQuery.Text.Hex

/-!
# Scalars in TOML

The values that are written without quotes: booleans, integers to four bases, floats, and dates and
times. Single underscores may stand between the digits of a number.

* `Toml.integer?`, `Toml.float?`: the numbers;
* `Toml.scalar?`: the value of a text.
-/

namespace PagedQuery.Toml

open Text

/-- The digits of a run in which single underscores may stand between digits. -/
def ungrouped? (isDigit : Char → Bool) (cs : List Char) : Option (List Char) :=
  let pieces := cs.splitOn '_'
  if pieces.all fun piece => !piece.isEmpty && piece.all isDigit then some pieces.flatten else none

/-- The number of a run of digits to a base. -/
def numberIn (base : Nat) (digits : List Char) : Nat :=
  digits.foldl (fun n c => n * base + hexNumber [c]) 0

/-- Whether a run of digits has no zero in front of others. -/
def isCanonical : List Char → Bool
  | '0' :: _ :: _ => false
  | _ => true

/-- Takes a sign off a text, and says whether it is a minus sign. -/
def takeSign : List Char → Bool × List Char
  | '-' :: cs => (true, cs)
  | '+' :: cs => (false, cs)
  | cs => (false, cs)

/-- The number of digits to base ten, without needless zeros in front. -/
def decimal? (cs : List Char) : Option Nat := do
  let digits ← ungrouped? Char.isDigit cs
  if isCanonical digits then some (numberIn 10 digits) else none

/-- An integer of any size. To base ten it may have a sign; the other bases have a mark in front. -/
def wholeNumber? : List Char → Option Int
  | '0' :: 'x' :: cs => (ungrouped? isHexDigit cs).map fun digits => numberIn 16 digits
  | '0' :: 'o' :: cs =>
    (ungrouped? (fun c => '0' ≤ c && c ≤ '7') cs).map fun digits => numberIn 8 digits
  | '0' :: 'b' :: cs =>
    (ungrouped? (fun c => c == '0' || c == '1') cs).map fun digits => numberIn 2 digits
  | cs =>
    let (negative, magnitude) := takeSign cs
    (decimal? magnitude).map fun n => if negative then -(n : Int) else n

/-- An integer that fits in 64 bits. -/
def integer? (cs : List Char) : Option Int :=
  ((wholeNumber? cs).bind toInt64?).map (·.toInt)

/-- The exponent after the `e` or `E` of a float. -/
def exponent? (cs : List Char) : Option Int :=
  let (negative, size) := takeSign cs
  (ungrouped? Char.isDigit size).map fun digits =>
    if negative then -(numberIn 10 digits : Int) else numberIn 10 digits

/-- A float without a sign: a whole number with a fraction, an exponent or both. One that is too
    large for a double is refused. -/
def magnitude? (cs : List Char) : Option Float := do
  let (mantissa, exponent) := cs.span fun c => c != 'e' && c != 'E'
  let (whole, fraction) := mantissa.span (· != '.')
  if exponent.isEmpty && fraction.isEmpty then none
  let whole ← ungrouped? Char.isDigit whole
  if !isCanonical whole then none
  let fraction ← if fraction.isEmpty then some [] else ungrouped? Char.isDigit (fraction.drop 1)
  let exponent ← if exponent.isEmpty then some 0 else exponent? (exponent.drop 1)
  let x := Double.nearest (numberIn 10 (whole ++ fraction)) (exponent - fraction.length)
  if x.isFinite then some x else none

/-- A float, or one of the words for infinity and for what is no number. -/
def float? (cs : List Char) : Option Float :=
  let (negative, unsigned) := takeSign cs
  let magnitude := match unsigned with
    | ['i', 'n', 'f'] => some (1 / 0)
    | ['n', 'a', 'n'] => some (0 / 0)
    | cs => magnitude? cs
  magnitude.map fun x => if negative then -x else x

/-- A boolean. -/
def boolean? (cs : List Char) : Option Bool :=
  match String.ofList cs with
  | "true" => some true
  | "false" => some false
  | _ => none

/-- The value of a text without quotes. -/
def scalar? (cs : List Char) : Option SettingValue :=
  (boolean? cs).map .boolean <|> (integer? cs).map .integer <|> (float? cs).map .double <|>
    (moment? cs).map fun text => .string (String.ofList text)

end PagedQuery.Toml
