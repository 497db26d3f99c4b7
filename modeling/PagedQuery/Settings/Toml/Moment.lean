import PagedQuery.Calendar.Date
import PagedQuery.Text.Integer

/-!
# Dates and times in TOML

A day is written `2014-09-12`, a time of day `11:15`, `11:15:07` or `11:15:07.5`, and both together
with a `T`, a `t` or a single space between them; after both may stand a distance from universal
time, `Z`, `z` or `+02:00`. Every number has all its digits.

Such a value is kept as a text, of which there is one for each value: with a capital `T` and `Z`, no
needless zeros in the fraction, of which at most nine digits count, and a plus before a distance of
zero.

* `Toml.isDay`: whether a text is a day;
* `Toml.moment?`: the text that is kept for a day, a time or both.
-/

namespace PagedQuery.Toml

open Text

/-- Whether two characters are the digits of a number that is not above a limit. -/
def isPair (most : Nat) (a b : Char) : Bool :=
  a.isDigit && b.isDigit && Nat.ofDigitChars 10 [a, b] 0 ≤ most

/-- Whether a text is a day of the calendar. -/
def isDay : List Char → Bool
  | [a, b, c, d, '-', m, n, '-', e, f] =>
    [a, b, c, d, m, n, e, f].all Char.isDigit &&
      IsDate (Nat.ofDigitChars 10 [a, b, c, d] 0) (Nat.ofDigitChars 10 [m, n] 0)
        (Nat.ofDigitChars 10 [e, f] 0)
  | _ => false

/-- A fraction without the zeros at its end, but not without any digit. -/
def fractionDigits (digits : List Char) : List Char :=
  let kept := ((digits.take 9).reverse.dropWhile (· == '0')).reverse
  if kept.isEmpty then ['0'] else kept

/-- Takes the fraction of a second off a text, if a point announces one. -/
def takeFraction : List Char → Option (List Char × List Char)
  | '.' :: cs =>
    let digits := cs.takeWhile Char.isDigit
    if digits.isEmpty then none
    else some ('.' :: fractionDigits digits, cs.drop digits.length)
  | cs => some ([], cs)

/-- Takes the seconds off a text, if a colon announces them. -/
def takeSeconds : List Char → Option (List Char × List Char)
  | ':' :: s :: t :: cs =>
    if isPair 60 s t then
      (takeFraction cs).map fun (fraction, rest) => (':' :: s :: t :: fraction, rest)
    else none
  | cs => some ([], cs)

/-- Takes a time of day off a text. -/
def takeTime : List Char → Option (List Char × List Char)
  | h :: i :: ':' :: m :: n :: cs =>
    if isPair 23 h i && isPair 59 m n then
      (takeSeconds cs).map fun (seconds, rest) => (h :: i :: ':' :: m :: n :: seconds, rest)
    else none
  | _ => none

/-- The text that is kept for a distance from universal time, or for none. -/
def offset? : List Char → Option (List Char)
  | [] => some []
  | ['Z'] | ['z'] => some ['Z']
  | [sign, h, i, ':', m, n] =>
    if (sign == '+' || sign == '-') && isPair 23 h i && isPair 59 m n then
      some ((if [h, i, m, n].all (· == '0') then '+' else sign) :: [h, i, ':', m, n])
    else none
  | _ => none

/-- The text that is kept for a day, a time of day or both. -/
def moment? (cs : List Char) : Option (List Char) :=
  let day := cs.take 10
  if isDay day then
    match cs.drop 10 with
    | [] => some day
    | separator :: cs =>
      if ['T', 't', ' '].contains separator then do
        let (time, rest) ← takeTime cs
        let offset ← offset? rest
        return day ++ 'T' :: time ++ offset
      else none
  else
    match takeTime cs with
    | some (time, []) => some time
    | _ => none

end PagedQuery.Toml
