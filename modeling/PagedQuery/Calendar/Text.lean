import PagedQuery.Calendar.Timestamp
import PagedQuery.Text.Blank
import PagedQuery.Text.Integer

/-!
# Dates and timestamps as text

A date is written `2014-09-12` and a timestamp `2014-09-12 11:15:07.500`: years with at least four
digits and, beyond those of four digits, a sign; every other part with two digits; the fraction
with three, six or nine digits, whichever is enough, and not at all if it is zero.

Reading is laxer. White space may precede every number; the other numbers may have one digit
instead of two; a year without a sign has up to four digits and one with a sign any number. Between
the day and the hour stands a `T`, or any white space or none. Digits of the fraction after the
ninth are dropped. A date alone can be read as a timestamp: its midnight.

* `Date.parse?`, `Timestamp.parse?`: reading a whole text;
* `Date.text`, `Timestamp.text`: writing.
-/

namespace PagedQuery

open Text

namespace Calendar

/-- Takes a number of one to `most` digits off a text. -/
def takeNumber (most : Nat) (cs : List Char) : Option (Nat × List Char) :=
  let digits := (cs.take most).takeWhile Char.isDigit
  if digits.isEmpty then none
  else some (Nat.ofDigitChars 10 digits 0, cs.drop digits.length)

/-- Takes one or two digits off a text, after any white space. -/
def takePart (cs : List Char) : Option (Nat × List Char) :=
  takeNumber 2 (trimStart cs)

/-- Takes a year off a text, after any white space. -/
def takeYear (cs : List Char) : Option (Int × List Char) :=
  match trimStart cs with
  | '-' :: cs => (takeNumber cs.length cs).map fun (n, rest) => (-(n : Int), rest)
  | '+' :: cs => (takeNumber cs.length cs).map fun (n, rest) => ((n : Int), rest)
  | cs => (takeNumber 4 cs).map fun (n, rest) => ((n : Int), rest)

/-- Takes one given character off a text. -/
def takeChar (c : Char) : List Char → Option (List Char)
  | [] => none
  | d :: cs => if d = c then some cs else none

/-- Takes a fraction of a second off a text, in nanoseconds; where no point stands there is none. -/
def takeFraction : List Char → Option (Nat × List Char)
  | '.' :: cs =>
    let digits := cs.takeWhile Char.isDigit
    if digits.isEmpty then none
    else
      let kept := digits.take 9
      some (Nat.ofDigitChars 10 kept 0 * Nat.pow 10 (9 - kept.length), cs.drop digits.length)
  | cs => some (0, cs)

/-- Takes a date off a text. -/
def takeDate (cs : List Char) : Option (Date × List Char) := do
  let (year, cs) ← takeYear cs
  let cs ← takeChar '-' cs
  let (month, cs) ← takePart cs
  let cs ← takeChar '-' cs
  let (day, cs) ← takePart cs
  let date ← Date.ofParts? year month day
  return (date, cs)

/-- Takes a time of day off a text. -/
def takeTime (cs : List Char) : Option (ClockTime × List Char) := do
  let (hour, cs) ← takePart cs
  let cs ← takeChar ':' cs
  let (minute, cs) ← takePart cs
  let cs ← takeChar ':' cs
  let (second, cs) ← takePart cs
  let (nanosecond, cs) ← takeFraction cs
  let time ← ClockTime.ofParts? hour minute second nanosecond
  return (time, cs)

/-- A date and a time that fill the text, with what `separator` takes off between them. -/
def dateAndTime? (separator : List Char → Option (List Char)) (cs : List Char) :
    Option Timestamp := do
  let (date, cs) ← takeDate cs
  let cs ← separator cs
  match ← takeTime cs with
  | (time, []) => some ⟨date, time⟩
  | _ => none

/-- A number with zeros in front up to a width. -/
def padded (width n : Nat) : List Char :=
  (naturalText n).leftpad width '0'

/-- A year: four digits, or a sign and at least four. -/
def yearText (year : Int) : List Char :=
  if year < 0 then '-' :: padded 4 year.natAbs
  else if 9999 < year then '+' :: padded 4 year.natAbs
  else padded 4 year.natAbs

/-- A fraction of a second, given in nanoseconds. -/
def fractionText (nanosecond : Nat) : List Char :=
  if nanosecond = 0 then []
  else if nanosecond % 1000000 = 0 then '.' :: padded 3 (nanosecond / 1000000)
  else if nanosecond % 1000 = 0 then '.' :: padded 6 (nanosecond / 1000)
  else '.' :: padded 9 nanosecond

end Calendar

open Calendar

/-- Reads a date that fills the text. -/
def Date.parse? (cs : List Char) : Option Date :=
  match takeDate cs with
  | some (date, []) => some date
  | _ => none

/-- Writes a date. -/
def Date.text (d : Date) : List Char :=
  yearText d.year ++ '-' :: padded 2 d.month ++ '-' :: padded 2 d.day

/-- Reads a timestamp that fills the text. -/
def Timestamp.parse? (cs : List Char) : Option Timestamp :=
  dateAndTime? (fun cs => some (trimStart cs)) cs <|> dateAndTime? (takeChar 'T') cs <|>
    (Date.parse? cs).map Date.midnight

/-- Writes a time of day. -/
def ClockTime.text (t : ClockTime) : List Char :=
  padded 2 t.hour ++ ':' :: padded 2 t.minute ++ ':' :: padded 2 t.second ++
    fractionText t.nanosecond

/-- Writes a timestamp. -/
def Timestamp.text (t : Timestamp) : List Char :=
  t.date.text ++ ' ' :: t.time.text

end PagedQuery
