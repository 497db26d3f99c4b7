import PagedQuery.Decimal.Layout
import PagedQuery.Decimal.Shortest

/-!
# JSON values

A JSON value keeps integers apart from doubles, and the members of an object in the order in which
they are to be written.

* `Json`: the values;
* `Json.compact`: a value as text without white space.

A double is written with the shortest digits that read back as it, a tie going to the even one: with
a point where it lies between `0.00001` and `1e16`, and with an exponent outside.
-/

namespace PagedQuery

open Text

/-- A JSON value. -/
inductive Json
  | null
  | bool (b : Bool)
  | integer (n : Int)
  | double (x : Float)
  | string (s : String)
  | array (elements : List Json)
  | object (members : List (String × Json))

namespace Json

/-- The digits of a magnitude whose point stands at place `point`: in its place as long as at most
    sixteen digits stand in front of it or at most four zeros behind it, with `.0` where nothing
    would follow it; else behind the first digit, with an exponent and its sign. -/
def magnitudeText (digits : List Char) (point : Int) : List Char :=
  if digits.length ≤ point ∧ point ≤ 16 then Decimal.positional digits point ++ ['.', '0']
  else if -5 < point ∧ point ≤ 16 then Decimal.positional digits point
  else
    let sign := if point < 1 then '-' else '+'
    Decimal.leading digits ++ 'e' :: sign :: naturalText (point - 1).natAbs

/-- The text of a finite double. -/
def doubleText (x : Float) : List Char :=
  let (digits, point) := Double.shortest .even x
  let magnitude := magnitudeText digits point
  if Double.isNegative x then '-' :: magnitude else magnitude

/-- One of the four hexadecimal digits of a character below U+0020. -/
def hexDigit (n : Nat) : Char :=
  if n < 10 then Char.ofNat (0x30 + n) else Char.ofNat (0x57 + n)

/-- A character inside a string. Quotes, backslashes and control characters are escaped. -/
def escaped (c : Char) : List Char :=
  match c with
  | '"' => ['\\', '"']
  | '\\' => ['\\', '\\']
  | '\x08' => ['\\', 'b']
  | '\x0C' => ['\\', 'f']
  | '\n' => ['\\', 'n']
  | '\r' => ['\\', 'r']
  | '\t' => ['\\', 't']
  | c =>
    if c.toNat < 0x20 then
      ['\\', 'u', '0', '0', hexDigit (c.toNat / 16), hexDigit (c.toNat % 16)]
    else [c]

/-- A string between quotes. -/
def quoted (s : String) : List Char :=
  '"' :: s.toList.flatMap escaped ++ ['"']

mutual

/-- The characters of a value. -/
def chars : Json → List Char
  | null => ['n', 'u', 'l', 'l']
  | bool true => ['t', 'r', 'u', 'e']
  | bool false => ['f', 'a', 'l', 's', 'e']
  | integer n => integerText n
  | double x => doubleText x
  | string s => quoted s
  | array elements => '[' :: elementChars elements ++ [']']
  | object members => '\x7b' :: memberChars members ++ ['\x7d']

/-- The elements of an array, with commas between them. -/
def elementChars : List Json → List Char
  | [] => []
  | [v] => chars v
  | v :: vs => chars v ++ ',' :: elementChars vs

/-- The members of an object, with commas between them. -/
def memberChars : List (String × Json) → List Char
  | [] => []
  | [(name, v)] => quoted name ++ ':' :: chars v
  | (name, v) :: ms => quoted name ++ ':' :: chars v ++ ',' :: memberChars ms

end

/-- The text of a value, without white space. -/
def compact (v : Json) : String :=
  String.ofList (chars v)

end Json

end PagedQuery
