import PagedQuery.Decimal.Nearest
import PagedQuery.Json.Basic
import PagedQuery.Json.Document
import PagedQuery.NameMap

/-!
# Reading JSON

What a JSON document means as a value. An integer that fits in 64 bits, signed or unsigned, is kept
exactly; every other number is a double, `-0` among them. In an object the members come in the
order of their names, and of several with one name the last counts. A document has no value if it
nests arrays and objects more than 127 deep, holds half of a surrogate pair, or a number beyond the
doubles.

* `Document.value?`: the value of a document;
* `Json.parse?`: the value of a text.
-/

namespace PagedQuery.Json

open Text

/-- Appends digits to a number as long as it stays below 2⁶⁴, and says how many did not go in. -/
def appendDigits (n : Nat) : List Char → Nat × Nat
  | [] => (n, 0)
  | d :: ds =>
    let next := n * 10 + (d.toNat - '0'.toNat)
    if next < UInt64.size then appendDigits next ds else (n, ds.length + 1)

/-- A power of ten as a double, up to `1e308`. -/
def tenTo (n : Nat) : Float :=
  Double.nearest 1 n

/-- The double for `significand * 10 ^ exponent`, rounded once where the significand becomes a
    double and once where it is multiplied or divided by a power of ten; below `1e-308` that power
    is split in two. There is none beyond the largest double. -/
def scaled? (significand : Nat) (exponent : Int) : Option Float :=
  let x := significand.toUInt64.toFloat
  if 308 < exponent then if significand = 0 then some 0 else none
  else if 0 ≤ exponent then
    let y := x * tenTo exponent.toNat
    if y.isInf then none else some y
  else if -308 ≤ exponent then some (x / tenTo (-exponent).toNat)
  else if -616 ≤ exponent then some (x / tenTo 308 / tenTo (-exponent - 308).toNat)
  else some 0

/-- The value of a number. Of the digits only those count that fit in 64 bits. -/
def Literal.value? (l : Literal) : Option Json :=
  let (whole, dropped) := appendDigits 0 l.whole
  if l.fraction.isEmpty && l.exponent.isNone && dropped == 0 &&
      (!l.negative || (0 < whole && Int64.minValue.toInt ≤ -(whole : Int))) then
    some (.integer (if l.negative then -(whole : Int) else whole))
  else do
    let (significand, unread) := appendDigits whole l.fraction
    let exponent := dropped - (l.fraction.length - unread : Int) + l.exponent.getD 0
    let x ← scaled? significand exponent
    return .double (if l.negative then -x else x)

/-- The character that a one-letter escape stands for. -/
def simpleEscape : Char → Char
  | 'b' => '\x08'
  | 'f' => '\x0C'
  | 'n' => '\n'
  | 'r' => '\r'
  | 't' => '\t'
  | c => c

/-- The characters of a string as written. The escapes of the two halves of a surrogate pair have
    to follow one another. -/
def unescape? : List Char → Option (List Char)
  | [] => some []
  | '\\' :: 'u' :: a :: b :: c :: d :: rest =>
    let unit := hexNumber [a, b, c, d]
    if unit < 0xD800 || 0xDFFF < unit then (unescape? rest).map (Char.ofNat unit :: ·)
    else match rest with
      | '\\' :: 'u' :: e :: f :: g :: h :: rest =>
        let second := hexNumber [e, f, g, h]
        if unit < 0xDC00 && 0xDC00 ≤ second && second ≤ 0xDFFF then
          let code := 0x10000 + (unit - 0xD800) * 0x400 + (second - 0xDC00)
          (unescape? rest).map (Char.ofNat code :: ·)
        else none
      | _ => none
  | '\\' :: c :: rest => (unescape? rest).map (simpleEscape c :: ·)
  | c :: rest => (unescape? rest).map (c :: ·)

namespace Document

mutual

/-- The value of a document that may nest at most `depth` deep. -/
def valueWithin? (depth : Nat) : Document → Option Json
  | .null => some .null
  | .bool b => some (.bool b)
  | .number literal => literal.value?
  | .string text => (unescape? text).map fun cs => .string (String.ofList cs)
  | .array elements =>
    match depth with
    | 0 => none
    | depth + 1 => (elementsWithin? depth elements).map .array
  | .object members =>
    match depth with
    | 0 => none
    | depth + 1 => (membersWithin? depth members).map fun ms => .object (NameMap.ofList ms).toList

/-- The values of the elements of an array. -/
def elementsWithin? (depth : Nat) : List Document → Option (List Json)
  | [] => some []
  | v :: vs => do
    let value ← valueWithin? depth v
    let values ← elementsWithin? depth vs
    return value :: values

/-- The names and values of the members of an object. -/
def membersWithin? (depth : Nat) : List (List Char × Document) → Option (List (String × Json))
  | [] => some []
  | (name, v) :: ms => do
    let name ← unescape? name
    let value ← valueWithin? depth v
    let members ← membersWithin? depth ms
    return (String.ofList name, value) :: members

end

/-- How deep a document may nest. -/
def depthLimit : Nat := 127

/-- The value of a document. -/
def value? (d : Document) : Option Json :=
  d.valueWithin? depthLimit

end Document

/-- The value of a text. -/
def parse? (s : String) : Option Json :=
  (Document.parse? s.toList).bind Document.value?

end PagedQuery.Json
