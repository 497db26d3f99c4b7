import PagedQuery.Decimal.Layout
import PagedQuery.Decimal.Nearest
import PagedQuery.Decimal.Shortest
import PagedQuery.Text.Lowercase

/-!
# Values of settings

A setting is given as a value of some type, by a file or by the environment, and taken as a text or
as a size, whatever type it was given as, where that makes sense.

* `SettingValue.ofEnvironment`: the value of a text in the environment, which is a boolean, an
  integer or a double if it reads as one;
* `SettingValue.text?`, `SettingValue.size?`: the text and the size that a value can be taken as.
-/

namespace PagedQuery

open Text

/-- A value that a setting is given. -/
inductive SettingValue
  | nothing
  | boolean (b : Bool)
  | integer (n : Int)
  | double (x : Float)
  | string (s : String)
  | compound

namespace SettingValue

/-- The value of a text in the environment. -/
def ofEnvironment (s : String) : SettingValue :=
  let word := String.ofList (lowercase s.toList)
  if word = "true" then boolean true
  else if word = "false" then boolean false
  else match int64? s.toList, Double.parse? s.toList with
    | some n, _ => integer n.toInt
    | none, some x => double x
    | none, none => string s

/-- The text of a double: its shortest digits, a tie going up, without an exponent. -/
def doubleText (x : Float) : String :=
  if x.isNaN then "NaN"
  else
    let magnitude :=
      if x.isInf then ['i', 'n', 'f']
      else
        let (digits, point) := Double.shortest .up x
        Decimal.positional digits point
    String.ofList (if Double.isNegative x then '-' :: magnitude else magnitude)

/-- The text that a value can be taken as. -/
def text? : SettingValue → Option String
  | boolean b => some (if b then "true" else "false")
  | integer n => some (String.ofList (integerText n))
  | double x => some (doubleText x)
  | string s => some s
  | nothing | compound => none

/-- The number of a text: a word for yes or no, or digits after an optional plus sign. -/
def numberOfText? (s : String) : Option Nat :=
  let word := String.ofList (lowercase s.toList)
  if word = "true" || word = "on" || word = "yes" then some 1
  else if word = "false" || word = "off" || word = "no" then some 0
  else match s.toList with
    | '+' :: cs => natural? cs
    | cs => natural? cs

/-- The number that a value can be taken as. A double is rounded, a half away from zero, and counts
    as zero if it is negative or no number. -/
def number? : SettingValue → Option Nat
  | boolean b => some (if b then 1 else 0)
  | integer n => if 0 ≤ n then some n.toNat else none
  | double x => some x.round.toUInt64.toNat
  | string s => numberOfText? s
  | nothing | compound => none

/-- The size that a value can be taken as. -/
def size? (v : SettingValue) : Option UInt32 :=
  v.number?.bind fun n => if n < UInt32.size then some (UInt32.ofNat n) else none

end SettingValue

end PagedQuery
