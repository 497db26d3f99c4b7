import PagedQuery.Calendar.Text
import PagedQuery.Decimal.Text
import PagedQuery.Error
import PagedQuery.Value.Basic

/-!
# Values as text

* `Value.parse`: reading a text as a value of a given kind. White space around it is dropped, except
  where the kind is text: then every text is a value, as it stands.
* `Value.toText`: writing a value, without its kind.
-/

namespace PagedQuery.Value

open Text

/-- Reads a text as a boolean: `true` and `false` in any case, `1` and `0`. -/
def parseBoolean? (cs : List Char) : Option Bool :=
  let word := String.ofList (lowercaseAscii cs)
  if word = "true" || word = "1" then some true
  else if word = "false" || word = "0" then some false
  else none

/-- The value of a kind that a text stands for. -/
def parse? (kind : Kind) (raw : String) : Option Value :=
  let trimmed := trim raw.toList
  match kind with
  | .boolean => (parseBoolean? trimmed).map boolean
  | .integer => (int64? trimmed).map integer
  | .decimal => (Decimal.parse? trimmed).map decimal
  | .text => some (text raw)
  | .date => (Date.parse? trimmed).map date
  | .timestamp => (Timestamp.parse? trimmed).map timestamp

/-- Reads a text as a value of a kind. -/
def parse (kind : Kind) (raw : String) : Except Error Value :=
  match parse? kind raw with
  | some v => .ok v
  | none => .error (.invalidArgument ("'" ++ raw ++ "' is not a valid " ++ kind.name))

/-- Writes a value. -/
def toText : Value → String
  | null => "null"
  | boolean b => if b then "true" else "false"
  | integer n => String.ofList (integerText n.toInt)
  | decimal d => String.ofList d.text
  | text s => s
  | date d => String.ofList d.text
  | timestamp t => String.ofList t.text

end PagedQuery.Value
