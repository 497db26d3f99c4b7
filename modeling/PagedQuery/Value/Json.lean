import PagedQuery.Json.Basic
import PagedQuery.Value.Text

/-!
# Values in JSON

In JSON, decimals, dates and timestamps are strings, which keeps their precision; the other values
have counterparts of their own.

* `Value.toJson`: a value in JSON;
* `Value.ofJson?`: the value of a given kind that a JSON value stands for. A decimal may be given as
  a number, too, and is then the decimal that the number is written as.
-/

namespace PagedQuery.Value

open Text

/-- A value in JSON. -/
def toJson : Value → Json
  | null => .null
  | boolean b => .bool b
  | integer n => .integer n.toInt
  | text s => .string s
  | v => .string v.toText

/-- The value of a kind that a JSON value stands for; null is of every kind. -/
def ofJson? (kind : Kind) : Json → Option Value
  | .null => some null
  | json =>
    match kind, json with
    | .boolean, .bool b => some (boolean b)
    | .integer, .integer n => (toInt64? n).map integer
    | .decimal, .integer n => (Decimal.parse? (integerText n)).map decimal
    | .decimal, .double x => (Decimal.parse? (Json.doubleText x)).map decimal
    | .decimal, .string s => (Decimal.parse? s.toList).map decimal
    | .text, .string s => some (text s)
    | .date, .string s => parse? .date s
    | .timestamp, .string s => parse? .timestamp s
    | _, _ => none

end PagedQuery.Value
