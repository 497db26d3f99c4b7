import PagedQuery.Decimal.Shortest
import PagedQuery.Record.Id

/-!
# Cells

What a place in a table can hold, and how values and identifiers are kept there. Booleans and
integers are kept as integers, all other values as text; a boolean is read back from any integer,
being false only for zero.

* `Value.toCell`, `Value.ofCell`: a value in a cell, and the value of a kind that a cell holds;
* `RecordId.toCell`, `RecordId.ofCell`: the same for identifiers;
* `Cell.same`: when two cells are equal to a table that looks for one.
-/

namespace PagedQuery

/-- The content of a cell. -/
inductive Cell
  | null
  | int (n : Int64)
  | real (x : Float)
  | text (s : String)
  | blob (bytes : List UInt8)
deriving DecidableEq

namespace Cell

/-- Whether a double is exactly an integer. -/
def isInteger (x : Float) (n : Int64) : Bool :=
  let (m, q, _) := Double.parts x
  m <<< q.toNat == n.toInt.natAbs <<< (-q).toNat &&
    (n == 0 || Double.isNegative x == decide (n < 0))

/-- Whether a table that looks for one cell finds the other: numbers are equal as numbers, and null
    is found by nothing. -/
def same : Cell → Cell → Bool
  | int m, int n => m == n
  | int n, real x => isInteger x n
  | real x, int n => isInteger x n
  | real x, real y => x == y
  | text s, text t => s == t
  | blob a, blob b => a == b
  | _, _ => false

end Cell

namespace Value

/-- A value in a cell. -/
def toCell : Value → Cell
  | null => .null
  | boolean b => .int (if b then 1 else 0)
  | integer n => .int n
  | v => .text v.toText

/-- What to say of a cell whose content is of no use for a kind. -/
def wrongCell (kind : Kind) : Error :=
  .persistence ("stored " ++ kind.name ++ " value is unreadable: Invalid type")

/-- The value of a kind that a cell holds. -/
def ofCell (kind : Kind) (cell : Cell) : Except Error Value :=
  match kind, cell with
  | _, .null => .ok null
  | .boolean, .int n => .ok (boolean (n != 0))
  | .integer, .int n => .ok (integer n)
  | .boolean, _ | .integer, _ => .error (wrongCell kind)
  | kind, .text s =>
    match parse? kind s with
    | some v => .ok v
    | none => .error (.persistence ("stored " ++ kind.name ++ " value '" ++ s ++ "' is unreadable"))
  | kind, _ => .error (wrongCell kind)

end Value

namespace RecordId

/-- An identifier in a cell. -/
def toCell : RecordId → Cell
  | integer n => .int n
  | text s => .text s

/-- The identifier that a cell holds. -/
def ofCell : Cell → Except Error RecordId
  | .int n => .ok (integer n)
  | .text s => .ok (text s)
  | _ => .error (.persistence "record identity must be an integer or text")

end RecordId

end PagedQuery
