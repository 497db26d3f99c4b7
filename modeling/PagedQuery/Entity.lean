import PagedQuery.Record.Schema

/-!
# Typed entities

A type whose values are made from the records of one entity, as `Entity` says, can be used in the
place of the records.

* `Record.integerId`, `Record.required`, `Record.optional`: the parts of a record, each of a type of
  its own. Null and absent are the same to them, and attributes that nobody asks for do no harm;
* `Value.asText` and its like: the content of a value of a given kind. An integer serves as a
  decimal, too.
-/

namespace PagedQuery

/-- A type of values that are made from the records of an entity. -/
class Entity (α : Type) where
  /-- What the records look like. -/
  schema : Schema
  /-- The value that a record stands for. -/
  ofRecord : Record → Except Error α

namespace Value

/-- What to say of a value that is not of the kind that is expected under a name. -/
def mismatch (name : String) (expected : Kind) (found : Value) : Error :=
  .kindMismatch name expected found.kindName

/-- The content of a text. -/
def asText (name : String) : Value → Except Error String
  | text s => .ok s
  | v => .error (mismatch name .text v)

/-- The content of an integer. -/
def asInteger (name : String) : Value → Except Error Int64
  | integer n => .ok n
  | v => .error (mismatch name .integer v)

/-- The content of a decimal or an integer, as a decimal. -/
def asDecimal (name : String) : Value → Except Error Decimal
  | decimal d => .ok d
  | integer n => .ok (.ofInt n.toInt)
  | v => .error (mismatch name .decimal v)

/-- The content of a date. -/
def asDate (name : String) : Value → Except Error Date
  | date d => .ok d
  | v => .error (mismatch name .date v)

/-- The content of a timestamp. -/
def asTimestamp (name : String) : Value → Except Error Timestamp
  | timestamp t => .ok t
  | v => .error (mismatch name .timestamp v)

end Value

namespace Record

variable {α : Type}

/-- The identifier of a record whose identifier is an integer. -/
def integerId (r : Record) : Except Error Int64 :=
  match r.id with
  | .integer n => .ok n
  | .text s => .error (.source ("expected an integer identifier, found '" ++ s ++ "'"))

/-- The content of an attribute that a record has to have. -/
def required (r : Record) (name : String) (content : String → Value → Except Error α) :
    Except Error α :=
  match r.value? name with
  | some v => content name v
  | none => .error (.source ("record " ++ r.id.toText ++ " has no value for '" ++ name ++ "'"))

/-- The content of an attribute that a record may have. -/
def optional (r : Record) (name : String) (content : String → Value → Except Error α) :
    Except Error (Option α) :=
  match r.value? name with
  | some v => (content name v).map some
  | none => .ok none

end Record

end PagedQuery
