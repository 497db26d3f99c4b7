import PagedQuery.Database.Basic

/-!
# Reading what the tables give

A `Database` has texts where names belong and numbers where the numbers of kinds do. Tables that are
damaged need not: whatever its name says, a column can hold anything, rows may be missing, stand in
any order or join what does not belong together, and fetching them may fail. So this is reading once
more, but from the rows that the statements give, column by column and with nothing presupposed.

* `Column`: what a row can have in a column, and `Column.text`, `Column.int`, `Column.identity`,
  `Column.value` what is made of it;
* `Statements`: the answers of the three statements that reading asks;
* `Statements.schema`, `Statements.scan`, `Statements.source`: reading these answers;
* `Database.statements`: the answers that a database gives.
-/

namespace PagedQuery

/-- What a row has in a column. -/
inductive Column
  | cell (c : Cell)
  /-- A text whose bytes are no characters, and what the store says of it. -/
  | garbled (fault : String)

namespace Column

/-- What messages call the content of a column. -/
def className : Column → String
  | cell .null => "Null"
  | cell (.int _) => "Integer"
  | cell (.real _) => "Real"
  | cell (.text _) | garbled _ => "Text"
  | cell (.blob _) => "Blob"

/-- What to say of a column, the one with a place and a name, that holds something else than it
    should. -/
def wrongClass (c : Column) (place name : String) : Error :=
  .persistence ("Invalid column type " ++ c.className ++ " at index: " ++ place ++
    ", name: " ++ name)

/-- The text in a column. -/
def text (c : Column) (place name : String) : Except Error String :=
  match c with
  | cell (.text s) => .ok s
  | garbled fault => .error (.persistence fault)
  | cell _ => .error (c.wrongClass place name)

/-- The text in a column that may be empty. -/
def text? (c : Column) (place name : String) : Except Error (Option String) :=
  match c with
  | cell .null => .ok none
  | _ => (c.text place name).map some

/-- The integer in a column. -/
def int (c : Column) (place name : String) : Except Error Int64 :=
  match c with
  | cell (.int n) => .ok n
  | _ => .error (c.wrongClass place name)

/-- The identifier in a column. -/
def identity : Column → Except Error RecordId
  | cell c => RecordId.ofCell c
  | garbled fault => .error (.persistence fault)

/-- The value of a kind in a column. -/
def value (kind : Kind) : Column → Except Error Value
  | cell c => Value.ofCell kind c
  | garbled fault =>
    match kind with
    | .boolean | .integer => .error (Value.wrongCell kind)
    | _ => .error (.persistence ("stored " ++ kind.name ++ " value is unreadable: " ++ fault))

end Column

/-- What the statement for the attributes of an entity has in a row. -/
structure AttributeColumns where
  name : Column
  kindNumber : Column

/-- What the statement for the records of an entity has in a row. -/
structure RecordColumns where
  identity : Column
  name : Column
  value : Column

/-- The rows that the statements give for an entity, each of which may fail to be fetched. -/
structure Statements where
  identifiers : String → List (Except Error Column)
  attributes : String → List (Except Error AttributeColumns)
  records : String → List (Except Error RecordColumns)

namespace Statements

/-- The attribute that a row declares. Neither its entity nor its place is asked for. -/
def attributeOf (entity : String) (columns : AttributeColumns) : Except Error Attribute := do
  let name ← columns.name.text "0" "Attribute"
  let number ← columns.kindNumber.int "1" "DataType_Identity"
  Database.attributeOfRow { entity, name, ordinal := 0, kindNumber := number.toInt }

/-- The schema of an entity, if there is one. Of several identifiers the first one counts. -/
def schema? (t : Statements) (entity : String) : Except Error (Option Schema) :=
  match t.identifiers entity with
  | [] => .ok none
  | row :: _ => do
    let column ← row
    let identifier ← column.text "0" "Identifier"
    let attributes ← (t.attributes entity).mapM fun row => row >>= attributeOf entity
    let schema ← Schema.declare entity identifier attributes
    return some schema

/-- The schema of an entity. -/
def schema (t : Statements) (entity : String) : Except Error Schema := do
  match ← t.schema? entity with
  | some schema => .ok schema
  | none => .error (.unknownEntity entity)

/-- The value of the attribute with a name that a column holds. -/
def valueOf (schema : Schema) (name : String) (column : Column) : Except Error Value :=
  match schema.attribute? name with
  | none =>
    .error (.persistence ("stored value for undeclared attribute '" ++ name ++
      "' in entity '" ++ schema.entity ++ "'"))
  | some a => column.value a.kind

/-- Reads a row, after the records that were read so far. -/
def readRow (schema : Schema) (records : List Record) (columns : RecordColumns) :
    Except Error (List Record) := do
  let id ← columns.identity.identity
  let (r, before) := Database.resume id records
  match ← columns.name.text? "1" "Attribute" with
  | none => return r :: before
  | some name =>
    let v ← valueOf schema name columns.value
    return { r with attributes := r.attributes.insert name v } :: before

/-- The records of the entity that the schema describes. -/
def scan (t : Statements) (schema : Schema) : Except Error (List Record) := do
  let read (records : List Record) (row : Except Error RecordColumns) :=
    row >>= readRow schema records
  let records ← (t.records schema.entity).foldlM read []
  return records.reverse

/-- An entity as a source of records. -/
def source (t : Statements) (entity : String) : Except Error RecordSource := do
  let schema ← t.schema entity
  return ⟨schema, t.scan schema⟩

end Statements

namespace Database

/-- The columns of an attribute. -/
def attributeColumns (row : AttributeRow) : AttributeColumns :=
  ⟨.cell (.text row.name), .cell (.int (Int64.ofInt row.kindNumber))⟩

/-- The columns of a row of the join. -/
def recordColumns (row : JoinedRow) : RecordColumns where
  identity := .cell row.identity
  name := .cell (row.value?.elim .null (.text ·.name))
  value := .cell (row.value?.elim .null (·.cell))

/-- What a database answers. -/
def statements (db : Database) : Statements where
  identifiers entity :=
    (db.entities.filter (·.entity = entity)).map fun row => .ok (.cell (.text row.identifier))
  attributes entity := (db.attributeRows entity).map fun row => .ok (attributeColumns row)
  records entity := (db.joinedRows entity).map fun row => .ok (recordColumns row)

end Database

end PagedQuery
