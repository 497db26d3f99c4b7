import PagedQuery.Database.Cell
import PagedQuery.Source

/-!
# Databases

Entities and their records in four tables that serve every schema: one row for each entity, for each
attribute that it declares, for each record, and for each attribute of a record that is not null.
Within an entity, attributes and records carry ordinals, which keep their order. Nulls are not kept,
so a record is read back without them. Records are read off a join of the last two tables, as a
record for each run of rows with one identifier.

* `Database.schema`: the schema of an entity, as the tables have it;
* `Database.scan`: the records of an entity, as the tables have them;
* `Database.provider`: a database as a place to find records in.

The tables may hold anything; whatever they hold, reading either gives a proper schema and records
that fit it or fails.
-/

namespace PagedQuery

/-- An entity, and what the identifier of its records is called. -/
structure EntityRow where
  entity : String
  identifier : String
deriving DecidableEq

/-- An attribute of an entity, with its place among the others and the number of its kind. -/
structure AttributeRow where
  entity : String
  name : String
  ordinal : Int
  kindNumber : Int
deriving DecidableEq

/-- A record of an entity, with its place among the others. -/
structure RecordRow where
  entity : String
  identity : Cell
  ordinal : Int
deriving DecidableEq

/-- The value of an attribute of a record. -/
structure ValueRow where
  entity : String
  identity : Cell
  name : String
  cell : Cell
deriving DecidableEq

/-- A row of the join of the records of an entity with their values. A record without values has one
    row there, with none in it. -/
structure JoinedRow where
  identity : Cell
  value? : Option ValueRow

/-- The tables. -/
structure Database where
  entities : List EntityRow
  attributes : List AttributeRow
  records : List RecordRow
  values : List ValueRow
deriving DecidableEq

namespace Database

/-- The database without entities. -/
def empty : Database :=
  ⟨[], [], [], []⟩

/-- The attribute that a row declares. The number of its kind is a byte. -/
def attributeOfRow (row : AttributeRow) : Except Error Attribute :=
  let number := String.ofList (Text.integerText row.kindNumber)
  if row.kindNumber < 0 ∨ 255 < row.kindNumber then
    .error (.persistence ("Integer " ++ number ++ " out of range at index 1"))
  else match Kind.ofNumber? row.kindNumber.toNat with
    | some kind => .ok ⟨row.name, kind⟩
    | none =>
      .error (.persistence ("attribute '" ++ row.name ++ "' has unknown data type " ++ number))

/-- The rows of the attributes of an entity, by their ordinals. -/
def attributeRows (db : Database) (entity : String) : List AttributeRow :=
  (db.attributes.filter (·.entity = entity)).mergeSort fun a b => a.ordinal ≤ b.ordinal

/-- The schema of an entity, if there is one. -/
def schema? (db : Database) (entity : String) : Except Error (Option Schema) :=
  match db.entities.find? (·.entity = entity) with
  | none => .ok none
  | some row => do
    let attributes ← (db.attributeRows entity).mapM attributeOfRow
    let schema ← Schema.declare entity row.identifier attributes
    return some schema

/-- The schema of an entity. -/
def schema (db : Database) (entity : String) : Except Error Schema := do
  match ← db.schema? entity with
  | some schema => .ok schema
  | none => .error (.unknownEntity entity)

/-- The rows of the records of an entity, by their ordinals. -/
def recordRows (db : Database) (entity : String) : List RecordRow :=
  (db.records.filter (·.entity = entity)).mergeSort fun a b => a.ordinal ≤ b.ordinal

/-- The rows of the values of a record, by the names of the attributes. -/
def valueRows (db : Database) (entity : String) (identity : Cell) : List ValueRow :=
  (db.values.filter fun row => row.entity = entity && row.identity.same identity).mergeSort
    fun a b => (compare a.name b.name).isLE

/-- The value in a row, of the kind that the schema declares. -/
def valueOfRow (schema : Schema) (row : ValueRow) : Except Error (String × Value) :=
  match schema.attribute? row.name with
  | none =>
    .error (.persistence ("stored value for undeclared attribute '" ++ row.name ++
      "' in entity '" ++ schema.entity ++ "'"))
  | some a => (Value.ofCell a.kind row.cell).map (row.name, ·)

/-- The rows that a record has in the join of the records with their values. -/
def joinedRowsOf (db : Database) (row : RecordRow) : List JoinedRow :=
  match db.valueRows row.entity row.identity with
  | [] => [⟨row.identity, none⟩]
  | values => values.map fun value => ⟨row.identity, some value⟩

/-- The join of the records of an entity with their values, the records by their ordinals. -/
def joinedRows (db : Database) (entity : String) : List JoinedRow :=
  (db.recordRows entity).flatMap db.joinedRowsOf

/-- The record with an identifier and the records before it, among those read so far, of which the
    latest comes first. It is the latest one, or else one that is only now begun. -/
def resume (id : RecordId) : List Record → Record × List Record
  | [] => (⟨id, .empty⟩, [])
  | latest :: before =>
    if latest.id = id then (latest, before) else (⟨id, .empty⟩, latest :: before)

/-- Reads a row of the join, after the records that were read so far. -/
def readJoined (schema : Schema) (records : List Record) (row : JoinedRow) :
    Except Error (List Record) := do
  let id ← RecordId.ofCell row.identity
  let (r, before) := resume id records
  match row.value? with
  | none => return r :: before
  | some value =>
    let (name, v) ← valueOfRow schema value
    return { r with attributes := r.attributes.insert name v } :: before

/-- The records of the entity that the schema describes. -/
def scan (db : Database) (schema : Schema) : Except Error (List Record) := do
  let records ← (db.joinedRows schema.entity).foldlM (readJoined schema) []
  return records.reverse

/-- An entity as a source of records. -/
def source (db : Database) (entity : String) : Except Error RecordSource := do
  let schema ← db.schema entity
  return ⟨schema, db.scan schema⟩

/-- The names of the entities, in ascending order. -/
def entityNames (db : Database) : List String :=
  (db.entities.map (·.entity)).mergeSort fun a b => (compare a b).isLE

/-- A database serves the entities that it holds. -/
def provider (db : Database) : Provider :=
  ⟨db.source, .ok db.entityNames⟩

end Database

end PagedQuery
