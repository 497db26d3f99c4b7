import PagedQuery.Database.Basic

/-!
# Writing to a database

Writes are made in transactions: either all of a transaction's writes come to pass, or one fails and
none does.

* `Transaction`, `Transaction.commit`: a sequence of writes, and what comes of it;
* `Transaction.storeEntity`, `Transaction.insertRecord`, `Transaction.storeCollection`: the writes;
* `Database.createEntity`, `Database.persistRecord`, `Database.persistCollection`: one transaction
  each, and for a record the reading of its schema beforehand.
-/

namespace PagedQuery

/-- A sequence of writes, with a result; it changes the tables or fails. -/
abbrev Transaction (α : Type) := StateT Database (Except Error) α

namespace Transaction

/-- What comes of a transaction: its result and its writes, or its failure and the tables as they
    were. -/
def commit {α : Type} (t : Transaction α) (db : Database) : Except Error α × Database :=
  match t.run db with
  | .ok (a, written) => (.ok a, written)
  | .error e => (.error e, db)

/-- The row of an attribute that is declared at a place among those of an entity. -/
def attributeRow (entity : String) (place : Nat) (a : Attribute) : AttributeRow :=
  { entity, name := a.name, ordinal := place, kindNumber := a.kind.number }

/-- Registers an entity, and says whether it was there with the same schema. -/
def storeEntity (schema : Schema) : Transaction Bool := do
  match ← (← get).schema? schema.entity with
  | some existing =>
    if existing = schema then return true
    throw (.schema ("entity '" ++ schema.entity ++ "' is already stored with a different schema"))
  | none =>
    modify fun db =>
      { db with
        entities := db.entities ++ [{ entity := schema.entity, identifier := schema.identifier }]
        attributes := db.attributes ++ schema.attributes.mapIdx (attributeRow schema.entity) }
    return false

/-- Keeps the value of an attribute, unless one is kept for it. -/
def insertValue (row : ValueRow) : Transaction Unit := do
  let taken := (← get).values.any fun other =>
    other.entity = row.entity && other.identity.same row.identity && other.name = row.name
  if taken then
    throw (.persistence ("UNIQUE constraint failed: AttributeValue.Entity, " ++
      "AttributeValue.Record_Identity, AttributeValue.Attribute"))
  modify fun db => { db with values := db.values ++ [row] }

/-- The greatest ordinal among the records of an entity, or zero. -/
def lastOrdinal (db : Database) (entity : String) : Int :=
  ((db.records.filter (·.entity = entity)).map (·.ordinal)).max?.getD 0

/-- Puts a record at the end of an entity, unless its identifier is taken. -/
def insertRecord (schema : Schema) (r : Record) : Transaction Unit := do
  let db ← get
  let identity := r.id.toCell
  if db.records.any fun row => row.entity = schema.entity && row.identity.same identity then
    throw (.duplicateRecord schema.entity r.id.toText)
  let row : RecordRow :=
    { entity := schema.entity, identity, ordinal := lastOrdinal db schema.entity + 1 }
  set { db with records := db.records ++ [row] }
  (r.attributes.toList.filter (!·.2.isNull)).forM fun (name, value) =>
    insertValue ⟨schema.entity, identity, name, value.toCell⟩

/-- Registers the entity of a collection and puts its records at the end; if existing entities are
    to be skipped and this is one, nothing is done. The result is the number of records put in. -/
def storeCollection (c : Collection) (skipExisting : Bool) : Transaction (Option Nat) := do
  let existed ← storeEntity c.schema
  if existed && skipExisting then return none
  c.records.toList.forM (insertRecord c.schema)
  return some c.size

end Transaction

namespace Database

/-- Registers an entity, and says whether it was there with the same schema. -/
def createEntity (schema : Schema) (db : Database) : Except Error Bool × Database :=
  (Transaction.storeEntity schema).commit db

/-- The schema that a record of an entity has to fit, once the record has been found to fit it. -/
def schemaFitting (entity : String) (r : Record) (db : Database) : Except Error Schema := do
  let schema ← db.schema entity
  schema.validate r
  return schema

/-- Puts a record at the end of an entity. -/
def persistRecord (entity : String) (r : Record) (db : Database) : Except Error Unit × Database :=
  match db.schemaFitting entity r with
  | .ok schema => (Transaction.insertRecord schema r).commit db
  | .error e => (.error e, db)

/-- Registers the entity of a collection, if it is not there, and puts its records at the end. -/
def persistCollection (c : Collection) (db : Database) : Except Error Nat × Database :=
  ((·.getD 0) <$> Transaction.storeCollection c false).commit db

end Database

end PagedQuery
