import PagedQuery.Database.Transaction

/-!
# Editing the tables

Changes to single rows that none of the usual checks precede, such as a tool makes that works on the
tables themselves. Each results in the number of rows that it changed. The constraints of the tables
hold even here: no identity is null, and no two records of an entity have the same.

* `Transaction.setValue`: the value of an attribute of a record;
* `Transaction.changeIdentity`, `Transaction.changeKind`, `Transaction.changeIdentifier`: what the
  tables have about a record, an attribute and an entity.
-/

namespace PagedQuery.Transaction

/-- What to say of a table that would get a null for an identity. -/
def nullIdentity (table : String) : Error :=
  .persistence ("NOT NULL constraint failed: " ++ table ++ ".Record_Identity")

/-- Keeps a value for an attribute of a record, in the place of the one that was kept. -/
def setValue (entity : String) (identity : Cell) (name : String) (cell : Cell) :
    Transaction Nat := do
  if identity = .null then throw (nullIdentity "AttributeValue")
  modify fun db =>
    let others := db.values.filter fun row =>
      !(row.entity = entity && row.identity.same identity && row.name = name)
    { db with values := others ++ [⟨entity, identity, name, cell⟩] }
  return 1

/-- Changes the rows of a table that satisfy a condition. -/
def changeRows {ρ : Type} (rows : List ρ) (p : ρ → Bool) (change : ρ → ρ) : Nat × List ρ :=
  (rows.countP p, rows.map fun row => if p row then change row else row)

/-- Changes the identity in the row of a record; the rows of its values keep the one they have. -/
def changeIdentity (entity : String) (identity stored : Cell) : Transaction Nat := do
  let db ← get
  let isRecord (row : RecordRow) := decide (row.entity = entity) && row.identity.same identity
  let (count, records) := changeRows db.records isRecord ({ · with identity := stored })
  if 0 < count then
    if stored = .null then throw (nullIdentity "Record")
    let isTaken := db.records.any fun row =>
      row.entity = entity && row.identity.same stored && !isRecord row
    if isTaken then
      throw (.persistence "UNIQUE constraint failed: Record.Entity, Record.Record_Identity")
  set { db with records }
  return count

/-- Changes the number of the kind of an attribute. -/
def changeKind (entity name : String) (kindNumber : Int) : Transaction Nat := do
  let db ← get
  let (count, attributes) := changeRows db.attributes
    (fun row => row.entity = entity && row.name = name) ({ · with kindNumber })
  set { db with attributes }
  return count

/-- Changes what the identifier of an entity is called. -/
def changeIdentifier (entity identifier : String) : Transaction Nat := do
  let db ← get
  let (count, entities) := changeRows db.entities (·.entity = entity) ({ · with identifier })
  set { db with entities }
  return count

end PagedQuery.Transaction
