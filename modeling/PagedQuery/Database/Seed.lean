import PagedQuery.Database.Transaction
import PagedQuery.Json.Reader

/-!
# Seed documents

A seed document is a JSON text that lists entities, each with its identifier, its attributes and
perhaps records, to be put into a database. An entity that is there already is left as it is.

The document is read as a whole before anything is written. Its entities and their attributes are
objects with known members, or arrays of these in order; members that are not known are passed over,
whatever they hold, and one that is known may not come twice. The entities are then written one by
one, each with all of its records or not at all, up to the first that fails.

* `SeedEntity.parseAll?`: the entities of a document;
* `SeedEntity.collection`: an entity as a collection, once all of it makes sense;
* `Database.loadSeed`: what comes of loading a document, and how many records are written.
-/

namespace PagedQuery

open Json (Document)

/-- An attribute in a seed document, its kind as written. -/
structure SeedAttribute where
  name : String
  kind : String

/-- An entity in a seed document. -/
structure SeedEntity where
  entity : String
  identifier : String
  attributes : List SeedAttribute
  records : List Json

namespace SeedDocument

/-- The member of an object with its name as it reads. -/
def named? (member : List Char × Document) : Option (String × Document) :=
  (Json.unescape? member.1).map fun name => (String.ofList name, member.2)

/-- The member of a name, if there is one. There may not be two. -/
def part? (named : List (String × Document)) (name : String) : Option (Option Document) :=
  match named.filter (·.1 = name) with
  | [] => some none
  | [(_, v)] => some (some v)
  | _ => none

/-- The parts of a document that has known members, in the order of their names in the list: an
    object that has some of them, each at most once, or an array of the first few. -/
def parts? (known : List String) : Document → Option (List (Option Document))
  | .array elements =>
    if elements.length ≤ known.length then
      some (elements.map some ++ List.replicate (known.length - elements.length) none)
    else none
  | .object members => do
    let named ← members.mapM named?
    known.mapM (part? named)
  | _ => none

/-- A text in a document. -/
def text? : Document → Option String
  | .string s => (Json.unescape? s).map String.ofList
  | _ => none

/-- The elements of an array in a document. -/
def elements? : Document → Option (List Document)
  | .array elements => some elements
  | _ => none

/-- How deep the value of a record may nest, inside the three levels of the document around it. -/
def recordDepth : Nat :=
  Document.depthLimit - 3

/-- An attribute in a document. -/
def attribute? (d : Document) : Option SeedAttribute := do
  match ← parts? ["name", "kind"] d with
  | [some name, some kind] => return ⟨← text? name, ← text? kind⟩
  | _ => none

/-- An entity in a document. Its records may be missing. -/
def entity? (d : Document) : Option SeedEntity := do
  match ← parts? ["entity", "identifier", "attributes", "records"] d with
  | [some entity, some identifier, some attributes, records] =>
    let records ← (records.elim (some []) elements?)
    return {
      entity := ← text? entity
      identifier := ← text? identifier
      attributes := ← (← elements? attributes).mapM attribute?
      records := ← records.mapM (·.valueWithin? recordDepth) }
  | _ => none

end SeedDocument

namespace SeedEntity

/-- The entities of a seed document, if the text is one. -/
def parseAll? (s : String) : Option (List SeedEntity) := do
  let document ← Document.parse? s.toList
  let elements ← SeedDocument.elements? document
  elements.mapM SeedDocument.entity?

/-- An attribute as declared. -/
def declared (a : SeedAttribute) : Except Error Attribute :=
  match Kind.ofName? a.kind with
  | some kind => .ok ⟨a.name, kind⟩
  | none => .error (Kind.unknownName a.kind)

/-- The collection of an entity, once its kinds, its schema and its records make sense. -/
def collection (seed : SeedEntity) : Except Error Collection := do
  let attributes ← seed.attributes.mapM declared
  let schema ← Schema.declare seed.entity seed.identifier attributes
  let records ← seed.records.mapM schema.recordOfJson
  Collection.ofRecords schema records

/-- What to say of a text that is not a seed document. -/
def malformed : Error :=
  .source "malformed seed document"

/-- What to say of a file that cannot be read. -/
def unreadable : Error :=
  .source "cannot read the seed document"

end SeedEntity

namespace Database

/-- Loads entities one after the other, up to the first that fails. -/
def loadSeeds : List SeedEntity → Database → Except Error Nat × Database
  | [], db => (.ok 0, db)
  | seed :: seeds, db =>
    match seed.collection with
    | .error e => (.error e, db)
    | .ok c =>
      match (Transaction.storeCollection c true).commit db with
      | (.error e, db) => (.error e, db)
      | (.ok written, db) =>
        let (rest, db) := loadSeeds seeds db
        (rest.map (written.getD 0 + ·), db)

/-- Loads a seed document. -/
def loadSeed (document : String) (db : Database) : Except Error Nat × Database :=
  match SeedEntity.parseAll? document with
  | none => (.error SeedEntity.malformed, db)
  | some seeds => loadSeeds seeds db

/-- Loads the seed document in a file, given what the file holds if it is there. -/
def loadFile (contents : Option String) (db : Database) : Except Error Nat × Database :=
  match contents with
  | none => (.error SeedEntity.unreadable, db)
  | some document => loadSeed document db

end Database

end PagedQuery
