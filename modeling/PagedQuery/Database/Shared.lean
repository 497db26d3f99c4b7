import PagedQuery.Database.Transaction

/-!
# A database that many use at once

Whoever reads or writes a shared database holds its lock, so what happens is a sequence of sections,
in each of which one call has the database to itself. Most calls are one section. Putting a record
in takes two, for the lock is released between reading the schema that the record has to fit and
writing the record. A source keeps the schema that it was opened with, and each scan of it is a
section of its own.

* `Call`, `Call.run`: what can be asked of a database, and what comes of it if nobody else is there;
* `Stage`, `Stage.enter?`: how far a call has got, and its next section;
* `Shared`, `Shared.step?`, `Shared.run?`: a database with all calls that are under way, and what
  becomes of it when things happen in some order.

Each call has a ticket, which no other call has. Somebody who makes several calls, one after the
other, has as many tickets.
-/

namespace PagedQuery

/-- What somebody asks of a database. -/
inductive Call
  | createEntity (schema : Schema)
  | persistRecord (entity : String) (r : Record)
  | persistCollection (c : Collection)
  /-- To open an entity as a source, which has its schema from then on. -/
  | openSource (entity : String)
  /-- To scan a source that has been opened with a schema. -/
  | scan (schema : Schema)

/-- What a call answers when it succeeds. -/
inductive Reply
  /-- An entity was registered, and was there before or was not. -/
  | registered (existed : Bool)
  /-- There is nothing to tell. -/
  | done
  /-- So many records were written. -/
  | written (count : Nat)
  /-- A source was opened, with this schema. -/
  | opened (schema : Schema)
  /-- These are the records of a source. -/
  | scanned (records : List Record)

/-- Carries a call out from its beginning to its end. -/
def Call.run (call : Call) (db : Database) : Except Error Reply × Database :=
  match call with
  | createEntity schema =>
    let (answer, db) := db.createEntity schema
    (answer.map .registered, db)
  | persistRecord entity r =>
    let (answer, db) := db.persistRecord entity r
    (answer.map fun _ => .done, db)
  | persistCollection c =>
    let (answer, db) := db.persistCollection c
    (answer.map .written, db)
  | openSource entity => ((db.schema entity).map .opened, db)
  | scan schema => ((db.scan schema).map .scanned, db)

/-- How far the call with a ticket has got. -/
inductive Stage
  /-- No call has the ticket. -/
  | absent
  /-- It has been made. -/
  | called (call : Call)
  /-- Its record has been found to fit the schema that was read, but has not been put in. -/
  | fitted (schema : Schema) (r : Record)
  /-- All of its sections are over. -/
  | answered (answer : Except Error Reply)
  /-- Who made it has the answer. -/
  | left (answer : Except Error Reply)

/-- The next section of a call, if there is one: how far the call has got then, and what has become
    of the database. -/
def Stage.enter? (db : Database) : Stage → Option (Stage × Database)
  | called (.persistRecord entity r) =>
    match db.schemaFitting entity r with
    | .ok schema => some (fitted schema r, db)
    | .error e => some (answered (.error e), db)
  | called call =>
    let (answer, db) := call.run db
    some (answered answer, db)
  | fitted schema r =>
    let (answer, db) := (Transaction.insertRecord schema r).commit db
    some (answered (answer.map fun _ => .done), db)
  | _ => none

/-- A database that is shared: how far each call has got, and the schemas of the sources that have
    been opened. -/
structure Shared where
  db : Database
  stage : Nat → Stage
  opened : List Schema

/-- Something that happens to a shared database. -/
inductive Event
  /-- Somebody makes a call. -/
  | call (ticket : Nat) (call : Call)
  /-- A call gets the lock for its next section. -/
  | enter (ticket : Nat)
  /-- Somebody gets the answer of a call. -/
  | leave (ticket : Nat)

namespace Shared

/-- A database before any call has been made. -/
def start (db : Database) : Shared :=
  ⟨db, fun _ => .absent, []⟩

/-- A shared database in which one call has got to a stage. -/
def put (s : Shared) (ticket : Nat) (stage : Stage) : Shared :=
  { s with stage := fun n => if n = ticket then stage else s.stage n }

/-- Whether a call can be made: a scan needs a source, which somebody has opened. -/
def isPossible (s : Shared) : Call → Bool
  | .scan schema => schema ∈ s.opened
  | _ => true

/-- The schemas of the sources that somebody has who gets an answer. -/
def openedBy : Except Error Reply → List Schema
  | .ok (.opened schema) => [schema]
  | _ => []

/-- What becomes of a shared database when something happens, if it can. -/
def step? (s : Shared) : Event → Option Shared
  | .call ticket call =>
    match s.stage ticket with
    | .absent => if s.isPossible call then some (s.put ticket (.called call)) else none
    | _ => none
  | .enter ticket => do
    let (stage, db) ← (s.stage ticket).enter? s.db
    return { s.put ticket stage with db }
  | .leave ticket =>
    match s.stage ticket with
    | .answered answer =>
      some { s.put ticket (.left answer) with opened := openedBy answer ++ s.opened }
    | _ => none

/-- What becomes of a shared database when several things happen, one after the other. -/
def run? (s : Shared) (history : List Event) : Option Shared :=
  history.foldlM step? s

end Shared

end PagedQuery
