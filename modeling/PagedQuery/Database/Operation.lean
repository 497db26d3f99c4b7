import PagedQuery.Database.Seed

/-!
# Operations on a database

Everything that changes a database, as data, so that runs of operations can be spoken of. Opening a
database again finds the tables as they were left.

* `Operation.run`: what an operation answers, and what it leaves behind;
* `Database.after`: the database after a run, whatever its operations answered.
-/

namespace PagedQuery

/-- An operation that may change a database. -/
inductive Operation
  | createEntity (schema : Schema)
  | persistRecord (entity : String) (r : Record)
  | persistCollection (c : Collection)
  | loadSeed (document : String)
  | reopen

/-- What an operation answers when it succeeds. -/
inductive Outcome
  /-- An entity was registered, and was there before or was not. -/
  | registered (existed : Bool)
  /-- So many records were written. -/
  | written (count : Nat)
  /-- There is nothing to tell. -/
  | done
deriving DecidableEq

/-- Carries an operation out. -/
def Operation.run (operation : Operation) (db : Database) : Except Error Outcome × Database :=
  match operation with
  | createEntity schema =>
    let (answer, db) := db.createEntity schema
    (answer.map .registered, db)
  | persistRecord entity r =>
    let (answer, db) := db.persistRecord entity r
    (answer.map fun _ => .done, db)
  | persistCollection c =>
    let (answer, db) := db.persistCollection c
    (answer.map .written, db)
  | loadSeed document =>
    let (answer, db) := db.loadSeed document
    (answer.map .written, db)
  | reopen => (.ok .done, db)

/-- The database after a run of operations. -/
def Database.after (db : Database) (operations : List Operation) : Database :=
  operations.foldl (fun db operation => (operation.run db).2) db

end PagedQuery
