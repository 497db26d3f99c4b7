import PagedQuery.Record.Collection

/-!
# Collections in place

What a collection keeps from one call to the next: its records, and beside them the set in which
their identifiers are looked up. The two are only data here, and nothing in them says that they
belong together. A record is put in step by step: it is checked, its identifier is entered into the
set, and if it was not there yet the record goes to the end of the others. A call that fails answers
with an error, and what it leaves behind is there at the next one.

* `Storage.insert`: one record, with the answer and what is kept afterwards;
* `Storage.insertAll`: one record after the other, whatever becomes of each;
* `Collection.storage`: what a collection keeps.
-/

namespace PagedQuery

/-- Records, and the identifiers that are taken. -/
structure Storage where
  schema : Schema
  records : Array Record
  ids : Std.HashSet RecordId

namespace Storage

/-- Nothing but a schema. -/
def empty (schema : Schema) : Storage where
  schema := schema
  records := #[]
  ids := ∅

/-- Puts a record at the end. Its identifier is entered before it is known to be new. -/
def insert (s : Storage) (r : Record) : Except Error Unit × Storage :=
  match s.schema.validate r with
  | .error e => (.error e, s)
  | .ok () =>
    let (taken, ids) := s.ids.containsThenInsert r.id
    let s := { s with ids }
    if taken then (.error (.duplicateRecord s.schema.entity r.id.toText), s)
    else (.ok (), { s with records := s.records.push r })

/-- Puts in one record after the other, and goes on after one that is refused. There is an answer
    for each. -/
def insertAll (s : Storage) : List Record → List (Except Error Unit) × Storage
  | [] => ([], s)
  | r :: rest =>
    let (answer, next) := s.insert r
    let (answers, last) := next.insertAll rest
    (answer :: answers, last)

end Storage

/-- What a collection keeps. -/
def Collection.storage (c : Collection) : Storage where
  schema := c.schema
  records := c.records
  ids := c.ids

end PagedQuery
