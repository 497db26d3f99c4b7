import PagedQuery.Record.Schema

/-!
# Sorting

Records are sorted by one field, in either direction, and those with equal keys by their
identifiers, always ascending; so the order does not depend on where the records come from. A key
that is null or absent comes before all others.

* `Direction.parse`: a direction as typed in;
* `sortRecords`: the records in order; two that agree in key and identifier keep theirs.
-/

namespace PagedQuery

open Text

/-- Which end of an order comes first. -/
inductive Direction
  | ascending | descending
deriving DecidableEq

namespace Direction

/-- How the direction turns a comparison of keys. -/
def apply : Direction → Ordering → Ordering
  | ascending, order => order
  | descending, order => order.swap

/-- Reads a direction, in short or in full and in any case. -/
def parse (raw : String) : Except Error Direction :=
  let word := String.ofList (lowercaseAscii (trim raw.toList))
  if word = "asc" || word = "ascending" then .ok ascending
  else if word = "desc" || word = "descending" then .ok descending
  else .error (.invalidArgument ("'" ++ word ++ "' is not a sort direction"))

/-- The short name of a direction. -/
def name : Direction → String
  | ascending => "asc"
  | descending => "desc"

end Direction

/-- What to sort by. -/
structure SortSpec where
  name : String
  direction : Direction
deriving DecidableEq

/-- How two records compare: by the field in the given direction, then by the identifier. -/
def compareRecords (field : Field) (direction : Direction) (a b : Record) : Ordering :=
  (direction.apply (compare (a.field? field) (b.field? field))).then (compare a.id b.id)

/-- The records in the order of the field. -/
def sortRecords (field : Field) (direction : Direction) (records : List Record) : List Record :=
  records.mergeSort fun a b => (compareRecords field direction a b).isLE

end PagedQuery
