import PagedQuery.Filter.Criteria
import PagedQuery.Page
import PagedQuery.Record.Collection
import PagedQuery.Sort

/-!
# Querying a source of records

A source offers the records of one entity, in an order of its own, together with their schema; the
reading can fail. A query asks a source for one page of those of its records that pass a filter, in
the order of a sort or else of the source.

* `RecordSource.query`: the page, with the number of all records that pass;
* `RecordSource.count`: that number alone;
* `RecordSource.result`: the whole list that `query` takes a page of.

What is asked for is checked before the source is read: the page first, then the filter, then the
sort. Whatever the answer, the source is read at most once.
-/

namespace PagedQuery

/-- The records of one entity, and what reading them comes to. -/
structure RecordSource where
  schema : Schema
  scan : Except Error (List Record)

/-- A collection offers its records in their order, and never fails to. -/
def Collection.source (c : Collection) : RecordSource :=
  ⟨c.schema, .ok c.records.toList⟩

/-- Criteria compiled against a schema; without criteria there are no clauses. -/
def compileFilter (schema : Schema) : Option Criteria → Except Error CompiledFilter
  | none => .ok []
  | some criteria => criteria.compile schema

/-- A sort resolved against a schema. -/
def SortSpec.resolve (schema : Schema) (sort : SortSpec) : Except Error (Field × Direction) := do
  let field ← schema.resolve sort.name
  return (field, sort.direction)

/-- A sort, if there is one, resolved against a schema. -/
def resolveSort (schema : Schema) : Option SortSpec → Except Error (Option (Field × Direction))
  | none => .ok none
  | some sort => (sort.resolve schema).map some

/-- Records in the order of a resolved sort; without one they stay as they are. -/
def arrange (order : Option (Field × Direction)) (records : List Record) : List Record :=
  match order with
  | none => records
  | some (field, direction) => sortRecords field direction records

namespace RecordSource

/-- The records that pass the filter, in order. -/
def result (source : RecordSource) (filter : Option Criteria) (sort : Option SortSpec) :
    Except Error (List Record) := do
  let filter ← compileFilter source.schema filter
  let order ← resolveSort source.schema sort
  let records ← source.scan
  return arrange order (records.filter filter.accepts)

/-- One page of the records that pass the filter, in order. A page past the end is empty. -/
def query (source : RecordSource) (filter : Option Criteria) (sort : Option SortSpec)
    (page : PageRequest) : Except Error (Page Record) := do
  page.validate
  let records ← source.result filter sort
  return .slice records page

/-- How many records pass the filter. -/
def count (source : RecordSource) (filter : Option Criteria) : Except Error Nat := do
  let filter ← compileFilter source.schema filter
  let records ← source.scan
  return (records.filter filter.accepts).length

end RecordSource

/-- A place where the records of several entities are found. -/
structure Provider where
  /-- The source of the records of an entity. -/
  source : String → Except Error RecordSource
  /-- The names of the entities, in ascending order. -/
  entities : Except Error (List String)

end PagedQuery
