import PagedQuery.Entity
import PagedQuery.Source

/-!
# Repositories

A repository gives typed access to the records of one entity: it pairs a source with a type for the
records, whose schema is the one that the source serves. Filtering, sorting and paging are those of
the source; the repository only makes values of the records on the page, and the first record there
that cannot be one fails the whole page.

* `Repository.of`: the repository over a source, if its schema is the expected one;
* `Repository.get`, `Repository.search`: one page of all records, and of those that pass a filter;
* `Repository.count`: how many records pass a filter;
* `Repository.find`: the record with an identifier.
-/

namespace PagedQuery

/-- A source that serves the schema of a typed entity. -/
structure Repository (α : Type) [Entity α] where
  source : RecordSource
  schema_eq : source.schema = Entity.schema α

namespace Repository

variable {α : Type} [Entity α]

/-- The repository over a source. -/
def of (α : Type) [Entity α] (source : RecordSource) : Except Error (Repository α) :=
  if h : source.schema = Entity.schema α then .ok ⟨source, h⟩
  else .error (.schema ("source for '" ++ source.schema.entity ++ "' does not serve the '" ++
    (Entity.schema α).entity ++ "' schema"))

/-- A page of the source, its records as values. -/
def page (repository : Repository α) (filter : Option Criteria) (sort : Option SortSpec)
    (page : PageRequest) : Except Error (Page α) := do
  (← repository.source.query filter sort page).mapM Entity.ofRecord

/-- One page of all records, in ascending order of their identifiers. -/
def get (repository : Repository α) (page : PageRequest) : Except Error (Page α) :=
  repository.page none (some ⟨repository.source.schema.identifier, .ascending⟩) page

/-- One page of the records that pass a filter. -/
def search (repository : Repository α) (filter : Criteria) (sort : Option SortSpec)
    (page : PageRequest) : Except Error (Page α) :=
  repository.page (some filter) sort page

/-- How many records pass a filter. -/
def count (repository : Repository α) (filter : Criteria) : Except Error Nat :=
  repository.source.count (some filter)

/-- The criteria that the record with an identifier passes, and no other. -/
def identifies (repository : Repository α) (id : RecordId) : Criteria :=
  .ofList [(repository.source.schema.identifier, .equals id.toValue)]

/-- The record with an identifier, if there is one. -/
def find (repository : Repository α) (id : RecordId) : Except Error (Option α) := do
  let found ← repository.source.query (some (repository.identifies id)) none (← PageRequest.first 1)
  found.items.head?.mapM Entity.ofRecord

end Repository

end PagedQuery
