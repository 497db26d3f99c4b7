import PagedQuery.Params

/-!
# The query service

Queries by name: which entities there are, and what the parameters of a query ask of one of them.
An entity that is not there is reported before any of the parameters is looked at.
-/

namespace PagedQuery

/-- A place where records are found, and the settings that limit queries. -/
structure Service where
  provider : Provider
  settings : Settings

/-- The page of an entity's records that parameters ask for. -/
def Service.query (service : Service) (entity : String) (params : List (String × String)) :
    Except Error (Page Record) := do
  let source ← service.provider.source entity
  let query ← QueryParams.parse source.schema service.settings params
  source.query (some query.filter) query.sort query.page

end PagedQuery
