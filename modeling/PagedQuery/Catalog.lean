import PagedQuery.Source

/-!
# Catalogs

Collections held in memory, one for each of some entities, as a place to find records in.
-/

namespace PagedQuery

/-- A collection for each of some entities. -/
structure Catalog where
  collections : NameMap Collection

namespace Catalog

/-- The catalog without collections. -/
def empty : Catalog :=
  ⟨.empty⟩

/-- Puts a collection in the place of its entity, whether there was one or not. -/
def insert (c : Catalog) (collection : Collection) : Catalog :=
  ⟨c.collections.insert collection.schema.entity collection⟩

/-- A catalog serves the entities that it has collections for. -/
def provider (c : Catalog) : Provider where
  source entity :=
    match c.collections.get? entity with
    | some collection => .ok collection.source
    | none => .error (.unknownEntity entity)
  entities := .ok c.collections.keys

end Catalog

end PagedQuery
