import PagedQuery.Filter.Predicate

/-!
# Filter criteria

Criteria ask for several things at once: at most one predicate for each name, all of which have to
hold. They are plain data, written without a schema. Before they are used they are compiled against
one, which finds out what the names mean and checks each predicate, in the order of the names; then
`CompiledFilter.accepts` tests records. A field that is null or absent passes no predicate.
-/

namespace PagedQuery

/-- A predicate for each of some names. -/
abbrev Criteria := NameMap Predicate

/-- A predicate on a field, ready for testing. -/
structure Clause where
  field : Field
  matcher : Matcher

/-- Criteria resolved against a schema. -/
abbrev CompiledFilter := List Clause

/-- Whether the field of a record passes. -/
def Clause.accepts (clause : Clause) (r : Record) : Bool :=
  (r.field? clause.field).any clause.matcher.accepts

/-- Whether a record passes every clause. -/
def CompiledFilter.accepts (filter : CompiledFilter) (r : Record) : Bool :=
  filter.all (·.accepts r)

/-- Resolves one clause against a schema. -/
def Predicate.compile (schema : Schema) (name : String) (predicate : Predicate) :
    Except Error Clause := do
  let field ← schema.resolve name
  predicate.check name field
  return ⟨field, predicate.matcher⟩

/-- Resolves every clause against a schema, and reports the first by name that does not suit it. -/
def Criteria.compile (criteria : Criteria) (schema : Schema) : Except Error CompiledFilter :=
  criteria.toList.mapM fun (name, predicate) => predicate.compile schema name

end PagedQuery
