import PagedQuery.NameMap
import PagedQuery.Record.Id

/-!
# Records

A record has an identifier and a value for each of some attributes. An attribute that holds null and
one that is absent are kept apart here, and read alike through `Record.value?`.
-/

namespace PagedQuery

/-- A record. -/
structure Record where
  id : RecordId
  attributes : NameMap Value
deriving DecidableEq

namespace Record

/-- The record with the given attributes, of which a later one replaces an earlier one of the same
    name. -/
def ofList (id : RecordId) (attributes : List (String × Value)) : Record :=
  ⟨id, .ofList attributes⟩

/-- The value of an attribute; there is none where it is null or absent. -/
def value? (r : Record) (name : String) : Option Value :=
  (r.attributes.get? name).filter fun v => !v.isNull

/-- A record in JSON, its attributes in the order of their names. -/
def toJson (r : Record) : Json :=
  .object [("id", r.id.toJson),
    ("attributes", .object (r.attributes.toList.map fun (name, v) => (name, v.toJson)))]

end Record

end PagedQuery
