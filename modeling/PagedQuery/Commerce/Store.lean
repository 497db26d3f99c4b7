import PagedQuery.Entity
import PagedQuery.Filter.Criteria

/-!
# Stores

The shops that a bicycle manufacturer sells to, as a typed entity.

* `Store.ofRecord`, `Store.toRecord`: a store from its record, and its record;
* `StoreFilter`: what stores can be looked up by.
-/

namespace PagedQuery.Commerce

/-- A shop, and who sells to it. -/
structure Store where
  businessEntityId : Int64
  name : String
  salesPersonId : Option Int64
  modifiedDate : Timestamp
deriving DecidableEq

namespace Store

/-- What the records of stores look like. -/
def schema : Schema where
  entity := "Store"
  identifier := "BusinessEntityID"
  attributes := [⟨"Name", .text⟩, ⟨"SalesPersonID", .integer⟩, ⟨"ModifiedDate", .timestamp⟩]
  names_valid := by decide
  names_distinct := by decide

/-- The store that a record stands for. -/
def ofRecord (r : Record) : Except Error Store := do
  return {
    businessEntityId := ← r.integerId
    name := ← r.required "Name" Value.asText
    salesPersonId := ← r.optional "SalesPersonID" Value.asInteger
    modifiedDate := ← r.required "ModifiedDate" Value.asTimestamp }

instance : Entity Store := ⟨schema, ofRecord⟩

/-- The record of a store. A sales person that is missing is null in it. -/
def toRecord (s : Store) : Record :=
  .ofList (.integer s.businessEntityId)
    [("Name", .text s.name),
      ("SalesPersonID", s.salesPersonId.elim .null .integer),
      ("ModifiedDate", .timestamp s.modifiedDate)]

end Store

/-- What stores can be looked up by: a part of the name, the sales person, and the time since when
    they have changed. -/
structure StoreFilter where
  name : Option String
  salesPersonId : Option Int64
  modifiedSince : Option Timestamp
deriving DecidableEq

/-- The criteria of a filter, with a clause for everything that is set. -/
def StoreFilter.criteria (filter : StoreFilter) : Criteria :=
  .ofList <| List.flatten
    [filter.name.toList.map fun s => ("Name", .contains s),
      filter.salesPersonId.toList.map fun n => ("SalesPersonID", .equals (.integer n)),
      filter.modifiedSince.toList.map fun t => ("ModifiedDate", .atLeast (.timestamp t))]

end PagedQuery.Commerce
