import PagedQuery.Record.Schema
import Std.Data.HashSet

/-!
# Collections

The records of one entity, held in memory in the order in which they were put in. Every record fits
the schema, and no two have the same identifier; the identifiers are held a second time in a set,
where a record that comes in is looked up.

* `Collection.insert`: a collection with one more record, unless the record does not fit or its
  identifier is taken;
* `Collection.ofRecords`: the collection of a list of records, if they can be put in one by one;
* `Collection.ofFitting`: the collection of a list of records that are known to fit.
-/

namespace PagedQuery

/-- The records of an entity, in order. -/
structure Collection where
  schema : Schema
  records : Array Record
  ids : Std.HashSet RecordId
  admitted : ∀ r ∈ records.toList, schema.Admits r
  ids_distinct : (records.toList.map (·.id)).Nodup
  mem_ids : ∀ i, i ∈ ids ↔ i ∈ records.toList.map (·.id)

namespace Collection

/-- The collection without records. -/
def empty (schema : Schema) : Collection where
  schema := schema
  records := #[]
  ids := ∅
  admitted := by simp
  ids_distinct := by simp
  mem_ids := by simp

/-- How many records there are. -/
def size (c : Collection) : Nat :=
  c.records.size

/-- Puts a record at the end. That the record fits is checked before its identifier. -/
def insert (c : Collection) (r : Record) : Except Error Collection :=
  match hadmitted : c.schema.validate r with
  | .error e => .error e
  | .ok () =>
    if htaken : r.id ∈ c.ids then .error (.duplicateRecord c.schema.entity r.id.toText)
    else
      .ok
        { schema := c.schema
          records := c.records.push r
          ids := c.ids.insert r.id
          admitted := by
            intro s hs
            rw [Array.toList_push, List.mem_append, List.mem_singleton] at hs
            rcases hs with hs | rfl
            · exact c.admitted s hs
            · exact Schema.validate_eq_ok_iff.1 hadmitted
          ids_distinct := by
            rw [Array.toList_push, List.map_append, List.nodup_append]
            refine ⟨c.ids_distinct, by simp, ?_⟩
            rintro i hi _ hr rfl
            rw [List.map_singleton, List.mem_singleton] at hr
            exact htaken ((c.mem_ids r.id).2 (hr ▸ hi))
          mem_ids := by
            intro i
            rw [Std.HashSet.mem_insert, Array.toList_push, List.map_append, List.mem_append,
              c.mem_ids, beq_iff_eq, List.map_singleton, List.mem_singleton, or_comm,
              @eq_comm _ r.id i] }

/-- The collection that results from putting in the records of a list, one after the other. -/
def ofRecords (schema : Schema) (records : List Record) : Except Error Collection :=
  records.foldlM insert (empty schema)

/-- The collection of a list of records that fit and have different identifiers. -/
def ofFitting (schema : Schema) (records : List Record)
    (hfit : ∀ r ∈ records, schema.validate r = .ok ()) (hids : (records.map (·.id)).Nodup) :
    Collection where
  schema := schema
  records := records.toArray
  ids := .ofList (records.map (·.id))
  admitted := fun r hr => Schema.validate_eq_ok_iff.1 (hfit r hr)
  ids_distinct := hids
  mem_ids := by
    intro i
    rw [Std.HashSet.mem_ofList, List.contains_iff_mem]

end Collection

end PagedQuery
