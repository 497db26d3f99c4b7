import Mathlib
import PagedQuery.Proofs.Store.Run

/-!
# Databases only grow

Whatever an operation answers, what could be read of a database before it can be read after it: each
entity keeps its schema, and its records are followed by others at most. The entities that the
operation does not name are not touched at all, although the rows of all entities share the same
tables.

* `Database.Reachable`: databases that only operations have changed;
* `Database.Extends`: a later database shows what an earlier one showed, and perhaps more records
  behind it;
* `schema_part`, `scan_part`: what is read of an entity depends on its own rows alone;
* `run_only_grows`: every operation, and so every run, extends the reachable database that it finds.

Growth is a property of stores (`Store.Extends`). It carries over to the records that are read, not
only up to agreement, because what a record is read back as depends on that record alone.
-/

namespace PagedQuery

namespace Database

variable {db later : Database} {store grown : Store} {entity : String} {schema : Schema}

/-- A database as a run of operations leaves it, whatever these answered. -/
def Reachable (db : Database) : Prop :=
  ∃ operations, empty.after operations = db

theorem Reachable.of_run (operations : List Operation) : (empty.after operations).Reachable :=
  ⟨operations, rfl⟩

theorem Reachable.exists_represents (h : db.Reachable) : ∃ store, db.Represents store := by
  obtain ⟨operations, rfl⟩ := h
  exact ⟨_, empty_represents.after operations⟩

/-! ## The rows of one entity -/

theorem schema_part (db : Database) (entity : String) :
    (db.part entity).schema entity = db.schema entity := by
  have hentities : (db.part entity).entities.find? (·.entity = entity) =
      db.entities.find? (·.entity = entity) := by
    simp only [part, ← List.head?_filter, List.filter_filter, Bool.and_self]
  have hattributes : (db.part entity).attributeRows entity = db.attributeRows entity := by
    simp only [attributeRows, part, List.filter_filter, Bool.and_self]
  simp only [Database.schema, schema?, hentities, hattributes]

theorem valueRows_part (db : Database) (entity : String) (identity : Cell) :
    (db.part entity).valueRows entity identity = db.valueRows entity identity := by
  simp only [valueRows, part, List.filter_filter, Bool.and_right_comm, Bool.and_self]

theorem scan_part (db : Database) (schema : Schema) :
    (db.part schema.entity).scan schema = db.scan schema := by
  have hrecords : (db.part schema.entity).recordRows schema.entity =
      db.recordRows schema.entity := by
    simp only [recordRows, part, List.filter_filter, Bool.and_self]
  have hjoined : (db.part schema.entity).joinedRows schema.entity =
      db.joinedRows schema.entity := by
    rw [joinedRows, joinedRows, hrecords]
    refine List.flatMap_congr fun row hrow => ?_
    have hentity : row.entity = schema.entity :=
      of_decide_eq_true (List.mem_filter.1 (List.mem_mergeSort.1 hrow)).2
    rw [joinedRowsOf, joinedRowsOf, hentity, valueRows_part]
  rw [scan, scan, hjoined]

/-! ## Growth -/

/-- Each entity of the first database is in the second with the same schema, and its records, which
    can be read, are the first ones there. -/
def Extends (db later : Database) : Prop :=
  ∀ entity schema, db.schema entity = .ok schema → later.schema entity = .ok schema ∧
    ∃ records added, db.scan schema = .ok records ∧ later.scan schema = .ok (records ++ added)

/-- Tables that hold stores of which one extends the other. -/
theorem Represents.extends_of_extends (h : db.Represents store) (h' : later.Represents grown)
    (hextends : store.Extends grown) : db.Extends later := by
  intro entity schema hschema
  obtain ⟨c, hc, rfl⟩ := h.schema_eq_ok_iff.1 hschema
  obtain ⟨d, hd, hsame, added, hadded⟩ := hextends entity c hc
  refine ⟨h'.schema_eq_ok_iff.2 ⟨d, hd, hsame⟩, ?_⟩
  obtain ⟨records, hrecords, -⟩ := exists_mapM_eq_ok fun r hr => exists_readBack (c.admitted r hr)
  obtain ⟨more, hmore, -⟩ := exists_mapM_eq_ok fun r hr =>
    exists_readBack (d.admitted r (hadded ▸ List.mem_append_right c.records.toList hr))
  refine ⟨records, more, (scan_of_part (h.part_eq hc)).trans hrecords, ?_⟩
  rw [hsame] at hmore
  rw [← hsame, scan_of_part (h'.part_eq hd), hsame, ← hadded, List.mapM_append, hrecords, hmore]
  rfl

/-- Entities that an operation does not name have the rows that they had. -/
theorem Represents.part_run (h : db.Represents store) (operation : Operation)
    (hentity : entity ∉ operation.names) : (operation.run db).2.part entity = db.part entity := by
  have hsame := (Store.leads_perform operation store).collection?_eq hentity
  rw [(run_tracks h operation).2 entity, hsame, h entity]

end Database

open Database

/-- Every operation on a database that only operations have changed extends it, whether it succeeds
    or fails, and leaves all entities that it does not name as they are. So a run only ever extends
    the database that it finds. -/
theorem run_only_grows {db : Database} (h : db.Reachable) :
    (∀ operation : Operation, db.Extends (operation.run db).2 ∧
      ∀ entity ∉ operation.names, (operation.run db).2.schema entity = db.schema entity ∧
        ∀ schema, schema.entity = entity → (operation.run db).2.scan schema = db.scan schema) ∧
      ∀ operations, db.Extends (db.after operations) := by
  obtain ⟨store, h⟩ := h.exists_represents
  refine ⟨fun operation => ⟨?_, fun entity hentity => ⟨?_, ?_⟩⟩, fun operations => ?_⟩
  · exact h.extends_of_extends (run_tracks h operation).2 (Store.extends_perform operation store)
  · rw [← schema_part, h.part_run operation hentity, schema_part]
  · rintro schema rfl
    rw [← scan_part, h.part_run operation hentity, scan_part]
  · exact h.extends_of_extends (h.after operations) (Store.extends_after store operations)

/-- Three offers that are stored are there after an entity has been registered beside them, and come
    first after one more offer has been put in. -/
theorem threeOffers_stay :
    ∃ db records, db = Database.empty.after [.persistCollection threeOffers] ∧
      db.schema "Offer" = .ok threeOffers.schema ∧ db.scan threeOffers.schema = .ok records ∧
      records.length = 3 ∧
      ((Operation.createEntity ⟨"Vendor", "VendorID", [], by decide, by decide⟩).run db).2.scan
        threeOffers.schema = .ok records ∧
      ∃ added, ((Operation.persistRecord "Offer" ⟨.integer 4, .empty⟩).run db).2.scan
        threeOffers.schema = .ok (records ++ added) := by
  obtain ⟨records, hschema, hscan, hall⟩ := exists_scan_of_persistCollection threeOffers
  obtain ⟨hstep, -⟩ := run_only_grows (.of_run [.persistCollection threeOffers])
  have hothers := (hstep (.createEntity ⟨"Vendor", "VendorID", [], by decide, by decide⟩)).2
  obtain ⟨-, read, added, hread, hadded⟩ :=
    (hstep (.persistRecord "Offer" ⟨.integer 4, .empty⟩)).1 "Offer" threeOffers.schema hschema
  obtain rfl := Except.ok.inj (hread.symm.trans hscan)
  refine ⟨_, read, rfl, hschema, hscan, hall.length_eq.symm, ?_, added, hadded⟩
  exact ((hothers "Offer" (by decide)).2 threeOffers.schema rfl).trans hscan

end PagedQuery
