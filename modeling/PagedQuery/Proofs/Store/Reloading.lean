import Mathlib
import PagedQuery.Proofs.Store.Seeding

/-!
# Loading a document again

What a document comes to is decided once. Its entities, up to the first that is refused, are stored
with the schemas that they declare, and whatever is done to the database later they keep them; so
when the document is loaded again each of them is passed over, although records may have been put
into it in between. The one that was refused is refused again, because it makes no sense or because
its name still belongs to another schema.

* `Database.KeepsSchemas`: a later database has the entities of an earlier one, as declared there;
* `SeedEntity.IsStored`: an entity of a document that is stored with the schema that it declares;
* `SeedEntity.IsStored.mono`, `Database.RefusesSeed.mono`: while schemas are kept, the same entities
  are passed over and the same are refused;
* `Database.loadSeeds_append_of_isStored`, `Database.loadSeeds_of_refusesSeed`: what loading them
  comes to, on any tables;
* `loadSeed_again`: a document that has been loaded changes nothing any more.
-/

namespace PagedQuery

/-! ## Schemas that stay -/

namespace Database

variable {db later : Database} {stored : List Collection}

/-- Each entity of the first database is in the second with the same schema. -/
def KeepsSchemas (db later : Database) : Prop :=
  ∀ entity schema, db.schema entity = .ok schema → later.schema entity = .ok schema

/-- A run of operations keeps schemas. -/
theorem Represents.keepsSchemas_after {store : Store} (h : db.Represents store)
    (operations : List Operation) : db.KeepsSchemas (db.after operations) := by
  intro entity schema hschema
  have hextends := h.extends_of_extends (h.after operations) (Store.extends_after store operations)
  exact (hextends entity schema hschema).1

/-- What is gained are new entities, so the schemas of the others are kept. -/
theorem Gains.keepsSchemas (h : db.Gains stored later) : db.KeepsSchemas later := by
  intro entity schema hschema
  have hother : entity ∉ stored.map (·.schema.entity) := by
    intro hmem
    obtain ⟨c, hc, rfl⟩ := List.mem_map.1 hmem
    cases hschema.symm.trans (h.new c hc)
  rw [← schema_part, h.others entity hother, schema_part, hschema]

theorem schema?_of_schema {entity : String} {schema : Schema} (h : db.schema entity = .ok schema) :
    db.schema? entity = .ok (some schema) := by
  obtain ⟨schema?, hschema?, h⟩ := bind_eq_ok.1 h
  cases schema? with
  | none => cases h
  | some _ =>
    cases h
    exact hschema?

end Database

/-! ## One entity -/

namespace SeedEntity

variable {seed : SeedEntity} {db later : Database}

/-- An entity of a document that makes sense and is stored with the schema that it declares. -/
def IsStored (seed : SeedEntity) (db : Database) : Prop :=
  ∃ c, seed.Describes c ∧ db.schema c.schema.entity = .ok c.schema

theorem IsStored.mono (h : seed.IsStored db) (hkeeps : db.KeepsSchemas later) :
    seed.IsStored later := by
  obtain ⟨c, hdescribes, hschema⟩ := h
  exact ⟨c, hdescribes, hkeeps _ _ hschema⟩

end SeedEntity

namespace Database

variable {db next later : Database} {store : Store} {seed : SeedEntity}
  {seeds loaded rest : List SeedEntity} {stored : List Collection} {e : Error}

theorem RefusesSeed.mono (h : db.RefusesSeed seed e) (hkeeps : db.KeepsSchemas later) :
    later.RefusesSeed seed e := by
  cases h with
  | fails hfails => exact .fails hfails
  | other hdescribes hschema hother => exact .other hdescribes (hkeeps _ _ hschema) hother

/-- An entity that is taken is stored from then on, also if it was there before. -/
theorem Takes.isStored {c : Collection} (h : db.Takes c stored next)
    (hdescribes : seed.Describes c) : seed.IsStored next := by
  cases h with
  | skipped hschema => exact ⟨c, hdescribes, hschema⟩
  | added hgains => exact ⟨c, hdescribes, hgains.schema List.mem_cons_self⟩

/-- An entity that is stored is passed over. -/
theorem loadSeeds_cons_of_isStored (h : seed.IsStored db) (seeds : List SeedEntity) :
    loadSeeds (seed :: seeds) db = loadSeeds seeds db := by
  obtain ⟨c, hdescribes, hstored⟩ := h
  obtain ⟨d, hd, hsame, -⟩ := SeedEntity.exists_collection_of_describes hdescribes
  rw [← hsame] at hstored
  have hskip : (Transaction.storeCollection d true).commit db = (.ok none, db) := by
    rw [Transaction.commit, Transaction.run_storeCollection_skip (schema?_of_schema hstored)]
  rw [loadSeeds_cons hd hskip]
  -- Nothing is added to the number of records that the others come to.
  cases hrest : loadSeeds seeds db with
  | mk answer left => cases answer <;> simp [Except.map]

/-- An entity that is refused ends the document, and changes nothing. -/
theorem loadSeeds_of_refusesSeed (h : db.RefusesSeed seed e) (rest : List SeedEntity) :
    loadSeeds (seed :: rest) db = (.error e, db) := by
  cases h with
  | fails hfails => rw [loadSeeds, SeedEntity.collection_eq_error_iff.2 hfails]
  | @other c schema hdescribes hschema hother =>
    obtain ⟨d, hd, hsame, -⟩ := SeedEntity.exists_collection_of_describes hdescribes
    rw [← hsame] at hschema hother
    have hregister : (Transaction.storeEntity d.schema).run db =
        .error (.otherSchema d.schema.entity) := by
      rw [run_storeEntity, schema?_of_schema hschema]
      exact if_neg hother
    have hrefused : (Transaction.storeCollection d true).commit db =
        (.error (.otherSchema d.schema.entity), db) := by
      have hrun : (Transaction.storeCollection d true).run db =
          .error (.otherSchema d.schema.entity) := by
        show ((Transaction.storeEntity d.schema).run db).bind _ = _
        rw [hregister]
        rfl
      rw [Transaction.commit, hrun]
    rw [loadSeeds, hd]
    dsimp only
    rw [hrefused, hsame]

/-! ## Whole documents -/

/-- All entities that have been loaded are stored in the end, the first as well as the last. -/
theorem Loads.isStored (h : db.Loads seeds stored later) : ∀ seed ∈ seeds, seed.IsStored later := by
  induction h with
  | nil => exact nofun
  | cons hdescribes htakes hloads ih =>
    have hfirst := (htakes.isStored hdescribes).mono hloads.gains.keepsSchemas
    exact List.forall_mem_cons.2 ⟨hfirst, ih⟩

/-- Entities that are stored are passed over, one after the other. -/
theorem loadSeeds_append_of_isStored (h : ∀ seed ∈ loaded, seed.IsStored db)
    (rest : List SeedEntity) : loadSeeds (loaded ++ rest) db = loadSeeds rest db := by
  induction loaded with
  | nil => rfl
  | cons seed loaded ih =>
    obtain ⟨hseed, hloaded⟩ := List.forall_mem_cons.1 h
    rw [List.cons_append, loadSeeds_cons_of_isStored hseed, ih hloaded]

/-- Entities that are loaded again come to nothing, on any tables that keep the schemas that the
    first loading has left. -/
theorem Represents.loadSeeds_again (h : db.Represents store) {last : Database}
    (hkeeps : (loadSeeds seeds db).2.KeepsSchemas last) :
    loadSeeds seeds last = ((loadSeeds seeds db).1.map fun _ => 0, last) := by
  obtain ⟨loaded, rest, stored, later, rfl, hloads, hloaded, hends⟩ := h.exists_loads seeds
  rcases hends with rfl | ⟨seed, after, e, rfl, hrefuses, hrefused⟩
  · rw [List.append_nil, hloaded] at hkeeps ⊢
    have hstored := fun seed hseed => (hloads.isStored seed hseed).mono hkeeps
    rw [← List.append_nil loaded, loadSeeds_append_of_isStored hstored]
    rfl
  · rw [hrefused] at hkeeps ⊢
    have hstored := fun seed hseed => (hloads.isStored seed hseed).mono hkeeps
    rw [loadSeeds_append_of_isStored hstored, loadSeeds_of_refusesSeed (hrefuses.mono hkeeps)]
    rfl

end Database

open Database

/-- A document that is loaded again, after any run of operations on what the first loading left,
    leaves the tables as it finds them. If it could be loaded the answer is that nothing has been
    written, and if it was refused it is refused with the same error. -/
theorem loadSeed_again {db : Database} (h : db.Reachable) (document : String)
    (operations : List Operation) :
    ((db.loadSeed document).2.after operations).loadSeed document =
      ((db.loadSeed document).1.map fun _ => 0, (db.loadSeed document).2.after operations) := by
  obtain ⟨store, h⟩ := h.exists_represents
  have hkeeps := (loadSeed_tracks h document).2.keepsSchemas_after operations
  generalize (db.loadSeed document).2.after operations = last at hkeeps ⊢
  unfold loadSeed at hkeeps ⊢
  cases hseeds : SeedEntity.parseAll? document with
  | none => rfl
  | some seeds =>
    rw [hseeds] at hkeeps
    exact h.loadSeeds_again hkeeps

/-- A document that has an entity twice, the second time with another record. -/
def repeatedSeed : String :=
  "[[\"Item\",\"No\",[],[\x7b\"No\":1\x7d]],[\"Item\",\"No\",[],[\x7b\"No\":2\x7d]]]"

/-- One item. -/
def items (n : Int64) : Collection :=
  .ofFitting ⟨"Item", "No", [], by decide, by decide⟩ [.ofList (.integer n) []]
    (List.forall_mem_singleton.2 rfl) (List.nodup_singleton _)

/-- One record is stored, and none when the document is loaded again, although an item with the
    other number has been put in by then. -/
theorem repeatedSeed_again :
    ∃ db later, db = Database.empty.after
        [.createEntity ⟨"Vendor", "VendorID", [], by decide, by decide⟩] ∧
      db.loadSeed repeatedSeed = (.ok 1, later) ∧
      (later.after [.persistRecord "Item" ⟨.integer 2, .empty⟩, .reopen]).loadSeed repeatedSeed =
        (.ok 0, later.after [.persistRecord "Item" ⟨.integer 2, .empty⟩, .reopen]) := by
  have hseeds : SeedEntity.parseAll? repeatedSeed =
      some [⟨"Item", "No", [], [.object [("No", .integer 1)]]⟩,
        ⟨"Item", "No", [], [.object [("No", .integer 2)]]⟩] := by cbv
  have hfirst : SeedEntity.Describes ⟨"Item", "No", [], [.object [("No", .integer 1)]]⟩
      (items 1) := ⟨⟨rfl, rfl, .nil⟩, .cons (Schema.recordOfJson_eq_ok_iff.1 rfl) .nil⟩
  have hsecond : SeedEntity.Describes ⟨"Item", "No", [], [.object [("No", .integer 2)]]⟩
      (items 2) := ⟨⟨rfl, rfl, .nil⟩, .cons (Schema.recordOfJson_eq_ok_iff.1 rfl) .nil⟩
  obtain ⟨db, hdb, hreachable, hunknown⟩ : ∃ db, db = Database.empty.after
      [.createEntity ⟨"Vendor", "VendorID", [], by decide, by decide⟩] ∧ db.Reachable ∧
        db.schema "Item" = .error (.unknownEntity "Item") := ⟨_, rfl, .of_run _, rfl⟩
  -- The items are stored when they come first, and passed over when they come again.
  obtain ⟨c, hc, hschema, hrecords⟩ := SeedEntity.exists_collection_of_describes hfirst
  have hsize : c.size = 1 := congrArg List.length hrecords
  obtain ⟨store, hrepresents⟩ := hreachable.exists_represents
  have hnone : store.collection? c.schema.entity = none := by
    rw [hschema]
    exact (hrepresents.schema_eq_error_iff.1 hunknown).1
  obtain ⟨later, -, hwrite, -, hgains⟩ := hrepresents.gains_of_new hnone
  have hstored : later.schema "Item" = .ok (items 2).schema := by
    have hgained := hgains.schema (List.mem_singleton_self c)
    rw [hschema] at hgained
    exact hgained
  have hload : db.loadSeed repeatedSeed = (.ok 1, later) := by
    rw [loadSeed, hseeds]
    dsimp only
    rw [loadSeeds_cons hc hwrite, loadSeeds_cons_of_isStored ⟨items 2, hsecond, hstored⟩, hsize]
    rfl
  have hagain := loadSeed_again hreachable repeatedSeed
    [.persistRecord "Item" ⟨.integer 2, .empty⟩, .reopen]
  rw [hload] at hagain
  exact ⟨db, later, hdb, hload, hagain⟩

end PagedQuery
