import Mathlib
import PagedQuery.Proofs.Store.Writing

/-!
# Runs keep to the store

A run of operations on an empty database, whatever its operations are and whether they succeed,
answers as on the empty store and leaves tables that hold the store that is left. One operation does
so, as each of its writes does (`run_tracks`), and with it every run.

* `Represents.after`, `Represents.answers_eq`: a run keeps to the store;
* `Database.Reflects`, `run_reflects_store`: what every run leaves, as those who read the tables see
  it;
* `persistCollection_answers_alike`: a collection that is put into a database answers every query
  there as it does in memory.
-/

namespace PagedQuery

/-! ## Runs -/

/-- What the operations of a run answer, one after the other. -/
def Database.answers (db : Database) : List Operation → List (Except Error Outcome)
  | [] => []
  | operation :: operations => (operation.run db).1 :: (operation.run db).2.answers operations

/-- What the operations of a run on a store answer, one after the other. -/
def Store.answers (store : Store) : List Operation → List (Except Error Outcome)
  | [] => []
  | operation :: operations =>
    (operation.perform store).1 :: (operation.perform store).2.answers operations

namespace Database

variable {db : Database} {store : Store} {c : Collection}

theorem empty_represents : empty.Represents Store.empty :=
  fun _ => rfl

theorem Represents.after (h : db.Represents store) (operations : List Operation) :
    (db.after operations).Represents (store.after operations) := by
  induction operations generalizing db store with
  | nil => exact h
  | cons operation operations ih => exact ih (run_tracks h operation).2

theorem Represents.answers_eq (h : db.Represents store) (operations : List Operation) :
    db.answers operations = store.answers operations := by
  induction operations generalizing db store with
  | nil => rfl
  | cons operation operations ih =>
    obtain ⟨hanswer, hleft⟩ := run_tracks h operation
    rw [answers, Store.answers, hanswer, ih hleft]

/-! ## What the tables show -/

/-- Tables that hold a store, as seen by those who read them. -/
structure Reflects (db : Database) (store : Store) : Prop where
  /-- An entity has the schema that it was registered with; others are unknown. -/
  schema : ∀ entity, db.schema entity =
    (store.collection? entity).elim (.error (.unknownEntity entity)) fun c => .ok c.schema
  /-- The rows of records are those of the records put in, in the order in which they were. -/
  identities : ∀ entity, (db.records.filter (·.entity = entity)).map (·.identity) =
    (store.collection? entity).elim [] fun c => c.records.toList.map (·.id.toCell)
  /-- In this order no identifier is found twice, and the ordinals increase. -/
  ordered : ∀ entity, (db.records.filter (·.entity = entity)).Pairwise fun a b =>
    a.identity.same b.identity = false ∧ a.ordinal < b.ordinal
  /-- A value belongs to a record and to an attribute that is declared, and is not null. -/
  values : ∀ row ∈ db.values, ∃ c r a, store.collection? row.entity = some c ∧
    r ∈ c.records.toList ∧ row.identity = r.id.toCell ∧
    c.schema.attribute? row.name = some a ∧ row.cell ≠ .null
  /-- An entity can be read, and the records are those put in, one by one, and fit its schema. -/
  source : ∀ entity c, store.collection? entity = some c → ∃ records,
    db.source entity = .ok ⟨c.schema, .ok records⟩ ∧
      List.Forall₂ Record.Agrees c.records.toList records ∧ ∀ r ∈ records, c.schema.Admits r

theorem toCell_ne_null {v : Value} (h : v.isNull = false) : v.toCell ≠ .null := by
  cases v <;> simp_all [Value.isNull, Value.toCell]

theorem tables_ordered (c : Collection) : c.tables.records.Pairwise fun a b =>
    a.identity.same b.identity = false ∧ a.ordinal < b.ordinal := by
  refine List.Pairwise.and ?_ (pairwise_mapIdx (fun i j a b hij => ?_) _)
  · have hids : (c.tables.records.map (·.identity)).Pairwise fun a b => a.same b = false := by
      rw [tables_identities, List.pairwise_map]
      refine (List.pairwise_map.1 c.ids_distinct).imp fun hne => ?_
      rw [Bool.eq_false_iff, ne_eq, RecordId.same_toCell]
      exact hne
    exact List.pairwise_map.1 hids
  · show ((i : ℤ) + 1) < (j : ℤ) + 1
    omega

theorem Represents.reflects (h : db.Represents store) : db.Reflects store where
  schema := h.schema_eq
  identities entity := by
    have hrecords : db.records.filter (·.entity = entity) = (db.part entity).records := rfl
    rw [hrecords, h entity]
    cases store.collection? entity with
    | none => rfl
    | some c => exact tables_identities c
  ordered entity := by
    have hrecords : db.records.filter (·.entity = entity) = (db.part entity).records := rfl
    rw [hrecords, h entity]
    cases store.collection? entity with
    | none => exact .nil
    | some c => exact tables_ordered c
  values row hrow := by
    cases hc : store.collection? row.entity with
    | none =>
      have hmem : row ∈ (db.part row.entity).values := List.mem_filter.2 ⟨hrow, decide_eq_true rfl⟩
      rw [h.part_eq_empty hc] at hmem
      cases hmem
    | some c =>
      obtain ⟨r, hr, ⟨name, v⟩, hv, heq⟩ :=
        exists_of_mem_values (h.part_eq hc) hrow (store.entity_eq hc).symm
      obtain ⟨a, ha, -⟩ := c.admitted r hr name v (List.mem_filter.1 hv).1
      rw [heq]
      exact ⟨c, r, a, rfl, hr, rfl, ha, toCell_ne_null (Record.isNull_of_mem_present hv)⟩
  source entity c hc := by
    rw [← store.entity_eq hc]
    exact exists_source_of_part (h.part_eq hc)

end Database

open Database

/-- Every run on an empty database answers as on the empty store, and leaves tables that reflect the
    store that is left. What was there before the end of the run is there at its end: no schema is
    ever replaced, and no record is lost or moved. -/
theorem run_reflects_store (operations : List Operation) :
    Database.empty.answers operations = Store.empty.answers operations ∧
      (Database.empty.after operations).Reflects (Store.empty.after operations) ∧
      ∀ earlier later, operations = earlier ++ later →
        (Store.empty.after earlier).Extends (Store.empty.after operations) := by
  refine ⟨empty_represents.answers_eq operations, (empty_represents.after operations).reflects, ?_⟩
  rintro earlier later rfl
  have happend : Store.empty.after (earlier ++ later) = (Store.empty.after earlier).after later :=
    List.foldl_append
  rw [happend]
  exact Store.extends_after _ later

/-! ## A collection in a database -/

variable {db : Database} {store : Store} {c : Collection}

/-- A collection whose entity is not there is put into the tables, where it is a source that agrees
    with it. -/
theorem exists_source_of_persistCollection (h : db.Represents store)
    (hnone : store.collection? c.schema.entity = none) :
    ∃ records, (db.persistCollection c).1 = .ok c.size ∧
      (db.persistCollection c).2.source c.schema.entity = .ok ⟨c.schema, .ok records⟩ ∧
      List.Forall₂ Record.Agrees c.records.toList records := by
  obtain ⟨hanswer, hleft⟩ := persistCollection_tracks h c
  obtain ⟨later, d, hadd, hd, hschema, hrecords⟩ := Store.exists_addCollection hnone false
  rw [hadd] at hanswer hleft
  obtain ⟨records, hsource, hall, -⟩ := hleft.reflects.source _ d hd
  rw [hschema] at hsource
  rw [hrecords] at hall
  exact ⟨records, hanswer, hsource, hall⟩

/-- A collection that is put into an empty database is all that can be read there. -/
theorem exists_scan_of_persistCollection (c : Collection) :
    ∃ records, (Database.empty.after [.persistCollection c]).schema c.schema.entity = .ok c.schema ∧
      (Database.empty.after [.persistCollection c]).scan c.schema = .ok records ∧
      List.Forall₂ Record.Agrees c.records.toList records := by
  obtain ⟨records, -, hsource, hall⟩ :=
    exists_source_of_persistCollection (c := c) Database.empty_represents rfl
  obtain ⟨hschema, hscan⟩ := source_eq_ok_iff.1 hsource
  exact ⟨records, hschema, hscan, hall⟩

/-- A collection that is put into a database, after any run that has not stored its entity, is
    served from there with the same schema, and answers every query and every count as it does in
    memory. -/
theorem persistCollection_answers_alike (operations : List Operation) (c : Collection)
    (hnew : (Database.empty.after operations).schema c.schema.entity =
      .error (.unknownEntity c.schema.entity)) :
    ((Database.empty.after operations).persistCollection c).1 = .ok c.size ∧
      ∃ source, ((Database.empty.after operations).persistCollection c).2.source c.schema.entity =
          .ok source ∧ source.schema = c.schema ∧
        (∀ filter sort page, SameOutcome Page.Agrees (c.source.query filter sort page)
          (source.query filter sort page)) ∧
        ∀ filter, c.source.count filter = source.count filter := by
  have hrepresents := empty_represents.after operations
  have hnone : (Store.empty.after operations).collection? c.schema.entity = none := by
    rw [hrepresents.schema_eq] at hnew
    cases hc : (Store.empty.after operations).collection? c.schema.entity with
    | none => rfl
    | some d =>
      rw [hc] at hnew
      cases hnew
  obtain ⟨records, hanswer, hsource, hall⟩ := exists_source_of_persistCollection hrepresents hnone
  -- From here on nothing is said of tables: no query tells the two sources apart.
  have hagrees : c.source.Agrees ⟨c.schema, .ok records⟩ := ⟨rfl, .ok hall⟩
  exact ⟨hanswer, _, hsource, rfl, hagrees.query, hagrees.count⟩

/-- Three offers, with a null among their values, and with identifiers of both kinds that look
    alike. -/
def threeOffers : Collection :=
  .ofFitting
    { entity := "Offer"
      identifier := "OfferID"
      attributes := [⟨"Discount", .decimal⟩, ⟨"MaxQty", .integer⟩]
      names_valid := by decide
      names_distinct := by decide }
    [.ofList (.integer 1) [("Discount", .decimal ⟨150, 2⟩), ("MaxQty", .null)],
      .ofList (.text "1") [], .ofList (.integer 2) [("MaxQty", .integer 10)]]
    (by intro r hr; fin_cases hr <;> rfl) (by decide)

/-- The offers with a discount of one and a half, from a database that has stored something else. -/
theorem threeOffers_answer_alike :
    ∃ db, db = Database.empty.after
        [.createEntity ⟨"Vendor", "VendorID", [], by decide, by decide⟩] ∧
      db.schema "Offer" = .error (.unknownEntity "Offer") ∧
      ∃ source, (db.persistCollection threeOffers).2.source "Offer" = .ok source ∧
        SameOutcome Page.Agrees
          (threeOffers.source.query
            (some (.ofList [("Discount", .equals (.decimal ⟨15, 1⟩))])) none ⟨1, 10⟩)
          (source.query
            (some (.ofList [("Discount", .equals (.decimal ⟨15, 1⟩))])) none ⟨1, 10⟩) := by
  obtain ⟨-, source, hsource, -, hquery, -⟩ := persistCollection_answers_alike
    [.createEntity ⟨"Vendor", "VendorID", [], by decide, by decide⟩] threeOffers rfl
  exact ⟨_, rfl, rfl, source, hsource, hquery _ _ _⟩

end PagedQuery
