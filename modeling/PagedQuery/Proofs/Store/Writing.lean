import Mathlib
import PagedQuery.Proofs.Store.Tables

/-!
# Writing keeps to the store

Each write on tables that hold a store does what the change of the store does: it fails with the
same error, or has the same result and leaves tables that hold the changed store (`Tracks`).

Writes only ever add rows, and those of one entity (`Represents.add`); that the rows of all other
entities stay as they are is what makes the operations independent of each other.
-/

namespace PagedQuery

open Database (Represents)

namespace Database

/-! ## Adding rows -/

/-- The tables with rows added at their ends. -/
def add (db rows : Database) : Database where
  entities := db.entities ++ rows.entities
  attributes := db.attributes ++ rows.attributes
  records := db.records ++ rows.records
  values := db.values ++ rows.values

theorem empty_add (rows : Database) : empty.add rows = rows := rfl

theorem part_add (db rows : Database) (entity : String) :
    (db.add rows).part entity = (db.part entity).add (rows.part entity) := by
  simp only [part, add, List.filter_append]

theorem add_empty (db : Database) : db.add empty = db := by
  simp only [add, empty, List.append_nil]

/-- The rows of one entity are no rows of another. -/
theorem part_part_of_ne {entity other : String} (h : other ≠ entity) (db : Database) :
    (db.part entity).part other = empty := by
  have hnone : ∀ {ρ : Type} (name : ρ → String) (rows : List ρ),
      (rows.filter (name · = entity)).filter (name · = other) = [] := by
    intro ρ name rows
    rw [List.filter_eq_nil_iff]
    intro row hrow hname
    rw [List.mem_filter, decide_eq_true_eq] at hrow
    exact h ((of_decide_eq_true hname).symm.trans hrow.2)
  simp only [part, hnone]
  rfl

variable {db rows : Database} {store : Store} {c : Collection} {r : Record}

/-- Adding rows of one entity changes the collection of this entity, and of no other. -/
theorem Represents.add (h : db.Represents store) (hrows : rows.part c.schema.entity = rows)
    (hpart : (db.part c.schema.entity).add rows = c.tables) :
    (db.add rows).Represents (store.put c) := by
  intro entity
  rw [part_add]
  by_cases hentity : entity = c.schema.entity
  · rw [hentity, hrows, hpart, Store.put_self]
    rfl
  · have hother : rows.part entity = Database.empty := by
      rw [← hrows]
      exact part_part_of_ne hentity rows
    have hsame : (store.put c).collection? entity = store.collection? entity := if_neg hentity
    rw [hother, add_empty, h entity, hsame]

theorem Represents.part_eq (h : db.Represents store) {entity : String}
    (hc : store.collection? entity = some c) : db.part c.schema.entity = c.tables := by
  rw [store.entity_eq hc, h entity, hc]
  rfl

theorem Represents.part_eq_empty (h : db.Represents store) {entity : String}
    (hnone : store.collection? entity = none) : db.part entity = Database.empty := by
  rw [h entity, hnone]
  rfl

theorem Represents.schema?_eq (h : db.Represents store) (entity : String) :
    db.schema? entity = .ok ((store.collection? entity).map (·.schema)) := by
  cases hc : store.collection? entity with
  | none => exact schema?_of_part_empty (h.part_eq_empty hc)
  | some c =>
    have hschema := schema?_of_part (h.part_eq hc)
    rw [store.entity_eq hc] at hschema
    exact hschema

/-- The schema that is read of an entity is that of its collection. -/
theorem Represents.schema_eq (h : db.Represents store) (entity : String) :
    db.schema entity =
      (store.collection? entity).elim (.error (.unknownEntity entity)) fun c => .ok c.schema := by
  rw [schema, h.schema?_eq]
  cases store.collection? entity <;> rfl

theorem Represents.schema_eq_ok_iff (h : db.Represents store) {entity : String} {schema : Schema} :
    db.schema entity = .ok schema ↔ ∃ c, store.collection? entity = some c ∧ c.schema = schema := by
  rw [h.schema_eq]
  cases store.collection? entity <;> simp

theorem Represents.schema_eq_error_iff (h : db.Represents store) {entity : String} {e : Error} :
    db.schema entity = .error e ↔ store.collection? entity = none ∧ .unknownEntity entity = e := by
  rw [h.schema_eq]
  cases store.collection? entity <;> simp

end Database

open Database

/-- The result of a write and of a change are the same, and the tables hold the store. -/
def Tracks {α : Type} (p : α × Database) (q : α × Store) : Prop :=
  p.1 = q.1 ∧ p.2.Represents q.2

/-! ## Registering -/

section

variable {db : Database} {store : Store} {c : Collection} {r : Record}

/-- The rows of an entity without records. -/
theorem part_tables_empty (schema : Schema) :
    (Collection.empty schema).tables.part schema.entity = (Collection.empty schema).tables := by
  have hattributes : ∀ row ∈ schema.attributes.mapIdx (Transaction.attributeRow schema.entity),
      decide (row.entity = schema.entity) = true := by
    intro row hrow
    obtain ⟨place, _, rfl⟩ := List.mem_mapIdx.1 hrow
    exact decide_eq_true rfl
  simp only [part, Collection.tables, Collection.empty, List.filter_eq_self.2 hattributes]
  simp

theorem run_storeEntity (schema : Schema) (db : Database) :
    (Transaction.storeEntity schema).run db = (db.schema? schema.entity).bind fun
      | some existing =>
        if existing = schema then .ok (true, db)
        else .error (.schema ("entity '" ++ schema.entity ++
          "' is already stored with a different schema"))
      | none => .ok (false, db.add (Collection.empty schema).tables) := by
  show ((db.schema? schema.entity).bind fun existing => .ok (existing, db)).bind _ = _
  cases db.schema? schema.entity with
  | error e => rfl
  | ok existing =>
    cases existing with
    | none =>
      simp only [add, Collection.tables, Collection.empty, List.mapIdx_nil, List.flatMap_nil,
        List.append_nil]
      rfl
    | some existing =>
      show (if existing = schema then _ else _ : Transaction Bool).run db =
        (if existing = schema then _ else _)
      split <;> rfl

theorem storeEntity_tracks (h : db.Represents store) (schema : Schema) :
    SameOutcome Tracks ((Transaction.storeEntity schema).run db) (store.register schema) := by
  rw [run_storeEntity, h.schema?_eq]
  rw [Store.register]
  cases hc : store.collection? schema.entity with
  | none =>
    refine .ok ⟨rfl, h.add (part_tables_empty schema) ?_⟩
    rw [Collection.empty, h.part_eq_empty hc, empty_add]
  | some c =>
    show SameOutcome Tracks (if c.schema = schema then .ok (true, db) else .error _)
      (if c.schema = schema then .ok (true, store) else .error _)
    split
    · exact .ok ⟨rfl, h⟩
    · exact .error _

/-! ## Putting records in -/

/-- The rows that a record adds to those of a collection. -/
def Collection.addedRows (c : Collection) (r : Record) : Database where
  entities := []
  attributes := []
  records := [recordRow c.schema.entity c.size r]
  values := valueRows c.schema.entity r

theorem tables_insert {d : Collection} (h : c.insert r = .ok d) :
    c.tables.add (c.addedRows r) = d.tables := by
  obtain ⟨-, -, hschema, hrecords⟩ := Collection.insert_eq_ok h
  simp only [Collection.tables, add, Collection.addedRows, hschema, hrecords, List.mapIdx_append,
    List.flatMap_append, List.flatMap_singleton, List.append_nil, List.mapIdx_singleton,
    Nat.zero_add]
  rfl

theorem part_addedRows (c : Collection) (r : Record) :
    (c.addedRows r).part c.schema.entity = c.addedRows r := by
  have hvalues : ∀ row ∈ Collection.valueRows c.schema.entity r,
      decide (row.entity = c.schema.entity) = true := by
    intro row hrow
    obtain ⟨_, -, rfl⟩ := List.mem_map.1 hrow
    exact decide_eq_true rfl
  simp [part, Collection.addedRows, List.filter_eq_self.2 hvalues, Collection.recordRow]

theorem mem_ordinals {c : Collection} {n : ℤ} :
    n ∈ c.tables.records.map (·.ordinal) ↔ 1 ≤ n ∧ n ≤ c.size := by
  have hsize : c.records.toList.length = c.size := rfl
  simp only [List.mem_map, Collection.tables, List.mem_mapIdx, hsize]
  constructor
  · rintro ⟨_, ⟨place, hplace, rfl⟩, rfl⟩
    simp only [Collection.recordRow]
    omega
  · rintro ⟨hpos, hle⟩
    refine ⟨_, ⟨(n - 1).toNat, by omega, rfl⟩, ?_⟩
    simp only [Collection.recordRow]
    omega

/-- The last ordinal is the number of records. -/
theorem lastOrdinal_of_part (h : db.part c.schema.entity = c.tables) :
    Transaction.lastOrdinal db c.schema.entity = c.size := by
  have hrecords : db.records.filter (·.entity = c.schema.entity) = c.tables.records :=
    congrArg records h
  rw [Transaction.lastOrdinal, hrecords]
  -- The ordinals are all numbers from one to the number of records, so this is their maximum.
  cases hmax : (c.tables.records.map (·.ordinal)).max? with
  | none =>
    have hnone : ∀ n : ℤ, n ∉ c.tables.records.map (·.ordinal) := by
      rw [List.max?_eq_none_iff.1 hmax]
      exact fun _ => List.not_mem_nil
    have hsize := hnone c.size
    rw [mem_ordinals] at hsize
    show (0 : ℤ) = c.size
    omega
  | some n =>
    obtain ⟨hmem, hmax⟩ := List.max?_eq_some_iff.1 hmax
    rw [mem_ordinals] at hmem
    have hsize := hmax c.size (mem_ordinals.2 (by omega))
    show n = c.size
    omega

/-- An identifier is found among the rows of records if it is taken in the collection. -/
theorem any_records_of_part (h : db.part c.schema.entity = c.tables) (id : RecordId) :
    (db.records.any fun row => row.entity = c.schema.entity && row.identity.same id.toCell) = true ↔
      id ∈ c.ids := by
  have hrecords : db.records.filter (·.entity = c.schema.entity) = c.tables.records :=
    congrArg records h
  have hany : ∀ identity, identity ∈ c.tables.records.map (·.identity) ↔
      ∃ r ∈ c.records.toList, r.id.toCell = identity := by
    intro identity
    rw [tables_identities, List.mem_map]
  rw [← List.any_filter, hrecords, List.any_eq_true, c.mem_ids, List.mem_map]
  constructor
  · rintro ⟨row, hrow, hsame⟩
    obtain ⟨r, hr, heq⟩ := (hany row.identity).1 (List.mem_map_of_mem hrow)
    rw [← heq] at hsame
    exact ⟨r, hr, RecordId.same_toCell.1 hsame⟩
  · rintro ⟨r, hr, rfl⟩
    obtain ⟨row, hrow, heq⟩ := List.mem_map.1 ((hany r.id.toCell).2 ⟨r, hr, rfl⟩)
    exact ⟨row, hrow, by rw [heq]; exact RecordId.same_toCell.2 rfl⟩

theorem run_insertValue {row : ValueRow}
    (hnew : ∀ other ∈ db.values, other.entity = row.entity →
      other.identity.same row.identity = true → other.name ≠ row.name) :
    (Transaction.insertValue row).run db = .ok ((), { db with values := db.values ++ [row] }) := by
  have htaken : (db.values.any fun other =>
      other.entity = row.entity && other.identity.same row.identity &&
        other.name = row.name) = false := by
    simp only [List.any_eq_false, Bool.and_eq_true, decide_eq_true_eq, not_and, and_imp]
    exact hnew
  rw [Transaction.insertValue]
  show (ite ((db.values.any fun other => other.entity = row.entity &&
    other.identity.same row.identity && other.name = row.name) = true) _ _ :
      Transaction Unit).run db = _
  rw [htaken]
  rfl

/-- Values of different attributes of a record are kept, where none of them has been kept before. -/
theorem run_forM_insertValue {entity : String} {identity : Cell} {bindings : List (String × Value)}
    (hnames : bindings.Pairwise (·.1 < ·.1))
    (hnew : ∀ row ∈ db.values, row.entity = entity → row.identity.same identity = true →
      ∀ b ∈ bindings, row.name ≠ b.1) :
    (bindings.forM fun (name, v) =>
        Transaction.insertValue ⟨entity, identity, name, v.toCell⟩).run db =
      .ok ((), { db with
        values := db.values ++
          bindings.map fun (name, v) => ⟨entity, identity, name, v.toCell⟩ }) := by
  induction bindings generalizing db with
  | nil =>
    rw [List.map_nil, List.append_nil]
    rfl
  | cons b bindings ih =>
    obtain ⟨hlt, hnames⟩ := List.pairwise_cons.1 hnames
    show ((Transaction.insertValue ⟨entity, identity, b.1, b.2.toCell⟩).run db).bind _ = _
    rw [run_insertValue fun row hrow hentity hsame =>
      hnew row hrow hentity hsame b List.mem_cons_self]
    refine (ih hnames ?_).trans ?_
    · intro row hrow hentity hsame b' hb'
      rcases List.mem_append.1 hrow with hrow | hrow
      · exact hnew row hrow hentity hsame b' (List.mem_cons_of_mem b hb')
      · -- The row that was just added has a name that comes before all others.
        rw [List.mem_singleton.1 hrow]
        exact (hlt b' hb').ne
    · rw [List.append_assoc]
      rfl

theorem insertRecord_tracks (h : db.Represents store)
    (hc : store.collection? c.schema.entity = some c) (hadmitted : c.schema.validate r = .ok ()) :
    SameOutcome (fun p later => p.2.Represents later) ((Transaction.insertRecord c.schema r).run db)
      (store.insert c.schema.entity r) := by
  have hpart := h.part_eq hc
  have hinsert : store.insert c.schema.entity r = (c.insert r).map store.put := by
    rw [Store.insert, hc]
  rw [hinsert]
  by_cases htaken : r.id ∈ c.ids
  · rw [Collection.insert_of_taken hadmitted htaken]
    have hrun : (Transaction.insertRecord c.schema r).run db =
        .error (.duplicateRecord c.schema.entity r.id.toText) := by
      show (ite ((db.records.any fun row => _) = true) _ _ : Transaction Unit).run db = _
      rw [if_pos ((any_records_of_part hpart r.id).2 htaken)]
      rfl
    rw [hrun]
    exact .error _
  · obtain ⟨d, hd⟩ := Collection.exists_insert_of_new hadmitted htaken
    rw [hd]
    have hrun : (Transaction.insertRecord c.schema r).run db =
        .ok ((), db.add (c.addedRows r)) := by
      show (ite ((db.records.any fun row => _) = true) _ _ : Transaction Unit).run db = _
      rw [if_neg (mt (any_records_of_part hpart r.id).1 htaken)]
      show (r.present.forM fun (name, v) =>
        Transaction.insertValue ⟨c.schema.entity, r.id.toCell, name, v.toCell⟩).run _ = _
      rw [lastOrdinal_of_part hpart, run_forM_insertValue r.present_pairwise]
      · simp only [add, Collection.addedRows, List.append_nil]
        rfl
      · -- A row with this identifier would be of a record with it, and there is none.
        intro row hrow hentity hsame
        obtain ⟨s, hs, _, _, rfl⟩ := exists_of_mem_values hpart hrow hentity
        rw [RecordId.same_toCell] at hsame
        exact absurd ((c.mem_ids r.id).2 (hsame ▸ List.mem_map_of_mem hs)) htaken
    rw [hrun]
    obtain ⟨-, -, hschema, -⟩ := Collection.insert_eq_ok hd
    refine .ok (Represents.add h ?_ ?_)
    · rw [hschema]
      exact part_addedRows c r
    · rw [hschema, hpart]
      exact tables_insert hd

/-- Records of the schema that is stored are put in one by one. -/
theorem forM_insertRecord_tracks {schema : Schema} {records : List Record} (h : db.Represents store)
    (hc : store.collection? schema.entity = some c) (hschema : c.schema = schema)
    (hadmitted : ∀ r ∈ records, schema.validate r = .ok ()) :
    SameOutcome (fun p later => p.2.Represents later)
      ((records.forM (Transaction.insertRecord schema)).run db)
      (records.foldlM (Store.insert schema.entity) store) := by
  induction records generalizing db store c with
  | nil => exact .ok h
  | cons r records ih =>
    obtain ⟨hr, hrecords⟩ := List.forall_mem_cons.1 hadmitted
    subst hschema
    have hfirst := insertRecord_tracks h hc hr
    show SameOutcome _
      (((Transaction.insertRecord c.schema r).run db).bind fun p =>
        (records.forM (Transaction.insertRecord c.schema)).run p.2)
      ((store.insert c.schema.entity r).bind (records.foldlM (Store.insert c.schema.entity)))
    generalize (Transaction.insertRecord c.schema r).run db = x at hfirst ⊢
    generalize hy : store.insert c.schema.entity r = y at hfirst ⊢
    cases hfirst with
    | error e => exact .error e
    | ok hnext =>
      -- The entity is still there, with its schema, for the records to come.
      obtain ⟨d, hd, hschema, -⟩ := Store.extends_of_leads (Store.leads_insert hy) _ _ hc
      exact ih hnext hd hschema hrecords

theorem storeCollection_tracks (h : db.Represents store) (c : Collection) (skipExisting : Bool) :
    SameOutcome Tracks ((Transaction.storeCollection c skipExisting).run db)
      (store.addCollection c skipExisting) := by
  have hadmitted : ∀ r ∈ c.records.toList, c.schema.validate r = .ok () := fun r hr =>
    Schema.validate_eq_ok_iff.2 (c.admitted r hr)
  have hfirst := storeEntity_tracks h c.schema
  show SameOutcome Tracks (((Transaction.storeEntity c.schema).run db).bind _)
    ((store.register c.schema).bind _)
  generalize (Transaction.storeEntity c.schema).run db = x at hfirst ⊢
  generalize hy : store.register c.schema = y at hfirst ⊢
  cases hfirst with
  | error e => exact .error e
  | @ok p q hpq =>
    obtain ⟨existed, db⟩ := p
    obtain ⟨_, registered⟩ := q
    obtain ⟨rfl, h⟩ := hpq
    obtain ⟨d, hd, hschema⟩ := Store.exists_of_register hy
    show SameOutcome Tracks ((ite _ _ _ : Transaction (Option ℕ)).run db) (ite _ _ _)
    split
    · exact .ok ⟨rfl, h⟩
    · show SameOutcome Tracks
        (((c.records.toList.forM (Transaction.insertRecord c.schema)).run db).bind fun p =>
          .ok (some c.size, p.2))
        ((c.records.toList.foldlM (Store.insert c.schema.entity) registered).bind fun store =>
          .ok (some c.size, store))
      exact .bind (forM_insertRecord_tracks h hd hschema hadmitted) fun _ _ h => .ok ⟨rfl, h⟩

/-! ## Transactions -/

theorem commit_tracks {α : Type} {t : Transaction α} {change : Except Error (α × Store)}
    (h : db.Represents store) (ht : SameOutcome Tracks (t.run db) change) :
    Tracks (t.commit db) (store.settle change) := by
  unfold Transaction.commit Store.settle
  generalize t.run db = x at ht ⊢
  cases ht with
  | error e => exact ⟨rfl, h⟩
  | ok hpq => exact ⟨congrArg Except.ok hpq.1, hpq.2⟩

theorem loadSeeds_tracks (h : db.Represents store) (seeds : List SeedEntity) :
    Tracks (loadSeeds seeds db) (store.loadSeeds seeds) := by
  induction seeds generalizing db store with
  | nil => exact ⟨rfl, h⟩
  | cons seed seeds ih =>
    rw [loadSeeds, Store.loadSeeds]
    cases seed.collection with
    | error e => exact ⟨rfl, h⟩
    | ok c =>
      have hfirst := commit_tracks h (storeCollection_tracks h c true)
      dsimp only
      generalize (Transaction.storeCollection c true).commit db = p at hfirst ⊢
      generalize store.settle (store.addCollection c true) = q at hfirst ⊢
      obtain ⟨answer, db⟩ := p
      obtain ⟨_, store⟩ := q
      obtain ⟨rfl, h⟩ := hfirst
      cases answer with
      | error e => exact ⟨rfl, h⟩
      | ok written =>
        obtain ⟨hanswer, hleft⟩ := ih h
        exact ⟨congrArg (Except.map (written.getD 0 + ·)) hanswer, hleft⟩

theorem loadSeed_tracks (h : db.Represents store) (document : String) :
    Tracks (loadSeed document db) (store.loadSeed document) := by
  rw [loadSeed, Store.loadSeed]
  cases SeedEntity.parseAll? document with
  | none => exact ⟨rfl, h⟩
  | some seeds => exact loadSeeds_tracks h seeds

theorem persistCollection_tracks (h : db.Represents store) (c : Collection) :
    Tracks (persistCollection c db)
      (store.settle ((store.addCollection c false).map fun q => (q.1.getD 0, q.2))) := by
  refine commit_tracks h ?_
  have hadd := storeCollection_tracks h c false
  rw [StateT.run_map]
  generalize (Transaction.storeCollection c false).run db = x at hadd ⊢
  generalize store.addCollection c false = y at hadd ⊢
  cases hadd with
  | error e => exact .error e
  | ok hpq => exact .ok ⟨congrArg (·.getD 0) hpq.1, hpq.2⟩

/-- A record has to fit the schema of its entity before anything is written. -/
theorem schemaFitting_eq (h : db.Represents store) (hc : store.collection? c.schema.entity = some c)
    (r : Record) :
    db.schemaFitting c.schema.entity r = (c.schema.validate r).map fun _ => c.schema := by
  rw [schemaFitting, h.schema_eq_ok_iff.2 ⟨c, hc, rfl⟩]
  show (c.schema.validate r).bind _ = _
  cases c.schema.validate r <;> rfl

theorem persistRecord_tracks (h : db.Represents store) (entity : String) (r : Record) :
    Tracks (persistRecord entity r db) (store.settle ((store.insert entity r).map ((), ·))) := by
  rw [persistRecord, Store.insert]
  cases hc : store.collection? entity with
  | none =>
    have hunknown : db.schemaFitting entity r = .error (.unknownEntity entity) := by
      rw [schemaFitting, h.schema_eq_error_iff.2 ⟨hc, rfl⟩]
      rfl
    rw [hunknown]
    exact ⟨rfl, h⟩
  | some c =>
    have hentity := store.entity_eq hc
    subst hentity
    rw [schemaFitting_eq h hc]
    cases hadmitted : c.schema.validate r with
    | error e =>
      dsimp only
      rw [Collection.insert_of_not_admitted hadmitted]
      exact ⟨rfl, h⟩
    | ok u =>
      refine commit_tracks h ?_
      have hinsert := insertRecord_tracks h hc hadmitted
      rw [Store.insert, hc] at hinsert
      dsimp only at hinsert ⊢
      generalize (Transaction.insertRecord c.schema r).run db = x at hinsert ⊢
      generalize (c.insert r).map store.put = y at hinsert ⊢
      cases hinsert with
      | error e => exact .error e
      | ok h => exact .ok ⟨rfl, h⟩

/-- An operation answers the same on tables and on the store that they hold, and leaves tables that
    hold the store that it leaves. -/
theorem run_tracks (h : db.Represents store) (operation : Operation) :
    Tracks (operation.run db) (operation.perform store) := by
  cases operation with
  | createEntity schema =>
    obtain ⟨hanswer, hleft⟩ := commit_tracks h (storeEntity_tracks h schema)
    exact ⟨congrArg (Except.map Outcome.registered) hanswer, hleft⟩
  | persistRecord entity r =>
    obtain ⟨hanswer, hleft⟩ := persistRecord_tracks h entity r
    exact ⟨congrArg (Except.map fun _ => Outcome.done) hanswer, hleft⟩
  | persistCollection c =>
    obtain ⟨hanswer, hleft⟩ := persistCollection_tracks h c
    exact ⟨congrArg (Except.map Outcome.written) hanswer, hleft⟩
  | loadSeed document =>
    obtain ⟨hanswer, hleft⟩ := loadSeed_tracks h document
    exact ⟨congrArg (Except.map Outcome.written) hanswer, hleft⟩
  | reopen => exact ⟨rfl, h⟩

end

end PagedQuery
