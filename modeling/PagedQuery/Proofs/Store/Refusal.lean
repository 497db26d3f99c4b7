import Mathlib
import PagedQuery.Proofs.Store.Growth

/-!
# Writes that are refused

A write on a database either comes to pass or leaves the tables as they were, however far it had got
before it failed. Of a collection whose entity is stored, any number of records may have been put in
when one comes whose identifier is taken; all of them are gone afterwards.

* `Database.Refuses`: why a write fails, in terms of what can be read of the database before it;
* `exists_split_of_forM_error`: writes made one after the other fail at one of them, when those
  before it have been made;
* `refused_write_leaves_no_trace`: a write fails exactly where it is refused, and then nothing that
  is asked of the database later can tell that it was tried.
-/

namespace PagedQuery

/-- What to say of an entity that is stored with another schema. -/
def Error.otherSchema (entity : String) : Error :=
  .schema ("entity '" ++ entity ++ "' is already stored with a different schema")

/-! ## Refusals of a store -/

namespace Store

variable {store : Store} {c : Collection} {schema : Schema} {entity : String} {r : Record}
  {before rest : List Record} {e : Error}

theorem register_eq_error_iff : store.register schema = .error e ↔
    ∃ c, store.collection? schema.entity = some c ∧ c.schema ≠ schema ∧
      e = .otherSchema schema.entity := by
  rw [register]
  cases store.collection? schema.entity with
  | none => simp
  | some c =>
    by_cases hschema : c.schema = schema
    · simp [hschema]
    · have hsome : (∃ d, some c = some d ∧ d.schema ≠ schema ∧ e = .otherSchema schema.entity) ↔
          e = .otherSchema schema.entity := by simp [hschema]
      rw [hsome]
      simp only [if_neg hschema, Except.error.injEq]
      exact eq_comm

theorem insert_of_none (hnone : store.collection? entity = none) :
    store.insert entity r = .error (.unknownEntity entity) := by
  rw [insert, hnone]

theorem insert_eq_error_iff (hc : store.collection? entity = some c) :
    store.insert entity r = .error e ↔ c.schema.validate r = .error e ∨
      c.schema.validate r = .ok () ∧ r.id ∈ c.ids ∧ e = .duplicateRecord entity r.id.toText := by
  have hentity := store.entity_eq hc
  subst hentity
  rw [insert, hc]
  dsimp only
  rw [map_eq_error]
  cases hadmitted : c.schema.validate r with
  | error e' => rw [Collection.insert_of_not_admitted hadmitted]; simp
  | ok u =>
    by_cases htaken : r.id ∈ c.ids
    · rw [Collection.insert_of_taken hadmitted htaken]
      simp [htaken, eq_comm]
    · obtain ⟨d, hd⟩ := Collection.exists_insert_of_new hadmitted htaken
      simp [hd, htaken]

/-- Records that fit and have different identifiers are stopped by the first one whose identifier is
    taken, if there is one. -/
theorem foldlM_insert_eq_error_iff {records : List Record}
    (hc : store.collection? c.schema.entity = some c)
    (hadmitted : ∀ s ∈ records, c.schema.validate s = .ok ())
    (hids : (records.map (·.id)).Nodup) :
    records.foldlM (insert c.schema.entity) store = .error e ↔
      ∃ before r rest, records = before ++ r :: rest ∧ (∀ s ∈ before, s.id ∉ c.ids) ∧
        r.id ∈ c.ids ∧ e = .duplicateRecord c.schema.entity r.id.toText := by
  rw [foldlM_insert_eq hc, map_eq_error, Collection.foldlM_insert_eq_error_iff hadmitted]
  refine exists₃_congr fun before r rest => and_congr_right fun hrecords => ?_
  -- The records that come in have different identifiers, so one that is taken is taken in `c`.
  rw [hrecords, List.map_append, List.map_cons, List.nodup_append] at hids
  obtain ⟨hbefore, -, hapart⟩ := hids
  have hr : r.id ∉ before.map (·.id) := fun hmem => hapart _ hmem _ List.mem_cons_self rfl
  simp only [List.map_append, List.mem_append, hr, or_false, ← c.mem_ids, ← and_assoc]
  refine and_congr_left fun _ => and_congr_left fun _ => ?_
  rw [List.nodup_append]
  constructor
  · rintro ⟨-, -, hnew⟩ s hs htaken
    exact hnew _ ((c.mem_ids s.id).1 htaken) _ (List.mem_map_of_mem hs) rfl
  · intro hnew
    refine ⟨c.ids_distinct, hbefore, ?_⟩
    rintro i hi _ hmem rfl
    obtain ⟨s, hs, rfl⟩ := List.mem_map.1 hmem
    exact hnew s hs ((c.mem_ids s.id).2 hi)

theorem settle_fst_eq_error_iff {α : Type} {change : Except Error (α × Store)} :
    (store.settle change).1 = .error e ↔ change = .error e := by
  cases change <;> simp [settle]

variable {d : Collection} (hd : store.collection? c.schema.entity = some d)

include hd

theorem addCollection_of_other (hschema : d.schema ≠ c.schema) (skipExisting : Bool) :
    store.addCollection c skipExisting = .error (.otherSchema c.schema.entity) := by
  rw [addCollection, register_eq_error_iff.2 ⟨d, hd, hschema, rfl⟩]
  rfl

theorem register_of_same (hschema : d.schema = c.schema) :
    store.register c.schema = .ok (true, store) := by
  rw [register, hd]
  exact if_pos hschema

theorem addCollection_of_same (hschema : d.schema = c.schema) :
    store.addCollection c false =
      (c.records.toList.foldlM (insert c.schema.entity) store).map (some c.size, ·) := by
  rw [addCollection, register_of_same hd hschema]
  show (c.records.toList.foldlM (insert c.schema.entity) store).bind _ = _
  cases c.records.toList.foldlM (insert c.schema.entity) store <;> rfl

end Store

/-! ## Refusals of a database -/

namespace Database

variable {db written : Database} {store : Store} {c : Collection} {schema : Schema}
  {operation : Operation} {r : Record} {e : Error}

/-- Why a write fails. -/
inductive Refuses (db : Database) : Operation → Error → Prop
  /-- An entity that is to be registered is stored with another schema. -/
  | entity {schema other : Schema} : db.schema schema.entity = .ok other → other ≠ schema →
      db.Refuses (.createEntity schema) (.otherSchema schema.entity)
  /-- A record comes for an entity that is not stored. -/
  | unknown {entity : String} {r : Record} : db.schema entity = .error (.unknownEntity entity) →
      db.Refuses (.persistRecord entity r) (.unknownEntity entity)
  /-- A record has an attribute that is not declared, or a value of another kind. -/
  | misfit {entity : String} {schema : Schema} {r : Record} {e : Error} :
      db.schema entity = .ok schema → schema.validate r = .error e →
      db.Refuses (.persistRecord entity r) e
  /-- A record fits, but has the identifier of one that is stored. -/
  | taken {entity : String} {schema : Schema} {records : List Record} {r : Record} :
      db.schema entity = .ok schema → schema.validate r = .ok () → db.scan schema = .ok records →
      r.id ∈ records.map (·.id) →
      db.Refuses (.persistRecord entity r) (.duplicateRecord entity r.id.toText)
  /-- The entity of a collection is stored with another schema. -/
  | collection {c : Collection} {other : Schema} : db.schema c.schema.entity = .ok other →
      other ≠ c.schema → db.Refuses (.persistCollection c) (.otherSchema c.schema.entity)
  /-- A record of a collection, the first such one, has the identifier of one that is stored. -/
  | takenAmong {c : Collection} {records before rest : List Record} {r : Record} :
      db.schema c.schema.entity = .ok c.schema → db.scan c.schema = .ok records →
      c.records.toList = before ++ r :: rest → (∀ s ∈ before, s.id ∉ records.map (·.id)) →
      r.id ∈ records.map (·.id) →
      db.Refuses (.persistCollection c) (.duplicateRecord c.schema.entity r.id.toText)

/-- The identifiers that are read of an entity are those of its collection. -/
theorem Represents.exists_scan (h : db.Represents store) {entity : String}
    (hc : store.collection? entity = some c) :
    ∃ records, db.scan c.schema = .ok records ∧
      records.map (·.id) = c.records.toList.map (·.id) := by
  obtain ⟨records, hsource, hall, -⟩ := h.reflects.source entity c hc
  exact ⟨records, (source_eq_ok_iff.1 hsource).2, map_id_eq_of_agrees hall⟩

theorem Represents.createEntity_eq_error_iff (h : db.Represents store) :
    ((Operation.createEntity schema).run db).1 = .error e ↔
      db.Refuses (.createEntity schema) e := by
  rw [(run_tracks h _).1]
  show ((store.settle (store.register schema)).1.map Outcome.registered) = _ ↔ _
  rw [map_eq_error, Store.settle_fst_eq_error_iff, Store.register_eq_error_iff]
  constructor
  · rintro ⟨c, hc, hschema, rfl⟩
    exact .entity (h.schema_eq_ok_iff.2 ⟨c, hc, rfl⟩) hschema
  · intro hrefuses
    cases hrefuses with
    | entity hother hschema =>
      obtain ⟨c, hc, rfl⟩ := h.schema_eq_ok_iff.1 hother
      exact ⟨c, hc, hschema, rfl⟩

theorem Represents.persistRecord_eq_error_iff (h : db.Represents store) {entity : String} :
    ((Operation.persistRecord entity r).run db).1 = .error e ↔
      db.Refuses (.persistRecord entity r) e := by
  rw [(run_tracks h _).1]
  show ((store.settle ((store.insert entity r).map ((), ·))).1.map fun _ => Outcome.done) = _ ↔ _
  rw [map_eq_error, Store.settle_fst_eq_error_iff, map_eq_error]
  cases hc : store.collection? entity with
  | none =>
    have hunknown := h.schema_eq_error_iff.2 ⟨hc, rfl⟩
    rw [Store.insert_of_none hc]
    constructor
    · rintro ⟨⟩
      exact .unknown hunknown
    · intro hrefuses
      cases hrefuses with
      | unknown _ => rfl
      | misfit hschema _ => cases hunknown.symm.trans hschema
      | taken hschema _ _ _ => cases hunknown.symm.trans hschema
  | some c =>
    have hschema : db.schema entity = .ok c.schema := h.schema_eq_ok_iff.2 ⟨c, hc, rfl⟩
    obtain ⟨records, hrecords, hids⟩ := h.exists_scan hc
    rw [Store.insert_eq_error_iff hc]
    constructor
    · rintro (hmisfit | ⟨hadmitted, htaken, rfl⟩)
      · exact .misfit hschema hmisfit
      · exact .taken hschema hadmitted hrecords (hids ▸ (c.mem_ids r.id).1 htaken)
    · intro hrefuses
      cases hrefuses with
      | unknown hunknown => cases hunknown.symm.trans hschema
      | misfit hsame hmisfit =>
        cases hsame.symm.trans hschema
        exact .inl hmisfit
      | taken hsame hadmitted hscan htaken =>
        cases hsame.symm.trans hschema
        cases hscan.symm.trans hrecords
        exact .inr ⟨hadmitted, (c.mem_ids r.id).2 (hids ▸ htaken), rfl⟩

theorem Represents.persistCollection_eq_error_iff (h : db.Represents store) :
    ((Operation.persistCollection c).run db).1 = .error e ↔
      db.Refuses (.persistCollection c) e := by
  rw [(run_tracks h _).1]
  show ((store.settle ((store.addCollection c false).map fun q => (q.1.getD 0, q.2))).1.map
    Outcome.written) = _ ↔ _
  rw [map_eq_error, Store.settle_fst_eq_error_iff, map_eq_error]
  cases hd : store.collection? c.schema.entity with
  | none =>
    have hunknown := h.schema_eq_error_iff.2 ⟨hd, rfl⟩
    obtain ⟨_, _, hadded, -⟩ := Store.exists_addCollection hd false
    rw [hadded]
    refine ⟨nofun, fun hrefuses => ?_⟩
    cases hrefuses with
    | collection hschema _ => cases hunknown.symm.trans hschema
    | takenAmong hschema _ _ _ _ => cases hunknown.symm.trans hschema
  | some d =>
    have hschema : db.schema c.schema.entity = .ok d.schema := h.schema_eq_ok_iff.2 ⟨d, hd, rfl⟩
    by_cases hsame : d.schema = c.schema
    · obtain ⟨records, hrecords, hids⟩ := h.exists_scan hd
      rw [hsame] at hschema hrecords
      have hentity : store.collection? d.schema.entity = some d := by rwa [hsame]
      have hadmitted : ∀ r ∈ c.records.toList, d.schema.validate r = .ok () := fun r hr =>
        Schema.validate_eq_ok_iff.2 (hsame ▸ c.admitted r hr)
      have hstops := Store.foldlM_insert_eq_error_iff (e := e) hentity hadmitted c.ids_distinct
      rw [hsame] at hstops
      rw [Store.addCollection_of_same hd hsame, map_eq_error, hstops]
      simp only [d.mem_ids, ← hids]
      constructor
      · rintro ⟨before, r, rest, hsplit, hnew, htaken, rfl⟩
        exact .takenAmong hschema hrecords hsplit hnew htaken
      · intro hrefuses
        cases hrefuses with
        | collection hother hne => exact absurd (Except.ok.inj (hother.symm.trans hschema)) hne
        | takenAmong _ hscan hsplit hnew htaken =>
          cases hscan.symm.trans hrecords
          exact ⟨_, _, _, hsplit, hnew, htaken, rfl⟩
    · rw [Store.addCollection_of_other hd hsame]
      constructor
      · rintro ⟨⟩
        exact .collection hschema hsame
      · intro hrefuses
        cases hrefuses with
        | collection _ _ => rfl
        | takenAmong hother _ _ _ _ =>
          exact absurd (Except.ok.inj (hschema.symm.trans hother)) hsame

theorem Represents.refuses_iff (h : db.Represents store)
    (hwrite : ∀ document, operation ≠ .loadSeed document) :
    (operation.run db).1 = .error e ↔ db.Refuses operation e := by
  cases operation with
  | createEntity schema => exact h.createEntity_eq_error_iff
  | persistRecord entity r => exact h.persistRecord_eq_error_iff
  | persistCollection c => exact h.persistCollection_eq_error_iff
  | loadSeed document => exact absurd rfl (hwrite document)
  | reopen => exact ⟨nofun, nofun⟩

end Database

/-! ## Transactions that stop -/

namespace Transaction

variable {α : Type} {db written : Database} {schema : Schema} {r : Record} {e : Error}

theorem commit_fst_eq_error_iff {t : Transaction α} :
    (t.commit db).1 = .error e ↔ t.run db = .error e := by
  unfold commit
  cases t.run db <;> simp

theorem commit_snd_of_error {t : Transaction α} (h : (t.commit db).1 = .error e) :
    (t.commit db).2 = db := by
  rw [commit_fst_eq_error_iff] at h
  rw [commit, h]

theorem run_storeEntity_of_same (hschema : db.schema? schema.entity = .ok (some schema)) :
    (storeEntity schema).run db = .ok (true, db) := by
  rw [run_storeEntity, hschema]
  exact if_pos rfl

/-- Where its entity is stored with the same schema, a collection is passed over if existing
    entities are to be skipped. -/
theorem run_storeCollection_skip {c : Collection}
    (hschema : db.schema? c.schema.entity = .ok (some c.schema)) :
    (storeCollection c true).run db = .ok (none, db) := by
  show ((storeEntity c.schema).run db).bind _ = _
  rw [run_storeEntity_of_same hschema]
  rfl

/-- Once its entity has been registered, a collection is written record by record. -/
theorem run_storeCollection_of_ok {c : Collection} {existed : Bool}
    (h : (storeEntity c.schema).run db = .ok (existed, written)) :
    (storeCollection c false).run db =
      ((c.records.toList.forM (insertRecord c.schema)).run written).map fun p =>
        (some c.size, p.2) := by
  show ((storeEntity c.schema).run db).bind _ = _
  rw [h]
  show ((if (existed && false) = true then _ else _ : Transaction (Option ℕ)).run written) = _
  rw [Bool.and_false, if_neg Bool.false_ne_true]
  show ((c.records.toList.forM (insertRecord c.schema)).run written).bind _ = _
  cases (c.records.toList.forM (insertRecord c.schema)).run written <;> rfl

/-- Writes that are made one after the other fail at one of them, on the tables that the writes
    before it have left. -/
theorem exists_split_of_forM_error {write : α → Transaction Unit} {l : List α}
    (h : (l.forM write).run db = .error e) :
    ∃ before a rest written, l = before ++ a :: rest ∧
      (before.forM write).run db = .ok ((), written) ∧ (write a).run written = .error e := by
  induction l generalizing db with
  | nil => cases h
  | cons a l ih =>
    rw [List.forM_eq_forM, List.forM_cons, StateT.run_bind] at h
    rcases bind_eq_error.1 h with hfirst | ⟨⟨u, next⟩, hfirst, hrest⟩
    · exact ⟨[], a, l, db, rfl, rfl, hfirst⟩
    · obtain ⟨before, b, rest, written, rfl, hbefore, hb⟩ := ih hrest
      refine ⟨a :: before, b, rest, written, rfl, ?_, hb⟩
      rw [List.forM_eq_forM, List.forM_cons, StateT.run_bind, hfirst]
      exact hbefore

end Transaction

namespace Database

variable {db : Database} {store : Store} {c d : Collection} {e : Error}

theorem persistRecord_snd_of_error {entity : String} {r : Record}
    (h : (db.persistRecord entity r).1 = .error e) : (db.persistRecord entity r).2 = db := by
  rw [persistRecord] at h ⊢
  cases hschema : db.schemaFitting entity r with
  | error e' => rfl
  | ok schema =>
    rw [hschema] at h
    exact Transaction.commit_snd_of_error h

/-- The writes of a collection whose entity is stored fail at one of its records. On the tables that
    the transaction works on the records before it are there, behind those that are stored. -/
def StopsWithin (db : Database) (c : Collection) (e : Error) : Prop :=
  ∃ before r rest written, c.records.toList = before ++ r :: rest ∧
    (before.forM (Transaction.insertRecord c.schema)).run db = .ok ((), written) ∧
    (∃ records added, db.scan c.schema = .ok records ∧
      written.scan c.schema = .ok (records ++ added) ∧ added.map (·.id) = before.map (·.id)) ∧
    (Transaction.insertRecord c.schema r).run written = .error e

theorem Represents.stopsWithin (h : db.Represents store)
    (hd : store.collection? c.schema.entity = some d) (hsame : d.schema = c.schema)
    (herror : ((Operation.persistCollection c).run db).1 = .error e) : db.StopsWithin c e := by
  have hrun : (c.records.toList.forM (Transaction.insertRecord c.schema)).run db = .error e := by
    have hschema : db.schema? c.schema.entity = .ok (some c.schema) := by
      rw [h.schema?_eq, hd, Option.map_some, hsame]
    have hentity := Transaction.run_storeEntity_of_same hschema
    have herror : (db.persistCollection c).1 = .error e := map_eq_error.1 herror
    rw [persistCollection, Transaction.commit_fst_eq_error_iff, StateT.run_map,
      Transaction.run_storeCollection_of_ok hentity] at herror
    exact map_eq_error.1 (map_eq_error.1 herror)
  obtain ⟨before, r, rest, written, hsplit, hbefore, hr⟩ :=
    Transaction.exists_split_of_forM_error hrun
  have hadmitted : ∀ s ∈ before, c.schema.validate s = .ok () := fun s hs =>
    Schema.validate_eq_ok_iff.2 (c.admitted s (hsplit ▸ List.mem_append_left _ hs))
  have htracks := forM_insertRecord_tracks h hd hsame hadmitted
  rw [hbefore] at htracks
  generalize hmid : before.foldlM (Store.insert c.schema.entity) store = change at htracks
  cases htracks with
  | @ok _ mid hwritten =>
    obtain ⟨m, hm, hschema, hrecords⟩ := Store.collection?_of_foldlM_insert hmid hd
    refine ⟨before, r, rest, written, hsplit, hbefore, ?_, hr⟩
    have hextends := h.extends_of_extends hwritten
      (Store.extends_of_leads (Store.leads_foldlM_insert hmid))
    obtain ⟨-, records, added, hscan, hadded⟩ :=
      hextends c.schema.entity c.schema (h.schema_eq_ok_iff.2 ⟨d, hd, hsame⟩)
    refine ⟨records, added, hscan, hadded, ?_⟩
    obtain ⟨read, hread, hids⟩ := h.exists_scan hd
    obtain ⟨reread, hreread, hmids⟩ := hwritten.exists_scan hm
    rw [hsame, hscan] at hread
    rw [hschema, hsame, hadded] at hreread
    cases hread
    cases hreread
    rw [List.map_append, hrecords, List.map_append, hids] at hmids
    exact List.append_cancel_left hmids

end Database

/-- A write on a database that only operations have changed fails exactly where it is refused. The
    tables are then as they were, also where records had been put in before the one that is refused,
    so whatever is done later ends and answers as if the write had never been tried. -/
theorem refused_write_leaves_no_trace {db : Database} (h : db.Reachable) {operation : Operation}
    (hwrite : ∀ document, operation ≠ .loadSeed document) (e : Error) :
    ((operation.run db).1 = .error e ↔ db.Refuses operation e) ∧
      ((operation.run db).1 = .error e → (operation.run db).2 = db ∧
        (∀ operations, db.answers (operation :: operations) = .error e :: db.answers operations ∧
          db.after (operation :: operations) = db.after operations) ∧
        ∀ c, operation = .persistCollection c → db.schema c.schema.entity = .ok c.schema →
          db.StopsWithin c e) := by
  obtain ⟨store, h⟩ := h.exists_represents
  refine ⟨h.refuses_iff hwrite, fun herror => ?_⟩
  have hsame : (operation.run db).2 = db := by
    cases operation with
    | createEntity schema => exact Transaction.commit_snd_of_error (map_eq_error.1 herror)
    | persistRecord entity r => exact Database.persistRecord_snd_of_error (map_eq_error.1 herror)
    | persistCollection c => exact Transaction.commit_snd_of_error (map_eq_error.1 herror)
    | loadSeed document => exact absurd rfl (hwrite document)
    | reopen => rfl
  refine ⟨hsame, fun operations => ⟨?_, ?_⟩, ?_⟩
  · rw [Database.answers, herror, hsame]
  · show (operation.run db).2.after operations = db.after operations
    rw [hsame]
  · rintro c rfl hschema
    obtain ⟨d, hd, hd'⟩ := h.schema_eq_ok_iff.1 hschema
    exact h.stopsWithin hd hd' herror

/-- Two more offers, the second with an identifier that one of the three has. -/
def lateOffers : Collection :=
  .ofFitting threeOffers.schema
    [.ofList (.integer 3) [("MaxQty", .integer 40)], .ofList (.text "1") []]
    (by intro r hr; fin_cases hr <;> rfl) (by decide)

/-- The two are refused where the three are stored, and neither of them is there afterwards. -/
theorem lateOffers_refused :
    ∃ db, db = Database.empty.after [.persistCollection threeOffers] ∧
      ((Operation.persistCollection lateOffers).run db).1 =
        .error (.duplicateRecord "Offer" "1") ∧
      ((Operation.persistCollection lateOffers).run db).2 = db ∧
      db.StopsWithin lateOffers (.duplicateRecord "Offer" "1") := by
  obtain ⟨records, hschema, hscan, hall⟩ := exists_scan_of_persistCollection threeOffers
  have hids : records.map (·.id) = [.integer 1, .text "1", .integer 2] := map_id_eq_of_agrees hall
  have hsplit : lateOffers.records.toList =
      [.ofList (.integer 3) [("MaxQty", .integer 40)]] ++ .ofList (.text "1") [] :: [] := rfl
  have hwrite : ∀ document, Operation.persistCollection lateOffers ≠ .loadSeed document := nofun
  obtain ⟨hrefused, htrace⟩ :=
    refused_write_leaves_no_trace (.of_run [.persistCollection threeOffers]) hwrite
      (.duplicateRecord "Offer" "1")
  have herror := hrefused.2 (.takenAmong (c := lateOffers) hschema hscan hsplit
    (by rw [hids]; decide) (by rw [hids]; decide))
  obtain ⟨hsame, -, hstops⟩ := htrace herror
  exact ⟨_, rfl, herror, hsame, hstops lateOffers rfl hschema⟩

end PagedQuery
