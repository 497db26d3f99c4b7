import Mathlib
import PagedQuery.Database.Shared
import PagedQuery.Proofs.Store.Growth

/-!
# Calls one after the other

What calls come to when each has the database to itself from its beginning to its end. Between the
beginning and the end of such a run an entity gets the records that its calls have put in, in their
order, and nothing else happens to it.

* `Completed`, `Database.Runs`: calls with their answers, and runs of them;
* `Completed.inserted`, `Database.stored`: the records that a call has put into an entity, and those
  that are there;
* `Database.Keeps`, `Represents.keeps`: every record that was put in is there at the end of a run,
  once, and fits.
-/

namespace PagedQuery

/-! ## Records of a store -/

namespace Store

variable {store later : Store} {c : Collection} {entity : String} {r : Record}

/-- The records of an entity; there are none if it is not registered. -/
def records (store : Store) (entity : String) : List Record :=
  (store.collection? entity).elim [] (·.records.toList)

theorem records_of_collection? (hc : store.collection? entity = some c) :
    store.records entity = c.records.toList := by
  rw [records, hc]
  rfl

theorem exists_of_mem_records (hr : r ∈ store.records entity) :
    ∃ c, store.collection? entity = some c ∧ r ∈ c.records.toList := by
  cases hc : store.collection? entity with
  | none =>
    rw [records, hc] at hr
    cases hr
  | some c => exact ⟨c, rfl, records_of_collection? hc ▸ hr⟩

theorem records_distinct (store : Store) (entity : String) :
    ((store.records entity).map (·.id)).Nodup := by
  cases hc : store.collection? entity with
  | none =>
    rw [records, hc]
    exact .nil
  | some c =>
    rw [records_of_collection? hc]
    exact c.ids_distinct

theorem records_put (store : Store) (c : Collection) (entity : String) :
    (store.put c).records entity =
      if c.schema.entity = entity then c.records.toList else store.records entity := by
  simp only [records, put, eq_comm]
  split <;> rfl

theorem records_register {schema : Schema} {existed : Bool}
    (h : store.register schema = .ok (existed, later)) (entity : String) :
    later.records entity = store.records entity := by
  rw [register] at h
  split at h
  · next hnone =>
    cases h
    rw [records_put]
    split
    · next heq =>
      subst heq
      show [] = (store.collection? schema.entity).elim [] _
      rw [hnone]
      rfl
    · rfl
  · split at h <;> cases h
    rfl

theorem records_insert (h : store.insert entity r = .ok later) (other : String) :
    later.records other = store.records other ++ if entity = other then [r] else [] := by
  rw [insert] at h
  split at h
  · cases h
  · next c hc =>
    obtain ⟨d, hd, rfl⟩ := map_eq_ok.1 h
    obtain ⟨-, -, hschema, hrecords⟩ := Collection.insert_eq_ok hd
    rw [records_put, hschema, store.entity_eq hc, hrecords]
    split
    · next heq => rw [← heq, records_of_collection? hc]
    · rw [List.append_nil]

theorem records_foldlM_insert {added : List Record}
    (h : added.foldlM (insert entity) store = .ok later) (other : String) :
    later.records other = store.records other ++ if entity = other then added else [] := by
  induction added generalizing store with
  | nil =>
    cases h
    rw [ite_self, List.append_nil]
  | cons r added ih =>
    obtain ⟨next, hnext, h⟩ := bind_eq_ok.1 h
    rw [ih h, records_insert hnext, List.append_assoc]
    split <;> rfl

theorem records_addCollection {written : Option ℕ}
    (h : store.addCollection c false = .ok (written, later)) (entity : String) :
    later.records entity =
      store.records entity ++ if c.schema.entity = entity then c.records.toList else [] := by
  obtain ⟨⟨existed, registered⟩, hregistered, h⟩ := bind_eq_ok.1 h
  simp only [Bool.and_false] at h
  obtain ⟨filled, hfilled, h⟩ := bind_eq_ok.1 h
  cases h
  rw [records_foldlM_insert hfilled, records_register hregistered]

end Store

/-! ## Runs of calls -/

/-- The records that a call puts into an entity if it succeeds. -/
def Call.recordsFor (entity : String) : Call → List Record
  | persistRecord other r => if other = entity then [r] else []
  | persistCollection c => if c.schema.entity = entity then c.records.toList else []
  | _ => []

/-- A call that has come to its end, with its answer. -/
structure Completed where
  ticket : ℕ
  call : Call
  answer : Except Error Reply

/-- The records that a call has put into an entity. -/
def Completed.inserted (x : Completed) (entity : String) : List Record :=
  match x.answer with
  | .ok _ => x.call.recordsFor entity
  | .error _ => []

theorem Completed.inserted_of_nil {x : Completed} {entity : String}
    (h : x.call.recordsFor entity = []) : x.inserted entity = [] := by
  rw [inserted, h]
  split <;> rfl

namespace Database

/-- Calls that are made one after the other, from the first database to the last. -/
inductive Runs : Database → List Completed → Database → Prop
  | nil (db : Database) : Runs db [] db
  | cons {db next last : Database} {x : Completed} {order : List Completed} :
      x.call.run db = (x.answer, next) → Runs next order last → Runs db (x :: order) last

/-- The records of an entity; there are none if it cannot be read. -/
def stored (db : Database) (entity : String) : List Record :=
  match db.source entity with
  | .ok ⟨_, .ok records⟩ => records
  | _ => []

variable {db next last : Database} {store later : Store} {x : Completed} {order : List Completed}
  {schema : Schema} {entity : String}

theorem Runs.concat (h : db.Runs order next) (hx : x.call.run next = (x.answer, last)) :
    db.Runs (order ++ [x]) last := by
  induction h with
  | nil db => exact .cons hx (.nil last)
  | cons hfirst _ ih => exact .cons hfirst (ih hx)

/-- A write that keeps to a change of the store leaves the records that the change does. -/
theorem exists_of_tracks {α : Type} {p : Except Error α × Database}
    {change : Except Error (α × Store)} (h : Tracks p (store.settle change)) (call : Call)
    (hchange : ∀ a later, change = .ok (a, later) → store.Extends later ∧
      ∀ entity, later.records entity = store.records entity ++ call.recordsFor entity)
    (ticket : ℕ) (reply : α → Reply) :
    ∃ later, p.2.Represents later ∧ store.Extends later ∧ ∀ entity, later.records entity =
      store.records entity ++ Completed.inserted ⟨ticket, call, p.1.map reply⟩ entity := by
  obtain ⟨answer, left⟩ := p
  obtain ⟨hanswer, hleft⟩ := h
  cases change with
  | error e =>
    cases hanswer
    exact ⟨store, hleft, .refl store, fun _ => (List.append_nil _).symm⟩
  | ok q =>
    cases hanswer
    obtain ⟨hextends, hrecords⟩ := hchange q.1 q.2 rfl
    exact ⟨q.2, hleft, hextends, hrecords⟩

/-- A call on tables that hold a store leaves tables that hold one, with the records that the call
    has put in. -/
theorem Represents.exists_of_call (h : db.Represents store)
    (hx : x.call.run db = (x.answer, last)) :
    ∃ later, last.Represents later ∧ store.Extends later ∧
      ∀ entity, later.records entity = store.records entity ++ x.inserted entity := by
  obtain ⟨ticket, call, answer⟩ := x
  cases call with
  | createEntity schema =>
    cases hx
    refine exists_of_tracks (commit_tracks h (storeEntity_tracks h schema)) _ ?_ ticket .registered
    intro existed later hregister
    refine ⟨Store.extends_of_leads (Store.leads_register hregister), fun entity => ?_⟩
    exact (Store.records_register hregister entity).trans (List.append_nil _).symm
  | persistRecord entity r =>
    cases hx
    refine exists_of_tracks (persistRecord_tracks h entity r) _ ?_ ticket fun _ => .done
    intro _ later hinserted
    obtain ⟨_, hinsert, ⟨⟩⟩ := map_eq_ok.1 hinserted
    exact ⟨Store.extends_of_leads (Store.leads_insert hinsert), Store.records_insert hinsert⟩
  | persistCollection c =>
    cases hx
    refine exists_of_tracks (persistCollection_tracks h c) _ ?_ ticket .written
    intro _ later hadded
    obtain ⟨⟨_, _⟩, hadd, ⟨⟩⟩ := map_eq_ok.1 hadded
    have hextends := Store.extends_of_leads (Store.leads_addCollection hadd)
    exact ⟨hextends, Store.records_addCollection hadd⟩
  | openSource | scan =>
    cases hx
    refine ⟨store, h, .refl store, fun entity => ?_⟩
    rw [Completed.inserted_of_nil rfl, List.append_nil]

theorem Represents.exists_of_runs (h : db.Represents store) (hruns : db.Runs order last) :
    ∃ later, last.Represents later ∧ store.Extends later ∧ ∀ entity, later.records entity =
      store.records entity ++ order.flatMap (·.inserted entity) := by
  induction hruns generalizing store with
  | nil db => exact ⟨store, h, .refl store, fun _ => (List.append_nil _).symm⟩
  | cons hx _ ih =>
    obtain ⟨mid, hmid, hextends, hrecords⟩ := h.exists_of_call hx
    obtain ⟨later, hlater, hextends', hrecords'⟩ := ih hmid
    refine ⟨later, hlater, hextends.trans hextends', fun entity => ?_⟩
    rw [hrecords', hrecords, List.append_assoc, List.flatMap_cons]

/-! ## Sources -/

/-- The schema that a record has been found to fit is that of its entity. -/
theorem Represents.schemaFitting_eq_ok (h : db.Represents store) {r : Record}
    (hfits : db.schemaFitting entity r = .ok schema) :
    schema.entity = entity ∧ db.schema entity = .ok schema ∧ schema.validate r = .ok () := by
  obtain ⟨_, hschema, hfits⟩ := bind_eq_ok.1 hfits
  obtain ⟨_, hfits, heq⟩ := bind_eq_ok.1 hfits
  cases heq
  obtain ⟨c, hc, rfl⟩ := h.schema_eq_ok_iff.1 hschema
  exact ⟨store.entity_eq hc, hschema, hfits⟩

/-- A schema that is stored stays stored, whatever call is made. -/
theorem Represents.schema_of_call (h : db.Represents store) (hx : x.call.run db = (x.answer, last))
    (hschema : db.schema entity = .ok schema) : last.schema entity = .ok schema := by
  obtain ⟨later, hlater, hextends, -⟩ := h.exists_of_call hx
  exact (h.extends_of_extends hlater hextends entity schema hschema).1

/-- The schema that a source was opened with is that of its entity. -/
theorem Represents.schema_of_opened (h : db.Represents store)
    (hx : x.call.run db = (x.answer, last)) (hopened : x.answer = .ok (.opened schema)) :
    last.schema schema.entity = .ok schema := by
  obtain ⟨ticket, call, answer⟩ := x
  cases hopened
  cases call with
  | openSource entity =>
    injection hx with hanswer hlast
    subst hlast
    obtain ⟨_, hschema, heq⟩ := map_eq_ok.1 hanswer
    injection heq with heq
    rw [heq] at hschema
    obtain ⟨c, hc, rfl⟩ := h.schema_eq_ok_iff.1 hschema
    rwa [store.entity_eq hc]
  | createEntity | persistRecord | persistCollection | scan =>
    injection hx with hanswer
    obtain ⟨_, -, ⟨⟩⟩ := map_eq_ok.1 hanswer

/-- So it is at the end of a run in which the source was opened. -/
theorem Represents.schema_of_runs (h : db.Represents store) (hruns : db.Runs order last)
    (hx : x ∈ order) (hopened : x.answer = .ok (.opened schema)) :
    last.schema schema.entity = .ok schema := by
  induction hruns generalizing store with
  | nil => cases hx
  | cons hy hrest ih =>
    obtain ⟨mid, hmid, -⟩ := h.exists_of_call hy
    rcases List.mem_cons.1 hx with rfl | hx
    · obtain ⟨later, hlater, hextends, -⟩ := hmid.exists_of_runs hrest
      exact (hmid.extends_of_extends hlater hextends _ _ (h.schema_of_opened hy hopened)).1
    · exact ih hmid hx

/-- A scan for the schema that an entity has does not fail and gives the records that are stored. -/
theorem Represents.exists_source (h : db.Represents store)
    (hschema : db.schema schema.entity = .ok schema) : ∃ records,
      db.scan schema = .ok records ∧ db.source schema.entity = .ok ⟨schema, .ok records⟩ := by
  obtain ⟨-, records, -, hscan, -⟩ := h.extends_of_extends h (.refl store) _ schema hschema
  exact ⟨records, hscan, source_eq_ok_iff.2 ⟨hschema, hscan⟩⟩

/-! ## Records at the end of a run -/

theorem stored_of_source {records : List Record}
    (hsource : db.source entity = .ok ⟨schema, .ok records⟩) : db.stored entity = records := by
  rw [stored, hsource]

theorem Represents.stored_agrees (h : db.Represents store) (entity : String) :
    List.Forall₂ Record.Agrees (store.records entity) (db.stored entity) := by
  cases hc : store.collection? entity with
  | none =>
    have hunknown : db.source entity = .error (.unknownEntity entity) := by
      rw [source, h.schema_eq_error_iff.2 ⟨hc, rfl⟩]
      rfl
    rw [Store.records, hc, stored, hunknown]
    exact .nil
  | some c =>
    obtain ⟨records, hsource, hall, -⟩ := h.reflects.source entity c hc
    rwa [Store.records_of_collection? hc, stored_of_source hsource]

theorem Represents.stored_prefix (h : db.Represents store) (h' : last.Represents later)
    (hextends : store.Extends later) (entity : String) :
    db.stored entity <+: last.stored entity := by
  cases hc : store.collection? entity with
  | none =>
    have hnone := h.stored_agrees entity
    rw [Store.records, hc] at hnone
    rw [List.forall₂_nil_left_iff.1 hnone]
    exact List.nil_prefix
  | some c =>
    have hschema := h.schema_eq_ok_iff.2 ⟨c, hc, rfl⟩
    obtain ⟨hschema', records, added, hscan, hadded⟩ :=
      h.extends_of_extends h' hextends entity c.schema hschema
    rw [stored_of_source (source_eq_ok_iff.2 ⟨hschema, hscan⟩),
      stored_of_source (source_eq_ok_iff.2 ⟨hschema', hadded⟩)]
    exact List.prefix_append records added

/-- What the calls of a run have put into an entity, as it is found there. -/
structure Keeps (db : Database) (order : List Completed) (last : Database) (entity : String) :
    Prop where
  /-- Every record that was put in is there, behind those that were there, and no other is. -/
  stored : ∃ added, last.stored entity = db.stored entity ++ added ∧
    List.Forall₂ Record.Agrees (order.flatMap (·.inserted entity)) added
  /-- No identifier was put in twice, nor one that was there. -/
  distinct : ((db.stored entity ++ order.flatMap (·.inserted entity)).map (·.id)).Nodup
  /-- What was put in fits the schema that is stored. -/
  fits : ∀ r ∈ order.flatMap (·.inserted entity), ∃ schema, last.schema entity = .ok schema ∧
    schema.validate r = .ok ()

/-- Of two calls that put in records with one identifier at most one succeeds. -/
theorem Keeps.id_ne (h : db.Keeps order last entity) {y : Completed} (hx : x ∈ order)
    (hy : y ∈ order) (hne : x ≠ y) {r s : Record} (hr : r ∈ x.inserted entity)
    (hs : s ∈ y.inserted entity) : r.id ≠ s.id := by
  have hids := h.distinct
  rw [List.map_append, List.nodup_append, List.map_flatMap, List.nodup_flatMap] at hids
  have hdisjoint : order.Pairwise fun x y => ∀ r ∈ x.inserted entity, ∀ s ∈ y.inserted entity,
      r.id ≠ s.id := by
    refine hids.2.1.2.imp fun hapart r hr s hs heq => ?_
    exact hapart (List.mem_map_of_mem hr) (heq ▸ List.mem_map_of_mem hs)
  have hsymm : Std.Symm fun x y : Completed => ∀ r ∈ x.inserted entity, ∀ s ∈ y.inserted entity,
      r.id ≠ s.id := ⟨fun _ _ hapart r hr s hs => (hapart s hs r hr).symm⟩
  exact hdisjoint.forall hx hy hne r hr s hs

/-- A run keeps the records that its calls have put in. -/
theorem Represents.keeps (h : db.Represents store) (hruns : db.Runs order last) (entity : String) :
    db.Keeps order last entity := by
  obtain ⟨later, hlater, hextends, hrecords⟩ := h.exists_of_runs hruns
  have hbefore := h.stored_agrees entity
  have hafter := hlater.stored_agrees entity
  rw [hrecords entity] at hafter
  refine ⟨?_, ?_, ?_⟩
  · obtain ⟨added, hadded⟩ := h.stored_prefix hlater hextends entity
    refine ⟨added, hadded.symm, ?_⟩
    rw [← hadded] at hafter
    have hdrop := List.forall₂_drop (store.records entity).length hafter
    rwa [List.drop_left, hbefore.length_eq, List.drop_left] at hdrop
  · have hids : (db.stored entity ++ order.flatMap (·.inserted entity)).map (·.id) =
        (later.records entity).map (·.id) := by
      rw [List.map_append, map_id_eq_of_agrees hbefore, hrecords, List.map_append]
    rw [hids]
    exact later.records_distinct entity
  · intro r hr
    have hmem : r ∈ later.records entity := hrecords entity ▸ List.mem_append_right _ hr
    obtain ⟨c, hc, hr⟩ := Store.exists_of_mem_records hmem
    exact ⟨c.schema, hlater.schema_eq_ok_iff.2 ⟨c, hc, rfl⟩,
      Schema.validate_eq_ok_iff.2 (c.admitted r hr)⟩

end Database

end PagedQuery
