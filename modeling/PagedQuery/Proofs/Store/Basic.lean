import Mathlib
import PagedQuery.Database.Operation
import PagedQuery.Proofs.Store.SeedEntity

/-!
# Stores of collections

What a database is meant to be: for each entity that has been registered, a collection in memory.
The operations on a database are said here on such a store, where a record is put in by
`Collection.insert` and nothing is encoded.

* `Store.register`, `Store.insert`, `Store.addCollection`: the changes, each of which can fail;
* `Operation.perform`, `Store.after`: what an operation answers, and the store after a run;
* `Store.Changes`, `Store.Leads`: what can become of a store, one entity at a time, and which
  entities an operation changes (`Store.leads_perform`);
* `Store.Extends`: a later store has the same schemas and the same records, perhaps with more behind
  them (`Store.extends_after`).
-/

namespace PagedQuery

/-- A collection for each entity that has been registered. -/
structure Store where
  collection? : String → Option Collection
  entity_eq : ∀ {entity c}, collection? entity = some c → c.schema.entity = entity

namespace Store

/-- The store without entities. -/
def empty : Store :=
  ⟨fun _ => none, nofun⟩

/-- The store with the collection of one entity replaced. -/
def put (store : Store) (c : Collection) : Store where
  collection? entity := if entity = c.schema.entity then some c else store.collection? entity
  entity_eq := by
    intro entity d hd
    split at hd
    · next h =>
      cases hd
      exact h.symm
    · exact store.entity_eq hd

theorem put_self (store : Store) (c : Collection) :
    (store.put c).collection? c.schema.entity = some c :=
  if_pos rfl

theorem put_eq_self {store : Store} {entity : String} {c : Collection}
    (hc : store.collection? entity = some c) : store.put c = store := by
  obtain ⟨collection?, entity_eq⟩ := store
  have hentity := entity_eq hc
  subst hentity
  simp only [put, mk.injEq]
  funext entity
  split
  · next h => exact h ▸ hc.symm
  · rfl

theorem put_put (store : Store) {c d : Collection} (hschema : d.schema = c.schema) :
    (store.put c).put d = store.put d := by
  simp only [put, mk.injEq, hschema]
  funext entity
  split <;> rfl

/-! ## Changes -/

/-- Registers an entity, and says whether it was there with the same schema. -/
def register (schema : Schema) (store : Store) : Except Error (Bool × Store) :=
  match store.collection? schema.entity with
  | none => .ok (false, store.put (.empty schema))
  | some c =>
    if c.schema = schema then .ok (true, store)
    else .error (.schema ("entity '" ++ schema.entity ++
      "' is already stored with a different schema"))

/-- Puts a record at the end of an entity. -/
def insert (entity : String) (store : Store) (r : Record) : Except Error Store :=
  match store.collection? entity with
  | none => .error (.unknownEntity entity)
  | some c => (c.insert r).map store.put

/-- Registers the entity of a collection and puts its records at the end; if existing entities are
    to be skipped and this is one, nothing is done. -/
def addCollection (c : Collection) (skipExisting : Bool) (store : Store) :
    Except Error (Option ℕ × Store) := do
  let (existed, store) ← store.register c.schema
  if existed && skipExisting then return (none, store)
  let store ← c.records.toList.foldlM (insert c.schema.entity) store
  return (some c.size, store)

/-- What comes of a change: its answer and the changed store, or its failure and the store as it
    was. -/
def settle {α : Type} (store : Store) (change : Except Error (α × Store)) :
    Except Error α × Store :=
  match change with
  | .ok (a, changed) => (.ok a, changed)
  | .error e => (.error e, store)

/-- Loads entities one after the other, up to the first that fails. -/
def loadSeeds : List SeedEntity → Store → Except Error ℕ × Store
  | [], store => (.ok 0, store)
  | seed :: seeds, store =>
    match seed.collection with
    | .error e => (.error e, store)
    | .ok c =>
      match store.settle (store.addCollection c true) with
      | (.error e, store) => (.error e, store)
      | (.ok written, store) =>
        let (rest, store) := loadSeeds seeds store
        (rest.map (written.getD 0 + ·), store)

/-- Loads a seed document. -/
def loadSeed (document : String) (store : Store) : Except Error ℕ × Store :=
  match SeedEntity.parseAll? document with
  | none => (.error SeedEntity.malformed, store)
  | some seeds => store.loadSeeds seeds

end Store

/-- Carries an operation out on a store. -/
def Operation.perform (operation : Operation) (store : Store) : Except Error Outcome × Store :=
  match operation with
  | createEntity schema =>
    let (answer, store) := store.settle (store.register schema)
    (answer.map .registered, store)
  | persistRecord entity r =>
    let (answer, store) := store.settle ((store.insert entity r).map ((), ·))
    (answer.map fun _ => .done, store)
  | persistCollection c =>
    let (answer, store) := store.settle ((store.addCollection c false).map fun added =>
      (added.1.getD 0, added.2))
    (answer.map .written, store)
  | loadSeed document =>
    let (answer, store) := store.loadSeed document
    (answer.map .written, store)
  | reopen => (.ok .done, store)

namespace Store

/-- The store after a run of operations. -/
def after (store : Store) (operations : List Operation) : Store :=
  operations.foldl (fun store operation => (operation.perform store).2) store

/-! ## Growth -/

/-- Every entity of the first store is in the second, with the same schema and, in the same places,
    the same records. -/
def Extends (store later : Store) : Prop :=
  ∀ entity c, store.collection? entity = some c → ∃ d, later.collection? entity = some d ∧
    d.schema = c.schema ∧ c.records.toList <+: d.records.toList

variable {store later last : Store}

theorem Extends.refl (store : Store) : store.Extends store :=
  fun _ c hc => ⟨c, hc, rfl, List.prefix_rfl⟩

theorem Extends.trans (h : store.Extends later) (h' : later.Extends last) : store.Extends last := by
  intro entity c hc
  obtain ⟨d, hd, hschema, hrecords⟩ := h entity c hc
  obtain ⟨e, he, hschema', hrecords'⟩ := h' entity d hd
  exact ⟨e, he, hschema'.trans hschema, hrecords.trans hrecords'⟩

/-- Only the collection that is replaced has to be looked at. -/
theorem extends_put {d : Collection} (h : ∀ c, store.collection? d.schema.entity = some c →
    d.schema = c.schema ∧ c.records.toList <+: d.records.toList) : store.Extends (store.put d) := by
  intro entity c hc
  by_cases hentity : entity = d.schema.entity
  · exact ⟨d, if_pos hentity, h c (hentity ▸ hc)⟩
  · exact ⟨c, (if_neg hentity).trans hc, rfl, List.prefix_rfl⟩

/-- The changes of one entity that a store can undergo: the entity is registered, or a record is put
    at its end. -/
inductive Changes (store : Store) : String → Store → Prop
  | registered {schema : Schema} : store.collection? schema.entity = none →
      store.Changes schema.entity (store.put (.empty schema))
  | inserted {c d : Collection} {r : Record} : store.collection? c.schema.entity = some c →
      c.insert r = .ok d → store.Changes c.schema.entity (store.put d)

theorem extends_of_changes {entity : String} (h : store.Changes entity later) :
    store.Extends later := by
  cases h with
  | registered hnone =>
    refine extends_put fun c hc => ?_
    cases hnone.symm.trans hc
  | inserted hc hd =>
    obtain ⟨-, -, hschema, hrecords⟩ := Collection.insert_eq_ok hd
    refine extends_put fun c' hc' => ?_
    -- The collection that is replaced is the one that the record was put into.
    rw [hschema, hc] at hc'
    cases hc'
    exact ⟨hschema, hrecords ▸ List.prefix_append _ _⟩

theorem Changes.collection?_of_ne {entity other : String} (h : store.Changes entity later)
    (hother : other ≠ entity) : later.collection? other = store.collection? other := by
  cases h with
  | registered => exact if_neg hother
  | inserted hc hd =>
    obtain ⟨-, -, hschema, -⟩ := Collection.insert_eq_ok hd
    exact if_neg (hschema ▸ hother)

/-- The second store comes of the first by changes of entities with the given names. -/
def Leads (names : List String) : Store → Store → Prop :=
  Relation.ReflTransGen fun store later => ∃ entity ∈ names, store.Changes entity later

namespace Leads

variable {names more : List String}

theorem refl (names : List String) (store : Store) : store.Leads names store :=
  Relation.ReflTransGen.refl

theorem of_changes {entity : String} (h : store.Changes entity later) :
    store.Leads [entity] later :=
  Relation.ReflTransGen.single ⟨entity, List.mem_singleton_self entity, h⟩

theorem trans (h : store.Leads names later) (h' : later.Leads names last) :
    store.Leads names last :=
  Relation.ReflTransGen.trans h h'

theorem mono (h : store.Leads names later) (hnames : names ⊆ more) : store.Leads more later := by
  refine Relation.ReflTransGen.mono ?_ _ _ h
  rintro _ _ ⟨entity, hentity, hchanges⟩
  exact ⟨entity, hnames hentity, hchanges⟩

theorem collection?_eq (h : store.Leads names later) {entity : String} (hentity : entity ∉ names) :
    later.collection? entity = store.collection? entity := by
  induction h with
  | refl => rfl
  | tail _ hstep ih =>
    obtain ⟨changed, hchanged, hchanges⟩ := hstep
    have hne : entity ≠ changed := fun heq => hentity (heq ▸ hchanged)
    exact (hchanges.collection?_of_ne hne).trans ih

end Leads

theorem extends_of_leads {names : List String} (h : store.Leads names later) :
    store.Extends later := by
  induction h with
  | refl => exact .refl _
  | tail _ hstep ih =>
    obtain ⟨_, -, hchanges⟩ := hstep
    exact ih.trans (extends_of_changes hchanges)

theorem leads_register {schema : Schema} {existed : Bool}
    (h : store.register schema = .ok (existed, later)) : store.Leads [schema.entity] later := by
  rw [register] at h
  split at h
  · next hnone =>
    cases h
    exact .of_changes (.registered hnone)
  · split at h
    · cases h
      exact .refl _ _
    · cases h

/-- An entity that has been registered is there with its schema. -/
theorem exists_of_register {schema : Schema} {existed : Bool}
    (h : store.register schema = .ok (existed, later)) :
    ∃ c, later.collection? schema.entity = some c ∧ c.schema = schema := by
  rw [register] at h
  split at h
  · cases h
    exact ⟨.empty schema, put_self _ _, rfl⟩
  · next c hc =>
    split at h
    · next hschema =>
      cases h
      exact ⟨c, hc, hschema⟩
    · cases h

theorem leads_insert {entity : String} {r : Record} (h : store.insert entity r = .ok later) :
    store.Leads [entity] later := by
  rw [insert] at h
  split at h
  · cases h
  · next c hc =>
    obtain ⟨d, hd, rfl⟩ := map_eq_ok.1 h
    have hentity := store.entity_eq hc
    subst hentity
    exact .of_changes (.inserted hc hd)

theorem leads_foldlM_insert {entity : String} {records : List Record}
    (h : records.foldlM (insert entity) store = .ok later) : store.Leads [entity] later := by
  induction records generalizing store with
  | nil =>
    cases h
    exact .refl _ _
  | cons r records ih =>
    obtain ⟨next, hnext, h⟩ := bind_eq_ok.1 h
    exact (leads_insert hnext).trans (ih h)

theorem leads_addCollection {c : Collection} {skipExisting : Bool} {written : Option ℕ}
    (h : store.addCollection c skipExisting = .ok (written, later)) :
    store.Leads [c.schema.entity] later := by
  obtain ⟨⟨existed, registered⟩, hregistered, h⟩ := bind_eq_ok.1 h
  refine (leads_register hregistered).trans ?_
  cases hskip : existed && skipExisting with
  | true =>
    simp only [hskip] at h
    cases h
    exact .refl _ _
  | false =>
    simp only [hskip] at h
    obtain ⟨filled, hfilled, h⟩ := bind_eq_ok.1 h
    cases h
    exact leads_foldlM_insert hfilled

theorem leads_settle {α : Type} {names : List String} {change : Except Error (α × Store)}
    (h : ∀ a later, change = .ok (a, later) → store.Leads names later) :
    store.Leads names (store.settle change).2 := by
  cases change with
  | error e => exact .refl _ _
  | ok p => exact h p.1 p.2 rfl

theorem leads_loadSeeds (seeds : List SeedEntity) (store : Store) :
    store.Leads (seeds.map (·.entity)) (store.loadSeeds seeds).2 := by
  induction seeds generalizing store with
  | nil => exact .refl _ _
  | cons seed seeds ih =>
    rw [loadSeeds]
    split
    · exact .refl _ _
    · next c hc =>
      have hsettle : store.Leads [seed.entity] (store.settle (store.addCollection c true)).2 :=
        leads_settle fun _ _ h => SeedEntity.entity_of_collection hc ▸ leads_addCollection h
      have hfirst : store.Leads ((seed :: seeds).map (·.entity))
          (store.settle (store.addCollection c true)).2 := hsettle.mono (by simp)
      split
      · next heq =>
        rw [heq] at hfirst
        exact hfirst
      · next heq =>
        rw [heq] at hfirst
        exact hfirst.trans ((ih _).mono (List.subset_cons_self _ _))

end Store

/-- The entities that an operation names. A text that is no seed document names none. -/
def Operation.names : Operation → List String
  | createEntity schema => [schema.entity]
  | persistRecord entity _ => [entity]
  | persistCollection c => [c.schema.entity]
  | loadSeed document => ((SeedEntity.parseAll? document).getD []).map (·.entity)
  | reopen => []

namespace Store

variable {store later last : Store}

theorem leads_loadSeed (document : String) (store : Store) :
    store.Leads (Operation.loadSeed document).names (store.loadSeed document).2 := by
  rw [loadSeed, Operation.names]
  split
  · exact .refl _ _
  · next seeds hseeds =>
    rw [hseeds]
    exact leads_loadSeeds seeds store

/-- An operation only changes the entities that it names. -/
theorem leads_perform (operation : Operation) (store : Store) :
    store.Leads operation.names (operation.perform store).2 := by
  cases operation with
  | createEntity schema => exact leads_settle fun _ _ h => leads_register h
  | persistRecord entity r =>
    show store.Leads [entity] (store.settle ((store.insert entity r).map ((), ·))).2
    refine leads_settle fun _ _ hinserted => ?_
    obtain ⟨_, h, ⟨⟩⟩ := map_eq_ok.1 hinserted
    exact leads_insert h
  | persistCollection c =>
    show store.Leads [c.schema.entity]
      (store.settle ((store.addCollection c false).map fun q => (q.1.getD 0, q.2))).2
    refine leads_settle fun _ _ hadded => ?_
    obtain ⟨⟨_, _⟩, h, ⟨⟩⟩ := map_eq_ok.1 hadded
    exact leads_addCollection h
  | loadSeed document => exact leads_loadSeed document store
  | reopen => exact .refl _ _

theorem extends_perform (operation : Operation) (store : Store) :
    store.Extends (operation.perform store).2 :=
  extends_of_leads (leads_perform operation store)

/-- No operation takes a record away, or changes a schema. -/
theorem extends_after (store : Store) (operations : List Operation) :
    store.Extends (store.after operations) := by
  induction operations generalizing store with
  | nil => exact .refl _
  | cons operation operations ih => exact (extends_perform operation store).trans (ih _)

/-! ## Records put in one by one -/

/-- Records that are put in for an entity are put into its collection. -/
theorem foldlM_insert_eq {entity : String} {c : Collection} (hc : store.collection? entity = some c)
    (records : List Record) : records.foldlM (insert entity) store =
      (records.foldlM Collection.insert c).map store.put := by
  induction records generalizing store c with
  | nil => exact congrArg Except.ok (put_eq_self hc).symm
  | cons r records ih =>
    have hfirst : store.insert entity r = (c.insert r).map store.put := by rw [insert, hc]
    rw [List.foldlM_cons, List.foldlM_cons, hfirst]
    cases hd : c.insert r with
    | error e => rfl
    | ok d =>
      obtain ⟨-, -, hschema, -⟩ := Collection.insert_eq_ok hd
      have hput : (store.put d).collection? entity = some d := by
        rw [← store.entity_eq hc, ← hschema]
        exact store.put_self d
      show records.foldlM (insert entity) (store.put d) = (records.foldlM Collection.insert d).map _
      rw [ih hput]
      -- The collection of the entity is replaced at each record, and only the last one stays.
      cases hlast : records.foldlM Collection.insert d with
      | error e => rfl
      | ok last =>
        exact congrArg Except.ok (store.put_put (Collection.foldlM_insert_eq_ok hlast).1)

/-- Records that have been put in come behind those that were there. -/
theorem collection?_of_foldlM_insert {entity : String} {records : List Record} {c : Collection}
    (h : records.foldlM (insert entity) store = .ok later)
    (hc : store.collection? entity = some c) :
    ∃ d, later.collection? entity = some d ∧ d.schema = c.schema ∧
      d.records.toList = c.records.toList ++ records := by
  rw [foldlM_insert_eq hc] at h
  obtain ⟨d, hd, rfl⟩ := map_eq_ok.1 h
  obtain ⟨hschema, hrecords⟩ := Collection.foldlM_insert_eq_ok hd
  refine ⟨d, ?_, hschema, hrecords⟩
  rw [← store.entity_eq hc, ← hschema]
  exact store.put_self d

/-- Records that fit and have identifiers of their own are put in, all of them. -/
theorem exists_foldlM_insert {entity : String} {records : List Record} {c : Collection}
    (hc : store.collection? entity = some c)
    (hadmitted : ∀ r ∈ records, c.schema.validate r = .ok ())
    (hids : ((c.records.toList ++ records).map (·.id)).Nodup) :
    ∃ later d, records.foldlM (insert entity) store = .ok later ∧
      later.collection? entity = some d ∧ d.schema = c.schema ∧
      d.records.toList = c.records.toList ++ records := by
  obtain ⟨d, hd⟩ := Collection.exists_foldlM_insert_of_nodup hadmitted hids
  have hlater : records.foldlM (insert entity) store = .ok (store.put d) := by
    rw [foldlM_insert_eq hc, hd]
    rfl
  obtain ⟨last, hlast⟩ := collection?_of_foldlM_insert hlater hc
  exact ⟨_, last, hlater, hlast⟩

/-- The collection of an entity that is not there is put in as it is. -/
theorem exists_addCollection {c : Collection} (hnone : store.collection? c.schema.entity = none)
    (skipExisting : Bool) :
    ∃ later d, store.addCollection c skipExisting = .ok (some c.size, later) ∧
      later.collection? c.schema.entity = some d ∧ d.schema = c.schema ∧
      d.records.toList = c.records.toList := by
  have hempty :
      (store.put (.empty c.schema)).collection? c.schema.entity = some (.empty c.schema) :=
    put_self store (.empty c.schema)
  obtain ⟨later, d, hlater, hd, hschema, hrecords⟩ := exists_foldlM_insert hempty
    (fun r hr => Schema.validate_eq_ok_iff.2 (c.admitted r hr)) c.ids_distinct
  refine ⟨later, d, ?_, hd, hschema, hrecords⟩
  have hregister : store.register c.schema = .ok (false, store.put (.empty c.schema)) := by
    rw [register, hnone]
  rw [addCollection, hregister, ok_bind]
  simp only [Bool.false_and, hlater, ok_bind]
  rfl

end Store

end PagedQuery
