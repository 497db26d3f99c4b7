import Mathlib
import PagedQuery.Proofs.Database.Cell
import PagedQuery.Proofs.Database.Scan
import PagedQuery.Proofs.NameMap
import PagedQuery.Proofs.Store.Basic

/-!
# Tables that hold a store

A database holds a store if the rows of each entity are those that its collection is written with,
and nothing if the entity is not registered.

* `Collection.tables`: the rows of a collection;
* `Database.part`, `Database.Represents`: the rows of one entity, and databases that hold a store;
* `schema?_of_part`, `exists_source_of_part`: what is read of an entity whose rows are those of a
  collection — its schema, and its records up to agreement;
* `readBack`, `scan_of_part`: what is read of one record, which depends on nothing else in the
  tables.

The ordinals of the records are their places, counted from one, so the rows are in order as they
stand; and since no two records have the same identifier, the rows of values that a table finds for
an identifier are those of one record.
-/

namespace PagedQuery

variable {α β γ : Type}

/-! ## Rows -/

namespace Collection

/-- The row of a record that stands at a place. -/
def recordRow (entity : String) (place : ℕ) (r : Record) : RecordRow :=
  { entity, identity := r.id.toCell, ordinal := place + 1 }

/-- The rows of the values of a record. -/
def valueRows (entity : String) (r : Record) : List ValueRow :=
  r.present.map fun (name, v) => ⟨entity, r.id.toCell, name, v.toCell⟩

/-- The tables of a database that holds a collection and nothing else. -/
def tables (c : Collection) : Database where
  entities := [⟨c.schema.entity, c.schema.identifier⟩]
  attributes := c.schema.attributes.mapIdx (Transaction.attributeRow c.schema.entity)
  records := c.records.toList.mapIdx (recordRow c.schema.entity)
  values := c.records.toList.flatMap (valueRows c.schema.entity)

end Collection

namespace Database

/-- The rows of one entity. -/
def part (db : Database) (entity : String) : Database where
  entities := db.entities.filter (·.entity = entity)
  attributes := db.attributes.filter (·.entity = entity)
  records := db.records.filter (·.entity = entity)
  values := db.values.filter (·.entity = entity)

/-- The rows of each entity are those of its collection. -/
def Represents (db : Database) (store : Store) : Prop :=
  ∀ entity, db.part entity = (store.collection? entity).elim empty Collection.tables

end Database

/-! ## Schemas -/

theorem Kind.ofNumber?_number (kind : Kind) : Kind.ofNumber? kind.number = some kind := by
  cases kind <;> rfl

theorem mapM_mapIdx {f : ℕ → α → β} {g : β → Except Error γ} {k : α → Except Error γ} {l : List α}
    (h : ∀ i, ∀ a ∈ l, g (f i a) = k a) : (l.mapIdx f).mapM g = l.mapM k := by
  induction l generalizing f with
  | nil => rfl
  | cons a l ih =>
    have hl : ∀ i, ∀ b ∈ l, g (f (i + 1) b) = k b := fun i b hb =>
      h (i + 1) b (List.mem_cons_of_mem a hb)
    rw [List.mapIdx_cons, List.mapM_cons, List.mapM_cons, h 0 a List.mem_cons_self, ih hl]

/-- Rows whose ordinals follow their places are in order. -/
theorem pairwise_mapIdx {R : β → β → Prop} {f : ℕ → α → β}
    (h : ∀ i j a b, i < j → R (f i a) (f j b)) (l : List α) : (l.mapIdx f).Pairwise R := by
  rw [List.pairwise_iff_getElem]
  intro i j hi hj hij
  rw [List.getElem_mapIdx, List.getElem_mapIdx]
  exact h i j _ _ hij

namespace Database

variable {db : Database} {c : Collection} {entity : String}

theorem attributeOfRow_attributeRow (entity : String) (place : ℕ) (a : Attribute) :
    attributeOfRow (Transaction.attributeRow entity place a) = .ok a := by
  have hnumber : ¬(((a.kind.number : ℕ) : ℤ) < 0 ∨ (255 : ℤ) < (a.kind.number : ℕ)) := by
    cases a.kind <;> decide
  rw [attributeOfRow]
  simp only [Transaction.attributeRow, if_neg hnumber, Int.toNat_natCast, Kind.ofNumber?_number]

theorem attributeRows_of_part (h : db.part c.schema.entity = c.tables) :
    db.attributeRows c.schema.entity = c.tables.attributes := by
  have hattributes : db.attributes.filter (·.entity = c.schema.entity) = c.tables.attributes :=
    congrArg attributes h
  rw [attributeRows, hattributes]
  refine List.mergeSort_of_pairwise (pairwise_mapIdx (fun i j a b hij => ?_) _)
  simpa [Transaction.attributeRow] using hij.le

theorem schema?_of_part (h : db.part c.schema.entity = c.tables) :
    db.schema? c.schema.entity = .ok (some c.schema) := by
  have hentity : db.entities.find? (·.entity = c.schema.entity) =
      some ⟨c.schema.entity, c.schema.identifier⟩ := by
    rw [← List.head?_filter]
    exact congrArg List.head? (congrArg entities h)
  have hattributes : c.tables.attributes.mapM attributeOfRow = .ok c.schema.attributes := by
    rw [Collection.tables, mapM_mapIdx fun place a _ =>
      attributeOfRow_attributeRow c.schema.entity place a]
    exact (mapM_eq_ok fun _ _ => rfl).trans (by rw [List.map_id'])
  rw [schema?]
  rw [hentity, attributeRows_of_part h]
  simp only [hattributes, ok_bind, Schema.declare_self]
  rfl

theorem schema?_of_part_empty (h : db.part entity = empty) : db.schema? entity = .ok none := by
  have hentity : db.entities.find? (·.entity = entity) = none := by
    rw [← List.head?_filter]
    exact congrArg List.head? (congrArg entities h)
  rw [schema?, hentity]

end Database

/-! ## Records -/

theorem Record.isNull_of_mem_present {r : Record} {name : String} {v : Value}
    (h : (name, v) ∈ r.present) : v.isNull = false := by
  simpa using List.of_mem_filter h

/-- In a list in which nothing has the same key twice, one element has a key. -/
theorem flatMap_ite_eq [DecidableEq β] {f : α → β} {g : α → List γ} {l : List α}
    (h : (l.map f).Nodup) {a : α} (ha : a ∈ l) :
    (l.flatMap fun b => if f b = f a then g b else []) = g a := by
  induction l with
  | nil => cases ha
  | cons b l ih =>
    rw [List.map_cons, List.nodup_cons] at h
    have hb : ∀ b' ∈ l, f b' ≠ f b := fun b' hb' heq => h.1 (heq ▸ List.mem_map_of_mem hb')
    -- The element is the first one, and then no other has its key, or it comes later.
    rcases List.mem_cons.1 ha with rfl | ha
    · rw [List.flatMap_cons, if_pos rfl, List.flatMap_eq_nil_iff.2 fun b' hb' => if_neg (hb b' hb'),
        List.append_nil]
    · rw [List.flatMap_cons, if_neg (hb a ha).symm, ih h.2 ha]
      rfl

theorem Collection.filter_valueRows (entity : String) (r : Record) (id : RecordId) :
    (valueRows entity r).filter (·.identity.same id.toCell) =
      if r.id = id then valueRows entity r else [] := by
  have hsame : ∀ row ∈ valueRows entity r, row.identity.same id.toCell = true ↔ r.id = id := by
    intro row hrow
    obtain ⟨b, -, rfl⟩ := List.mem_map.1 hrow
    exact RecordId.same_toCell
  split
  · next h => exact List.filter_eq_self.2 fun row hrow => (hsame row hrow).2 h
  · next h => exact List.filter_eq_nil_iff.2 fun row hrow heq => h ((hsame row hrow).1 heq)

namespace Database

variable {db : Database} {c : Collection} {r : Record}

theorem recordRows_of_part (h : db.part c.schema.entity = c.tables) :
    db.recordRows c.schema.entity = c.tables.records := by
  have hrecords : db.records.filter (·.entity = c.schema.entity) = c.tables.records :=
    congrArg records h
  rw [recordRows, hrecords]
  refine List.mergeSort_of_pairwise (pairwise_mapIdx (fun i j a b hij => ?_) _)
  simpa [Collection.recordRow] using hij.le

/-- The rows of values found for the identifier of a record are those of this record, by name. -/
theorem valueRows_of_part (h : db.part c.schema.entity = c.tables) (hr : r ∈ c.records.toList) :
    db.valueRows c.schema.entity r.id.toCell = Collection.valueRows c.schema.entity r := by
  have hvalues : db.values.filter (·.entity = c.schema.entity) = c.tables.values :=
    congrArg values h
  have hfound : (db.values.filter fun row =>
      row.entity = c.schema.entity && row.identity.same r.id.toCell) =
        Collection.valueRows c.schema.entity r := by
    calc (db.values.filter fun row => row.entity = c.schema.entity && row.identity.same r.id.toCell)
      _ = (db.values.filter (·.entity = c.schema.entity)).filter (·.identity.same r.id.toCell) := by
        simp only [List.filter_filter, Bool.and_comm]
      _ = c.records.toList.flatMap fun s =>
          if s.id = r.id then Collection.valueRows c.schema.entity s else [] := by
        rw [hvalues, Collection.tables, List.filter_flatMap]
        exact List.flatMap_congr fun s _ => Collection.filter_valueRows c.schema.entity s r.id
      _ = Collection.valueRows c.schema.entity r := flatMap_ite_eq c.ids_distinct hr
  rw [Database.valueRows, hfound]
  -- The attributes of a record are sorted by name as they stand, so a sort changes nothing.
  refine List.mergeSort_of_pairwise (List.pairwise_map.2 ?_)
  refine r.present_pairwise.imp fun hlt => ?_
  show (compare _ _).isLE = true
  rw [compare_lt_iff_lt.2 hlt]
  rfl

/-- The row of a value is read as a value that agrees with it. -/
theorem exists_valueOfRow {schema : Schema} (hadmits : schema.Admits r) (entity : String)
    {b : String × Value} (hb : b ∈ r.present) :
    ∃ d, valueOfRow schema ⟨entity, r.id.toCell, b.1, b.2.toCell⟩ = .ok d ∧
      b.1 = d.1 ∧ b.2.Agrees d.2 := by
  obtain ⟨name, v⟩ := b
  obtain ⟨a, ha, hkind⟩ := hadmits name v (List.mem_filter.1 hb).1
  -- A schema admits null everywhere, but null is not among the values that are kept.
  have hkind : v.kind? = some a.kind := by
    refine hkind.resolve_left fun hnone => ?_
    rw [Value.kind?_eq_none_iff, Record.isNull_of_mem_present hb] at hnone
    cases hnone
  obtain ⟨w, hw, hvw⟩ := Value.exists_ofCell_toCell hkind
  refine ⟨(name, w), ?_, rfl, hvw.toAgrees⟩
  rw [valueOfRow, ha]
  show (Value.ofCell a.kind v.toCell).map _ = _
  rw [hw]
  rfl

/-- Bindings in order of which none is null are what is present in the record that they make up. -/
theorem present_ofList {id : RecordId} {bindings : List (String × Value)}
    (hsorted : bindings.Pairwise (·.1 < ·.1)) (hpresent : ∀ b ∈ bindings, b.2.isNull = false) :
    (Record.ofList id bindings).present = bindings := by
  rw [Record.present, Record.ofList, NameMap.toList_ofList hsorted, List.filter_eq_self]
  exact fun b hb => by rw [hpresent b hb]; rfl

/-- Each row of a value is that of an attribute of a record that is not null. -/
theorem exists_of_mem_values (h : db.part c.schema.entity = c.tables) {row : ValueRow}
    (hrow : row ∈ db.values) (hentity : row.entity = c.schema.entity) :
    ∃ s ∈ c.records.toList, ∃ b ∈ s.present,
      row = ⟨c.schema.entity, s.id.toCell, b.1, b.2.toCell⟩ := by
  have hmem : row ∈ c.tables.values := by
    rw [← h]
    exact List.mem_filter.2 ⟨hrow, decide_eq_true hentity⟩
  obtain ⟨s, hs, hmem⟩ := List.mem_flatMap.1 hmem
  obtain ⟨b, hb, rfl⟩ := List.mem_map.1 hmem
  exact ⟨s, hs, b, hb, rfl⟩

/-- The names in agreeing bindings are the same, so one list is in order if the other is. -/
theorem pairwise_of_forall₂ {l m : List (String × Value)}
    (h : List.Forall₂ (fun b d => b.1 = d.1 ∧ b.2.Agrees d.2) l m) (hl : l.Pairwise (·.1 < ·.1)) :
    m.Pairwise (·.1 < ·.1) := by
  have hnames : m.map Prod.fst = l.map Prod.fst := by
    induction h with
    | nil => rfl
    | cons hbd _ ih => rw [List.map_cons, List.map_cons, hbd.1, ih (List.pairwise_cons.1 hl).2]
  rw [← List.pairwise_map (R := (· < ·)) (f := Prod.fst), hnames, List.pairwise_map]
  exact hl

/-- What is read of the rows that a record is written with. -/
def readBack (schema : Schema) (r : Record) : Except Error Record := do
  let bindings ← (Collection.valueRows schema.entity r).mapM (valueOfRow schema)
  return .ofList r.id bindings

/-- A record that fits is read back as a record that agrees with it and fits as well. -/
theorem exists_readBack {schema : Schema} (hadmits : schema.Admits r) :
    ∃ s, readBack schema r = .ok s ∧ r.Agrees s ∧ schema.Admits s := by
  obtain ⟨bindings, hbindings, hall⟩ := exists_mapM_eq_ok fun b hb =>
    exists_valueOfRow hadmits schema.entity (b := b) hb
  have hsorted := pairwise_of_forall₂ hall r.present_pairwise
  have hpresent : ∀ d ∈ bindings, d.2.isNull = false := by
    intro d hd
    obtain ⟨b, hb, -, hbd⟩ := exists_of_mem_right hall hd
    rw [← hbd.isNull]
    exact Record.isNull_of_mem_present hb
  refine ⟨.ofList r.id bindings, ?_, ⟨rfl, ?_⟩, ?_⟩
  · have hread : (Collection.valueRows schema.entity r).mapM (valueOfRow schema) =
        .ok bindings := by
      rw [Collection.valueRows, List.mapM_map]
      exact hbindings
    rw [readBack, hread]
    rfl
  · rw [present_ofList hsorted hpresent]
    exact hall
  · intro name w hw
    rw [Record.ofList, NameMap.toList_ofList hsorted] at hw
    obtain ⟨⟨_, v⟩, hv, rfl, hvw⟩ := exists_of_mem_right hall hw
    obtain ⟨a, ha, hkind⟩ := hadmits _ v (List.mem_filter.1 hv).1
    exact ⟨a, ha, hvw.kind ▸ hkind⟩

/-- The row of a record is read as the record is read back, whatever its place. -/
theorem recordOfRow_of_part (h : db.part c.schema.entity = c.tables) (place : ℕ)
    (hr : r ∈ c.records.toList) :
    db.recordOfRow c.schema (Collection.recordRow c.schema.entity place r) =
      readBack c.schema r := by
  simp only [recordOfRow, Collection.recordRow, RecordId.ofCell_toCell, ok_bind,
    valueRows_of_part h hr, readBack]

theorem tables_identities (c : Collection) :
    c.tables.records.map (·.identity) = c.records.toList.map (·.id.toCell) :=
  List.ext_getElem (by simp [Collection.tables]) (by simp [Collection.tables, Collection.recordRow])

/-- Neighbours in the rows of a collection have different identifiers, as all of its records do. -/
theorem isChain_tables (c : Collection) : c.tables.records.IsChain fun a b =>
    RecordId.ofCell a.identity ≠ RecordId.ofCell b.identity := by
  have hids : (c.tables.records.map (·.identity)).Pairwise fun a b =>
      RecordId.ofCell a ≠ RecordId.ofCell b := by
    rw [tables_identities, List.pairwise_map]
    refine (List.pairwise_map.1 c.ids_distinct).imp fun hne heq => hne ?_
    rw [RecordId.ofCell_toCell, RecordId.ofCell_toCell] at heq
    exact Except.ok.inj heq
  exact (List.pairwise_map.1 hids).isChain

/-- The records of an entity whose rows are those of a collection are read back one by one. -/
theorem scan_of_part (h : db.part c.schema.entity = c.tables) :
    db.scan c.schema = c.records.toList.mapM (readBack c.schema) := by
  rw [scan_eq _ _ (by rw [recordRows_of_part h]; exact isChain_tables c), recordRows_of_part h]
  exact mapM_mapIdx fun place _ hr => recordOfRow_of_part h place hr

/-- What is read of an entity whose rows are those of a collection: its schema, and records that
    agree with those of the collection, one by one. -/
theorem exists_source_of_part (h : db.part c.schema.entity = c.tables) :
    ∃ records, db.source c.schema.entity = .ok ⟨c.schema, .ok records⟩ ∧
      List.Forall₂ Record.Agrees c.records.toList records ∧ ∀ s ∈ records, c.schema.Admits s := by
  obtain ⟨records, hrecords, hall⟩ := exists_mapM_eq_ok fun r hr =>
    exists_readBack (c.admitted r hr)
  refine ⟨records, ?_, hall.imp fun _ _ hrs => hrs.1, fun s hs => ?_⟩
  · rw [source, schema, schema?_of_part h, ← hrecords, ← scan_of_part h]
    rfl
  · obtain ⟨_, _, -, hs⟩ := exists_of_mem_right hall hs
    exact hs

end Database

end PagedQuery
