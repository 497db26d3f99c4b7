import Mathlib
import PagedQuery.Database.Seed
import PagedQuery.Proofs.Reading
import PagedQuery.Proofs.Record.Collection
import PagedQuery.Proofs.Text.AsciiCase

/-!
# Entities of a seed document

An entity of a seed document declares a schema, unless a kind is not known or there is no such
schema, and stands for the collection of this schema that has the records of the document, unless
one is described wrongly or two have one identifier.

* `Kind.IsNamed`: the texts that are names of kinds;
* `SeedEntity.Declares`, `SeedEntity.Describes`: the schema and the collection of an entity, of
  which there is one at most (`Declares.unique`, `Describes.unique`);
* `SeedEntity.Fails`: why there is none;
* `describes_of_collection`, `exists_collection_of_describes`, `collection_eq_error_iff`: an entity
  is made into its collection, or fails.
-/

namespace PagedQuery

open Text

/-- A text that is the name of a kind, in letters of either case and with white space around it or
    without. -/
def Kind.IsNamed (kind : Kind) (s : String) : Prop :=
  SameButCase kind.name.toList (trim s.toList)

/-- No two kinds have the same name, whatever its case. -/
theorem Kind.ofName?_eq_some_iff {s : String} {kind : Kind} :
    ofName? s = some kind ↔ kind.IsNamed s := by
  have hnamed (k : Kind) : lowercaseAscii (trim s.toList) = lowercaseAscii k.name.toList ↔
      k.IsNamed s := by
    rw [IsNamed, ← lowercaseAscii_eq_iff, eq_comm]
  have hsound (k : Kind) (h : ofName? s = some k) : k.IsNamed s := by
    have hsame := List.find?_some h
    exact (hnamed k).1 (of_decide_eq_true hsame)
  have hapart (k : Kind) (h : k.IsNamed s) (h' : kind.IsNamed s) : k = kind := by
    have hsame := ((hnamed k).2 h).symm.trans ((hnamed kind).2 h')
    revert hsame
    cases k <;> cases kind <;> decide
  refine ⟨hsound kind, fun h => ?_⟩
  cases hfound : ofName? s with
  | none =>
    have hall : kind ∈ all := by cases kind <;> decide
    have hnone := List.find?_eq_none.1 hfound kind hall
    exact absurd (decide_eq_true ((hnamed kind).2 h)) hnone
  | some k => rw [hapart k (hsound k hfound) h]

theorem Kind.ofName?_eq_none_iff {s : String} :
    ofName? s = none ↔ ∀ kind : Kind, ¬kind.IsNamed s := by
  simp only [← ofName?_eq_some_iff, Option.eq_none_iff_forall_ne_some, ne_eq]

/-- The record that a value in a document describes. -/
def Schema.IsDescribed (schema : Schema) (json : Json) (r : Record) : Prop :=
  ∃ members, json = .object members ∧ schema.Describes (.ofList members) r

/-- An attribute that is declared as a document says. -/
def SeedAttribute.Means (a : SeedAttribute) (d : Attribute) : Prop :=
  d.name = a.name ∧ d.kind.IsNamed a.kind

namespace SeedEntity

theorem declared_eq_ok_iff {a : SeedAttribute} {d : Attribute} :
    declared a = .ok d ↔ a.Means d := by
  obtain ⟨name, kind⟩ := d
  rw [declared, SeedAttribute.Means, ← Kind.ofName?_eq_some_iff]
  cases Kind.ofName? a.kind <;> simp [eq_comm]

theorem declared_eq_error_iff {a : SeedAttribute} {e : Error} :
    declared a = .error e ↔ (∀ kind : Kind, ¬kind.IsNamed a.kind) ∧
      e = Kind.unknownName a.kind := by
  rw [declared, ← Kind.ofName?_eq_none_iff]
  cases Kind.ofName? a.kind <;> simp [eq_comm]

/-- The schema of an entity in a document. -/
structure Declares (seed : SeedEntity) (schema : Schema) : Prop where
  entity : schema.entity = seed.entity
  identifier : schema.identifier = seed.identifier
  attributes : List.Forall₂ SeedAttribute.Means seed.attributes schema.attributes

/-- The collection of an entity in a document: it has the records of the document, in order. -/
structure Describes (seed : SeedEntity) (c : Collection) : Prop where
  schema : seed.Declares c.schema
  records : List.Forall₂ c.schema.IsDescribed seed.records c.records.toList

/-- Why an entity in a document makes no sense. -/
inductive Fails (seed : SeedEntity) : Error → Prop
  /-- A kind is not known; it is the first one. -/
  | kind {before rest : List SeedAttribute} {a : SeedAttribute} :
      seed.attributes = before ++ a :: rest → (∀ b ∈ before, ∃ d, b.Means d) →
      (∀ kind : Kind, ¬kind.IsNamed a.kind) → seed.Fails (Kind.unknownName a.kind)
  /-- The kinds are known, but there is no such schema. -/
  | schema {attributes : List Attribute} {e : Error} :
      List.Forall₂ SeedAttribute.Means seed.attributes attributes →
      (∀ schema, ¬seed.Declares schema) →
      Schema.declare seed.entity seed.identifier attributes = .error e → seed.Fails e
  /-- A record is described wrongly; it is the first one. -/
  | record {schema : Schema} {before rest : List Json} {json : Json} {e : Error} :
      seed.Declares schema → seed.records = before ++ json :: rest →
      (∀ j ∈ before, ∃ r, schema.IsDescribed j r) → schema.Misdescribed json e → seed.Fails e
  /-- All records are described, but one has the identifier of one before it; it is the first
      one. -/
  | repeated {schema : Schema} {records before rest : List Record} {r : Record} :
      seed.Declares schema → List.Forall₂ schema.IsDescribed seed.records records →
      records = before ++ r :: rest → (before.map (·.id)).Nodup → r.id ∈ before.map (·.id) →
      seed.Fails (.duplicateRecord schema.entity r.id.toText)

variable {seed : SeedEntity} {schema other : Schema} {c : Collection} {e : Error}

theorem mapM_declared_eq_ok_iff {attributes : List Attribute} :
    seed.attributes.mapM declared = .ok attributes ↔
      List.Forall₂ SeedAttribute.Means seed.attributes attributes := by
  simp only [mapM_eq_ok_iff, declared_eq_ok_iff]

theorem declares_iff : seed.Declares schema ↔ ∃ attributes,
    seed.attributes.mapM declared = .ok attributes ∧
      Schema.declare seed.entity seed.identifier attributes = .ok schema := by
  simp only [mapM_declared_eq_ok_iff]
  constructor
  · rintro ⟨hentity, hidentifier, hattributes⟩
    refine ⟨schema.attributes, hattributes, ?_⟩
    rw [← hentity, ← hidentifier]
    exact schema.declare_self
  · rintro ⟨attributes, hattributes, hschema⟩
    obtain ⟨hentity, hidentifier, rfl⟩ := Schema.declare_eq_ok hschema
    exact ⟨hentity, hidentifier, hattributes⟩

/-- An entity declares one schema. -/
theorem Declares.unique (h : seed.Declares schema) (h' : seed.Declares other) :
    schema = other := by
  obtain ⟨attributes, hattributes, hschema⟩ := declares_iff.1 h
  obtain ⟨attributes', hattributes', hschema'⟩ := declares_iff.1 h'
  cases hattributes.symm.trans hattributes'
  cases hschema.symm.trans hschema'
  rfl

/-- Records that are described are those that are read. -/
theorem mapM_recordOfJson_eq_ok_iff {records : List Record} :
    seed.records.mapM schema.recordOfJson = .ok records ↔
      List.Forall₂ schema.IsDescribed seed.records records := by
  simp only [mapM_eq_ok_iff, Schema.recordOfJson_eq_ok_iff]
  rfl

theorem collection_of_declares (h : seed.Declares schema) : seed.collection =
    seed.records.mapM schema.recordOfJson >>= Collection.ofRecords schema := by
  obtain ⟨attributes, hattributes, hschema⟩ := declares_iff.1 h
  rw [collection, hattributes, ok_bind, hschema, ok_bind]

theorem describes_of_collection (h : seed.collection = .ok c) : seed.Describes c := by
  obtain ⟨attributes, hattributes, h⟩ := bind_eq_ok.1 h
  obtain ⟨schema, hschema, h⟩ := bind_eq_ok.1 h
  obtain ⟨records, hrecords, h⟩ := bind_eq_ok.1 h
  obtain ⟨rfl, rfl⟩ := Collection.ofRecords_eq_ok h
  exact ⟨declares_iff.2 ⟨attributes, hattributes, hschema⟩,
    mapM_recordOfJson_eq_ok_iff.1 hrecords⟩

/-- The collection of an entity in a document is of this entity. -/
theorem entity_of_collection (h : seed.collection = .ok c) : c.schema.entity = seed.entity :=
  (describes_of_collection h).schema.entity

/-- An entity that stands for a collection is made into one with the same schema and records. -/
theorem exists_collection_of_describes (h : seed.Describes c) :
    ∃ d, seed.collection = .ok d ∧ d.schema = c.schema ∧ d.records.toList = c.records.toList := by
  have hadmitted : ∀ r ∈ c.records.toList,
      (Collection.empty c.schema).schema.validate r = .ok () :=
    fun r hr => Schema.validate_eq_ok_iff.2 (c.admitted r hr)
  obtain ⟨d, hd⟩ := Collection.exists_foldlM_insert_of_nodup hadmitted c.ids_distinct
  refine ⟨d, ?_, Collection.ofRecords_eq_ok hd⟩
  rw [collection_of_declares h.schema, mapM_recordOfJson_eq_ok_iff.2 h.records, ok_bind]
  exact hd

/-- An entity is no collection exactly if it makes no sense. -/
theorem collection_eq_error_iff : seed.collection = .error e ↔ seed.Fails e := by
  -- Records that were read fit the schema, so only their identifiers can be wrong.
  have hadmitted : ∀ {schema : Schema} {records : List Record},
      List.Forall₂ schema.IsDescribed seed.records records → ∀ r ∈ records, schema.Admits r := by
    intro schema records hrecords r hr
    obtain ⟨_, -, hdescribed⟩ := exists_of_mem_right hrecords hr
    exact Schema.admits_of_recordOfJson (Schema.recordOfJson_eq_ok_iff.2 hdescribed)
  constructor
  · intro h
    rcases bind_eq_error.1 h with h | ⟨attributes, hattributes, h⟩
    · obtain ⟨before, a, rest, hsplit, hbefore, ha⟩ := mapM_eq_error_iff.1 h
      obtain ⟨hnone, rfl⟩ := declared_eq_error_iff.1 ha
      exact .kind hsplit (fun b hb => (hbefore b hb).imp fun _ => declared_eq_ok_iff.1) hnone
    rcases bind_eq_error.1 h with h | ⟨schema, hschema, h⟩
    · refine .schema (mapM_declared_eq_ok_iff.1 hattributes) (fun schema hdeclares => ?_) h
      obtain ⟨_, hattributes', hschema⟩ := declares_iff.1 hdeclares
      cases hattributes.symm.trans hattributes'
      cases h.symm.trans hschema
    have hdeclares := declares_iff.2 ⟨attributes, hattributes, hschema⟩
    rcases bind_eq_error.1 h with h | ⟨records, hrecords, h⟩
    · obtain ⟨before, json, rest, hsplit, hbefore, hjson⟩ := mapM_eq_error_iff.1 h
      refine .record hdeclares hsplit (fun j hj => ?_) (Schema.recordOfJson_eq_error_iff.1 hjson)
      exact (hbefore j hj).imp fun _ => Schema.recordOfJson_eq_ok_iff.1
    · rw [mapM_recordOfJson_eq_ok_iff] at hrecords
      rw [Collection.ofRecords_eq_error_iff (hadmitted hrecords)] at h
      obtain ⟨before, r, rest, hsplit, hids, htaken, rfl⟩ := h
      exact .repeated hdeclares hrecords hsplit hids htaken
  · intro hfails
    cases hfails with
    | kind hsplit hbefore hnone =>
      have hwalk : seed.attributes.mapM declared = .error (Kind.unknownName _) :=
        mapM_eq_error_iff.2 ⟨_, _, _, hsplit,
          fun b hb => (hbefore b hb).imp fun _ => declared_eq_ok_iff.2,
          declared_eq_error_iff.2 ⟨hnone, rfl⟩⟩
      rw [collection, hwalk]
      rfl
    | schema hattributes _ hschema =>
      rw [collection, mapM_declared_eq_ok_iff.2 hattributes, ok_bind, hschema]
      rfl
    | @record schema before rest json e hdeclares hsplit hbefore hjson =>
      have hwalk : seed.records.mapM schema.recordOfJson = .error e :=
        mapM_eq_error_iff.2 ⟨_, _, _, hsplit,
          fun j hj => (hbefore j hj).imp fun _ => Schema.recordOfJson_eq_ok_iff.2,
          Schema.recordOfJson_eq_error_iff.2 hjson⟩
      rw [collection_of_declares hdeclares, hwalk]
      rfl
    | repeated hdeclares hrecords hsplit hids htaken =>
      rw [collection_of_declares hdeclares, mapM_recordOfJson_eq_ok_iff.2 hrecords, ok_bind,
        Collection.ofRecords_eq_error_iff (hadmitted hrecords)]
      exact ⟨_, _, _, hsplit, hids, htaken, rfl⟩

/-- An entity stands for a collection if its records are read and have different identifiers. -/
theorem Declares.exists_describes {records : List Record} (h : seed.Declares schema)
    (hrecords : seed.records.mapM schema.recordOfJson = .ok records)
    (hids : (records.map (·.id)).Nodup) :
    ∃ c, seed.Describes c ∧ c.schema = schema ∧ c.records.toList = records := by
  rw [mapM_recordOfJson_eq_ok_iff] at hrecords
  have hadmitted : ∀ r ∈ records, schema.validate r = .ok () := by
    intro r hr
    obtain ⟨_, -, hdescribed⟩ := exists_of_mem_right hrecords hr
    exact Schema.validate_eq_ok_iff.2
      (Schema.admits_of_recordOfJson (Schema.recordOfJson_eq_ok_iff.2 hdescribed))
  exact ⟨.ofFitting schema records hadmitted hids, ⟨h, hrecords⟩, rfl, rfl⟩

/-- An entity stands for one collection. -/
theorem Describes.unique {d : Collection} (h : seed.Describes c) (h' : seed.Describes d) :
    c.schema = d.schema ∧ c.records.toList = d.records.toList := by
  obtain ⟨b, hb, hschema, hrecords⟩ := exists_collection_of_describes h
  obtain ⟨b', hb', hschema', hrecords'⟩ := exists_collection_of_describes h'
  cases hb.symm.trans hb'
  exact ⟨hschema.symm.trans hschema', hrecords.symm.trans hrecords'⟩

theorem Describes.not_fails (h : seed.Describes c) : ¬seed.Fails e := by
  intro hfails
  obtain ⟨d, hd, -⟩ := exists_collection_of_describes h
  cases hd.symm.trans (collection_eq_error_iff.2 hfails)

end SeedEntity

end PagedQuery
