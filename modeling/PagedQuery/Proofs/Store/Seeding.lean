import Mathlib
import PagedQuery.Proofs.Store.Refusal
import PagedQuery.Proofs.Store.SeedDocument

/-!
# Loading seed documents

The entities of a seed document are taken one after the other. An entity that is new is stored with
all of its records, one that is stored with the same schema is passed over, and the first one that
does not make sense, or is stored with another schema, ends the document: what was stored before it
stays, and of itself nothing is stored.

* `Database.Gains`: a later database has some entities more, each with the records of a collection;
* `Database.Loads`: entities of a document that are stored or passed over, in their order;
* `Database.ComesTo`: what all entities of a document come to, and how the first one decides it;
* `loadSeed_stores_whole_entities`: a document is loaded up to the first entity that is refused.

An entity may come twice in a document. The second time it is there already, so it is passed over or
refused like any other that is stored.
-/

namespace PagedQuery

/-! ## Databases that gain entities -/

namespace Database

variable {db next later : Database} {store : Store} {c d : Collection}
  {stored more : List Collection} {seed : SeedEntity} {seeds loaded : List SeedEntity} {e : Error}
  {refused : Option Error}

/-- What is read of an entity whose rows have not changed is the same. -/
theorem source_of_part {schema : Schema} {records : List Record}
    (hsource : db.source schema.entity = .ok ⟨schema, .ok records⟩)
    (hpart : later.part schema.entity = db.part schema.entity) :
    later.source schema.entity = .ok ⟨schema, .ok records⟩ := by
  obtain ⟨hschema, hscan⟩ := source_eq_ok_iff.1 hsource
  refine source_eq_ok_iff.2 ⟨?_, ?_⟩
  · rw [← schema_part, hpart, schema_part, hschema]
  · rw [← scan_part, hpart, scan_part, hscan]

/-- The second database has the entities of some collections, which are new to the first one, and is
    the same otherwise. -/
structure Gains (db : Database) (stored : List Collection) (later : Database) : Prop where
  distinct : (stored.map (·.schema.entity)).Nodup
  new : ∀ c ∈ stored, db.schema c.schema.entity = .error (.unknownEntity c.schema.entity)
  /-- A new entity has the records of its collection and no others, in order. -/
  source : ∀ c ∈ stored, ∃ records, later.source c.schema.entity = .ok ⟨c.schema, .ok records⟩ ∧
    List.Forall₂ Record.Agrees c.records.toList records
  others : ∀ entity ∉ stored.map (·.schema.entity), later.part entity = db.part entity

theorem Gains.nil (db : Database) : db.Gains [] db :=
  ⟨.nil, nofun, nofun, fun _ _ => rfl⟩

theorem Gains.schema (h : db.Gains stored later) (hc : c ∈ stored) :
    later.schema c.schema.entity = .ok c.schema := by
  obtain ⟨records, hsource, -⟩ := h.source c hc
  exact (source_eq_ok_iff.1 hsource).1

theorem Gains.append (h : db.Gains stored next) (h' : next.Gains more later) :
    db.Gains (stored ++ more) later := by
  -- What was gained first is known by then, so it is not gained again.
  have hapart : ∀ c ∈ stored, ∀ d ∈ more, c.schema.entity ≠ d.schema.entity := by
    intro c hc d hd heq
    have hnew := h'.new d hd
    rw [← heq, h.schema hc] at hnew
    cases hnew
  refine ⟨?_, ?_, ?_, ?_⟩
  · rw [List.map_append, List.nodup_append]
    refine ⟨h.distinct, h'.distinct, ?_⟩
    intro _ hfirst _ hsecond
    obtain ⟨c, hc, rfl⟩ := List.mem_map.1 hfirst
    obtain ⟨d, hd, rfl⟩ := List.mem_map.1 hsecond
    exact hapart c hc d hd
  · refine List.forall_mem_append.2 ⟨h.new, fun d hd => ?_⟩
    have hother : d.schema.entity ∉ stored.map (·.schema.entity) := by
      intro hmem
      obtain ⟨c, hc, heq⟩ := List.mem_map.1 hmem
      exact hapart c hc d hd heq
    rw [← schema_part, ← h.others _ hother, schema_part, h'.new d hd]
  · refine List.forall_mem_append.2 ⟨fun c hc => ?_, h'.source⟩
    have hother : c.schema.entity ∉ more.map (·.schema.entity) := by
      intro hmem
      obtain ⟨d, hd, heq⟩ := List.mem_map.1 hmem
      exact hapart c hc d hd heq.symm
    obtain ⟨records, hsource, hall⟩ := h.source c hc
    exact ⟨records, source_of_part hsource (h'.others _ hother), hall⟩
  · intro entity hentity
    rw [List.map_append, List.mem_append, not_or] at hentity
    rw [h'.others entity hentity.2, h.others entity hentity.1]

/-! ## Loading -/

/-- What loading a collection comes to: if its entity is stored with the same schema nothing is
    done, and otherwise it is stored. -/
inductive Takes (db : Database) (c : Collection) : List Collection → Database → Prop
  | skipped : db.schema c.schema.entity = .ok c.schema → db.Takes c [] db
  | added {next : Database} : db.Gains [c] next → db.Takes c [c] next

/-- Entities of a document that are loaded one after the other. All of them make sense, also those
    that are not stored because they are there already. -/
inductive Loads : Database → List SeedEntity → List Collection → Database → Prop
  | nil (db : Database) : Loads db [] [] db
  | cons {db next later : Database} {seed : SeedEntity} {seeds : List SeedEntity} {c : Collection}
      {stored more : List Collection} : seed.Describes c → db.Takes c stored next →
      Loads next seeds more later → Loads db (seed :: seeds) (stored ++ more) later

/-- Why a document ends at an entity. -/
inductive RefusesSeed (db : Database) (seed : SeedEntity) : Error → Prop
  | fails {e : Error} : seed.Fails e → db.RefusesSeed seed e
  | other {c : Collection} {schema : Schema} : seed.Describes c →
      db.schema c.schema.entity = .ok schema → schema ≠ c.schema →
      db.RefusesSeed seed (.otherSchema c.schema.entity)

/-- An entity that makes sense is refused only if its name belongs to another schema. -/
theorem not_refusesSeed (h : seed.Describes c)
    (hsame : ∀ schema, db.schema c.schema.entity = .ok schema → schema = c.schema) :
    ¬db.RefusesSeed seed e := by
  rintro (hfails | ⟨hdescribes, hschema, hother⟩)
  · exact h.not_fails hfails
  · rw [hdescribes.schema.unique h.schema] at hschema hother
    exact hother (hsame _ hschema)

theorem Takes.gains (h : db.Takes c stored next) : db.Gains stored next := by
  cases h with
  | skipped => exact .nil db
  | added hgains => exact hgains

theorem Loads.gains (h : db.Loads seeds stored later) : db.Gains stored later := by
  induction h with
  | nil db => exact .nil db
  | cons _ htakes _ ih => exact htakes.gains.append ih

/-- Entities of a document are loaded up to the first that is refused, if there is one. -/
def ComesTo (db : Database) (seeds : List SeedEntity) (stored : List Collection)
    (refused : Option Error) (later : Database) : Prop :=
  ∃ loaded rest, seeds = loaded ++ rest ∧ db.Loads loaded stored later ∧
    (rest = [] ∧ refused = none ∨
      ∃ seed after e, rest = seed :: after ∧ later.RefusesSeed seed e ∧ refused = some e)

theorem ComesTo.of_nil (h : db.ComesTo [] stored refused later) :
    stored = [] ∧ refused = none ∧ later = db := by
  obtain ⟨loaded, rest, hsplit, hloads, hends⟩ := h
  obtain ⟨rfl, rfl⟩ := List.append_eq_nil_iff.1 hsplit.symm
  cases hloads
  obtain ⟨-, rfl⟩ | ⟨_, _, _, hrest, -⟩ := hends
  · exact ⟨rfl, rfl, rfl⟩
  · cases hrest

theorem ComesTo.of_cons (h : db.ComesTo (seed :: seeds) stored refused later) :
    (∃ e, db.RefusesSeed seed e ∧ stored = [] ∧ refused = some e ∧ later = db) ∨
      ∃ c first more next, stored = first ++ more ∧ seed.Describes c ∧ db.Takes c first next ∧
        next.ComesTo seeds more refused later := by
  obtain ⟨loaded, rest, hsplit, hloads, hends⟩ := h
  cases hloads with
  | nil =>
    obtain ⟨rfl, -⟩ | ⟨last, after, e, rfl, hrefuses, rfl⟩ := hends <;> cases hsplit
    exact .inl ⟨e, hrefuses, rfl, rfl, rfl⟩
  | cons hdescribes htakes hloads =>
    obtain ⟨rfl, htail⟩ := List.cons.inj hsplit
    exact .inr ⟨_, _, _, _, rfl, hdescribes, htakes, _, rest, htail, hloads, hends⟩

/-- An entity that is there with its schema is passed over. -/
theorem ComesTo.of_known (h : db.ComesTo (seed :: seeds) stored refused later)
    (hc : seed.Describes c) (hknown : db.schema c.schema.entity = .ok c.schema) :
    db.ComesTo seeds stored refused later := by
  obtain ⟨e, hrefuses, -⟩ | ⟨d, first, more, next, rfl, hd, htakes, hnext⟩ := h.of_cons
  · refine absurd hrefuses (not_refusesSeed hc fun schema hschema => ?_)
    exact Except.ok.inj (hschema.symm.trans hknown)
  · cases htakes with
    | skipped => exact hnext
    | added hgains =>
      have hnew := hgains.new d List.mem_cons_self
      rw [hd.schema.unique hc.schema] at hnew
      cases hknown.symm.trans hnew

/-- An entity that is not there is stored. -/
theorem ComesTo.of_unknown (h : db.ComesTo (seed :: seeds) stored refused later)
    (hc : seed.Describes c) (hunknown : db.schema c.schema.entity = .error e) :
    ∃ d more next, stored = d :: more ∧ d.schema = c.schema ∧
      d.records.toList = c.records.toList ∧ db.Gains [d] next ∧
        next.ComesTo seeds more refused later := by
  obtain ⟨e, hrefuses, -⟩ | ⟨d, first, more, next, rfl, hd, htakes, hnext⟩ := h.of_cons
  · refine absurd hrefuses (not_refusesSeed hc fun schema hschema => ?_)
    cases hunknown.symm.trans hschema
  · obtain ⟨hschema, hrecords⟩ := hd.unique hc
    cases htakes with
    | skipped hknown =>
      rw [hschema] at hknown
      cases hunknown.symm.trans hknown
    | added hgains => exact ⟨d, more, next, rfl, hschema, hrecords, hgains, hnext⟩

/-- An entity that makes no sense ends the document. -/
theorem ComesTo.of_fails (h : db.ComesTo (seed :: seeds) stored refused later)
    (hfails : seed.Fails e) : stored = [] ∧ refused = some e ∧ later = db := by
  obtain ⟨e', hrefuses, rfl, rfl, rfl⟩ | ⟨c, _, _, _, -, hc, -⟩ := h.of_cons
  · rcases hrefuses with hfails' | ⟨hc, -, -⟩
    · have hsame := (SeedEntity.collection_eq_error_iff.2 hfails').symm.trans
        (SeedEntity.collection_eq_error_iff.2 hfails)
      exact ⟨rfl, congrArg some (Except.error.inj hsame), rfl⟩
    · exact absurd hfails hc.not_fails
  · exact absurd hfails hc.not_fails

theorem exists_comesTo {rest : List SeedEntity} {document : String} {n : ℕ}
    (hsplit : seeds = loaded ++ rest) (hloads : db.Loads loaded stored later)
    (hends : rest = [] ∧ db.loadSeed document = (.ok n, later) ∨
      ∃ seed after e, rest = seed :: after ∧ later.RefusesSeed seed e ∧
        db.loadSeed document = (.error e, later)) :
    ∃ refused, db.ComesTo seeds stored refused later ∧
      db.loadSeed document = (refused.elim (.ok n) .error, later) := by
  rcases hends with ⟨hrest, hload⟩ | ⟨seed, after, e, hrest, hrefuses, hload⟩
  · exact ⟨none, ⟨loaded, rest, hsplit, hloads, .inl ⟨hrest, rfl⟩⟩, hload⟩
  · exact ⟨some e, ⟨loaded, rest, hsplit, hloads, .inr ⟨seed, after, e, hrest, hrefuses, rfl⟩⟩,
      hload⟩

/-- A collection whose entity is not there is gained. -/
theorem Represents.gains_of_new (h : db.Represents store)
    (hnone : store.collection? c.schema.entity = none) :
    ∃ next grown, (Transaction.storeCollection c true).commit db = (.ok (some c.size), next) ∧
      next.Represents grown ∧ db.Gains [c] next := by
  obtain ⟨hanswer, hnext⟩ := commit_tracks h (storeCollection_tracks h c true)
  obtain ⟨grown, d, hadd, hd, hschema, hrecords⟩ := Store.exists_addCollection hnone true
  rw [hadd] at hanswer hnext
  refine ⟨_, grown, Prod.ext hanswer rfl, hnext, List.nodup_singleton _, ?_, ?_, ?_⟩
  · exact List.forall_mem_singleton.2 (h.schema_eq_error_iff.2 ⟨hnone, rfl⟩)
  · obtain ⟨records, hsource, hall, -⟩ := hnext.reflects.source _ d hd
    rw [hschema] at hsource
    rw [hrecords] at hall
    simpa using ⟨records, hsource, hall⟩
  · intro entity hentity
    have hsame := (Store.leads_addCollection hadd).collection?_eq hentity
    rw [hnext entity, h entity, ← hsame]
    rfl

/-- A collection is taken, with so many records as are stored, or its entity has another schema. -/
theorem Represents.exists_takes_or (h : db.Represents store) (c : Collection) :
    (∃ stored written next grown,
      (Transaction.storeCollection c true).commit db = (.ok written, next) ∧
        written.getD 0 = (stored.map (·.size)).sum ∧ next.Represents grown ∧
        db.Takes c stored next) ∨
      ∃ schema, db.schema c.schema.entity = .ok schema ∧ schema ≠ c.schema ∧
        (Transaction.storeCollection c true).commit db =
          (.error (.otherSchema c.schema.entity), db) := by
  cases hd : store.collection? c.schema.entity with
  | none =>
    obtain ⟨next, grown, hwrite, hnext, hgains⟩ := h.gains_of_new hd
    exact .inl ⟨[c], _, next, grown, hwrite, rfl, hnext, .added hgains⟩
  | some d =>
    have hstored := h.schema_eq_ok_iff.2 ⟨d, hd, rfl⟩
    by_cases hsame : d.schema = c.schema
    · rw [hsame] at hstored
      have hschema : db.schema? c.schema.entity = .ok (some c.schema) := by
        rw [h.schema?_eq, hd, Option.map_some, hsame]
      refine .inl ⟨[], none, db, store, ?_, rfl, h, .skipped hstored⟩
      rw [Transaction.commit, Transaction.run_storeCollection_skip hschema]
    · obtain ⟨hanswer, -⟩ := commit_tracks h (storeCollection_tracks h c true)
      rw [Store.addCollection_of_other hd hsame] at hanswer
      refine .inr ⟨d.schema, hstored, hsame, ?_⟩
      exact Prod.ext hanswer (Transaction.commit_snd_of_error hanswer)

theorem loadSeeds_cons {written : Option ℕ} (hc : seed.collection = .ok c)
    (hwrite : (Transaction.storeCollection c true).commit db = (.ok written, next))
    (seeds : List SeedEntity) : loadSeeds (seed :: seeds) db =
      ((loadSeeds seeds next).1.map (written.getD 0 + ·), (loadSeeds seeds next).2) := by
  rw [loadSeeds, hc]
  dsimp only
  rw [hwrite]

/-- The entities of a document are loaded up to the first that is refused. -/
theorem Represents.exists_loads (h : db.Represents store) (seeds : List SeedEntity) :
    ∃ loaded rest stored later, seeds = loaded ++ rest ∧ db.Loads loaded stored later ∧
      loadSeeds loaded db = (.ok (stored.map (·.size)).sum, later) ∧
      (rest = [] ∨ ∃ seed after e, rest = seed :: after ∧ later.RefusesSeed seed e ∧
        loadSeeds seeds db = (.error e, later)) := by
  induction seeds generalizing db store with
  | nil => exact ⟨[], [], [], db, rfl, .nil db, rfl, .inl rfl⟩
  | cons seed seeds ih =>
    cases hseed : seed.collection with
    | error e =>
      refine ⟨[], _, [], db, rfl, .nil db, rfl, .inr ⟨seed, seeds, e, rfl, ?_, ?_⟩⟩
      · exact .fails (SeedEntity.collection_eq_error_iff.1 hseed)
      · rw [loadSeeds, hseed]
    | ok c =>
      have hdescribes := SeedEntity.describes_of_collection hseed
      obtain ⟨stored, written, next, grown, hwrite, hcount, hnext, htakes⟩ |
        ⟨schema, hschema, hother, hwrite⟩ := h.exists_takes_or c
      · obtain ⟨loaded, rest, more, later, rfl, hloads, hloaded, hends⟩ := ih hnext
        refine ⟨seed :: loaded, rest, stored ++ more, later, rfl, .cons hdescribes htakes hloads,
          ?_, hends.imp_right ?_⟩
        · rw [loadSeeds_cons hseed hwrite, hloaded, hcount, List.map_append, List.sum_append]
          rfl
        · rintro ⟨last, after, e, rfl, hrefuses, hends⟩
          refine ⟨last, after, e, rfl, hrefuses, ?_⟩
          rw [loadSeeds_cons hseed hwrite, hends]
          rfl
      · have hrefuses := RefusesSeed.other hdescribes hschema hother
        refine ⟨[], _, [], db, rfl, .nil db, rfl, .inr ⟨seed, seeds, _, rfl, hrefuses, ?_⟩⟩
        rw [loadSeeds, hseed]
        dsimp only
        rw [hwrite]

end Database

open Database

/-- A text that is no seed document changes nothing. The entities of one that is are taken in order,
    up to the first that is refused, if there is one: what is stored then is what the entities
    before it come to. Each of these makes sense, and is passed over if it was stored with the same
    schema; the new ones have the records of the document, all other entities have what they had,
    and if none is refused the answer is the number of records of the new ones. -/
theorem loadSeed_stores_whole_entities {db : Database} (h : db.Reachable) (document : String) :
    ((¬∃ seeds, SeedDocument.Lists document seeds) →
      db.loadSeed document = (.error SeedEntity.malformed, db)) ∧
      ∀ seeds, SeedDocument.Lists document seeds → ∃ loaded rest stored later,
        seeds = loaded ++ rest ∧ db.Loads loaded stored later ∧ db.Gains stored later ∧
          loadSeeds loaded db = (.ok (stored.map (·.size)).sum, later) ∧
          (rest = [] ∧ db.loadSeed document = (.ok (stored.map (·.size)).sum, later) ∨
            ∃ seed after e, rest = seed :: after ∧ later.RefusesSeed seed e ∧
              db.loadSeed document = (.error e, later)) := by
  obtain ⟨store, h⟩ := h.exists_represents
  simp only [← SeedEntity.parseAll?_eq_some_iff]
  refine ⟨fun hnone => ?_, fun seeds hseeds => ?_⟩
  · rw [loadSeed, Option.eq_none_iff_forall_ne_some.2 fun seeds hseeds => hnone ⟨seeds, hseeds⟩]
  obtain ⟨loaded, rest, stored, later, rfl, hloads, hloaded, hends⟩ := h.exists_loads seeds
  refine ⟨loaded, rest, stored, later, rfl, hloads, hloads.gains, hloaded, ?_⟩
  rw [loadSeed, hseeds]
  dsimp only
  refine hends.imp_left ?_
  rintro rfl
  exact ⟨rfl, by rw [List.append_nil, hloaded]⟩

/-- Vendors, who have numbers and nothing else. -/
def vendors : Schema :=
  ⟨"Vendor", "No", [], by decide, List.nodup_singleton _⟩

/-- Vendors in a document. -/
def seedVendors (records : List Json) : SeedEntity :=
  ⟨"Vendor", "No", [], records⟩

theorem declares_vendors (records : List Json) : (seedVendors records).Declares vendors :=
  ⟨rfl, rfl, .nil⟩

/-- Currencies, which have names. -/
def currencies : Schema :=
  ⟨"Currency", "Code", [⟨"Name", .text⟩], by decide, by decide⟩

/-- Currencies in a document. -/
def seedCurrencies (records : List Json) : SeedEntity :=
  ⟨"Currency", "Code", [⟨"Name", "text"⟩], records⟩

theorem declares_currencies (records : List Json) : (seedCurrencies records).Declares currencies :=
  ⟨rfl, rfl, .cons ⟨rfl, Kind.ofName?_eq_some_iff.1 rfl⟩ .nil⟩

/-- A vendor, two currencies, and a third one apart from them. -/
def currencySeed : String :=
  "[[\"Vendor\",\"No\",[],[\x7b\"No\":7\x7d]],\n" ++
  "\x7b\"records\":[\x7b\"Code\":\"AUD\",\"Name\":null\x7d,\x7b\"Code\":\"CAD\"\x7d],\n" ++
  "\"identifier\":\"Code\",\"attributes\":[[\"Name\",\"text\"]],\"entity\":\"Currency\"\x7d,\n" ++
  "[\"Currency\",\"Code\",[[\"Name\",\"text\"]],[\x7b\"Code\":\"EUR\"\x7d]]]"

set_option maxRecDepth 4000 in
theorem currencySeed_lists : SeedDocument.Lists currencySeed
    [seedVendors [.object [("No", .integer 7)]],
      seedCurrencies [.object [("Code", .string "AUD"), ("Name", .null)],
        .object [("Code", .string "CAD")]],
      seedCurrencies [.object [("Code", .string "EUR")]]] :=
  SeedEntity.parseAll?_eq_some_iff.1 (by cbv)

/-- A vendor, another one twice, and orders. -/
def vendorSeed : String :=
  "[[\"Vendor\",\"No\",[],[\x7b\"No\":1\x7d]],\n" ++
  "[\"Vendor\",\"No\",[],[\x7b\"No\":2\x7d,\x7b\"No\":2\x7d]],[\"Order\",\"No\",[]]]"

set_option maxRecDepth 2000 in
theorem vendorSeed_lists : SeedDocument.Lists vendorSeed
    [seedVendors [.object [("No", .integer 1)]],
      seedVendors [.object [("No", .integer 2)], .object [("No", .integer 2)]],
      ⟨"Order", "No", [], []⟩] :=
  SeedEntity.parseAll?_eq_some_iff.1 (by cbv)

/-- Where vendors are stored, the two currencies of the first document are stored and nothing else.
    Where they are not, the second document stores the first vendor, and ends at the one who comes
    twice, although no more vendors would be stored. -/
theorem currencies_and_vendors_loaded :
    (∃ db later c, db = Database.empty.after [.createEntity vendors, .reopen] ∧
      db.loadSeed currencySeed = (.ok 2, later) ∧ db.Gains [c] later ∧ c.schema = currencies ∧
      c.records.toList = [⟨.text "AUD", .ofList [("Name", .null)]⟩, ⟨.text "CAD", .empty⟩]) ∧
    ∃ later c,
      Database.empty.loadSeed vendorSeed = (.error (.duplicateRecord "Vendor" "2"), later) ∧
      Database.empty.Gains [c] later ∧ c.schema = vendors ∧
      c.records.toList = [⟨.integer 1, .empty⟩] := by
  constructor
  · obtain ⟨db, hdb, hreachable⟩ : ∃ db,
        db = Database.empty.after [.createEntity vendors, .reopen] ∧ db.Reachable :=
      ⟨_, rfl, .of_run _⟩
    have hknown : db.schema "Vendor" = .ok vendors := hdb ▸
      (empty_represents.after _).schema_eq_ok_iff.2 ⟨_, rfl, rfl⟩
    have hunknown : db.schema "Currency" = .error (.unknownEntity "Currency") := hdb ▸
      (empty_represents.after _).schema_eq_error_iff.2 ⟨rfl, rfl⟩
    obtain ⟨v, hv, hvendors, -⟩ := (declares_vendors [
      .object [("No", .integer 7)]]).exists_describes rfl (List.nodup_singleton _)
    obtain ⟨c, hc, hcurrencies, hrecords⟩ := (declares_currencies [
      .object [("Code", .string "AUD"), ("Name", .null)],
      .object [("Code", .string "CAD")]]).exists_describes rfl (by decide)
    obtain ⟨d, hd, hagain, -⟩ := (declares_currencies [
      .object [("Code", .string "EUR")]]).exists_describes rfl (List.nodup_singleton _)
    obtain ⟨_, _, stored, later, hsplit, hloads, -, -, hends⟩ :=
      (loadSeed_stores_whole_entities hreachable currencySeed).2 _ currencySeed_lists
    obtain ⟨refused, hcomes, hload⟩ := exists_comesTo hsplit hloads hends
    -- The vendors are passed over, the currencies are stored, and then they are passed over too.
    have hcomes := hcomes.of_known hv (by rw [hvendors]; exact hknown)
    obtain ⟨c', more, next, rfl, hschema, hsame, hgained, hcomes⟩ :=
      hcomes.of_unknown hc (by rw [hcurrencies]; exact hunknown)
    rw [hcurrencies] at hschema
    rw [hrecords] at hsame
    have hnow := hgained.schema (List.mem_singleton_self c')
    rw [hschema] at hnow
    obtain ⟨rfl, rfl, rfl⟩ := (hcomes.of_known hd (by rw [hagain]; exact hnow)).of_nil
    have hsize : c'.size = 2 := congrArg List.length hsame
    refine ⟨db, later, c', hdb, ?_, hgained, hschema, hsame⟩
    rw [hload, List.map_singleton, List.sum_singleton, hsize]
    rfl
  · have hunknown : Database.empty.schema "Vendor" = .error (.unknownEntity "Vendor") := rfl
    obtain ⟨c, hc, hvendors, hrecords⟩ := (declares_vendors [
      .object [("No", .integer 1)]]).exists_describes rfl (List.nodup_singleton _)
    have hfails : (seedVendors [.object [("No", .integer 2)],
        .object [("No", .integer 2)]]).Fails (.duplicateRecord "Vendor" "2") := by
      have hread : vendors.IsDescribed (.object [("No", .integer 2)]) ⟨.integer 2, .empty⟩ :=
        Schema.recordOfJson_eq_ok_iff.1 rfl
      have hrecords : List.Forall₂ vendors.IsDescribed
          [.object [("No", .integer 2)], .object [("No", .integer 2)]]
          ([⟨.integer 2, .empty⟩] ++ [⟨.integer 2, .empty⟩]) := .cons hread (.cons hread .nil)
      exact .repeated (declares_vendors _) hrecords rfl (List.nodup_singleton _)
        (List.mem_singleton.2 rfl)
    obtain ⟨_, _, stored, later, hsplit, hloads, -, -, hends⟩ :=
      (loadSeed_stores_whole_entities (.of_run []) vendorSeed).2 _ vendorSeed_lists
    obtain ⟨refused, hcomes, hload⟩ := exists_comesTo hsplit hloads hends
    obtain ⟨c', more, next, rfl, hschema, hsame, hgained, hcomes⟩ :=
      hcomes.of_unknown hc (by rw [hvendors]; exact hunknown)
    obtain ⟨rfl, rfl, rfl⟩ := hcomes.of_fails hfails
    exact ⟨later, c', hload, hgained, hschema.trans hvendors, hsame.trans hrecords⟩

end PagedQuery
