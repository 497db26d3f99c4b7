import Mathlib
import PagedQuery.Catalog
import PagedQuery.Http.Respond
import PagedQuery.Proofs.Params.Faults
import PagedQuery.Proofs.Store.Run

/-!
# The service does not fail

Over a catalog, and over a database that only operations have changed, whatever goes wrong with a
query is the fault of the one who asks. Such a provider can read every entity that it lists
(`Provider.Serves`): a catalog because it holds collections, a database because its tables reflect a
store. What is left to go wrong is that the entity is not there, or that the parameters make no
sense.

* `Provider.Intact`, `Provider.Intact.exists_serves`: the providers that are spoken of, and that
  they serve what they list;
* `Service.Ends`: how a query may end, and with which status;
* `query_ends_without_server_error`: every query on an intact provider ends so.
-/

namespace PagedQuery

variable {provider : Provider} {settings : Settings} {names : List String} {entity : String}

/-! ## Providers -/

/-- A provider that can read every entity that it lists, and knows no other. -/
structure Provider.Serves (provider : Provider) (names : List String) : Prop where
  entities : provider.entities = .ok names
  listed : ∀ entity ∈ names, ∃ schema records, provider.source entity = .ok ⟨schema, .ok records⟩
  unlisted : ∀ entity ∉ names, provider.source entity = .error (.unknownEntity entity)

/-- Catalogs, and databases as runs of operations leave them, whatever these answered. -/
inductive Provider.Intact : Provider → Prop
  | catalog (c : Catalog) : Intact c.provider
  | database (operations : List Operation) : Intact (Database.empty.after operations).provider

theorem Catalog.source_eq (c : Catalog) (entity : String) : c.provider.source entity =
    (c.collections.get? entity).elim (.error (.unknownEntity entity)) fun d => .ok d.source := by
  simp only [provider]
  cases c.collections.get? entity <;> rfl

theorem Catalog.serves (c : Catalog) : c.provider.Serves c.collections.keys where
  entities := rfl
  listed := by
    intro entity hentity
    obtain ⟨b, hb, rfl⟩ := List.mem_map.1 hentity
    exact ⟨b.2.schema, b.2.records.toList, by rw [source_eq, NameMap.get?_of_mem hb]; rfl⟩
  unlisted := by
    intro entity hentity
    have hnone : c.collections.get? entity = none := by
      rw [NameMap.get?, List.lookup_eq_none_iff]
      intro b hb
      rw [bne_iff_ne]
      rintro rfl
      exact hentity (List.mem_map_of_mem hb)
    rw [source_eq, hnone]
    rfl

namespace Database

variable {db : Database} {store : Store}

/-- The entities that a database lists are those of the store that its tables hold. -/
theorem Represents.mem_entityNames_iff (h : db.Represents store) :
    entity ∈ db.entityNames ↔ ∃ c, store.collection? entity = some c := by
  rw [entityNames, List.mem_mergeSort, List.mem_map]
  constructor
  · rintro ⟨row, hrow, rfl⟩
    have hpart : row ∈ (db.part row.entity).entities := List.mem_filter.2 ⟨hrow, decide_eq_true rfl⟩
    cases hc : store.collection? row.entity with
    | none =>
      rw [h.part_eq_empty hc] at hpart
      cases hpart
    | some c => exact ⟨c, rfl⟩
  · rintro ⟨c, hc⟩
    have hpart : ⟨c.schema.entity, c.schema.identifier⟩ ∈ (db.part c.schema.entity).entities := by
      rw [h.part_eq hc]
      exact List.mem_singleton_self _
    exact ⟨_, List.mem_of_mem_filter hpart, store.entity_eq hc⟩

theorem Represents.serves (h : db.Represents store) : db.provider.Serves db.entityNames where
  entities := rfl
  listed := by
    intro entity hentity
    obtain ⟨c, hc⟩ := h.mem_entityNames_iff.1 hentity
    obtain ⟨records, hsource, -⟩ := h.reflects.source entity c hc
    exact ⟨c.schema, records, hsource⟩
  unlisted := by
    intro entity hentity
    have hnone : store.collection? entity = none := by
      rw [Option.eq_none_iff_forall_ne_some]
      exact fun c hc => hentity (h.mem_entityNames_iff.2 ⟨c, hc⟩)
    show db.source entity = _
    rw [source, h.schema_eq, hnone]
    rfl

end Database

theorem Provider.Intact.exists_serves (h : provider.Intact) : ∃ names, provider.Serves names := by
  cases h with
  | catalog c => exact ⟨_, c.serves⟩
  | database operations =>
    exact ⟨_, (Database.empty_represents.after operations).serves⟩

/-! ## Queries -/

/-- A query whose criteria compile, of records that can be read, fails only over parameters. -/
theorem RecordSource.query_failsOnParameters {source : RecordSource} {criteria : Criteria}
    {compiled : CompiledFilter} {records : List Record}
    (hcompiled : criteria.compile source.schema = .ok compiled) (hscan : source.scan = .ok records)
    (sort : Option SortSpec) (page : PageRequest) :
    FailsOnParameters (source.query (some criteria) sort page) := by
  have hfilter : compileFilter source.schema (some criteria) = .ok compiled := hcompiled
  have hresult : FailsOnParameters (source.result (some criteria) sort) := by
    rw [result, hfilter, hscan]
    exact (resolveSort_failsOnParameters _ sort).bind fun _ _ => .ok _
  exact page.validate_failsOnParameters.bind fun _ _ => hresult.bind fun _ _ => .ok _

namespace Service

/-- How a query on an entity may end, and with which status, where some entities are listed. -/
inductive Ends (names : List String) (entity : String) : Except Error (Page Record) → ℕ → Prop
  | page (page : Page Record) : entity ∈ names → Ends names entity (.ok page) 200
  | unknownEntity : entity ∉ names → Ends names entity (.error (.unknownEntity entity)) 404
  | invalidArgument (reason : String) : entity ∈ names →
      Ends names entity (.error (.invalidArgument reason)) 400
  | unknownAttribute (of name : String) : entity ∈ names →
      Ends names entity (.error (.unknownAttribute of name)) 400

theorem query_failsOnParameters (h : provider.Serves names) (hentity : entity ∈ names)
    (params : List (String × String)) :
    FailsOnParameters (query ⟨provider, settings⟩ entity params) := by
  obtain ⟨schema, records, hsource⟩ := h.listed entity hentity
  rw [query, hsource]
  refine (QueryParams.parse_failsOnParameters schema settings params).bind fun q hq => ?_
  obtain ⟨compiled, hcompiled⟩ := QueryParams.exists_compile_of_parse hq
  exact RecordSource.query_failsOnParameters hcompiled rfl q.sort q.page

theorem exists_ends (h : provider.Serves names) (settings : Settings) (entity : String)
    (params : List (String × String)) :
    ∃ status, Ends names entity (query ⟨provider, settings⟩ entity params) status := by
  by_cases hentity : entity ∈ names
  · have hfails : FailsOnParameters (query ⟨provider, settings⟩ entity params) :=
      query_failsOnParameters h hentity params
    cases hresult : query ⟨provider, settings⟩ entity params with
    | ok page => exact ⟨_, .page page hentity⟩
    | error e =>
      cases hfails e hresult with
      | malformed reason => exact ⟨_, .invalidArgument reason hentity⟩
      | unknown of name => exact ⟨_, .unknownAttribute of name hentity⟩
  · rw [query, h.unlisted entity hentity]
    exact ⟨_, .unknownEntity hentity⟩

/-- The status is the one that is answered. -/
theorem Ends.status_answer {service : Service} {params : List (String × String)} {status : ℕ}
    (h : Ends names entity (service.query entity params) status) {segment : List Char}
    (hsegment : Http.segment? segment = some entity) :
    (Http.answer service (.entity segment) params).status = status := by
  have hanswer : Http.answer service (.entity segment) params = .ofResult
      ((service.query entity params).map fun page => (page.map Record.toJson).toJson) := by
    rw [Http.answer, hsegment]
  rw [hanswer]
  generalize service.query entity params = result at h
  cases h <;> rfl

end Service

/-- A query on a catalog, or on a database that only operations have changed, ends with a page or
    with the fault of the one who asks: an entity that is not listed, a malformed parameter, or an
    unknown attribute. What is parsed of the parameters always compiles. -/
theorem query_ends_without_server_error (h : provider.Intact) (settings : Settings) :
    (∃ names, provider.entities = .ok names ∧ ∀ entity params, ∃ status,
      Service.Ends names entity (Service.query ⟨provider, settings⟩ entity params) status ∧
      ∀ segment, Http.segment? segment = some entity →
        (Http.answer ⟨provider, settings⟩ (.entity segment) params).status = status) ∧
      ∀ schema params query, QueryParams.parse schema settings params = .ok query →
        ∃ compiled, query.filter.compile schema = .ok compiled := by
  obtain ⟨names, hserves⟩ := h.exists_serves
  refine ⟨⟨names, hserves.entities, fun entity params => ?_⟩, fun schema params query =>
    QueryParams.exists_compile_of_parse⟩
  obtain ⟨status, hends⟩ := Service.exists_ends hserves settings entity params
  exact ⟨status, hends, fun segment => hends.status_answer⟩

/-- A database that three offers have been put into lists them, and answers a query for those with
    at least a given discount with a page of the one that has it. -/
theorem threeOffers_served :
    (Database.empty.after [.persistCollection threeOffers]).provider.entities = .ok ["Offer"] ∧
      ∃ page, Service.query
          ⟨(Database.empty.after [.persistCollection threeOffers]).provider, .default⟩
          "Offer" [("Discount.min", "1.5"), ("sortBy", "MaxQty")] = .ok page ∧
        Service.Ends ["Offer"] "Offer" (.ok page) 200 ∧ page.items.map (·.id) = [.integer 1] ∧
        (Http.answer ⟨(Database.empty.after [.persistCollection threeOffers]).provider, .default⟩
          (.entity ['O', 'f', 'f', 'e', 'r'])
          [("Discount.min", "1.5"), ("sortBy", "MaxQty")]).status = 200 := by
  obtain ⟨⟨names, hnames, hquery⟩, -⟩ :=
    query_ends_without_server_error (.database [.persistCollection threeOffers]) .default
  obtain ⟨status, hends, hstatus⟩ := hquery "Offer" [("Discount.min", "1.5"), ("sortBy", "MaxQty")]
  have hrows : (Database.empty.after [.persistCollection threeOffers]).entities =
      [⟨"Offer", "OfferID"⟩] := rfl
  have hlisted : (Database.empty.after [.persistCollection threeOffers]).provider.entities =
      .ok ["Offer"] := by
    rw [Database.provider, Database.entityNames, hrows]
    exact congrArg Except.ok (List.mergeSort_singleton _)
  obtain rfl := Except.ok.inj (hnames.symm.trans hlisted)
  -- The page is the one that the collection answers with, but for nulls.
  obtain ⟨q, hparse, hpage, hresult⟩ : ∃ q, QueryParams.parse threeOffers.schema .default
      [("Discount.min", "1.5"), ("sortBy", "MaxQty")] = .ok q ∧ q.page = ⟨1, 10⟩ ∧
        threeOffers.source.result (some q.filter) q.sort =
          .ok [.ofList (.integer 1) [("Discount", .decimal ⟨150, 2⟩), ("MaxQty", .null)]] :=
    ⟨_, rfl, rfl, congrArg Except.ok (List.mergeSort_singleton _)⟩
  have hoffers : (threeOffers.source.query (some q.filter) q.sort q.page).map (Page.map Record.id) =
      .ok (Page.slice [.integer 1] ⟨1, 10⟩) := by
    rw [RecordSource.query, hpage, hresult]
    rfl
  obtain ⟨records, hschema, hscan, hall⟩ := exists_scan_of_persistCollection threeOffers
  have hagrees : threeOffers.source.Agrees ⟨threeOffers.schema, .ok records⟩ := ⟨rfl, .ok hall⟩
  rw [hagrees.query_ids] at hoffers
  obtain ⟨page, hread, hids⟩ := map_eq_ok.1 hoffers
  have hanswer : Service.query
      ⟨(Database.empty.after [.persistCollection threeOffers]).provider, .default⟩
      "Offer" [("Discount.min", "1.5"), ("sortBy", "MaxQty")] = .ok page := by
    have hsource : (Database.empty.after [.persistCollection threeOffers]).source "Offer" =
        .ok ⟨threeOffers.schema, .ok records⟩ :=
      Database.source_eq_ok_iff.2 ⟨hschema, hscan⟩
    show (Database.source _ "Offer" >>= _) = _
    rw [hsource, ok_bind]
    dsimp only
    rw [hparse, ok_bind]
    exact hread
  rw [hanswer] at hends
  obtain rfl : status = 200 := by
    cases hends
    rfl
  exact ⟨hlisted, page, hanswer, hends, congrArg Page.items hids, hstatus _ (by rfl)⟩

end PagedQuery
