import Mathlib
import PagedQuery.Commerce.Product
import PagedQuery.Commerce.Store
import PagedQuery.Proofs.Agreement
import PagedQuery.Proofs.Filtering

/-!
# Nulls and absent attributes

A record keeps apart an attribute that holds null and one that is absent, but nothing that reads a
record does: filters, sorts and typed entities all see the attributes through `Record.value?`, which
has no value in either case. So records that differ only in which of the attributes without a value
are null cannot be told apart, and no clause on such an attribute is passed, whatever it asks.

* `Record.Lacks`: an attribute that is null or absent;
* `Record.SameButNulls`, `RecordSource.SameButNulls`: records, and sources, that differ in nothing
  but nulls in the place of absent attributes;
* `Record.SameButNulls.agrees`: such records agree, so that what is known of agreement applies;
* `nulls_indistinguishable`: they answer all queries alike and stand for the same stores and
  products.
-/

namespace PagedQuery

/-! ## Records -/

namespace Record

variable {r s : Record} {name : String}

/-- The attribute is null or absent. -/
def Lacks (r : Record) (name : String) : Prop :=
  r.attributes.get? name = none ∨ r.attributes.get? name = some .null

/-- Two records that are equal, except that an attribute may be null in one and absent in the
    other. -/
structure SameButNulls (r s : Record) : Prop where
  id : r.id = s.id
  attributes : ∀ name,
    r.attributes.get? name = s.attributes.get? name ∨ r.Lacks name ∧ s.Lacks name

theorem SameButNulls.refl (r : Record) : r.SameButNulls r :=
  ⟨rfl, fun _ => .inl rfl⟩

/-- Writing a null where there is nothing changes nothing else. -/
theorem sameButNulls_insert_null (h : r.attributes.get? name = none) :
    SameButNulls ⟨r.id, r.attributes.insert name .null⟩ r := by
  refine ⟨rfl, fun n => ?_⟩
  by_cases hn : n = name
  · subst hn
    exact .inr ⟨.inr (by rw [NameMap.get?_insert, if_pos rfl]), .inl h⟩
  · exact .inl (by rw [NameMap.get?_insert, if_neg hn])

/-- An attribute that is null or absent has no value. -/
theorem Lacks.value?_eq_none (h : r.Lacks name) : r.value? name = none := by
  rw [value?]
  rcases h with h | h <;> rw [h] <;> rfl

/-- Every attribute has the same value in both records, or in neither of them. -/
theorem SameButNulls.value?_eq (h : r.SameButNulls s) (name : String) :
    r.value? name = s.value? name := by
  rcases h.attributes name with heq | ⟨hr, hs⟩
  · rw [value?, value?, heq]
  · rw [hr.value?_eq_none, hs.value?_eq_none]

/-- An attribute is among those that are not null if its value is read. -/
theorem mem_present_iff {b : String × Value} : b ∈ r.present ↔ r.value? b.1 = some b.2 := by
  rw [present, List.mem_filter, value?, Option.filter_eq_some_iff]
  exact and_congr_left fun _ => NameMap.get?_eq_some_iff.symm

/-- What is not null is the same in both records, in the same order. -/
theorem SameButNulls.present_eq (h : r.SameButNulls s) : r.present = s.present :=
  NameMap.eq_of_mem_iff r.present_pairwise s.present_pairwise fun b => by
    rw [mem_present_iff, mem_present_iff, h.value?_eq]

theorem SameButNulls.agrees (h : r.SameButNulls s) : r.Agrees s where
  id := h.id
  present := h.present_eq ▸ (Agrees.refl r).present

/-! ## Typed entities -/

variable {α : Type}

theorem SameButNulls.integerId_eq (h : r.SameButNulls s) : r.integerId = s.integerId := by
  rw [integerId, integerId, h.id]

theorem SameButNulls.required_eq (h : r.SameButNulls s) (name : String)
    (content : String → Value → Except Error α) :
    r.required name content = s.required name content := by
  rw [required, required, h.value?_eq, h.id]

theorem SameButNulls.optional_eq (h : r.SameButNulls s) (name : String)
    (content : String → Value → Except Error α) :
    r.optional name content = s.optional name content := by
  rw [optional, optional, h.value?_eq]

/-- Both records stand for the same store, or neither does, for the same reason. -/
theorem SameButNulls.store_eq (h : r.SameButNulls s) :
    Commerce.Store.ofRecord r = Commerce.Store.ofRecord s := by
  simp only [Commerce.Store.ofRecord, h.integerId_eq, h.required_eq, h.optional_eq]

/-- Both records stand for the same product, or neither does, for the same reason. -/
theorem SameButNulls.product_eq (h : r.SameButNulls s) :
    Commerce.Product.ofRecord r = Commerce.Product.ofRecord s := by
  simp only [Commerce.Product.ofRecord, h.integerId_eq, h.required_eq, h.optional_eq]

end Record

/-! ## Clauses -/

section

variable {schema : Schema} {name : String} {a : Attribute} {predicate : Predicate} {clause : Clause}
  {criteria : Criteria} {compiled : CompiledFilter} {r : Record}

/-- Where there is no value no clause is passed. -/
theorem Record.Lacks.not_accepts (hlacks : r.Lacks name)
    (hname : schema.resolve name = .ok (.declared a))
    (h : predicate.compile schema name = .ok clause) : clause.accepts r = false := by
  have hfield : clause.field = .declared a :=
    Except.ok.inj ((Predicate.compile_eq_ok_iff.1 h).1.symm.trans hname)
  rw [Clause.accepts, hfield, field?, Schema.name_of_resolve hname, hlacks.value?_eq_none,
    Option.any_none]

/-- Criteria with a predicate on an attribute pass no record where it is null or absent. -/
theorem Record.Lacks.not_accepts_compiled (hlacks : r.Lacks name)
    (hname : schema.resolve name = .ok (.declared a))
    (hmem : criteria.get? name = some predicate)
    (h : criteria.compile schema = .ok compiled) : compiled.accepts r = false := by
  obtain ⟨clause, hclause, hcompile⟩ := Criteria.exists_clause h (NameMap.mem_of_get? hmem)
  rw [CompiledFilter.accepts, List.all_eq_false]
  exact ⟨clause, hclause, by simp [hlacks.not_accepts hname hcompile]⟩

end

/-! ## Sources -/

/-- Two sources with the same schema whose records are the same one by one, except for nulls in the
    place of absent attributes, or that fail alike. -/
structure RecordSource.SameButNulls (source other : RecordSource) : Prop where
  schema : source.schema = other.schema
  scan : SameOutcome (List.Forall₂ Record.SameButNulls) source.scan other.scan

namespace RecordSource

variable {source other : RecordSource}

theorem SameButNulls.agrees (h : source.SameButNulls other) : source.Agrees other where
  schema := h.schema
  scan := h.scan.imp fun _ _ hrecords => hrecords.imp fun _ _ hrs => hrs.agrees

/-- A null and an absent attribute cannot be told apart. Two sources that differ in nothing else
    answer every query with the same error or with the same identifiers and totals, and count
    alike. What is asked of an attribute that is null or absent is not met, even by a range without
    bounds or where null itself is asked for. Records that differ in nothing else stand for the same
    store and the same product, or fail to with the same error. -/
theorem nulls_indistinguishable (h : source.SameButNulls other) :
    (∀ filter sort request,
      (source.query filter sort request).map (Page.map Record.id) =
        (other.query filter sort request).map (Page.map Record.id)) ∧
    (∀ filter, source.count filter = other.count filter) ∧
    (∀ name a r, source.schema.resolve name = .ok (.declared a) → r.Lacks name →
      (∀ predicate clause, Predicate.compile source.schema name predicate = .ok clause →
        clause.accepts r = false) ∧
      ∀ criteria compiled, Criteria.compile criteria source.schema = .ok compiled →
        criteria.contains name = true → compiled.accepts r = false) ∧
    ∀ r s, r.SameButNulls s → Commerce.Store.ofRecord r = Commerce.Store.ofRecord s ∧
      Commerce.Product.ofRecord r = Commerce.Product.ofRecord s := by
  refine ⟨h.agrees.query_ids, h.agrees.count, fun name a r hname hlacks => ⟨?_, ?_⟩,
    fun r s hrs => ⟨hrs.store_eq, hrs.product_eq⟩⟩
  · exact fun predicate clause hclause => hlacks.not_accepts hname hclause
  · intro criteria compiled hcompiled hcontains
    obtain ⟨predicate, hmem⟩ := Option.isSome_iff_exists.1 hcontains
    exact hlacks.not_accepts_compiled hname hmem hcompiled

/-- A shop that nobody sells to. -/
def unserved : Record :=
  .ofList (.integer 2) [("Name", .text "Bike World"),
    ("ModifiedDate", .timestamp (Date.midnight ⟨2014, 9, 12, by decide⟩))]

/-- The same shop, with a null for the sales person. -/
def unservedNull : Record :=
  ⟨unserved.id, unserved.attributes.insert "SalesPersonID" .null⟩

/-- A shop, before another one that has a sales person but no name. -/
def shops (first : Record) : RecordSource :=
  ⟨Commerce.Store.schema, .ok [first, .ofList (.integer 1) [("SalesPersonID", .integer 279)]]⟩

/-- With the null or without it, the shop is sorted to the same place, is in no range of sales
    persons, not even in one that starts at null, and is the same store. -/
theorem unserved_indistinguishable :
    (shops unservedNull).SameButNulls (shops unserved) ∧
      ((shops unservedNull).query none (some ⟨"SalesPersonID", .descending⟩) ⟨2, 1⟩).map
          (Page.map Record.id) =
        ((shops unserved).query none (some ⟨"SalesPersonID", .descending⟩) ⟨2, 1⟩).map
          (Page.map Record.id) ∧
      (∃ clause, Predicate.compile Commerce.Store.schema "SalesPersonID"
          (.range (.inclusive .null) .unbounded) = .ok clause ∧
        clause.accepts unservedNull = false) ∧
      Commerce.Store.ofRecord unservedNull = Commerce.Store.ofRecord unserved := by
  have hshop : unservedNull.SameButNulls unserved := Record.sameButNulls_insert_null rfl
  have hshops : (shops unservedNull).SameButNulls (shops unserved) :=
    ⟨rfl, .ok (.cons hshop (.cons (.refl _) .nil))⟩
  obtain ⟨hquery, -, hclause, htyped⟩ := nulls_indistinguishable hshops
  refine ⟨hshops, hquery _ _ _, ⟨_, rfl, ?_⟩, (htyped _ _ hshop).1⟩
  exact (hclause "SalesPersonID" _ unservedNull rfl (.inr rfl)).1
    (.range (.inclusive .null) .unbounded) _ rfl

end RecordSource

end PagedQuery
