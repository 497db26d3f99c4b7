import Mathlib
import PagedQuery.Commerce.Product
import PagedQuery.Commerce.Store
import PagedQuery.Proofs.Decimal.Order
import PagedQuery.Proofs.Filtering
import PagedQuery.Proofs.Repository

/-!
# Looking for products and stores

What a filter for products or stores says can be said of the products and stores themselves
(`ProductFilter.Holds`, `StoreFilter.Holds`), and a repository finds just those of which it holds.
The criteria of a filter ask the same of their records: a clause for each thing that is set, under
the name of the attribute that it is about, and none for what is not set. A product without a color
and a store without a sales person have null there, which passes no clause.

* `Product.ofRecord_toRecord`, `Store.ofRecord_toRecord`: both are read back from their records;
* `ProductFilter.exists_compile`, `StoreFilter.exists_compile`: what the criteria of a filter mean;
* `typed_search_finds_matches`: the main result.
-/

namespace PagedQuery

open Text

/-! ## Predicates -/

namespace Matcher

theorem accepts_contains_iff {needle s : String} :
    (Predicate.contains needle).matcher.accepts (.text s) = true ↔
      lowercase needle.toList <:+: lowercase s.toList :=
  occurs_iff

theorem accepts_equals_text_iff {s t : String} :
    (Predicate.equals (.text s)).matcher.accepts (.text t) = true ↔ t = s := by
  show (Ord.compare t s).isEq = true ↔ t = s
  rw [Ordering.isEq_iff_eq_eq, Std.compare_eq_iff_eq]

theorem accepts_equals_integer_iff {m n : Int64} :
    (Predicate.equals (.integer m)).matcher.accepts (.integer n) = true ↔ n = m := by
  show (Ord.compare n m).isEq = true ↔ n = m
  rw [Ordering.isEq_iff_eq_eq, Std.compare_eq_iff_eq]

theorem accepts_atLeast_timestamp_iff {since t : Timestamp} :
    (Predicate.atLeast (.timestamp since)).matcher.accepts (.timestamp t) = true ↔
      Ord.compare t since ≠ .lt := by
  show ((Ord.compare t since).isGE && true) = true ↔ _
  rw [Bool.and_true]
  cases Ord.compare t since <;> decide

end Matcher

/-- A clause passes if the value of its field is there and passes. -/
theorem accepts_field_iff {s : Schema} {name : String} {field : Field} {m : Matcher} {r : Record}
    {v? : Option Value} (hfield : s.resolve name = .ok field) (hvalue : r.field? field = v?) :
    (∃ field, s.resolve name = .ok field ∧ Clause.accepts ⟨field, m⟩ r = true) ↔
      v?.any m.accepts = true := by
  subst hvalue
  constructor
  · rintro ⟨_, hfield', haccepts⟩
    cases hfield.symm.trans hfield'
    exact haccepts
  · exact fun haccepts => ⟨field, hfield, haccepts⟩

/-- What is asked for when something is set, and under which name. -/
theorem toList_map_pair {β : Type} (set? : Option β) (name : String) (f : β → Predicate) :
    (set?.map f).toList.map (name, ·) = set?.toList.map fun b => (name, f b) := by
  cases set? <;> rfl

theorem nodup_integerIds {β : Type} {l : List β} {f : β → Int64} (h : (l.map f).Nodup) :
    (l.map fun b => RecordId.integer (f b)).Nodup := by
  have hids := h.map fun _ _ => RecordId.integer.inj
  rwa [List.map_map] at hids

namespace Commerce

/-! ## Products -/

namespace Product

variable (p : Product)

theorem ofRecord_toRecord : ofRecord p.toRecord = .ok p := by
  obtain ⟨id, name, number, color, price, date⟩ := p
  cases color <;> rfl

theorem admits_toRecord : schema.Admits p.toRecord := by
  intro name v hv
  have hmem := NameMap.mem_of_mem_ofList hv
  simp only [List.mem_cons, List.not_mem_nil, or_false, Prod.mk.injEq] at hmem
  rcases hmem with ⟨rfl, rfl⟩ | ⟨rfl, rfl⟩ | ⟨rfl, rfl⟩ | ⟨rfl, rfl⟩ | ⟨rfl, rfl⟩
  case inr.inr.inl =>
    refine ⟨_, rfl, ?_⟩
    cases p.color with
    | none => exact .inl rfl
    | some s => exact .inr rfl
  all_goals exact ⟨_, rfl, .inr rfl⟩

theorem field?_name : p.toRecord.field? (.declared ⟨"Name", .text⟩) = some (.text p.name) := rfl

theorem field?_productNumber :
    p.toRecord.field? (.declared ⟨"ProductNumber", .text⟩) = some (.text p.productNumber) := rfl

theorem field?_listPrice :
    p.toRecord.field? (.declared ⟨"ListPrice", .decimal⟩) = some (.decimal p.listPrice) := rfl

/-- A color that is missing is null in the record, and a null is no value. -/
theorem field?_color : p.toRecord.field? (.declared ⟨"Color", .text⟩) = p.color.map .text := by
  obtain ⟨id, name, number, color, price, date⟩ := p
  cases color <;> rfl

instance : RecordedEntity Product := { toRecord, admits := admits_toRecord, ofRecord_toRecord }

end Product

namespace ProductFilter

/-- A filter holds of a product if everything holds that is set. Letters of the name and of the
    product number are compared in lower case, those of the color as they are; the ends of the range
    of prices belong to it. -/
@[mk_iff]
structure Holds (filter : ProductFilter) (p : Product) : Prop where
  name : ∀ s ∈ filter.name, lowercase s.toList <:+: lowercase p.name.toList
  productNumber : ∀ s ∈ filter.productNumber,
    lowercase s.toList <:+: lowercase p.productNumber.toList
  color : ∀ s ∈ filter.color, p.color = some s
  minListPrice : ∀ least ∈ filter.minListPrice, least.toRat ≤ p.listPrice.toRat
  maxListPrice : ∀ most ∈ filter.maxListPrice, p.listPrice.toRat ≤ most.toRat

instance (filter : ProductFilter) : DecidablePred filter.Holds := fun _ =>
  decidable_of_iff _ (holds_iff ..).symm

/-- The bounds of a range of decimals are compared as numbers. -/
theorem accepts_range_iff {lower upper : Option Decimal} {d : Decimal} :
    (Predicate.range (priceBound lower) (priceBound upper)).matcher.accepts (.decimal d) = true ↔
      (∀ least ∈ lower, least.toRat ≤ d.toRat) ∧ ∀ most ∈ upper, d.toRat ≤ most.toRat := by
  have hlower : (priceBound lower).admitsAbove (.decimal d) = true ↔
      ∀ least ∈ lower, least.toRat ≤ d.toRat := by
    cases lower with
    | none => simp [priceBound, Bound.admitsAbove]
    | some least =>
      show (Ord.compare d least).isGE = true ↔ _
      rw [Decimal.compare_eq, Std.LawfulLECmp.isGE_iff_ge]
      simp
  have hupper : (priceBound upper).admitsBelow (.decimal d) = true ↔
      ∀ most ∈ upper, d.toRat ≤ most.toRat := by
    cases upper with
    | none => simp [priceBound, Bound.admitsBelow]
    | some most =>
      show (Ord.compare d most).isLE = true ↔ _
      rw [Decimal.compare_eq, Std.LawfulBCmp.isLE_iff_le]
      simp
  rw [← hlower, ← hupper, ← Bool.and_eq_true]
  rfl

theorem check_range (lower upper : Option Decimal) :
    (Predicate.range (priceBound lower) (priceBound upper)).check "ListPrice"
      (.declared ⟨"ListPrice", .decimal⟩) = .ok () := by
  cases lower <;> cases upper <;> rfl

/-- There is a range if it has an end, and this is the range. -/
theorem mem_priceRange?_iff {filter : ProductFilter} {range : Predicate} :
    range ∈ filter.priceRange? ↔
      (filter.minListPrice.isSome ∨ filter.maxListPrice.isSome) ∧
        range = .range (priceBound filter.minListPrice) (priceBound filter.maxListPrice) := by
  rw [priceRange?, ← Bool.or_eq_true]
  split
  · next h => rw [and_iff_right h, Option.mem_some_iff, eq_comm]
  · next h => exact iff_of_false nofun fun hrange => h hrange.1

/-- A price passes the range, if there is one, if it lies within the ends that there are. -/
theorem forall_priceRange?_iff {filter : ProductFilter} {d : Decimal} :
    (∀ range ∈ filter.priceRange?, range.matcher.accepts (.decimal d) = true) ↔
      (∀ least ∈ filter.minListPrice, least.toRat ≤ d.toRat) ∧
        ∀ most ∈ filter.maxListPrice, d.toRat ≤ most.toRat := by
  rw [← accepts_range_iff]
  constructor
  · intro h
    by_cases hends : filter.minListPrice.isSome ∨ filter.maxListPrice.isSome
    · exact h _ (mem_priceRange?_iff.2 ⟨hends, rfl⟩)
    · rw [not_or, Option.not_isSome_iff_eq_none, Option.not_isSome_iff_eq_none] at hends
      rw [hends.1, hends.2]
      rfl
  · intro h range hrange
    rw [(mem_priceRange?_iff.1 hrange).2]
    exact h

/-- What may be asked for, in the order in which a filter has it. -/
def parts (filter : ProductFilter) : List (String × Option Predicate) :=
  [("Name", filter.name.map .contains), ("ProductNumber", filter.productNumber.map .contains),
    ("Color", filter.color.map fun s => .equals (.text s)), ("ListPrice", filter.priceRange?)]

theorem criteria_eq (filter : ProductFilter) :
    filter.criteria = .ofList (Criteria.given filter.parts) := by
  simp only [criteria, Criteria.given, parts, List.flatMap_cons, List.flatMap_nil,
    List.flatten_cons, List.flatten_nil, toList_map_pair]

/-- The criteria of a filter compile, and the record of a product passes if the filter holds of the
    product. -/
theorem exists_compile (filter : ProductFilter) :
    ∃ compiled, filter.criteria.compile Product.schema = .ok compiled ∧
      ∀ p : Product, compiled.accepts p.toRecord = true ↔ filter.Holds p := by
  have hnames : (filter.parts.map (·.1)).Nodup := by
    show ["Name", "ProductNumber", "Color", "ListPrice"].Nodup
    decide
  have hsuits : ∀ part ∈ filter.parts, ∀ predicate ∈ part.2, ∃ field,
      Product.schema.resolve part.1 = .ok field ∧ predicate.check part.1 field = .ok () := by
    simp only [parts, List.forall_mem_cons, Option.forall_mem_map, List.not_mem_nil, false_imp_iff,
      implies_true, and_true]
    refine ⟨fun s _ => ⟨_, rfl, rfl⟩, fun s _ => ⟨_, rfl, rfl⟩, fun s _ => ⟨_, rfl, rfl⟩,
      fun range hrange => ⟨_, rfl, ?_⟩⟩
    rw [(mem_priceRange?_iff.1 hrange).2]
    exact check_range _ _
  obtain ⟨compiled, hcompiled, haccepts⟩ := Criteria.exists_compile_given hnames hsuits
  refine ⟨compiled, by rw [criteria_eq, hcompiled], fun p => ?_⟩
  rw [haccepts, holds_iff]
  simp only [parts, List.forall_mem_cons, Option.forall_mem_map, List.not_mem_nil, false_imp_iff,
      implies_true, and_true]
  refine and_congr ?_ (and_congr ?_ (and_congr ?_ ?_))
  · exact forall₂_congr fun s _ =>
      (accepts_field_iff rfl p.field?_name).trans Matcher.accepts_contains_iff
  · exact forall₂_congr fun s _ =>
      (accepts_field_iff rfl p.field?_productNumber).trans Matcher.accepts_contains_iff
  · refine forall₂_congr fun s _ => (accepts_field_iff rfl p.field?_color).trans ?_
    cases p.color with
    | none => exact iff_of_false nofun nofun
    | some t =>
      rw [Option.some_inj]
      exact Matcher.accepts_equals_text_iff
  · rw [← forall_priceRange?_iff]
    exact forall₂_congr fun range _ => accepts_field_iff rfl p.field?_listPrice

end ProductFilter

/-! ## Stores -/

namespace Store

variable (s : Store)

theorem ofRecord_toRecord : ofRecord s.toRecord = .ok s := by
  obtain ⟨id, name, person, modified⟩ := s
  cases person <;> rfl

theorem admits_toRecord : schema.Admits s.toRecord := by
  intro name v hv
  have hmem := NameMap.mem_of_mem_ofList hv
  simp only [List.mem_cons, List.not_mem_nil, or_false, Prod.mk.injEq] at hmem
  rcases hmem with ⟨rfl, rfl⟩ | ⟨rfl, rfl⟩ | ⟨rfl, rfl⟩
  case inr.inl =>
    refine ⟨_, rfl, ?_⟩
    cases s.salesPersonId with
    | none => exact .inl rfl
    | some n => exact .inr rfl
  all_goals exact ⟨_, rfl, .inr rfl⟩

theorem field?_name : s.toRecord.field? (.declared ⟨"Name", .text⟩) = some (.text s.name) := rfl

/-- A sales person that is missing is null in the record, and a null is no value. -/
theorem field?_salesPersonId :
    s.toRecord.field? (.declared ⟨"SalesPersonID", .integer⟩) = s.salesPersonId.map .integer := by
  obtain ⟨id, name, person, modified⟩ := s
  cases person <;> rfl

theorem field?_modifiedDate :
    s.toRecord.field? (.declared ⟨"ModifiedDate", .timestamp⟩) = some (.timestamp s.modifiedDate) :=
  rfl

instance : RecordedEntity Store := { toRecord, admits := admits_toRecord, ofRecord_toRecord }

end Store

namespace StoreFilter

/-- A filter holds of a store if everything holds that is set. -/
@[mk_iff]
structure Holds (filter : StoreFilter) (s : Store) : Prop where
  name : ∀ t ∈ filter.name, lowercase t.toList <:+: lowercase s.name.toList
  salesPersonId : ∀ n ∈ filter.salesPersonId, s.salesPersonId = some n
  modifiedSince : ∀ since ∈ filter.modifiedSince, compare s.modifiedDate since ≠ .lt

instance (filter : StoreFilter) : DecidablePred filter.Holds := fun _ =>
  decidable_of_iff _ (holds_iff ..).symm

/-- What may be asked for, in the order in which a filter has it. -/
def parts (filter : StoreFilter) : List (String × Option Predicate) :=
  [("Name", filter.name.map .contains),
    ("SalesPersonID", filter.salesPersonId.map fun n => .equals (.integer n)),
    ("ModifiedDate", filter.modifiedSince.map fun t => .atLeast (.timestamp t))]

theorem criteria_eq (filter : StoreFilter) :
    filter.criteria = .ofList (Criteria.given filter.parts) := by
  simp only [criteria, Criteria.given, parts, List.flatMap_cons, List.flatMap_nil,
    List.flatten_cons, List.flatten_nil, toList_map_pair]

/-- The criteria of a filter compile, and the record of a store passes if the filter holds of the
    store. -/
theorem exists_compile (filter : StoreFilter) :
    ∃ compiled, filter.criteria.compile Store.schema = .ok compiled ∧
      ∀ s : Store, compiled.accepts s.toRecord = true ↔ filter.Holds s := by
  have hnames : (filter.parts.map (·.1)).Nodup := by
    show ["Name", "SalesPersonID", "ModifiedDate"].Nodup
    decide
  have hsuits : ∀ part ∈ filter.parts, ∀ predicate ∈ part.2, ∃ field,
      Store.schema.resolve part.1 = .ok field ∧ predicate.check part.1 field = .ok () := by
    simp only [parts, List.forall_mem_cons, Option.forall_mem_map, List.not_mem_nil, false_imp_iff,
      implies_true, and_true]
    exact ⟨fun t _ => ⟨_, rfl, rfl⟩, fun n _ => ⟨_, rfl, rfl⟩, fun since _ => ⟨_, rfl, rfl⟩⟩
  obtain ⟨compiled, hcompiled, haccepts⟩ := Criteria.exists_compile_given hnames hsuits
  refine ⟨compiled, by rw [criteria_eq, hcompiled], fun s => ?_⟩
  rw [haccepts, holds_iff]
  simp only [parts, List.forall_mem_cons, Option.forall_mem_map, List.not_mem_nil, false_imp_iff,
      implies_true, and_true]
  refine and_congr ?_ (and_congr ?_ ?_)
  · exact forall₂_congr fun t _ =>
      (accepts_field_iff rfl s.field?_name).trans Matcher.accepts_contains_iff
  · refine forall₂_congr fun n _ => (accepts_field_iff rfl s.field?_salesPersonId).trans ?_
    cases s.salesPersonId with
    | none => exact iff_of_false nofun nofun
    | some m =>
      rw [Option.some_inj]
      exact Matcher.accepts_equals_integer_iff
  · exact forall₂_congr fun since _ =>
      (accepts_field_iff rfl s.field?_modifiedDate).trans Matcher.accepts_atLeast_timestamp_iff

end StoreFilter

/-! ## Searching -/

/-- Products with different identifiers, and stores likewise, make a collection of records that a
    repository serves. There the criteria of every filter compile, and they find the products and
    stores of which the filter holds: those are counted, and the pages of a search have them, each
    as it was, in their order or in that of a sort. -/
theorem typed_search_finds_matches :
    (∀ products : List Product, (products.map (·.productId)).Nodup →
      ∃ c repository, Collection.ofRecords Product.schema (products.map Product.toRecord) = .ok c ∧
        Repository.of Product c.source = .ok repository ∧ ∀ filter : ProductFilter,
          (∃ compiled, filter.criteria.compile Product.schema = .ok compiled) ∧
          repository.Finds filter.criteria products filter.Holds) ∧
    ∀ stores : List Store, (stores.map (·.businessEntityId)).Nodup →
      ∃ c repository, Collection.ofRecords Store.schema (stores.map Store.toRecord) = .ok c ∧
        Repository.of Store c.source = .ok repository ∧ ∀ filter : StoreFilter,
          (∃ compiled, filter.criteria.compile Store.schema = .ok compiled) ∧
          repository.Finds filter.criteria stores filter.Holds := by
  refine ⟨fun products hids => ?_, fun stores hids => ?_⟩
  · exact Repository.exists_finds (nodup_integerIds hids) ProductFilter.exists_compile
  · exact Repository.exists_finds (nodup_integerIds hids) StoreFilter.exists_compile

/-- Two helmets, and a frame that has no color. -/
def helmetsAndFrame : List Product :=
  [⟨707, "Sport-100 Helmet, Red", "HL-U509-R", some "Red", ⟨3499, 2⟩, ⟨2011, 5, 31, by decide⟩⟩,
    ⟨680, "HL Road Frame", "FR-R92B-58", none, ⟨1431500, 3⟩, ⟨2008, 4, 30, by decide⟩⟩,
    ⟨708, "Sport-100 Helmet, Black", "HL-U509", some "Black", ⟨3499, 2⟩, ⟨2011, 5, 31, by decide⟩⟩]

/-- Red helmets of which the dearest cost what the red one does, written with one more zero. -/
def redHelmets : ProductFilter :=
  ⟨some "HELMET", none, some "Red", none, some ⟨34990, 3⟩⟩

/-- The red helmet is found, and nothing else. -/
theorem redHelmets_found : ∃ c repository page,
    Collection.ofRecords Product.schema (helmetsAndFrame.map Product.toRecord) = .ok c ∧
    Repository.of Product c.source = .ok repository ∧
    repository.count redHelmets.criteria = .ok 1 ∧
    repository.search redHelmets.criteria none ⟨1, 10⟩ = .ok page ∧
    page.items.map (·.productId) = [707] := by
  have hids : (helmetsAndFrame.map (·.productId)).Nodup := by decide
  have hfound : (helmetsAndFrame.filter redHelmets.Holds).map (·.productId) = [707] := by
    decide +kernel
  obtain ⟨c, repository, hc, hrepository, hfinds⟩ :=
    typed_search_finds_matches.1 helmetsAndFrame hids
  obtain ⟨-, hcount, hsearch⟩ := hfinds redHelmets
  obtain ⟨all, page, hpage, -, hall, -, hitems, -⟩ :=
    hsearch none none rfl ⟨1, 10⟩ (by decide) (by decide)
  have hlength : (helmetsAndFrame.filter redHelmets.Holds).length = 1 := by
    rw [← List.length_map (·.productId), hfound]
    rfl
  refine ⟨c, repository, page, hc, hrepository, by rw [hcount, hlength], hpage, ?_⟩
  rw [hitems, hall rfl, List.map_take, List.map_drop, hfound]
  rfl

end Commerce

end PagedQuery
