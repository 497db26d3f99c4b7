import Mathlib
import PagedQuery.Proofs.Paging
import PagedQuery.Proofs.Record.Collection
import PagedQuery.Repository

/-!
# Repositories of values

Where every value has a record that fits and stands for it, a repository over the records of some
values is as good as the values themselves: a filter whose criteria pass just the records of the
values that satisfy a condition finds these values, each as it was.

* `RecordedEntity`: a typed entity whose values have records;
* `Repository.Finds`: what it means that a filter finds the values that satisfy a condition;
* `Repository.exists_over_values`: there is a repository over the records of any values that have
  different identifiers;
* `Repository.finds_of_accepts`, `Repository.exists_finds`: what a filter finds there, and what all
  filters do.
-/

namespace PagedQuery

/-- A typed entity whose values have records. The record of a value fits and stands for it. -/
class RecordedEntity (α : Type) extends Entity α where
  toRecord : α → Record
  admits : ∀ a, schema.Admits (toRecord a)
  ofRecord_toRecord : ∀ a, ofRecord (toRecord a) = .ok a

open RecordedEntity (toRecord)

/-! ## Lists of records -/

section

variable {α : Type}

theorem Page.slice_map {β : Type} (f : α → β) (all : List α) (request : PageRequest) :
    slice (all.map f) request = (slice all request).map f := by
  rw [slice, slice, Page.map, of, of, List.map_take, List.map_drop, List.length_map]

/-- Records that are made of something are arranged as this would be. -/
theorem exists_arrange_map (order : Option (Field × Direction)) (f : α → Record) (l : List α) :
    ∃ all, arrange order (l.map f) = all.map f ∧ all.Perm l ∧ (order = none → all = l) := by
  cases order with
  | none => exact ⟨l, rfl, .rfl, fun _ => rfl⟩
  | some order =>
    obtain ⟨field, direction⟩ := order
    refine ⟨l.mergeSort fun a b => (compareRecords field direction (f a) (f b)).isLE, ?_,
      List.mergeSort_perm _ _, nofun⟩
    symm
    exact List.map_mergeSort (f := f) fun _ _ _ _ => rfl

end

/-! ## Repositories -/

variable {α : Type} [RecordedEntity α] {values : List α} {criteria : Criteria}
  {compiled : CompiledFilter} {p : α → Prop} [DecidablePred p]

theorem mapM_ofRecord (values : List α) :
    (values.map toRecord).mapM Entity.ofRecord = .ok values := by
  rw [mapM_map_eq fun a _ => RecordedEntity.ofRecord_toRecord a]
  exact (mapM_eq_ok fun _ _ => rfl).trans (by rw [List.map_id'])

/-- The records of the values that satisfy a condition are those that pass. -/
theorem filter_map_toRecord (haccepts : ∀ a : α, compiled.accepts (toRecord a) = true ↔ p a) :
    (values.map toRecord).filter compiled.accepts = (values.filter p).map toRecord := by
  rw [List.filter_map]
  congr 1
  refine List.filter_congr fun a _ => ?_
  rw [Function.comp_apply, Bool.eq_iff_iff, haccepts, decide_eq_true_eq]

namespace Repository

variable {repository : Repository α}

/-- A filter finds the values that satisfy a condition: it counts them, and any page of them, in the
    order of a sort or else in their own, has the values that belong there and their number. -/
structure Finds (repository : Repository α) (criteria : Criteria) (values : List α) (p : α → Prop)
    [DecidablePred p] : Prop where
  count : repository.count criteria = .ok (values.filter p).length
  search : ∀ sort order, resolveSort (Entity.schema α) sort = .ok order →
    ∀ request : PageRequest, 1 ≤ request.number → 1 ≤ request.size →
      ∃ all page, repository.search criteria sort request = .ok page ∧
        all.Perm (values.filter p) ∧
        (sort = none → all = values.filter p) ∧
        (∀ field direction, order = some (field, direction) → all.Pairwise fun a b =>
          (compareRecords field direction (toRecord a) (toRecord b)).isLE) ∧
        page.items =
          (all.drop ((request.number.toNat - 1) * request.size.toNat)).take request.size.toNat ∧
        page.totalRecords = (values.filter p).length

/-- Values with different identifiers have a repository over the collection of their records. -/
theorem exists_over_values (hids : (values.map fun a => (toRecord a).id).Nodup) :
    ∃ c repository, Collection.ofRecords (Entity.schema α) (values.map toRecord) = .ok c ∧
      Repository.of α c.source = .ok repository ∧
      repository.source.scan = .ok (values.map toRecord) := by
  have hadmitted : ∀ r ∈ values.map toRecord, (Entity.schema α).validate r = .ok () := by
    rw [List.forall_mem_map]
    exact fun a _ => Schema.validate_eq_ok_iff.2 (RecordedEntity.admits a)
  have hnew : (((Collection.empty (Entity.schema α)).records.toList ++
      values.map toRecord).map (·.id)).Nodup := by
    show ((values.map toRecord).map (·.id)).Nodup
    rwa [List.map_map]
  obtain ⟨c, hc⟩ := Collection.exists_foldlM_insert_of_nodup hadmitted hnew
  obtain ⟨hschema, hrecords⟩ := Collection.ofRecords_eq_ok hc
  exact ⟨c, ⟨c.source, hschema⟩, hc, dif_pos hschema, congrArg Except.ok hrecords⟩

/-- Criteria that pass the records of the values that satisfy a condition find these values. -/
theorem finds_of_accepts (hscan : repository.source.scan = .ok (values.map toRecord))
    (hcompiled : criteria.compile (Entity.schema α) = .ok compiled)
    (haccepts : ∀ a : α, compiled.accepts (toRecord a) = true ↔ p a) :
    repository.Finds criteria values p := by
  have hfilter : compileFilter repository.source.schema (some criteria) = .ok compiled := by
    rw [repository.schema_eq]
    exact hcompiled
  refine ⟨?_, fun sort order horder request hnumber hsize => ?_⟩
  · rw [Repository.count, RecordSource.count, hfilter, hscan]
    show Except.ok ((values.map toRecord).filter compiled.accepts).length = _
    rw [filter_map_toRecord haccepts, List.length_map]
  · rw [UInt32.le_iff_toNat_le, UInt32.toNat_one] at hnumber hsize
    rw [← repository.schema_eq] at horder
    have hresult := RecordSource.result_eq hfilter horder hscan
    rw [filter_map_toRecord haccepts] at hresult
    obtain ⟨all, hall, hperm, hunsorted⟩ := exists_arrange_map order toRecord (values.filter p)
    rw [hall] at hresult
    -- The page of the records is that of the values, made of the records again.
    have hpage : repository.search criteria sort request = .ok (.slice all request) := by
      rw [search, page, RecordSource.query_eq_slice hresult hnumber hsize, ok_bind, Page.slice_map,
        Page.mapM]
      show ((Page.slice all request).items.map toRecord).mapM Entity.ofRecord >>= _ = _
      rw [mapM_ofRecord]
      rfl
    refine ⟨all, _, hpage, hperm, ?_, ?_, Page.slice_items all request, hperm.length_eq⟩
    · rintro rfl
      exact hunsorted (Except.ok.inj horder).symm
    · rintro field direction rfl
      have hsorted := sortRecords_pairwise field direction ((values.filter p).map toRecord)
      rw [arrange] at hall
      rw [hall, List.pairwise_map] at hsorted
      exact hsorted

/-- Values with different identifiers have a repository where every filter finds the values that
    satisfy its condition, if its criteria pass just their records. -/
theorem exists_finds {φ : Type} {criteria : φ → Criteria} {p : φ → α → Prop}
    [∀ filter, DecidablePred (p filter)] (hids : (values.map fun a => (toRecord a).id).Nodup)
    (h : ∀ filter, ∃ compiled, (criteria filter).compile (Entity.schema α) = .ok compiled ∧
      ∀ a : α, compiled.accepts (toRecord a) = true ↔ p filter a) :
    ∃ c repository, Collection.ofRecords (Entity.schema α) (values.map toRecord) = .ok c ∧
      Repository.of α c.source = .ok repository ∧ ∀ filter,
        (∃ compiled, (criteria filter).compile (Entity.schema α) = .ok compiled) ∧
        repository.Finds (criteria filter) values (p filter) := by
  obtain ⟨c, repository, hc, hrepository, hscan⟩ := exists_over_values hids
  refine ⟨c, repository, hc, hrepository, fun filter => ?_⟩
  obtain ⟨compiled, hcompiled, haccepts⟩ := h filter
  exact ⟨⟨compiled, hcompiled⟩, finds_of_accepts hscan hcompiled haccepts⟩

end Repository

end PagedQuery
