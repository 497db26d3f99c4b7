import Mathlib
import PagedQuery.Commerce.Product
import PagedQuery.Proofs.Lookup
import PagedQuery.Repository

/-!
# Finding values and listing them

A repository makes values of records in two ways: it finds the record with an identifier, and it
lists all records, page by page. The first goes through a filter, and the second through a sort, but
where no two records have the same identifier both see the same: what is found under an identifier
is made of the one record that has it (`find_of_mem`), and a page has what is made of the records
that belong there, in the order of their identifiers (`get_eq`). So each item of a page is what is
found under the identifier of its record.

* `PageRequest.share`: the part of a list that belongs on a page;
* `pairwise_sortRecords_identifier`: the records in the order of their identifiers;
* `Repository.find_eq`, `Repository.find_of_mem`, `Repository.find_eq_none_iff`: what is found;
* `Repository.get_eq`, `Repository.get_of_not_valid`: what a page is made of;
* `Repository.Lists`, `Repository.lists_share`: what a page has on it, and what it fails with;
* `find_agrees_with_get`: the main result.
-/

namespace PagedQuery

variable {α : Type} {records : List Record} {r : Record} {id : RecordId} {request : PageRequest}
  {e : Error}

/-- The part of a list that belongs on a page. -/
def PageRequest.share (request : PageRequest) (all : List α) : List α :=
  (all.drop ((request.number.toNat - 1) * request.size.toNat)).take request.size.toNat

/-! ## Pages that are converted -/

/-- A page is converted by a walk through its items. -/
theorem Page.mapM_eq_map {β : Type} {f : α → Except Error β} {page : Page α} :
    page.mapM f = (page.items.mapM f).map fun items => { page with items } := by
  rw [Page.mapM]
  rcases page.items.mapM f with e | items <;> rfl

/-! ## Records in the order of their identifiers -/

theorem compareRecords_identifier (a b : Record) :
    compareRecords .identifier .ascending a b = compare a.id b.id := by
  have hkeys : compare (a.field? .identifier) (b.field? .identifier) = compare a.id b.id :=
    RecordId.compare_toValue a.id b.id
  rw [compareRecords, Direction.apply, hkeys]
  rcases compare a.id b.id <;> rfl

/-- Records with different identifiers are listed in strictly ascending order of these. -/
theorem pairwise_sortRecords_identifier (hids : (records.map (·.id)).Nodup) :
    (sortRecords .identifier .ascending records).Pairwise fun a b => compare a.id b.id = .lt := by
  have hdistinct := List.pairwise_map.1
    (((sortRecords_perm .identifier .ascending records).map (·.id)).nodup_iff.2 hids)
  refine ((sortRecords_pairwise _ _ records).and hdistinct).imp fun {a b} h => ?_
  obtain ⟨hle, hne⟩ := h
  rw [compareRecords_identifier] at hle
  exact (Ordering.isLE_iff_eq_lt_or_eq_eq.1 hle).resolve_right
    fun heq => hne (Std.LawfulEqOrd.eq_of_compare heq)

namespace Repository

variable [Entity α] {repository : Repository α}

/-! ## Finding -/

/-- What is found is made of the first record with the identifier, which is the only one. -/
theorem find_eq (hscan : repository.source.scan = .ok records)
    (hids : (records.map (·.id)).Nodup) (id : RecordId) :
    repository.find id = (records.filter (·.id = id)).head?.mapM Entity.ofRecord := by
  have hsize : 1 ≤ (1 : UInt32).toNat := by decide
  obtain ⟨page, hpage, hitems, -⟩ := query_identifier_of_nodup hscan hids id hsize
  have hfirst : PageRequest.first 1 = .ok ⟨1, 1⟩ := rfl
  have hquery : repository.source.query (some (repository.identifies id)) none ⟨1, 1⟩ =
    .ok page := hpage
  rw [find, hfirst, ok_bind, hquery, ok_bind, hitems]

theorem find_of_mem (hscan : repository.source.scan = .ok records)
    (hids : (records.map (·.id)).Nodup) (hr : r ∈ records) :
    repository.find r.id = (Entity.ofRecord r).map some := by
  rw [find_eq hscan hids, filter_id_eq_of_nodup hids hr]
  rfl

theorem find_eq_none_iff (hscan : repository.source.scan = .ok records)
    (hids : (records.map (·.id)).Nodup) :
    repository.find id = .ok none ↔ ∀ r ∈ records, r.id ≠ id := by
  constructor
  · rintro h r hr rfl
    rw [find_of_mem hscan hids hr] at h
    obtain ⟨a, -, ha⟩ := map_eq_ok.1 h
    exact Option.some_ne_none a ha
  · intro h
    have hnone : records.filter (·.id = id) = [] := by simpa using h
    rw [find_eq hscan hids, hnone]
    rfl

/-! ## Listing -/

theorem get_eq (hscan : repository.source.scan = .ok records) (hvalid : request.validate = .ok ()) :
    repository.get request =
      (Page.slice (sortRecords .identifier .ascending records) request).mapM Entity.ofRecord := by
  obtain ⟨hnumber, hsize⟩ := PageRequest.validate_eq_ok_iff.1 hvalid
  have hsort : resolveSort repository.source.schema
      (some ⟨repository.source.schema.identifier, .ascending⟩) =
        .ok (some (.identifier, .ascending)) := by
    rw [resolveSort, SortSpec.resolve, Schema.resolve, if_pos rfl]
    rfl
  have hfilter : compileFilter repository.source.schema none = .ok [] := rfl
  have hpass : records.filter (CompiledFilter.accepts []) = records :=
    List.filter_eq_self.2 fun _ _ => rfl
  have hall := RecordSource.result_eq hfilter hsort hscan
  rw [hpass] at hall
  rw [get, page, RecordSource.query_eq_slice hall hnumber hsize, ok_bind]
  rfl

theorem get_of_not_valid (h : request.validate = .error e) : repository.get request = .error e := by
  rw [get, page, RecordSource.query, h]
  rfl

/-- A page of records that are sorted is answered with the values that they stand for, or fails with
    the first of them that stands for none. -/
structure Lists (repository : Repository α) (request : PageRequest) (onPage : List Record) :
    Prop where
  exists_iff : (∃ page, repository.get request = .ok page) ↔
    ∀ r ∈ onPage, ∃ a : α, Entity.ofRecord r = .ok a
  items : ∀ page, repository.get request = .ok page → List.Forall₂ (fun r a =>
    Entity.ofRecord r = .ok a ∧ repository.find r.id = .ok (some a)) onPage page.items
  error_iff : ∀ e, repository.get request = .error e ↔ ∃ before r rest,
    onPage = before ++ r :: rest ∧ (∀ b ∈ before, ∃ a : α, Entity.ofRecord b = .ok a) ∧
      (Entity.ofRecord r : Except Error α) = .error e

/-- A page of all records is answered with the values of those that belong on it when they are in
    the order of their identifiers. -/
theorem lists_share (hscan : repository.source.scan = .ok records)
    (hids : (records.map (·.id)).Nodup) (hvalid : request.validate = .ok ()) :
    repository.Lists request (request.share (sortRecords .identifier .ascending records)) := by
  have hget := get_eq hscan hvalid
  rw [Page.mapM_eq_map, Page.slice_items, ← PageRequest.share] at hget
  constructor
  case exists_iff =>
    rw [hget, ← exists_mapM_iff]
    simp only [map_eq_ok, exists_comm (α := Page α), exists_and_left, exists_eq', and_true]
  case items =>
    intro page hpage
    rw [hget] at hpage
    obtain ⟨items, hitems, rfl⟩ := map_eq_ok.1 hpage
    -- What is on the page is among the records.
    have hfound r (hr : r ∈ request.share (sortRecords .identifier .ascending records)) :
        r ∈ records :=
      (sortRecords_perm _ _ _).mem_iff.1 (List.mem_of_mem_drop (List.mem_of_mem_take hr))
    refine ((List.forall₂_and_left _ _).2 ⟨hfound, mapM_eq_ok_iff.1 hitems⟩).imp fun r a h => ?_
    obtain ⟨hr, ha⟩ := h
    refine ⟨ha, ?_⟩
    rw [find_of_mem hscan hids hr, ha]
    rfl
  case error_iff =>
    intro e
    rw [hget, map_eq_error, mapM_eq_error_iff]

end Repository

/-- In a source where no two records have the same identifier, what is found under an identifier is
    made of the record that has it, or is what this record fails with; nothing is found exactly if
    there is no such record, even if there is one whose identifier is spelled alike, the one being
    an integer and the other a text. A page of all records has those on it that belong there when
    they are put in ascending order of their identifiers. It succeeds if each of them stands for a
    value, and fails with the first one that does not; and each value on it is what is found under
    the identifier of its record. -/
theorem find_agrees_with_get [Entity α] {repository : Repository α}
    (hscan : repository.source.scan = .ok records) (hids : (records.map (·.id)).Nodup) :
    (∀ id, repository.find id = .ok none ↔ ∀ r ∈ records, r.id ≠ id) ∧
    (∀ r ∈ records, repository.find r.id = (Entity.ofRecord r).map some) ∧
    (∀ i j : RecordId, i.toText = j.toText → i ≠ j → i ∈ records.map (·.id) →
      j ∉ records.map (·.id) → repository.find j = .ok none) ∧
    (∀ request e, request.validate = .error e → repository.get request = .error e) ∧
    ∃ sorted : List Record, sorted.Perm records ∧
      (sorted.Pairwise fun a b => compare a.id b.id = .lt) ∧
      ∀ request : PageRequest, request.validate = .ok () →
        repository.Lists request (request.share sorted) := by
  have hperm := sortRecords_perm .identifier .ascending records
  refine ⟨fun id => Repository.find_eq_none_iff hscan hids,
    fun r hr => Repository.find_of_mem hscan hids hr, fun i j _ _ _ hj => ?_,
    fun request e he => Repository.get_of_not_valid he,
    _, hperm, pairwise_sortRecords_identifier hids,
    fun request hvalid => Repository.lists_share hscan hids hvalid⟩
  refine (Repository.find_eq_none_iff hscan hids).2 fun r hr hid => ?_
  exact hj (hid ▸ List.mem_map_of_mem hr)

/-- A frame. -/
def roadFrame : Commerce.Product :=
  ⟨680, "HL Road Frame", "FR-R92B-58", none, ⟨1431500, 3⟩, ⟨2005, 7, 1, by decide⟩⟩

/-- The frame under its identifier and under the text of this, and nothing much under another
    text. -/
def framesListed : List Record :=
  [.ofList (.text "7") [], ⟨.text "680", roadFrame.toRecord.attributes⟩, roadFrame.toRecord]

/-- A repository of them. -/
def frames : Repository Commerce.Product :=
  ⟨⟨Commerce.Product.schema, .ok framesListed⟩, rfl⟩

/-- The frame is found under its identifier, and is on the first page by itself. Under a text there
    is no product to be found, nor on a page, and under the integer of such a text there is
    nothing. -/
theorem roadFrame_found_and_listed :
    frames.find (.integer 680) = .ok (some roadFrame) ∧
    frames.find (.text "680") = .error (.source "expected an integer identifier, found '680'") ∧
    frames.find (.integer 7) = .ok none ∧
    (∃ page, frames.get ⟨1, 1⟩ = .ok page ∧ page.items = [roadFrame]) ∧
    frames.get ⟨1, 2⟩ = .error (.source "expected an integer identifier, found '680'") := by
  have hscan : frames.source.scan = .ok framesListed := rfl
  obtain ⟨-, hfind, hspelling, -, sorted, hperm, hsorted, hget⟩ :=
    find_agrees_with_get hscan (by decide)
  -- There is one ascending order.
  have hascending : sorted = framesListed.reverse := by
    refine (hperm.trans (List.reverse_perm _).symm).eq_of_pairwise (fun a b _ _ hab hba => ?_)
      hsorted (by decide)
    rw [Std.OrientedOrd.eq_swap, hba] at hab
    exact absurd hab (by decide)
  rw [hascending] at hget
  have hframe : Entity.ofRecord roadFrame.toRecord = .ok roadFrame := rfl
  refine ⟨hfind roadFrame.toRecord (by decide), hfind framesListed[1] (by decide),
    hspelling (.text "7") _ (by decide) (by decide) (by decide) (by decide), ?_, ?_⟩
  · have hlists := hget ⟨1, 1⟩ rfl
    obtain ⟨page, hpage⟩ := hlists.exists_iff.2 (List.forall_mem_singleton.2 ⟨roadFrame, hframe⟩)
    refine ⟨page, hpage, ?_⟩
    obtain ⟨a, items, ⟨ha, -⟩, hnil, heq⟩ :=
      List.forall₂_cons_left_iff.1 (hlists.items page hpage)
    cases hframe.symm.trans ha
    rw [heq, List.forall₂_nil_left_iff.1 hnil]
  · exact ((hget ⟨1, 2⟩ rfl).error_iff _).2 ⟨[_], _, [], rfl,
      List.forall_mem_singleton.2 ⟨roadFrame, hframe⟩, rfl⟩

end PagedQuery
