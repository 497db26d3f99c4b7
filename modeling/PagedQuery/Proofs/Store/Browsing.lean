import Mathlib
import PagedQuery.Proofs.Paging
import PagedQuery.Proofs.Store.Growth

/-!
# Pages read while a database grows

Somebody reads the records of an entity page by page, without a sort, and others go on working with
the database in the meantime. Each page is then one of a longer list than the page before it. Yet
all of these lists begin alike, since records are only ever put in at the end, and so do the lists
of those that pass a filter. Where the pages are full, they fit together: nothing is shown twice and
nothing is left out.

* `Browsed`: pages as they are read of a list that grows, whatever it is that it is read from;
* `Browsed.items_begin`, `Browsed.slice_items_eq`, `Browsed.pairwise_totalRecords`: what can be
  said of them when the list has grown further;
* `Database.browse`: pages read from a database, with operations in between;
* `browsing_keeps_its_place`: these pages at the end of the reading, and at any later time.
-/

namespace PagedQuery

variable {α : Type}

/-! ## Pages of a list that grows -/

theorem take_drop_take_begins (all : List α) (count start size : ℕ) :
    ((all.take count).drop start).take size <+: (all.drop start).take size := by
  rw [List.drop_take, List.take_take, Nat.min_comm, ← List.take_take]
  exact List.take_prefix _ _

/-- A full piece of a list stays the same when the list grows. -/
theorem take_drop_take_eq {all : List α} {count start size : ℕ}
    (hfull : (((all.take count).drop start).take size).length = size) :
    ((all.take count).drop start).take size = (all.drop start).take size := by
  refine (take_drop_take_begins all count start size).eq_of_length_le ?_
  rw [hfull]
  exact List.length_take_le _ _

/-- Pages of one size, from the one with a number on, read one after the other of a list that grows
    to `all`: each of its first so many items, which are not fewer than `seen` and than at the page
    before. -/
inductive Browsed (all : List α) (size : UInt32) : ℕ → ℕ → List (Page α) → Prop
  | nil {number seen : ℕ} : Browsed all size number seen []
  | cons {number seen count : ℕ} {pages : List (Page α)} : 1 ≤ number → number < UInt32.size →
      seen ≤ count → count ≤ all.length → Browsed all size (number + 1) count pages →
      Browsed all size number seen (.slice (all.take count) ⟨.ofNat number, size⟩ :: pages)

namespace Browsed

variable {all : List α} {size : UInt32} {number seen : ℕ} {pages : List (Page α)} {page : Page α}

/-- The pages have the numbers from the first one on. -/
theorem map_number (h : Browsed all size number seen pages) :
    pages.map (·.number.toNat) = List.range' number pages.length := by
  induction h with
  | nil => rfl
  | cons _ hlt _ _ _ ih =>
    rw [List.map_cons, ih, List.length_cons, List.range'_succ]
    exact congrArg (· :: _) (UInt32.toNat_ofNat_of_lt' hlt)

theorem totalRecords_slice_take {count : ℕ} (hcount : count ≤ all.length)
    (request : PageRequest) : (Page.slice (all.take count) request).totalRecords = count := by
  show (all.take count).length = count
  rw [List.length_take, min_eq_left hcount]

theorem totalRecords_bounds (h : Browsed all size number seen pages) :
    ∀ page ∈ pages, seen ≤ page.totalRecords ∧ page.totalRecords ≤ all.length := by
  induction h with
  | nil => exact nofun
  | cons _ _ hseen hcount _ ih =>
    refine List.forall_mem_cons.2 ⟨?_, fun page hpage => ?_⟩
    · rw [totalRecords_slice_take hcount]
      exact ⟨hseen, hcount⟩
    · exact ⟨hseen.trans (ih page hpage).1, (ih page hpage).2⟩

/-- The totals that the pages tell never decrease. -/
theorem pairwise_totalRecords (h : Browsed all size number seen pages) :
    pages.Pairwise fun earlier later => earlier.totalRecords ≤ later.totalRecords := by
  induction h with
  | nil => exact .nil
  | cons _ _ _ hcount hrest ih =>
    refine List.pairwise_cons.2 ⟨fun page hpage => ?_, ih⟩
    rw [totalRecords_slice_take hcount]
    exact (hrest.totalRecords_bounds page hpage).1

/-- A full page is found again with the same items. -/
theorem slice_items_eq (h : Browsed all size number seen pages) (hpage : page ∈ pages)
    (hfull : page.items.length = size.toNat) :
    (Page.slice all ⟨page.number, size⟩).items = page.items := by
  induction h with
  | nil => cases hpage
  | cons _ _ _ _ _ ih =>
    rcases List.mem_cons.1 hpage with rfl | hpage
    · rw [Page.slice_items] at hfull ⊢
      rw [Page.slice_items]
      exact (take_drop_take_eq hfull).symm
    · exact ih hpage

/-- Pages of which all but the last are full, put together, are a beginning of what there is from
    the first of them on. -/
theorem items_begin (h : Browsed all size number seen pages)
    (hfull : ∀ page ∈ pages.dropLast, page.items.length = size.toNat) :
    pages.flatMap (·.items) <+: all.drop ((number - 1) * size.toNat) := by
  induction h with
  | nil => exact List.nil_prefix
  | @cons number seen count pages hnumber hlt _ _ _ ih =>
    have hitems : (Page.slice (all.take count) ⟨.ofNat number, size⟩).items =
        ((all.take count).drop ((number - 1) * size.toNat)).take size.toNat := by
      rw [Page.slice_items, UInt32.toNat_ofNat_of_lt' hlt]
    rw [List.flatMap_cons]
    cases pages with
    | nil =>
      rw [List.flatMap_nil, List.append_nil, hitems]
      exact (take_drop_take_begins _ _ _ _).trans (List.take_prefix _ _)
    | cons next pages =>
      rw [List.dropLast_cons_cons, List.forall_mem_cons] at hfull
      obtain ⟨hfirst, hfull⟩ := hfull
      -- The page is full, so the next one goes on where this one ends.
      have hnext : all.drop ((number + 1 - 1) * size.toNat) =
          (all.drop ((number - 1) * size.toNat)).drop size.toNat := by
        rw [List.drop_drop, ← Nat.succ_mul, Nat.succ_eq_add_one, Nat.sub_add_cancel hnumber,
          Nat.add_sub_cancel]
      have hrest := (List.prefix_append_right_inj
        ((all.drop ((number - 1) * size.toNat)).take size.toNat)).2 (ih hfull)
      rw [hnext, List.take_append_drop] at hrest
      rw [hitems] at hfirst
      rw [hitems, take_drop_take_eq hfirst]
      exact hrest

end Browsed

/-! ## Reading from a database -/

namespace Database

variable {db : Database} {store : Store} {entity : String} {schema : Schema}
  {records : List Record} {filter : Option Criteria} {compiled : CompiledFilter} {size : UInt32}
  {number : ℕ}

/-- A page of the records of an entity that pass a filter, in the order in which they were put
    in. -/
def page (db : Database) (entity : String) (filter : Option Criteria) (request : PageRequest) :
    Except Error (Page Record) := do
  (← db.source entity).query filter none request

/-- Pages of one size, read one after the other from the page with a number on. Before each of them
    is read, somebody carries some operations out. -/
def browse (db : Database) (entity : String) (filter : Option Criteria) (size : UInt32) :
    ℕ → List (List Operation) → Except Error (List (Page Record))
  | _, [] => .ok []
  | number, operations :: rest => do
    let page ← (db.after operations).page entity filter ⟨.ofNat number, size⟩
    let pages ← (db.after operations).browse entity filter size (number + 1) rest
    return page :: pages

theorem after_append (db : Database) (operations later : List Operation) :
    db.after (operations ++ later) = (db.after operations).after later :=
  List.foldl_append

theorem Reachable.after (h : db.Reachable) (operations : List Operation) :
    (db.after operations).Reachable := by
  obtain ⟨earlier, rfl⟩ := h
  exact ⟨earlier ++ operations, after_append _ _ _⟩

/-- An entity that is stored can be read, and has no record twice. -/
theorem Reachable.exists_source (h : db.Reachable) (hschema : db.schema entity = .ok schema) :
    ∃ records, db.source entity = .ok ⟨schema, .ok records⟩ ∧ (records.map (·.id)).Nodup := by
  obtain ⟨store, h⟩ := h.exists_represents
  obtain ⟨c, hc, rfl⟩ := h.schema_eq_ok_iff.1 hschema
  obtain ⟨records, hsource, hall, -⟩ := h.reflects.source entity c hc
  exact ⟨records, hsource, map_id_eq_of_agrees hall ▸ c.ids_distinct⟩

/-- Whatever is done, a source has the same schema later, and the same records with others behind
    them at most. -/
theorem Reachable.source_after (h : db.Reachable)
    (hsource : db.source entity = .ok ⟨schema, .ok records⟩) (operations : List Operation) :
    ∃ added, (db.after operations).source entity = .ok ⟨schema, .ok (records ++ added)⟩ := by
  obtain ⟨store, h⟩ := h.exists_represents
  obtain ⟨hschema, hscan⟩ := source_eq_ok_iff.1 hsource
  obtain ⟨hkept, read, added, hread, hadded⟩ := h.extends_of_extends (h.after operations)
    (Store.extends_after store operations) entity schema hschema
  cases hread.symm.trans hscan
  exact ⟨added, source_eq_ok_iff.2 ⟨hkept, hadded⟩⟩

/-- A page of a database is a piece of the records that pass. -/
theorem page_eq_slice (hsource : db.source entity = .ok ⟨schema, .ok records⟩)
    (hfilter : compileFilter schema filter = .ok compiled) (request : PageRequest)
    (hnumber : 1 ≤ request.number.toNat) (hsize : 1 ≤ request.size.toNat) :
    db.page entity filter request = .ok (.slice (records.filter compiled.accepts) request) := by
  have hall : RecordSource.result ⟨schema, .ok records⟩ filter none =
      .ok (arrange none (records.filter compiled.accepts)) :=
    RecordSource.result_eq hfilter rfl rfl
  rw [page, hsource, ok_bind]
  exact RecordSource.query_eq_slice hall hnumber hsize

/-- Pages that are read from a database while others work with it are pages of a list that grows. -/
theorem Reachable.exists_browse (h : db.Reachable)
    (hsource : db.source entity = .ok ⟨schema, .ok records⟩)
    (hfilter : compileFilter schema filter = .ok compiled) (hsize : 1 ≤ size.toNat)
    (between : List (List Operation)) (hnumber : 1 ≤ number)
    (hcount : number + between.length ≤ UInt32.size) :
    ∃ pages, db.browse entity filter size number between = .ok pages ∧
      pages.length = between.length ∧ ∀ later last,
        (db.after (between.flatten ++ later)).source entity = .ok ⟨schema, .ok last⟩ →
        Browsed (last.filter compiled.accepts) size number
          (records.filter compiled.accepts).length pages := by
  induction between generalizing db records number with
  | nil => exact ⟨[], rfl, rfl, fun _ _ _ => .nil⟩
  | cons operations between ih =>
    rw [List.length_cons] at hcount
    have hlt : number < UInt32.size := by omega
    obtain ⟨added, hread⟩ := h.source_after hsource operations
    have hpage := page_eq_slice hread hfilter ⟨.ofNat number, size⟩
      (by rwa [UInt32.toNat_ofNat_of_lt' hlt]) hsize
    obtain ⟨pages, hpages, hlength, hbrowsed⟩ :=
      ih (h.after operations) hread (Nat.le_add_left 1 number) (by omega)
    refine ⟨_, bind_eq_ok.2 ⟨_, hpage, bind_eq_ok.2 ⟨_, hpages, rfl⟩⟩, congrArg (· + 1) hlength,
      fun later last hlast => ?_⟩
    rw [List.flatten_cons, List.append_assoc, after_append] at hlast
    have hrest := hbrowsed later last hlast
    -- What has been read is a beginning of what there is in the end.
    obtain ⟨more, hmore⟩ := (h.after operations).source_after hread (between.flatten ++ later)
    cases hmore.symm.trans hlast
    rw [List.filter_append (records ++ added)] at hrest ⊢
    have hseen : (records.filter compiled.accepts).length ≤
        ((records ++ added).filter compiled.accepts).length :=
      ((List.prefix_append records added).filter _).length_le
    have hcons := Browsed.cons hnumber hlt hseen (by simp) hrest
    rwa [List.take_left] at hcons

end Database

open Database

/-- Pages of one size are read of an entity without a sort, from the first on, while any operations
    are carried out before and between the readings. Whatever is done in the end, if all pages but
    the last are full then together they are a beginning of the records that pass and are stored
    now, none of which is there twice; a page that was full is found again with the same items; and
    the totals that were told do not decrease, up to the one of now. -/
theorem browsing_keeps_its_place {db : Database} (h : db.Reachable) {entity : String}
    {schema : Schema} (hschema : db.schema entity = .ok schema) {filter : Option Criteria}
    {compiled : CompiledFilter} (hfilter : compileFilter schema filter = .ok compiled)
    {size : UInt32} (hsize : 1 ≤ size) {between : List (List Operation)}
    (hcount : between.length < UInt32.size) :
    ∃ pages, db.browse entity filter size 1 between = .ok pages ∧
      pages.map (·.number.toNat) = List.range' 1 between.length ∧
      pages.Pairwise (fun earlier later => earlier.totalRecords ≤ later.totalRecords) ∧
      ∀ later, ∃ records,
        (db.after (between.flatten ++ later)).source entity = .ok ⟨schema, .ok records⟩ ∧
        (records.map (·.id)).Nodup ∧
        ((∀ page ∈ pages.dropLast, page.items.length = size.toNat) →
          pages.flatMap (·.items) <+: records.filter compiled.accepts) ∧
        (∀ page ∈ pages, page.items.length = size.toNat → ∃ again,
          (db.after (between.flatten ++ later)).page entity filter ⟨page.number, size⟩ =
            .ok again ∧ again.items = page.items) ∧
        ∀ page ∈ pages, page.totalRecords ≤ (records.filter compiled.accepts).length := by
  rw [UInt32.le_iff_toNat_le, UInt32.toNat_one] at hsize
  obtain ⟨records, hsource, -⟩ := h.exists_source hschema
  obtain ⟨pages, hpages, hlength, hbrowsed⟩ :=
    h.exists_browse hsource hfilter hsize between le_rfl (by omega)
  have hend (later : List Operation) : ∃ last, (db.after (between.flatten ++ later)).source entity =
      .ok ⟨schema, .ok last⟩ ∧ (last.map (·.id)).Nodup := by
    obtain ⟨added, hadded⟩ := h.source_after hsource (between.flatten ++ later)
    exact (h.after _).exists_source (source_eq_ok_iff.1 hadded).1
  -- The pages are looked at from the end of the reading, and then from any later time.
  obtain ⟨last, hlast, -⟩ := hend []
  have hread := hbrowsed [] last hlast
  have hnumbers := hread.map_number
  rw [hlength] at hnumbers
  refine ⟨pages, hpages, hnumbers, hread.pairwise_totalRecords, fun later => ?_⟩
  obtain ⟨last, hlast, hids⟩ := hend later
  have hread := hbrowsed later last hlast
  refine ⟨last, hlast, hids, fun hfull => ?_, fun page hpage hfull => ?_, fun page hpage => ?_⟩
  · have hprefix := hread.items_begin hfull
    rwa [Nat.sub_self, Nat.zero_mul, List.drop_zero] at hprefix
  · have hnumber : page.number.toNat ∈ List.range' 1 between.length :=
      hnumbers ▸ List.mem_map_of_mem hpage
    exact ⟨_, page_eq_slice hlast hfilter _ (List.mem_range'_1.1 hnumber).1 hsize,
      hread.slice_items_eq hpage hfull⟩
  · exact (hread.totalRecords_bounds page hpage).2

/-- The offers, two to a page, of which a fourth one is put in when the first page has been read. -/
theorem fourOffers_browsed :
    ∃ db first second records, db = Database.empty.after [.persistCollection threeOffers] ∧
      db.schema "Offer" = .ok threeOffers.schema ∧
      db.browse "Offer" none 2 1 [[], [.persistRecord "Offer" ⟨.integer 4, .empty⟩]] =
        .ok [first, second] ∧
      first.items.length = 2 ∧
      (db.after [.persistRecord "Offer" ⟨.integer 4, .empty⟩]).source "Offer" =
        .ok ⟨threeOffers.schema, .ok records⟩ ∧
      first.items ++ second.items <+: records := by
  obtain ⟨records, hschema, hscan, hall⟩ := exists_scan_of_persistCollection threeOffers
  have hfilter : compileFilter threeOffers.schema none = .ok [] := rfl
  have hpass (l : List Record) : l.filter (CompiledFilter.accepts []) = l :=
    List.filter_eq_self.2 fun _ _ => rfl
  obtain ⟨pages, hpages, -, -, hlater⟩ :=
    browsing_keeps_its_place (.of_run [.persistCollection threeOffers]) hschema hfilter
      (by decide : (1 : UInt32) ≤ 2)
      (by decide : [[], [Operation.persistRecord "Offer" ⟨.integer 4, .empty⟩]].length < _)
  obtain ⟨last, hlast, -, hprefix, -⟩ := hlater []
  obtain ⟨first, hfirst, hpages'⟩ := bind_eq_ok.1 hpages
  obtain ⟨rest, hrest, hpages'⟩ := bind_eq_ok.1 hpages'
  obtain ⟨second, -, hrest⟩ := bind_eq_ok.1 hrest
  cases hpages'
  cases hrest
  have hfull : first.items.length = 2 := by
    have hslice := page_eq_slice (source_eq_ok_iff.2 ⟨hschema, hscan⟩) hfilter ⟨1, 2⟩ le_rfl
      (by decide)
    obtain rfl := Except.ok.inj (hfirst.symm.trans hslice)
    rw [Page.slice_items, List.length_take, List.length_drop, hpass, ← hall.length_eq]
    rfl
  have hboth := hprefix (List.forall_mem_singleton.2 hfull)
  rw [hpass, List.flatMap_cons, List.flatMap_singleton] at hboth
  exact ⟨_, first, second, last, rfl, hschema, hpages, hfull, hlast, hboth⟩

end PagedQuery
