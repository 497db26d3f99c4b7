import Mathlib
import PagedQuery.Proofs.Outcome
import PagedQuery.Proofs.Sorting

/-!
# Pages of a result

A query takes a page of the list that `RecordSource.result` is: `Page.slice` says which part. The
pages of one size, read from the first to the last, are the whole list cut into pieces
(`flatMap_pieces`), since each starts where the one before it ends.

* `query_eq_slice`, `query_eq_ok_iff`: a query that asks for a page that exists answers with a
  slice, and nothing else is an answer;
* `RecordSource.firstPages`: pages read one after the other;
* `firstPages_partition_result`: they partition the result.
-/

namespace PagedQuery

variable {α : Type}

/-! ## Slices -/

namespace Page

theorem pagesFor_eq {size : ℕ} (hsize : 0 < size) (total : ℕ) :
    pagesFor total size = total ⌈/⌉ size := by
  rw [pagesFor, if_neg hsize.ne', Nat.ceilDiv_eq_add_pred_div]

theorem slice_items (all : List α) (request : PageRequest) :
    (slice all request).items =
      (all.drop ((request.number.toNat - 1) * request.size.toNat)).take request.size.toNat := by
  rw [slice, of, PageRequest.offset_toNat]

/-- A page has as many items as there are from its offset on, but no more than its size. -/
theorem length_slice (all : List α) (request : PageRequest) :
    (slice all request).items.length =
      min request.size.toNat (all.length - (request.number.toNat - 1) * request.size.toNat) := by
  rw [slice_items, List.length_take, List.length_drop]

theorem slice_totalPages (all : List α) {request : PageRequest} (hsize : 1 ≤ request.size.toNat) :
    (slice all request).totalPages = all.length ⌈/⌉ request.size.toNat :=
  pagesFor_eq hsize _

end Page

/-! ## Pieces of a list -/

/-- Consecutive pieces of one size, put together, are a beginning of the list. -/
theorem flatMap_pieces (all : List α) (size count : ℕ) :
    ((List.range' 1 count).flatMap fun number => (all.drop ((number - 1) * size)).take size) =
      all.take (count * size) := by
  induction count with
  | zero => simp
  | succ count ih =>
    rw [List.range'_1_concat, List.flatMap_append, ih, List.flatMap_singleton,
      Nat.add_sub_cancel_left, ← List.take_add, Nat.succ_mul]

/-- A piece before the last one is full. -/
theorem length_piece_of_lt {all : List α} {size number : ℕ} (hsize : 0 < size)
    (hnumber : 1 ≤ number) (h : number < all.length ⌈/⌉ size) :
    ((all.drop ((number - 1) * size)).take size).length = size := by
  -- Not even the pieces up to this one hold all.
  have hlt : size * number < all.length := by
    rwa [← not_le, ← ceilDiv_le_iff_le_mul hsize, not_le]
  obtain ⟨k, rfl⟩ := Nat.exists_eq_add_of_le' hnumber
  rw [Nat.mul_succ, Nat.mul_comm] at hlt
  rw [List.length_take, List.length_drop, Nat.add_sub_cancel]
  omega

/-- The last piece holds something. -/
theorem piece_ne_nil {all : List α} {size number : ℕ} (hsize : 0 < size) (hnumber : 1 ≤ number)
    (h : number ≤ all.length ⌈/⌉ size) : (all.drop ((number - 1) * size)).take size ≠ [] := by
  -- The pieces before this one do not hold all.
  have hlt : size * (number - 1) < all.length := by
    rw [← not_le, ← ceilDiv_le_iff_le_mul hsize]
    omega
  rw [Nat.mul_comm] at hlt
  rw [ne_eq, List.take_eq_nil_iff, List.drop_eq_nil_iff]
  omega

/-- There are no pieces if there is nothing. -/
theorem ceilDiv_eq_zero_iff {size : ℕ} (hsize : 0 < size) (total : ℕ) :
    total ⌈/⌉ size = 0 ↔ total = 0 := by
  rw [← Nat.le_zero, ceilDiv_le_iff_le_mul hsize, Nat.mul_zero, Nat.le_zero]

/-- Past the last piece there is nothing. -/
theorem piece_eq_nil {all : List α} {size number : ℕ} (hsize : 0 < size)
    (h : all.length ⌈/⌉ size < number) : (all.drop ((number - 1) * size)).take size = [] := by
  -- The pieces before this one hold all.
  have hle : all.length ≤ size * (number - 1) := by
    rw [← ceilDiv_le_iff_le_mul hsize]
    omega
  rw [Nat.mul_comm] at hle
  rw [List.drop_eq_nil_of_le hle, List.take_nil]

theorem piece_ne_nil_iff {all : List α} {size number : ℕ} (hsize : 0 < size)
    (hnumber : 1 ≤ number) :
    (all.drop ((number - 1) * size)).take size ≠ [] ↔ number ≤ all.length ⌈/⌉ size :=
  ⟨fun h => not_lt.1 fun hlt => h (piece_eq_nil hsize hlt), piece_ne_nil hsize hnumber⟩

/-! ## Queries -/

theorem PageRequest.validate_eq_ok_iff_ne_zero {request : PageRequest} :
    request.validate = .ok () ↔ request.number ≠ 0 ∧ request.size ≠ 0 := by
  simp only [validate, UInt32.lt_one_iff]
  by_cases hnumber : request.number = 0
  · simp [hnumber]
  · by_cases hsize : request.size = 0 <;> simp [hnumber, hsize]

/-- A request is for a page that exists if its number and its size are at least one. -/
theorem PageRequest.validate_eq_ok_iff {request : PageRequest} :
    request.validate = .ok () ↔ 1 ≤ request.number.toNat ∧ 1 ≤ request.size.toNat := by
  have hpos (n : UInt32) : 1 ≤ n.toNat ↔ n ≠ 0 := by
    rw [Nat.one_le_iff_ne_zero, ne_eq, ← UInt32.toNat_zero, UInt32.toNat_inj]
  rw [validate_eq_ok_iff_ne_zero, hpos, hpos]

namespace RecordSource

variable {source : RecordSource} {filter : Option Criteria} {sort : Option SortSpec}

theorem result_eq {compiled : CompiledFilter} {order : Option (Field × Direction)}
    {records : List Record} (hfilter : compileFilter source.schema filter = .ok compiled)
    (hsort : resolveSort source.schema sort = .ok order) (hscan : source.scan = .ok records) :
    source.result filter sort = .ok (arrange order (records.filter compiled.accepts)) := by
  rw [result, hfilter, hsort, hscan]
  rfl

theorem query_eq_slice {all : List Record} {request : PageRequest}
    (hall : source.result filter sort = .ok all) (hnumber : 1 ≤ request.number.toNat)
    (hsize : 1 ≤ request.size.toNat) :
    source.query filter sort request = .ok (.slice all request) := by
  rw [query, PageRequest.validate_eq_ok_iff.2 ⟨hnumber, hsize⟩, hall]
  rfl

/-- What a query answers with is a slice of the result. -/
theorem query_eq_ok_iff {request : PageRequest} {page : Page Record} :
    source.query filter sort request = .ok page ↔
      request.validate = .ok () ∧ ∃ all, source.result filter sort = .ok all ∧
        page = .slice all request := by
  rw [query, bind_eq_ok]
  constructor
  · rintro ⟨_, hvalid, hpage⟩
    obtain ⟨all, hall, heq⟩ := bind_eq_ok.1 hpage
    exact ⟨hvalid, all, hall, (Except.ok.inj heq).symm⟩
  · rintro ⟨hvalid, all, hall, rfl⟩
    exact ⟨(), hvalid, bind_eq_ok.2 ⟨all, hall, rfl⟩⟩

/-- The pages of one size with the numbers from 1 to `count`, read one after the other. -/
def firstPages (source : RecordSource) (filter : Option Criteria) (sort : Option SortSpec)
    (size : UInt32) (count : ℕ) : Except Error (List (Page Record)) :=
  (List.range' 1 count).mapM fun number => source.query filter sort ⟨.ofNat number, size⟩

theorem firstPages_eq {all : List Record} {size : UInt32} {count : ℕ}
    (hall : source.result filter sort = .ok all) (hsize : 1 ≤ size.toNat)
    (hcount : count < UInt32.size) :
    source.firstPages filter sort size count =
      .ok ((List.range' 1 count).map fun number => .slice all ⟨.ofNat number, size⟩) := by
  refine mapM_eq_ok fun number hmem => query_eq_slice hall ?_ hsize
  rw [List.mem_range'_1] at hmem
  rw [UInt32.toNat_ofNat_of_lt' (by omega)]
  exact hmem.1

/-- The items of these pages, put together, are a beginning of the result. -/
theorem firstPages_items {all : List Record} {size : UInt32} {count : ℕ}
    (hall : source.result filter sort = .ok all) (hsize : 1 ≤ size.toNat)
    (hcount : count < UInt32.size) :
    ∃ pages, source.firstPages filter sort size count = .ok pages ∧
      pages.flatMap (·.items) = all.take (count * size.toNat) := by
  refine ⟨_, firstPages_eq hall hsize hcount, ?_⟩
  rw [List.flatMap_map, ← flatMap_pieces]
  refine List.flatMap_congr fun number hmem => ?_
  rw [List.mem_range'_1] at hmem
  rw [Page.slice_items, UInt32.toNat_ofNat_of_lt' (by omega)]

/-- The pages of one size partition the result. Read from the first to the last they are the whole
    listing of the records that pass, all but the last are full, the last is not empty, and those
    after it are; each of them tells how many records and pages there are. The offset of a page is
    never cut off. -/
theorem firstPages_partition_result {records : List Record} {compiled : CompiledFilter}
    {order : Option (Field × Direction)} {size : UInt32} (hscan : source.scan = .ok records)
    (hfilter : compileFilter source.schema filter = .ok compiled)
    (hsort : resolveSort source.schema sort = .ok order) (hsize : 1 ≤ size)
    (hcount : (records.countP compiled.accepts) ⌈/⌉ size.toNat < UInt32.size) :
    ∃ all : List Record, IsListing compiled order records all ∧
      (∃ pages, source.firstPages filter sort size (all.length ⌈/⌉ size.toNat) = .ok pages ∧
        pages.flatMap (·.items) = all) ∧
      (∀ number : UInt32, 1 ≤ number → ∃ page, source.query filter sort ⟨number, size⟩ = .ok page ∧
        page.totalRecords = all.length ∧ page.totalPages = all.length ⌈/⌉ size.toNat ∧
        (number.toNat < page.totalPages → page.items.length = size.toNat) ∧
        (number.toNat = page.totalPages → page.items ≠ []) ∧
        (page.totalPages < number.toNat → page.items = [])) ∧
      (0 < all.length ↔ 0 < all.length ⌈/⌉ size.toNat) ∧
      ∀ request : PageRequest,
        request.offset.toNat = (request.number.toNat - 1) * request.size.toNat := by
  have hall := result_eq hfilter hsort hscan
  have hlisting := isListing_arrange compiled order records
  generalize arrange order (records.filter compiled.accepts) = all at hall hlisting
  rw [UInt32.le_iff_toNat_le, UInt32.toNat_one] at hsize
  have hlength : all.length = records.countP compiled.accepts := by
    rw [hlisting.perm.length_eq, List.countP_eq_length_filter]
  rw [← hlength] at hcount
  refine ⟨all, hlisting, ?_, fun number hnumber => ?_, ?_, PageRequest.offset_toNat⟩
  · obtain ⟨pages, hpages, hitems⟩ := firstPages_items hall hsize hcount
    refine ⟨pages, hpages, hitems.trans (List.take_of_length_le ?_)⟩
    rw [Nat.mul_comm, ← ceilDiv_le_iff_le_mul hsize]
  · rw [UInt32.le_iff_toNat_le, UInt32.toNat_one] at hnumber
    have htotal : (Page.slice all ⟨number, size⟩).totalPages = all.length ⌈/⌉ size.toNat :=
      Page.slice_totalPages all hsize
    refine ⟨_, query_eq_slice hall hnumber hsize, rfl, htotal, ?_, ?_, ?_⟩
    · intro h
      rw [htotal] at h
      rw [Page.slice_items]
      exact length_piece_of_lt hsize hnumber h
    · intro h
      rw [htotal] at h
      rw [Page.slice_items]
      exact piece_ne_nil hsize hnumber h.le
    · intro h
      rw [htotal] at h
      rw [Page.slice_items]
      exact piece_eq_nil hsize h
  · rw [Nat.pos_iff_ne_zero, Nat.pos_iff_ne_zero, not_iff_not, ceilDiv_eq_zero_iff hsize]

/-- Three vendors, two of them with the same name. -/
def threeVendors : RecordSource where
  schema :=
    { entity := "Vendor"
      identifier := "VendorID"
      attributes := [⟨"Name", .text⟩]
      names_valid := by decide
      names_distinct := by decide }
  scan := .ok
    [.ofList (.integer 3) [("Name", .text "B")], .ofList (.integer 1) [("Name", .text "A")],
      .ofList (.integer 2) [("Name", .text "B")]]

/-- The two vendors of the name that is asked for, one to a page, the one with the larger number
    first. -/
theorem firstPages_partition_threeVendors :
    ∃ records all pages, threeVendors.scan = .ok records ∧
      IsListing [⟨.declared ⟨"Name", .text⟩, .equals (.text "B")⟩] (some (.identifier, .descending))
        records all ∧
      threeVendors.firstPages (some (.ofList [("Name", .equals (.text "B"))]))
        (some ⟨"VendorID", .descending⟩) 1 (all.length ⌈/⌉ 1) = .ok pages ∧
      pages.flatMap (·.items) = all ∧ all.map (·.id) = [.integer 3, .integer 2] := by
  obtain ⟨all, hall, ⟨pages, hpages, hitems⟩, -⟩ :=
    @firstPages_partition_result threeVendors (some (.ofList [("Name", .equals (.text "B"))]))
      (some ⟨"VendorID", .descending⟩) _ _ _ 1 rfl rfl rfl (by decide) (by decide)
  have hids : all.map (·.id) = [.integer 3, .integer 2] := by
    -- Only one of the two orders descends.
    obtain rfl | rfl := List.pair_perm.1 hall.perm.symm
    · rfl
    · have hsorted := hall.sorted _ _ rfl
      exact absurd ((List.pairwise_cons.1 hsorted).1 _ (List.mem_singleton.2 rfl)) (by decide)
  exact ⟨_, all, pages, rfl, hall, hpages, hitems, hids⟩

end RecordSource

end PagedQuery
