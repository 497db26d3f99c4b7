import Mathlib
import PagedQuery.Proofs.Paging

/-!
# Navigation

A page says how many records there are, and whether there are pages before it and after it. It is
made without a look at these pages, from the numbers of the request and the number of the records;
that they are what it says is a fact about other queries.

* `Page.TellsTruth`: what a page says, of itself and of the pages beside it;
* `slice_tellsTruth`: the pages of a list tell the truth about each other;
* `TellsTruth.map`, `TellsTruth.mapM`: and go on to do so when their items are converted;
* `query_tellsTruth`: the main result.
-/

namespace PagedQuery

variable {α β γ : Type}

namespace Page

/-- What a page says is true, where the pages beside it are had by asking for them. -/
structure TellsTruth (ask : PageRequest → Except Error (Page β)) (page : Page α) : Prop where
  /-- A page has the items that the pages before it leave, but no more than its size. -/
  length : (page.items.length : ℤ) = min (page.size.toNat : ℤ)
    (max 0 (page.totalRecords - (page.number.toNat - 1) * page.size.toNat))
  /-- There is a page after this one if one would find something on it. -/
  next : page.number.toNat + 1 < UInt32.size →
    ∃ next, ask ⟨page.number + 1, page.size⟩ = .ok next ∧ (page.hasNext = true ↔ next.items ≠ [])
  /-- The page before one with something on it is full. -/
  previous : page.items ≠ [] → page.hasPrevious = true →
    ∃ previous, ask ⟨page.number - 1, page.size⟩ = .ok previous ∧
      previous.items.length = page.size.toNat
  /-- Nothing takes no pages. -/
  empty : page.totalRecords = 0 ↔ page.totalPages = 0

/-! ## Pages of a list -/

section

variable {all : List α} {number size : UInt32}

theorem slice_items_ne_nil_iff (hnumber : 1 ≤ number.toNat) (hsize : 1 ≤ size.toNat) :
    (slice all ⟨number, size⟩).items ≠ [] ↔ number.toNat ≤ all.length ⌈/⌉ size.toNat := by
  rw [slice_items, piece_ne_nil_iff hsize hnumber]

theorem slice_hasNext_iff (hsize : 1 ≤ size.toNat) :
    (slice all ⟨number, size⟩).hasNext = true ↔ number.toNat < all.length ⌈/⌉ size.toNat := by
  rw [hasNext, decide_eq_true_iff, slice_totalPages all hsize]
  rfl

/-- The pages of a list tell the truth about each other. -/
theorem slice_tellsTruth {ask : PageRequest → Except Error (Page α)}
    (hask : ∀ r : PageRequest, r.validate = .ok () → ask r = .ok (slice all r))
    (hvalid : (⟨number, size⟩ : PageRequest).validate = .ok ()) :
    (slice all ⟨number, size⟩).TellsTruth ask := by
  obtain ⟨hnumber, hsize⟩ : 1 ≤ number.toNat ∧ 1 ≤ size.toNat :=
    PageRequest.validate_eq_ok_iff.1 hvalid
  constructor
  case length =>
    have hskipped : (((number.toNat - 1) * size.toNat : ℕ) : ℤ) =
        (number.toNat - 1) * size.toNat := by
      rw [Nat.cast_mul, Nat.cast_sub hnumber, Nat.cast_one]
    have hlength : (slice all ⟨number, size⟩).items.length =
        min size.toNat (all.length - (number.toNat - 1) * size.toNat) := length_slice _ _
    change ((slice all ⟨number, size⟩).items.length : ℤ) = min (size.toNat : ℤ)
      (max 0 (all.length - (number.toNat - 1) * size.toNat))
    rw [hlength, ← hskipped]
    omega
  case next =>
    intro hlt
    -- The next number is the number of a page: the addition does not wrap around.
    have hnext : (number + 1).toNat = number.toNat + 1 :=
      (UInt32.toNat_add _ _).trans (Nat.mod_eq_of_lt hlt)
    have hnumber' : 1 ≤ (number + 1).toNat := hnext ▸ Nat.le_add_left 1 _
    have hiff : (slice all ⟨number, size⟩).hasNext = true ↔
        (slice all ⟨number + 1, size⟩).items ≠ [] := by
      rw [slice_hasNext_iff hsize, slice_items_ne_nil_iff hnumber' hsize, hnext,
        Nat.lt_iff_add_one_le]
    exact ⟨_, hask _ (PageRequest.validate_eq_ok_iff.2 ⟨hnumber', hsize⟩), hiff⟩
  case previous =>
    intro hitems hprevious
    have hlt : 1 < number := of_decide_eq_true hprevious
    have hprev : (number - 1).toNat = number.toNat - 1 :=
      UInt32.toNat_sub_of_le _ _ (UInt32.le_of_lt hlt)
    rw [UInt32.lt_iff_toNat_lt, UInt32.toNat_one] at hlt
    have hnumber' : 1 ≤ (number - 1).toNat := hprev ▸ Nat.le_sub_one_of_lt hlt
    have hle := (slice_items_ne_nil_iff hnumber hsize).1 hitems
    have hbefore : (number - 1).toNat < all.length ⌈/⌉ size.toNat := by omega
    have hfull : (slice all ⟨number - 1, size⟩).items.length = size.toNat := by
      rw [slice_items]
      exact length_piece_of_lt hsize hnumber' hbefore
    exact ⟨_, hask _ (PageRequest.validate_eq_ok_iff.2 ⟨hnumber', hsize⟩), hfull⟩
  case empty =>
    rw [slice_totalPages all hsize, ceilDiv_eq_zero_iff hsize]
    rfl

end

/-! ## Converted pages -/

namespace TellsTruth

variable {ask : PageRequest → Except Error (Page β)} {page : Page α}

/-- Other items in the same number change nothing. -/
theorem withItems (h : page.TellsTruth ask) {items : List γ}
    (hlength : items.length = page.items.length) :
    ({ page with items } : Page γ).TellsTruth ask where
  length := by
    rw [hlength]
    exact h.length
  next := h.next
  previous hitems := h.previous fun hnil => hitems (List.eq_nil_of_length_eq_zero (by
    rw [hlength, hnil, List.length_nil]))
  empty := h.empty

theorem map (h : page.TellsTruth ask) (f : α → γ) : (page.map f).TellsTruth ask :=
  h.withItems (List.length_map f)

theorem mapM (h : page.TellsTruth ask) {f : α → Except Error γ} {converted : Page γ}
    (hconverted : page.mapM f = .ok converted) : converted.TellsTruth ask := by
  obtain ⟨items, hitems, heq⟩ := bind_eq_ok.1 hconverted
  cases heq
  exact h.withItems (mapM_eq_ok_iff.1 hitems).length_eq.symm

/-- The pages beside a page can be converted as well. -/
theorem mapAsk (h : page.TellsTruth ask) (g : β → γ) :
    page.TellsTruth fun r => (ask r).map (Page.map g) where
  length := h.length
  next hlt := by
    obtain ⟨next, hnext, hiff⟩ := h.next hlt
    exact ⟨next.map g, map_eq_ok.2 ⟨next, hnext, rfl⟩, hiff.trans List.map_eq_nil_iff.not.symm⟩
  previous hitems hprevious := by
    obtain ⟨previous, hasked, hlength⟩ := h.previous hitems hprevious
    exact ⟨previous.map g, map_eq_ok.2 ⟨previous, hasked, rfl⟩, (List.length_map g).trans hlength⟩
  empty := h.empty

end TellsTruth

end Page

/-! ## Queries -/

namespace RecordSource

variable {source : RecordSource} {filter : Option Criteria} {sort : Option SortSpec}

/-- What a query answers with tells the truth about what the query answers with for the pages beside
    it, and still does when its items are converted, with those of the other pages or without. -/
theorem query_tellsTruth {request : PageRequest} {page : Page Record}
    (h : source.query filter sort request = .ok page) :
    page.number = request.number ∧ page.size = request.size ∧
    page.TellsTruth (source.query filter sort) ∧
    (∀ (γ : Type) (f : Record → γ), (page.map f).TellsTruth (source.query filter sort) ∧
      (page.map f).TellsTruth fun r => (source.query filter sort r).map (Page.map f)) ∧
    ∀ (γ : Type) (f : Record → Except Error γ) converted, page.mapM f = .ok converted →
      converted.TellsTruth (source.query filter sort) := by
  obtain ⟨hvalid, all, hall, rfl⟩ := query_eq_ok_iff.1 h
  have htruth := Page.slice_tellsTruth
    (fun r hr => query_eq_ok_iff.2 ⟨hr, all, hall, rfl⟩) hvalid
  exact ⟨rfl, rfl, htruth, fun γ f => ⟨htruth.map f, (htruth.map f).mapAsk f⟩,
    fun γ f converted => htruth.mapM⟩

/-- The second of three pages, with a vendor on each, and the identifiers of the vendors on it. -/
theorem threeVendors_tellsTruth :
    ∃ page converted, threeVendors.query none none ⟨2, 1⟩ = .ok page ∧
      page.hasPrevious = true ∧ page.hasNext = true ∧
      page.TellsTruth (threeVendors.query none none) ∧
      page.mapM (fun r => .ok r.id) = .ok converted ∧
      converted.TellsTruth (threeVendors.query none none) := by
  obtain ⟨-, -, htruth, -, hconverted⟩ :=
    @query_tellsTruth threeVendors none none ⟨2, 1⟩ _ rfl
  exact ⟨_, ⟨[.integer 1], 2, 1, 3, 3⟩, rfl, rfl, rfl, htruth, rfl,
    hconverted _ (fun r => .ok r.id) _ rfl⟩

end RecordSource

end PagedQuery
