import Mathlib
import PagedQuery.Proofs.Checking
import PagedQuery.Proofs.Params.Language

/-!
# Page sizes and their limit

Whoever asks for a page may give any two 64-bit integers for its number and its size, or leave them
out. What comes of them is said of the integers (`Settings.pageRequest_eq_ok_iff`,
`Settings.pageRequest_eq_error_iff`): the size is lowered to the maximum of the settings, and then
both have to be 32-bit numbers that are not zero. Since the maximum is such a number itself, no size
is too large, and none that is answered exceeds the maximum.

* `PageRequest.InRange`, `PageRequest.ofInt64_eq_ok_iff`: the integers that are 32-bit numbers;
* `PageRequest.NumberFault`: what is wrong with the number and the size of a page;
* `Settings.requestedNumber`, `Settings.requestedSize`: what is asked for;
* `page_size_capped`: the main result.
-/

namespace PagedQuery

open Text

variable {settings : Settings} {request : PageRequest} {number size : Option Int64} {e : Error}

/-! ## Words -/

theorem toInt_ofNat_toNat (n : UInt32) : (Int64.ofNat n.toNat).toInt = n.toNat :=
  Int64.toInt_ofNat_of_lt (by have := n.toNat_lt; omega)

namespace PageRequest

/-- The integers that are 32-bit numbers. -/
def InRange (n : ℤ) : Prop :=
  0 ≤ n ∧ n < UInt32.size

theorem inRange_toNat (n : UInt32) : InRange n.toNat :=
  ⟨Int.natCast_nonneg _, by exact_mod_cast n.toNat_lt⟩

theorem exists_toNat_eq {n : ℤ} (h : InRange n) : ∃ w : UInt32, (w.toNat : ℤ) = n := by
  obtain ⟨hnonneg, hlt⟩ := h
  refine ⟨.ofNat n.toNat, ?_⟩
  rw [UInt32.toNat_ofNat_of_lt' (by omega), Int.toNat_of_nonneg hnonneg]

variable {what : String} {n s : Int64} {w v : UInt32}

/-- A 64-bit integer is turned into the 32-bit number of its value. -/
theorem ofInt64_eq_ok_iff : ofInt64 what n = .ok w ↔ (w.toNat : ℤ) = n.toInt := by
  simp only [ofInt64, Int64.le_iff_toInt_le, Int64.toInt_zero]
  split
  · next h =>
    have hvalue : (UInt32.ofNat n.toInt.toNat).toNat = n.toInt.toNat :=
      UInt32.toNat_ofNat_of_lt' (by omega)
    rw [Except.ok.injEq, ← UInt32.toNat_inj, hvalue]
    omega
  · next h =>
    refine iff_of_false nofun fun heq => h ?_
    rw [← heq]
    exact inRange_toNat w

/-- What to say of an integer that is no 32-bit number. -/
def outOfRange (what : String) (n : ℤ) : Error :=
  .invalidArgument (what ++ " " ++ String.ofList (integerText n) ++ " is out of range")

theorem ofInt64_eq_error_iff :
    ofInt64 what n = .error e ↔ ¬InRange n.toInt ∧ e = outOfRange what n.toInt := by
  simp only [ofInt64, Int64.le_iff_toInt_le, Int64.toInt_zero, InRange, outOfRange]
  split
  · next h => exact iff_of_false nofun fun hnot => hnot.1 h
  · next h => rw [Except.error.injEq, and_iff_right h, eq_comm]

theorem inRange_of_ofInt64 (h : ofInt64 what n = .ok w) : InRange n.toInt := by
  rw [← ofInt64_eq_ok_iff.1 h]
  exact inRange_toNat w

theorem exists_ofInt64 (what : String) (h : InRange n.toInt) : ∃ w, ofInt64 what n = .ok w := by
  obtain ⟨w, hw⟩ := exists_toNat_eq h
  exact ⟨w, ofInt64_eq_ok_iff.2 hw⟩

theorem checked_eq_ok_iff :
    checked w v = .ok request ↔ request = ⟨w, v⟩ ∧ request.validate = .ok () := by
  rw [checked, bind_eq_ok]
  constructor
  · rintro ⟨_, hvalid, ⟨⟩⟩
    exact ⟨rfl, hvalid⟩
  · rintro ⟨rfl, hvalid⟩
    exact ⟨(), hvalid, rfl⟩

theorem checked_eq_error_iff :
    checked w v = .error e ↔ (⟨w, v⟩ : PageRequest).validate = .error e := by
  rw [checked, bind_eq_error]
  exact or_iff_left (by rintro ⟨_, -, ⟨⟩⟩)

/-- A request is made of two integers exactly if both are 32-bit numbers that are not zero. -/
theorem ofSigned_eq_ok_iff : ofSigned n s = .ok request ↔
    (request.number.toNat : ℤ) = n.toInt ∧ (request.size.toNat : ℤ) = s.toInt ∧
      1 ≤ n.toInt ∧ 1 ≤ s.toInt := by
  rw [ofSigned]
  simp only [bind_eq_ok, ofInt64_eq_ok_iff, checked_eq_ok_iff, validate_eq_ok_iff]
  constructor
  · rintro ⟨w, hw, v, hv, rfl, hnumber, hsize⟩
    refine ⟨hw, hv, ?_, ?_⟩
    · exact hw ▸ Int.ofNat_le.2 hnumber
    · exact hv ▸ Int.ofNat_le.2 hsize
  · rintro ⟨hw, hv, hnumber, hsize⟩
    refine ⟨_, hw, _, hv, rfl, ?_, ?_⟩ <;> omega

/-- What is wrong with the number and the size that a page is asked for with. That one of them is
    not a 32-bit number is seen before it is seen that one is zero. -/
inductive NumberFault (number size : ℤ) : Error → Prop
  | number : ¬InRange number → NumberFault number size (outOfRange "pageNumber" number)
  | size : InRange number → ¬InRange size → NumberFault number size (outOfRange "pageSize" size)
  | zeroNumber : number = 0 → InRange size →
      NumberFault number size (.invalidArgument "pageNumber must be at least 1")
  | zeroSize : InRange number → number ≠ 0 → size = 0 →
      NumberFault number size (.invalidArgument "pageSize must be at least 1")

theorem NumberFault.exists_text {number size : ℤ} (h : NumberFault number size e) :
    ∃ text, e = .invalidArgument text := by
  cases h <;> exact ⟨_, rfl⟩

theorem ofSigned_eq_error_iff : ofSigned n s = .error e ↔ NumberFault n.toInt s.toInt e := by
  -- A 32-bit number is zero if it is made of an integer that is.
  have hzero {what : String} {n : Int64} {w : UInt32} (h : ofInt64 what n = .ok w) :
      w = 0 ↔ n.toInt = 0 := by
    rw [← ofInt64_eq_ok_iff.1 h, Int.natCast_eq_zero, ← UInt32.toNat_zero, UInt32.toNat_inj]
  rw [ofSigned]
  constructor
  · intro h
    obtain hnumber | ⟨w, hw, h⟩ := bind_eq_error.1 h
    · obtain ⟨hrange, rfl⟩ := ofInt64_eq_error_iff.1 hnumber
      exact .number hrange
    obtain hsize | ⟨v, hv, h⟩ := bind_eq_error.1 h
    · obtain ⟨hrange, rfl⟩ := ofInt64_eq_error_iff.1 hsize
      exact .size (inRange_of_ofInt64 hw) hrange
    obtain ⟨hnumber, rfl⟩ | ⟨hnumber, hsize, rfl⟩ :=
      validate_eq_error_iff.1 (checked_eq_error_iff.1 h)
    · exact .zeroNumber ((hzero hw).1 hnumber) (inRange_of_ofInt64 hv)
    · exact .zeroSize (inRange_of_ofInt64 hw) (mt (hzero hw).2 hnumber) ((hzero hv).1 hsize)
  · intro h
    cases h with
    | number hrange => exact bind_eq_error.2 (.inl (ofInt64_eq_error_iff.2 ⟨hrange, rfl⟩))
    | size hnumber hrange =>
      obtain ⟨w, hw⟩ := exists_ofInt64 "pageNumber" hnumber
      rw [hw, ok_bind]
      exact bind_eq_error.2 (.inl (ofInt64_eq_error_iff.2 ⟨hrange, rfl⟩))
    | zeroNumber hnumber hsize =>
      obtain ⟨w, hw⟩ := exists_ofInt64 (n := n) "pageNumber" (hnumber ▸ inRange_toNat 0)
      obtain ⟨v, hv⟩ := exists_ofInt64 "pageSize" hsize
      rw [hw, ok_bind, hv, ok_bind, checked_eq_error_iff]
      exact validate_eq_error_iff.2 (.inl ⟨(hzero hw).2 hnumber, rfl⟩)
    | zeroSize hnumber hne hsize =>
      obtain ⟨w, hw⟩ := exists_ofInt64 "pageNumber" hnumber
      obtain ⟨v, hv⟩ := exists_ofInt64 (n := s) "pageSize" (hsize ▸ inRange_toNat 0)
      rw [hw, ok_bind, hv, ok_bind, checked_eq_error_iff]
      exact validate_eq_error_iff.2 (.inr ⟨mt (hzero hw).1 hne, (hzero hv).2 hsize, rfl⟩)

end PageRequest

/-! ## Settings -/

namespace Settings

/-- Settings are only accepted with a default page size from one up to the maximum. -/
theorem pageSizes_of_validate (h : settings.validate = .ok ()) :
    1 ≤ settings.defaultPageSize.toNat ∧
      settings.defaultPageSize.toNat ≤ settings.maxPageSize.toNat := by
  rw [validate] at h
  split at h
  · cases h
  · next hzero =>
    split at h
    · cases h
    · next hmost =>
      rw [Bool.or_eq_true, decide_eq_true_eq, decide_eq_true_eq, not_or, UInt32.not_lt,
        UInt32.le_iff_toNat_le] at hzero
      rw [UInt32.not_lt, UInt32.le_iff_toNat_le] at hmost
      exact ⟨hzero.1, hmost⟩

/-- The number of the page that is asked for. -/
def requestedNumber (number : Option Int64) : ℤ :=
  number.elim 1 Int64.toInt

/-- The size of the page that is asked for, before it is lowered. -/
def requestedSize (settings : Settings) (size : Option Int64) : ℤ :=
  size.elim settings.defaultPageSize.toNat Int64.toInt

/-- The page is the one of the number that is asked for and of the size that is asked for, which is
    lowered to the maximum. -/
theorem exists_pageRequest_eq (settings : Settings) (number size : Option Int64) :
    ∃ n s : Int64, settings.pageRequest number size = PageRequest.ofSigned n s ∧
      n.toInt = requestedNumber number ∧
      s.toInt = min (settings.requestedSize size) settings.maxPageSize.toNat := by
  have hnumber : (number.getD 1).toInt = requestedNumber number := by
    cases number <;> rfl
  have hsize : (size.getD (Int64.ofNat settings.defaultPageSize.toNat)).toInt =
      settings.requestedSize size := by
    cases size with
    | none => exact toInt_ofNat_toNat _
    | some s => rfl
  refine ⟨_, _, rfl, hnumber, ?_⟩
  rw [← hsize, apply_ite Int64.toInt]
  simp only [Int64.lt_iff_toInt_lt, toInt_ofNat_toNat]
  split <;> omega

theorem pageRequest_eq_ok_iff : settings.pageRequest number size = .ok request ↔
    (request.number.toNat : ℤ) = requestedNumber number ∧
      (request.size.toNat : ℤ) = min (settings.requestedSize size) settings.maxPageSize.toNat ∧
      1 ≤ requestedNumber number ∧
      1 ≤ min (settings.requestedSize size) settings.maxPageSize.toNat := by
  obtain ⟨n, s, heq, hn, hs⟩ := exists_pageRequest_eq settings number size
  rw [heq, PageRequest.ofSigned_eq_ok_iff, hn, hs]

/-- A maximum that is not zero does not decide whether a page can be asked for. -/
theorem exists_pageRequest_iff (hmost : 1 ≤ settings.maxPageSize.toNat) :
    (∃ request, settings.pageRequest number size = .ok request) ↔
      (1 ≤ requestedNumber number ∧ requestedNumber number < UInt32.size) ∧
        1 ≤ settings.requestedSize size := by
  simp only [pageRequest_eq_ok_iff]
  constructor
  · rintro ⟨request, hnumber, -, hfirst, hsize⟩
    have hrange := (PageRequest.inRange_toNat request.number).2
    rw [hnumber] at hrange
    exact ⟨⟨hfirst, hrange⟩, hsize.trans (min_le_left _ _)⟩
  · rintro ⟨⟨hfirst, hrange⟩, hsize⟩
    have hcapped : 1 ≤ min (settings.requestedSize size) settings.maxPageSize.toNat :=
      le_min hsize (by exact_mod_cast hmost)
    have hword : min (settings.requestedSize size) settings.maxPageSize.toNat < UInt32.size :=
      (min_le_right _ _).trans_lt (PageRequest.inRange_toNat _).2
    obtain ⟨w, hw⟩ := PageRequest.exists_toNat_eq ⟨zero_le_one.trans hfirst, hrange⟩
    obtain ⟨v, hv⟩ := PageRequest.exists_toNat_eq ⟨zero_le_one.trans hcapped, hword⟩
    exact ⟨⟨w, v⟩, hw, hv, hfirst, hcapped⟩

theorem pageRequest_eq_error_iff : settings.pageRequest number size = .error e ↔
    PageRequest.NumberFault (requestedNumber number)
      (min (settings.requestedSize size) settings.maxPageSize.toNat) e := by
  obtain ⟨n, s, heq, hn, hs⟩ := exists_pageRequest_eq settings number size
  rw [heq, PageRequest.ofSigned_eq_error_iff, hn, hs]

theorem pageRequest_none (h : settings.validate = .ok ()) :
    settings.pageRequest none none = .ok ⟨1, settings.defaultPageSize⟩ := by
  obtain ⟨hsize, hmost⟩ := pageSizes_of_validate h
  have hasked : min (settings.requestedSize none) settings.maxPageSize.toNat =
      settings.defaultPageSize.toNat := by
    rw [requestedSize, Option.elim_none]
    omega
  refine pageRequest_eq_ok_iff.2 ⟨rfl, hasked.symm, le_rfl, ?_⟩
  omega

end Settings

/-! ## Pages -/

/-- What is answered keeps to the request, and has no more items than it says. -/
theorem RecordSource.page_of_query {source : RecordSource} {filter : Option Criteria}
    {sort : Option SortSpec} {page : Page Record}
    (h : source.query filter sort request = .ok page) :
    page.number = request.number ∧ page.size = request.size ∧
      page.items.length ≤ page.size.toNat := by
  obtain ⟨-, all, -, rfl⟩ := query_eq_ok_iff.1 h
  refine ⟨rfl, rfl, ?_⟩
  rw [Page.length_slice]
  exact min_le_left _ _

/-- Under settings that make sense, a page can be asked for exactly if its number is a 32-bit number
    other than zero and its size is at least one, where a missing number is 1 and a missing size is
    the default. The number is then kept, and the size lowered to the maximum; and anything else is
    an invalid argument, of which it is said what is wrong with it. So the page that a parsed query
    asks for is refused by no source. Whichever source answers, it has the number that was last
    given, and the size that was last given or the maximum, whichever is less, which is at least one
    and at most the maximum; and it has no more items than that. -/
theorem page_size_capped (hsettings : settings.validate = .ok ()) :
    (∀ number size, (∃ request, settings.pageRequest number size = .ok request) ↔
      (1 ≤ Settings.requestedNumber number ∧ Settings.requestedNumber number < UInt32.size) ∧
        1 ≤ settings.requestedSize size) ∧
    (∀ number size request, settings.pageRequest number size = .ok request →
      (request.number.toNat : ℤ) = Settings.requestedNumber number ∧
      (request.size.toNat : ℤ) = min (settings.requestedSize size) settings.maxPageSize.toNat) ∧
    (∀ number size e, settings.pageRequest number size = .error e →
      PageRequest.NumberFault (Settings.requestedNumber number)
        (min (settings.requestedSize size) settings.maxPageSize.toNat) e ∧
      ∃ text, e = .invalidArgument text) ∧
    ∀ schema params query, QueryParams.parse schema settings params = .ok query →
      ∀ source : RecordSource,
        ((∃ page, source.query (some query.filter) query.sort query.page = .ok page) ↔
          ∃ all, source.result (some query.filter) query.sort = .ok all) ∧
        ∀ page, source.query (some query.filter) query.sort query.page = .ok page →
          (page.number.toNat : ℤ) =
            Settings.requestedNumber (QueryParams.lastNumber? params "pageNumber") ∧
          (page.size.toNat : ℤ) =
            min (settings.requestedSize (QueryParams.lastNumber? params "pageSize"))
              settings.maxPageSize.toNat ∧
          1 ≤ page.size ∧ page.size ≤ settings.maxPageSize ∧
          page.items.length ≤ page.size.toNat := by
  obtain ⟨hdefault, hmost⟩ := Settings.pageSizes_of_validate hsettings
  refine ⟨fun _ _ => Settings.exists_pageRequest_iff (hdefault.trans hmost),
    fun _ _ _ h => ?_, fun _ _ _ h => ?_, fun schema params query h source => ?_⟩
  · obtain ⟨hnumber, hsize, -⟩ := Settings.pageRequest_eq_ok_iff.1 h
    exact ⟨hnumber, hsize⟩
  · have hfault := Settings.pageRequest_eq_error_iff.1 h
    exact ⟨hfault, hfault.exists_text⟩
  · obtain ⟨hnumber, hsize, hfirst, hpos⟩ :=
      Settings.pageRequest_eq_ok_iff.1 (QueryParams.means_of_parse h).page
    have hvalid : query.page.validate = .ok () := by
      rw [PageRequest.validate_eq_ok_iff]
      omega
    refine ⟨?_, fun page hpage => ?_⟩
    · simp only [RecordSource.query_eq_ok_iff, hvalid, true_and]
      exact ⟨fun ⟨_, all, hall, _⟩ => ⟨all, hall⟩, fun ⟨all, hall⟩ => ⟨_, all, hall, rfl⟩⟩
    · obtain ⟨hn, hs, hlength⟩ := RecordSource.page_of_query hpage
      rw [UInt32.le_iff_toNat_le, UInt32.le_iff_toNat_le, UInt32.toNat_one, hn, hs]
      refine ⟨hnumber, hsize, ?_, ?_, hs ▸ hlength⟩ <;> omega

/-- Settings with pages of at most two items. -/
def pagesOfTwo : Settings :=
  { Settings.default with defaultPageSize := 1, maxPageSize := 2 }

/-- However many of the three vendors are asked for, there are two of them on a page; a page of
    none, and one whose number is no 32-bit number, cannot be asked for. -/
theorem pagesOfTwo_capped :
    (∃ query page,
      QueryParams.parse RecordSource.threeVendors.schema pagesOfTwo
        [("pageSize", "9223372036854775807")] = .ok query ∧
      RecordSource.threeVendors.query (some query.filter) query.sort query.page = .ok page ∧
      page.number = 1 ∧ page.size = 2 ∧ page.items.length ≤ 2) ∧
    (¬∃ request, pagesOfTwo.pageRequest (some 4294967296) none = .ok request) ∧
    ¬∃ request, pagesOfTwo.pageRequest (some 4294967295) (some 0) = .ok request := by
  have hvalid : pagesOfTwo.validate = .ok () := rfl
  obtain ⟨hexists, -, -, hquery⟩ := page_size_capped hvalid
  have hparse : QueryParams.parse RecordSource.threeVendors.schema pagesOfTwo
      [("pageSize", "9223372036854775807")] = .ok ⟨.empty, none, ⟨1, 2⟩⟩ :=
    rfl
  obtain ⟨hanswered, hpages⟩ := hquery _ _ _ hparse RecordSource.threeVendors
  obtain ⟨page, hpage⟩ := hanswered.2 ⟨_, rfl⟩
  obtain ⟨hnumber, hsize, -, -, hlength⟩ := hpages page hpage
  have hfirst : page.number = 1 := UInt32.toNat_inj.1 (Int.ofNat_inj.1 hnumber)
  have htwo : page.size = 2 := UInt32.toNat_inj.1 (Int.ofNat_inj.1 hsize)
  refine ⟨⟨_, page, hparse, hpage, hfirst, htwo, ?_⟩, ?_, ?_⟩
  · rwa [htwo] at hlength
  · rw [hexists]
    rintro ⟨⟨-, hrange⟩, -⟩
    exact absurd hrange (by decide)
  · rw [hexists]
    rintro ⟨-, hsize⟩
    exact absurd hsize (by decide)

end PagedQuery
