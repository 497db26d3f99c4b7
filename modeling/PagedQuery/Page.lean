import PagedQuery.Error
import PagedQuery.Json.Basic

/-!
# Pages

A request for a page names its number, counted from one, and how many items a page has. The page
that answers it carries its items along with the size of the whole list that they are taken from.

* `PageRequest.ofSigned`, `PageRequest.validate`: requests from numbers that callers give;
* `PageRequest.offset`: how many items come before the page;
* `Page`, `Page.of`: a page and its numbers;
* `Page.map`, `Page.mapM`: a page with other items and the same numbers.

The offset is a 64-bit word: the product of two 32-bit numbers fits (`offset_toNat`).
-/

namespace PagedQuery

open Text

/-- The page that is asked for. -/
structure PageRequest where
  number : UInt32
  size : UInt32
deriving DecidableEq

namespace PageRequest

/-- Checks that the number and the size are at least one. -/
def validate (page : PageRequest) : Except Error Unit :=
  if page.number < 1 then .error (.invalidArgument "pageNumber must be at least 1")
  else if page.size < 1 then .error (.invalidArgument "pageSize must be at least 1")
  else .ok ()

/-- A request that has been checked. -/
def checked (number size : UInt32) : Except Error PageRequest := do
  let page : PageRequest := ⟨number, size⟩
  page.validate
  return page

/-- The 32-bit number of the same value, which a page number or size has to have. -/
def ofInt64 (what : String) (n : Int64) : Except Error UInt32 :=
  if 0 ≤ n ∧ n.toInt < UInt32.size then .ok (UInt32.ofNat n.toInt.toNat)
  else .error (.invalidArgument (what ++ " " ++ String.ofList (integerText n.toInt) ++
    " is out of range"))

/-- A request from numbers of any sign. -/
def ofSigned (number size : Int64) : Except Error PageRequest := do
  let number ← ofInt64 "pageNumber" number
  let size ← ofInt64 "pageSize" size
  checked number size

/-- A request for the first page. -/
def first (size : UInt32) : Except Error PageRequest :=
  checked 1 size

/-- How many items come before the page. -/
def offset (page : PageRequest) : UInt64 :=
  (if page.number = 0 then 0 else page.number - 1).toUInt64 * page.size.toUInt64

theorem offset_toNat (page : PageRequest) :
    page.offset.toNat = (page.number.toNat - 1) * page.size.toNat := by
  have hskipped : (if page.number = 0 then 0 else page.number - 1).toNat =
      page.number.toNat - 1 := by
    split
    · next h => simp [h]
    · next h =>
      have hle : (1 : UInt32) ≤ page.number := by
        rw [UInt32.le_iff_toNat_le]
        exact Nat.one_le_iff_ne_zero.2 fun h0 => h (UInt32.toNat_inj.1 h0)
      rw [UInt32.toNat_sub_of_le _ _ hle]
      rfl
  rw [offset, UInt64.toNat_mul, UInt32.toNat_toUInt64, UInt32.toNat_toUInt64, hskipped]
  have hsize := page.size.toNat_lt
  have hnumber := page.number.toNat_lt
  exact Nat.mod_eq_of_lt (Nat.lt_of_le_of_lt
    (Nat.mul_le_mul (Nat.sub_le_of_le_add (Nat.le_of_lt_succ (Nat.lt_add_right 1 hnumber)))
      (Nat.le_of_lt hsize)) (by decide))

end PageRequest

/-- One page of a list, along with the number of items and of pages of the whole. -/
structure Page (α : Type) where
  items : List α
  number : UInt32
  size : UInt32
  totalRecords : Nat
  totalPages : Nat
deriving DecidableEq

namespace Page

variable {α β : Type}

/-- How many pages of a size it takes to hold all items; pages of no size hold none. -/
def pagesFor (total size : Nat) : Nat :=
  if size = 0 then 0 else (total + size - 1) / size

/-- The page with the given items that answers a request. -/
def of (items : List α) (request : PageRequest) (totalRecords : Nat) : Page α :=
  { items
    number := request.number
    size := request.size
    totalRecords
    totalPages := pagesFor totalRecords request.size.toNat }

/-- The page of a list that a request asks for. -/
def slice (all : List α) (request : PageRequest) : Page α :=
  of ((all.drop request.offset.toNat).take request.size.toNat) request all.length

/-- Whether there is a page before this one. -/
def hasPrevious (page : Page α) : Bool :=
  1 < page.number

/-- Whether there is a page after this one. -/
def hasNext (page : Page α) : Bool :=
  page.number.toNat < page.totalPages

/-- The page with each item converted. -/
def map (f : α → β) (page : Page α) : Page β :=
  { page with items := page.items.map f }

/-- The page with each item converted, unless the conversion of one fails. -/
def mapM (f : α → Except Error β) (page : Page α) : Except Error (Page β) := do
  let items ← page.items.mapM f
  return { page with items }

/-- A page in JSON, given its items in JSON. -/
def toJson (page : Page Json) : Json :=
  .object [("items", .array page.items),
    ("pageNumber", .integer page.number.toNat),
    ("pageSize", .integer page.size.toNat),
    ("totalRecords", .integer page.totalRecords),
    ("totalPages", .integer page.totalPages),
    ("hasPreviousPage", .bool page.hasPrevious),
    ("hasNextPage", .bool page.hasNext)]

end Page

end PagedQuery
