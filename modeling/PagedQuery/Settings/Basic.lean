import PagedQuery.Page
import PagedQuery.Text.Blank

/-!
# Settings

What a running service is told: where its database lies, what it listens on, how large pages are by
default and at most, which seed document it loads, and what it logs.

* `Settings.validate`: whether the settings make sense together;
* `Settings.pageRequest`: the page that a caller's optional numbers ask for, never larger than the
  settings allow;
* `DatabaseLocation.ofSetting`: where the database lies.
-/

namespace PagedQuery

open Text

/-- The settings of a service. -/
structure Settings where
  database : String
  listen : String
  defaultPageSize : UInt32
  maxPageSize : UInt32
  seed : Option String
  log : String
deriving DecidableEq

namespace Settings

/-- The settings of a service that is told nothing. -/
def default : Settings :=
  { database := "memory"
    listen := "127.0.0.1:8080"
    defaultPageSize := 10
    maxPageSize := 100
    seed := none
    log := "info" }

/-- Checks the page sizes, then the address. -/
def validate (s : Settings) : Except Error Unit :=
  if s.defaultPageSize < 1 || s.maxPageSize < 1 then
    .error (.config "page sizes must be at least 1")
  else if s.maxPageSize < s.defaultPageSize then
    .error (.config ("default_page_size " ++ sizeText s.defaultPageSize ++
      " exceeds max_page_size " ++ sizeText s.maxPageSize))
  else if (trim s.listen.toList).isEmpty then .error (.config "listen address is empty")
  else .ok ()
where
  sizeText (n : UInt32) : String := String.ofList (naturalText n.toNat)

/-- The page that is asked for. A missing number is 1, a missing size the default, and a size above
    the maximum is lowered to it. -/
def pageRequest (s : Settings) (number size : Option Int64) : Except Error PageRequest :=
  let most := Int64.ofNat s.maxPageSize.toNat
  let size := size.getD (Int64.ofNat s.defaultPageSize.toNat)
  PageRequest.ofSigned (number.getD 1) (if most < size then most else size)

end Settings

/-- Where a database lies. -/
inductive DatabaseLocation
  | memory
  | file (path : String)
deriving DecidableEq

/-- The location that a setting names: `memory`, `:memory:` and nothing are in memory, and anything
    else is the path of a file. -/
def DatabaseLocation.ofSetting (setting : String) : DatabaseLocation :=
  let path := String.ofList (trim setting.toList)
  if path = "" || path = "memory" || path = ":memory:" then memory else file path

end PagedQuery
