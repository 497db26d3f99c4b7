import PagedQuery.Json.Reader
import PagedQuery.NameMap
import PagedQuery.Settings.Basic
import PagedQuery.Settings.Key
import PagedQuery.Settings.Toml.Document
import PagedQuery.Text.Utf8

/-!
# Loading settings

Settings are looked up key by key: in the environment, then in the file, then among the defaults.
In the environment a key has `PAGEWISE_` in front of it and may be written in any case; its value is
guessed to be a boolean, an integer or a double where it reads as one, and turned back into a text
for a setting that is one. Keys that are no settings are passed over; a key that leads inside a
setting makes it a compound value, which no setting can have.

* `Settings.ofEntries?`: the settings that keys and values give;
* `Settings.load`: the settings from a file and the environment, once they make sense together.
-/

namespace PagedQuery

open Text

/-- A file of settings, in TOML or in JSON. Files in YAML, INI, RON or JSON5 can hold settings as
    well; nothing is said of those here. -/
inductive SettingsFile
  | toml (text : String)
  | json (text : String)

/-- The value of a JSON value as a setting. -/
def SettingValue.ofJson : Json → SettingValue
  | .null => nothing
  | .bool b => boolean b
  | .integer n => integer n
  | .double x => double x
  | .string s => string s
  | .array _ | .object _ => compound

/-- The keys and values in a file. A mark of the byte order in front of them does not count. -/
def SettingsFile.entries? : SettingsFile → Option (List (String × SettingValue))
  | toml text => Toml.parse? (String.ofList (Utf8.withoutMark text.toList))
  | json text =>
    match Json.parse? (String.ofList (Utf8.withoutMark text.toList)) with
    | some (.object members) => some (members.map fun (key, v) => (key, .ofJson v))
    | _ => none

namespace Settings

/-- What stands in front of the keys in the environment, in small letters. -/
def environmentMark : List Char :=
  "pagewise_".toList

/-- The key of a variable of the environment, if the variable is meant for the settings. -/
def environmentKey? (name : String) : Option String :=
  let letters := lowercase name.toList
  if environmentMark.isPrefixOf letters then
    some (String.ofList (letters.drop environmentMark.length))
  else none

/-- The keys and values in the environment. -/
def environmentEntries (environment : List (String × String)) : List (String × SettingValue) :=
  environment.filterMap fun (name, text) =>
    (environmentKey? name).map (·, .ofEnvironment text)

/-- A key and its value, seen from the outermost key. -/
def outermost (entry : String × SettingValue) : String × SettingValue :=
  match SettingKey.outer? entry.1 with
  | some key => (key, .compound)
  | none => entry

/-- The settings that keys and values give, those of a later pair before those of an earlier one. A
    key that is missing keeps its default. -/
def ofEntries? (entries : List (String × SettingValue)) : Option Settings := do
  let entries := NameMap.ofList (entries.map outermost)
  let text (key default : String) := (entries.get? key).elim (some default) SettingValue.text?
  let size (key : String) (default : UInt32) :=
    (entries.get? key).elim (some default) SettingValue.size?
  let seed ← match entries.get? "seed" with
    | none | some .nothing => some none
    | some v => v.text?.map some
  return {
    database := ← text "database" default.database
    listen := ← text "listen" default.listen
    defaultPageSize := ← size "default_page_size" default.defaultPageSize
    maxPageSize := ← size "max_page_size" default.maxPageSize
    seed
    log := ← text "log" default.log }

/-- What to say of settings that cannot be read. -/
def unreadable : Error :=
  .config "unreadable settings"

/-- The settings of a file, if there is one, and of the environment, which goes before it. -/
def read? (file : Option SettingsFile) (environment : List (String × String)) :
    Option Settings := do
  let entries ← file.elim (some []) SettingsFile.entries?
  ofEntries? (entries ++ environmentEntries environment)

/-- The settings of a file and of the environment. -/
def load (file : Option SettingsFile) (environment : List (String × String)) :
    Except Error Settings := do
  let some settings := read? file environment | throw unreadable
  settings.validate
  return settings

end Settings

end PagedQuery
