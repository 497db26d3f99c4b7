import PagedQuery.Settings.Value

/-!
# Tables in TOML

A file gives values to names, and a name with dots in it lies inside a table of the name in front of
the last dot. Here is kept what every name stands for, under its full path, so that no name is given
two meanings: no name has two values, no table has two headers, and a table that was made in one way
is not added to in another.

* `Tables.assign?`: a value for a name of the current table;
* `Tables.openTable?`, `Tables.openElement?`: the headers `[name]` and `[[name]]`, after which
  another table is current;
* `Tables.entries`: the names of the outermost table and their values.
-/

namespace PagedQuery.Toml

/-- A name with dots in it: the names between the dots, outermost first. -/
abbrev Path := List String

/-- What a path stands for. -/
inductive Role
  | value (v : SettingValue)
  /-- A table that a header mentions on the way to another one. -/
  | implied
  /-- A table that the key of a value mentions. -/
  | dotted
  /-- A table with a header of its own. -/
  | declared
  /-- The last table of an array of tables, each of which has a header. -/
  | element

/-- What the paths of a file stand for so far, and which table the next keys belong to. -/
structure Tables where
  current : Path
  roles : List (Path × Role)

namespace Tables

/-- No table but the outermost one. -/
def empty : Tables :=
  ⟨[], []⟩

/-- What a path stands for. -/
def role? (t : Tables) (path : Path) : Option Role :=
  t.roles.lookup path

/-- Says what a path stands for from now on. -/
def declare (t : Tables) (path : Path) (role : Role) : Tables :=
  { t with roles := (path, role) :: t.roles }

/-- Goes from a table down a path, and makes the tables on it that are not there. The key of a value
    does not lead through a table with a header of its own. -/
def descend? (fresh : Role) (t : Tables) (base : Path) : Path → Option Tables
  | [] => some t
  | name :: rest =>
    let here := base ++ [name]
    match t.role? here, fresh with
    | none, fresh => descend? fresh (t.declare here fresh) here rest
    | some (.value _), _ | some .declared, .dotted => none
    | some _, fresh => descend? fresh t here rest

/-- Whether values can be put into a table by keys with dots: only the current table and those that
    such keys have made. -/
def takesKeys (t : Tables) (table : Path) : Bool :=
  match t.role? table with
  | some .dotted => true
  | _ => table == t.current

/-- Gives a value to a name, by its path from the current table. -/
def assign? (t : Tables) (path : Path) (v : SettingValue) : Option Tables := do
  let t ← t.descend? .dotted t.current path.dropLast
  let full := t.current ++ path
  if t.takesKeys full.dropLast && (t.role? full).isNone then some (t.declare full (.value v))
  else none

/-- Makes a table current that has no header yet. -/
def openTable? (t : Tables) (path : Path) : Option Tables := do
  let t ← t.descend? .implied [] path.dropLast
  match t.role? path with
  | none | some .implied => some { t.declare path .declared with current := path }
  | _ => none

/-- Makes another table of an array of tables current; it has no names yet. -/
def openElement? (t : Tables) (path : Path) : Option Tables := do
  let t ← t.descend? .implied [] path.dropLast
  match t.role? path with
  | none => some { t.declare path .element with current := path }
  | some .element =>
    some { current := path, roles := t.roles.filter fun (p, _) => p == path || !path.isPrefixOf p }
  | _ => none

/-- The names of the outermost table with their values. Tables are compound values. -/
def entries (t : Tables) : List (String × SettingValue) :=
  t.roles.filterMap fun
    | ([name], .value v) => some (name, v)
    | ([name], _) => some (name, .compound)
    | _ => none

end Tables

end PagedQuery.Toml
