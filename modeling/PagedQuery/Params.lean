import PagedQuery.Settings.Basic
import PagedQuery.Source

/-!
# Query parameters

A query written as a list of named texts, as in the query string of an address. `pageNumber`,
`pageSize`, `sortBy` and `sortDirection` are what they say. Every other parameter filters on the
field that it names, or names up to its last point: `Name=bike` looks for a text in a text attribute
and for equality in any other field, `Name.exact=` for equality, and `ListPrice.min=` and
`ListPrice.max=` give the two ends of one range.

Parameters are read from left to right, and the first that makes no sense is reported. A field takes
one plain or exact parameter, or at most one of either end of a range.

* `QueryParams.parse`: the filter, the sort and the page that the parameters ask for.
-/

namespace PagedQuery

open Text

/-- A query: what to filter by, what to sort by, and which page to take. -/
structure QueryParams where
  filter : Criteria
  sort : Option SortSpec
  page : PageRequest
deriving DecidableEq

namespace QueryParams

/-- What the parameters read so far ask for. Ranges are kept apart until both ends are known. -/
structure Draft where
  pageNumber : Option Int64
  pageSize : Option Int64
  sortBy : Option String
  direction : Option Direction
  clauses : Criteria
  ranges : NameMap (Bound × Bound)

/-- Before any parameter is read. -/
def Draft.start : Draft :=
  ⟨none, none, none, none, .empty, .empty⟩

/-- How a parameter filters on the field that it names. -/
inductive Operator
  | plain | exactly | least | most
  | unknown (word : String)
deriving DecidableEq

/-- Takes a key apart at its last point, if it has one. -/
def splitKey (key : String) : String × Operator :=
  let reversed := key.toList.reverse
  let word := String.ofList (reversed.takeWhile (· != '.')).reverse
  match reversed.dropWhile (· != '.') with
  | [] => (key, .plain)
  | _ :: name =>
    (String.ofList name.reverse,
      if word = "exact" then .exactly
      else if word = "min" then .least
      else if word = "max" then .most
      else .unknown word)

/-- Reads the number of a page, or of items on it. -/
def parseNumber (key raw : String) : Except Error Int64 :=
  match int64? (trim raw.toList) with
  | some n => .ok n
  | none => .error (.invalidArgument (key ++ " must be an integer, got '" ++ raw ++ "'"))

/-- Reads the value of a field. -/
def parseValue (field : Field) (raw : String) : Except Error Value :=
  match field.kind? with
  | some kind => Value.parse kind raw
  | none => .ok (RecordId.parse raw).toValue

/-- The predicate of a parameter without an operator. -/
def plainPredicate (field : Field) (raw : String) : Except Error Predicate :=
  match field.kind? with
  | some .text => .ok (.contains raw)
  | _ => (parseValue field raw).map .equals

/-- What to say when a field is filtered on twice. -/
def duplicate (name : String) : Error :=
  .invalidArgument ("more than one filter given for '" ++ name ++ "'")

/-- Reads a parameter that filters on a field. -/
def readFilter (schema : Schema) (state : Draft) (key raw : String) : Except Error Draft := do
  let (name, operator) := splitKey key
  let field ← schema.resolve name
  if state.clauses.contains name then throw (duplicate name)
  let (lower, upper) := (state.ranges.get? name).getD (.unbounded, .unbounded)
  match operator with
  | .plain =>
    if state.ranges.contains name then throw (duplicate name)
    let predicate ← plainPredicate field raw
    return { state with clauses := state.clauses.insert name predicate }
  | .exactly =>
    if state.ranges.contains name then throw (duplicate name)
    let value ← parseValue field raw
    return { state with clauses := state.clauses.insert name (.equals value) }
  | .least =>
    if lower ≠ .unbounded then throw (duplicate name)
    let value ← parseValue field raw
    return { state with ranges := state.ranges.insert name (.inclusive value, upper) }
  | .most =>
    if upper ≠ .unbounded then throw (duplicate name)
    let value ← parseValue field raw
    return { state with ranges := state.ranges.insert name (lower, .inclusive value) }
  | .unknown word =>
    throw (.invalidArgument ("unknown filter operator '" ++ word ++ "' in '" ++ key ++ "'"))

/-- Reads one parameter. -/
def read (schema : Schema) (state : Draft) : String × String → Except Error Draft
  | ("pageNumber", raw) => do
    return { state with pageNumber := some (← parseNumber "pageNumber" raw) }
  | ("pageSize", raw) => do
    return { state with pageSize := some (← parseNumber "pageSize" raw) }
  | ("sortBy", raw) => .ok { state with sortBy := some raw }
  | ("sortDirection", raw) => do
    return { state with direction := some (← Direction.parse raw) }
  | (key, raw) => readFilter schema state key raw

/-- The criteria: the finished clauses, and a clause for each range. -/
def Draft.criteria (state : Draft) : Criteria :=
  state.ranges.toList.foldl (fun criteria (name, lower, upper) =>
    criteria.insert name (.range lower upper)) state.clauses

/-- The sort: by the identifier where only a direction is given, and ascending where only a name
    is. -/
def Draft.sort (state : Draft) (schema : Schema) : Option SortSpec :=
  match state.sortBy, state.direction with
  | some name, direction => some ⟨name, direction.getD .ascending⟩
  | none, some direction => some ⟨schema.identifier, direction⟩
  | none, none => none

/-- Reads parameters against the schema of the entity that they ask about. -/
def parse (schema : Schema) (settings : Settings) (params : List (String × String)) :
    Except Error QueryParams := do
  let state ← params.foldlM (read schema) .start
  let page ← settings.pageRequest state.pageNumber state.pageSize
  return { filter := state.criteria, sort := state.sort schema, page }

end QueryParams

end PagedQuery
