import PagedQuery.Calendar.Timestamp
import PagedQuery.Decimal.Basic
import PagedQuery.Value.Kind

/-!
# Values

What an attribute of a record can hold: null, or a value of one of the six kinds.

All values stand in one order (`Value.compare`): null first, then booleans, numbers, texts, dates
and timestamps, each kind in its own order — but integers and decimals together, as numbers. Values
that compare equal need not be the same: `4` and `4.00` do, and nothing else but numbers does.
-/

namespace PagedQuery

/-- The value of an attribute. -/
inductive Value
  | null
  | boolean (b : Bool)
  | integer (n : Int64)
  | decimal (d : Decimal)
  | text (s : String)
  | date (d : Date)
  | timestamp (t : Timestamp)
deriving DecidableEq

namespace Value

/-- The kind of a value; null is of none. -/
def kind? : Value → Option Kind
  | null => none
  | boolean _ => some .boolean
  | integer _ => some .integer
  | decimal _ => some .decimal
  | text _ => some .text
  | date _ => some .date
  | timestamp _ => some .timestamp

/-- Whether a value is null. -/
def isNull : Value → Bool
  | null => true
  | _ => false

/-- What messages call the kind of a value. -/
def kindName (v : Value) : String :=
  v.kind?.elim "Null" Kind.name

/-- The place of a kind among the others. Integers and decimals share theirs. -/
def rank : Value → Nat
  | null => 0
  | boolean _ => 1
  | integer _ | decimal _ => 2
  | text _ => 3
  | date _ => 4
  | timestamp _ => 5

/-- The order of values. -/
def compare : Value → Value → Ordering
  | boolean a, boolean b => Ord.compare a b
  | integer a, integer b => Ord.compare a b
  | integer a, decimal b => Ord.compare (Decimal.ofInt a.toInt) b
  | decimal a, integer b => Ord.compare a (Decimal.ofInt b.toInt)
  | decimal a, decimal b => Ord.compare a b
  | text a, text b => Ord.compare a b
  | date a, date b => Ord.compare a b
  | timestamp a, timestamp b => Ord.compare a b
  | a, b => Ord.compare a.rank b.rank

instance : Ord Value := ⟨compare⟩

end Value

end PagedQuery
