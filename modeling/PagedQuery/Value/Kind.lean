import PagedQuery.Text.Blank
import PagedQuery.Text.Lowercase

/-!
# Kinds of values

The six kinds that an attribute can be declared with.

* `Kind.name`, `Kind.ofName?`: the name of a kind, read without regard to the case of its letters
  and to white space around it;
* `Kind.number`, `Kind.ofNumber?`: the number under which a store knows a kind;
* `Kind.accepts`: which values may be compared with an attribute.
-/

namespace PagedQuery

open Text

/-- What kind of values an attribute holds. -/
inductive Kind
  | boolean | integer | decimal | text | date | timestamp
deriving DecidableEq

namespace Kind

/-- Every kind, in the order of their numbers. -/
def all : List Kind :=
  [boolean, integer, decimal, text, date, timestamp]

/-- The name of a kind. -/
def name : Kind → String
  | boolean => "Boolean"
  | integer => "Integer"
  | decimal => "Decimal"
  | text => "Text"
  | date => "Date"
  | timestamp => "Timestamp"

/-- The number of a kind, which never changes. -/
def number : Kind → Nat
  | boolean => 1
  | integer => 2
  | decimal => 3
  | text => 4
  | date => 5
  | timestamp => 6

/-- The kind that a name denotes. -/
def ofName? (s : String) : Option Kind :=
  all.find? fun kind => lowercaseAscii (trim s.toList) = lowercaseAscii kind.name.toList

/-- The kind that a number denotes. -/
def ofNumber? (n : Nat) : Option Kind :=
  all.find? (·.number = n)

/-- Integers and decimals. -/
def isNumeric : Kind → Bool
  | integer | decimal => true
  | _ => false

/-- Whether values of kind `other` may be compared with an attribute of this kind: the kinds agree,
    or both are numeric. -/
def accepts (kind other : Kind) : Bool :=
  kind = other || (kind.isNumeric && other.isNumeric)

end Kind

end PagedQuery
