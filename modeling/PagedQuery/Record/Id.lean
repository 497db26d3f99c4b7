import PagedQuery.Value.Json

/-!
# Record identifiers

A record is identified by a 64-bit integer or by a text. An integer and a text with the same
spelling are different identifiers; all integers come before all texts.

* `RecordId.parse`: an identifier as typed in, an integer if it reads as one;
* `RecordId.ofJson?`: an identifier in JSON, where a number is an integer and a string a text;
* `RecordId.toValue`: an identifier as a value, in the same order.
-/

namespace PagedQuery

open Text

/-- The identifier of a record. -/
inductive RecordId
  | integer (n : Int64)
  | text (s : String)
deriving DecidableEq, Hashable

namespace RecordId

/-- Integers come before texts. -/
def compare : RecordId → RecordId → Ordering
  | integer a, integer b => Ord.compare a b
  | integer _, text _ => .lt
  | text _, integer _ => .gt
  | text a, text b => Ord.compare a b

instance : Ord RecordId := ⟨compare⟩

/-- The identifier as a value. -/
def toValue : RecordId → Value
  | integer n => .integer n
  | text s => .text s

/-- Writes an identifier. -/
def toText : RecordId → String
  | integer n => String.ofList (integerText n.toInt)
  | text s => s

/-- Reads an identifier: an integer, with white space around it or not, and else the text as it
    stands. -/
def parse (raw : String) : RecordId :=
  match int64? (trim raw.toList) with
  | some n => integer n
  | none => text raw

/-- The identifier that a JSON value denotes. -/
def ofJson? : Json → Option RecordId
  | .integer n => (toInt64? n).map integer
  | .string s => some (text s)
  | _ => none

/-- An identifier in JSON. -/
def toJson : RecordId → Json
  | integer n => .integer n.toInt
  | text s => .string s

end RecordId

end PagedQuery
