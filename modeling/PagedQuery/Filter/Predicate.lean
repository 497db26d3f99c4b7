import PagedQuery.Record.Schema
import PagedQuery.Text.Occurs

/-!
# Predicates

What a filter asks of one field: to equal a value, to contain a text, or to lie within bounds.

A predicate is first checked against the field (`Predicate.check`): a text can be looked for only in
a text attribute or in the identifier, and a value be compared only with a field that can hold its
like. Then it is made ready for testing (`Predicate.matcher`), which brings the text looked for to
lower case once. `Matcher.accepts` is the test. Null equals nothing and bounds nothing.
-/

namespace PagedQuery

open Text

/-- One end of a range. -/
inductive Bound
  | unbounded
  | inclusive (v : Value)
  | exclusive (v : Value)
deriving DecidableEq

/-- The value at an end. -/
def Bound.value? : Bound → Option Value
  | unbounded => none
  | inclusive v | exclusive v => some v

/-- What is asked of a field. -/
inductive Predicate
  /-- The field equals the value. Texts are told apart by case. -/
  | equals (v : Value)
  /-- The text of the field contains the given one, whatever the case of either. -/
  | contains (needle : String)
  /-- The field lies between the bounds in the order of values. -/
  | range (lower upper : Bound)
deriving DecidableEq

namespace Predicate

/-- At least the given value. -/
def atLeast (v : Value) : Predicate :=
  range (.inclusive v) .unbounded

/-- At most the given value. -/
def atMost (v : Value) : Predicate :=
  range .unbounded (.inclusive v)

/-- Between two values, both of which belong to the range. -/
def between (lower upper : Value) : Predicate :=
  range (.inclusive lower) (.inclusive upper)

/-- The values that a predicate compares the field with. -/
def literals : Predicate → List Value
  | equals v => [v]
  | contains _ => []
  | range lower upper => [lower, upper].filterMap Bound.value?

end Predicate

/-- Whether a field can be compared with values of a kind. An identifier is an integer or a text. -/
def Field.accepts : Field → Kind → Bool
  | identifier, found => found = .integer || found = .text
  | declared a, found => a.kind.accepts found

/-- Whether a field can be searched for a text. -/
def Field.isSearchable (field : Field) : Bool :=
  field.kind?.all (· = .text)

namespace Predicate

/-- Checks that a predicate suits the field that it is asked of, and reports the first value that
    does not. -/
def check (name : String) (field : Field) (predicate : Predicate) : Except Error Unit :=
  let expected := field.kind?.getD .text
  match predicate with
  | contains _ =>
    if field.isSearchable then .ok ()
    else .error (.kindMismatch name expected "a substring predicate")
  | predicate =>
    match (predicate.literals.filterMap Value.kind?).find? (!field.accepts ·) with
    | none => .ok ()
    | some found => .error (.kindMismatch name expected found.name)

end Predicate

/-- A predicate that is ready for testing. -/
inductive Matcher
  | equals (v : Value)
  | contains (needle : List Char)
  | range (lower upper : Bound)

/-- Makes a predicate ready for testing. -/
def Predicate.matcher : Predicate → Matcher
  | equals v => .equals v
  | contains needle => .contains (lowercase needle.toList)
  | range lower upper => .range lower upper

/-- Whether a value is not below a lower bound. -/
def Bound.admitsAbove (bound : Bound) (v : Value) : Bool :=
  match bound with
  | unbounded => true
  | inclusive b => !b.isNull && (compare v b).isGE
  | exclusive b => !b.isNull && (compare v b).isGT

/-- Whether a value is not above an upper bound. -/
def Bound.admitsBelow (bound : Bound) (v : Value) : Bool :=
  match bound with
  | unbounded => true
  | inclusive b => !b.isNull && (compare v b).isLE
  | exclusive b => !b.isNull && (compare v b).isLT

/-- Whether a value other than null passes. An integer, which only an identifier can be here, is
    searched in its decimal digits. -/
def Matcher.accepts (matcher : Matcher) (v : Value) : Bool :=
  match matcher with
  | equals expected => !expected.isNull && (compare v expected).isEq
  | contains needle =>
    match v with
    | .text s => occurs needle (lowercase s.toList)
    | .integer n => occurs needle (integerText n.toInt)
    | _ => false
  | range lower upper => lower.admitsAbove v && upper.admitsBelow v

end PagedQuery
