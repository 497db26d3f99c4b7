import PagedQuery.Text.Integer

/-!
# Keys that lead inside

A key may lead inside the value of another one: `log.level` to a name in what `log` has, `log[0]` to
a place in it. Such a key is a name followed by at least one step, a name after a dot or an integer
in brackets, and counts for the name in front. Every other key is taken as it stands.

* `SettingKey.outer?`: the name in front of the steps.
-/

namespace PagedQuery.SettingKey

open Text

/-- Whether a text is a name: letters, digits, underscores and dashes, and not empty. -/
def isName (cs : List Char) : Bool :=
  !cs.isEmpty && cs.all fun c => c.isAlphanum || c == '_' || c == '-'

/-- A text without the spaces and tabs in front of it. -/
def withoutIndent (cs : List Char) : List Char :=
  cs.dropWhile fun c => c == ' ' || c == '\t'

/-- Whether a text is an integer of 64 bits without a plus sign, perhaps with blanks around it. -/
def isIndex (cs : List Char) : Bool :=
  let index := (withoutIndent (withoutIndent cs).reverse).reverse
  index.head? != some '+' && (int64? index).isSome

/-- Whether a text is a step: a dot and a name, or an integer in brackets. -/
def isStep : List Char → Bool
  | '.' :: name => isName name
  | '[' :: cs => cs.getLast? == some ']' && isIndex cs.dropLast
  | _ => false

/-- The name in front of the steps of a key that has any. A step begins at every dot and opening
    bracket, for neither can stand inside one. -/
def outer? (key : String) : Option String :=
  match key.toList.splitBy fun _ c => c != '.' && c != '[' with
  | name :: step :: steps =>
    if isName name && (step :: steps).all isStep then some (String.ofList name) else none
  | _ => none

end PagedQuery.SettingKey
