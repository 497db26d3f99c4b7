import PagedQuery.Text.Hex
import PagedQuery.Text.Utf8

/-!
# Request targets

What a request asks for: a path, and after the first `?` a list of parameters. In front of the path
the scheme and the host may be named, which do not matter. A `#` and what follows it are not part of
the target.

The text of either is written in bytes: `%` and two hexadecimal digits are one byte, and a `%`
without them is itself. Among the parameters `+` is a space, and bytes that are no UTF-8 become
U+FFFD; a segment of the path has to be UTF-8 (`segment?`).

* `Target.parse`: a target taken apart;
* `Route.of?`: what a path leads to.
-/

namespace PagedQuery.Http

open Text

/-- The bytes that a text with percent escapes stands for. -/
def unescaped : List Char → List UInt8
  | '%' :: a :: b :: cs =>
    if isHexDigit a && isHexDigit b then UInt8.ofNat (hexNumber [a, b]) :: unescaped cs
    else String.utf8EncodeChar '%' ++ unescaped (a :: b :: cs)
  | c :: cs => String.utf8EncodeChar c ++ unescaped cs
  | [] => []

/-- The text of a segment of a path, if its bytes are UTF-8. -/
def segment? (cs : List Char) : Option String :=
  (Utf8.decode? (unescaped cs)).map String.ofList

/-- The text of the name or the value of a parameter. -/
def component (cs : List Char) : String :=
  String.ofList (Utf8.decodeLossy (unescaped (cs.map fun c => if c == '+' then ' ' else c)))

/-- A parameter: a name, and after the first `=` a value. -/
def parameter (piece : List Char) : String × String :=
  (component (piece.takeWhile (· != '=')), component ((piece.dropWhile (· != '=')).drop 1))

/-- The parameters of a query, which `&` separates. -/
def parameters (query : List Char) : List (String × String) :=
  ((query.splitOn '&').filter (!·.isEmpty)).map parameter

/-- What a request asks for. -/
structure Target where
  path : List Char
  params : List (String × String)

/-- Whether a character can stand in the name of a scheme. -/
def isSchemeChar (c : Char) : Bool :=
  c.isAlphanum || ['+', '-', '.', '~'].contains c

/-- A target without a scheme and a host in front of it. -/
def withoutHost (cs : List Char) : List Char :=
  match cs.dropWhile isSchemeChar with
  | ':' :: '/' :: '/' :: rest => rest.dropWhile fun c => c != '/' && c != '?' && c != '#'
  | _ => cs

/-- Takes a target apart. -/
def Target.parse (s : String) : Target :=
  let cs := (withoutHost s.toList).takeWhile (· != '#')
  { path := cs.takeWhile (· != '?')
    params := parameters ((cs.dropWhile (· != '?')).drop 1) }

/-- What a path leads to: the list of entities, or one of them, which a segment names. -/
inductive Route
  | entities
  | entity (segment : List Char)

/-- The route of a path. -/
def Route.of? : List Char → Option Route
  | ['/', 'v', '1'] => some .entities
  | '/' :: 'v' :: '1' :: '/' :: segment =>
    if segment.isEmpty || segment.contains '/' then none else some (.entity segment)
  | _ => none

end PagedQuery.Http
