import PagedQuery.Text.Hex
import PagedQuery.Text.Integer

/-!
# JSON documents

A JSON text taken apart but not yet interpreted: strings keep their escapes, numbers their digits,
objects all their members in the order of the text. Numbers out of range, halves of surrogate pairs
and nesting of any depth are still allowed; `PagedQuery.Json.Reader` decides about those.

The text is taken apart in two passes, each of which looks at one piece at a time and keeps what it
needs to know of the earlier ones: `lex` cuts the characters into tokens, `Builder.step` puts the
tokens together, with the arrays and objects that are still open on a stack.

* `Document`: what a text says;
* `Document.parse?`: the document of a text, if the text is well formed.
-/

namespace PagedQuery.Json

open Text

/-- A number as written, in its parts: the sign, the digits in front of the point and behind it, and
    the exponent, if there is one. -/
structure Literal where
  negative : Bool
  whole : List Char
  fraction : List Char
  exponent : Option Int

/-- A JSON text taken apart. The characters of strings are as written. -/
inductive Document
  | null
  | bool (b : Bool)
  | number (literal : Literal)
  | string (text : List Char)
  | array (elements : List Document)
  | object (members : List (List Char × Document))

/-- A piece of a JSON text. -/
inductive Token
  | openBracket | closeBracket | openBrace | closeBrace | comma | colon
  | null
  | bool (b : Bool)
  | number (literal : Literal)
  | string (text : List Char)

/-- How far into an escape a string has got. -/
inductive Escape
  | none
  | backslash
  | hex (missing : Nat)

/-- What the characters just read belong to, last character first. -/
inductive Lexeme
  | between
  | word (text : List Char)
  | number (text : List Char)
  | string (text : List Char) (escape : Escape)

/-- Whether digits may stand in front of a point: there are some, without leading zeros. -/
def wholeOk : List Char → Bool
  | [] => false
  | ['0'] => true
  | d :: _ => d != '0'

/-- The digits behind the point, if there is one, and what follows them. -/
def takeFraction? : List Char → Option (List Char × List Char)
  | '.' :: cs =>
    let fraction := cs.takeWhile Char.isDigit
    if fraction.isEmpty then none else some (fraction, cs.drop fraction.length)
  | cs => some ([], cs)

/-- The exponent at the end of a number, if there is one. -/
def exponent? : List Char → Option (Option Int)
  | [] => some none
  | c :: cs => if c == 'e' || c == 'E' then (integer? cs).map some else none

namespace Literal

/-- The parts of a number that follow its sign. -/
def ofUnsigned? (negative : Bool) (cs : List Char) : Option Literal := do
  let whole := cs.takeWhile Char.isDigit
  let (fraction, afterFraction) ← takeFraction? (cs.drop whole.length)
  let exponent ← exponent? afterFraction
  if wholeOk whole then some { negative, whole, fraction, exponent } else none

/-- The parts of a number, if a text is one: there are no leading zeros, and digits on both sides of
    a point and in an exponent. -/
def ofText? : List Char → Option Literal
  | '-' :: cs => ofUnsigned? true cs
  | cs => ofUnsigned? false cs

end Literal

/-- The token that a word or number comes to at its end. -/
def Lexeme.token? : Lexeme → Option Token
  | .word text =>
    match text.reverse with
    | ['n', 'u', 'l', 'l'] => some .null
    | ['t', 'r', 'u', 'e'] => some (.bool true)
    | ['f', 'a', 'l', 's', 'e'] => some (.bool false)
    | _ => none
  | .number text => (Literal.ofText? text.reverse).map .number
  | _ => none

/-- A character between tokens: the token it is, or the lexeme it begins. -/
def begin? (c : Char) : Option (List Token × Lexeme) :=
  match c with
  | ' ' | '\t' | '\n' | '\r' => some ([], .between)
  | '[' => some ([.openBracket], .between)
  | ']' => some ([.closeBracket], .between)
  | '\x7b' => some ([.openBrace], .between)
  | '\x7d' => some ([.closeBrace], .between)
  | ',' => some ([.comma], .between)
  | ':' => some ([.colon], .between)
  | '"' => some ([], .string [] .none)
  | c =>
    if c == '-' || c.isDigit then some ([], .number [c])
    else if c.isLower then some ([], .word [c])
    else none

/-- A character inside a string. -/
def inString? (text : List Char) (c : Char) : Escape → Option (List Token × Lexeme)
  | .none =>
    if c == '"' then some ([.string text.reverse], .between)
    else if c.toNat < 0x20 then none
    else some ([], .string (c :: text) (if c == '\\' then .backslash else .none))
  | .backslash =>
    if c == 'u' then some ([], .string (c :: text) (.hex 4))
    else if ['"', '\\', '/', 'b', 'f', 'n', 'r', 't'].contains c then
      some ([], .string (c :: text) .none)
    else none
  | .hex missing =>
    if isHexDigit c then
      some ([], .string (c :: text) (if missing ≤ 1 then .none else .hex (missing - 1)))
    else none

/-- One character: the tokens that it completes, and the lexeme that it leaves open. -/
def lexChar? (lexeme : Lexeme) (c : Char) : Option (List Token × Lexeme) :=
  match lexeme with
  | .between => begin? c
  | .string text escape => inString? text c escape
  | .word text =>
    if c.isLower then some ([], .word (c :: text)) else ended
  | .number text =>
    if c.isDigit || ['+', '-', '.', 'e', 'E'].contains c then some ([], .number (c :: text))
    else ended
where
  ended : Option (List Token × Lexeme) := do
    let token ← lexeme.token?
    let (tokens, next) ← begin? c
    return (token :: tokens, next)

/-- Cuts the characters that follow an open lexeme into tokens. -/
def lexFrom? : Lexeme → List Char → Option (List Token)
  | .between, [] => some []
  | lexeme, [] => lexeme.token?.map ([·])
  | lexeme, c :: cs => do
    let (tokens, next) ← lexChar? lexeme c
    let rest ← lexFrom? next cs
    return tokens ++ rest

/-- Cuts a text into tokens. -/
def lex? (cs : List Char) : Option (List Token) :=
  lexFrom? .between cs

/-- An array or object whose end has not come yet, with what it holds so far, the last first. An
    object is left open at a member's value. -/
inductive Frame
  | array (before : List Document)
  | object (before : List (List Char × Document)) (name : List Char)

/-- What has to come next. -/
inductive Builder
  | value (frames : List Frame)
  | elementOrEnd (frames : List Frame)
  | memberOrEnd (frames : List Frame)
  | member (before : List (List Char × Document)) (frames : List Frame)
  | colon (before : List (List Char × Document)) (name : List Char) (frames : List Frame)
  | afterElement (before : List Document) (frames : List Frame)
  | afterMember (before : List (List Char × Document)) (frames : List Frame)
  | done (document : Document)

namespace Builder

/-- A value has come to its end. -/
def completed (v : Document) : List Frame → Builder
  | [] => .done v
  | .array before :: frames => .afterElement (v :: before) frames
  | .object before name :: frames => .afterMember ((name, v) :: before) frames

/-- A token in the place of a value. -/
def startValue? (frames : List Frame) : Token → Option Builder
  | .null => some (completed .null frames)
  | .bool b => some (completed (.bool b) frames)
  | .number literal => some (completed (.number literal) frames)
  | .string text => some (completed (.string text) frames)
  | .openBracket => some (.elementOrEnd frames)
  | .openBrace => some (.memberOrEnd frames)
  | _ => none

/-- One token. -/
def step? : Builder → Token → Option Builder
  | .value frames, token => startValue? frames token
  | .elementOrEnd frames, .closeBracket => some (completed (.array []) frames)
  | .elementOrEnd frames, token => startValue? (.array [] :: frames) token
  | .memberOrEnd frames, .closeBrace => some (completed (.object []) frames)
  | .memberOrEnd frames, .string name => some (.colon [] name frames)
  | .member before frames, .string name => some (.colon before name frames)
  | .colon before name frames, .colon => some (.value (.object before name :: frames))
  | .afterElement before frames, .comma => some (.value (.array before :: frames))
  | .afterElement before frames, .closeBracket => some (completed (.array before.reverse) frames)
  | .afterMember before frames, .comma => some (.member before frames)
  | .afterMember before frames, .closeBrace => some (completed (.object before.reverse) frames)
  | _, _ => none

/-- The document, once it is complete. -/
def document? : Builder → Option Document
  | .done v => some v
  | _ => none

end Builder

/-- The document of a text that holds one value and nothing else. -/
def Document.parse? (cs : List Char) : Option Document := do
  let tokens ← lex? cs
  let built ← tokens.foldlM Builder.step? (.value [])
  built.document?

end PagedQuery.Json
