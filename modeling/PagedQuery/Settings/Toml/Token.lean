import PagedQuery.Settings.Toml.Moment
import PagedQuery.Settings.Toml.Quoted

/-!
# Tokens of TOML files

A file cut into pieces, one character at a time. Line breaks and blanks are pieces too, as they can
matter: a line break ends a line's key and value, and no blank may stand inside `[[` and `]]`.
Comments are dropped. A carriage return is only allowed as part of a line break.

Strings of several lines stand between three quotes. Up to two more quotes before the closing three
belong to the string. Between double quotes, a backslash at the end of a line joins it to what
follows on the next lines after blanks and line breaks.

* `Token`: the pieces, strings being interpreted;
* `Toml.lex?`: the tokens of a text.
-/

namespace PagedQuery.Toml

/-- A piece of a file. A word is anything that is neither a string nor one of the marks; a day and
    a time after it with one space between them are one word. -/
inductive Token
  | openBracket | closeBracket | openBrace | closeBrace | equals | comma
  | lineBreak
  | blank
  | word (text : List Char)
  | string (multiline : Bool) (text : List Char)

/-- How far into an escape a string has got. A line that is joined to the next is left only after
    its line break. -/
inductive Escape
  | none
  | backslash
  | joining (broken : Bool)

/-- What the characters just read belong to, last character first. -/
inductive Lexeme
  | between
  | comment
  | word (text : List Char)
  /-- A day after which a space stands. -/
  | day (text : List Char)
  /-- A quote that begins a string, of one line or several. -/
  | opened (quote : Quote)
  /-- Two quotes, which are an empty string or begin one of several lines. -/
  | openedTwice (quote : Quote)
  | line (quote : Quote) (text : List Char) (escaped : Bool)
  /-- A string of several lines, with the quotes that may turn out to close it. -/
  | lines (quote : Quote) (text : List Char) (escape : Escape) (closing : Nat)

/-- A character between tokens: the tokens it is, and the lexeme it begins. -/
def begin (c : Char) : List Token × Lexeme :=
  match c with
  | '[' => ([.openBracket], .between)
  | ']' => ([.closeBracket], .between)
  | '\x7b' => ([.openBrace], .between)
  | '\x7d' => ([.closeBrace], .between)
  | '=' => ([.equals], .between)
  | ',' => ([.comma], .between)
  | ' ' | '\t' => ([.blank], .between)
  | '\n' => ([.lineBreak], .between)
  | '\r' => ([], .between)
  | '#' => ([], .comment)
  | '\'' => ([], .opened .single)
  | '"' => ([], .opened .double)
  | c => ([], .word [c])

/-- A character after complete tokens. -/
def beginAfter (tokens : List Token) (c : Char) : List Token × Lexeme :=
  let (more, next) := begin c
  (tokens ++ more, next)

/-- A character inside a word. -/
def inWord (text : List Char) (c : Char) : List Token × Lexeme :=
  match begin c with
  | (_, .word _) => ([], .word (c :: text))
  | (tokens, next) =>
    if c == ' ' && isDay text.reverse then ([], .day text)
    else (.word text.reverse :: tokens, next)

/-- A character inside a string of one line. -/
def inLine? (quote : Quote) (text : List Char) (escaped : Bool) (c : Char) :
    Option (List Token × Lexeme) :=
  if !isPlain c then none
  else if escaped then some ([], .line quote (c :: text) false)
  else if c == quote.mark then
    (quote.text? text.reverse).map fun text => ([.string false text], .between)
  else some ([], .line quote (c :: text) (quote == .double && c == '\\'))

/-- The token of a string of several lines, once quotes have closed it. All but the last three of
    the quotes belong to it. -/
def closeLines? (quote : Quote) (text : List Char) (closing : Nat) : Option Token :=
  let text := withoutFirstBreak (text.reverse ++ List.replicate (closing - 3) quote.mark)
  (quote.text? text).map (.string true ·)

/-- A character inside a string of several lines that stands for itself or begins an escape. -/
def insideLines? (quote : Quote) (text : List Char) (c : Char) : Option (List Token × Lexeme) :=
  if quote == .double && c == '\\' then some ([], .lines quote text .backslash 0)
  else if isPlain c || c == '\n' || c == '\r' then some ([], .lines quote (c :: text) .none 0)
  else none

/-- A character of a string of several lines, after quotes that may close it. -/
def inLines? (quote : Quote) (text : List Char) (closing : Nat) (c : Char) :
    Option (List Token × Lexeme) :=
  if c == quote.mark then
    if closing < 4 then some ([], .lines quote text .none (closing + 1))
    else (closeLines? quote text 5).map fun token => ([token], .between)
  else if closing < 3 then insideLines? quote (List.replicate closing quote.mark ++ text) c
  else (closeLines? quote text closing).map fun token => beginAfter [token] c

/-- Whether a character can stand between a line that is joined to the next and what follows. -/
def isGap (c : Char) : Bool :=
  c == ' ' || c == '\t' || c == '\n' || c == '\r'

/-- One character: the tokens that it completes, and the lexeme that it leaves open. -/
def lexChar? (lexeme : Lexeme) (c : Char) : Option (List Token × Lexeme) :=
  match lexeme with
  | .between => some (begin c)
  | .comment =>
    if c == '\n' then some (begin c)
    else if isPlain c || c == '\r' then some ([], .comment)
    else none
  | .word text => some (inWord text c)
  | .day text =>
    if c.isDigit then some ([], .word (c :: ' ' :: text))
    else some (beginAfter [.word text.reverse, .blank] c)
  | .opened quote =>
    if c == quote.mark then some ([], .openedTwice quote) else inLine? quote [] false c
  | .openedTwice quote =>
    if c == quote.mark then some ([], .lines quote [] .none 0)
    else some (beginAfter [.string false []] c)
  | .line quote text escaped => inLine? quote text escaped c
  | .lines quote text .none closing => inLines? quote text closing c
  | .lines quote text .backslash _ =>
    if isGap c then some ([], .lines quote text (.joining (c == '\n')) 0)
    else if isPlain c then some ([], .lines quote (c :: '\\' :: text) .none 0)
    else none
  | .lines quote text (.joining broken) _ =>
    if isGap c then some ([], .lines quote text (.joining (broken || c == '\n')) 0)
    else if broken then inLines? quote text 0 c
    else none

/-- The tokens that a lexeme comes to at the end of a file. -/
def Lexeme.close? : Lexeme → Option (List Token)
  | .between | .comment => some []
  | .word text => some [.word text.reverse]
  | .day text => some [.word text.reverse, .blank]
  | .openedTwice _ => some [.string false []]
  | .lines quote text .none closing =>
    if closing < 3 then none else (closeLines? quote text closing).map ([·])
  | _ => none

/-- Cuts the characters that follow an open lexeme into tokens. -/
def lexFrom? : Lexeme → List Char → Option (List Token)
  | lexeme, [] => lexeme.close?
  | lexeme, c :: cs => do
    let (tokens, next) ← lexChar? lexeme c
    let rest ← lexFrom? next cs
    return tokens ++ rest

/-- Whether every carriage return is part of a line break. -/
def returnsInBreaks : List Char → Bool
  | [] => true
  | '\r' :: '\n' :: cs => returnsInBreaks cs
  | c :: cs => c != '\r' && returnsInBreaks cs

/-- Cuts a text into tokens. -/
def lex? (cs : List Char) : Option (List Token) :=
  if returnsInBreaks cs then lexFrom? .between cs else none

end PagedQuery.Toml
