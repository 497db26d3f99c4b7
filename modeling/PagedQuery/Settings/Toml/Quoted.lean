import PagedQuery.Text.Hex

/-!
# Strings in TOML

What stands between the quotes of a string, and which characters it denotes. Between single quotes
every character stands for itself. Between double quotes a backslash begins an escape: of one
letter, or `x`, `u` or `U` with the two, four or eight hexadecimal digits of a character.

* `Toml.isPlain`: the characters that can stand for themselves on a line;
* `Quote.text?`: the text that a string denotes.
-/

namespace PagedQuery.Toml

open Text

/-- Whether a character can stand for itself in a string or a comment: all can but the control
    characters, and of these the tab. -/
def isPlain (c : Char) : Bool :=
  c == '\t' || (0x20 ≤ c.toNat && c.toNat != 0x7F)

/-- The quotes that can enclose a string. -/
inductive Quote
  | single
  | double
deriving DecidableEq

/-- The character that a quote is written with. -/
def Quote.mark : Quote → Char
  | single => '\''
  | double => '"'

/-- The character that a one-letter escape stands for. -/
def escape? : Char → Option Char
  | 'b' => some '\x08'
  | 't' => some '\t'
  | 'n' => some '\n'
  | 'f' => some '\x0C'
  | 'r' => some '\r'
  | 'e' => some '\x1B'
  | '"' => some '"'
  | '\\' => some '\\'
  | _ => none

/-- The character whose code has the given hexadecimal digits. Halves of surrogate pairs are no
    characters. -/
def coded? (digits : List Char) : Option Char :=
  let code := hexNumber digits
  if digits.all isHexDigit && (code < 0xD800 || (0xDFFF < code && code < 0x110000)) then
    some (Char.ofNat code)
  else none

/-- The characters of a text with escapes. -/
def unescape? : List Char → Option (List Char)
  | [] => some []
  | '\\' :: 'x' :: a :: b :: cs => do
    let c ← coded? [a, b]
    return c :: (← unescape? cs)
  | '\\' :: 'u' :: a :: b :: c :: d :: cs => do
    let c ← coded? [a, b, c, d]
    return c :: (← unescape? cs)
  | '\\' :: 'U' :: a :: b :: c :: d :: e :: f :: g :: h :: cs => do
    let c ← coded? [a, b, c, d, e, f, g, h]
    return c :: (← unescape? cs)
  | '\\' :: c :: cs => do
    let c ← escape? c
    return c :: (← unescape? cs)
  | c :: cs => (unescape? cs).map (c :: ·)

/-- The text that a string denotes whose quotes enclose the given characters. -/
def Quote.text? : Quote → List Char → Option (List Char)
  | single, cs => some cs
  | double, cs => unescape? cs

/-- What is left of the characters of a string of several lines without a line break at its very
    beginning. -/
def withoutFirstBreak : List Char → List Char
  | '\n' :: cs => cs
  | '\r' :: '\n' :: cs => cs
  | cs => cs

end PagedQuery.Toml
