/-!
# UTF-8

Bytes read as UTF-8 one at a time. Each maximal run of bytes that begins a character and is then
broken off counts as one malformed unit, as does each byte that begins none; a reader either
refuses such input (`decode?`) or puts U+FFFD in the place of each unit (`decodeLossy`). A text may
begin with a mark of the byte order, which says nothing in UTF-8 (`withoutMark`).
-/

namespace PagedQuery.Text.Utf8

/-- Where the reader stands: between characters, or inside one of which `missing` more bytes are
    due, the next of them between `low` and `high`, while `bits` holds the payload so far. -/
inductive State
  | start
  | inside (missing low high bits : Nat)

/-- A byte met between characters: what it completes at once, and where the reader then stands.
    The bounds on the second byte exclude overlong forms, surrogates and what lies past U+10FFFF. -/
def first (b : Nat) : List (Option Char) × State :=
  if b < 0x80 then ([some (Char.ofNat b)], .start)
  else if 0xC2 ≤ b && b ≤ 0xDF then ([], .inside 1 0x80 0xBF (b - 0xC0))
  else if b == 0xE0 then ([], .inside 2 0xA0 0xBF (b - 0xE0))
  else if b == 0xED then ([], .inside 2 0x80 0x9F (b - 0xE0))
  else if 0xE1 ≤ b && b ≤ 0xEF then ([], .inside 2 0x80 0xBF (b - 0xE0))
  else if b == 0xF0 then ([], .inside 3 0x90 0xBF (b - 0xF0))
  else if b == 0xF4 then ([], .inside 3 0x80 0x8F (b - 0xF0))
  else if 0xF1 ≤ b && b ≤ 0xF3 then ([], .inside 3 0x80 0xBF (b - 0xF0))
  else ([none], .start)

/-- One byte: the characters and malformed units (`none`) that it completes. A byte that cannot
    continue a character ends it as malformed and is met again as if between characters. -/
def step : State → Nat → List (Option Char) × State
  | .start, b => first b
  | .inside missing low high bits, b =>
    if low ≤ b && b ≤ high then
      let bits := bits * 64 + (b - 0x80)
      if missing ≤ 1 then ([some (Char.ofNat bits)], .start)
      else ([], .inside (missing - 1) 0x80 0xBF bits)
    else
      let (units, state) := first b
      (none :: units, state)

/-- The characters and malformed units of the bytes to come. -/
def unitsFrom : State → List UInt8 → List (Option Char)
  | .start, [] => []
  | .inside .., [] => [none]
  | state, b :: bytes =>
    let (units, state) := step state b.toNat
    units ++ unitsFrom state bytes

/-- The characters of a byte sequence, with `none` for each malformed unit. -/
def units (bytes : List UInt8) : List (Option Char) :=
  unitsFrom .start bytes

/-- The text, unless some part of the bytes is malformed. -/
def decode? (bytes : List UInt8) : Option (List Char) :=
  (units bytes).mapM id

/-- The text with U+FFFD in the place of each malformed unit. -/
def decodeLossy (bytes : List UInt8) : List Char :=
  (units bytes).map (·.getD '\uFFFD')

/-- A text without the mark of the byte order that may begin it. -/
def withoutMark : List Char → List Char
  | '\uFEFF' :: cs => cs
  | cs => cs

end PagedQuery.Text.Utf8
