/-!
# White space

Text that a person types in is read with the white space around it dropped. White space is what
Unicode gives the property `White_Space`, twenty-five characters in all; the zero-width ones
(U+200B, U+FEFF) are not among them.

* `isBlank`: the class;
* `trim`: a text without the white space at either end.
-/

namespace PagedQuery.Text

/-- Whether a character has the Unicode property `White_Space`. -/
def isBlank (c : Char) : Bool :=
  let n := c.toNat
  (0x09 ≤ n && n ≤ 0x0D) || n == 0x20 || n == 0x85 || n == 0xA0 || n == 0x1680 ||
    (0x2000 ≤ n && n ≤ 0x200A) || n == 0x2028 || n == 0x2029 || n == 0x202F || n == 0x205F ||
    n == 0x3000

/-- The text from its first character that is not white space. -/
def trimStart (cs : List Char) : List Char :=
  cs.dropWhile isBlank

/-- The text up to its last character that is not white space. -/
def trimEnd (cs : List Char) : List Char :=
  (cs.reverse.dropWhile isBlank).reverse

/-- The text without the white space at its two ends. -/
def trim (cs : List Char) : List Char :=
  trimEnd (trimStart cs)

end PagedQuery.Text
