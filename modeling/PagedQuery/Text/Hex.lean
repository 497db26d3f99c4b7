/-!
# Hexadecimal digits

Digits to base sixteen, in small and capital letters, as escapes in texts use them.
-/

namespace PagedQuery.Text

/-- Whether a character is a hexadecimal digit. -/
def isHexDigit (c : Char) : Bool :=
  c.isDigit || ('a' ≤ c && c ≤ 'f') || ('A' ≤ c && c ≤ 'F')

/-- The number of a run of hexadecimal digits. -/
def hexNumber (cs : List Char) : Nat :=
  cs.foldl (fun n c =>
    n * 16 + (if c.isDigit then c.toNat - 0x30 else c.toLower.toNat - 0x57)) 0

end PagedQuery.Text
