import PagedQuery.Text.Lowercase.Table

/-!
# Lower case

The small form of a text, by the full mapping of the Unicode character database and without regard
to a locale. It is not a map on characters in two respects: `İ` becomes two characters, and the
small form of `Σ` depends on its neighbours — it is `ς` where a cased letter comes before and none
comes after, characters that are case-ignorable being skipped on both sides, and `σ` elsewhere.

* `lowercase`: the small form of a text;
* `lowercaseAfter_cons`: how it goes through a text.
-/

namespace PagedQuery.Text

/-- Whether a code point lies in one of the ranges. -/
def inRanges (ranges : List (Nat × Nat)) (c : Char) : Bool :=
  ranges.any fun (low, high) => low ≤ c.toNat && c.toNat ≤ high

/-- A character that is skipped in the search for a cased letter. -/
def isCaseIgnorable (c : Char) : Bool :=
  inRanges caseIgnorableRanges c

/-- A cased letter that is not skipped. -/
def isCased (c : Char) : Bool :=
  inRanges casedRanges c

/-- Whether the first character that is not skipped is a cased letter. -/
def startsCased (cs : List Char) : Bool :=
  match cs.dropWhile isCaseIgnorable with
  | [] => false
  | c :: _ => isCased c

/-- Whether a run of capitals holds the code point. -/
def CapitalRun.contains (run : CapitalRun) (n : Nat) : Bool :=
  run.first ≤ n && n ≤ run.last && (n - run.first) % run.stride == 0

/-- The small form of a character taken alone, where that is one character. -/
def lowercaseChar (c : Char) : Char :=
  match capitalRuns.find? (·.contains c.toNat) with
  | some run => Char.ofNat (c.toNat + run.shift).toNat
  | none => c

/-- The small form of a character that stands after `before` (the nearest character first) and in
    front of `after`. -/
def lowercaseWithin (before : List Char) (c : Char) (after : List Char) : List Char :=
  if c = 'Σ' then [if startsCased before && !startsCased after then 'ς' else 'σ']
  else if c = 'İ' then ['i', '\u0307']
  else [lowercaseChar c]

/-- The small form of what follows `before`, whose nearest character comes first. -/
def lowercaseAfter (before : List Char) : List Char → List Char
  | [] => []
  | c :: after => lowercaseWithin before c after ++ lowercaseAfter (c :: before) after

/-- The small form of a text. -/
def lowercase (cs : List Char) : List Char :=
  lowercaseAfter [] cs

theorem lowercaseAfter_cons (before : List Char) (c : Char) (after : List Char) :
    lowercaseAfter before (c :: after) =
      lowercaseWithin before c after ++ lowercaseAfter (c :: before) after := rfl

/-- Looks at ASCII letters alone, and leaves every other character as it is. -/
def lowercaseAscii (cs : List Char) : List Char :=
  cs.map Char.toLower

end PagedQuery.Text
