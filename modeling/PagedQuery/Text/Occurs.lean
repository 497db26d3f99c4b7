/-!
# Occurrence

Whether one text occurs in another: at some position its characters follow one another there.
`occurs_iff` says so with the library's relation `<:+:`.
-/

namespace PagedQuery.Text

/-- Whether `needle` starts at some position of the text. -/
def occurs (needle : List Char) : List Char → Bool
  | [] => needle.isEmpty
  | c :: cs => needle.isPrefixOf (c :: cs) || occurs needle cs

theorem occurs_iff {needle text : List Char} : occurs needle text = true ↔ needle <:+: text := by
  induction text with
  | nil => simp [occurs]
  | cons c cs ih => simp [occurs, ih, List.infix_cons_iff]

end PagedQuery.Text
