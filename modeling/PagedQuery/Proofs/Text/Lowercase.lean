import Mathlib
import PagedQuery.Text.Lowercase
import PagedQuery.Text.Occurs

/-!
# The small form of a part of a text

The small form of a character depends on what stands around it, so the small form of a text is not
put together from those of its parts taken alone. It is put together from the small forms that the
parts have where they stand (`lowercaseBetween_append`).

The one character that looks around itself is the capital sigma, and all it asks is whether it ends
a word (`endsWord`). Hence a part of a text has the same small form in two places exactly if each of
its capital sigmas ends a word in both of them or in neither (`lowercaseBetween_eq_iff`).

* `lowercaseBetween`: the small form of a part of a text, where it stands;
* `SameSigmas`: a part of a text whose capital sigmas do not notice what is around it;
* `lowercaseBetween_infix`: the small form of a part occurs in that of the text, as it is there.
-/

namespace PagedQuery.Text

variable {before after left right cs ds : List Char}

/-- Whether a letter that stands after `before` (the nearest character first) and in front of
    `after` is the last one of a word, but not the first. -/
def endsWord (before after : List Char) : Bool :=
  startsCased before && !startsCased after

/-- The small form of a part of a text that stands after `before` (the nearest character first) and
    in front of `after`. -/
def lowercaseBetween (before : List Char) : List Char → List Char → List Char
  | [], _ => []
  | c :: cs, after =>
    lowercaseWithin before c (cs ++ after) ++ lowercaseBetween (c :: before) cs after

theorem lowercaseAfter_eq (before cs : List Char) :
    lowercaseAfter before cs = lowercaseBetween before cs [] := by
  induction cs generalizing before with
  | nil => rfl
  | cons c cs ih => rw [lowercaseAfter, lowercaseBetween, List.append_nil, ih]

theorem lowercaseBetween_append (before cs ds after : List Char) :
    lowercaseBetween before (cs ++ ds) after =
      lowercaseBetween before cs (ds ++ after) ++
        lowercaseBetween (cs.reverse ++ before) ds after := by
  induction cs generalizing before with
  | nil => rfl
  | cons c cs ih =>
    rw [List.cons_append, lowercaseBetween, lowercaseBetween, ih, List.append_assoc,
      List.append_assoc, List.reverse_cons, List.append_assoc, List.singleton_append]

/-- Only a capital sigma looks around itself, to see whether it ends a word. -/
theorem lowercaseWithin_eq_iff {c : Char} :
    lowercaseWithin before c after = lowercaseWithin left c right ↔
      (c = 'Σ' → endsWord before after = endsWord left right) := by
  rw [lowercaseWithin, lowercaseWithin]
  split
  · next h =>
    rw [forall_prop_of_true h]
    show [if endsWord before after then 'ς' else 'σ'] =
      [if endsWord left right then 'ς' else 'σ'] ↔ _
    cases endsWord before after <;> cases endsWord left right <;> decide
  · next h => simp [h]

/-- How many characters the small form of a character has does not depend on what is around it. -/
theorem length_lowercaseWithin (before : List Char) (c : Char) (after left right : List Char) :
    (lowercaseWithin before c after).length = (lowercaseWithin left c right).length := by
  rw [lowercaseWithin, lowercaseWithin]
  split
  · rfl
  · rfl

/-- A part of a text has the same small form in two places exactly if each of its capital sigmas
    ends a word in both or in neither. -/
theorem lowercaseBetween_eq_iff :
    lowercaseBetween before cs after = lowercaseBetween left cs right ↔
      ∀ x y, cs = x ++ 'Σ' :: y →
        endsWord (x.reverse ++ before) (y ++ after) =
          endsWord (x.reverse ++ left) (y ++ right) := by
  induction cs generalizing before left with
  | nil => simp [lowercaseBetween]
  | cons c cs ih =>
    rw [lowercaseBetween, lowercaseBetween]
    constructor
    · intro h x y hxy
      obtain ⟨hhead, htail⟩ := List.append_inj h (length_lowercaseWithin _ _ _ _ _)
      cases x with
      | nil =>
        obtain ⟨rfl, rfl⟩ := List.cons.inj hxy
        exact lowercaseWithin_eq_iff.1 hhead rfl
      | cons d x =>
        obtain ⟨rfl, rfl⟩ := List.cons.inj hxy
        simpa using ih.1 htail x y rfl
    · intro h
      have hhead := lowercaseWithin_eq_iff.2 fun hc => h [] cs (hc ▸ rfl)
      have htail := ih.2 fun x y hxy => by simpa using h (c :: x) y (hxy ▸ rfl)
      exact congrArg₂ _ hhead htail

/-- Each capital sigma of a text ends a word there if, and only if, it does where the text stands
    after `before` (the nearest character first) and in front of `after`. -/
def SameSigmas (before cs after : List Char) : Prop :=
  ∀ x y, cs = x ++ 'Σ' :: y → endsWord (x.reverse ++ before) (y ++ after) = endsWord x.reverse y

/-- A part of a text has the small form that it has alone exactly if its capital sigmas do not
    notice what is around it. -/
theorem lowercaseBetween_eq_lowercase_iff :
    lowercaseBetween before cs after = lowercase cs ↔ SameSigmas before cs after := by
  rw [lowercase, lowercaseAfter_eq, lowercaseBetween_eq_iff, SameSigmas]
  simp only [List.append_nil]

/-- A text without capital sigmas has the same small form wherever it stands. -/
theorem sameSigmas_of_not_mem (h : 'Σ' ∉ cs) : SameSigmas before cs after := by
  rintro x y rfl
  exact absurd (List.mem_append_right x List.mem_cons_self) h

/-- The small form of a text has in it that of each of its parts, as it is in its place. -/
theorem lowercaseBetween_infix (before cs after : List Char) :
    lowercaseBetween before.reverse cs after <:+: lowercase (before ++ cs ++ after) := by
  refine ⟨lowercaseBetween [] before (cs ++ after),
    lowercaseBetween (cs.reverse ++ before.reverse) after [], ?_⟩
  rw [lowercase, lowercaseAfter_eq, lowercaseBetween_append, lowercaseBetween_append,
    List.append_nil, List.append_nil, List.append_nil, List.reverse_append]

end PagedQuery.Text
