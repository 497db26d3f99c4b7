/-!
# Maps from names

A map with finitely many names, each bound to one value. It is held as the list of its bindings in
ascending order of the names, so two maps with the same bindings are equal and every walk through a
map goes by name.

* `NameMap.get?`, `NameMap.insert`, `NameMap.ofList`: looking up, binding and collecting — a later
  binding of a name replaces an earlier one;
* `get?_insert`: a binding is found under its own name and hides no other.
-/

namespace PagedQuery

/-- A finite map from names, its bindings in ascending order. -/
structure NameMap (α : Type) where
  toList : List (String × α)
  sorted : toList.Pairwise (·.1 < ·.1)

namespace NameMap

variable {α β : Type}

instance [DecidableEq α] : DecidableEq (NameMap α) := fun m n =>
  decidable_of_iff (m.toList = n.toList) (by cases m; cases n; simp)

/-- The map without bindings. -/
def empty : NameMap α :=
  ⟨[], .nil⟩

instance : Inhabited (NameMap α) := ⟨empty⟩

/-- The value bound to a name. -/
def get? (m : NameMap α) (name : String) : Option α :=
  m.toList.lookup name

/-- Whether a name is bound. -/
def contains (m : NameMap α) (name : String) : Bool :=
  (m.get? name).isSome

/-- How many names are bound. -/
def size (m : NameMap α) : Nat :=
  m.toList.length

/-- Whether no name is bound. -/
def isEmpty (m : NameMap α) : Bool :=
  m.toList.isEmpty

/-- The bound names, in ascending order. -/
def keys (m : NameMap α) : List String :=
  m.toList.map (·.1)

/-- Puts a binding into a list of bindings in ascending order. -/
def insertSorted (name : String) (value : α) : List (String × α) → List (String × α)
  | [] => [(name, value)]
  | (n, v) :: rest =>
    if name < n then (name, value) :: (n, v) :: rest
    else if name = n then (name, value) :: rest
    else (n, v) :: insertSorted name value rest

theorem mem_insertSorted {name : String} {value : α} {l : List (String × α)} {b : String × α}
    (h : b ∈ insertSorted name value l) : b = (name, value) ∨ b ∈ l := by
  induction l with
  | nil => simpa [insertSorted] using h
  | cons c l ih => grind [insertSorted]

theorem sorted_insertSorted {name : String} {value : α} {l : List (String × α)}
    (h : l.Pairwise (·.1 < ·.1)) : (insertSorted name value l).Pairwise (·.1 < ·.1) := by
  induction l with
  | nil => simp [insertSorted]
  | cons c l ih =>
    obtain ⟨n, v⟩ := c
    rw [List.pairwise_cons] at h
    simp only [insertSorted]
    split
    · next hn =>
      refine List.pairwise_cons.2 ⟨fun b hb => ?_, List.pairwise_cons.2 h⟩
      rcases List.mem_cons.1 hb with rfl | hb
      · exact hn
      · exact String.lt_trans hn (h.1 b hb)
    · split
      · next hn => exact List.pairwise_cons.2 ⟨fun b hb => hn ▸ h.1 b hb, h.2⟩
      · next hlt hne =>
        refine List.pairwise_cons.2 ⟨fun b hb => ?_, ih h.2⟩
        rcases mem_insertSorted hb with rfl | hb
        · exact Std.lt_of_le_of_ne (String.not_lt.1 hlt) (Ne.symm hne)
        · exact h.1 b hb

/-- Binds a name to a value, whatever it was bound to before. -/
def insert (m : NameMap α) (name : String) (value : α) : NameMap α :=
  ⟨insertSorted name value m.toList, sorted_insertSorted m.sorted⟩

theorem get?_insert (m : NameMap α) (name n : String) (value : α) :
    (m.insert name value).get? n = if n = name then some value else m.get? n := by
  obtain ⟨l, h⟩ := m
  simp only [get?, insert]
  clear h
  induction l with
  | nil => grind [insertSorted]
  | cons c l ih => grind [insertSorted]

/-- The bindings of a list, of which a later one replaces an earlier one of the same name. -/
def ofList (bindings : List (String × α)) : NameMap α :=
  bindings.foldl (fun m (name, value) => m.insert name value) empty

end NameMap

end PagedQuery
