import Mathlib
import PagedQuery.NameMap
import PagedQuery.Proofs.Outcome

/-!
# What is in a map from names

A map holds its bindings in the order of their names, so what is found under a name, what is among
the bindings and the map itself say the same thing, and a walk through a map goes from name to name.

* `get?_eq_some_iff`: what is found is what is among the bindings;
* `eq_of_get?_eq`: maps are determined by what is found in them;
* `mapM_eq_error_iff`: where a walk through a map fails;
* `mem_of_mem_ofList`, `get?_ofList`, `mem_toList_ofList`, `toList_ofList`: maps that are made of
  bindings;
* `without`: a map without one of its names.
-/

namespace PagedQuery.NameMap

variable {α : Type} {l : List (String × α)} {m : NameMap α} {name : String} {v : α}

/-! ## Bindings -/

/-- What is in a map is found under its name. -/
theorem get?_of_mem {b : String × α} (h : b ∈ m.toList) : m.get? b.1 = some b.2 := by
  obtain ⟨before, after, heq⟩ := List.append_of_mem h
  have hsorted := m.sorted
  rw [heq, List.pairwise_append] at hsorted
  rw [get?, List.lookup_eq_some_iff]
  refine ⟨before, after, heq, fun c hc => ?_⟩
  rw [bne_iff_ne]
  exact (hsorted.2.2 c hc b List.mem_cons_self).ne'

theorem mem_of_get? (h : m.get? name = some v) : (name, v) ∈ m.toList := by
  obtain ⟨before, after, heq, -⟩ := List.lookup_eq_some_iff.1 h
  rw [heq]
  exact List.mem_append_right before List.mem_cons_self

theorem get?_eq_some_iff : m.get? name = some v ↔ (name, v) ∈ m.toList :=
  ⟨mem_of_get?, get?_of_mem⟩

/-- Bindings in the order of their names are determined by which they are. -/
theorem eq_of_mem_iff {l l' : List (String × α)} (hl : l.Pairwise (·.1 < ·.1))
    (hl' : l'.Pairwise (·.1 < ·.1)) (h : ∀ b, b ∈ l ↔ b ∈ l') : l = l' := by
  have hnodup {m : List (String × α)} (hm : m.Pairwise (·.1 < ·.1)) : m.Nodup :=
    hm.imp fun hlt heq => hlt.ne (congrArg Prod.fst heq)
  have hperm := (List.perm_ext_iff_of_nodup (hnodup hl) (hnodup hl')).2 h
  exact hperm.eq_of_pairwise (fun _ _ _ _ hbc hcb => absurd hbc hcb.asymm) hl hl'

/-- Maps in which the same is found under every name are the same. -/
theorem eq_of_get?_eq {m' : NameMap α} (h : ∀ name, m.get? name = m'.get? name) : m = m' := by
  have hlist : m.toList = m'.toList := eq_of_mem_iff m.sorted m'.sorted fun b => by
    rw [← get?_eq_some_iff, ← get?_eq_some_iff, h]
  rcases m with ⟨l, hl⟩
  rcases m' with ⟨l', hl'⟩
  obtain rfl : l = l' := hlist
  rfl

/-- A walk through a map that fails does so at the first binding, by name, at which it cannot go
    on. -/
theorem mapM_eq_error_iff {β : Type} {f : String × α → Except Error β} {e : Error} :
    m.toList.mapM f = .error e ↔ ∃ name v, m.get? name = some v ∧ f (name, v) = .error e ∧
      ∀ n w, n < name → m.get? n = some w → ∃ b, f (n, w) = .ok b := by
  rw [PagedQuery.mapM_eq_error_iff]
  constructor
  · rintro ⟨before, b, rest, hsplit, hbefore, hb⟩
    refine ⟨b.1, b.2, get?_of_mem (by simp [hsplit]), hb, fun n w hn hw => ?_⟩
    -- What has a smaller name stands before.
    have hmem := mem_of_get? hw
    have hsorted := m.sorted
    rw [hsplit, List.pairwise_append, List.pairwise_cons] at hsorted
    rw [hsplit, List.mem_append, List.mem_cons] at hmem
    obtain hmem | rfl | hmem := hmem
    · exact hbefore _ hmem
    · exact absurd hn (lt_irrefl n)
    · exact absurd (hn.trans (hsorted.2.1.1 _ hmem)) (lt_irrefl n)
  · rintro ⟨name, v, hv, hfails, hsmaller⟩
    obtain ⟨before, rest, hsplit⟩ := List.append_of_mem (mem_of_get? hv)
    have hsorted := m.sorted
    rw [hsplit, List.pairwise_append] at hsorted
    refine ⟨before, (name, v), rest, hsplit, fun c hc => ?_, hfails⟩
    exact hsmaller c.1 c.2 (hsorted.2.2 c hc _ List.mem_cons_self)
      (get?_of_mem (by simp [hsplit, hc]))

theorem nodup_keys (m : NameMap α) : m.keys.Nodup :=
  List.pairwise_map.2 (m.sorted.imp fun h => h.ne)

/-- The map without one of its names. -/
def without (m : NameMap α) (name : String) : NameMap α :=
  ⟨m.toList.filter (·.1 != name), m.sorted.filter _⟩

theorem get?_without {n : String} :
    (m.without name).get? n = some v ↔ n ≠ name ∧ m.get? n = some v := by
  rw [get?_eq_some_iff, get?_eq_some_iff, without, List.mem_filter, bne_iff_ne, and_comm]

/-! ## Maps that are made of bindings -/

/-- A map that is made of bindings has no others. -/
theorem mem_of_mem_ofList {b : String × α} (h : b ∈ (ofList l).toList) : b ∈ l := by
  have hall : ∀ c ∈ (ofList l).toList, c ∈ l := by
    have hempty : ∀ c ∈ (empty : NameMap α).toList, c ∈ l := fun _ hc => absurd hc List.not_mem_nil
    refine List.foldlRecOn (motive := fun m : NameMap α => ∀ c ∈ m.toList, c ∈ l) l _ hempty ?_
    intro m hm d hd c hc
    rcases mem_insertSorted hc with rfl | hc
    · exact hd
    · exact hm c hc
  exact hall b h

theorem get?_foldl_insert_of_not_mem (h : name ∉ l.map (·.1)) :
    (l.foldl (fun m (n, v) => m.insert n v) m).get? name = m.get? name := by
  induction l generalizing m with
  | nil => rfl
  | cons b l ih =>
    rw [List.map_cons, List.mem_cons, not_or] at h
    rw [List.foldl_cons, ih h.2, get?_insert, if_neg h.1]

/-- Of several bindings of a name the last is found. -/
theorem get?_ofList (l : List (String × α)) (name : String) :
    (ofList l).get? name = l.reverse.lookup name := by
  induction l using List.reverseRecOn with
  | nil => rfl
  | append_singleton l b ih =>
    rw [ofList, List.foldl_append, List.foldl_cons, List.foldl_nil, get?_insert, ← ofList, ih,
      List.reverse_append, List.reverse_singleton, List.singleton_append, List.lookup_cons]
    by_cases h : name = b.1
    · rw [if_pos h, beq_iff_eq.2 h]
    · rw [if_neg h, beq_eq_false_iff_ne.2 h]

/-- Of bindings with different names each is found. -/
theorem get?_ofList_of_mem (hnames : (l.map (·.1)).Nodup) (h : (name, v) ∈ l) :
    (ofList l).get? name = some v := by
  obtain ⟨before, after, rfl⟩ := List.append_of_mem h
  rw [List.map_append, List.map_cons] at hnames
  have hafter := (List.nodup_cons.1 hnames.of_append_right).1
  rw [ofList, List.foldl_append, List.foldl_cons, get?_foldl_insert_of_not_mem hafter, get?_insert,
    if_pos rfl]

/-- Bindings with different names are the map that they are put into. -/
theorem mem_toList_ofList {b : String × α} (hnames : (l.map (·.1)).Nodup) :
    b ∈ (ofList l).toList ↔ b ∈ l :=
  ⟨mem_of_mem_ofList, fun h => mem_of_get? (get?_ofList_of_mem hnames h)⟩

theorem insertSorted_of_lt (h : ∀ b ∈ l, b.1 < name) :
    insertSorted name v l = l ++ [(name, v)] := by
  induction l with
  | nil => rfl
  | cons b l ih =>
    obtain ⟨n, w⟩ := b
    obtain ⟨hn, hl⟩ := List.forall_mem_cons.1 h
    rw [insertSorted, if_neg (String.lt_asymm hn), if_neg (ne_of_gt hn), ih hl]
    rfl

theorem toList_foldl_insert (h : (m.toList ++ l).Pairwise (·.1 < ·.1)) :
    (l.foldl (fun m (name, v) => m.insert name v) m).toList = m.toList ++ l := by
  induction l generalizing m with
  | nil => exact (List.append_nil _).symm
  | cons b l ih =>
    have hlast : (m.insert b.1 b.2).toList = m.toList ++ [b] := by
      refine insertSorted_of_lt fun b' hb' => ?_
      exact (List.pairwise_append.1 h).2.2 b' hb' b List.mem_cons_self
    rw [List.append_cons, ← hlast] at h
    rw [List.foldl_cons, ih h, hlast, List.append_assoc]
    rfl

/-- Bindings that are in order are the map that they are put into. -/
theorem toList_ofList (h : l.Pairwise (·.1 < ·.1)) : (ofList l).toList = l :=
  toList_foldl_insert h

end PagedQuery.NameMap
