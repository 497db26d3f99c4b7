import Mathlib
import PagedQuery.Proofs.Sorting

/-!
# Which record comes first

A sort looks at three things, one after the other: the keys, in its direction; the identifiers,
which ascend in either direction; and the places that the records had before, so that none of them
overtakes another one like it. To speak of the places a list is numbered: `List.zipIdx` pairs each
record with its own.

* `KeyLE`, `SameKey`: keys compared, where a key may be missing;
* `Precedes`: what makes a record come before another one;
* `precedes_of_zipIdxLE`: a sort puts no other record first;
* `sortRecords_descending_eq_reverse`: where no two keys are the same, the directions reverse each
  other;
* `sortRecords_precedes`: the main result.
-/

namespace PagedQuery

variable {field : Field} {direction : Direction} {records : List Record} {a b : Record}

/-! ## Keys -/

/-- A key is not greater than another one. A missing key is not greater than any. -/
inductive KeyLE : Option Value → Option Value → Prop
  | missing (key : Option Value) : KeyLE none key
  | value {v w : Value} (h : compare v w ≠ .gt) : KeyLE (some v) (some w)

theorem keyLE_iff {x y : Option Value} : KeyLE x y ↔ (compare x y).isLE := by
  constructor
  · rintro (_ | h)
    · cases y <;> rfl
    · exact Ordering.ne_gt_iff_isLE.1 h
  · intro h
    rcases x with _ | v
    · exact .missing y
    · rcases y with _ | w
      · cases h
      · exact .value (Ordering.ne_gt_iff_isLE.2 h)

instance (x y : Option Value) : Decidable (KeyLE x y) :=
  decidable_of_iff _ keyLE_iff.symm

/-- Neither of two records has a greater key. -/
def SameKey (field : Field) (a b : Record) : Prop :=
  KeyLE (a.field? field) (b.field? field) ∧ KeyLE (b.field? field) (a.field? field)

instance (field : Field) (a b : Record) : Decidable (SameKey field a b) :=
  inferInstanceAs (Decidable (_ ∧ _))

theorem SameKey.symm (h : SameKey field a b) : SameKey field b a :=
  ⟨h.2, h.1⟩

instance (field : Field) : Std.Symm fun a b => ¬SameKey field a b :=
  ⟨fun _ _ h hba => h hba.symm⟩

theorem compareKeys_descending (field : Field) (a b : Record) :
    compareKeys field .descending a b = compareKeys field .ascending b a :=
  Std.OrientedOrd.eq_swap.symm

theorem sameKey_iff_ascending : SameKey field a b ↔ compareKeys field .ascending a b = .eq := by
  rw [SameKey, keyLE_iff, keyLE_iff]
  constructor
  · exact fun h => Std.OrientedCmp.isLE_antisymm h.1 h.2
  · intro h
    exact ⟨Ordering.isLE_of_eq_eq h, Ordering.isLE_of_eq_eq (Std.OrientedCmp.eq_symm h)⟩

/-- Keys are the same in either direction. -/
theorem sameKey_iff : SameKey field a b ↔ compareKeys field direction a b = .eq := by
  rcases direction with _ | _
  · exact sameKey_iff_ascending
  · rw [compareKeys_descending, ← sameKey_iff_ascending]
    exact and_comm

/-- An identifier is the same key as no other one. -/
theorem sameKey_identifier : SameKey .identifier a b ↔ a.id = b.id := by
  rw [sameKey_iff_ascending]
  exact RecordId.compare_toValue_eq_iff

/-! ## The sort -/

/-- What it means for a record that it comes before another one, each with the place that it had
    before the sort. -/
structure Precedes (field : Field) (direction : Direction) (p q : Record × ℕ) : Prop where
  ascending : direction = .ascending → KeyLE (p.1.field? field) (q.1.field? field)
  descending : direction = .descending → KeyLE (q.1.field? field) (p.1.field? field)
  id : SameKey field p.1 q.1 → compare p.1.id q.1.id ≠ .gt
  place : SameKey field p.1 q.1 → p.1.id = q.1.id → p.2 < q.2

theorem compareRecords_of_sameKey (h : SameKey field a b) :
    compareRecords field direction a b = compare a.id b.id := by
  have hkeys : direction.apply (compare (a.field? field) (b.field? field)) = .eq := sameKey_iff.1 h
  rw [compareRecords, hkeys, Ordering.eq_then]

/-- Records are in order only if their keys are. -/
theorem compareKeys_isLE_of_compareRecords (h : (compareRecords field direction a b).isLE) :
    (compareKeys field direction a b).isLE := by
  rcases Ordering.isLE_then_iff_or.1 h with hlt | ⟨heq, -⟩
  · exact Ordering.isLE_of_eq_lt hlt
  · exact Ordering.isLE_of_eq_eq heq

/-- The comparison that a sort goes by. -/
abbrev inOrder (field : Field) (direction : Direction) (a b : Record) : Bool :=
  (compareRecords field direction a b).isLE

/-- Of two numbered records that are in the order of a sort, the first comes before the other. -/
theorem precedes_of_zipIdxLE {p q : Record × ℕ} (hplace : p.2 ≠ q.2)
    (h : List.zipIdxLE (inOrder field direction) p q = true) : Precedes field direction p q := by
  have hle : (compareRecords field direction p.1 q.1).isLE := by
    by_contra hle
    simp [List.zipIdxLE, hle] at h
  have hkeys := compareKeys_isLE_of_compareRecords hle
  refine ⟨?_, ?_, fun hsame => ?_, fun hsame hid => ?_⟩
  · rintro rfl
    exact keyLE_iff.2 hkeys
  · rintro rfl
    rw [compareKeys_descending] at hkeys
    exact keyLE_iff.2 hkeys
  · rw [compareRecords_of_sameKey hsame] at hle
    exact Ordering.ne_gt_iff_isLE.2 hle
  · -- They compare equal, so that only the places are left.
    have htie : (compareRecords field direction q.1 p.1).isLE := by
      rw [compareRecords_of_sameKey hsame.symm, hid]
      exact Std.ReflOrd.isLE_rfl
    rw [List.zipIdxLE, if_pos hle, if_pos htie, decide_eq_true_eq] at h
    exact lt_of_le_of_ne h hplace

/-- The numbered records can be put one before the other, and then they are in the order of the
    sort. -/
theorem exists_placed (field : Field) (direction : Direction) (records : List Record) :
    ∃ placed : List (Record × ℕ), placed.Perm records.zipIdx ∧
      placed.map Prod.fst = sortRecords field direction records ∧
      placed.Pairwise (Precedes field direction) := by
  have hperm := List.mergeSort_perm records.zipIdx (List.zipIdxLE (inOrder field direction))
  refine ⟨_, hperm, List.mergeSort_zipIdx, ?_⟩
  have hsorted := List.pairwise_mergeSort
    (List.zipIdxLE_trans (@compareRecords_isLE_trans field direction))
    (List.zipIdxLE_total compareRecords_isLE_total) records.zipIdx
  -- No two records have the same place.
  have hplaces := List.pairwise_map.1
    ((hperm.map Prod.snd).nodup_iff.2 (List.nodup_zipIdx_map_snd records))
  exact (hsorted.and hplaces).imp fun h => precedes_of_zipIdxLE h.2 h.1

/-! ## The other direction -/

/-- Records with different keys are in order if they are in the opposite order when the direction is
    the other one. -/
theorem compareRecords_descending_isLE (hkeys : ¬SameKey field a b)
    (h : (compareRecords field .ascending a b).isLE) :
    (compareRecords field .descending b a).isLE := by
  rcases Ordering.isLE_then_iff_or.1 h with hlt | ⟨heq, -⟩
  · refine Ordering.isLE_then_iff_or.2 (.inl ?_)
    exact (compareKeys_descending field b a).trans hlt
  · exact absurd (sameKey_iff_ascending.2 heq) hkeys

/-- Where no two records have the same key, the directions reverse each other. -/
theorem sortRecords_descending_eq_reverse
    (hkeys : records.Pairwise fun a b => ¬SameKey field a b) :
    sortRecords field .descending records = (sortRecords field .ascending records).reverse := by
  have hascending := sortRecords_perm field .ascending records
  have hdescending := sortRecords_perm field .descending records
  have hreversed : (sortRecords field .ascending records).reverse.Pairwise
      fun a b => (compareRecords field .descending a b).isLE := by
    rw [List.pairwise_reverse]
    have hsorted := sortRecords_pairwise field .ascending records
    exact (hsorted.and ((hascending.pairwise_iff (Std.Symm.symm _ _)).2 hkeys)).imp fun h =>
      compareRecords_descending_isLE h.2 h.1
  refine eq_of_perm_of_ordered (sortRecords_pairwise field .descending records) hreversed
    (hdescending.trans (hascending.symm.trans (List.reverse_perm _).symm)) ?_
  -- Records of the list that compare equal have the same key, and so are one.
  intro a ha b hb heq
  by_contra hne
  have hdiffer := hkeys.forall (hdescending.mem_iff.1 ha) (hdescending.mem_iff.1 hb) hne
  exact hdiffer (sameKey_iff.2 (Ordering.then_eq_eq.1 heq).1)

/-- Records with different identifiers have different keys when they are sorted by these. -/
theorem pairwise_not_sameKey_identifier (hids : (records.map (·.id)).Nodup) :
    records.Pairwise fun a b => ¬SameKey .identifier a b := by
  refine (List.pairwise_map.1 hids).imp fun hne hsame => ?_
  exact hne (sameKey_identifier.1 hsame)

/-- A sort has the records of the list, each as often as before. Of two of them the first has no
    greater key if the sort ascends, and no smaller key if it descends, a missing key being smaller
    than all others; if neither key is greater it has no greater identifier, in either direction;
    and if the identifiers are equal, too, it was the first before. Where no two keys are the same,
    as identifiers never are that differ, the directions reverse each other. -/
theorem sortRecords_precedes (field : Field) (direction : Direction) (records : List Record) :
    (∃ placed : List (Record × ℕ), placed.Perm records.zipIdx ∧
      placed.map Prod.fst = sortRecords field direction records ∧
      placed.Pairwise (Precedes field direction)) ∧
    ((records.Pairwise fun a b => ¬SameKey field a b) →
      sortRecords field .descending records = (sortRecords field .ascending records).reverse) ∧
    ((records.map (·.id)).Nodup → sortRecords .identifier .descending records =
      (sortRecords .identifier .ascending records).reverse) :=
  ⟨exists_placed field direction records, sortRecords_descending_eq_reverse,
    fun hids => sortRecords_descending_eq_reverse (pairwise_not_sameKey_identifier hids)⟩

/-- The field of a rating. -/
def rating : Field :=
  .declared ⟨"Rating", .decimal⟩

/-- Three ratings with different keys, one of which is missing, under two identifiers. -/
def threeRatings : List Record :=
  [.ofList (.integer 2) [("Rating", .decimal ⟨450, 2⟩)], .ofList (.text "2") [("Rating", .null)],
    .ofList (.integer 2) [("Rating", .integer 4)]]

/-- The directions reverse each other on the ratings, and neither loses or adds any. -/
theorem threeRatings_reverse :
    (threeRatings.Pairwise fun a b => ¬SameKey rating a b) ∧
      sortRecords rating .descending threeRatings =
        (sortRecords rating .ascending threeRatings).reverse ∧
      ∃ placed : List (Record × ℕ), placed.Perm threeRatings.zipIdx ∧
        placed.map Prod.fst = sortRecords rating .ascending threeRatings := by
  have hkeys : threeRatings.Pairwise fun a b => ¬SameKey rating a b := by decide
  obtain ⟨⟨placed, hperm, hsorted, -⟩, hreverse, -⟩ :=
    sortRecords_precedes rating .ascending threeRatings
  exact ⟨hkeys, hreverse hkeys, placed, hperm, hsorted⟩

end PagedQuery
