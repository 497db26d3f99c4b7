import Mathlib
import PagedQuery.Proofs.Outcome
import PagedQuery.Proofs.Sorting

/-!
# What queries are blind to

Records can differ in ways that no query sees. A schema is blind to a relation between records if
related records have the same identifier, pass the same clauses of those that compile, and have keys
that compare equal. Filters, sorts and pages then keep lists of records related, place by place,
and so two sources whose records are related answer every query alike.

* `Schema.BlindTo`: relations that no query sees through;
* `forall₂_sortRecords`: a sort keeps lists related;
* `Schema.BlindTo.result`, `Schema.BlindTo.query_ids`, `Schema.BlindTo.count`: what queries of
  related sources come to.
-/

namespace PagedQuery

variable {schema : Schema} {R : Record → Record → Prop} {r s : Record}
  {records others : List Record}

/-- No query of the schema tells related records apart. -/
structure Schema.BlindTo (schema : Schema) (R : Record → Record → Prop) : Prop where
  id : ∀ {r s}, R r s → r.id = s.id
  clause : ∀ {name predicate clause}, Predicate.compile schema name predicate = .ok clause →
    ∀ {r s}, R r s → clause.accepts r = clause.accepts s
  key : ∀ {name field}, schema.resolve name = .ok field →
    ∀ {r s}, R r s → compare (r.field? field) (s.field? field) = .eq

/-! ## Values that compare equal -/

theorem Bound.admitsAbove_congr {v w : Value} (h : compare v w = .eq) (bound : Bound) :
    bound.admitsAbove v = bound.admitsAbove w := by
  cases bound with
  | unbounded => rfl
  | inclusive b | exclusive b => simp only [admitsAbove, Std.TransCmp.congr_left h]

theorem Bound.admitsBelow_congr {v w : Value} (h : compare v w = .eq) (bound : Bound) :
    bound.admitsBelow v = bound.admitsBelow w := by
  cases bound with
  | unbounded => rfl
  | inclusive b | exclusive b => simp only [admitsBelow, Std.TransCmp.congr_left h]

/-- What does not look for a text only compares. -/
theorem Matcher.accepts_congr_of_compare {v w : Value} (h : compare v w = .eq) {matcher : Matcher}
    (hmatcher : ∀ needle, matcher ≠ .contains needle) : matcher.accepts v = matcher.accepts w := by
  cases matcher with
  | contains needle => exact absurd rfl (hmatcher needle)
  | equals expected => simp only [accepts, Std.TransCmp.congr_left h]
  | range lower upper => rw [accepts, accepts, lower.admitsAbove_congr h, upper.admitsBelow_congr h]

/-! ## Lists of related records -/

/-- Records whose keys compare equal, and whose identifiers are equal, are compared alike. -/
theorem compareRecords_congr {field : Field} {direction : Direction} {r r' s s' : Record}
    (hr : compare (r.field? field) (r'.field? field) = .eq)
    (hs : compare (s.field? field) (s'.field? field) = .eq) (hrid : r.id = r'.id)
    (hsid : s.id = s'.id) :
    compareRecords field direction r s = compareRecords field direction r' s' := by
  rw [compareRecords, compareRecords, Std.TransCmp.congr_left hr, Std.TransCmp.congr_right hs, hrid,
    hsid]

theorem map_id_eq (h : List.Forall₂ R records others) (hid : ∀ {r s}, R r s → r.id = s.id) :
    records.map (·.id) = others.map (·.id) := by
  rw [← List.forall₂_eq_eq_eq, List.forall₂_map_left_iff, List.forall₂_map_right_iff]
  exact h.imp fun _ _ hrs => hid hrs

/-- Related lists are the two sides of a list of pairs. -/
theorem exists_pairs (h : List.Forall₂ R records others) :
    ∃ pairs : List (Record × Record), pairs.map Prod.fst = records ∧ pairs.map Prod.snd = others ∧
      ∀ p ∈ pairs, R p.1 p.2 := by
  induction h with
  | nil => exact ⟨[], rfl, rfl, nofun⟩
  | @cons r s _ _ hrs _ ih =>
    obtain ⟨pairs, rfl, rfl, hpairs⟩ := ih
    exact ⟨(r, s) :: pairs, rfl, rfl, List.forall_mem_cons.2 ⟨hrs, hpairs⟩⟩

/-- A sort of either side is a sort of the pairs. -/
theorem forall₂_sortRecords {field : Field} (h : List.Forall₂ R records others)
    (hid : ∀ {r s}, R r s → r.id = s.id)
    (hkey : ∀ {r s}, R r s → compare (r.field? field) (s.field? field) = .eq)
    (direction : Direction) :
    List.Forall₂ R (sortRecords field direction records) (sortRecords field direction others) := by
  obtain ⟨pairs, rfl, rfl, hpairs⟩ := exists_pairs h
  have hsnd : ∀ p ∈ pairs, ∀ q ∈ pairs, (compareRecords field direction p.1 q.1).isLE =
      (compareRecords field direction p.2 q.2).isLE := by
    intro p hp q hq
    have hp := hpairs p hp
    have hq := hpairs q hq
    rw [compareRecords_congr (hkey hp) (hkey hq) (hid hp) (hid hq)]
  -- The pairs are sorted by their left sides; by their right sides they are sorted alike.
  rw [sortRecords, sortRecords, ← List.map_mergeSort (f := Prod.fst) (fun _ _ _ _ => rfl),
    ← List.map_mergeSort hsnd, List.forall₂_map_left_iff, List.forall₂_map_right_iff,
    List.forall₂_same]
  exact fun p hp => hpairs p (List.mem_mergeSort.1 hp)

/-! ## Queries -/

namespace Schema.BlindTo

variable {filter : Option Criteria} {compiled : CompiledFilter} {sort : Option SortSpec}
  {order : Option (Field × Direction)} {source other : RecordSource}

/-- Related records pass the same filters. -/
theorem accepts (h : schema.BlindTo R) (hfilter : compileFilter schema filter = .ok compiled)
    (hrs : R r s) : compiled.accepts r = compiled.accepts s := by
  cases filter with
  | none =>
    cases hfilter
    rfl
  | some criteria =>
    rw [CompiledFilter.accepts, CompiledFilter.accepts, Bool.eq_iff_iff, List.all_eq_true,
      List.all_eq_true]
    refine forall₂_congr fun clause hclause => ?_
    obtain ⟨_, -, hcompile⟩ := exists_of_mem_right (mapM_eq_ok_iff.1 hfilter) hclause
    rw [h.clause hcompile hrs]

theorem forall₂_filter (h : schema.BlindTo R) (hfilter : compileFilter schema filter = .ok compiled)
    (hrecords : List.Forall₂ R records others) :
    List.Forall₂ R (records.filter compiled.accepts) (others.filter compiled.accepts) := by
  refine List.rel_filter ?_ hrecords
  intro r s hrs
  exact iff_of_eq (congrArg (· = true) (h.accepts hfilter hrs))

theorem forall₂_arrange (h : schema.BlindTo R) (hsort : resolveSort schema sort = .ok order)
    (hrecords : List.Forall₂ R records others) :
    List.Forall₂ R (arrange order records) (arrange order others) := by
  cases sort with
  | none =>
    cases hsort
    exact hrecords
  | some sort =>
    obtain ⟨⟨field, direction⟩, hresolve, rfl⟩ := map_eq_ok.1 hsort
    obtain ⟨_, hfield, heq⟩ := bind_eq_ok.1 hresolve
    cases heq
    exact forall₂_sortRecords hrecords h.id (h.key hfield) sort.direction

/-- Sources with related records have related results, or fail alike. -/
theorem result (h : source.schema.BlindTo R) (hschema : source.schema = other.schema)
    (hscan : SameOutcome (List.Forall₂ R) source.scan other.scan) (filter : Option Criteria)
    (sort : Option SortSpec) :
    SameOutcome (List.Forall₂ R) (source.result filter sort) (other.result filter sort) := by
  -- Filter and sort are compiled against the schema, which is the same, before any record is read.
  rw [RecordSource.result, RecordSource.result, ← hschema]
  refine .bind_self fun compiled hcompiled => .bind_self fun order horder => ?_
  exact hscan.bind fun _ _ hrecords =>
    .ok (h.forall₂_arrange horder (h.forall₂_filter hcompiled hrecords))

/-- Sources with related records answer with pages of the same identifiers. -/
theorem query_ids (h : source.schema.BlindTo R) (hschema : source.schema = other.schema)
    (hscan : SameOutcome (List.Forall₂ R) source.scan other.scan) (filter : Option Criteria)
    (sort : Option SortSpec) (request : PageRequest) :
    (source.query filter sort request).map (Page.map Record.id) =
      (other.query filter sort request).map (Page.map Record.id) := by
  have hpages : SameOutcome (fun page page' => page.map Record.id = page'.map Record.id)
      (source.query filter sort request) (other.query filter sort request) := by
    refine .bind_self fun _ _ => (h.result hschema hscan filter sort).bind fun all others hall => ?_
    refine .ok ?_
    have hitems := List.forall₂_take request.size.toNat
      (List.forall₂_drop request.offset.toNat hall)
    rw [Page.slice, Page.slice, Page.map, Page.map, Page.of, Page.of, map_id_eq hitems h.id,
      hall.length_eq]
  exact hpages.map_eq fun _ _ heq => heq

/-- Sources with related records count alike. -/
theorem count (h : source.schema.BlindTo R) (hschema : source.schema = other.schema)
    (hscan : SameOutcome (List.Forall₂ R) source.scan other.scan) (filter : Option Criteria) :
    source.count filter = other.count filter := by
  refine SameOutcome.eq ?_
  rw [RecordSource.count, RecordSource.count, ← hschema]
  refine .bind_self fun compiled hcompiled => ?_
  exact hscan.bind fun _ _ hrecords => .ok (h.forall₂_filter hcompiled hrecords).length_eq

end Schema.BlindTo

end PagedQuery
