import Mathlib
import PagedQuery.Proofs.Params.Parameter

/-!
# What is given for a name

The parameters that filter on a name give texts for it, each by an operator. Of these texts it is
said whether they go together, and which predicate they ask for; neither depends on the order of
the operators, or on what else is among the parameters.

* `Given`, `Given.of`: the texts that parameters give for a name;
* `Given.Consistent`, `Given.Asks`: whether they go together, and the predicate that they ask for;
* `Given.Drafts`: the entry that a draft should have for them;
* `Given.Drafts.add`, `Given.Drafts.exists_adds`: one more parameter makes of it the entry that it
  should, and can be read if its text goes together with those before it.
-/

namespace PagedQuery.QueryParams

variable {params : List (String × String)} {p : String × String} {key name other raw : String}
  {op : Operator} {field : Field} {entry before : Entry} {v : Value}

/-! ## Texts -/

/-- The texts of the parameters that filter with a key, in their order. -/
def texts (params : List (String × String)) (key : String) : List String :=
  (params.filter fun p => p.1 = key ∧ p.1 ∉ controls).map (·.2)

/-- The texts that are given for a name, by operators. -/
structure Given where
  plain : List String
  exactly : List String
  least : List String
  most : List String

namespace Given

/-- What parameters give for a name. -/
def of (params : List (String × String)) (name : String) : Given where
  plain := texts params (Operator.plain.keyOf name)
  exactly := texts params (Operator.exactly.keyOf name)
  least := texts params (Operator.least.keyOf name)
  most := texts params (Operator.most.keyOf name)

/-- One text and no range, or a range with each end of it at most once. -/
def Consistent (g : Given) : Prop :=
  (g.plain.length + g.exactly.length = 1 ∧ g.least = [] ∧ g.most = []) ∨
    (g.plain = [] ∧ g.exactly = [] ∧ g.least.length ≤ 1 ∧ g.most.length ≤ 1)

/-- The end of a range for which texts are given: the value of the text, or none. -/
inductive IsEnd (field : Field) : List String → Bound → Prop
  | missing : IsEnd field [] .unbounded
  | given {raw : String} {v : Value} : Denotes field raw v → IsEnd field [raw] (.inclusive v)

/-- The predicate on a field that the texts given for it ask for. Where there are none, there is
    no predicate. -/
inductive Asks (field : Field) : Given → Option Predicate → Prop
  | nothing : Asks field ⟨[], [], [], []⟩ none
  | search {raw : String} : field.kind? = some .text →
      Asks field ⟨[raw], [], [], []⟩ (some (.contains raw))
  | equals {raw : String} {v : Value} : field.kind? ≠ some .text → Denotes field raw v →
      Asks field ⟨[raw], [], [], []⟩ (some (.equals v))
  | exactly {raw : String} {v : Value} : Denotes field raw v →
      Asks field ⟨[], [raw], [], []⟩ (some (.equals v))
  | range {least most : List String} {lower upper : Bound} : least ≠ [] ∨ most ≠ [] →
      IsEnd field least lower → IsEnd field most upper →
      Asks field ⟨[], [], least, most⟩ (some (.range lower upper))

/-- What is given, and one more text. -/
def add (g : Given) (raw : String) : Operator → Given
  | .plain => { g with plain := g.plain ++ [raw] }
  | .exactly => { g with exactly := g.exactly ++ [raw] }
  | .least => { g with least := g.least ++ [raw] }
  | .most => { g with most := g.most ++ [raw] }
  | .unknown _ => g

end Given

theorem texts_concat (params : List (String × String)) (p : String × String) (k : String) :
    texts (params ++ [p]) k = texts params k ++ if p.1 = k ∧ p.1 ∉ controls then [p.2] else [] := by
  rw [texts, texts, List.filter_append, List.map_append]
  split
  · next h =>
    rw [List.filter_cons_of_pos (by simpa using h)]
    rfl
  · next h =>
    rw [List.filter_cons_of_neg (by simpa using h)]
    rfl

/-- A parameter that filters on a name by an operator adds its text to those for this name and this
    operator alone. -/
theorem texts_concat_keyOf {o : Operator} (hname : '.' ∉ name.toList) (hother : '.' ∉ other.toList)
    (hop : op.IsKnown) (h : op.keyOf name ∉ controls) (ho : o.IsKnown) :
    texts (params ++ [(op.keyOf name, raw)]) (o.keyOf other) =
      texts params (o.keyOf other) ++ if name = other ∧ op = o then [raw] else [] := by
  rw [texts_concat]
  simp only [keyOf_eq_keyOf_iff hname hother hop ho, h, not_false_eq_true, and_true]

/-- A parameter that filters on a name adds its text to what is given for this name. -/
theorem of_concat_self (hname : '.' ∉ name.toList) (hop : op.IsKnown)
    (h : op.keyOf name ∉ controls) :
    Given.of (params ++ [(op.keyOf name, raw)]) name = (Given.of params name).add raw op := by
  have htexts {o : Operator} (ho : o.IsKnown) :=
    @texts_concat_keyOf params name name raw op o hname hname hop h ho
  rw [Given.of, htexts .plain, htexts .exactly, htexts .least, htexts .most]
  cases op with
  | unknown word => exact absurd rfl (hop word)
  | plain | exactly | least | most => simp [Given.of, Given.add]

/-- What is given for a name does not depend on parameters that filter on another. -/
theorem of_concat_of_ne (hname : '.' ∉ name.toList) (hother : '.' ∉ other.toList)
    (hop : op.IsKnown) (h : op.keyOf name ∉ controls) (hne : other ≠ name) :
    Given.of (params ++ [(op.keyOf name, raw)]) other = Given.of params other := by
  have htexts {o : Operator} (ho : o.IsKnown) :=
    @texts_concat_keyOf params name other raw op o hname hother hop h ho
  rw [Given.of, htexts .plain, htexts .exactly, htexts .least, htexts .most]
  simp [Given.of, hne.symm]

theorem of_concat_of_mem_controls (h : key ∈ controls) :
    Given.of (params ++ [(key, raw)]) name = Given.of params name := by
  simp [Given.of, texts_concat, h]

/-- Where texts go together, so do those without the last. -/
theorem consistent_of_concat (h : (Given.of (params ++ [p]) name).Consistent) :
    (Given.of params name).Consistent := by
  have hlength (k : String) : (texts params k).length ≤ (texts (params ++ [p]) k).length := by
    rw [texts_concat, List.length_append]
    exact Nat.le_add_right _ _
  have hplain := hlength (Operator.plain.keyOf name)
  have hexactly := hlength (Operator.exactly.keyOf name)
  have hleast := hlength (Operator.least.keyOf name)
  have hmost := hlength (Operator.most.keyOf name)
  simp only [Given.Consistent, Given.of, ← List.length_eq_zero_iff] at h ⊢
  omega

/-! ## The entry that is asked for -/

/-- The predicate of an entry. The ends of a range become a predicate when all is read. -/
def Entry.predicate? : Entry → Option Predicate
  | (_, some (lower, upper)) => some (.range lower upper)
  | (clause, none) => clause

/-- Ranges, none of them on the name of another, are put in the place of whatever was there. -/
theorem get?_foldl_range {l : List (String × Bound × Bound)} (hl : l.Pairwise (·.1 < ·.1))
    (m : Criteria) (name : String) :
    (l.foldl (fun criteria (name, lower, upper) =>
      criteria.insert name (.range lower upper)) m).get? name =
        Entry.predicate? (m.get? name, l.lookup name) := by
  induction l generalizing m with
  | nil => rfl
  | cons b l ih =>
    rw [List.pairwise_cons] at hl
    rw [List.foldl_cons, ih hl.2, NameMap.get?_insert, List.lookup_cons]
    by_cases hname : name = b.1
    · have hnone : l.lookup name = none := by
        rw [List.lookup_eq_none_iff]
        intro c hc
        rw [bne_iff_ne, hname]
        exact (hl.1 c hc).ne
      rw [if_pos hname, hnone, beq_iff_eq.2 hname]
      rfl
    · rw [if_neg hname, beq_eq_false_iff_ne.2 hname]

/-- The criteria are the predicates of the entries. -/
theorem get?_criteria (state : Draft) (name : String) :
    state.criteria.get? name = Entry.predicate? (state.entry name) :=
  get?_foldl_range state.ranges.sorted state.clauses name

namespace Given

variable {g : Given} {bound : Bound} {given : List String} {clause : Option Predicate}

theorem IsEnd.eq_nil (h : IsEnd field given .unbounded) : given = [] := by
  cases h
  rfl

theorem IsEnd.length_le (h : IsEnd field given bound) : given.length ≤ 1 := by
  cases h with
  | missing => exact Nat.zero_le 1
  | given hv => exact le_rfl

theorem Asks.consistent (h : g.Asks field clause) : g.Consistent := by
  cases h with
  | nothing => exact .inr ⟨rfl, rfl, Nat.zero_le 1, Nat.zero_le 1⟩
  | search | equals | exactly => exact .inl ⟨rfl, rfl, rfl⟩
  | range hsome hleast hmost => exact .inr ⟨rfl, rfl, hleast.length_le, hmost.length_le⟩

/-- The entry that a draft has for a field, by the texts that are given for it: a range is kept
    apart, and anything else is a predicate that nothing can be added to. -/
inductive Drafts (field : Field) : Given → Entry → Prop
  | clause {g : Given} {clause : Option Predicate} : Asks field g clause →
      (∀ lower upper, clause ≠ some (.range lower upper)) → Drafts field g (clause, none)
  | range {g : Given} {lower upper : Bound} : Asks field g (some (.range lower upper)) →
      Drafts field g (none, some (lower, upper))

theorem Drafts.asks (h : g.Drafts field entry) : g.Asks field entry.predicate? := by
  cases h with
  | clause hasks hrange => exact hasks
  | range hasks => exact hasks

theorem Drafts.nothing : Drafts field ⟨[], [], [], []⟩ (none, none) :=
  .clause .nothing (by rintro _ _ ⟨⟩)

/-- Where a draft has nothing, nothing is given. -/
theorem Drafts.eq_nothing (h : g.Drafts field (none, none)) : g = ⟨[], [], [], []⟩ := by
  cases h.asks
  rfl

/-- A parameter makes of the entry for the texts given before it the entry for those and its own. -/
theorem Drafts.add (h : g.Drafts field before) (hadds : Adds field raw op before entry) :
    (g.add raw op).Drafts field entry := by
  cases hadds with
  | search htext =>
    rw [h.eq_nothing]
    exact .clause (.search htext) (by rintro _ _ ⟨⟩)
  | equals htext hv =>
    rw [h.eq_nothing]
    exact .clause (.equals htext hv) (by rintro _ _ ⟨⟩)
  | exactly hv =>
    rw [h.eq_nothing]
    exact .clause (.exactly hv) (by rintro _ _ ⟨⟩)
  | least hends hv =>
    -- There is no range yet, or one that is open at this end, for which no text is given.
    cases h with
    | clause hasks =>
      obtain ⟨-, rfl⟩ := Prod.mk.inj hends
      cases hasks
      exact .range (.range (.inl (List.cons_ne_nil _ _)) (.given hv) .missing)
    | range hasks =>
      obtain ⟨rfl, rfl⟩ := Prod.mk.inj hends
      cases hasks with
      | range _ hleast hmost =>
        rw [hleast.eq_nil]
        exact .range (.range (.inl (List.cons_ne_nil _ _)) (.given hv) hmost)
  | most hends hv =>
    cases h with
    | clause hasks =>
      obtain ⟨rfl, -⟩ := Prod.mk.inj hends
      cases hasks
      exact .range (.range (.inr (List.cons_ne_nil _ _)) .missing (.given hv))
    | range hasks =>
      obtain ⟨rfl, rfl⟩ := Prod.mk.inj hends
      cases hasks with
      | range _ hleast hmost =>
        rw [hmost.eq_nil]
        exact .range (.range (.inr (List.cons_ne_nil _ _)) hleast (.given hv))

/-- A text that goes together with those given before it can be added to their entry. -/
theorem Drafts.exists_adds (h : g.Drafts field before) (hop : op.IsKnown)
    (hv : Denotes field raw v) (hconsistent : (g.add raw op).Consistent) :
    ∃ entry, Adds field raw op before entry := by
  cases h with
  | clause hasks hrange =>
    cases hasks with
    | nothing =>
      cases op with
      | plain =>
        by_cases htext : field.kind? = some .text
        · exact ⟨_, .search htext⟩
        · exact ⟨_, .equals htext hv⟩
      | exactly => exact ⟨_, .exactly hv⟩
      | least => exact ⟨_, .least rfl hv⟩
      | most => exact ⟨_, .most rfl hv⟩
      | unknown word => exact absurd rfl (hop word)
    | search | equals | exactly =>
      -- Nothing goes together with a finished predicate.
      cases op with
      | plain | exactly | least | most => simp [Consistent, Given.add] at hconsistent
      | unknown word => exact absurd rfl (hop word)
    | range => exact absurd rfl (hrange _ _)
  | range hasks =>
    cases hasks with
    | range hsome hleast hmost =>
      cases op with
      | plain | exactly =>
        simp only [Consistent, Given.add, List.append_eq_nil_iff, List.cons_ne_nil, and_false,
          false_and, or_false] at hconsistent
        exact (hsome.elim (· hconsistent.2.1) (· hconsistent.2.2)).elim
      | least =>
        cases hleast with
        | missing => exact ⟨_, .least rfl hv⟩
        | given => simp [Consistent, Given.add] at hconsistent
      | most =>
        cases hmost with
        | missing => exact ⟨_, .most rfl hv⟩
        | given => simp [Consistent, Given.add] at hconsistent
      | unknown word => exact absurd rfl (hop word)

end Given

end PagedQuery.QueryParams
