import Mathlib
import PagedQuery.Params
import PagedQuery.Proofs.Outcome
import PagedQuery.Proofs.Text.AsciiCase

/-!
# One parameter

A parameter that filters is taken for a name, an operator and the text of a value, and adds to what
the draft of the query holds for this name, its *entry*: a finished predicate, or the two ends of a
range, or nothing yet.

* `Operator.keyOf`, `splitKey_keyOf`, `keyOf_of_splitKey`: the key of a name and an operator, and
  how it is taken apart;
* `Denotes`: the value that a text stands for in a field;
* `Draft.entry`, `Adds`: the entry of a name, and what a parameter makes of it;
* `readFilter_eq_ok_iff`: all that reading a parameter that filters can do;
* `number?`, `direction?`: the numbers and directions that texts stand for;
* `Reads`, `reads_of_read`, `read_of_reads`: all that reading any parameter can do;
* `Readable`: a parameter that makes sense by itself.
-/

namespace PagedQuery

open Text

variable {α : Type}

/-- What is left to do where a failure is only thrown under a condition. -/
theorem unless_throw_eq_ok {c : Prop} [Decidable c] {e : Error} {y : PUnit → Except Error α}
    {x : Except Error α} {a : α} :
    (if c then throw e >>= y else x) = .ok a ↔ ¬c ∧ x = .ok a := by
  split
  · next h => exact ⟨nofun, fun hne => absurd h hne.1⟩
  · next h => exact ⟨fun hx => ⟨h, hx⟩, And.right⟩

namespace QueryParams

variable {schema : Schema} {state later : Draft} {key name other raw word : String}
  {op : Operator} {field : Field}

/-! ## Keys -/

/-- The keys of the parameters that do not filter. -/
def controls : List String :=
  ["pageNumber", "pageSize", "sortBy", "sortDirection"]

/-- The key of a parameter that filters on a name. -/
def Operator.keyOf (name : String) : Operator → String
  | plain => name
  | exactly => name ++ "." ++ "exact"
  | least => name ++ "." ++ "min"
  | most => name ++ "." ++ "max"
  | unknown word => name ++ "." ++ word

/-- An operator that means something. -/
def Operator.IsKnown (op : Operator) : Prop :=
  ∀ word, op ≠ .unknown word

theorem Operator.IsKnown.plain : Operator.plain.IsKnown := nofun

theorem Operator.IsKnown.exactly : Operator.exactly.IsKnown := nofun

theorem Operator.IsKnown.least : Operator.least.IsKnown := nofun

theorem Operator.IsKnown.most : Operator.most.IsKnown := nofun

theorem splitKey_of_not_mem (h : '.' ∉ key.toList) : splitKey key = (key, .plain) := by
  have hnil : key.toList.reverse.dropWhile (· != '.') = [] := by
    rw [List.dropWhile_eq_nil_iff]
    intro c hc
    rw [bne_iff_ne]
    rintro rfl
    exact h (List.mem_reverse.1 hc)
  rw [splitKey, hnil]

theorem splitKey_point (name : String) (h : '.' ∉ word.toList) :
    splitKey (name ++ "." ++ word) =
      (name, if word = "exact" then .exactly else if word = "min" then .least
        else if word = "max" then .most else .unknown word) := by
  have hreversed : (name ++ "." ++ word).toList.reverse =
      word.toList.reverse ++ '.' :: name.toList.reverse := by
    simp [String.toList_append]
  have hword : ∀ c ∈ word.toList.reverse, (c != '.') = true := by
    intro c hc
    rw [bne_iff_ne]
    rintro rfl
    exact h (List.mem_reverse.1 hc)
  have htake : (word.toList.reverse ++ '.' :: name.toList.reverse).takeWhile (· != '.') =
      word.toList.reverse := by
    rw [List.takeWhile_append_of_pos hword]
    exact List.append_nil _
  have hdrop : (word.toList.reverse ++ '.' :: name.toList.reverse).dropWhile (· != '.') =
      '.' :: name.toList.reverse := by
    rw [List.dropWhile_append_of_pos hword]
    rfl
  rw [splitKey, hreversed, htake, hdrop]
  simp only [List.reverse_reverse, String.ofList_toList]

/-- A name without a point is found again in each of its keys, along with the operator. -/
theorem splitKey_keyOf (hname : '.' ∉ name.toList) (hop : op.IsKnown) :
    splitKey (op.keyOf name) = (name, op) := by
  cases op with
  | plain => exact splitKey_of_not_mem hname
  | exactly | least | most => exact splitKey_point name (by decide)
  | unknown word => exact absurd rfl (hop word)

/-- Different names, and different operators on a name, have different keys. -/
theorem keyOf_eq_keyOf_iff {o : Operator} (hname : '.' ∉ name.toList) (hother : '.' ∉ other.toList)
    (hop : op.IsKnown) (ho : o.IsKnown) :
    op.keyOf name = o.keyOf other ↔ name = other ∧ op = o := by
  constructor
  · intro heq
    have hsplit := splitKey_keyOf hname hop
    rw [heq, splitKey_keyOf hother ho] at hsplit
    obtain ⟨rfl, rfl⟩ := Prod.mk.inj hsplit
    exact ⟨rfl, rfl⟩
  · rintro ⟨rfl, rfl⟩
    rfl

/-- A key is made of the parts that it is taken apart into. -/
theorem keyOf_of_splitKey (h : splitKey key = (name, op)) : op.keyOf name = key := by
  by_cases hpoint : '.' ∈ key.toList
  · -- The last point of the key is the first one of its reverse.
    obtain ⟨word, rest, hreversed, hword⟩ := List.eq_append_cons_of_mem (List.mem_reverse.2 hpoint)
    have hkey : key = String.ofList rest.reverse ++ "." ++ String.ofList word.reverse := by
      rw [← String.toList_inj, ← List.reverse_reverse key.toList, hreversed]
      simp
    rw [hkey, splitKey_point _ (by simpa using hword)] at h
    obtain ⟨rfl, rfl⟩ := Prod.mk.inj h
    rw [hkey]
    split
    · next hexact => rw [hexact, Operator.keyOf]
    · split
      · next hmin => rw [hmin, Operator.keyOf]
      · split
        · next hmax => rw [hmax, Operator.keyOf]
        · rfl
  · rw [splitKey_of_not_mem hpoint] at h
    obtain ⟨rfl, rfl⟩ := Prod.mk.inj h
    rfl

/-- A key with an operator is none of those that do not filter, as these have no point. -/
theorem eq_plain_of_keyOf_mem_controls (hop : op.IsKnown) (h : op.keyOf name ∈ controls) :
    op = .plain := by
  have hnone : ∀ key ∈ controls, '.' ∉ key.toList := by decide
  have hpoint := hnone _ h
  cases op with
  | plain => rfl
  | exactly | least | most => exact absurd (by simp [Operator.keyOf]) hpoint
  | unknown word => exact absurd rfl (hop word)

theorem read_of_not_mem_controls (h : key ∉ controls) :
    read schema state (key, raw) = readFilter schema state key raw := by
  simp only [controls, List.mem_cons, List.not_mem_nil, or_false, not_or] at h
  rw [read]
  · exact h.1
  · exact h.2.1
  · exact h.2.2.1
  · exact h.2.2.2

/-! ## Values -/

/-- The value that a text stands for in a field. Every text stands for an identifier and for a text;
    for a value of another kind only some do. -/
inductive Denotes : Field → String → Value → Prop
  | identifier (raw : String) : Denotes .identifier raw (RecordId.parse raw).toValue
  | text {a : Attribute} (raw : String) : a.kind = .text → Denotes (.declared a) raw (.text raw)
  | value {a : Attribute} {raw : String} {v : Value} : a.kind ≠ .text →
      Value.parse? a.kind raw = some v → Denotes (.declared a) raw v

theorem parseValue_eq_ok_iff {v : Value} : parseValue field raw = .ok v ↔ Denotes field raw v := by
  cases field with
  | identifier =>
    constructor
    · rintro ⟨⟩
      exact .identifier raw
    · rintro ⟨⟩
      rfl
  | declared a =>
    show Value.parse a.kind raw = .ok v ↔ _
    rw [Value.parse]
    constructor
    · intro h
      split at h
      · next w hw =>
        cases h
        by_cases ha : a.kind = .text
        · rw [ha] at hw
          cases hw
          exact .text raw ha
        · exact .value ha hw
      · cases h
    · rintro (_ | ⟨_, ha⟩ | ⟨-, hv⟩)
      · rw [ha]
        rfl
      · rw [hv]

theorem plainPredicate_of_text (h : field.kind? = some .text) (raw : String) :
    plainPredicate field raw = .ok (.contains raw) := by
  rw [plainPredicate, h]

theorem plainPredicate_of_ne_text (h : field.kind? ≠ some .text) (raw : String) :
    plainPredicate field raw = (parseValue field raw).map .equals := by
  rw [plainPredicate]
  split
  · next htext => exact absurd htext h
  · rfl

/-! ## Entries -/

/-- What the draft of a query holds for a name: a finished predicate, or the ends of a range. -/
abbrev Entry :=
  Option Predicate × Option (Bound × Bound)

/-- The entry of a name. -/
def Draft.entry (state : Draft) (name : String) : Entry :=
  (state.clauses.get? name, state.ranges.get? name)

/-- The draft with an entry put in. -/
def Draft.enter (state : Draft) (name : String) : Entry → Draft
  | (some predicate, _) => { state with clauses := state.clauses.insert name predicate }
  | (none, some range) => { state with ranges := state.ranges.insert name range }
  | (none, none) => state

/-- What a parameter with the text `raw` makes of the entry of the name that it filters on. A
    predicate is added where there is nothing, and the end of a range where this end is open. -/
inductive Adds (field : Field) (raw : String) : Operator → Entry → Entry → Prop
  | search : field.kind? = some .text →
      Adds field raw .plain (none, none) (some (.contains raw), none)
  | equals {v : Value} : field.kind? ≠ some .text → Denotes field raw v →
      Adds field raw .plain (none, none) (some (.equals v), none)
  | exactly {v : Value} : Denotes field raw v →
      Adds field raw .exactly (none, none) (some (.equals v), none)
  | least {v : Value} {range : Option (Bound × Bound)} {upper : Bound} :
      range.getD (.unbounded, .unbounded) = (.unbounded, upper) → Denotes field raw v →
      Adds field raw .least (none, range) (none, some (.inclusive v, upper))
  | most {v : Value} {range : Option (Bound × Bound)} {lower : Bound} :
      range.getD (.unbounded, .unbounded) = (lower, .unbounded) → Denotes field raw v →
      Adds field raw .most (none, range) (none, some (lower, .inclusive v))

namespace Adds

variable {before entry : Entry}

theorem isKnown (h : Adds field raw op before entry) : op.IsKnown := by
  cases h <;> exact nofun

theorem exists_denotes (h : Adds field raw op before entry) : ∃ v, Denotes field raw v := by
  cases h with
  | search htext =>
    cases field with
    | identifier => cases htext
    | declared a => exact ⟨_, .text raw (Option.some.inj htext)⟩
  | equals _ hv | exactly hv | least _ hv | most _ hv => exact ⟨_, hv⟩

end Adds

theorem not_contains_iff {m : NameMap α} : ¬m.contains name = true ↔ m.get? name = none := by
  rw [NameMap.contains, Option.not_isSome_iff_eq_none]

/-- Reading a parameter that filters adds to the entry of its name, and does nothing else. -/
theorem readFilter_eq_ok_iff (hkey : splitKey key = (name, op))
    (hfield : schema.resolve name = .ok field) :
    readFilter schema state key raw = .ok later ↔
      ∃ entry, Adds field raw op (state.entry name) entry ∧ later = state.enter name entry := by
  rw [readFilter, Draft.entry]
  simp only [hkey, hfield, ok_bind, unless_throw_eq_ok, not_contains_iff]
  generalize hclause : state.clauses.get? name = clause
  generalize hrange : state.ranges.get? name = range
  cases op with
  | plain =>
    simp only [unless_throw_eq_ok, not_contains_iff, hrange]
    constructor
    · rintro ⟨rfl, rfl, h⟩
      obtain ⟨predicate, hpredicate, ⟨⟩⟩ := bind_eq_ok.1 h
      by_cases htext : field.kind? = some .text
      · rw [plainPredicate_of_text htext] at hpredicate
        cases hpredicate
        exact ⟨_, .search htext, rfl⟩
      · rw [plainPredicate_of_ne_text htext] at hpredicate
        obtain ⟨v, hv, rfl⟩ := map_eq_ok.1 hpredicate
        exact ⟨_, .equals htext (parseValue_eq_ok_iff.1 hv), rfl⟩
    · rintro ⟨_, htext | ⟨htext, hv⟩, rfl⟩
      · exact ⟨rfl, rfl, bind_eq_ok.2 ⟨_, plainPredicate_of_text htext raw, rfl⟩⟩
      · refine ⟨rfl, rfl, bind_eq_ok.2 ⟨_, ?_, rfl⟩⟩
        rw [plainPredicate_of_ne_text htext, parseValue_eq_ok_iff.2 hv]
        rfl
  | exactly =>
    simp only [unless_throw_eq_ok, not_contains_iff, hrange]
    constructor
    · rintro ⟨rfl, rfl, h⟩
      obtain ⟨v, hv, ⟨⟩⟩ := bind_eq_ok.1 h
      exact ⟨_, .exactly (parseValue_eq_ok_iff.1 hv), rfl⟩
    · rintro ⟨_, hadds, rfl⟩
      cases hadds with
      | exactly hv => exact ⟨rfl, rfl, bind_eq_ok.2 ⟨_, parseValue_eq_ok_iff.2 hv, rfl⟩⟩
  | least =>
    simp only [unless_throw_eq_ok, not_not]
    constructor
    · rintro ⟨rfl, hopen, h⟩
      obtain ⟨v, hv, ⟨⟩⟩ := bind_eq_ok.1 h
      exact ⟨_, .least (Prod.ext hopen rfl) (parseValue_eq_ok_iff.1 hv), rfl⟩
    · rintro ⟨_, hadds, rfl⟩
      cases hadds with
      | least hends hv =>
        rw [hends]
        exact ⟨rfl, rfl, bind_eq_ok.2 ⟨_, parseValue_eq_ok_iff.2 hv, rfl⟩⟩
  | most =>
    simp only [unless_throw_eq_ok, not_not]
    constructor
    · rintro ⟨rfl, hopen, h⟩
      obtain ⟨v, hv, ⟨⟩⟩ := bind_eq_ok.1 h
      exact ⟨_, .most (Prod.ext rfl hopen) (parseValue_eq_ok_iff.1 hv), rfl⟩
    · rintro ⟨_, hadds, rfl⟩
      cases hadds with
      | most hends hv =>
        rw [hends]
        exact ⟨rfl, rfl, bind_eq_ok.2 ⟨_, parseValue_eq_ok_iff.2 hv, rfl⟩⟩
  | unknown word =>
    refine ⟨nofun, ?_⟩
    rintro ⟨_, hadds, -⟩
    cases hadds

/-- What is put in is the entry of its name, and the entries of other names stay as they are. -/
theorem entry_enter {entry : Entry} (h : Adds field raw op (state.entry name) entry) (n : String) :
    (state.enter name entry).entry n = if n = name then entry else state.entry n := by
  generalize hbefore : state.entry name = before at h
  obtain ⟨hclause, hrange⟩ := Prod.mk.inj hbefore
  by_cases hn : n = name
  · subst hn
    rw [if_pos rfl]
    cases h <;> simp [Draft.entry, Draft.enter, NameMap.get?_insert, *]
  · rw [if_neg hn]
    cases h <;> simp [Draft.entry, Draft.enter, NameMap.get?_insert, hn]

/-! ## Reading one parameter -/

/-- The number that a text stands for. -/
def number? (raw : String) : Option Int64 :=
  int64? (trim raw.toList)

/-- The words for the directions. -/
def directionWords : List (String × Direction) :=
  [("asc", .ascending), ("ascending", .ascending), ("desc", .descending),
    ("descending", .descending)]

/-- The direction that a text stands for: that of a word for one, in small letters or capitals,
    with white space around it or without. -/
def direction? (raw : String) : Option Direction :=
  (directionWords.find? fun (word, _) => SameButCase word.toList (trim raw.toList)).map Prod.snd

/-- The draft that a parameter makes of the draft before it. -/
inductive Reads (schema : Schema) : String × String → Draft → Draft → Prop
  | pageNumber {raw : String} {n : Int64} {state : Draft} : number? raw = some n →
      Reads schema ("pageNumber", raw) state { state with pageNumber := some n }
  | pageSize {raw : String} {n : Int64} {state : Draft} : number? raw = some n →
      Reads schema ("pageSize", raw) state { state with pageSize := some n }
  | sortBy (raw : String) (state : Draft) :
      Reads schema ("sortBy", raw) state { state with sortBy := some raw }
  | direction {raw : String} {d : Direction} {state : Draft} : direction? raw = some d →
      Reads schema ("sortDirection", raw) state { state with direction := some d }
  | filter {name raw : String} {op : Operator} {field : Field} {entry : Entry} {state : Draft} :
      op.keyOf name ∉ controls → op.IsKnown → schema.resolve name = .ok field →
      Adds field raw op (state.entry name) entry →
      Reads schema (op.keyOf name, raw) state (state.enter name entry)

/-- A parameter that makes sense by itself. -/
inductive Readable (schema : Schema) : String × String → Prop
  | pageNumber {raw : String} {n : Int64} : number? raw = some n →
      Readable schema ("pageNumber", raw)
  | pageSize {raw : String} {n : Int64} : number? raw = some n →
      Readable schema ("pageSize", raw)
  | sortBy (raw : String) : Readable schema ("sortBy", raw)
  | direction {raw : String} {d : Direction} : direction? raw = some d →
      Readable schema ("sortDirection", raw)
  | filter {name raw : String} {op : Operator} {field : Field} {v : Value} :
      op.keyOf name ∉ controls → op.IsKnown → schema.resolve name = .ok field →
      Denotes field raw v → Readable schema (op.keyOf name, raw)

theorem parseNumber_eq_ok_iff {n : Int64} : parseNumber key raw = .ok n ↔ number? raw = some n := by
  rw [parseNumber, number?]
  cases int64? (trim raw.toList) with
  | none => exact ⟨nofun, nofun⟩
  | some m => rw [Except.ok.injEq, Option.some.injEq]

theorem parse_eq_ok_iff_direction? {d : Direction} :
    Direction.parse raw = .ok d ↔ direction? raw = some d := by
  have hword (word : String) (hsmall : lowercaseAscii word.toList = word.toList) :
      String.ofList (lowercaseAscii (trim raw.toList)) = word ↔
        SameButCase word.toList (trim raw.toList) := by
    rw [← lowercaseAscii_eq_iff, hsmall, ← String.toList_inj, String.toList_ofList, eq_comm]
  simp only [Direction.parse, direction?, directionWords, List.find?, hword "asc" rfl,
    hword "ascending" rfl, hword "desc" rfl, hword "descending" rfl, Bool.or_eq_true,
    decide_eq_true_eq]
  have hok (c : Direction) : (.ok c : Except Error Direction) = .ok d ↔ some c = some d := by
    rw [Except.ok.injEq, Option.some.injEq]
  by_cases hasc : SameButCase "asc".toList (trim raw.toList)
  · rw [if_pos (.inl hasc), decide_eq_true hasc]
    exact hok .ascending
  rw [decide_eq_false hasc]
  by_cases hascending : SameButCase "ascending".toList (trim raw.toList)
  · rw [if_pos (.inr hascending), decide_eq_true hascending]
    exact hok .ascending
  rw [if_neg (not_or.2 ⟨hasc, hascending⟩), decide_eq_false hascending]
  by_cases hdesc : SameButCase "desc".toList (trim raw.toList)
  · rw [if_pos (.inl hdesc), decide_eq_true hdesc]
    exact hok .descending
  rw [decide_eq_false hdesc]
  by_cases hdescending : SameButCase "descending".toList (trim raw.toList)
  · rw [if_pos (.inr hdescending), decide_eq_true hdescending]
    exact hok .descending
  rw [if_neg (not_or.2 ⟨hdesc, hdescending⟩), decide_eq_false hdescending]
  exact iff_of_false nofun nofun

theorem point_not_mem_of_isValidName (h : isValidName name = true) : '.' ∉ name.toList := by
  intro hpoint
  rw [isValidName] at h
  split at h
  · cases h
  · next c cs hname =>
    rw [hname] at hpoint
    rw [Bool.and_eq_true, List.all_eq_true] at h
    obtain rfl | hpoint := List.mem_cons.1 hpoint
    · exact absurd h.1 (by decide)
    · exact absurd (h.2 _ hpoint) (by decide)

theorem point_not_mem_of_resolve (h : schema.resolve name = .ok field) : '.' ∉ name.toList := by
  refine point_not_mem_of_isValidName (schema.names_valid name (List.mem_cons_of_mem _ ?_))
  rw [Schema.resolve] at h
  split at h
  · next hname => exact hname ▸ List.mem_cons_self
  · split at h
    · next a ha =>
      refine List.mem_cons_of_mem _ (List.mem_map.2 ⟨a, List.mem_of_find?_eq_some ha, ?_⟩)
      simpa using List.find?_some ha
    · cases h

theorem reads_of_read (h : read schema state p = .ok later) : Reads schema p state later := by
  obtain ⟨key, raw⟩ := p
  by_cases hcontrol : key ∈ controls
  · simp only [controls, List.mem_cons, List.not_mem_nil, or_false] at hcontrol
    obtain rfl | rfl | rfl | rfl := hcontrol
    · obtain ⟨n, hn, ⟨⟩⟩ := bind_eq_ok.1 h
      exact .pageNumber (parseNumber_eq_ok_iff.1 hn)
    · obtain ⟨n, hn, ⟨⟩⟩ := bind_eq_ok.1 h
      exact .pageSize (parseNumber_eq_ok_iff.1 hn)
    · cases h
      exact .sortBy raw state
    · obtain ⟨d, hd, ⟨⟩⟩ := bind_eq_ok.1 h
      exact .direction (parse_eq_ok_iff_direction?.1 hd)
  · rw [read_of_not_mem_controls hcontrol] at h
    obtain ⟨⟨name, op⟩, hkey⟩ : ∃ parts, splitKey key = parts := ⟨_, rfl⟩
    have hfield : ∃ field, schema.resolve name = .ok field := by
      rw [readFilter, hkey] at h
      obtain ⟨field, hfield, -⟩ := bind_eq_ok.1 h
      exact ⟨field, hfield⟩
    obtain ⟨field, hfield⟩ := hfield
    obtain ⟨entry, hadds, rfl⟩ := (readFilter_eq_ok_iff hkey hfield).1 h
    rw [← keyOf_of_splitKey hkey] at hcontrol ⊢
    exact .filter hcontrol hadds.isKnown hfield hadds

theorem read_of_reads (h : Reads schema p state later) : read schema state p = .ok later := by
  cases h with
  | pageNumber hn | pageSize hn => exact bind_eq_ok.2 ⟨_, parseNumber_eq_ok_iff.2 hn, rfl⟩
  | sortBy => rfl
  | direction hd => exact bind_eq_ok.2 ⟨_, parse_eq_ok_iff_direction?.2 hd, rfl⟩
  | filter hcontrol hop hfield hadds =>
    have hkey := splitKey_keyOf (point_not_mem_of_resolve hfield) hop
    rw [read_of_not_mem_controls hcontrol]
    exact (readFilter_eq_ok_iff hkey hfield).2 ⟨_, hadds, rfl⟩

theorem Reads.readable (h : Reads schema p state later) : Readable schema p := by
  cases h with
  | pageNumber hn => exact .pageNumber hn
  | pageSize hn => exact .pageSize hn
  | sortBy => exact .sortBy _
  | direction hd => exact .direction hd
  | filter hcontrol hop hfield hadds =>
    obtain ⟨v, hv⟩ := hadds.exists_denotes
    exact .filter hcontrol hop hfield hv

end QueryParams

end PagedQuery
