import Mathlib
import PagedQuery.Proofs.Params.Given

/-!
# The language of query parameters

Which lists of parameters are read, and what they mean. Each parameter has to make sense by itself
(`Readable`), and the parameters on one name have to go together (`Given.Consistent`): a single
plain or exact one, or at most one for each end of a range. It does not matter in which order they
come, or what stands between them.

What is said here of parameters speaks of no drafts and of no order of reading. It is brought
together with the reading by one invariant (`Draft.Of`): the draft after some parameters holds, for
each name, what the texts given for this name ask for.

* `Draft.Of`, `Draft.Of.reads`: the invariant, and that reading a parameter keeps it;
* `foldlM_read_iff`: which lists of parameters are read;
* `Means`: a query that says what parameters mean;
* `parse_reads_language`: which parameters make up a query, and which query.

The parameters of paging and sorting may come repeatedly. All have to make sense, and the last
counts.
-/

namespace PagedQuery.QueryParams

variable {schema : Schema} {settings : Settings} {params : List (String × String)}
  {state later : Draft} {p : String × String} {key name raw : String} {op : Operator}
  {field : Field} {entry : Entry}

/-! ## Reading all parameters -/

/-- The text of the last parameter with a key. -/
def last (params : List (String × String)) (key : String) : Option String :=
  params.reverse.lookup key

/-- The number of a parameter that is to give one. -/
def lastNumber? (params : List (String × String)) (key : String) : Option Int64 :=
  (last params key).bind number?

/-- The direction that parameters ask for. -/
def lastDirection? (params : List (String × String)) : Option Direction :=
  (last params "sortDirection").bind direction?

theorem last_concat :
    last (params ++ [p]) key = if key = p.1 then some p.2 else last params key := by
  rw [last, List.reverse_concat, List.lookup_cons]
  by_cases h : key = p.1
  · rw [if_pos h, beq_iff_eq.2 h]
  · rw [if_neg h, beq_eq_false_iff_ne.2 h, last]

/-- A parameter that filters sets nothing else. -/
theorem last_concat_of_not_mem (hp : p.1 ∉ controls) (hkey : key ∈ controls) :
    last (params ++ [p]) key = last params key := by
  rw [last_concat, if_neg]
  rintro rfl
  exact hp hkey

/-- A draft that holds what parameters ask for. -/
structure Draft.Of (schema : Schema) (params : List (String × String)) (state : Draft) : Prop where
  entry : ∀ name field, schema.resolve name = .ok field →
    (Given.of params name).Drafts field (state.entry name)
  undeclared : ∀ name, (¬∃ field, schema.resolve name = .ok field) →
    state.entry name = (none, none)
  pageNumber : state.pageNumber = lastNumber? params "pageNumber"
  pageSize : state.pageSize = lastNumber? params "pageSize"
  sortBy : state.sortBy = last params "sortBy"
  direction : state.direction = lastDirection? params

namespace Draft

@[simp]
theorem enter_pageNumber : (state.enter name entry).pageNumber = state.pageNumber := by
  obtain ⟨_ | predicate, _ | range⟩ := entry <;> rfl

@[simp]
theorem enter_pageSize : (state.enter name entry).pageSize = state.pageSize := by
  obtain ⟨_ | predicate, _ | range⟩ := entry <;> rfl

@[simp]
theorem enter_sortBy : (state.enter name entry).sortBy = state.sortBy := by
  obtain ⟨_ | predicate, _ | range⟩ := entry <;> rfl

@[simp]
theorem enter_direction : (state.enter name entry).direction = state.direction := by
  obtain ⟨_ | predicate, _ | range⟩ := entry <;> rfl

theorem of_start (schema : Schema) : start.Of schema [] where
  entry _ _ _ := .nothing
  undeclared _ _ := rfl
  pageNumber := rfl
  pageSize := rfl
  sortBy := rfl
  direction := rfl

namespace Of

/-- A parameter that does not filter leaves the entries as they are, and as they should be. -/
theorem entry_concat (h : state.Of schema params) (hkey : key ∈ controls) (name : String)
    (field : Field) (hfield : schema.resolve name = .ok field) :
    (Given.of (params ++ [(key, raw)]) name).Drafts field (state.entry name) := by
  rw [of_concat_of_mem_controls hkey]
  exact h.entry name field hfield

/-- A parameter that filters adds to the entry of its name, and the other entries stay. -/
theorem enter (h : state.Of schema params) (hcontrol : op.keyOf name ∉ controls) (hop : op.IsKnown)
    (hfield : schema.resolve name = .ok field)
    (hadds : Adds field raw op (state.entry name) entry) :
    (state.enter name entry).Of schema (params ++ [(op.keyOf name, raw)]) where
  entry other f hf := by
    have hname := point_not_mem_of_resolve hfield
    rw [entry_enter hadds]
    by_cases hne : other = name
    · subst hne
      obtain rfl := Except.ok.inj (hfield.symm.trans hf)
      rw [if_pos rfl, of_concat_self hname hop hcontrol]
      exact (h.entry _ _ hf).add hadds
    · rw [if_neg hne, of_concat_of_ne hname (point_not_mem_of_resolve hf) hop hcontrol hne]
      exact h.entry _ _ hf
  undeclared other hother := by
    rw [entry_enter hadds, if_neg]
    · exact h.undeclared other hother
    · rintro rfl
      exact hother ⟨field, hfield⟩
  pageNumber := by
    rw [enter_pageNumber, h.pageNumber, lastNumber?, lastNumber?,
      last_concat_of_not_mem hcontrol (by decide)]
  pageSize := by
    rw [enter_pageSize, h.pageSize, lastNumber?, lastNumber?,
      last_concat_of_not_mem hcontrol (by decide)]
  sortBy := by
    rw [enter_sortBy, h.sortBy, last_concat_of_not_mem hcontrol (by decide)]
  direction := by
    rw [enter_direction, h.direction, lastDirection?, lastDirection?,
      last_concat_of_not_mem hcontrol (by decide)]

/-- Reading one more parameter keeps a draft to what the parameters ask for. -/
theorem reads (h : state.Of schema params) (hreads : Reads schema p state later) :
    later.Of schema (params ++ [p]) := by
  cases hreads with
  | filter hcontrol hop hfield hadds => exact h.enter hcontrol hop hfield hadds
  | pageNumber hn =>
    exact { h with
      entry := h.entry_concat (by decide)
      pageNumber := by simp [lastNumber?, last_concat, hn]
      pageSize := by simp [lastNumber?, last_concat, h.pageSize]
      sortBy := by simp [last_concat, h.sortBy]
      direction := by simp [lastDirection?, last_concat, h.direction] }
  | pageSize hn =>
    exact { h with
      entry := h.entry_concat (by decide)
      pageNumber := by simp [lastNumber?, last_concat, h.pageNumber]
      pageSize := by simp [lastNumber?, last_concat, hn]
      sortBy := by simp [last_concat, h.sortBy]
      direction := by simp [lastDirection?, last_concat, h.direction] }
  | sortBy =>
    exact { h with
      entry := h.entry_concat (by decide)
      pageNumber := by simp [lastNumber?, last_concat, h.pageNumber]
      pageSize := by simp [lastNumber?, last_concat, h.pageSize]
      sortBy := by simp [last_concat]
      direction := by simp [lastDirection?, last_concat, h.direction] }
  | direction hd =>
    exact { h with
      entry := h.entry_concat (by decide)
      pageNumber := by simp [lastNumber?, last_concat, h.pageNumber]
      pageSize := by simp [lastNumber?, last_concat, h.pageSize]
      sortBy := by simp [last_concat, h.sortBy]
      direction := by simp [lastDirection?, last_concat, hd] }

/-- A parameter that makes sense, and that goes together with those before it, can be read. -/
theorem exists_reads (h : state.Of schema params) (hp : Readable schema p)
    (hconsistent : ∀ name field, schema.resolve name = .ok field →
      (Given.of (params ++ [p]) name).Consistent) : ∃ later, Reads schema p state later := by
  cases hp with
  | pageNumber hn => exact ⟨_, .pageNumber hn⟩
  | pageSize hn => exact ⟨_, .pageSize hn⟩
  | sortBy => exact ⟨_, .sortBy _ _⟩
  | direction hd => exact ⟨_, .direction hd⟩
  | filter hcontrol hop hfield hv =>
    have hadded := hconsistent _ _ hfield
    rw [of_concat_self (point_not_mem_of_resolve hfield) hop hcontrol] at hadded
    obtain ⟨entry, hadds⟩ := (h.entry _ _ hfield).exists_adds hop hv hadded
    exact ⟨_, .filter hcontrol hop hfield hadds⟩

end Of

end Draft

theorem foldlM_concat_eq_ok :
    (params ++ [p]).foldlM (read schema) .start = .ok later ↔
      ∃ state, params.foldlM (read schema) .start = .ok state ∧ Reads schema p state later := by
  rw [List.foldlM_append, bind_eq_ok]
  refine exists_congr fun state => and_congr_right fun _ => ?_
  rw [List.foldlM_cons, bind_eq_ok]
  constructor
  · rintro ⟨_, hread, ⟨⟩⟩
    exact reads_of_read hread
  · exact fun hreads => ⟨_, read_of_reads hreads, rfl⟩

/-- What is read holds what the parameters ask for, and each of them makes sense. -/
theorem of_foldlM (h : params.foldlM (read schema) .start = .ok state) :
    state.Of schema params ∧ ∀ p ∈ params, Readable schema p := by
  -- The last parameter is read into the draft of those before it.
  induction params using List.reverseRecOn generalizing state with
  | nil =>
    cases h
    exact ⟨Draft.of_start schema, nofun⟩
  | append_singleton params p ih =>
    obtain ⟨before, hbefore, hreads⟩ := foldlM_concat_eq_ok.1 h
    obtain ⟨hof, hall⟩ := ih hbefore
    refine ⟨hof.reads hreads, fun q hq => ?_⟩
    obtain hq | hq := List.mem_append.1 hq
    · exact hall q hq
    · rw [List.mem_singleton.1 hq]
      exact hreads.readable

/-- Parameters that make sense, and that go together, can be read in any order. -/
theorem exists_foldlM (hreadable : ∀ p ∈ params, Readable schema p)
    (hconsistent : ∀ name field, schema.resolve name = .ok field →
      (Given.of params name).Consistent) :
    ∃ state, params.foldlM (read schema) .start = .ok state := by
  induction params using List.reverseRecOn with
  | nil => exact ⟨_, rfl⟩
  | append_singleton params p ih =>
    obtain ⟨before, hbefore⟩ := ih (fun q hq => hreadable q (List.mem_append_left _ hq))
      fun name field hfield => consistent_of_concat (hconsistent name field hfield)
    obtain ⟨later, hreads⟩ := (of_foldlM hbefore).1.exists_reads
      (hreadable p List.mem_concat_self) hconsistent
    exact ⟨later, foldlM_concat_eq_ok.2 ⟨before, hbefore, hreads⟩⟩

/-- Which parameters are read. -/
theorem foldlM_read_iff :
    (∃ state, params.foldlM (read schema) .start = .ok state) ↔
      (∀ p ∈ params, Readable schema p) ∧
        ∀ name field, schema.resolve name = .ok field → (Given.of params name).Consistent := by
  constructor
  · rintro ⟨state, hstate⟩
    obtain ⟨hof, hall⟩ := of_foldlM hstate
    exact ⟨hall, fun name field hfield => (hof.entry name field hfield).asks.consistent⟩
  · exact fun h => exists_foldlM h.1 h.2

/-! ## Queries -/

/-- A query says what its parameters mean. -/
structure Means (schema : Schema) (settings : Settings) (params : List (String × String))
    (query : QueryParams) : Prop where
  /-- A field is filtered by the predicate that the texts given for it ask for, if there are any. -/
  filter : ∀ name field, schema.resolve name = .ok field →
    (Given.of params name).Asks field (query.filter.get? name)
  /-- Nothing else is filtered. -/
  undeclared : ∀ name, (¬∃ field, schema.resolve name = .ok field) → query.filter.get? name = none
  /-- A name is sorted by in the direction that is given, or else in ascending order. -/
  sortBy : ∀ name, last params "sortBy" = some name →
    query.sort = some ⟨name, (lastDirection? params).getD .ascending⟩
  /-- A direction alone is one of the identifier. -/
  direction : last params "sortBy" = none →
    query.sort = (lastDirection? params).map fun d => ⟨schema.identifier, d⟩
  /-- The page is the one that the settings have for the numbers that are given. -/
  page : settings.pageRequest (lastNumber? params "pageNumber") (lastNumber? params "pageSize") =
    .ok query.page

/-- What is parsed says what the parameters mean. -/
theorem means_of_parse {query : QueryParams} (h : parse schema settings params = .ok query) :
    Means schema settings params query := by
  obtain ⟨state, hstate, h⟩ := bind_eq_ok.1 h
  obtain ⟨page, hpage, ⟨⟩⟩ := bind_eq_ok.1 h
  obtain ⟨hof, -⟩ := of_foldlM hstate
  exact
    { filter := fun name field hfield => by
        rw [get?_criteria]
        exact (hof.entry name field hfield).asks
      undeclared := fun name hname => by
        rw [get?_criteria, hof.undeclared name hname]
        rfl
      sortBy := fun name hname => by
        show state.sort schema = _
        rw [Draft.sort, hof.sortBy, hname, hof.direction]
      direction := fun hnone => by
        show state.sort schema = _
        rw [Draft.sort, hof.sortBy, hnone, hof.direction]
        cases lastDirection? params <;> rfl
      page := by
        rw [← hof.pageNumber, ← hof.pageSize]
        exact hpage }

/-- Parameters make up a query exactly if each of them makes sense by itself, those on one name go
    together, and the settings have the page that is asked for. The query says what they mean. -/
theorem parse_reads_language (schema : Schema) (settings : Settings)
    (params : List (String × String)) :
    ((∃ query, parse schema settings params = .ok query) ↔
      (∀ p ∈ params, Readable schema p) ∧
      (∀ name field, schema.resolve name = .ok field → (Given.of params name).Consistent) ∧
      ∃ page, settings.pageRequest (lastNumber? params "pageNumber")
        (lastNumber? params "pageSize") = .ok page) ∧
      ∀ query, parse schema settings params = .ok query → Means schema settings params query := by
  refine ⟨⟨?_, ?_⟩, fun query => means_of_parse⟩
  · rintro ⟨query, hquery⟩
    have hmeans := means_of_parse hquery
    obtain ⟨state, hstate, -⟩ := bind_eq_ok.1 hquery
    obtain ⟨hreadable, hconsistent⟩ := foldlM_read_iff.1 ⟨state, hstate⟩
    exact ⟨hreadable, hconsistent, query.page, hmeans.page⟩
  · rintro ⟨hreadable, hconsistent, page, hpage⟩
    obtain ⟨state, hstate⟩ := foldlM_read_iff.2 ⟨hreadable, hconsistent⟩
    obtain ⟨hof, -⟩ := of_foldlM hstate
    rw [← hof.pageNumber, ← hof.pageSize] at hpage
    exact ⟨_, bind_eq_ok.2 ⟨state, hstate, bind_eq_ok.2 ⟨page, hpage, rfl⟩⟩⟩

end PagedQuery.QueryParams
