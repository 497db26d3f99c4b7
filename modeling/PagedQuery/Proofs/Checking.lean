import Mathlib
import PagedQuery.Proofs.Paging

/-!
# Checking before reading

A query checks what it is asked before it reads anything: the page, then the filter, then the sort.
So what is wrong with its arguments is a matter of the schema alone (`ArgumentFault`). A source of
other records, or one that cannot be read, gives the same answer to them; its own failure is only
seen when the arguments are in order. A count has one argument, the filter, and goes the same way.

* `Schema.Declares`: the names that can be sorted by;
* `ArgumentFault`: what is wrong with the arguments of a query;
* `checkArguments`, `query_eq_bind`: a query as a check and a reading;
* `map_totalRecords_query`, `exists_query_iff_count`: a query counts what a count does;
* `query_fails_in_order`: the main result.
-/

namespace PagedQuery

variable {schema : Schema} {filter : Option Criteria} {sort : Option SortSpec}
  {request : PageRequest} {name : String} {e : Error}

/-! ## Arguments -/

theorem PageRequest.validate_eq_error_iff : request.validate = .error e ↔
    request.number = 0 ∧ e = .invalidArgument "pageNumber must be at least 1" ∨
      request.number ≠ 0 ∧ request.size = 0 ∧
        e = .invalidArgument "pageSize must be at least 1" := by
  simp only [validate, UInt32.lt_one_iff]
  by_cases hnumber : request.number = 0
  · simp [hnumber, eq_comm]
  · by_cases hsize : request.size = 0 <;> simp [hnumber, hsize, eq_comm]

/-- A schema declares the name of the identifier and the names of the attributes. -/
def Schema.Declares (schema : Schema) (name : String) : Prop :=
  name ∈ schema.identifier :: schema.attributes.map (·.name)

instance (schema : Schema) (name : String) : Decidable (schema.Declares name) :=
  inferInstanceAs (Decidable (_ ∈ _))

theorem Schema.resolve_eq_error_iff : schema.resolve name = .error e ↔
    ¬schema.Declares name ∧ e = .unknownAttribute schema.entity name := by
  rw [Declares, List.mem_cons, resolve]
  split
  · next hidentifier => simp [hidentifier]
  · next hidentifier =>
    have hattribute : schema.attribute? name = none ↔
        name ∉ schema.attributes.map (·.name) := by
      simp [attribute?]
    rw [or_iff_right hidentifier, ← hattribute]
    cases schema.attribute? name with
    | none => simp [unknown, eq_comm]
    | some a => simp

theorem resolveSort_eq_error_iff : resolveSort schema sort = .error e ↔
    ∃ spec, sort = some spec ∧ ¬schema.Declares spec.name ∧
      e = .unknownAttribute schema.entity spec.name := by
  cases sort with
  | none => exact ⟨nofun, nofun⟩
  | some spec =>
    have hresolve : spec.resolve schema = .error e ↔ schema.resolve spec.name = .error e :=
      map_eq_error
    rw [resolveSort, map_eq_error, hresolve, Schema.resolve_eq_error_iff]
    simp

/-- What is wrong with the arguments of a query. The page is looked at first, then the filter, and
    the sort last. -/
inductive ArgumentFault (schema : Schema) (filter : Option Criteria) (sort : Option SortSpec)
    (request : PageRequest) : Error → Prop
  | number : request.number = 0 →
      ArgumentFault schema filter sort request (.invalidArgument "pageNumber must be at least 1")
  | size : request.number ≠ 0 → request.size = 0 →
      ArgumentFault schema filter sort request (.invalidArgument "pageSize must be at least 1")
  | filter {e : Error} : request.number ≠ 0 → request.size ≠ 0 →
      compileFilter schema filter = .error e → ArgumentFault schema filter sort request e
  | sort {compiled : CompiledFilter} {spec : SortSpec} : request.number ≠ 0 → request.size ≠ 0 →
      compileFilter schema filter = .ok compiled → sort = some spec →
      ¬schema.Declares spec.name →
      ArgumentFault schema filter sort request (.unknownAttribute schema.entity spec.name)

theorem exists_argumentFault_iff : (∃ e, ArgumentFault schema filter sort request e) ↔
    (request.number = 0 ∨ request.size = 0) ∨ (∃ e, compileFilter schema filter = .error e) ∨
      ∃ spec, sort = some spec ∧ ¬schema.Declares spec.name := by
  constructor
  · rintro ⟨_, hnumber | ⟨_, hsize⟩ | ⟨_, _, hfilter⟩ | ⟨_, _, _, hsort, hname⟩⟩
    · exact .inl (.inl hnumber)
    · exact .inl (.inr hsize)
    · exact .inr (.inl ⟨_, hfilter⟩)
    · exact .inr (.inr ⟨_, hsort, hname⟩)
  · intro h
    by_cases hnumber : request.number = 0
    · exact ⟨_, .number hnumber⟩
    by_cases hsize : request.size = 0
    · exact ⟨_, .size hnumber hsize⟩
    cases hfilter : compileFilter schema filter with
    | error e => exact ⟨e, .filter hnumber hsize hfilter⟩
    | ok compiled =>
      obtain (h | h) | ⟨_, h⟩ | ⟨spec, hsort, hname⟩ := h
      · exact absurd h hnumber
      · exact absurd h hsize
      · cases hfilter.symm.trans h
      · exact ⟨_, .sort hnumber hsize hfilter hsort hname⟩

/-- The checks that a query makes, and what it takes from them. -/
def checkArguments (schema : Schema) (filter : Option Criteria) (sort : Option SortSpec)
    (request : PageRequest) : Except Error (CompiledFilter × Option (Field × Direction)) := do
  request.validate
  let filter ← compileFilter schema filter
  let order ← resolveSort schema sort
  return (filter, order)

theorem checkArguments_eq_error_iff : checkArguments schema filter sort request = .error e ↔
    ArgumentFault schema filter sort request e := by
  rw [checkArguments, bind_eq_error, PageRequest.validate_eq_error_iff]
  constructor
  · rintro ((⟨hnumber, rfl⟩ | ⟨hnumber, hsize, rfl⟩) | ⟨_, hvalid, h⟩)
    · exact .number hnumber
    · exact .size hnumber hsize
    · obtain ⟨hnumber, hsize⟩ := PageRequest.validate_eq_ok_iff_ne_zero.1 hvalid
      obtain hfilter | ⟨compiled, hfilter, h⟩ := bind_eq_error.1 h
      · exact .filter hnumber hsize hfilter
      · obtain hsort | ⟨_, _, h⟩ := bind_eq_error.1 h
        · obtain ⟨spec, hspec, hname, rfl⟩ := resolveSort_eq_error_iff.1 hsort
          exact .sort hnumber hsize hfilter hspec hname
        · cases h
  · intro h
    cases h with
    | number hnumber => exact .inl (.inl ⟨hnumber, rfl⟩)
    | size hnumber hsize => exact .inl (.inr ⟨hnumber, hsize, rfl⟩)
    | filter hnumber hsize hfilter =>
      exact .inr ⟨(), PageRequest.validate_eq_ok_iff_ne_zero.2 ⟨hnumber, hsize⟩,
        bind_eq_error.2 (.inl hfilter)⟩
    | sort hnumber hsize hfilter hspec hname =>
      have hsort := resolveSort_eq_error_iff.2 ⟨_, hspec, hname, rfl⟩
      exact .inr ⟨(), PageRequest.validate_eq_ok_iff_ne_zero.2 ⟨hnumber, hsize⟩,
        bind_eq_error.2 (.inr ⟨_, hfilter, bind_eq_error.2 (.inl hsort)⟩)⟩

theorem compileFilter_of_checkArguments {checked : CompiledFilter × Option (Field × Direction)}
    (h : checkArguments schema filter sort request = .ok checked) :
    compileFilter schema filter = .ok checked.1 := by
  obtain ⟨_, -, h⟩ := bind_eq_ok.1 h
  obtain ⟨compiled, hcompiled, h⟩ := bind_eq_ok.1 h
  obtain ⟨order, -, h⟩ := bind_eq_ok.1 h
  cases h
  exact hcompiled

theorem exists_checkArguments_eq_ok_iff :
    (∃ checked, checkArguments schema filter sort request = .ok checked) ↔
      ¬∃ e, ArgumentFault schema filter sort request e := by
  simp only [exists_eq_ok_iff, checkArguments_eq_error_iff]

/-! ## Queries -/

namespace RecordSource

variable {source : RecordSource}

/-- A query checks its arguments, and only then reads. -/
theorem query_eq_bind : source.query filter sort request =
    checkArguments source.schema filter sort request >>= fun (compiled, order) =>
      source.scan.map fun records =>
        .slice (arrange order (records.filter compiled.accepts)) request := by
  simp only [query, checkArguments, result, bind_assoc, pure_bind]
  rfl

/-- The arguments are at fault, or else what cannot be done is to read. -/
theorem query_eq_error_iff : source.query filter sort request = .error e ↔
    ArgumentFault source.schema filter sort request e ∨
      (¬∃ e', ArgumentFault source.schema filter sort request e') ∧ source.scan = .error e := by
  rw [query_eq_bind, bind_eq_error, checkArguments_eq_error_iff, ← exists_checkArguments_eq_ok_iff,
    ← exists_and_right]
  simp only [map_eq_error]

theorem exists_query_eq_error_iff : (∃ e, source.query filter sort request = .error e) ↔
    (∃ e, ArgumentFault source.schema filter sort request e) ∨ ∃ e, source.scan = .error e := by
  simp only [query_eq_error_iff, exists_or, exists_and_left]
  by_cases hfault : ∃ e, ArgumentFault source.schema filter sort request e <;> simp [hfault]

theorem count_eq_error_iff : source.count filter = .error e ↔
    compileFilter source.schema filter = .error e ∨
      (∃ compiled, compileFilter source.schema filter = .ok compiled) ∧
        source.scan = .error e := by
  rw [count, bind_eq_error, ← exists_and_right]
  exact or_congr_right (exists_congr fun _ => and_congr_right fun _ => map_eq_error)

/-- What a query says of the number of records is what a count says. -/
theorem map_totalRecords_query : (source.query filter sort request).map (·.totalRecords) =
    checkArguments source.schema filter sort request >>= fun _ => source.count filter := by
  rw [query_eq_bind]
  cases hchecked : checkArguments source.schema filter sort request with
  | error e => rfl
  | ok checked =>
    rw [ok_bind, ok_bind, count, compileFilter_of_checkArguments hchecked]
    cases source.scan with
    | error e => rfl
    | ok records => exact congrArg Except.ok (length_arrange _ _)

/-- A query for a page that exists, by a sort with a name that is declared, says what a count
    says. -/
theorem exists_query_iff_count {n : ℕ} :
    (∃ page, source.query filter sort request = .ok page ∧ page.totalRecords = n) ↔
      request.number ≠ 0 ∧ request.size ≠ 0 ∧
        (∀ spec, sort = some spec → source.schema.Declares spec.name) ∧
        source.count filter = .ok n := by
  rw [← map_eq_ok, map_totalRecords_query, bind_eq_ok, exists_and_right,
    exists_checkArguments_eq_ok_iff, exists_argumentFault_iff, not_or, not_or, not_or]
  -- A count that succeeds has compiled the filter.
  have hcompiles (hcount : source.count filter = .ok n) :
      ¬∃ e, compileFilter source.schema filter = .error e := by
    obtain ⟨compiled, hcompiled, -⟩ := bind_eq_ok.1 hcount
    exact exists_eq_ok_iff.1 ⟨compiled, hcompiled⟩
  constructor
  · rintro ⟨⟨⟨hnumber, hsize⟩, -, hsort⟩, hcount⟩
    exact ⟨hnumber, hsize, fun spec hspec => not_not.1 fun hname => hsort ⟨spec, hspec, hname⟩,
      hcount⟩
  · rintro ⟨hnumber, hsize, hsort, hcount⟩
    refine ⟨⟨⟨hnumber, hsize⟩, hcompiles hcount, ?_⟩, hcount⟩
    rintro ⟨spec, hspec, hname⟩
    exact hname (hsort spec hspec)

/-- A query fails if its page does not exist, its filter does not compile, its sort is by a name
    that is not declared, or the source cannot be read, and it reports the first of these. The
    errors that all sources with the schema report, whatever they hold, are those of the arguments.
    A count fails over its filter, and otherwise over the source. Where it succeeds, so does a query
    with the filter for every page that exists, by any sort with a name that is declared, and the
    page tells the same number. -/
theorem query_fails_in_order (source : RecordSource) (filter : Option Criteria)
    (sort : Option SortSpec) (request : PageRequest) :
    ((∃ e, source.query filter sort request = .error e) ↔
      (request.number = 0 ∨ request.size = 0) ∨
        (∃ e, compileFilter source.schema filter = .error e) ∨
        (∃ spec, sort = some spec ∧ ¬source.schema.Declares spec.name) ∨
        ∃ e, source.scan = .error e) ∧
    (∀ e, source.query filter sort request = .error e ↔
      ArgumentFault source.schema filter sort request e ∨
        (¬∃ e', ArgumentFault source.schema filter sort request e') ∧ source.scan = .error e) ∧
    (∀ e, ArgumentFault source.schema filter sort request e ↔
      ∀ scan, query ⟨source.schema, scan⟩ filter sort request = .error e) ∧
    (∀ e, source.count filter = .error e ↔ compileFilter source.schema filter = .error e ∨
      (∃ compiled, compileFilter source.schema filter = .ok compiled) ∧ source.scan = .error e) ∧
    ∀ n, (∃ page, source.query filter sort request = .ok page ∧ page.totalRecords = n) ↔
      request.number ≠ 0 ∧ request.size ≠ 0 ∧
        (∀ spec, sort = some spec → source.schema.Declares spec.name) ∧
        source.count filter = .ok n := by
  refine ⟨?_, fun _ => query_eq_error_iff, fun e => ?_, fun _ => count_eq_error_iff,
    fun _ => exists_query_iff_count⟩
  · simp only [exists_query_eq_error_iff, exists_argumentFault_iff, or_assoc]
  · constructor
    · intro hfault scan
      exact query_eq_error_iff.2 (.inl hfault)
    · intro h
      -- A source that has nothing to read can be read.
      obtain hfault | ⟨-, hscan⟩ := query_eq_error_iff.1 (h (.ok []))
      · exact hfault
      · cases hscan

/-- Three vendors that cannot be read any more. -/
def lostVendors : RecordSource where
  schema := threeVendors.schema
  scan := .error (.source "connection reset")

/-- A query on them that sorts by an attribute that vendors do not have fails over this attribute.
    One that asks for nothing that is not there fails because they are lost, as a count does. -/
theorem lostVendors_fail_in_order :
    lostVendors.query none (some ⟨"CreditRating", .ascending⟩) ⟨1, 1⟩ =
        .error (.unknownAttribute "Vendor" "CreditRating") ∧
      lostVendors.query none none ⟨1, 10⟩ = .error (.source "connection reset") ∧
      lostVendors.count none = .error (.source "connection reset") := by
  obtain ⟨-, hquery, -⟩ :=
    query_fails_in_order lostVendors none (some ⟨"CreditRating", .ascending⟩) ⟨1, 1⟩
  obtain ⟨-, hquery', -, hcount, -⟩ := query_fails_in_order lostVendors none none ⟨1, 10⟩
  refine ⟨(hquery _).2 (.inl ?_), (hquery' _).2 (.inr ⟨?_, rfl⟩),
    (hcount _).2 (.inr ⟨⟨_, rfl⟩, rfl⟩)⟩
  · exact .sort (by decide) (by decide) rfl rfl (by decide)
  · rw [exists_argumentFault_iff]
    rintro ((hnumber | hsize) | ⟨_, hfilter⟩ | ⟨_, hsort, -⟩)
    · exact absurd hnumber (by decide)
    · exact absurd hsize (by decide)
    · cases hfilter
    · cases hsort

end RecordSource

end PagedQuery
