import Mathlib
import PagedQuery.Proofs.Filtering
import PagedQuery.Proofs.PageSizes
import PagedQuery.Proofs.Text.Digits

/-!
# Looking a record up by its identifier

An identifier is written without its kind, and read as an integer wherever it reads as one. A query
for the identifier of a record as it is written therefore finds the record, and nothing else, if the
identifier is an integer or a text that does not read as one (`RecordId.parse_toText`). For any
other text it asks for the record with the integer that the text reads as, which is another one or
none.

* `parse_identifier`: the query that one parameter on the identifier asks for;
* `query_identifier_of_nodup`, `query_identifier`: what it finds;
* `lookup_by_written_identifier`: both together, for the identifier of a record.
-/

namespace PagedQuery

open Text

variable {settings : Settings} {c : Collection} {r : Record}

/-! ## Identifiers as text -/

namespace RecordId

theorem parse_of_int64? {raw : String} {n : Int64} (h : int64? (trim raw.toList) = some n) :
    parse raw = .integer n := by
  rw [parse, h]

theorem parse_of_int64?_eq_none {raw : String} (h : int64? (trim raw.toList) = none) :
    parse raw = .text raw := by
  rw [parse, h]

/-- An identifier is read back from its text, unless it is a text that reads as an integer. -/
theorem parse_toText {i : RecordId} (h : ∀ s, i = .text s → int64? (trim s.toList) = none) :
    parse i.toText = i := by
  cases i with
  | integer n =>
    refine parse_of_int64? ?_
    rw [toText, String.toList_ofList, int64?_trim_integerText]
  | text s => exact parse_of_int64?_eq_none (h s rfl)

end RecordId

/-! ## The query -/

namespace QueryParams

/-- One parameter on the identifier asks for the first page of the records with the identifier that
    its text reads as. -/
theorem parse_identifier (schema : Schema) (h : settings.validate = .ok ()) (raw : String) :
    parse schema settings [(schema.identifier ++ ".exact", raw)] =
      .ok ⟨NameMap.empty.insert schema.identifier (.equals (RecordId.parse raw).toValue), none,
        ⟨1, settings.defaultPageSize⟩⟩ := by
  have hfield : schema.resolve schema.identifier = .ok .identifier := if_pos rfl
  have hkey : Operator.exactly.keyOf schema.identifier = schema.identifier ++ ".exact" :=
    String.append_assoc
  have hcontrol : Operator.exactly.keyOf schema.identifier ∉ controls := by
    intro hmem
    cases eq_plain_of_keyOf_mem_controls .exactly hmem
  have hread : read schema .start (schema.identifier ++ ".exact", raw) =
      .ok (Draft.start.enter schema.identifier
        (some (.equals (RecordId.parse raw).toValue), none)) := by
    rw [← hkey]
    exact read_of_reads (.filter hcontrol .exactly hfield (.exactly (.identifier raw)))
  have hdraft : [(schema.identifier ++ ".exact", raw)].foldlM (read schema) .start =
      .ok (Draft.start.enter schema.identifier
        (some (.equals (RecordId.parse raw).toValue), none)) := by
    rw [List.foldlM_cons, hread]
    rfl
  exact bind_eq_ok.2 ⟨_, hdraft, bind_eq_ok.2 ⟨_, Settings.pageRequest_none h, rfl⟩⟩

end QueryParams

/-! ## The records -/

/-- Of records with different identifiers at most one has a given one. -/
theorem length_filter_id_le_one {records : List Record} (hids : (records.map (·.id)).Nodup)
    (id : RecordId) : (records.filter (·.id = id)).length ≤ 1 := by
  have hcount : (records.map (·.id)).count id ≤ 1 := List.nodup_iff_count_le_one.1 hids id
  rw [List.count, List.countP_map, List.countP_eq_length_filter] at hcount
  exact hcount

theorem filter_id_eq_of_nodup {records : List Record} (hids : (records.map (·.id)).Nodup)
    (hr : r ∈ records) : records.filter (·.id = r.id) = [r] := by
  have hmem : r ∈ records.filter (·.id = r.id) := List.mem_filter.2 ⟨hr, decide_eq_true rfl⟩
  -- The record is there, and there is no room for another one.
  obtain ⟨s, hs⟩ := List.length_eq_one_iff.1
    (le_antisymm (length_filter_id_le_one hids r.id) (List.length_pos_of_mem hmem))
  rw [hs] at hmem ⊢
  rw [List.mem_singleton.1 hmem]

theorem filter_id_eq (hr : r ∈ c.records.toList) : c.records.toList.filter (·.id = r.id) = [r] :=
  filter_id_eq_of_nodup c.ids_distinct hr

theorem compileFilter_identifier (schema : Schema) (id : RecordId) :
    compileFilter schema (some (NameMap.empty.insert schema.identifier (.equals id.toValue))) =
      .ok [⟨.identifier, .equals id.toValue⟩] := by
  have hfield : schema.resolve schema.identifier = .ok .identifier := if_pos rfl
  have hcheck : (Predicate.equals id.toValue).check schema.identifier .identifier = .ok () := by
    cases id <;> rfl
  exact Criteria.compile_single hfield hcheck

/-- An identifier passes the test for an identifier if they are the same. -/
theorem accepts_identifier (id : RecordId) (s : Record) :
    CompiledFilter.accepts [⟨.identifier, .equals id.toValue⟩] s = decide (s.id = id) := by
  have hnull : id.toValue.isNull = false := by
    cases id <;> rfl
  have hequal : (compare s.id.toValue id.toValue).isEq = decide (s.id = id) := by
    rw [Bool.eq_iff_iff, Ordering.isEq_iff_eq_eq, decide_eq_true_eq,
      RecordId.compare_toValue_eq_iff]
  show (!id.toValue.isNull && (compare s.id.toValue id.toValue).isEq && true) = _
  rw [hnull, hequal, Bool.not_false, Bool.true_and, Bool.and_true]

/-- A query for an identifier finds the record with it, if there is one. -/
theorem query_identifier_of_nodup {source : RecordSource} {records : List Record}
    (hscan : source.scan = .ok records) (hids : (records.map (·.id)).Nodup) (id : RecordId)
    {size : UInt32} (hsize : 1 ≤ size.toNat) :
    ∃ page, source.query
        (some (NameMap.empty.insert source.schema.identifier (.equals id.toValue))) none ⟨1, size⟩ =
          .ok page ∧
      page.items = records.filter (·.id = id) ∧ page.totalRecords = page.items.length := by
  have hsort : resolveSort source.schema none = .ok none := rfl
  have hall := RecordSource.result_eq (compileFilter_identifier source.schema id) hsort hscan
  have hitems : arrange none (records.filter
      (CompiledFilter.accepts [⟨.identifier, .equals id.toValue⟩])) = records.filter (·.id = id) :=
    congrArg (List.filter · records) (funext (accepts_identifier id))
  rw [hitems] at hall
  have hpage : (Page.slice (records.filter (·.id = id)) ⟨1, size⟩).items =
      records.filter (·.id = id) := by
    rw [Page.slice_items]
    show ((records.filter (·.id = id)).drop ((1 - 1) * size.toNat)).take size.toNat = _
    rw [Nat.sub_self, Nat.zero_mul, List.drop_zero,
      List.take_of_length_le ((length_filter_id_le_one hids id).trans hsize)]
  exact ⟨_, RecordSource.query_eq_slice hall le_rfl hsize, hpage, (congrArg List.length hpage).symm⟩

theorem query_identifier (c : Collection) (id : RecordId) {size : UInt32} (hsize : 1 ≤ size.toNat) :
    ∃ page, c.source.query
        (some (NameMap.empty.insert c.schema.identifier (.equals id.toValue))) none ⟨1, size⟩ =
          .ok page ∧
      page.items = c.records.toList.filter (·.id = id) ∧ page.totalRecords = page.items.length :=
  query_identifier_of_nodup (rfl : c.source.scan = .ok c.records.toList) c.ids_distinct id hsize

/-- A query with the identifier of a record as it is written. If the identifier is a text that reads
    as an integer, it finds the record with this integer instead, if there is one; otherwise it
    finds the record and nothing else. -/
theorem lookup_by_written_identifier (hr : r ∈ c.records.toList)
    (hsettings : settings.validate = .ok ()) :
    ∃ query page,
      QueryParams.parse c.schema settings [(c.schema.identifier ++ ".exact", r.id.toText)] =
        .ok query ∧
      c.source.query (some query.filter) query.sort query.page = .ok page ∧
      (∀ s n, r.id = .text s → int64? (trim s.toList) = some n →
        page.items = c.records.toList.filter (·.id = .integer n) ∧ r ∉ page.items) ∧
      ((∀ s, r.id = .text s → int64? (trim s.toList) = none) → page.items = [r]) ∧
      page.totalRecords = page.items.length := by
  obtain ⟨hsize, -⟩ := Settings.pageSizes_of_validate hsettings
  obtain ⟨page, hpage, hitems, htotal⟩ := query_identifier c (RecordId.parse r.id.toText) hsize
  have hquery := QueryParams.parse_identifier c.schema hsettings r.id.toText
  refine ⟨_, page, hquery, hpage, ?_, ?_, htotal⟩
  · intro s n hs hn
    have hparse : RecordId.parse r.id.toText = .integer n := by
      rw [hs]
      exact RecordId.parse_of_int64? hn
    rw [hitems, hparse]
    refine ⟨rfl, fun hmem => ?_⟩
    -- What is found has an integer for its identifier, and the record has a text.
    have hid : r.id = .integer n := of_decide_eq_true (List.mem_filter.1 hmem).2
    rw [hs] at hid
    cases hid
  · intro htext
    rw [hitems, RecordId.parse_toText htext]
    exact filter_id_eq hr

/-- Three cultures, two of them with identifiers that have digits in them. -/
def threeCultures : Collection :=
  .ofFitting
    { entity := "Culture"
      identifier := "CultureID"
      attributes := []
      names_valid := by decide
      names_distinct := by decide }
    [.ofList (.text "7") [], .ofList (.text "en-7") [], .ofList (.integer (-12)) []]
    (by intro r hr; fin_cases hr <;> rfl) (by decide)

/-- The culture with the identifier `en-7` is found by it. -/
theorem lookup_threeCultures :
    ∃ query page,
      QueryParams.parse threeCultures.schema .default [("CultureID.exact", "en-7")] = .ok query ∧
      threeCultures.source.query (some query.filter) query.sort query.page = .ok page ∧
      page.items = [.ofList (.text "en-7") []] ∧ page.totalRecords = 1 := by
  obtain ⟨query, page, hquery, hpage, -, hfound, htotal⟩ :=
    @lookup_by_written_identifier .default threeCultures (.ofList (.text "en-7") []) (by decide) rfl
  have hitems := hfound fun s hs => by cases hs; decide
  exact ⟨query, page, hquery, hpage, hitems, by rw [htotal, hitems]; rfl⟩

/-- The culture with the identifier `7` is not found by it. -/
theorem not_found_by_digits :
    ¬∀ (c : Collection) (r : Record) (settings : Settings), r ∈ c.records.toList →
      settings.validate = .ok () → ∃ query page,
        QueryParams.parse c.schema settings [(c.schema.identifier ++ ".exact", r.id.toText)] =
          .ok query ∧
        c.source.query (some query.filter) query.sort query.page = .ok page ∧ page.items = [r] ∧
        page.totalRecords = 1 := by
  intro h
  obtain ⟨query, page, hquery, hpage, hitems, -⟩ :=
    h threeCultures (.ofList (.text "7") []) .default (by decide) rfl
  have hseven : RecordId.parse "7" = .integer 7 := RecordId.parse_of_int64? (by decide)
  have hvalid : Settings.default.validate = .ok () := rfl
  have hparse := QueryParams.parse_identifier threeCultures.schema hvalid "7"
  rw [hseven] at hparse
  obtain rfl := Except.ok.inj (hquery.symm.trans hparse)
  obtain ⟨found, hfound, hnone, -⟩ :=
    @query_identifier threeCultures (.integer 7) Settings.default.defaultPageSize (by decide)
  obtain rfl := Except.ok.inj (hpage.symm.trans hfound)
  cases hitems.symm.trans hnone

end PagedQuery
