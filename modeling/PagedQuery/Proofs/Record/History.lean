import Mathlib
import PagedQuery.Proofs.Record.Collection
import PagedQuery.Record.Storage

/-!
# Collections over time

A collection keeps its records and, beside them, their identifiers. That the two go together is
nothing that their types say: it is a matter of what putting in a record does at each of its steps,
also when it fails at one of them. Whatever has been tried before, the records are those that were
put in, the identifiers are theirs, and a record that was refused has left nothing behind: if it was
refused for what it holds, its identifier is as free as before.

* `Storage.Holds`: what is kept goes together, for some records;
* `Schema.Refuses`: what a record is refused for, when some records are there already; what it is
  refused for in itself is the first of its attributes that does not fit
  (`Schema.validate_eq_error_iff`);
* `Storage.Holds.insert_of_refuses`, `Storage.Holds.exists_insert_of_new`: what one record comes to;
* `Storage.Holds.insertAll`: what a run comes to;
* `Collection.storage_insert`: a collection is put together in the same way;
* `collection_over_time`: the main result.
-/

namespace PagedQuery

variable {schema : Schema} {s : Storage} {c d : Collection} {r : Record} {e : Error}
  {put tried records : List Record}

/-! ## Specification -/

/-- The records that were put in, of some that were tried. -/
def accepted (tried : List Record) (answers : List (Except Error Unit)) : List Record :=
  ((tried.zip answers).filter (·.2.isOk)).map (·.1)

/-- What is kept are some records: in this order, each of them fit, no two with one identifier, and
    with their identifiers beside them. -/
structure Storage.Holds (s : Storage) (schema : Schema) (put : List Record) : Prop where
  schema_eq : s.schema = schema
  records_eq : s.records.toList = put
  fits : ∀ r ∈ put, schema.validate r = .ok ()
  distinct : (put.map (·.id)).Nodup
  ids : ∀ i, i ∈ s.ids ↔ i ∈ put.map (·.id)

/-- A record is refused because it does not fit, or else because its identifier is taken. -/
inductive Schema.Refuses (schema : Schema) (put : List Record) (r : Record) : Error → Prop
  | unfit {e : Error} : schema.validate r = .error e → schema.Refuses put r e
  | taken : schema.validate r = .ok () → r.id ∈ put.map (·.id) →
      schema.Refuses put r (.duplicateRecord schema.entity r.id.toText)

/-- What comes of one more record. If it is refused, nothing has changed, and that its identifier is
    taken is said of a record that fits, when one with this identifier was put in. -/
structure Storage.Answers (s : Storage) (schema : Schema) (put : List Record) (r : Record) :
    Prop where
  refused_iff : ∀ e, (s.insert r).1 = .error e ↔ schema.Refuses put r e
  unchanged : ∀ e, (s.insert r).1 = .error e → (s.insert r).2 = s
  duplicate_iff : ∀ entity id, (s.insert r).1 = .error (.duplicateRecord entity id) ↔
    schema.validate r = .ok () ∧ (∃ q ∈ put, q.id = r.id) ∧
      entity = schema.entity ∧ id = r.id.toText

/-! ## What does not fit -/

/-- What is wrong with an attribute: it is not declared, or holds a value of another kind. -/
inductive Schema.Misfit (schema : Schema) (name : String) (value : Value) : Error → Prop
  | undeclared : schema.attribute? name = none →
      schema.Misfit name value (.unknownAttribute schema.entity name)
  | kind {a : Attribute} {found : Kind} : schema.attribute? name = some a →
      value.kind? = some found → found ≠ a.kind →
      schema.Misfit name value (.kindMismatch name a.kind found.name)

theorem Schema.validateAttribute_eq_error_iff {name : String} {value : Value} :
    schema.validateAttribute name value = .error e ↔ schema.Misfit name value e := by
  constructor
  · intro h
    rw [validateAttribute] at h
    split at h
    · next hnone =>
      cases h
      exact .undeclared hnone
    · next a ha =>
      split at h
      · cases h
      · next found hfound =>
        split at h
        · cases h
        · next hne =>
          cases h
          exact .kind ha hfound hne
  · rintro (hnone | ⟨ha, hfound, hne⟩)
    · rw [validateAttribute, hnone]
      rfl
    · simp only [validateAttribute, ha, hfound, if_neg hne]

/-- A record is refused for the first of its attributes by name that does not fit. -/
theorem Schema.validate_eq_error_iff : schema.validate r = .error e ↔
    ∃ before name value rest, r.attributes.toList = before ++ (name, value) :: rest ∧
      schema.validateAll before = .ok () ∧ schema.Misfit name value e := by
  rw [validate]
  induction r.attributes.toList with
  | nil => simp [validateAll]
  | cons b attributes ih =>
    obtain ⟨name, value⟩ := b
    rw [validateAll]
    constructor
    · intro h
      split at h
      · next hok =>
        obtain ⟨before, n, v, rest, rfl, hbefore, hmisfit⟩ := ih.1 h
        refine ⟨(name, value) :: before, n, v, rest, rfl, ?_, hmisfit⟩
        rw [validateAll, hok]
        exact hbefore
      · next he =>
        cases h
        exact ⟨[], name, value, attributes, rfl, rfl, validateAttribute_eq_error_iff.1 he⟩
    · rintro ⟨before, n, v, rest, heq, hbefore, hmisfit⟩
      rcases before with _ | ⟨b, before⟩
      · cases heq
        rw [validateAttribute_eq_error_iff.2 hmisfit]
      · cases heq
        rw [validateAll] at hbefore
        split at hbefore
        · next hok =>
          exact ih.2 ⟨before, n, v, rest, rfl, hbefore, hmisfit⟩
        · cases hbefore

/-- That an identifier is taken is never what is wrong with a record in itself. -/
theorem Schema.Refuses.duplicate_iff {entity id : String} :
    schema.Refuses put r (.duplicateRecord entity id) ↔ schema.validate r = .ok () ∧
      r.id ∈ put.map (·.id) ∧ entity = schema.entity ∧ id = r.id.toText := by
  constructor
  · rintro (hunfit | ⟨hfits, htaken⟩)
    · obtain ⟨_, _, _, _, -, -, hmisfit⟩ := validate_eq_error_iff.1 hunfit
      cases hmisfit
    · exact ⟨hfits, htaken, rfl, rfl⟩
  · rintro ⟨hfits, htaken, rfl, rfl⟩
    exact .taken hfits htaken

theorem Schema.refuses_or (schema : Schema) (put : List Record) (r : Record) :
    (∃ e, schema.Refuses put r e) ∨
      schema.validate r = .ok () ∧ r.id ∉ put.map (·.id) := by
  cases hr : schema.validate r with
  | error e => exact .inl ⟨e, .unfit hr⟩
  | ok =>
    by_cases htaken : r.id ∈ put.map (·.id)
    · exact .inl ⟨_, .taken hr htaken⟩
    · exact .inr ⟨rfl, htaken⟩

/-! ## One record -/

/-- Entering an identifier that is there already changes nothing. -/
theorem insert_eq_self_of_mem {ids : Std.HashSet RecordId} {i : RecordId} (h : i ∈ ids) :
    ids.insert i = ids := by
  rcases ids with ⟨⟨⟨⟨size, buckets⟩, hwf⟩⟩⟩
  rw [Std.HashSet.insert, Std.HashMap.insertIfNew, Std.DHashMap.insertIfNew]
  congr
  exact congrArg Subtype.val (if_pos h)

namespace Storage

theorem insert_of_unfit (h : s.schema.validate r = .error e) : s.insert r = (.error e, s) := by
  rw [insert, h]

theorem insert_of_taken (hfits : s.schema.validate r = .ok ()) (htaken : r.id ∈ s.ids) :
    s.insert r = (.error (.duplicateRecord s.schema.entity r.id.toText), s) := by
  simp [insert, hfits, htaken, insert_eq_self_of_mem htaken]

theorem insert_of_new (hfits : s.schema.validate r = .ok ()) (hnew : r.id ∉ s.ids) :
    s.insert r =
      (.ok (), { s with records := s.records.push r, ids := s.ids.insert r.id }) := by
  simp [insert, hfits, hnew]

theorem Holds.empty (schema : Schema) : (Storage.empty schema).Holds schema [] where
  schema_eq := rfl
  records_eq := rfl
  fits := by simp
  distinct := List.nodup_nil
  ids := by simp [Storage.empty]

/-- A record that is refused leaves all as it was. -/
theorem Holds.insert_of_refuses (h : s.Holds schema put) (hrefuses : schema.Refuses put r e) :
    s.insert r = (.error e, s) := by
  obtain ⟨rfl, -, -, -, hids⟩ := h
  rcases hrefuses with hunfit | ⟨hfits, htaken⟩
  · exact insert_of_unfit hunfit
  · exact insert_of_taken hfits ((hids _).2 htaken)

/-- Any other record comes to the end of those that are there. -/
theorem Holds.exists_insert_of_new (h : s.Holds schema put) (hr : schema.validate r = .ok ())
    (hnew : r.id ∉ put.map (·.id)) :
    ∃ next, s.insert r = (.ok (), next) ∧ next.Holds schema (put ++ [r]) := by
  obtain ⟨rfl, hrecords, hfits, hdistinct, hids⟩ := h
  refine ⟨_, insert_of_new hr fun hmem => hnew ((hids _).1 hmem), rfl, ?_, ?_, ?_, ?_⟩
  · rw [Array.toList_push, hrecords]
  · rw [List.forall_mem_append]
    exact ⟨hfits, List.forall_mem_singleton.2 hr⟩
  · rw [List.map_append, List.map_singleton, List.nodup_append_comm]
    exact List.nodup_cons.2 ⟨hnew, hdistinct⟩
  · intro i
    rw [Std.HashSet.mem_insert, List.map_append, List.mem_append, hids, beq_iff_eq,
      List.map_singleton, List.mem_singleton, or_comm, @eq_comm _ r.id i]

/-- What a record is refused for, if it is. -/
theorem Holds.insert_eq_error_iff (h : s.Holds schema put) :
    (s.insert r).1 = .error e ↔ schema.Refuses put r e := by
  constructor
  · intro herror
    rcases schema.refuses_or put r with ⟨e', hrefuses⟩ | ⟨hr, hnew⟩
    · rw [h.insert_of_refuses hrefuses] at herror
      cases herror
      exact hrefuses
    · obtain ⟨next, hnext, -⟩ := h.exists_insert_of_new hr hnew
      rw [hnext] at herror
      cases herror
  · intro hrefuses
    rw [h.insert_of_refuses hrefuses]

theorem Holds.answers (h : s.Holds schema put) (r : Record) : s.Answers schema put r where
  refused_iff _ := h.insert_eq_error_iff
  unchanged e herror := by rw [h.insert_of_refuses (h.insert_eq_error_iff.1 herror)]
  duplicate_iff entity id := by
    rw [h.insert_eq_error_iff, Schema.Refuses.duplicate_iff, List.mem_map]

/-! ## One record after the other -/

/-- Of whatever is tried, what was put in comes to the end of what is there. -/
theorem Holds.insertAll (h : s.Holds schema put) (tried : List Record) :
    (s.insertAll tried).1.length = tried.length ∧
      (s.insertAll tried).2.Holds schema (put ++ accepted tried (s.insertAll tried).1) := by
  induction tried generalizing s put with
  | nil => exact ⟨rfl, by rwa [accepted, List.zip_nil_left, List.filter_nil, List.map_nil,
      List.append_nil]⟩
  | cons r rest ih =>
    rcases schema.refuses_or put r with ⟨e, hrefuses⟩ | ⟨hr, hnew⟩
    · obtain ⟨hlength, hholds⟩ := ih h
      rw [Storage.insertAll, h.insert_of_refuses hrefuses]
      exact ⟨congrArg (· + 1) hlength, hholds⟩
    · obtain ⟨next, hnext, hputs⟩ := h.exists_insert_of_new hr hnew
      obtain ⟨hlength, hholds⟩ := ih hputs
      rw [List.append_assoc] at hholds
      rw [Storage.insertAll, hnext]
      exact ⟨congrArg (· + 1) hlength, hholds⟩

end Storage

/-! ## Collections -/

namespace Collection

/-- A record that is put into a collection is put in as it is in place. -/
theorem exists_storage_insert_of_new (hr : c.schema.validate r = .ok ()) (hnew : r.id ∉ c.ids) :
    ∃ d, c.insert r = .ok d ∧ c.storage.insert r = (.ok (), d.storage) := by
  rw [show c.storage.insert r = _ from Storage.insert_of_new hr hnew, insert]
  split
  · next h => cases h.symm.trans hr
  · rw [dif_neg hnew]
    exact ⟨_, rfl, rfl⟩

/-- A collection is put together as it is in place: a record that is refused changes nothing. -/
theorem storage_insert (c : Collection) (r : Record) :
    c.storage.insert r = match c.insert r with
      | .ok d => (.ok (), d.storage)
      | .error e => (.error e, c.storage) := by
  cases hr : c.schema.validate r with
  | error e =>
    rw [insert_of_not_admitted hr]
    exact Storage.insert_of_unfit hr
  | ok =>
    by_cases htaken : r.id ∈ c.ids
    · rw [insert_of_taken hr htaken]
      exact Storage.insert_of_taken hr htaken
    · obtain ⟨d, hd, hstorage⟩ := exists_storage_insert_of_new hr htaken
      rw [hstorage, hd]

/-- Whatever is tried on a collection, what is kept then is what a collection keeps. -/
theorem exists_storage_insertAll (c : Collection) (tried : List Record) :
    ∃ d : Collection, (c.storage.insertAll tried).2 = d.storage := by
  induction tried generalizing c with
  | nil => exact ⟨c, rfl⟩
  | cons r rest ih =>
    rw [Storage.insertAll, storage_insert]
    cases c.insert r with
    | error e => exact ih c
    | ok d => exact ih d

/-- Records that can be put in one by one are all put in. -/
theorem storage_insertAll_of_foldlM (h : records.foldlM insert c = .ok d) :
    c.storage.insertAll records = (records.map fun _ => .ok (), d.storage) := by
  induction records generalizing c with
  | nil =>
    cases h
    rfl
  | cons r rest ih =>
    obtain ⟨next, hnext, h⟩ := bind_eq_ok.1 h
    rw [Storage.insertAll, storage_insert, hnext]
    simp only [ih h, List.map_cons]

/-- A list of records makes a collection if each of them fits and no two have one identifier. -/
theorem exists_ofRecords_iff : (∃ c, ofRecords schema records = .ok c) ↔
    (∀ r ∈ records, schema.validate r = .ok ()) ∧ (records.map (·.id)).Nodup := by
  constructor
  · rintro ⟨c, hc⟩
    obtain ⟨rfl, rfl⟩ := ofRecords_eq_ok hc
    exact ⟨fun r hr => Schema.validate_eq_ok_iff.2 (c.admitted r hr), c.ids_distinct⟩
  · rintro ⟨hfit, hids⟩
    exact exists_foldlM_insert_of_nodup (c := empty schema) hfit hids

end Collection

/-- Whatever records have been tried on an empty collection, it has those that were put in, in this
    order; they all fit, no two have one identifier, and the identifiers beside them are theirs. One
    more record is refused if it does not fit, with what is wrong with it, or else if one with its
    identifier was put in, and then nothing changes. So a list of records makes a collection if they
    fit and have different identifiers, in whatever order they come, and an integer and a text that
    reads like it are different ones. -/
theorem collection_over_time (schema : Schema) :
    (∀ tried, ∃ answers s, (Storage.empty schema).insertAll tried = (answers, s) ∧
      answers.length = tried.length ∧ s.Holds schema (accepted tried answers) ∧
      (∀ r, s.Answers schema (accepted tried answers) r) ∧
      ∃ c : Collection, s = c.storage ∧ ∀ r, s.insert r = match c.insert r with
        | .ok d => (.ok (), d.storage)
        | .error e => (.error e, c.storage)) ∧
    (∀ records, (∃ c, Collection.ofRecords schema records = .ok c) ↔
      (∀ r ∈ records, schema.validate r = .ok ()) ∧ (records.map (·.id)).Nodup) ∧
    (∀ records c, Collection.ofRecords schema records = .ok c →
      (Storage.empty schema).insertAll records = (records.map fun _ => .ok (), c.storage)) ∧
    (∀ records others : List Record, records.Perm others →
      ((∃ c, Collection.ofRecords schema records = .ok c) ↔
        ∃ c, Collection.ofRecords schema others = .ok c)) ∧
    ∀ n q r, q.id = .integer n → r.id = .text (RecordId.integer n).toText →
      schema.validate q = .ok () → schema.validate r = .ok () →
      ∃ c, Collection.ofRecords schema [q, r] = .ok c := by
  refine ⟨fun tried => ?_, fun _ => Collection.exists_ofRecords_iff,
    fun _ _ => Collection.storage_insertAll_of_foldlM, fun records others hperm => ?_,
    fun n q r hq hr hq' hr' => ?_⟩
  · obtain ⟨hlength, hholds⟩ := (Storage.Holds.empty schema).insertAll tried
    obtain ⟨c, hc⟩ := (Collection.empty schema).exists_storage_insertAll tried
    exact ⟨_, _, rfl, hlength, hholds, hholds.answers, c, hc, fun r => hc ▸ c.storage_insert r⟩
  · rw [Collection.exists_ofRecords_iff, Collection.exists_ofRecords_iff]
    exact and_congr (forall_congr' fun r => by rw [hperm.mem_iff]) (hperm.map _).nodup_iff
  · rw [Collection.exists_ofRecords_iff]
    simp [hq, hr, hq', hr']

/-- The guests of a hotel, who stay for some nights. -/
def guests : Schema where
  entity := "Guest"
  identifier := "GuestID"
  attributes := [⟨"Name", .text⟩, ⟨"Nights", .integer⟩]
  names_valid := by decide
  names_distinct := by decide

/-- A guest is refused for nights that are no number, and after that another one with the same
    identifier is put in. With the identifier as a text there is room for a third, but not with the
    identifier itself. -/
theorem guests_over_time :
    let unfit := Record.ofList (.integer 7) [("Nights", .text "two")]
    let first := Record.ofList (.integer 7) [("Name", .text "Ken"), ("Nights", .null)]
    let second := Record.ofList (.text "7") [("Name", .text "Gail")]
    let (answers, s) := (Storage.empty guests).insertAll [unfit]
    answers = [.error (.kindMismatch "Nights" .integer "Text")] ∧
      (∀ e, (s.insert first).1 ≠ .error e) ∧
      (∃ c, Collection.ofRecords guests [first, second] = .ok c) ∧
      ¬∃ c, Collection.ofRecords guests [first, second, first] = .ok c := by
  intro unfit first second
  obtain ⟨htried, hmakes, -⟩ := collection_over_time guests
  obtain ⟨answers, s, hinsert, -, -, hanswers, -⟩ := htried [unfit]
  have hrefused : (Storage.empty guests).insertAll [unfit] =
      ([.error (.kindMismatch "Nights" .integer "Text")], Storage.empty guests) := rfl
  obtain ⟨rfl, rfl⟩ := Prod.mk.inj (hrefused.symm.trans hinsert)
  refine ⟨rfl, fun e herror => ?_, (hmakes _).2 ⟨?_, by decide⟩, fun hmade => ?_⟩
  · obtain hunfit | ⟨-, htaken⟩ := ((hanswers first).refused_iff e).1 herror
    · exact absurd hunfit nofun
    · exact absurd htaken nofun
  · rintro r hr
    fin_cases hr <;> rfl
  · exact absurd ((hmakes _).1 hmade).2 (by decide)

end PagedQuery
