import Mathlib
import PagedQuery.Proofs.Outcome
import PagedQuery.Record.Collection

/-!
# Putting records into a collection

A record goes to the end of a collection if it fits and its identifier is not taken. Of several
records, one after the other, those before the first whose identifier is taken are put in.

* `insert_eq_ok`, `insert_of_taken`, `insert_of_not_admitted`, `exists_insert_of_new`: one record;
* `foldlM_insert_eq_ok`, `exists_foldlM_insert_of_nodup`, `foldlM_insert_eq_error_iff`: several;
* `ofRecords_eq_ok`, `ofRecords_eq_error_iff`: a collection that is made of a list of records.
-/

namespace PagedQuery.Collection

/-- A record that is put in fits and has an identifier that was not taken. It comes last. -/
theorem insert_eq_ok {c d : Collection} {r : Record} (h : c.insert r = .ok d) :
    c.schema.validate r = .ok () ∧ r.id ∉ c.ids ∧ d.schema = c.schema ∧
      d.records.toList = c.records.toList ++ [r] := by
  rw [insert] at h
  split at h
  · cases h
  · next hadmitted =>
    split at h
    · cases h
    · next hnew =>
      cases h
      exact ⟨hadmitted, hnew, rfl, Array.toList_push⟩

theorem insert_of_taken {c : Collection} {r : Record} (hadmitted : c.schema.validate r = .ok ())
    (htaken : r.id ∈ c.ids) :
    c.insert r = .error (.duplicateRecord c.schema.entity r.id.toText) := by
  rw [insert]
  split
  · next h => cases hadmitted.symm.trans h
  · rw [dif_pos htaken]

theorem exists_insert_of_new {c : Collection} {r : Record}
    (hadmitted : c.schema.validate r = .ok ()) (hnew : r.id ∉ c.ids) : ∃ d, c.insert r = .ok d := by
  rw [insert]
  split
  · next h => cases hadmitted.symm.trans h
  · rw [dif_neg hnew]
    exact ⟨_, rfl⟩

theorem insert_of_not_admitted {c : Collection} {r : Record} {e : Error}
    (h : c.schema.validate r = .error e) : c.insert r = .error e := by
  rw [insert]
  split
  · next h' =>
    cases h.symm.trans h'
    rfl
  · next h' => cases h.symm.trans h'

theorem foldlM_insert_eq_ok {c d : Collection} {records : List Record}
    (h : records.foldlM insert c = .ok d) :
    d.schema = c.schema ∧ d.records.toList = c.records.toList ++ records := by
  induction records generalizing c with
  | nil =>
    cases h
    exact ⟨rfl, (List.append_nil _).symm⟩
  | cons r records ih =>
    obtain ⟨next, hnext, h⟩ := bind_eq_ok.1 h
    obtain ⟨-, -, hschema, hrecords⟩ := insert_eq_ok hnext
    obtain ⟨hschema', hrecords'⟩ := ih h
    refine ⟨hschema'.trans hschema, ?_⟩
    rw [hrecords', hrecords, List.append_assoc]
    rfl

/-- Records that fit and have identifiers of their own are put in, all of them. -/
theorem exists_foldlM_insert_of_nodup {c : Collection} {records : List Record}
    (hadmitted : ∀ r ∈ records, c.schema.validate r = .ok ())
    (hids : ((c.records.toList ++ records).map (·.id)).Nodup) :
    ∃ d, records.foldlM insert c = .ok d := by
  induction records generalizing c with
  | nil => exact ⟨c, rfl⟩
  | cons r records ih =>
    obtain ⟨hr, hrecords⟩ := List.forall_mem_cons.1 hadmitted
    have hnew : r.id ∉ c.ids := by
      rw [c.mem_ids]
      rw [List.map_append, List.nodup_append] at hids
      exact fun hmem => hids.2.2 _ hmem _ List.mem_cons_self rfl
    -- The record goes to the end, so the records before it and those to come keep their order.
    obtain ⟨d, hd⟩ := exists_insert_of_new hr hnew
    obtain ⟨-, -, hschema, hinserted⟩ := insert_eq_ok hd
    rw [List.foldlM_cons, hd, ok_bind]
    exact ih (by rwa [hschema]) (by rwa [hinserted, List.append_assoc])

/-- A record whose identifier is taken stops those that come behind it. -/
theorem foldlM_insert_of_taken {c : Collection} {before rest : List Record} {r : Record}
    (hadmitted : ∀ s ∈ before ++ r :: rest, c.schema.validate s = .ok ())
    (hids : ((c.records.toList ++ before).map (·.id)).Nodup)
    (htaken : r.id ∈ (c.records.toList ++ before).map (·.id)) :
    (before ++ r :: rest).foldlM insert c =
      .error (.duplicateRecord c.schema.entity r.id.toText) := by
  obtain ⟨d, hd⟩ := exists_foldlM_insert_of_nodup
    (fun s hs => hadmitted s (List.mem_append_left _ hs)) hids
  obtain ⟨hschema, hrecords⟩ := foldlM_insert_eq_ok hd
  have hr : d.schema.validate r = .ok () :=
    hschema ▸ hadmitted r (List.mem_append_right _ List.mem_cons_self)
  have hfails := insert_of_taken hr ((d.mem_ids r.id).2 (hrecords ▸ htaken))
  rw [List.foldlM_append, hd, ok_bind, List.foldlM_cons, hfails, hschema]
  rfl

/-- Records that fit are stopped by the first one whose identifier is taken, be it by a record that
    was there or by one that was put in before. -/
theorem foldlM_insert_eq_error_iff {c : Collection} {records : List Record} {e : Error}
    (hadmitted : ∀ r ∈ records, c.schema.validate r = .ok ()) :
    records.foldlM insert c = .error e ↔ ∃ before r rest, records = before ++ r :: rest ∧
      ((c.records.toList ++ before).map (·.id)).Nodup ∧
      r.id ∈ (c.records.toList ++ before).map (·.id) ∧
      e = .duplicateRecord c.schema.entity r.id.toText := by
  constructor
  · intro herror
    induction records generalizing c with
    | nil => cases herror
    | cons r records ih =>
      obtain ⟨hr, hrecords⟩ := List.forall_mem_cons.1 hadmitted
      by_cases htaken : r.id ∈ c.ids
      · rw [List.foldlM_cons, insert_of_taken hr htaken] at herror
        cases herror
        refine ⟨[], r, records, rfl, ?_, ?_, rfl⟩
        · rw [List.append_nil]
          exact c.ids_distinct
        · rw [List.append_nil]
          exact (c.mem_ids r.id).1 htaken
      · obtain ⟨d, hd⟩ := exists_insert_of_new hr htaken
        obtain ⟨-, -, hschema, hinserted⟩ := insert_eq_ok hd
        rw [List.foldlM_cons, hd, ok_bind] at herror
        obtain ⟨before, s, rest, rfl, hids, htaken, rfl⟩ := ih (by rwa [hschema]) herror
        rw [hinserted, List.append_assoc] at hids htaken
        exact ⟨r :: before, s, rest, rfl, hids, htaken, by rw [hschema]⟩
  · rintro ⟨before, r, rest, rfl, hids, htaken, rfl⟩
    exact foldlM_insert_of_taken hadmitted hids htaken

/-- A collection that is made of a list of records has these records, in this order. -/
theorem ofRecords_eq_ok {schema : Schema} {records : List Record} {c : Collection}
    (h : ofRecords schema records = .ok c) : c.schema = schema ∧ c.records.toList = records :=
  foldlM_insert_eq_ok h

theorem ofRecords_eq_error_iff {schema : Schema} {records : List Record} {e : Error}
    (hadmitted : ∀ r ∈ records, schema.Admits r) :
    ofRecords schema records = .error e ↔ ∃ before r rest, records = before ++ r :: rest ∧
      (before.map (·.id)).Nodup ∧ r.id ∈ before.map (·.id) ∧
      e = .duplicateRecord schema.entity r.id.toText :=
  foldlM_insert_eq_error_iff (c := empty schema) fun r hr =>
    Schema.validate_eq_ok_iff.2 (hadmitted r hr)

end PagedQuery.Collection
