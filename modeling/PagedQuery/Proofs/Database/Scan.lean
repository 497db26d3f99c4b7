import Mathlib
import PagedQuery.Database.Basic
import PagedQuery.Proofs.Outcome

/-!
# Reading records off the join

The rows that a record has in the join of the records with their values stand together, so what is
read off the join is one record for each row of a record (`Database.scan_eq`). That needs neighbours
to have different identifiers, for otherwise the second would be taken for more of the first.
-/

namespace PagedQuery.Database

/-- The record of a row, with the values that are kept for it. -/
def recordOfRow (db : Database) (schema : Schema) (row : RecordRow) : Except Error Record := do
  let id ← RecordId.ofCell row.identity
  let attributes ← (db.valueRows row.entity row.identity).mapM (valueOfRow schema)
  return .ofList id attributes

/-- A record with bindings put into it, one after the other. -/
def bindAll (r : Record) (bindings : List (String × Value)) : Record :=
  { r with attributes := bindings.foldl (fun m (name, v) => m.insert name v) r.attributes }

variable {schema : Schema} {identity : Cell} {id : RecordId} {records before : List Record}
  {r : Record}

theorem resume_self (r : Record) (before : List Record) : resume r.id (r :: before) = (r, before) :=
  if_pos rfl

theorem resume_new (hnew : ∀ latest ∈ records.head?, latest.id ≠ id) :
    resume id records = (⟨id, .empty⟩, records) := by
  cases records with
  | nil => rfl
  | cons latest before => exact if_neg (hnew latest rfl)

theorem readJoined_none (hid : RecordId.ofCell identity = .ok id)
    (hresume : resume id records = (r, before)) :
    readJoined schema records ⟨identity, none⟩ = .ok (r :: before) := by
  rw [readJoined, hid]
  show Except.ok ((resume id records).1 :: (resume id records).2) = _
  rw [hresume]

theorem readJoined_some (hid : RecordId.ofCell identity = .ok id)
    (hresume : resume id records = (r, before)) (value : ValueRow) :
    readJoined schema records ⟨identity, some value⟩ =
      (valueOfRow schema value).map fun binding => bindAll r [binding] :: before := by
  rw [readJoined, hid]
  show ((valueOfRow schema value).bind fun (name, v) => .ok (
    { (resume id records).1 with attributes := (resume id records).1.attributes.insert name v } ::
      (resume id records).2)) = _
  rw [hresume]
  cases valueOfRow schema value <;> rfl

/-- The rows of the values of a record add them to it. -/
theorem foldlM_readJoined_map (hid : RecordId.ofCell identity = .ok r.id) (values : List ValueRow) :
    (values.map fun value => ⟨identity, some value⟩).foldlM (readJoined schema) (r :: before) =
      (values.mapM (valueOfRow schema)).map fun bindings => bindAll r bindings :: before := by
  induction values generalizing r with
  | nil => rfl
  | cons value values ih =>
    rw [List.map_cons, List.foldlM_cons, List.mapM_cons, readJoined_some hid (resume_self r before)]
    cases valueOfRow schema value with
    | error e => rfl
    | ok binding =>
      show List.foldlM _ (bindAll r [binding] :: before) _ = _
      rw [ih (r := bindAll r [binding]) hid]
      show _ = Except.map _
        ((values.mapM (valueOfRow schema)).bind fun rest => .ok (binding :: rest))
      cases values.mapM (valueOfRow schema) <;> rfl

/-- The first row of a record begins it with no attributes. -/
theorem readJoined_begin (hid : RecordId.ofCell identity = .ok id)
    (hnew : ∀ latest ∈ records.head?, latest.id ≠ id) (value : ValueRow) :
    readJoined schema records ⟨identity, some value⟩ =
      readJoined schema (⟨id, .empty⟩ :: records) ⟨identity, some value⟩ := by
  rw [readJoined_some hid (resume_new hnew), readJoined_some hid (resume_self ⟨id, .empty⟩ records)]

/-- The rows of a record that is not the latest one add it to the records. -/
theorem foldlM_readJoined (db : Database) (row : RecordRow)
    (hnew : ∀ latest ∈ records.head?, RecordId.ofCell row.identity ≠ .ok latest.id) :
    (db.joinedRowsOf row).foldlM (readJoined schema) records =
      (db.recordOfRow schema row).map (· :: records) := by
  rw [joinedRowsOf, recordOfRow]
  cases hid : RecordId.ofCell row.identity with
  | error e =>
    -- An identifier that cannot be read fails in the first row, with a value or without.
    cases db.valueRows row.entity row.identity with
    | nil =>
      rw [List.foldlM_cons, readJoined, hid]
      rfl
    | cons value values =>
      show List.foldlM _ _ (_ :: _) = _
      rw [List.foldlM_cons, readJoined, hid]
      rfl
  | ok id =>
    -- The identifier is new, so the first row begins a record and the others add to it.
    have hne : ∀ latest ∈ records.head?, latest.id ≠ id := by
      rintro latest hlatest rfl
      exact hnew latest hlatest hid
    cases db.valueRows row.entity row.identity with
    | nil =>
      rw [List.foldlM_cons, readJoined_none hid (resume_new hne)]
      rfl
    | cons value values =>
      show List.foldlM _ _ (_ :: _) =
        Except.map _ (((value :: values).mapM (valueOfRow schema)).bind fun bindings =>
          .ok (Record.ofList id bindings))
      rw [List.foldlM_cons, readJoined_begin hid hne, ← List.foldlM_cons]
      refine (foldlM_readJoined_map (r := ⟨id, .empty⟩) hid (value :: values)).trans ?_
      cases (value :: values).mapM (valueOfRow schema) <;> rfl

theorem recordOfRow_id {db : Database} {row : RecordRow} (h : db.recordOfRow schema row = .ok r) :
    RecordId.ofCell row.identity = .ok r.id := by
  obtain ⟨id, hid, h⟩ := bind_eq_ok.1 h
  obtain ⟨bindings, -, h⟩ := bind_eq_ok.1 h
  cases h
  exact hid

theorem foldlM_joinedRows (db : Database) (rows : List RecordRow)
    (hchain : rows.IsChain fun a b => RecordId.ofCell a.identity ≠ RecordId.ofCell b.identity)
    (hnew : ∀ row ∈ rows.head?, ∀ latest ∈ records.head?,
      RecordId.ofCell row.identity ≠ .ok latest.id) :
    (rows.flatMap db.joinedRowsOf).foldlM (readJoined schema) records =
      (rows.mapM (db.recordOfRow schema)).map fun read => read.reverse ++ records := by
  induction rows generalizing records with
  | nil => rfl
  | cons row rows ih =>
    rw [List.flatMap_cons, List.foldlM_append, foldlM_readJoined db row (hnew row rfl),
      List.mapM_cons]
    cases hr : db.recordOfRow schema row with
    | error e => rfl
    | ok r =>
      -- The record just read is now the latest, and the next row has another identifier.
      have hnext : ∀ next ∈ rows.head?, ∀ latest ∈ (r :: records).head?,
          RecordId.ofCell next.identity ≠ .ok latest.id := by
        rintro next hnext _ ⟨⟩ heq
        rw [← recordOfRow_id hr] at heq
        exact (List.isChain_cons.1 hchain).1 next hnext heq.symm
      show List.foldlM _ (r :: records) _ =
        Except.map _ ((rows.mapM (db.recordOfRow schema)).bind fun rest => .ok (r :: rest))
      rw [ih hchain.tail hnext]
      cases rows.mapM (db.recordOfRow schema) with
      | error e => rfl
      | ok rest => simp [Except.map, Except.bind]

/-- Where neighbours have different identifiers, each row of a record is one record. -/
theorem scan_eq (db : Database) (schema : Schema)
    (h : (db.recordRows schema.entity).IsChain fun a b =>
      RecordId.ofCell a.identity ≠ RecordId.ofCell b.identity) :
    db.scan schema = (db.recordRows schema.entity).mapM (db.recordOfRow schema) := by
  rw [scan, joinedRows, foldlM_joinedRows db _ h (fun _ _ _ => by rintro ⟨⟩)]
  cases (db.recordRows schema.entity).mapM (db.recordOfRow schema) with
  | error e => rfl
  | ok records =>
    show Except.ok (records.reverse ++ []).reverse = _
    rw [List.append_nil, List.reverse_reverse]

/-- A source that can be read has the schema of its entity and the records that a scan gives. -/
theorem source_eq_ok_iff {db : Database} {entity : String} :
    db.source entity = .ok ⟨schema, .ok records⟩ ↔
      db.schema entity = .ok schema ∧ db.scan schema = .ok records := by
  constructor
  · intro h
    obtain ⟨_, hschema, heq⟩ := bind_eq_ok.1 h
    injection Except.ok.inj heq with hsame hscan
    subst hsame
    exact ⟨hschema, hscan⟩
  · rintro ⟨hschema, hscan⟩
    rw [source, hschema, ok_bind, hscan]
    rfl

end PagedQuery.Database
