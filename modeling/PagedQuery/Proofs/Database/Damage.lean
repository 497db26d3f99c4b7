import Mathlib
import PagedQuery.Database.Statements
import PagedQuery.Proofs.Reading
import PagedQuery.Proofs.Store.Run

/-!
# Damaged tables

Whatever the tables hold, what is read from them fits, or reading fails. A schema is read only where
the rows declare one that is well formed (`Statements.schema_eq_ok_iff`). Records are read only
where every row is fetched and has an identifier and, if it has a name, the name of a declared
attribute and something that is a value of its kind (`Statements.exists_scan_iff`); and each
attribute of a record that is read comes from one of these rows (`Statements.isBacked_of_scan`), so
that the record fits. No column is trusted to hold what it is meant for.

* `Column.Holds`: which values of a kind the contents of a column are;
* `Statements.Declares`, `RecordColumns.Fits`: rows from which a schema and a record can be read;
* `Record.IsBacked`: each attribute of a record stands in a row;
* `Database.schema_statements`, `Database.scan_statements`: a database is read as its rows are;
* `reading_fits_or_fails`: the main result.
-/

namespace PagedQuery

/-! ## Columns -/

namespace Column

variable {c : Column} {place name : String}

theorem text_eq_ok_iff {s : String} : c.text place name = .ok s ↔ c = .cell (.text s) := by
  cases c with
  | garbled fault => exact ⟨nofun, nofun⟩
  | cell c => cases c <;> simp [text]

/-- A column that may be empty holds a text, or else nothing. -/
theorem text?_eq_ok_iff {s? : Option String} :
    c.text? place name = .ok s? ↔ c = .cell (s?.elim .null .text) := by
  cases c with
  | garbled fault => exact ⟨nofun, nofun⟩
  | cell c => cases c <;> cases s? <;> simp [text?, text, Except.map]

theorem int_eq_ok_iff {n : Int64} : c.int place name = .ok n ↔ c = .cell (.int n) := by
  cases c with
  | garbled fault => exact ⟨nofun, nofun⟩
  | cell c => cases c <;> simp [int]

theorem identity_eq_ok_iff {id : RecordId} : c.identity = .ok id ↔ c = .cell id.toCell := by
  cases c with
  | garbled fault => exact ⟨nofun, nofun⟩
  | cell c => cases c <;> cases id <;> simp [identity, RecordId.ofCell, RecordId.toCell]

/-- What a column holds is null or, where a value of this kind can be kept like that, the value. -/
inductive Holds : Column → Kind → Value → Prop
  | null (kind : Kind) : Holds (.cell .null) kind .null
  | boolean (n : Int64) : Holds (.cell (.int n)) .boolean (.boolean (n != 0))
  | integer (n : Int64) : Holds (.cell (.int n)) .integer (.integer n)
  | text {kind : Kind} {s : String} {v : Value} : kind ≠ .boolean → kind ≠ .integer →
      Value.parse? kind s = some v → Holds (.cell (.text s)) kind v

/-- A column that holds a value of a kind holds null or a value that is of this kind. -/
theorem Holds.eq_null_or_kind? {kind : Kind} {v : Value} (h : c.Holds kind v) :
    v = .null ∨ v.kind? = some kind := by
  cases h with
  | null => exact .inl rfl
  | boolean n | integer n => exact .inr rfl
  | text _ _ hparse => exact .inr (Value.kind?_of_parse? hparse)

theorem value_eq_ok_iff {kind : Kind} {v : Value} : c.value kind = .ok v ↔ c.Holds kind v := by
  constructor
  · intro h
    cases c with
    | garbled fault => cases kind <;> cases h
    | cell c =>
      rw [value, Value.ofCell.eq_def] at h
      split at h
      · cases h
        exact .null kind
      · cases h
        exact .boolean _
      · cases h
        exact .integer _
      · cases h
      · cases h
      · next hboolean hinteger =>
        split at h
        · next hparse =>
          cases h
          exact .text hboolean hinteger hparse
        · cases h
      · cases h
  · intro h
    cases h with
    | null => rfl
    | boolean n | integer n => rfl
    | text hboolean hinteger hparse => exact Value.ofCell_text hboolean hinteger hparse

end Column

/-! ## Schemas -/

/-- A kind is found under its number, and under no other. -/
theorem Kind.ofNumber?_eq_some_iff {n : ℕ} {kind : Kind} :
    Kind.ofNumber? n = some kind ↔ kind.number = n := by
  constructor
  · intro h
    simpa using List.find?_some h
  · rintro rfl
    exact Kind.ofNumber?_number kind

theorem Database.attributeOfRow_eq_ok_iff {row : AttributeRow} {a : Attribute} :
    attributeOfRow row = .ok a ↔ row.name = a.name ∧ row.kindNumber = a.kind.number := by
  constructor
  · intro h
    rw [attributeOfRow] at h
    split at h
    · cases h
    · next hrange =>
      split at h
      · next kind hkind =>
        cases h
        have hnumber := Kind.ofNumber?_eq_some_iff.1 hkind
        refine ⟨rfl, ?_⟩
        show row.kindNumber = kind.number
        omega
      · cases h
  · rintro ⟨hname, hnumber⟩
    have hrange : ¬((a.kind.number : ℤ) < 0 ∨ (255 : ℤ) < a.kind.number) := by
      cases a.kind <;> decide
    rw [attributeOfRow]
    simp only [hname, hnumber, if_neg hrange, Int.toNat_natCast, Kind.ofNumber?_number]

/-- A row declares an attribute: it has the name for a text and the number of the kind for an
    integer. -/
def AttributeColumns.Declares (columns : AttributeColumns) (a : Attribute) : Prop :=
  columns.name = .cell (.text a.name) ∧
    ∃ n : Int64, columns.kindNumber = .cell (.int n) ∧ n.toInt = a.kind.number

namespace Statements

variable {t : Statements} {entity : String} {s : Schema}

/-- The rows declare a schema: its identifier comes first among those that are found, and its
    attributes are the ones of the rows, all of which can be read. -/
structure Declares (t : Statements) (s : Schema) : Prop where
  identifier : (t.identifiers s.entity).head? = some (.ok (.cell (.text s.identifier)))
  attributes : List.Forall₂ (fun row a => ∃ columns : AttributeColumns,
    row = .ok columns ∧ columns.Declares a) (t.attributes s.entity) s.attributes

theorem attributeOf_eq_ok_iff {columns : AttributeColumns} {a : Attribute} :
    attributeOf entity columns = .ok a ↔ columns.Declares a := by
  constructor
  · intro h
    obtain ⟨name, hname, h⟩ := bind_eq_ok.1 h
    obtain ⟨n, hn, h⟩ := bind_eq_ok.1 h
    obtain ⟨rfl, hnumber⟩ := Database.attributeOfRow_eq_ok_iff.1 h
    exact ⟨Column.text_eq_ok_iff.1 hname, n, Column.int_eq_ok_iff.1 hn, hnumber⟩
  · rintro ⟨hname, n, hn, hnumber⟩
    refine bind_eq_ok.2 ⟨a.name, Column.text_eq_ok_iff.2 hname, ?_⟩
    refine bind_eq_ok.2 ⟨n, Column.int_eq_ok_iff.2 hn, ?_⟩
    exact Database.attributeOfRow_eq_ok_iff.2 ⟨rfl, hnumber⟩

theorem mapM_attributeOf_eq_ok_iff {rows : List (Except Error AttributeColumns)}
    {attributes : List Attribute} :
    (rows.mapM fun row => row >>= attributeOf entity) = .ok attributes ↔
      List.Forall₂ (fun row a => ∃ columns : AttributeColumns,
        row = .ok columns ∧ columns.Declares a) rows attributes := by
  simp only [mapM_eq_ok_iff, bind_eq_ok, attributeOf_eq_ok_iff]

theorem schema?_eq_ok_some_iff :
    t.schema? entity = .ok (some s) ↔ s.entity = entity ∧ t.Declares s := by
  constructor
  · intro h
    rw [schema?] at h
    split at h
    · cases h
    · next row rest hrows =>
      obtain ⟨column, hcolumn, h⟩ := bind_eq_ok.1 h
      obtain ⟨identifier, hidentifier, h⟩ := bind_eq_ok.1 h
      obtain ⟨attributes, hattributes, h⟩ := bind_eq_ok.1 h
      obtain ⟨s', hs, h⟩ := bind_eq_ok.1 h
      cases h
      obtain ⟨rfl, rfl, rfl⟩ := Schema.declare_eq_ok hs
      rw [Column.text_eq_ok_iff] at hidentifier
      refine ⟨rfl, ?_, mapM_attributeOf_eq_ok_iff.1 hattributes⟩
      rw [hrows, hcolumn, hidentifier]
      rfl
  · rintro ⟨rfl, hidentifier, hattributes⟩
    obtain ⟨rest, hrows⟩ := List.head?_eq_some_iff.1 hidentifier
    simp only [schema?, hrows, ok_bind, Column.text_eq_ok_iff.2 rfl,
      mapM_attributeOf_eq_ok_iff.2 hattributes, Schema.declare_self]
    rfl

/-- A schema is read where the rows declare it, and nowhere else. -/
theorem schema_eq_ok_iff : t.schema entity = .ok s ↔ s.entity = entity ∧ t.Declares s := by
  rw [schema, bind_eq_ok, ← schema?_eq_ok_some_iff]
  constructor
  · rintro ⟨_ | s', hs, h⟩
    · cases h
    · cases h
      exact hs
  · exact fun h => ⟨some s, h, rfl⟩

end Statements

/-! ## Records -/

/-- A row fits a schema: it has an identifier and, unless it has no name, the name of an attribute
    that the schema declares, with a value of its kind. -/
def RecordColumns.Fits (columns : RecordColumns) (s : Schema) : Prop :=
  (∃ id : RecordId, columns.identity = .cell id.toCell) ∧
    (columns.name = .cell .null ∨ ∃ name a v, columns.name = .cell (.text name) ∧
      s.attribute? name = some a ∧ columns.value.Holds a.kind v)

/-- A record is backed by rows: its identifier stands in one, and each of its attributes in one with
    this identifier, as a value of the kind that the schema declares. -/
structure Record.IsBacked (r : Record) (s : Schema) (rows : List (Except Error RecordColumns)) :
    Prop where
  identity : ∃ columns, .ok columns ∈ rows ∧ columns.identity = .cell r.id.toCell
  value : ∀ name v, (name, v) ∈ r.attributes.toList → ∃ columns a, .ok columns ∈ rows ∧
    columns.identity = .cell r.id.toCell ∧ columns.name = .cell (.text name) ∧
      s.attribute? name = some a ∧ columns.value.Holds a.kind v

/-- A record that is backed by rows fits. -/
theorem Record.IsBacked.admits {r : Record} {s : Schema}
    {rows : List (Except Error RecordColumns)} (h : r.IsBacked s rows) : s.Admits r := by
  intro name v hv
  obtain ⟨columns, a, -, -, -, ha, hholds⟩ := h.value name v hv
  refine ⟨a, ha, ?_⟩
  rcases hholds.eq_null_or_kind? with rfl | hkind
  · exact .inl rfl
  · exact .inr hkind

/-- The record that is resumed has the identifier, and is one of those read so far or without
    attributes; the others were read before. -/
theorem Database.resume_cases {id : RecordId} {records before : List Record} {latest : Record}
    (h : resume id records = (latest, before)) :
    latest.id = id ∧ (∀ r ∈ before, r ∈ records) ∧
      (latest ∈ records ∨ latest = ⟨id, .empty⟩) := by
  cases records with
  | nil =>
    cases h
    exact ⟨rfl, nofun, .inr rfl⟩
  | cons first rest =>
    rw [resume] at h
    split at h
    · next hid =>
      cases h
      exact ⟨hid, fun r hr => List.mem_cons_of_mem _ hr, .inl List.mem_cons_self⟩
    · cases h
      exact ⟨rfl, fun r hr => hr, .inr rfl⟩

namespace Statements

variable {t : Statements} {s : Schema} {records read : List Record} {columns : RecordColumns}
  {rows all : List (Except Error RecordColumns)}

theorem valueOf_eq_ok_iff {name : String} {column : Column} {v : Value} :
    valueOf s name column = .ok v ↔ ∃ a, s.attribute? name = some a ∧ column.Holds a.kind v := by
  rw [valueOf]
  split
  · next h => simp [h]
  · next a h => simp [h, Column.value_eq_ok_iff]

/-- A row is read if it fits, whatever was read before. -/
theorem exists_readRow_iff : (∃ read, readRow s records columns = .ok read) ↔ columns.Fits s := by
  constructor
  · rintro ⟨read, h⟩
    obtain ⟨id, hid, h⟩ := bind_eq_ok.1 h
    obtain ⟨name?, hname, h⟩ := bind_eq_ok.1 h
    rw [Column.text?_eq_ok_iff] at hname
    refine ⟨⟨id, Column.identity_eq_ok_iff.1 hid⟩, ?_⟩
    cases name? with
    | none => exact .inl hname
    | some name =>
      obtain ⟨v, hv, -⟩ := bind_eq_ok.1 h
      obtain ⟨a, ha, hholds⟩ := valueOf_eq_ok_iff.1 hv
      exact .inr ⟨name, a, v, hname, ha, hholds⟩
  · rintro ⟨⟨id, hid⟩, hname⟩
    rw [readRow, Column.identity_eq_ok_iff.2 hid, ok_bind]
    rcases hname with hname | ⟨name, a, v, hname, ha, hholds⟩
    · have hnone : columns.name.text? "1" "Attribute" = .ok none := Column.text?_eq_ok_iff.2 hname
      rw [hnone]
      exact ⟨_, rfl⟩
    · have hsome : columns.name.text? "1" "Attribute" = .ok (some name) :=
        Column.text?_eq_ok_iff.2 hname
      rw [hsome]
      dsimp only [ok_bind]
      rw [valueOf_eq_ok_iff.2 ⟨a, ha, hholds⟩]
      exact ⟨_, rfl⟩

/-- A row that is among others leaves the records backed by them. -/
theorem isBacked_of_readRow (h : readRow s records columns = .ok read) (hrow : .ok columns ∈ all)
    (hrecords : ∀ r ∈ records, r.IsBacked s all) : ∀ r ∈ read, r.IsBacked s all := by
  obtain ⟨id, hid, h⟩ := bind_eq_ok.1 h
  rcases hresume : Database.resume id records with ⟨latest, before⟩
  rw [hresume] at h
  obtain ⟨name?, hname, h⟩ := bind_eq_ok.1 h
  rw [Column.identity_eq_ok_iff] at hid
  rw [Column.text?_eq_ok_iff] at hname
  obtain ⟨rfl, hbefore, hlatest⟩ := Database.resume_cases hresume
  -- The record that the row belongs to was backed, or is backed now that its identifier is found.
  have hbacked : latest.IsBacked s all := by
    rcases hlatest with hmem | hnew
    · exact hrecords latest hmem
    · refine ⟨⟨columns, hrow, hid⟩, ?_⟩
      rw [hnew]
      exact fun name v hv => absurd hv List.not_mem_nil
  have hrest : ∀ r ∈ before, r.IsBacked s all := fun r hr => hrecords r (hbefore r hr)
  cases name? with
  | none =>
    cases h
    exact List.forall_mem_cons.2 ⟨hbacked, hrest⟩
  | some name =>
    obtain ⟨v, hv, h⟩ := bind_eq_ok.1 h
    cases h
    obtain ⟨a, ha, hholds⟩ := valueOf_eq_ok_iff.1 hv
    refine List.forall_mem_cons.2 ⟨⟨hbacked.identity, fun name' v' hmem => ?_⟩, hrest⟩
    rcases NameMap.mem_insertSorted hmem with heq | hmem
    · cases heq
      exact ⟨columns, a, hrow, hid, hname, ha, hholds⟩
    · exact hbacked.value name' v' hmem

/-- Rows are read if all of them are fetched and fit. -/
theorem exists_foldlM_readRow_iff :
    (∃ read, rows.foldlM (fun records row => row >>= readRow s records) records = .ok read) ↔
      ∀ row ∈ rows, ∃ columns : RecordColumns, row = .ok columns ∧ columns.Fits s := by
  induction rows generalizing records with
  | nil => exact ⟨fun _ => nofun, fun _ => ⟨records, rfl⟩⟩
  | cons row rows ih =>
    rw [List.forall_mem_cons]
    constructor
    · rintro ⟨read, h⟩
      obtain ⟨next, hnext, h⟩ := bind_eq_ok.1 h
      obtain ⟨columns, hrow, hread⟩ := bind_eq_ok.1 hnext
      exact ⟨⟨columns, hrow, exists_readRow_iff.1 ⟨next, hread⟩⟩, ih.1 ⟨read, h⟩⟩
    · rintro ⟨⟨columns, rfl, hfits⟩, hrows⟩
      obtain ⟨next, hnext⟩ := exists_readRow_iff.2 hfits
      obtain ⟨read, hread⟩ := ih.2 hrows
      exact ⟨read, bind_eq_ok.2 ⟨next, hnext, hread⟩⟩

/-- Rows that are read leave the records backed. -/
theorem isBacked_of_foldlM_readRow
    (h : rows.foldlM (fun records row => row >>= readRow s records) records = .ok read)
    (hrows : ∀ row ∈ rows, row ∈ all) (hrecords : ∀ r ∈ records, r.IsBacked s all) :
    ∀ r ∈ read, r.IsBacked s all := by
  induction rows generalizing records with
  | nil =>
    cases h
    exact hrecords
  | cons row rows ih =>
    obtain ⟨hrow, hrest⟩ := List.forall_mem_cons.1 hrows
    obtain ⟨next, hnext, hread⟩ := bind_eq_ok.1 h
    obtain ⟨columns, rfl, hstep⟩ := bind_eq_ok.1 hnext
    exact ih hread hrest (isBacked_of_readRow hstep hrow hrecords)

/-- Records are read where all the rows are fetched and fit, and nowhere else. -/
theorem exists_scan_iff : (∃ records, t.scan s = .ok records) ↔
    ∀ row ∈ t.records s.entity, ∃ columns : RecordColumns, row = .ok columns ∧ columns.Fits s := by
  rw [← @exists_foldlM_readRow_iff s []]
  constructor
  · rintro ⟨records, h⟩
    obtain ⟨read, hread, -⟩ := bind_eq_ok.1 h
    exact ⟨read, hread⟩
  · rintro ⟨read, hread⟩
    exact ⟨read.reverse, bind_eq_ok.2 ⟨read, hread, rfl⟩⟩

/-- The records that are read are backed by the rows. -/
theorem isBacked_of_scan (h : t.scan s = .ok records) :
    ∀ r ∈ records, r.IsBacked s (t.records s.entity) := by
  obtain ⟨read, hread, hrecords⟩ := bind_eq_ok.1 h
  cases hrecords
  intro r hr
  exact isBacked_of_foldlM_readRow hread (fun row hrow => hrow) nofun r (List.mem_reverse.1 hr)

end Statements

/-! ## Databases -/

namespace Database

variable {db : Database} {entity : String}

theorem attributeOf_attributeColumns {row : AttributeRow} {n : Int64}
    (h : row.kindNumber = n.toInt) :
    Statements.attributeOf entity (attributeColumns row) = attributeOfRow row := by
  rw [attributeColumns, h, Int64.ofInt_toInt]
  show attributeOfRow { entity, name := row.name, ordinal := 0, kindNumber := n.toInt } = _
  rw [← h]
  rfl

/-- The schema of an entity is read from a database as it is from its rows. -/
theorem schema_statements (h : ∀ row ∈ db.attributes, ∃ n : Int64, row.kindNumber = n.toInt) :
    db.statements.schema entity = db.schema entity := by
  have hrows : ∀ row ∈ db.attributeRows entity,
      Statements.attributeOf entity (attributeColumns row) = attributeOfRow row := by
    intro row hrow
    rw [attributeRows, List.mem_mergeSort] at hrow
    obtain ⟨n, hn⟩ := h row (List.mem_of_mem_filter hrow)
    exact attributeOf_attributeColumns hn
  have hattributes : ((db.statements.attributes entity).mapM fun row =>
      row >>= Statements.attributeOf entity) = (db.attributeRows entity).mapM attributeOfRow :=
    mapM_map_eq hrows
  have hidentifiers : db.statements.identifiers entity =
      (db.entities.filter (·.entity = entity)).map fun row => .ok (.cell (.text row.identifier)) :=
    rfl
  have hschema : db.statements.schema? entity = db.schema? entity := by
    rw [Statements.schema?, hattributes, hidentifiers, schema?, ← List.head?_filter]
    cases db.entities.filter (·.entity = entity) with
    | nil => rfl
    | cons row rest => rfl
  rw [Statements.schema, hschema]
  rfl

theorem readRow_recordColumns (s : Schema) (records : List Record) (row : JoinedRow) :
    Statements.readRow s records (recordColumns row) = readJoined s records row := by
  obtain ⟨identity, value?⟩ := row
  rw [Statements.readRow, readJoined]
  cases value? with
  | none => rfl
  | some value =>
    have hvalue : valueOfRow s value =
        (Statements.valueOf s value.name (.cell value.cell)).map (value.name, ·) := by
      rw [Statements.valueOf, valueOfRow]
      cases s.attribute? value.name <;> rfl
    simp only [hvalue]
    show (RecordId.ofCell identity >>= fun id =>
      Statements.valueOf s value.name (.cell value.cell) >>= fun v => _) = _
    cases Statements.valueOf s value.name (.cell value.cell) <;> rfl

/-- The records of an entity are read from a database as they are from its rows. -/
theorem scan_statements (s : Schema) : db.statements.scan s = db.scan s := by
  rw [Statements.scan, scan, statements, List.foldlM_map]
  simp only [ok_bind, readRow_recordColumns]

end Database

/-- A schema is well formed if its names are valid and distinct and its kinds have numbers, and if
    what it is made of is accepted. -/
structure Schema.IsWellFormed (s : Schema) : Prop where
  names_valid : ∀ name ∈ s.entity :: s.identifier :: s.attributes.map (·.name),
    isValidName name = true
  names_distinct : (s.identifier :: s.attributes.map (·.name)).Nodup
  kinds_known : ∀ a ∈ s.attributes, Kind.ofNumber? a.kind.number = some a.kind
  accepted : Schema.declare s.entity s.identifier s.attributes = .ok s

/-- Whatever the rows hold, a schema is read just where they declare it, and it is well formed;
    records are read just where all the rows are fetched and fit, and each of them has attributes
    only that are declared and come from the rows, null or of the kind that is declared. A database
    whose numbers are such as a cell can hold is read as its rows are. -/
theorem reading_fits_or_fails (t : Statements) (entity : String) :
    (∀ s : Schema, t.schema entity = .ok s ↔ s.entity = entity ∧ t.Declares s) ∧
    (∀ s : Schema, t.schema entity = .ok s → s.IsWellFormed) ∧
    (∀ source, t.source entity = .ok source ↔
      t.schema entity = .ok source.schema ∧ source.scan = t.scan source.schema) ∧
    (∀ s : Schema, (∃ records, t.scan s = .ok records) ↔
      ∀ row ∈ t.records s.entity, ∃ columns : RecordColumns, row = .ok columns ∧ columns.Fits s) ∧
    (∀ (s : Schema) (records : List Record), t.scan s = .ok records → ∀ r ∈ records,
      s.validate r = .ok () ∧ r.IsBacked s (t.records s.entity) ∧
      ∀ name v, (name, v) ∈ r.attributes.toList →
        ∃ a ∈ s.attributes, a.name = name ∧ (v = .null ∨ v.kind? = some a.kind)) ∧
    ∀ db : Database, (∀ s, db.statements.scan s = db.scan s) ∧
      ((∀ row ∈ db.attributes, ∃ n : Int64, row.kindNumber = n.toInt) →
        db.statements.schema entity = db.schema entity ∧
        db.statements.source entity = db.source entity) := by
  refine ⟨fun s => Statements.schema_eq_ok_iff, fun s _ => ?_, fun source => ?_,
    fun s => Statements.exists_scan_iff, fun s records h r hr => ?_,
    fun db => ⟨Database.scan_statements, fun hnumbers => ?_⟩⟩
  · exact ⟨s.names_valid, s.names_distinct, fun a _ => Kind.ofNumber?_number a.kind,
      Schema.declare_self s⟩
  · rw [Statements.source, bind_eq_ok]
    constructor
    · rintro ⟨s, hs, heq⟩
      cases heq
      exact ⟨hs, rfl⟩
    · rintro ⟨hs, hscan⟩
      exact ⟨source.schema, hs, by rw [← hscan]; rfl⟩
  · have hbacked := Statements.isBacked_of_scan h r hr
    refine ⟨Schema.validate_eq_ok_iff.2 hbacked.admits, hbacked, fun name v hv => ?_⟩
    obtain ⟨columns, a, -, -, -, ha, hholds⟩ := hbacked.value name v hv
    rw [Schema.attribute?] at ha
    exact ⟨a, List.mem_of_find?_eq_some ha, by simpa using List.find?_some ha,
      hholds.eq_null_or_kind?⟩
  · have hschema : db.statements.schema entity = db.schema entity :=
      Database.schema_statements hnumbers
    refine ⟨hschema, ?_⟩
    rw [Statements.source, Database.source, hschema]
    simp only [Database.scan_statements]

/-- Rows of offers, of which one has a blob without a name and two with one identifier stand
    apart. -/
def scatteredOffers : Statements where
  identifiers _ := [.ok (.cell (.text "OfferID"))]
  attributes _ := [.ok ⟨.cell (.text "Discount"), .cell (.int 3)⟩,
    .ok ⟨.cell (.text "MaxQty"), .cell (.int 2)⟩]
  records _ := [.ok ⟨.cell (.text "1"), .cell (.text "MaxQty"), .cell (.int 10)⟩,
    .ok ⟨.cell (.int 1), .cell .null, .cell (.blob [0])⟩,
    .ok ⟨.cell (.text "1"), .cell (.text "Discount"), .cell (.text "1.50")⟩]

/-- They are read as three records, all of which fit. -/
theorem scatteredOffers_fit : ∃ records, scatteredOffers.schema "Offer" = .ok threeOffers.schema ∧
    scatteredOffers.scan threeOffers.schema = .ok records ∧
    records.map (·.id) = [.text "1", .integer 1, .text "1"] ∧
    ∀ r ∈ records, threeOffers.schema.validate r = .ok () := by
  obtain ⟨-, -, -, -, hfits, -⟩ := reading_fits_or_fails scatteredOffers "Offer"
  have hscan : scatteredOffers.scan threeOffers.schema = .ok
      [.ofList (.text "1") [("MaxQty", .integer 10)], .ofList (.integer 1) [],
        .ofList (.text "1") [("Discount", .decimal ⟨150, 2⟩)]] := by rfl
  exact ⟨_, rfl, hscan, rfl, fun r hr => (hfits _ _ hscan r hr).1⟩

end PagedQuery
