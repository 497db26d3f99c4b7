import Mathlib
import PagedQuery.Proofs.Decimal.RoundTrip
import PagedQuery.Proofs.NameMap
import PagedQuery.Proofs.Outcome
import PagedQuery.Proofs.Record.Schema
import PagedQuery.Proofs.Text.Digits

/-!
# Reading what fits

A value that is read for a kind, from a text or from JSON, is of this kind or null, and so a record
that is read for a schema fits it.

A JSON object describes a record if the member that is named like the identifier stands for one, and
every other member is named like an attribute and stands for a value of its kind. The record has
exactly these values, and null is one of them: an attribute that is null in the object is bound to
null, and one that the object does not have is not bound. Of several members with one name the last
counts, which is why the members are a map here.

* `Value.kind?_of_parse?`: the kinds of values that are read from texts;
* `Json.Identifies`, `Json.Denotes`: what a JSON value stands for;
* `Schema.Describes`: the record that the members of an object stand for;
* `Schema.Misdescribed`: what is wrong with a JSON value that describes none;
* `Schema.recordOfJson_eq_ok_iff`, `Schema.recordOfJson_eq_error_iff`: reading decides the two;
* `Schema.admits_of_recordOfJson`: a record that is read from JSON fits.
-/

namespace PagedQuery

variable {s : Schema} {json : Json} {r : Record} {kind : Kind} {v : Value} {e : Error}

theorem Value.kind?_of_parse? {raw : String} (h : parse? kind raw = some v) :
    v.kind? = some kind := by
  cases kind with
  | text =>
    cases h
    rfl
  | boolean | integer | decimal | date | timestamp =>
    obtain ⟨_, -, rfl⟩ := Option.map_eq_some_iff.1 h
    rfl

/-! ## What JSON stands for -/

/-- The identifier that a JSON value stands for. -/
inductive Json.Identifies : Json → RecordId → Prop
  | integer (n : Int64) : Identifies (.integer n.toInt) (.integer n)
  | text (t : String) : Identifies (.string t) (.text t)

/-- The value of a kind that a JSON value stands for. Null is a value of every kind, and a decimal
    may also be written as a number. -/
inductive Json.Denotes : Json → Kind → Value → Prop
  | null (kind : Kind) : Denotes .null kind .null
  | boolean (b : Bool) : Denotes (.bool b) .boolean (.boolean b)
  | integer (n : Int64) : Denotes (.integer n.toInt) .integer (.integer n)
  | whole (n : ℤ) : Denotes (.integer n) .decimal (.decimal (.ofInt n))
  | double {x : Float} {d : Decimal} : Decimal.parse? (Json.doubleText x) = some d →
      Denotes (.double x) .decimal (.decimal d)
  | decimal {t : String} {d : Decimal} : Decimal.parse? t.toList = some d →
      Denotes (.string t) .decimal (.decimal d)
  | text (t : String) : Denotes (.string t) .text (.text t)
  | date {t : String} {d : Date} : Date.parse? (Text.trim t.toList) = some d →
      Denotes (.string t) .date (.date d)
  | timestamp {t : String} {i : Timestamp} : Timestamp.parse? (Text.trim t.toList) = some i →
      Denotes (.string t) .timestamp (.timestamp i)

/-- What JSON stands for is of the kind that it is read for, or null. -/
theorem Json.Denotes.kind? (h : json.Denotes kind v) : v.kind? = none ∨ v.kind? = some kind := by
  cases h with
  | null => exact .inl rfl
  | _ => exact .inr rfl

theorem Json.Denotes.eq_null_iff (h : json.Denotes kind v) :
    json = .null ↔ v = .null := by
  cases h <;> simp

theorem RecordId.ofJson?_eq_some_iff {i : RecordId} :
    ofJson? json = some i ↔ json.Identifies i := by
  constructor
  · intro h
    cases json with
    | integer n =>
      obtain ⟨i, hi, rfl⟩ := Option.map_eq_some_iff.1 h
      obtain rfl := Text.toInt64?_eq_some_iff.1 hi
      exact .integer i
    | string t =>
      cases h
      exact .text t
    | _ => cases h
  · rintro (n | t)
    · rw [ofJson?, Text.toInt64?_toInt]
      rfl
    · rfl

theorem Value.ofJson?_eq_some_iff : ofJson? kind json = some v ↔ json.Denotes kind v := by
  constructor
  · intro h
    unfold ofJson? at h
    split at h
    · cases h
      exact .null kind
    · split at h
      case h_1 =>
        cases h
        exact .boolean _
      case h_6 =>
        cases h
        exact .text _
      case h_9 => cases h
      case h_2 =>
        obtain ⟨i, hi, rfl⟩ := Option.map_eq_some_iff.1 h
        obtain rfl := Text.toInt64?_eq_some_iff.1 hi
        exact .integer i
      all_goals
        obtain ⟨_, hparse, rfl⟩ := Option.map_eq_some_iff.1 h
      · obtain rfl := Option.some_inj.1 ((Decimal.parse?_integerText _).symm.trans hparse)
        exact .whole _
      · exact .double hparse
      · exact .decimal hparse
      · exact .date hparse
      · exact .timestamp hparse
  · intro h
    cases h <;> simp [ofJson?, parse?, Text.toInt64?_toInt, Decimal.parse?_integerText, *]

/-! ## Records -/

/-- The record that the members of an object stand for. -/
structure Schema.Describes (s : Schema) (members : NameMap Json) (r : Record) : Prop where
  id : ∃ member, members.get? s.identifier = some member ∧ member.Identifies r.id
  attributes : ∀ name v, r.attributes.get? name = some v ↔ name ≠ s.identifier ∧
    ∃ member, members.get? name = some member ∧
      ∃ a ∈ s.attributes, a.name = name ∧ member.Denotes a.kind v
  /-- No member is left out. -/
  complete : ∀ name member, name ≠ s.identifier → members.get? name = some member →
    ∃ v, r.attributes.get? name = some v

/-- What is wrong with a member that is not the identifier: it is not declared, or stands for no
    value of the kind that is declared. -/
inductive Schema.Misplaced (s : Schema) (name : String) (member : Json) : Error → Prop
  | undeclared : (∀ a ∈ s.attributes, a.name ≠ name) →
      s.Misplaced name member (.unknownAttribute s.entity name)
  | unconvertible {a : Attribute} : a ∈ s.attributes → a.name = name →
      (∀ v, ¬member.Denotes a.kind v) →
      s.Misplaced name member (.kindMismatch name a.kind member.compact)

/-- What is wrong with a JSON value that describes no record. -/
inductive Schema.Misdescribed (s : Schema) : Json → Error → Prop
  | shape {json : Json} : (∀ members, json ≠ .object members) →
      s.Misdescribed json (.source ("a '" ++ s.entity ++ "' record must be a JSON object"))
  /-- The identifier is missing, or stands for none. -/
  | identifier {members : List (String × Json)} :
      (∀ member i, (NameMap.ofList members).get? s.identifier = some member →
        ¬member.Identifies i) →
      s.Misdescribed (.object members) (.source ("a '" ++ s.entity ++
        "' record is missing its '" ++ s.identifier ++ "' identifier"))
  /-- Another member is wrong; it is the first one by name. -/
  | member {members : List (String × Json)} {identifier member : Json} {i : RecordId}
      {name : String} {e : Error} :
      (NameMap.ofList members).get? s.identifier = some identifier → identifier.Identifies i →
      name ≠ s.identifier → (NameMap.ofList members).get? name = some member →
      s.Misplaced name member e →
      (∀ n m, n < name → n ≠ s.identifier → (NameMap.ofList members).get? n = some m →
        ∃ a ∈ s.attributes, a.name = n ∧ ∃ v, m.Denotes a.kind v) →
      s.Misdescribed (.object members) e

namespace Schema

theorem valueOfMember_eq_ok_iff {name : String} {v : Value} :
    s.valueOfMember name json = .ok v ↔
      ∃ a ∈ s.attributes, a.name = name ∧ json.Denotes a.kind v := by
  constructor
  · intro h
    rw [valueOfMember] at h
    split at h
    · cases h
    · next a ha =>
      obtain ⟨hmem, hname⟩ := attribute?_eq_some_iff.1 ha
      split at h
      · next v hv =>
        cases h
        exact ⟨a, hmem, hname, Value.ofJson?_eq_some_iff.1 hv⟩
      · cases h
  · rintro ⟨a, hmem, hname, hv⟩
    rw [valueOfMember, attribute?_eq_some_iff.2 ⟨hmem, hname⟩]
    simp only [Value.ofJson?_eq_some_iff.2 hv]

theorem valueOfMember_eq_error_iff {name : String} :
    s.valueOfMember name json = .error e ↔ s.Misplaced name json e := by
  constructor
  · intro h
    rw [valueOfMember] at h
    split at h
    · next hnone =>
      cases h
      exact .undeclared (attribute?_eq_none_iff.1 hnone)
    · next a ha =>
      obtain ⟨hmem, hname⟩ := attribute?_eq_some_iff.1 ha
      split at h
      · cases h
      · next hnone =>
        cases h
        refine .unconvertible hmem hname fun v hv => ?_
        rw [Value.ofJson?_eq_some_iff.2 hv] at hnone
        cases hnone
  · rintro (hnone | ⟨hmem, hname, hv⟩)
    · rw [valueOfMember, attribute?_eq_none_iff.2 hnone]
      rfl
    · next a =>
      have hnone : Value.ofJson? a.kind json = none :=
        Option.eq_none_iff_forall_ne_some.2 fun v hv' => hv v (Value.ofJson?_eq_some_iff.1 hv')
      rw [valueOfMember, attribute?_eq_some_iff.2 ⟨hmem, hname⟩]
      simp only [hnone]

/-- One member of an object, read as an attribute. -/
theorem bind_valueOfMember_eq_ok_iff {b : String × Json} {c : String × Value} :
    (do return (b.1, ← s.valueOfMember b.1 b.2)) = Except.ok (ε := Error) c ↔
      c.1 = b.1 ∧ s.valueOfMember b.1 b.2 = .ok c.2 := by
  obtain ⟨name, v⟩ := c
  rw [bind_eq_ok]
  constructor
  · rintro ⟨w, hw, heq⟩
    cases heq
    exact ⟨rfl, hw⟩
  · rintro ⟨rfl, hv⟩
    exact ⟨v, hv, rfl⟩

theorem bind_valueOfMember_eq_error_iff {b : String × Json} :
    (do return (b.1, ← s.valueOfMember b.1 b.2)) = Except.error (α := String × Value) e ↔
      s.valueOfMember b.1 b.2 = .error e := by
  rw [bind_eq_error]
  constructor
  · rintro (h | ⟨_, -, h⟩)
    · exact h
    · cases h
  · exact .inl

/-- An object is read for its identifier first, and then for its other members. -/
theorem recordOfJson_object (members : List (String × Json)) :
    s.recordOfJson (.object members) =
      match ((NameMap.ofList members).get? s.identifier).bind RecordId.ofJson? with
      | none => .error (.source ("a '" ++ s.entity ++ "' record is missing its '" ++
          s.identifier ++ "' identifier"))
      | some id => do
        let attributes ← ((NameMap.ofList members).without s.identifier).toList.mapM fun b => do
          return (b.1, ← s.valueOfMember b.1 b.2)
        return .ofList id attributes := by
  rw [recordOfJson]
  dsimp only
  cases ((NameMap.ofList members).get? s.identifier).bind RecordId.ofJson? <;> rfl

/-- An object that describes no record has no identifier, or one member too many. -/
theorem recordOfJson_eq_error_iff : s.recordOfJson json = .error e ↔ s.Misdescribed json e := by
  cases json with
  | object members =>
    rw [recordOfJson_object]
    constructor
    · intro h
      split at h
      · next hnone =>
        cases h
        refine .identifier fun member i hmember hi => ?_
        rw [hmember, Option.bind_some, RecordId.ofJson?_eq_some_iff.2 hi] at hnone
        cases hnone
      · next i hi =>
        obtain ⟨identifier, hidentifier, hi⟩ := Option.bind_eq_some_iff.1 hi
        obtain hwalk | ⟨_, -, hrecord⟩ := bind_eq_error.1 h
        · obtain ⟨name, member, hmember, hfails, hsmaller⟩ := NameMap.mapM_eq_error_iff.1 hwalk
          obtain ⟨hname, hmember⟩ := NameMap.get?_without.1 hmember
          refine .member hidentifier (RecordId.ofJson?_eq_some_iff.1 hi) hname hmember
            (valueOfMember_eq_error_iff.1 (bind_valueOfMember_eq_error_iff.1 hfails)) ?_
          intro n m hn hother hm
          obtain ⟨c, hc⟩ := hsmaller n m hn (NameMap.get?_without.2 ⟨hother, hm⟩)
          obtain ⟨-, hv⟩ := bind_valueOfMember_eq_ok_iff.1 hc
          obtain ⟨a, ha, haname, hdenotes⟩ := valueOfMember_eq_ok_iff.1 hv
          exact ⟨a, ha, haname, _, hdenotes⟩
        · cases hrecord
    · rintro (hshape | hidentifier | ⟨hidentifier, hi, hname, hmember, hmisplaced, hsmaller⟩)
      · exact absurd rfl (hshape members)
      · have hnone : ((NameMap.ofList members).get? s.identifier).bind RecordId.ofJson? = none := by
          refine Option.eq_none_iff_forall_ne_some.2 fun i hi => ?_
          obtain ⟨member, hmember, hi⟩ := Option.bind_eq_some_iff.1 hi
          exact hidentifier member i hmember (RecordId.ofJson?_eq_some_iff.1 hi)
        rw [hnone]
      · rw [hidentifier, Option.bind_some, RecordId.ofJson?_eq_some_iff.2 hi]
        refine bind_eq_error.2 (.inl (NameMap.mapM_eq_error_iff.2 ⟨_, _,
          NameMap.get?_without.2 ⟨hname, hmember⟩, bind_valueOfMember_eq_error_iff.2
            (valueOfMember_eq_error_iff.2 hmisplaced), fun n m hn hm => ?_⟩))
        obtain ⟨hother, hm⟩ := NameMap.get?_without.1 hm
        obtain ⟨a, ha, haname, v, hv⟩ := hsmaller n m hn hother hm
        exact ⟨(n, v), bind_valueOfMember_eq_ok_iff.2
          ⟨rfl, valueOfMember_eq_ok_iff.2 ⟨a, ha, haname, hv⟩⟩⟩
  | null | bool | integer | double | string | array =>
    constructor
    · rintro ⟨⟩
      exact .shape nofun
    · rintro (_ | _)
      rfl

/-- What is read of an object is what its members stand for. -/
theorem describes_of_recordOfJson {members : List (String × Json)}
    (h : s.recordOfJson (.object members) = .ok r) : s.Describes (.ofList members) r := by
  rw [recordOfJson_object] at h
  split at h
  · cases h
  · next i hi =>
    obtain ⟨identifier, hidentifier, hi⟩ := Option.bind_eq_some_iff.1 hi
    obtain ⟨attributes, hattributes, h⟩ := bind_eq_ok.1 h
    cases h
    have hread := (mapM_eq_ok_iff.1 hattributes).imp fun _ _ => bind_valueOfMember_eq_ok_iff.1
    have hkeys : attributes.map (·.1) = ((NameMap.ofList members).without s.identifier).keys := by
      rw [NameMap.keys, ← List.forall₂_eq_eq_eq, List.forall₂_map_left_iff,
        List.forall₂_map_right_iff]
      exact hread.flip.imp fun _ _ hc => hc.1
    have hbound (name : String) (v : Value) :
        (NameMap.ofList attributes).get? name = some v ↔ (name, v) ∈ attributes := by
      rw [NameMap.get?_eq_some_iff, NameMap.mem_toList_ofList (hkeys ▸ NameMap.nodup_keys _)]
    refine ⟨⟨identifier, hidentifier, RecordId.ofJson?_eq_some_iff.1 hi⟩, fun name v => ?_,
      fun name member hname hmember => ?_⟩
    · rw [show (Record.ofList i attributes).attributes = NameMap.ofList attributes from rfl, hbound]
      constructor
      · intro hv
        obtain ⟨⟨n, member⟩, hmember, rfl, hvalue⟩ := exists_of_mem_right hread hv
        obtain ⟨hname, hmember⟩ := NameMap.get?_without.1 (NameMap.get?_of_mem hmember)
        exact ⟨hname, member, hmember, valueOfMember_eq_ok_iff.1 hvalue⟩
      · rintro ⟨hname, member, hmember, hdenotes⟩
        have hmember := NameMap.mem_of_get? (NameMap.get?_without.2 ⟨hname, hmember⟩)
        obtain ⟨⟨n, w⟩, hw, rfl, hvalue⟩ := exists_of_mem_right hread.flip hmember
        cases (valueOfMember_eq_ok_iff.2 hdenotes).symm.trans hvalue
        exact hw
    · have hmember := NameMap.mem_of_get? (NameMap.get?_without.2 ⟨hname, hmember⟩)
      obtain ⟨⟨n, v⟩, hv, rfl, -⟩ := exists_of_mem_right hread.flip hmember
      exact ⟨v, (hbound n v).2 hv⟩

/-- The members of an object stand for one record only. -/
theorem Describes.unique {members : NameMap Json} {r' : Record} (h : s.Describes members r)
    (h' : s.Describes members r') : r = r' := by
  obtain ⟨⟨identifier, hidentifier, hid⟩, hattributes, -⟩ := h
  obtain ⟨⟨identifier', hidentifier', hid'⟩, hattributes', -⟩ := h'
  obtain rfl := Option.some_inj.1 (hidentifier.symm.trans hidentifier')
  rw [← RecordId.ofJson?_eq_some_iff] at hid hid'
  have hsame : r.attributes = r'.attributes := by
    refine NameMap.eq_of_get?_eq fun name => Option.ext fun v => ?_
    rw [hattributes, hattributes']
  rcases r with ⟨i, m⟩
  rcases r' with ⟨i', m'⟩
  obtain rfl : i = i' := Option.some_inj.1 (hid.symm.trans hid')
  obtain rfl : m = m' := hsame
  rfl

/-- Of members that stand for a record none is wrong. -/
theorem Describes.not_misplaced {members : NameMap Json} (h : s.Describes members r)
    {name : String} (hname : name ≠ s.identifier) (hmember : members.get? name = some json) :
    ¬s.Misplaced name json e := by
  intro hmisplaced
  obtain ⟨v, hv⟩ := h.complete name json hname hmember
  obtain ⟨-, member, hmember', hdenotes⟩ := (h.attributes name v).1 hv
  obtain rfl := Option.some_inj.1 (hmember.symm.trans hmember')
  cases (valueOfMember_eq_ok_iff.2 hdenotes).symm.trans (valueOfMember_eq_error_iff.2 hmisplaced)

theorem recordOfJson_eq_ok_iff : s.recordOfJson json = .ok r ↔
    ∃ members, json = .object members ∧ s.Describes (.ofList members) r := by
  constructor
  · intro h
    cases json with
    | object members => exact ⟨members, rfl, describes_of_recordOfJson h⟩
    | _ => cases h
  · rintro ⟨members, rfl, h⟩
    cases hread : s.recordOfJson (.object members) with
    | ok r' => rw [h.unique (describes_of_recordOfJson hread)]
    | error e =>
      obtain ⟨identifier, hidentifier, hid⟩ := h.id
      rcases recordOfJson_eq_error_iff.1 hread with
        hshape | hnone | ⟨-, -, hname, hmember, hmisplaced, -⟩
      · exact absurd rfl (hshape members)
      · exact absurd hid (hnone _ _ hidentifier)
      · exact absurd hmisplaced (h.not_misplaced hname hmember)

/-- An object describes no record if and only if it has no identifier, or a member that is not the
    identifier and is wrong. -/
theorem exists_recordOfJson_eq_error_iff : (∃ e, s.recordOfJson json = .error e) ↔
    (∀ members, json ≠ .object members) ∨ ∃ members, json = .object members ∧
      ((∀ member i, (NameMap.ofList members).get? s.identifier = some member →
        ¬member.Identifies i) ∨
      ∃ name member, name ≠ s.identifier ∧ (NameMap.ofList members).get? name = some member ∧
        ∃ e, s.Misplaced name member e) := by
  constructor
  · rintro ⟨e, h⟩
    rcases recordOfJson_eq_error_iff.1 h with
      hshape | hidentifier | ⟨-, -, hname, hmember, hmisplaced, -⟩
    · exact .inl hshape
    · exact .inr ⟨_, rfl, .inl hidentifier⟩
    · exact .inr ⟨_, rfl, .inr ⟨_, _, hname, hmember, _, hmisplaced⟩⟩
  · intro hwrong
    by_contra hread
    obtain ⟨r, hr⟩ := exists_eq_ok_iff.2 hread
    obtain ⟨members, rfl, h⟩ := recordOfJson_eq_ok_iff.1 hr
    rcases hwrong with hshape | ⟨_, ⟨rfl⟩, hwrong⟩
    · exact hshape members rfl
    · rcases hwrong with hidentifier | ⟨name, member, hname, hmember, e, hmisplaced⟩
      · obtain ⟨identifier, hidentifier', hid⟩ := h.id
        exact hidentifier _ _ hidentifier' hid
      · exact h.not_misplaced hname hmember hmisplaced

/-- A member that is null is an attribute that is null, and no other one is. -/
theorem Describes.get?_eq_null_iff {members : NameMap Json} (h : s.Describes members r)
    {name : String} (hname : name ≠ s.identifier) :
    members.get? name = some .null ↔ r.attributes.get? name = some .null := by
  constructor
  · intro hnull
    obtain ⟨v, hv⟩ := h.complete name _ hname hnull
    obtain ⟨-, member, hmember, a, -, -, hdenotes⟩ := (h.attributes name v).1 hv
    obtain rfl := Option.some_inj.1 (hmember.symm.trans hnull)
    rwa [hdenotes.eq_null_iff.1 rfl] at hv
  · intro hnull
    obtain ⟨-, member, hmember, a, -, -, hdenotes⟩ := (h.attributes name _).1 hnull
    rwa [hdenotes.eq_null_iff.2 rfl] at hmember

/-- The record that a JSON object describes fits. -/
theorem admits_of_recordOfJson (h : s.recordOfJson json = .ok r) : s.Admits r := by
  obtain ⟨members, -, hdescribes⟩ := recordOfJson_eq_ok_iff.1 h
  intro name v hmem
  obtain ⟨-, member, -, a, ha, hname, hdenotes⟩ :=
    (hdescribes.attributes name v).1 (NameMap.get?_of_mem hmem)
  exact ⟨a, attribute?_eq_some_iff.2 ⟨ha, hname⟩, hdenotes.kind?⟩

end Schema

end PagedQuery
