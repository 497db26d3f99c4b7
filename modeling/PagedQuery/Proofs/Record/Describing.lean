import Mathlib
import PagedQuery.Proofs.Reading
import PagedQuery.Proofs.Store.Reloading

/-!
# Records described in JSON

The records of a seed document are described in JSON. A record that is read there is what the
members of its object stand for, and it fits the schema of its entity, so what can go wrong when an
entity is stored is that an object describes no record, or that two of the records have one
identifier.

* `SeedEntity.Unreadable`: what is wrong with the records of an entity;
* `SeedEntity.Declares.refusesSeed_iff`: an entity is refused over its records, or because it is
  stored with another schema;
* `described_records_fit`: the main result.
-/

namespace PagedQuery

variable {seed : SeedEntity} {schema other : Schema} {db : Database} {store : Store} {e : Error}

/-- What is wrong with the records of an entity in a seed document. -/
inductive SeedEntity.Unreadable (seed : SeedEntity) (schema : Schema) : Error → Prop
  /-- One of them is described wrongly; it is the first one. -/
  | described {before rest : List Json} {json : Json} {e : Error} :
      seed.records = before ++ json :: rest →
      (∀ j ∈ before, ∃ r, schema.recordOfJson j = .ok r) → schema.Misdescribed json e →
      seed.Unreadable schema e
  /-- One of them has the identifier of one before it; it is the first one. -/
  | repeated {records before rest : List Record} {r : Record} :
      List.Forall₂ (fun json r => schema.recordOfJson json = .ok r) seed.records records →
      records = before ++ r :: rest → (before.map (·.id)).Nodup → r.id ∈ before.map (·.id) →
      seed.Unreadable schema (.duplicateRecord schema.entity r.id.toText)

/-- An entity whose schema makes sense fails over its records. -/
theorem SeedEntity.Declares.fails_iff (h : seed.Declares schema) :
    seed.Fails e ↔ seed.Unreadable schema e := by
  constructor
  · rintro (⟨hsplit, -, hnone⟩ | ⟨-, hnone, -⟩ |
      ⟨hdeclares, hsplit, hbefore, hwrong⟩ | ⟨hdeclares, hrecords, hsplit, hids, htaken⟩)
    · obtain ⟨d, -, -, hkind⟩ := exists_of_mem_right h.attributes.flip
        (hsplit ▸ List.mem_append_right _ List.mem_cons_self)
      exact absurd hkind (hnone d.kind)
    · exact absurd h (hnone schema)
    · obtain rfl := h.unique hdeclares
      refine .described hsplit (fun j hj => ?_) hwrong
      exact (hbefore j hj).imp fun _ => Schema.recordOfJson_eq_ok_iff.2
    · obtain rfl := h.unique hdeclares
      refine .repeated (hrecords.imp fun _ _ => ?_) hsplit hids htaken
      exact Schema.recordOfJson_eq_ok_iff.2
  · rintro (⟨hsplit, hbefore, hwrong⟩ | ⟨hrecords, hsplit, hids, htaken⟩)
    · refine .record h hsplit (fun j hj => ?_) hwrong
      exact (hbefore j hj).imp fun _ => Schema.recordOfJson_eq_ok_iff.1
    · refine .repeated h (hrecords.imp fun _ _ => ?_) hsplit hids htaken
      exact Schema.recordOfJson_eq_ok_iff.1

/-- An entity is refused over its records, or because it is stored with another schema. -/
theorem SeedEntity.Declares.refusesSeed_iff (h : seed.Declares schema) :
    db.RefusesSeed seed e ↔ seed.Unreadable schema e ∨ (∃ c, seed.Describes c) ∧
      ∃ other, db.schema schema.entity = .ok other ∧ other ≠ schema ∧
        e = .otherSchema schema.entity := by
  constructor
  · rintro (hfails | ⟨hdescribes, hschema, hother⟩)
    · exact .inl (h.fails_iff.1 hfails)
    · obtain rfl := h.unique hdescribes.schema
      exact .inr ⟨⟨_, hdescribes⟩, _, hschema, hother, rfl⟩
  · rintro (hunreadable | ⟨⟨c, hdescribes⟩, other, hschema, hother, rfl⟩)
    · exact .fails (h.fails_iff.2 hunreadable)
    · obtain rfl := h.unique hdescribes.schema
      exact .other hdescribes hschema hother

/-- What a single entity is refused for. -/
theorem Database.Represents.loadSeeds_single_eq_error_iff (h : db.Represents store) :
    (Database.loadSeeds [seed] db).1 = .error e ↔ db.RefusesSeed seed e := by
  constructor
  · intro herror
    obtain ⟨loaded, rest, stored, later, hsplit, hloads, hloaded, hends⟩ := h.exists_loads [seed]
    rcases hends with rfl | ⟨last, after, e', rfl, hrefuses, hends⟩
    · rw [List.append_nil] at hsplit
      rw [hsplit, hloaded] at herror
      cases herror
    · rcases loaded with _ | ⟨first, loaded⟩
      · cases hsplit
        cases hloads
        rw [hends] at herror
        cases herror
        exact hrefuses
      · simp at hsplit
  · intro hrefuses
    rw [loadSeeds_of_refusesSeed hrefuses]

/-- A record that is read from JSON fits its schema, and it is the one that the members of an object
    stand for: the identifier is what the member of its name stands for, and the attributes are what
    the others stand for, with null for null, so none has the name of the identifier. There is none
    exactly if the value is no object, if the identifier is missing or stands for none, or if
    another member is not declared or stands for no value of its kind; and what is reported is then
    the first of these. So an entity of a seed document whose schema makes sense is not stored only
    if one of its records cannot be read, if two of them have one identifier, or if it is there with
    another schema. -/
theorem described_records_fit (schema : Schema) :
    (∀ json r, schema.recordOfJson json = .ok r ↔
      ∃ members, json = .object members ∧ schema.Describes (.ofList members) r) ∧
    (∀ json r, schema.recordOfJson json = .ok r → schema.validate r = .ok () ∧
      r.attributes.get? schema.identifier = none) ∧
    (∀ members r, schema.recordOfJson (.object members) = .ok r → ∀ name, name ≠ schema.identifier →
      ((NameMap.ofList members).get? name = some .null ↔ r.attributes.get? name = some .null)) ∧
    (∀ json, (∃ e, schema.recordOfJson json = .error e) ↔
      (∀ members, json ≠ .object members) ∨ ∃ members, json = .object members ∧
        ((∀ member i, (NameMap.ofList members).get? schema.identifier = some member →
          ¬member.Identifies i) ∨
        ∃ name member, name ≠ schema.identifier ∧
          (NameMap.ofList members).get? name = some member ∧
          ∃ e, schema.Misplaced name member e)) ∧
    (∀ json e, schema.recordOfJson json = .error e ↔ schema.Misdescribed json e) ∧
    ∀ db : Database, db.Reachable → ∀ seed : SeedEntity, seed.Declares schema →
      ∀ e, (Database.loadSeeds [seed] db).1 = .error e ↔
        seed.Unreadable schema e ∨ (∃ c, seed.Describes c) ∧
          ∃ other, db.schema schema.entity = .ok other ∧ other ≠ schema ∧
            e = .otherSchema schema.entity := by
  refine ⟨fun _ _ => Schema.recordOfJson_eq_ok_iff, fun json r hr => ?_, fun members r hr name =>
    (Schema.describes_of_recordOfJson hr).get?_eq_null_iff,
    fun _ => Schema.exists_recordOfJson_eq_error_iff,
    fun _ _ => Schema.recordOfJson_eq_error_iff, fun db hdb seed hseed e => ?_⟩
  · obtain ⟨members, rfl, hdescribes⟩ := Schema.recordOfJson_eq_ok_iff.1 hr
    refine ⟨Schema.validate_eq_ok_iff.2 (Schema.admits_of_recordOfJson hr), ?_⟩
    refine Option.eq_none_iff_forall_ne_some.2 fun v hv => ?_
    exact ((hdescribes.attributes _ v).1 hv).1 rfl
  · obtain ⟨store, hstore⟩ := hdb.exists_represents
    rw [hstore.loadSeeds_single_eq_error_iff, hseed.refusesSeed_iff]

/-- Invoices over some sum, which is due some day. -/
def invoices : Schema where
  entity := "Invoice"
  identifier := "InvoiceID"
  attributes := [⟨"Total", .decimal⟩, ⟨"Due", .date⟩]
  names_valid := by decide
  names_distinct := by decide

/-- An invoice whose sum is written as an integer, and which is due no day. -/
def openInvoice : Json :=
  .object [("Total", .integer 12), ("InvoiceID", .integer 7), ("Due", .null)]

/-- The invoice in a document, twice. -/
def invoiceTwice : SeedEntity where
  entity := "Invoice"
  identifier := "InvoiceID"
  attributes := [⟨"Total", "decimal"⟩, ⟨"Due", "date"⟩]
  records := [openInvoice, openInvoice]

/-- The invoice fits, and what it says of its day is that there is none. One that has a color is
    refused over this, although its sum is wrong as well, and one with an identifier beyond 64 bits
    has none. A document that lists the invoice twice is refused over its identifier. -/
theorem invoices_described :
    (∃ r, invoices.recordOfJson openInvoice = .ok r ∧ invoices.validate r = .ok () ∧
      r.attributes.get? "Due" = some .null ∧ r.attributes.get? "InvoiceID" = none) ∧
    invoices.recordOfJson (.object [("Total", .bool true), ("Color", .null),
      ("InvoiceID", .string "7")]) = .error (.unknownAttribute "Invoice" "Color") ∧
    (∃ e, invoices.recordOfJson (.object [("InvoiceID", .integer 9223372036854775808)]) =
      .error e) ∧
    (Database.loadSeeds [invoiceTwice] .empty).1 = .error (.duplicateRecord "Invoice" "7") := by
  obtain ⟨-, hfits, hnull, hfails, hwrong, hseeds⟩ := described_records_fit invoices
  obtain ⟨invoice, hread, hid⟩ : ∃ invoice, invoices.recordOfJson openInvoice = .ok invoice ∧
    invoice.id = .integer 7 := ⟨_, rfl, rfl⟩
  refine ⟨⟨_, hread, (hfits _ _ hread).1, (hnull _ _ hread "Due" (by decide)).1 rfl,
    (hfits _ _ hread).2⟩, (hwrong _ _).2 ?_, (hfails _).2 (.inr ⟨_, rfl, .inl ?_⟩),
    (hseeds _ (.of_run []) _ ⟨rfl, rfl, ?_⟩ _).2 (.inl ?_)⟩
  · refine .member rfl (.text "7") (by decide : "Color" ≠ _) rfl (.undeclared (by decide))
      fun n m hn hother hm => ?_
    have hmem := NameMap.mem_of_mem_ofList (NameMap.mem_of_get? hm)
    simp only [List.mem_cons, Prod.mk.injEq, List.not_mem_nil, or_false] at hmem
    obtain ⟨rfl, -⟩ | ⟨rfl, -⟩ | ⟨rfl, -⟩ := hmem
    · exact absurd hn (by decide)
    · exact absurd hn (by decide)
    · exact absurd rfl hother
  · rintro member i hmember hi
    cases hmember
    cases RecordId.ofJson?_eq_some_iff.2 hi
  · exact .cons ⟨rfl, Kind.ofName?_eq_some_iff.1 rfl⟩
      (.cons ⟨rfl, Kind.ofName?_eq_some_iff.1 rfl⟩ .nil)
  · have hrecords : List.Forall₂ (fun json r => invoices.recordOfJson json = .ok r)
        [openInvoice, openInvoice] ([invoice] ++ [invoice]) := .cons hread (.cons hread .nil)
    have hrepeated := @SeedEntity.Unreadable.repeated invoiceTwice _ _ _ _ _ hrecords rfl
      (List.nodup_singleton _) (List.mem_singleton.2 rfl)
    rwa [hid] at hrepeated

end PagedQuery
