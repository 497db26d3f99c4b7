import Mathlib
import PagedQuery.Proofs.Commerce
import PagedQuery.Proofs.Nulls
import PagedQuery.Proofs.Typing

/-!
# Typed entities and their records

What the attributes of an entity are called and what they hold is said three times: by its schema,
where values are written as records, and where records are read as values. The three agree
(`Convertible`). A value is read back from its record, which fits the schema. Of a record that fits
each attribute can be read that has a value, since it is of the right kind, so that a record stands
for no value only if its identifier is a text, or if an attribute is missing that has to be there.
And where it does stand for a value, the record of this value is the one that was read, except for
nulls.

* `Kind.HasContent`: what is read of the values of a kind;
* `Record.Omits`, `Record.Refused`: the first attribute that is missing, and what a record is
  refused for;
* `Schema.Admits.required_cases`, `Schema.Admits.bind_required_eq_error_iff` and their like: what
  is read of one attribute of a record that fits;
* `stores_and_products_convertible`: the main result.
-/

namespace PagedQuery

variable {α β : Type} {schema : Schema} {r s : Record} {a : Attribute} {name : String}
  {names : List String} {e : Error}

/-! ## The contents of values -/

/-- Every value of a kind has a content, and is what the content is written as. -/
structure Kind.HasContent (kind : Kind) (content : String → Value → Except Error α)
    (write : α → Value) : Prop where
  content_write : ∀ name x, content name (write x) = .ok x
  exists_write : ∀ v : Value, v.kind? = some kind → ∃ x, v = write x

namespace Value

theorem hasContent_text : Kind.HasContent .text asText text where
  content_write _ _ := rfl
  exists_write v hv := by
    cases v <;> cases hv
    exact ⟨_, rfl⟩

theorem hasContent_integer : Kind.HasContent .integer asInteger integer where
  content_write _ _ := rfl
  exists_write v hv := by
    cases v <;> cases hv
    exact ⟨_, rfl⟩

theorem hasContent_decimal : Kind.HasContent .decimal asDecimal decimal where
  content_write _ _ := rfl
  exists_write v hv := by
    cases v <;> cases hv
    exact ⟨_, rfl⟩

theorem hasContent_date : Kind.HasContent .date asDate date where
  content_write _ _ := rfl
  exists_write v hv := by
    cases v <;> cases hv
    exact ⟨_, rfl⟩

theorem hasContent_timestamp : Kind.HasContent .timestamp asTimestamp timestamp where
  content_write _ _ := rfl
  exists_write v hv := by
    cases v <;> cases hv
    exact ⟨_, rfl⟩

end Value

/-! ## Attributes that are missing -/

/-- An attribute is missing if there is no value to be read. -/
theorem Record.lacks_iff : r.Lacks name ↔ r.value? name = none := by
  refine ⟨Lacks.value?_eq_none, fun h => ?_⟩
  rw [value?] at h
  cases hv : r.attributes.get? name with
  | none => exact .inl hv
  | some v =>
    rw [hv, Option.filter_eq_none_iff] at h
    cases v with
    | null => exact .inr hv
    | _ => exact absurd rfl (h _ rfl)

/-- Of some attributes one is missing, and those before it are not. -/
inductive Record.Omits (r : Record) : List String → Error → Prop
  | here {name : String} {names : List String} : r.Lacks name → r.Omits (name :: names)
      (.source ("record " ++ r.id.toText ++ " has no value for '" ++ name ++ "'"))
  | later {name : String} {names : List String} {e : Error} : ¬r.Lacks name → r.Omits names e →
      r.Omits (name :: names) e

/-- What a record that fits is refused for where an integer is needed as the identifier, and a value
    in each of some attributes. The identifier is looked at first. -/
inductive Record.Refused (required : List String) (r : Record) : Error → Prop
  | identifier {s : String} : r.id = .text s →
      r.Refused required (.source ("expected an integer identifier, found '" ++ s ++ "'"))
  | attribute {n : Int64} {e : Error} : r.id = .integer n → r.Omits required e →
      r.Refused required e

theorem Record.exists_omits_iff : (∃ e, r.Omits names e) ↔ ∃ name ∈ names, r.Lacks name := by
  constructor
  · rintro ⟨e, homits⟩
    induction homits with
    | here hlacks => exact ⟨_, List.mem_cons_self, hlacks⟩
    | later _ _ ih => exact ih.imp fun _ h => ⟨List.mem_cons_of_mem _ h.1, h.2⟩
  · rintro ⟨name, hname, hlacks⟩
    induction names with
    | nil => cases hname
    | cons first names ih =>
      by_cases hfirst : r.Lacks first
      · exact ⟨_, .here hfirst⟩
      · have hne : name ≠ first := by
          rintro rfl
          exact hfirst hlacks
        obtain ⟨e, homits⟩ := ih ((List.mem_cons.1 hname).resolve_left hne)
        exact ⟨e, .later hfirst homits⟩

/-- A record is refused unless all is there that is needed. -/
theorem Record.exists_refused_iff :
    (∃ e, r.Refused names e) ↔ ¬((∃ n, r.id = .integer n) ∧ ∀ name ∈ names, ¬r.Lacks name) := by
  cases hid : r.id with
  | text s => exact iff_of_true ⟨_, .identifier hid⟩ nofun
  | integer n =>
    have homits : (∃ e, r.Refused names e) ↔ ∃ e, r.Omits names e := by
      refine exists_congr fun e => ⟨?_, .attribute hid⟩
      rintro (hid' | ⟨-, homits⟩)
      · cases hid.symm.trans hid'
      · exact homits
    rw [homits, exists_omits_iff]
    simp

/-- What a record is refused for is never that a value is of the wrong kind. -/
theorem Record.Refused.ne_kindMismatch (h : r.Refused names e) (name : String) (expected : Kind)
    (found : String) : e ≠ .kindMismatch name expected found := by
  rcases h with _ | ⟨-, homits⟩
  · exact nofun
  · induction homits with
    | here => exact nofun
    | later _ _ ih => exact ih

/-! ## Reading a record that fits -/

namespace Schema.Admits

variable {content : String → Value → Except Error α} {write : α → Value}

/-- An attribute is missing, or has a value, which is written from its content. -/
theorem lacks_or_exists_write (h : schema.Admits r) (ha : a ∈ schema.attributes)
    (hcontent : a.kind.HasContent content write) :
    r.value? a.name = none ∨ ∃ x, r.value? a.name = some (write x) := by
  cases hv : r.value? a.name with
  | none => exact .inl rfl
  | some v =>
    obtain ⟨x, rfl⟩ := hcontent.exists_write v (h.kind?_of_value? ha hv)
    exact .inr ⟨x, rfl⟩

/-- An attribute that has to be there is read, unless it is missing. -/
theorem required_cases (h : schema.Admits r) (ha : a ∈ schema.attributes)
    (hcontent : a.kind.HasContent content write) :
    (r.Lacks a.name ∧ r.required a.name content =
      .error (.source ("record " ++ r.id.toText ++ " has no value for '" ++ a.name ++ "'"))) ∨
    ∃ x, r.value? a.name = some (write x) ∧ r.required a.name content = .ok x := by
  rw [Record.required]
  rcases h.lacks_or_exists_write ha hcontent with hv | ⟨x, hv⟩
  · rw [hv]
    exact .inl ⟨Record.lacks_iff.2 hv, rfl⟩
  · rw [hv]
    exact .inr ⟨x, rfl, hcontent.content_write a.name x⟩

/-- An attribute that may be there is read in any case. -/
theorem optional_cases (h : schema.Admits r) (ha : a ∈ schema.attributes)
    (hcontent : a.kind.HasContent content write) :
    ∃ x? : Option α, r.value? a.name = x?.map write ∧ r.optional a.name content = .ok x? := by
  rw [Record.optional]
  rcases h.lacks_or_exists_write ha hcontent with hv | ⟨x, hv⟩
  · rw [hv]
    exact ⟨none, rfl, rfl⟩
  · rw [hv]
    exact ⟨some x, rfl, map_eq_ok.2 ⟨x, hcontent.content_write a.name x, rfl⟩⟩

theorem value?_of_required (h : schema.Admits r) (ha : a ∈ schema.attributes)
    (hcontent : a.kind.HasContent content write) {x : α}
    (hx : r.required a.name content = .ok x) : r.value? a.name = some (write x) := by
  rcases h.required_cases ha hcontent with ⟨-, herror⟩ | ⟨y, hv, hy⟩
  · cases herror.symm.trans hx
  · cases hy.symm.trans hx
    exact hv

theorem value?_of_optional (h : schema.Admits r) (ha : a ∈ schema.attributes)
    (hcontent : a.kind.HasContent content write) {x? : Option α}
    (hx : r.optional a.name content = .ok x?) : r.value? a.name = x?.map write := by
  obtain ⟨y?, hv, hy⟩ := h.optional_cases ha hcontent
  cases hy.symm.trans hx
  exact hv

/-- Where what comes later fails over what is missing of some attributes, all fails over what is
    missing of these and of the one that is read first. -/
theorem bind_required_eq_error_iff (h : schema.Admits r) (ha : a ∈ schema.attributes)
    (hcontent : a.kind.HasContent content write) {f : α → Except Error β}
    (hf : ∀ x, f x = .error e ↔ r.Omits names e) :
    r.required a.name content >>= f = .error e ↔ r.Omits (a.name :: names) e := by
  rcases h.required_cases ha hcontent with ⟨hlacks, herror⟩ | ⟨x, hv, hx⟩
  · rw [herror]
    constructor
    · rintro ⟨⟩
      exact .here hlacks
    · rintro (_ | ⟨hthere, -⟩)
      · rfl
      · exact absurd hlacks hthere
  · have hthere : ¬r.Lacks a.name := by
      rw [Record.lacks_iff, hv]
      exact nofun
    rw [hx, ok_bind, hf]
    constructor
    · exact .later hthere
    · rintro (hlacks | ⟨-, homits⟩)
      · exact absurd hlacks hthere
      · exact homits

/-- What may be missing is not what anything fails over. -/
theorem bind_optional_eq_error_iff (h : schema.Admits r) (ha : a ∈ schema.attributes)
    (hcontent : a.kind.HasContent content write) {f : Option α → Except Error β}
    (hf : ∀ x?, f x? = .error e ↔ r.Omits names e) :
    r.optional a.name content >>= f = .error e ↔ r.Omits names e := by
  obtain ⟨x?, -, hx⟩ := h.optional_cases ha hcontent
  rw [hx, ok_bind, hf]

/-- A record that fits has nothing under a name that is not declared. -/
theorem get?_eq_none (h : schema.Admits r) (hname : schema.attribute? name = none) :
    r.attributes.get? name = none := by
  refine Option.eq_none_iff_forall_ne_some.2 fun v hv => ?_
  obtain ⟨a, ha, -⟩ := h name v (NameMap.mem_of_get? hv)
  cases hname.symm.trans ha

/-- Two records that fit and have the same identifier differ in nothing but nulls if each attribute
    of the schema has the same value in both, or in neither. -/
theorem sameButNulls (hr : schema.Admits r) (hs : schema.Admits s) (hid : r.id = s.id)
    (h : ∀ a ∈ schema.attributes, r.value? a.name = s.value? a.name) : r.SameButNulls s := by
  refine ⟨hid, fun name => ?_⟩
  cases ha : schema.attribute? name with
  | none => exact .inl ((hr.get?_eq_none ha).trans (hs.get?_eq_none ha).symm)
  | some a =>
    obtain ⟨hmem, rfl⟩ := attribute?_eq_some_iff.1 ha
    have heq := h a hmem
    cases hv : s.value? a.name with
    | none => exact .inr ⟨Record.lacks_iff.2 (heq.trans hv), Record.lacks_iff.2 hv⟩
    | some v =>
      have hget := (Option.filter_eq_some_iff.1 hv).1
      exact .inl ((Option.filter_eq_some_iff.1 (heq.trans hv)).1.trans hget.symm)

end Schema.Admits

/-- A record is refused over its identifier, or over what it omits. -/
theorem Record.bind_integerId_eq_error_iff {f : Int64 → Except Error β}
    (hf : ∀ n, f n = .error e ↔ r.Omits names e) :
    r.integerId >>= f = .error e ↔ r.Refused names e := by
  rw [integerId]
  cases hid : r.id with
  | integer n =>
    show f n = .error e ↔ _
    rw [hf]
    refine ⟨.attribute hid, ?_⟩
    rintro (hid' | ⟨-, homits⟩)
    · cases hid.symm.trans hid'
    · exact homits
  | text s =>
    constructor
    · rintro ⟨⟩
      exact .identifier hid
    · rintro (hid' | ⟨hid', -⟩)
      · cases hid.symm.trans hid'
        rfl
      · cases hid.symm.trans hid'

theorem Record.id_of_integerId {n : Int64} (h : r.integerId = .ok n) : r.id = .integer n := by
  rw [integerId] at h
  cases hid : r.id with
  | integer m =>
    rw [hid] at h
    cases h
    rfl
  | text s =>
    rw [hid] at h
    cases h

/-! ## Entities -/

/-- The values of a type and the records that fit a schema convert into each other. -/
structure Convertible (schema : Schema) (required : List String) (toRecord : α → Record)
    (ofRecord : Record → Except Error α) : Prop where
  /-- The record of a value fits. -/
  validate_toRecord : ∀ x, schema.validate (toRecord x) = .ok ()
  /-- A value is read back from its record. -/
  ofRecord_toRecord : ∀ x, ofRecord (toRecord x) = .ok x
  /-- A record that fits stands for a value if all is there that is needed. -/
  exists_ofRecord_iff : ∀ r, schema.validate r = .ok () → ((∃ x, ofRecord r = .ok x) ↔
    (∃ n, r.id = .integer n) ∧ ∀ name ∈ required, ¬r.Lacks name)
  /-- Otherwise what is reported is the first that is not there. -/
  ofRecord_eq_error_iff : ∀ r, schema.validate r = .ok () → ∀ e,
    ofRecord r = .error e ↔ r.Refused required e
  /-- That is never that a value is of the wrong kind. -/
  ofRecord_ne_kindMismatch : ∀ r, schema.validate r = .ok () → ∀ name expected found,
    ofRecord r ≠ .error (.kindMismatch name expected found)
  /-- A record that fits stands for a value exactly if it is the record of this value, but for
      nulls. -/
  ofRecord_eq_ok_iff : ∀ r, schema.validate r = .ok () → ∀ x,
    ofRecord r = .ok x ↔ (toRecord x).SameButNulls r

/-- It is enough to know what a record that fits is refused for, and that what it stands for has the
    same record but for nulls, if nulls are not seen in reading. -/
theorem Convertible.of {required : List String} {toRecord : α → Record}
    {ofRecord : Record → Except Error α} (hadmits : ∀ x, schema.Admits (toRecord x))
    (hround : ∀ x, ofRecord (toRecord x) = .ok x)
    (hnulls : ∀ r s, r.SameButNulls s → ofRecord r = ofRecord s)
    (hrefused : ∀ r, schema.Admits r → ∀ e, ofRecord r = .error e ↔ r.Refused required e)
    (hback : ∀ r, schema.Admits r → ∀ x, ofRecord r = .ok x → (toRecord x).SameButNulls r) :
    Convertible schema required toRecord ofRecord := by
  simp only [← Schema.validate_eq_ok_iff] at hrefused hback
  refine ⟨fun x => Schema.validate_eq_ok_iff.2 (hadmits x), hround, fun r hr => ?_, hrefused,
    fun r hr name expected found herror => ?_, fun r hr x => ⟨hback r hr x, fun hsame => ?_⟩⟩
  · rw [exists_eq_ok_iff, ← not_iff_not, not_not, ← Record.exists_refused_iff]
    exact exists_congr (hrefused r hr)
  · exact ((hrefused r hr _).1 herror).ne_kindMismatch name expected found rfl
  · rw [← hnulls _ _ hsame, hround]

namespace Commerce

theorem Store.ofRecord_eq_error_iff (h : Store.schema.Admits r) :
    Store.ofRecord r = .error e ↔ r.Refused ["Name", "ModifiedDate"] e := by
  refine Record.bind_integerId_eq_error_iff fun id => ?_
  refine h.bind_required_eq_error_iff (a := ⟨"Name", .text⟩) (by decide)
    Value.hasContent_text fun name => ?_
  refine h.bind_optional_eq_error_iff (a := ⟨"SalesPersonID", .integer⟩) (by decide)
    Value.hasContent_integer fun person => ?_
  refine h.bind_required_eq_error_iff (a := ⟨"ModifiedDate", .timestamp⟩) (by decide)
    Value.hasContent_timestamp fun modified => ?_
  exact iff_of_false nofun nofun

theorem Store.toRecord_sameButNulls (hr : Store.schema.Admits r) {s : Store}
    (h : Store.ofRecord r = .ok s) : s.toRecord.SameButNulls r := by
  obtain ⟨id, hid, h⟩ := bind_eq_ok.1 h
  obtain ⟨name, hname, h⟩ := bind_eq_ok.1 h
  obtain ⟨person, hperson, h⟩ := bind_eq_ok.1 h
  obtain ⟨modified, hmodified, h⟩ := bind_eq_ok.1 h
  cases h
  have hname := hr.value?_of_required (a := ⟨"Name", .text⟩) (by decide)
    Value.hasContent_text hname
  have hperson := hr.value?_of_optional (a := ⟨"SalesPersonID", .integer⟩) (by decide)
    Value.hasContent_integer hperson
  have hmodified := hr.value?_of_required (a := ⟨"ModifiedDate", .timestamp⟩) (by decide)
    Value.hasContent_timestamp hmodified
  refine (admits_toRecord _).sameButNulls hr (Record.id_of_integerId hid).symm ?_
  simp only [Store.schema, List.forall_mem_cons, List.not_mem_nil, false_imp_iff, implies_true,
    and_true]
  exact ⟨(field?_name _).trans hname.symm, (field?_salesPersonId _).trans hperson.symm,
    (field?_modifiedDate _).trans hmodified.symm⟩

theorem Product.ofRecord_eq_error_iff (h : Product.schema.Admits r) :
    Product.ofRecord r = .error e ↔
      r.Refused ["Name", "ProductNumber", "ListPrice", "SellStartDate"] e := by
  refine Record.bind_integerId_eq_error_iff fun id => ?_
  refine h.bind_required_eq_error_iff (a := ⟨"Name", .text⟩) (by decide)
    Value.hasContent_text fun name => ?_
  refine h.bind_required_eq_error_iff (a := ⟨"ProductNumber", .text⟩) (by decide)
    Value.hasContent_text fun number => ?_
  refine h.bind_optional_eq_error_iff (a := ⟨"Color", .text⟩) (by decide)
    Value.hasContent_text fun color => ?_
  refine h.bind_required_eq_error_iff (a := ⟨"ListPrice", .decimal⟩) (by decide)
    Value.hasContent_decimal fun price => ?_
  refine h.bind_required_eq_error_iff (a := ⟨"SellStartDate", .date⟩) (by decide)
    Value.hasContent_date fun start => ?_
  exact iff_of_false nofun nofun

theorem Product.toRecord_sameButNulls (hr : Product.schema.Admits r) {p : Product}
    (h : Product.ofRecord r = .ok p) : p.toRecord.SameButNulls r := by
  obtain ⟨id, hid, h⟩ := bind_eq_ok.1 h
  obtain ⟨name, hname, h⟩ := bind_eq_ok.1 h
  obtain ⟨number, hnumber, h⟩ := bind_eq_ok.1 h
  obtain ⟨color, hcolor, h⟩ := bind_eq_ok.1 h
  obtain ⟨price, hprice, h⟩ := bind_eq_ok.1 h
  obtain ⟨start, hstart, h⟩ := bind_eq_ok.1 h
  cases h
  have hname := hr.value?_of_required (a := ⟨"Name", .text⟩) (by decide)
    Value.hasContent_text hname
  have hnumber := hr.value?_of_required (a := ⟨"ProductNumber", .text⟩) (by decide)
    Value.hasContent_text hnumber
  have hcolor := hr.value?_of_optional (a := ⟨"Color", .text⟩) (by decide)
    Value.hasContent_text hcolor
  have hprice := hr.value?_of_required (a := ⟨"ListPrice", .decimal⟩) (by decide)
    Value.hasContent_decimal hprice
  have hstart := hr.value?_of_required (a := ⟨"SellStartDate", .date⟩) (by decide)
    Value.hasContent_date hstart
  refine (admits_toRecord _).sameButNulls hr (Record.id_of_integerId hid).symm ?_
  simp only [Product.schema, List.forall_mem_cons, List.not_mem_nil, false_imp_iff, implies_true,
    and_true]
  exact ⟨(field?_name _).trans hname.symm, (field?_productNumber _).trans hnumber.symm,
    (field?_color _).trans hcolor.symm, (field?_listPrice _).trans hprice.symm, hstart.symm⟩

/-- Stores and products are written as records that fit, and are read back from them. A record that
    fits is a store, or a product, exactly if its identifier is an integer and it has a value in
    each attribute that has to be there; otherwise the first of these that is missing is reported,
    and never a value of the wrong kind. The record of a store or product that is read is the one
    that it was read from, but for nulls. -/
theorem stores_and_products_convertible :
    Convertible Store.schema ["Name", "ModifiedDate"] Store.toRecord Store.ofRecord ∧
    Convertible Product.schema ["Name", "ProductNumber", "ListPrice", "SellStartDate"]
      Product.toRecord Product.ofRecord := by
  constructor
  · exact .of Store.admits_toRecord Store.ofRecord_toRecord (fun _ _ h => h.store_eq)
      (fun _ hr _ => Store.ofRecord_eq_error_iff hr) fun _ hr _ => Store.toRecord_sameButNulls hr
  · exact .of Product.admits_toRecord Product.ofRecord_toRecord (fun _ _ h => h.product_eq)
      (fun _ hr _ => Product.ofRecord_eq_error_iff hr)
      fun _ hr _ => Product.toRecord_sameButNulls hr

/-- A frame that has no price and is not sold yet, under some identifier. -/
def unsoldFrame (id : RecordId) : Record :=
  .ofList id [("Name", .text "HL Road Frame"), ("ProductNumber", .text "FR-R92B-58"),
    ("ListPrice", .null)]

/-- A shop that nobody sells to is a store, whose record has a null that the shop did not have. The
    frame fits, but is no product: for want of a price or, under a text, for want of an integer. -/
theorem shop_and_frame_converted :
    (∃ s, Store.ofRecord RecordSource.unserved = .ok s ∧
      s.toRecord.SameButNulls RecordSource.unserved ∧ s.toRecord ≠ RecordSource.unserved) ∧
    Product.ofRecord (unsoldFrame (.integer 680)) =
      .error (.source "record 680 has no value for 'ListPrice'") ∧
    Product.ofRecord (unsoldFrame (.text "FR-680")) =
      .error (.source "expected an integer identifier, found 'FR-680'") := by
  obtain ⟨hstore, hproduct⟩ := stores_and_products_convertible
  have hthere {r : Record} {name : String} {v : Value} (hv : r.value? name = some v) :
      ¬r.Lacks name := by
    rw [Record.lacks_iff, hv]
    exact nofun
  refine ⟨?_, (hproduct.ofRecord_eq_error_iff _ rfl _).2 (.attribute rfl ?_),
    (hproduct.ofRecord_eq_error_iff _ rfl _).2 (.identifier (s := "FR-680") rfl)⟩
  · obtain ⟨s, hs⟩ := (hstore.exists_ofRecord_iff RecordSource.unserved rfl).2
      ⟨⟨2, rfl⟩, List.forall_mem_cons.2 ⟨hthere rfl, List.forall_mem_singleton.2 (hthere rfl)⟩⟩
    refine ⟨s, hs, (hstore.ofRecord_eq_ok_iff _ rfl s).1 hs, fun heq => ?_⟩
    -- The sales person is null in one of them, and absent in the other.
    have hnull : s.toRecord.attributes.get? "SalesPersonID" =
      some (s.salesPersonId.elim .null .integer) := rfl
    rw [heq] at hnull
    cases hnull
  · exact .later (hthere rfl) (.later (hthere rfl) (.here (.inr rfl)))

end Commerce

end PagedQuery
