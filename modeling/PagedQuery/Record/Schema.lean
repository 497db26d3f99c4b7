import PagedQuery.Record.Basic

/-!
# Schemas

A schema says what the records of an entity look like: what their identifier is called, and which
attributes they may have, of which kinds and in which order. Every name in a schema is a letter or
underscore followed by letters, digits and underscores, and within an entity no name is declared
twice, neither as the identifier nor as an attribute.

* `Schema.declare`: the schema with given parts, or what is wrong with them;
* `Schema.resolve`: what a name means in a schema;
* `Schema.validate`: whether a record fits; `validate_eq_ok_iff` says that `Schema.Admits` is what
  it decides;
* `Schema.recordOfJson`: the record that a JSON object describes.
-/

namespace PagedQuery

/-- Whether a text can be the name of an entity, an identifier or an attribute. -/
def isValidName (name : String) : Bool :=
  match name.toList with
  | [] => false
  | c :: cs => (c.isAlpha || c == '_') && cs.all fun c => c.isAlphanum || c == '_'

/-- An attribute that an entity declares. -/
structure Attribute where
  name : String
  kind : Kind
deriving DecidableEq

/-- What the records of an entity look like. -/
structure Schema where
  entity : String
  identifier : String
  attributes : List Attribute
  names_valid : ∀ n ∈ entity :: identifier :: attributes.map (·.name), isValidName n = true
  names_distinct : (identifier :: attributes.map (·.name)).Nodup
deriving DecidableEq

/-- What a name means in a schema. -/
inductive Field
  | identifier
  | declared (a : Attribute)
deriving DecidableEq

/-- The kind of a field. The identifier has none: it may hold integers as well as texts. -/
def Field.kind? : Field → Option Kind
  | identifier => none
  | declared a => some a.kind

/-- The value of a field of a record; there is none where an attribute is null or absent. -/
def Record.field? (r : Record) : Field → Option Value
  | .identifier => some r.id.toValue
  | .declared a => r.value? a.name

namespace Schema

/-- The first element of a list that already occurs before it. -/
def firstRepeated? : List String → List String → Option String
  | _, [] => none
  | seen, n :: ns => if n ∈ seen then some n else firstRepeated? (n :: seen) ns

theorem firstRepeated?_eq_none {seen names : List String} (h : firstRepeated? seen names = none) :
    names.Nodup ∧ ∀ n ∈ names, n ∉ seen := by
  induction names generalizing seen with
  | nil => simp
  | cons n ns ih =>
    simp only [firstRepeated?] at h
    split at h
    · simp at h
    · next hn =>
      obtain ⟨hns, hseen⟩ := ih h
      refine ⟨List.nodup_cons.2 ⟨fun hmem => hseen n hmem List.mem_cons_self, hns⟩, ?_⟩
      intro m hm
      rcases List.mem_cons.1 hm with rfl | hm
      · exact hn
      · exact fun hms => hseen m hm (List.mem_cons_of_mem n hms)

/-- The schema with the given parts. A malformed name is reported before a repeated one, and of
    several the first. -/
def declare (entity identifier : String) (attributes : List Attribute) : Except Error Schema :=
  match hvalid : (entity :: identifier :: attributes.map (·.name)).find? (!isValidName ·) with
  | some name => .error (.schema ("'" ++ name ++ "' is not a valid name"))
  | none =>
    match hdistinct : firstRepeated? [] (identifier :: attributes.map (·.name)) with
    | some name =>
      .error (.schema ("'" ++ name ++ "' is declared twice in entity '" ++ entity ++ "'"))
    | none =>
      .ok
        { entity, identifier, attributes
          names_valid := fun n hn => by simpa using List.find?_eq_none.1 hvalid n hn
          names_distinct := (firstRepeated?_eq_none hdistinct).1 }

/-- The attribute with a name. -/
def attribute? (s : Schema) (name : String) : Option Attribute :=
  s.attributes.find? (·.name = name)

/-- What to say of a name that a schema does not declare. -/
def unknown (s : Schema) (name : String) : Error :=
  .unknownAttribute s.entity name

/-- What a name means: the identifier, or an attribute. -/
def resolve (s : Schema) (name : String) : Except Error Field :=
  if name = s.identifier then .ok .identifier
  else match s.attribute? name with
    | some a => .ok (.declared a)
    | none => .error (s.unknown name)

/-- Checks one attribute of a record: it is declared, and holds null or a value of its kind. -/
def validateAttribute (s : Schema) (name : String) (value : Value) : Except Error Unit :=
  match s.attribute? name with
  | none => .error (s.unknown name)
  | some a =>
    match value.kind? with
    | none => .ok ()
    | some found =>
      if found = a.kind then .ok () else .error (.kindMismatch name a.kind found.name)

/-- Checks the attributes of a record in the order of their names. -/
def validateAll (s : Schema) : List (String × Value) → Except Error Unit
  | [] => .ok ()
  | (name, value) :: rest =>
    match s.validateAttribute name value with
    | .ok () => s.validateAll rest
    | .error e => .error e

/-- Checks that a record fits, and reports the first attribute by name that does not. -/
def validate (s : Schema) (r : Record) : Except Error Unit :=
  s.validateAll r.attributes.toList

/-- A record fits if each of its attributes is declared and holds null or a value of its kind. -/
def Admits (s : Schema) (r : Record) : Prop :=
  ∀ name value, (name, value) ∈ r.attributes.toList →
    ∃ a, s.attribute? name = some a ∧ (value.kind? = none ∨ value.kind? = some a.kind)

theorem validateAttribute_eq_ok_iff {s : Schema} {name : String} {value : Value} :
    s.validateAttribute name value = .ok () ↔
      ∃ a, s.attribute? name = some a ∧ (value.kind? = none ∨ value.kind? = some a.kind) := by
  unfold validateAttribute
  split
  · simp [*]
  · split
    · simp [*]
    · split <;> simp [*]

theorem validateAll_eq_ok_iff {s : Schema} {attributes : List (String × Value)} :
    s.validateAll attributes = .ok () ↔
      ∀ name value, (name, value) ∈ attributes →
        ∃ a, s.attribute? name = some a ∧ (value.kind? = none ∨ value.kind? = some a.kind) := by
  induction attributes with
  | nil => simp [validateAll]
  | cons b rest ih =>
    obtain ⟨name, value⟩ := b
    have key := @validateAttribute_eq_ok_iff s name value
    simp only [validateAll, List.mem_cons, Prod.mk.injEq]
    split
    · next h =>
      rw [ih]
      exact ⟨fun hr n v hnv => by
          rcases hnv with ⟨rfl, rfl⟩ | hnv
          · exact key.1 h
          · exact hr n v hnv,
        fun hr n v hnv => hr n v (.inr hnv)⟩
    · next h =>
      simp only [reduceCtorEq, false_iff]
      intro hr
      have := key.2 (hr name value (.inl ⟨rfl, rfl⟩))
      simp_all

theorem validate_eq_ok_iff {s : Schema} {r : Record} : s.validate r = .ok () ↔ s.Admits r :=
  validateAll_eq_ok_iff

/-- The value of a member of a JSON object, of the kind that the schema declares for its name. -/
def valueOfMember (s : Schema) (name : String) (member : Json) : Except Error Value :=
  match s.attribute? name with
  | none => .error (s.unknown name)
  | some a =>
    match Value.ofJson? a.kind member with
    | some v => .ok v
    | none => .error (.kindMismatch name a.kind member.compact)

/-- The record that a JSON object describes: the member named like the identifier is the
    identifier, and every other one an attribute. -/
def recordOfJson (s : Schema) (json : Json) : Except Error Record := do
  let .object members := json
    | throw (.source ("a '" ++ s.entity ++ "' record must be a JSON object"))
  let members := NameMap.ofList members
  let some id := (members.get? s.identifier).bind RecordId.ofJson?
    | throw (.source ("a '" ++ s.entity ++ "' record is missing its '" ++ s.identifier ++
        "' identifier"))
  let attributes ← (members.toList.filter (·.1 != s.identifier)).mapM fun (name, member) => do
    return (name, ← s.valueOfMember name member)
  return .ofList id attributes

end Schema

end PagedQuery
