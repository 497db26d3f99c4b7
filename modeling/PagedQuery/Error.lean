import PagedQuery.Value.Kind

/-!
# Errors

Everything that can go wrong, by cause.

* `Error.message`: the wording;
* `Error.isCallerError`: whether the cause lies in what was asked for, rather than in the data or in
  the place where they are kept.
-/

namespace PagedQuery

/-- The causes of failure. -/
inductive Error
  /-- An argument is malformed or out of range. -/
  | invalidArgument (reason : String)
  /-- An attribute is named that the entity does not declare. -/
  | unknownAttribute (entity name : String)
  /-- An attribute of one kind meets something else. -/
  | kindMismatch (name : String) (expected : Kind) (found : String)
  /-- An entity already has a record with this identifier. -/
  | duplicateRecord (entity id : String)
  /-- An entity is named that is not there. -/
  | unknownEntity (entity : String)
  /-- A schema is malformed, or not the one that was expected. -/
  | schema (reason : String)
  /-- The data that records are read from cannot be read. -/
  | source (reason : String)
  /-- The settings are unusable. -/
  | config (reason : String)
  /-- The store fails, or what it holds makes no sense. -/
  | persistence (reason : String)
  /-- The store is held by someone who will not return it. -/
  | lock (reason : String)
deriving DecidableEq

namespace Error

/-- The wording of an error. -/
def message : Error → String
  | invalidArgument reason => "Invalid argument: " ++ reason
  | unknownAttribute entity name =>
    "Unknown attribute '" ++ name ++ "' for entity '" ++ entity ++ "'"
  | kindMismatch name expected found =>
    "Attribute '" ++ name ++ "' holds " ++ expected.name ++ " values, got " ++ found
  | duplicateRecord entity id => "Duplicate record " ++ id ++ " in entity '" ++ entity ++ "'"
  | unknownEntity entity => "Unknown entity: " ++ entity
  | schema reason => "Schema error: " ++ reason
  | source reason => "Source error: " ++ reason
  | config reason => "Config error: " ++ reason
  | persistence reason => "Persistence error: " ++ reason
  | lock reason => "Lock poisoned: " ++ reason

/-- Whether the one who asked is at fault. -/
def isCallerError : Error → Bool
  | invalidArgument _ | unknownAttribute .. | kindMismatch .. | unknownEntity _ => true
  | _ => false

end Error

/-- What to say of a name that denotes no kind. -/
def Kind.unknownName (s : String) : Error :=
  .schema ("'" ++ s ++ "' is not a known data type")

end PagedQuery
