import PathTracking.Settings.Fields

/-!
# Schemas of records

A record is built from untyped fields by its schema: the name, the type, the bound and the default
of each field, and what can be said against the record as a whole. What value of a type an untyped
value is taken for, and what is told of fields that do not fit, is left to a validator.
-/
namespace PathTracking

/-- The types of fields. -/
inductive FieldType
  | real
  | integer
  | truth
  | text
  /-- A value of a type or, for `null`, none. -/
  | optional (type : FieldType)
  deriving DecidableEq, Repr

abbrev FieldType.Carrier : FieldType → Type
  | real => Float
  | integer => Int
  | truth => Bool
  | text => String
  | optional type => Option type.Carrier

/-- The bounds of numbers. -/
inductive Bound
  | free
  | positive
  | nonnegative
  deriving DecidableEq, Repr

/-- Whether a value is within a bound; NaN is within none. -/
def Bound.admits : Bound → (type : FieldType) → type.Carrier → Bool
  | .positive, .real, x => x > 0
  | .positive, .integer, n => n > 0
  | .nonnegative, .real, x => x ≥ 0
  | .nonnegative, .integer, n => n ≥ 0
  | _, _, _ => true

/-- A field of a record. Without a default it has to be given. -/
structure Field where
  name : String
  type : FieldType
  bound : Bound
  default : Option type.Carrier

/-- A value for each field. -/
def Record : List Field → Type
  | [] => Unit
  | field :: rest => field.type.Carrier × Record rest

/-- The records that are built from untyped fields. -/
inductive RecordKind
  | point
  | pose
  | waypoint
  | lookahead
  | aim
  | settings
  deriving DecidableEq, Repr

def RecordKind.name : RecordKind → String
  | point => "Point"
  | pose => "Pose"
  | waypoint => "Waypoint"
  | lookahead => "LookaheadConfig"
  | aim => "TrackingState"
  | settings => "FollowerSettings"

structure Schema where
  kind : RecordKind
  fields : List Field
  /-- What is said against a record all of whose fields are fine, if anything. -/
  objection : Record fields → Option String

/-- What is wrong with a field: the names that lead to it, none for the record as a whole, and a
code and a text for the reason. -/
structure Violation where
  path : List String
  code : String
  message : String
  deriving DecidableEq, Repr

/-- A record that could not be built. -/
structure Invalid where
  kind : RecordKind
  violations : List Violation
  message : String
  deriving DecidableEq, Repr

/-- How records are built. -/
structure Validator where
  /-- The value of a type that an untyped value is taken for, if there is one. -/
  coerce : (type : FieldType) → Value → Option type.Carrier
  build : (schema : Schema) → Fields → Except Invalid (Record schema.fields)

end PathTracking
