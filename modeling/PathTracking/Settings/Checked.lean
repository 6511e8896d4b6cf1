import PathTracking.Settings.Coercion
import PathTracking.Settings.Records

/-!
# Checked records

A validator that reports every field that is wrong, in the order of the record's fields, and
objects to a record as a whole only if none is. `Checked` collects what is wrong.
-/
namespace PathTracking

inductive Checked (α : Type)
  | valid (value : α)
  | invalid (violations : List Violation)

namespace Checked

/-- Both sides are checked; violations of the first come first. -/
def apply {α β : Type} : Checked (α → β) → Checked α → Checked β
  | valid f, valid a => valid (f a)
  | valid _, invalid vs => invalid vs
  | invalid vs, valid _ => invalid vs
  | invalid vs, invalid ws => invalid (vs ++ ws)

instance : Applicative Checked where
  pure := valid
  seq f a := apply f (a ())

/-- The violations of an inner record, seen from the outer one. -/
def under {α : Type} (name : String) : Checked α → Checked α
  | valid a => valid a
  | invalid vs => invalid (vs.map fun v => { v with path := name :: v.path })

def ofDefect {α : Type} (name : String) (defect : Defect) : Checked α :=
  invalid [⟨[name], defect.code, defect.message⟩]

/-- What a value outside a bound is told. -/
def outside : Bound → Defect
  | .nonnegative => .negative
  | _ => .notPositive

/-- A field that is given is coerced and compared with its bound. -/
def field (given : Fields) (f : Field) : Checked f.type.Carrier :=
  match given.get? f.name, f.default with
  | none, none => ofDefect f.name .missing
  | none, some a => valid a
  | some v, _ =>
    match v.coerce f.type with
    | .error defect => ofDefect f.name defect
    | .ok a => if f.bound.admits f.type a then valid a else ofDefect f.name (outside f.bound)

def record (given : Fields) : (fields : List Field) → Checked (Record fields)
  | [] => valid ()
  | f :: rest => Prod.mk <$> field given f <*> record given rest

def toExcept {α : Type} (kind : RecordKind) : Checked α → Except Invalid α
  | valid a => .ok a
  | invalid vs =>
    let plural := if vs.length = 1 then "" else "s"
    .error ⟨kind, vs, s!"{vs.length} validation error{plural} for {kind.name}"⟩

/-- A further check of a record all of whose fields are valid. -/
def andThen {α β : Type} (c : Checked α) (check : α → Checked β) : Checked β :=
  match c with
  | valid a => check a
  | invalid vs => invalid vs

def build (schema : Schema) (given : Fields) : Except Invalid (Record schema.fields) :=
  ((record given schema.fields).andThen fun r =>
    match schema.objection r with
    | none => valid r
    | some text => invalid [⟨[], "value_error", "Value error, " ++ text⟩]).toExcept schema.kind

end Checked

def Validator.standard : Validator where
  coerce type v := (v.coerce type).toOption
  build := Checked.build

/-- The target of an aim: a point, or none. -/
def Aim.targetOf (given : Fields) : Checked (Option (Point Float)) :=
  let name := "next_target_position"
  match given.get? name with
  | none | some .null => .valid none
  | some (.mapping entries) =>
    match Fields.ofEntries? entries with
    | some inner =>
      ((fun r => some (Point.ofRecord r)) <$> Checked.record inner Point.schema.fields).under name
    | none => .ofDefect name .notPoint
  | some _ => .ofDefect name .notPoint

def Aim.ofFields (given : Fields) : Except Invalid (Aim Float) :=
  (Aim.mk <$> Checked.field given ⟨"next_waypoint_index", .integer, .free, some (-1)⟩
    <*> Aim.targetOf given).toExcept .aim

end PathTracking
