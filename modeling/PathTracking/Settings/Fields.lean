import PathTracking.Value

/-!
# Fields

Untyped values by name, as the keywords of a record and the entries of a settings file give them.
-/
namespace PathTracking

/-- Untyped fields by name. -/
abbrev Fields := List (String × Value)

namespace Fields

def get? (fields : Fields) (name : String) : Option Value :=
  (fields.find? fun (n, _) => n == name).map Prod.snd

/-- Sets a field, in its old place if it is there. -/
def put (fields : Fields) (name : String) (value : Value) : Fields :=
  match fields with
  | [] => [(name, value)]
  | (n, v) :: rest =>
    if n == name then (n, value) :: rest else (n, v) :: put rest name value

/-- The fields of `later` over those of `fields`. -/
def update (fields later : Fields) : Fields :=
  later.foldl (fun acc (n, v) => put acc n v) fields

/-- The fields of a mapping, if all its keys are texts. No field has the name of a broken text. -/
def ofEntries? : List (Value × Value) → Option Fields
  | [] => some []
  | (.text s, v) :: rest => (ofEntries? rest).map ((s, v) :: ·)
  | (.broken _, _) :: rest => ofEntries? rest
  | _ => none

end Fields
end PathTracking
