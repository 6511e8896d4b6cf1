import PathTracking.Library
import PathTracking.LoadError
import PathTracking.Settings.Records

/-!
# Layers of settings

Settings come in three layers: the defaults, a settings file and overrides. A later layer
counts field by field over an earlier one, except that an override of `null` says nothing.
-/
namespace PathTracking

namespace Fields

def defaults : Fields := [
  ("lookahead_distance", .float 4.5),
  ("minimum_lookahead_distance", .float 1.0),
  ("use_linear_interpolation", .bool true),
  ("speed_mps", .float 2.0),
  ("rate_hz", .float 20.0),
  ("max_hold_ticks", .int 5),
  ("max_ticks", .int 3000),
  ("wheelbase_m", .float 2.7),
  ("log_level", .text "INFO"),
  ("log_file", .text "logs/waypoint_follower.log"),
  ("log_max_bytes", .int 2097152),
  ("log_backup_count", .int 3)]

/-- A name and a value from an element of a list of such pairs. -/
def pair (index : Nat) (element : Value) : Except LoadError (Value × Value) := do
  match ← (element.elements : Except Misfit _) with
  | [key, value] =>
    if key.isHashable then return (key, value) else throw (.misfit .wrongKind)
  | parts => throw (.badPair index parts.length)

/-- Reads pairs from the element with the given index on. -/
def pairs (index : Nat) : List Value → Except LoadError (List (Value × Value))
  | [] => .ok []
  | element :: rest => do
    let first ← pair index element
    return first :: (← pairs (index + 1) rest)

/-- The fields in a settings document: a mapping, a list of pairs or nothing. All names
have to be texts. -/
def ofDocument (document : Document) : Except LoadError Fields := do
  let entries ← match document.root with
    | .mapping entries => pure entries
    | root =>
      if root.isGiven then
        pairs 0 ((← (root.elements : Except Misfit _)).map document.follow)
      else pure []
  match ofEntries? entries with
  | some fields => return fields
  | none => throw (.misfit .wrongKind)

/-- The fields of all layers. -/
def layered (file overrides : Fields) : Fields :=
  (defaults.update file).update (overrides.filter fun (_, value) => !value.isNull)

end Fields

namespace Settings

variable (library : Library)

/-- The settings of a file's fields and some overrides. -/
def ofLayers (file overrides : Fields) : Except LoadError (Settings Float) :=
  (ofFields library.validator (Fields.layered file overrides)).mapError .invalid

variable {m : Type → Type} [Monad m]

/-- The fields in the settings file, none without a file name. -/
def fileFields (host : Host m) (config : Option String) : ExceptT LoadError m Fields := do
  match config with
  | none | some "" => return []
  | some name =>
    let content ← (host.read name).adapt .file
    let document : Except LoadError Document := (library.readDocument content).mapError .document
    Fields.ofDocument (← document)

/-- The settings from a file, if one is named, and some overrides. -/
def load (host : Host m) (config : Option String) (overrides : Fields) :
    ExceptT LoadError m (Settings Float) := do
  ofLayers library (← fileFields library host config) overrides

end Settings
end PathTracking
