import PathTracking.Binary64.Arithmetic
import PathTracking.Decimal.Shortest
import PathTracking.Route.Waypoint
import PathTracking.Settings.Basic
import PathTracking.Settings.Schema

/-!
# Records from untyped fields

The domain's records, each with its schema. Fields that a record does not know are ignored. A
lookahead configuration has to have its two distances in order, and so have settings.
-/
namespace PathTracking

variable (validator : Validator)

namespace Point

def schema : Schema where
  kind := .point
  fields := [
    ⟨"x", .real, .free, none⟩,
    ⟨"y", .real, .free, none⟩,
    ⟨"z", .real, .free, some 0⟩]
  objection _ := none

def ofRecord : Record schema.fields → Point Float
  | (x, y, z, ()) => ⟨x, y, z⟩

def ofFields (fields : Fields) : Except Invalid (Point Float) :=
  (validator.build schema fields).map ofRecord

end Point

namespace Pose

def schema : Schema where
  kind := .pose
  fields := [
    ⟨"x", .real, .free, none⟩,
    ⟨"y", .real, .free, none⟩,
    ⟨"z", .real, .free, some 0⟩,
    ⟨"yaw_deg", .real, .free, some 0⟩]
  objection _ := none

def ofRecord : Record schema.fields → Pose Float
  | (x, y, z, yaw, ()) => ⟨x, y, z, yaw⟩

def ofFields (fields : Fields) : Except Invalid (Pose Float) :=
  (validator.build schema fields).map ofRecord

end Pose

namespace Waypoint

def schema : Schema where
  kind := .waypoint
  fields := [
    ⟨"x", .real, .free, none⟩,
    ⟨"y", .real, .free, none⟩,
    ⟨"z", .real, .free, some 0⟩,
    ⟨"speed_mps", .optional .real, .free, some none⟩]
  objection _ := none

def ofRecord : Record schema.fields → Waypoint Float
  | (x, y, z, speed, ()) => ⟨x, y, z, speed⟩

def ofFields (fields : Fields) : Except Invalid (Waypoint Float) :=
  (validator.build schema fields).map ofRecord

end Waypoint

namespace Lookahead

def fields : List Field := [
  ⟨"lookahead_distance", .real, .positive, none⟩,
  ⟨"minimum_lookahead_distance", .real, .positive, none⟩,
  ⟨"use_linear_interpolation", .truth, .free, some true⟩]

def ofRecord : Record fields → Lookahead Float
  | (distance, minimum, interpolate, ()) => ⟨distance, minimum, interpolate⟩

/-- The minimum must not exceed the distance. -/
def objection (l : Lookahead Float) : Option String :=
  if l.minimum > l.distance then
    some s!"minimum_lookahead_distance must not exceed lookahead_distance ({Decimal.text l.minimum} > {Decimal.text l.distance})"
  else none

def schema : Schema where
  kind := .lookahead
  fields := fields
  objection record := (ofRecord record).objection

def ofFields (given : Fields) : Except Invalid (Lookahead Float) :=
  (validator.build schema given).map ofRecord

/-- A configuration from values that are typed already. -/
def make (distance minimum : Float) (interpolate : Bool) : Except Invalid (Lookahead Float) :=
  ofFields validator [
    ("lookahead_distance", .float distance),
    ("minimum_lookahead_distance", .float minimum),
    ("use_linear_interpolation", .bool interpolate)]

end Lookahead

namespace Settings

/-- Settings have the fields of a lookahead configuration first. -/
def fields : List Field := Lookahead.fields ++ [
  ⟨"speed_mps", .real, .positive, some 1⟩,
  ⟨"rate_hz", .real, .positive, some 20⟩,
  ⟨"max_hold_ticks", .integer, .nonnegative, some 5⟩,
  ⟨"max_ticks", .integer, .positive, some 2000⟩,
  ⟨"wheelbase_m", .real, .positive, some 2.7⟩,
  ⟨"log_level", .text, .free, some "INFO"⟩,
  ⟨"log_file", .optional .text, .free, some (some "logs/waypoint_follower.log")⟩,
  ⟨"log_max_bytes", .integer, .positive, some 2097152⟩,
  ⟨"log_backup_count", .integer, .nonnegative, some 3⟩]

/-- The bounds of the fields keep the integers from being negative. -/
def ofRecord : Record fields → Settings Float
  | (distance, minimum, interpolate, speed, rate, maxHold, maxTicks, wheelbase, logLevel, logFile,
      logMaxBytes, logBackups, ()) => {
    distance, minimum, interpolate, speed, rate
    maxHold := maxHold.toNat
    maxTicks := maxTicks.toNat
    wheelbase, logLevel, logFile
    logMaxBytes := logMaxBytes.toNat
    logBackups := logBackups.toNat }

def schema : Schema where
  kind := .settings
  fields := fields
  objection record := (ofRecord record).toLookahead.objection

def ofFields (given : Fields) : Except Invalid (Settings Float) :=
  (validator.build schema given).map ofRecord

/-- The lookahead part, checked again on its own. -/
def lookahead (s : Settings Float) : Except Invalid (Lookahead Float) :=
  Lookahead.make validator s.distance s.minimum s.interpolate

end Settings
end PathTracking
