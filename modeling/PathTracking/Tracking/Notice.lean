import PathTracking.Tracking.Interpolation
import PathTracking.Tracking.Tick

/-!
# Notices

What a run reports while it goes on. A notice has a channel, the part of the program that
speaks, and a severity; its text is fixed by its cause.
-/
namespace PathTracking

inductive Severity
  | info
  | warning
  deriving DecidableEq, Repr

def Severity.name : Severity → String
  | info => "INFO"
  | warning => "WARNING"

/-- The rank of a severity among the log levels. -/
def Severity.rank : Severity → Nat
  | info => 20
  | warning => 30

inductive Notice
  | noPose
  | lostTarget (miss : Miss)
  | noCurvature (status : Status)
  | loadedPath (count : Nat)
  | holding (tick limit : Nat)
  | reachedGoal
  | reachedEnd
  | aborted (status : Status)
  | following (count : Nat) (lookahead : String) (interpolate : Bool)
  | logging (place : String)
  | stopped (ticks : Nat)
  deriving DecidableEq, Repr

namespace Notice

def severity : Notice → Severity
  | aborted _ | stopped _ => .warning
  | _ => .info

def channel : Notice → String
  | noPose | lostTarget _ | noCurvature _ => "waypoint_follower.core.controllers"
  | following .. | logging _ | stopped _ => "waypoint_follower.main"
  | _ => "waypoint_follower.core.state_machine"

def text : Notice → String
  | noPose => "no pose received yet"
  | lostTarget miss => s!"lost target ({miss.name})"
  | noCurvature status => s!"no curvature this tick: {status.name}"
  | loadedPath count => s!"Loaded path with {count} waypoints"
  | holding tick limit => s!"Holding last command ({tick}/{limit})"
  | reachedGoal => "Reached final waypoint"
  | reachedEnd => "Reached end of path"
  | aborted status => s!"Tracking aborted: {status.name}"
  | following count lookahead interpolate =>
    let mode := if interpolate then "on" else "off"
    s!"Following {count} waypoints (lookahead {lookahead} m, interpolation {mode})"
  | logging place => s!"Writing log to {place}"
  | stopped ticks => s!"Stopped after {ticks} ticks without finishing"

/-- A notice as it appears on the console. -/
def line (n : Notice) : String := s!"{n.severity.name} [{n.channel}] {n.text}"

end Notice
end PathTracking
