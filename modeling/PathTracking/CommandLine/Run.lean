import PathTracking.CommandLine.Arguments
import PathTracking.Decimal.Rounded
import PathTracking.Json.Print
import PathTracking.Log
import PathTracking.Route.Load
import PathTracking.Settings.Layers
import PathTracking.Simulation
import PathTracking.StartPose

/-!
# Runs from the command line

A run loads its settings, its start pose and its route, sets up the log, simulates, and
tells how the simulation ended. Its exit code is zero for a route that was completed, one
for one that was not, and two if there was nothing to simulate.
-/
namespace PathTracking.CommandLine

/-- What a run leaves behind. -/
structure Outcome where
  code : Nat
  /-- What is said about inputs that cannot be used. -/
  messages : List String
  /-- The lines of the log. -/
  log : List String
  /-- Where the log is written besides the console. -/
  logFile : Option LogFile
  summary : Option (Summary Float)

/-- What breaks a run off. -/
inductive Breakdown
  | load (error : LoadError)
  | tracking (fault : TrackingFault)

def Breakdown.message : Breakdown → String
  | load error => error.message
  | tracking fault => fault.message

def programName : String := "waypoint-follower"

/-- How a run is started. -/
def usage : String :=
  s!"usage: {programName} run --path FILE [options]\n\noptions:\n" ++
    "\n".intercalate (Switch.all.map fun s =>
      "  " ++ s.name ++ (if s.isAlone then "" else " VALUE"))

/-- The outcome for inputs that cannot be used. -/
def Outcome.refused (message : String) : Outcome :=
  ⟨2, [s!"{programName}: {message}"], [], none, none⟩

/-- The outcome of a command line that starts no run. -/
def Refusal.outcome : Refusal → Outcome
  | .usage => ⟨2, [], [], none, none⟩
  | .help => ⟨0, [], [], none, none⟩

/-- Everything a run needs. -/
structure Prepared where
  settings : Settings Float
  start : Option (Pose Float)
  log : Log
  route : Route Float

namespace Prepared

variable {m : Type → Type} [Monad m]

/-- An empty start pose counts as none. -/
def startOf : Option String → Except LoadError (Option (Pose Float))
  | none | some "" => .ok none
  | some text => (Pose.ofText text).map some

/-- Loads the inputs in order; the first that cannot be used counts. -/
def load (library : Library) (host : Host m) (a : Arguments) : ExceptT LoadError m Prepared := do
  let settings ← Settings.load library host a.options.config a.options.overrides
  let start ← startOf a.options.start
  let log ← Log.setUp host settings (!a.options.noLogFile)
  let route ← Route.load library host a.name
  return { settings, start, log, route }

/-- What the log says before the simulation. -/
def opening (p : Prepared) : List Notice :=
  .following p.route.length (Decimal.fixed p.settings.distance 2) p.settings.interpolate ::
    p.log.file.toList.map fun file => .logging file.place

/-- Simulates a route that is not empty. -/
def simulate (p : Prepared) : Except TrackingFault Outcome := do
  let (summary, notices) ← PathTracking.simulate p.route p.settings p.start
  return {
    code := if summary.phase = .completed then 0 else 1
    messages := []
    log := p.log.console (p.opening ++ notices)
    logFile := p.log.file
    summary := some summary }

/-- The outcome of a run along the route of the file `name`. -/
def outcome (p : Prepared) (name : String) : Except TrackingFault Outcome :=
  if p.route.isEmpty then .ok (.refused s!"no waypoints in {name}") else p.simulate

end Prepared

variable {m : Type → Type} [Monad m] (library : Library)

/-- A run with arguments that were understood. -/
def runWith (host : Host m) (a : Arguments) : ExceptT Breakdown m Outcome :=
  ExceptT.mk do
    match ← (Prepared.load library host a).run with
    | .ok p => return (p.outcome a.name).mapError .tracking
    | .error e => return if e.isReported then .ok (.refused e.message) else .error (.load e)

/-- A run from its command line, with the log level that holds unless one is given. -/
def run (host : Host m) (level : Option String) (argv : List String) :
    ExceptT Breakdown m Outcome :=
  match Arguments.parse level argv with
  | .ok a => runWith library host a
  | .error refusal => pure refusal.outcome

/-- An entry of an object, after the blanks in front of it. -/
def entryLine (blanks name value : String) : String :=
  blanks ++ Json.quote name ++ ": " ++ value

/-- The text that tells how a simulation ended. -/
def summaryText (s : Summary Float) : String :=
  let pose := ",\n".intercalate [
    entryLine "    " "x" (Json.number s.finalPose.x),
    entryLine "    " "y" (Json.number s.finalPose.y),
    entryLine "    " "yaw_deg" (Json.number s.finalPose.yaw)]
  let entries := ",\n".intercalate [
    entryLine "  " "state" (Json.quote s.phase.name),
    entryLine "  " "ticks" (toString s.ticks),
    entryLine "  " "final_pose" ("\x7b\n" ++ pose ++ "\n  \x7d"),
    entryLine "  " "distance_to_goal_m" (Json.number s.toGoal),
    entryLine "  " "last_steering_deg" (Json.number s.lastSteering)]
  "\x7b\n" ++ entries ++ "\n\x7d"

end PathTracking.CommandLine
