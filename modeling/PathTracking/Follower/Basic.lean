import PathTracking.Follower.Inputs
import PathTracking.Settings.Basic
import PathTracking.Tracking.Tracker

/-!
# The follower

A tick reads the inputs, asks the tracker for a curvature and commands the vehicle.
Without a curvature the last command is repeated for a limited number of ticks; then the
follower stops and aborts. It completes at the goal, or when no waypoint lies beyond the
minimum lookahead distance any more.
-/
namespace PathTracking

inductive Phase
  | idle
  | tracking
  | holding
  | completed
  | aborted
  deriving DecidableEq, Repr

def Phase.name : Phase → String
  | idle => "IDLE"
  | tracking => "TRACKING"
  | holding => "HOLDING"
  | completed => "COMPLETED"
  | aborted => "ABORTED"

def Phase.number : Phase → Nat
  | idle => 0
  | tracking => 1
  | holding => 2
  | completed => 3
  | aborted => 4

/-- A speed in metres and a yaw rate in radians per second. -/
structure Command (α : Type) where
  speed : α
  yawRate : α
  deriving DecidableEq, Repr

/-- What the follower tells the vehicle. -/
inductive Call (α : Type)
  | drive (command : Command α)
  | stop
  deriving DecidableEq, Repr

structure Follower (α : Type) where
  settings : Settings α
  tracker : Tracker α
  phase : Phase
  done : Bool
  /-- The outcome of the last computation. -/
  last : Option (Tick α)
  /-- The last command given since the follower was armed. -/
  command : Option (Command α)
  /-- Ticks in a row without curvature. -/
  held : Nat
  /-- The revision of the inputs' route that the tracker holds. -/
  revision : Option Nat
  deriving DecidableEq, Repr

/-- What an operation of the follower brings about, beside its new state. -/
structure Report (α : Type) where
  result : Except TrackingFault (Option (Tick α))
  calls : List (Call α)
  notices : List Notice

namespace Report

variable {α : Type}

def silent : Report α := ⟨.ok none, [], []⟩

end Report

namespace Follower

variable {α : Type} [Scalar α]

def new (settings : Settings α) : Follower α where
  settings
  tracker := .new settings.toLookahead
  phase := .idle
  done := false
  last := none
  command := none
  held := 0
  revision := none

/-- The goal is reached within the minimum distance of the last waypoint, but only once
the tracker aims at it. -/
def reachedGoal (f : Follower α) (pose : Pose α) (route : Route α) : Bool :=
  match route.getLast? with
  | none => false
  | some goal =>
    f.tracker.aim.index == (route.length : Int) - 1 &&
      pose.position.planeDistance goal.position ≤ f.settings.minimum

/-- Ends the run. The vehicle is stopped. -/
def finish (f : Follower α) (phase : Phase) : Follower α := { f with phase, done := true }

/-- Takes a new route over from the inputs. -/
def sync (f : Follower α) (inputs : Inputs α) : Follower α :=
  if f.revision = some inputs.revision then f
  else { f with revision := some inputs.revision, tracker := f.tracker.setRoute inputs.route }

/-- What follows from the outcome of a computation. -/
def react (f : Follower α) (tick : Tick α) : Follower α × List (Call α) × List Notice :=
  let f := { f with last := some tick }
  match tick.status with
  | .ok =>
    let command : Command α := ⟨f.settings.speed, f.settings.speed * tick.kappa⟩
    ({ f with command := some command, held := 0, phase := .tracking }, [.drive command], [])
  | .noValidCurve => (f.finish .completed, [.stop], [.reachedEnd])
  | status =>
    if f.held < f.settings.maxHold then
      let call := match f.command with
        | some command => .drive command
        | none => .stop
      ({ f with held := f.held + 1, phase := .holding }, [call],
        [.holding (f.held + 1) f.settings.maxHold])
    else (f.finish .aborted, [.stop], [.aborted status])

/-- One tick of the control loop. A computation that is interrupted changes nothing but
what the tracker holds. -/
def tick (f : Follower α) (inputs : Inputs α) : Follower α × Report α :=
  if f.done then (f, .silent)
  else
    let f := f.sync inputs
    match inputs.pose with
    | none => (f, .silent)
    | some pose =>
      if inputs.route.isEmpty then (f, .silent)
      -- The aim that the goal is checked against is that of the tick before.
      else if f.reachedGoal pose inputs.route then
        (f.finish .completed, ⟨.ok f.last, [.stop], [.reachedGoal]⟩)
      else
        let f := { f with tracker := f.tracker.setPose (some pose) }
        match f.tracker.tick with
        | .error fault => (f, ⟨.error fault, [], []⟩)
        | .ok (tracker, tick, noticed) =>
          let (f, calls, notices) := { f with tracker }.react tick
          (f, ⟨.ok (some tick), calls, noticed ++ notices⟩)

/-- An emergency stop. A finished run stays as it ended. -/
def estop (f : Follower α) : Follower α × Report α :=
  (if f.done then f else f.finish .aborted, ⟨.ok none, [.stop], []⟩)

/-- Forgets the run so far. -/
def rearm (f : Follower α) : Follower α :=
  { f with done := false, phase := .idle, command := none, held := 0 }

/-- Starts over on a new route, which goes to the inputs. -/
def load (f : Follower α) (inputs : Inputs α) (route : Route α) :
    Follower α × Inputs α × Report α :=
  (f.rearm, inputs.replaceRoute route, ⟨.ok none, [.stop], [.loadedPath route.length]⟩)

/-- Goes on after an abort; any other run is left alone. -/
def resume (f : Follower α) : Follower α := if f.phase = .aborted then f.rearm else f

end Follower
end PathTracking
