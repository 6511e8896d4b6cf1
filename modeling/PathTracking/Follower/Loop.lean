import PathTracking.Follower.Basic
import PathTracking.Vehicle

/-!
# The control loop

A follower with its inputs, driven by events, and a *rig*, which couples such a loop to a
simulated vehicle: the vehicle obeys the calls and its pose comes back as an input.
-/
namespace PathTracking

/-- What can happen to a control loop. -/
inductive Event (α : Type)
  | updatePose (pose : Option (Pose α))
  | replaceRoute (route : Route α)
  | load (route : Route α)
  | tick
  | estop
  | resume
  deriving DecidableEq, Repr

structure ControlLoop (α : Type) where
  follower : Follower α
  inputs : Inputs α
  deriving DecidableEq, Repr

namespace ControlLoop

variable {α : Type} [Scalar α]

def new (settings : Settings α) (inputs : Inputs α) : ControlLoop α :=
  ⟨.new settings, inputs⟩

def apply (l : ControlLoop α) : Event α → ControlLoop α × Report α
  | .updatePose pose => ({ l with inputs := l.inputs.updatePose pose }, .silent)
  | .replaceRoute route => ({ l with inputs := l.inputs.replaceRoute route }, .silent)
  | .load route =>
    let (follower, inputs, report) := l.follower.load l.inputs route
    (⟨follower, inputs⟩, report)
  | .tick =>
    let (follower, report) := l.follower.tick l.inputs
    ({ l with follower }, report)
  | .estop =>
    let (follower, report) := l.follower.estop
    ({ l with follower }, report)
  | .resume => ({ l with follower := l.follower.resume }, .silent)

/-- The state after a sequence of events, and the report of each. -/
def run (l : ControlLoop α) : List (Event α) → ControlLoop α × List (Report α)
  | [] => (l, [])
  | event :: rest =>
    let (l, report) := l.apply event
    let (l, reports) := l.run rest
    (l, report :: reports)

end ControlLoop

/-- A control loop that drives a vehicle. -/
structure Rig (α : Type) where
  loop : ControlLoop α
  vehicle : Vehicle α
  deriving DecidableEq, Repr

namespace Rig

variable {α : Type} [Scalar α]

def apply (r : Rig α) (event : Event α) : Rig α × Report α :=
  let (loop, report) := r.loop.apply event
  (⟨loop, report.calls.foldl Vehicle.obey r.vehicle⟩, report)

/-- The vehicle moves on for `dt` seconds and reports its pose. -/
def step (r : Rig α) (dt : α) : Except Fault (Rig α) := do
  let vehicle ← r.vehicle.step dt
  return ⟨(r.loop.apply (.updatePose (some vehicle.pose))).1, vehicle⟩

end Rig
end PathTracking
