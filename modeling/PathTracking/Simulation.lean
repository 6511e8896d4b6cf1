import PathTracking.Follower.Loop
import PathTracking.Planner

/-!
# Simulation

A follower drives a simulated vehicle along a route until it finishes or the ticks run
out. In each cycle the follower ticks, the vehicle moves, its pose becomes an input, and
the planner replaces the local route if the closest waypoint changed.
-/
namespace PathTracking

variable {α : Type} [Scalar α]

/-- On the first waypoint, facing the second one if there is one. -/
def Route.defaultStart : Route α → Except TrackingFault (Pose α)
  | [] => .error (.noWaypoint 0 0)
  | [w] => .ok ⟨w.x, w.y, w.z, 0.0⟩
  | w :: next :: _ =>
    .ok ⟨w.x, w.y, w.z, Scalar.toDegrees (Scalar.atan2 (next.y - w.y) (next.x - w.x))⟩

/-- How a simulation ended. -/
structure Summary (α : Type) where
  phase : Phase
  ticks : Nat
  finalPose : Pose α
  /-- The plane distance to the last waypoint of the whole route. -/
  toGoal : α
  /-- In degrees. -/
  lastSteering : α
  deriving DecidableEq, Repr

structure Simulation (α : Type) where
  rig : Rig α
  planner : Planner α
  ticks : Nat
  /-- All notices so far, the latest first. -/
  notices : List Notice
  deriving DecidableEq, Repr

namespace Simulation

def done (s : Simulation α) : Bool := s.rig.loop.follower.done

/-- The vehicle at the start, and the local route from there in the inputs. -/
def init (route : Route α) (settings : Settings α) (start : Pose α) :
    Except TrackingFault (Simulation α) := do
  let vehicle ← (Vehicle.new start settings.wheelbase Vehicle.defaultMaxSteer : Except Fault _)
  let (planner, ahead) := (Planner.new route none).update start
  let inputs := Inputs.new (ahead.getD []) (some start)
  return ⟨⟨.new settings inputs, vehicle⟩, planner, 0, []⟩

/-- One cycle of `dt` seconds. -/
def cycle (s : Simulation α) (dt : α) : Except TrackingFault (Simulation α) := do
  let (rig, report) := s.rig.apply .tick
  let _ ← report.result
  let rig ← rig.step dt
  let (planner, ahead) := s.planner.update rig.vehicle.pose
  let rig := match ahead with
    | some route => (rig.apply (.replaceRoute route)).1
    | none => rig
  return ⟨rig, planner, s.ticks + 1, report.notices.reverse ++ s.notices⟩

/-- Cycles until the follower is done, at most as many as are left. -/
def run (s : Simulation α) (dt : α) : Nat → Except TrackingFault (Simulation α)
  | 0 => .ok s
  | left + 1 =>
    if s.done then .ok s
    else
      match s.cycle dt with
      | .ok s => s.run dt left
      | .error fault => .error fault

/-- A run that is not done is stopped. -/
def conclude (s : Simulation α) : Simulation α :=
  if s.done then s
  else { s with rig := (s.rig.apply .estop).1, notices := .stopped s.ticks :: s.notices }

def summary (s : Simulation α) (route : Route α) : Except TrackingFault (Summary α) :=
  match route.getLast? with
  | none => .error (.noWaypoint (-1) 0)
  | some goal =>
    let vehicle := s.rig.vehicle
    .ok {
      phase := s.rig.loop.follower.phase
      ticks := s.ticks
      finalPose := vehicle.pose
      toGoal := vehicle.pose.position.planeDistance goal.position
      lastSteering := vehicle.steeringAngle vehicle.kappa }

end Simulation

/-- Simulates a run from `start`, or from the default start, with its notices in order. -/
def simulate (route : Route α) (settings : Settings α) (start : Option (Pose α)) :
    Except TrackingFault (Summary α × List Notice) := do
  let start ← match start with
    | some pose => .ok pose
    | none => route.defaultStart
  let s ← Simulation.init route settings start
  let dt ← (Scalar.div 1.0 settings.rate : Except Fault α)
  let s := (← s.run dt settings.maxTicks).conclude
  return (← s.summary route, s.notices.reverse)

end PathTracking
