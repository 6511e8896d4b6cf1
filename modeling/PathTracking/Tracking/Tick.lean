import PathTracking.Tracking.Curvature
import PathTracking.Tracking.Interpolation
import PathTracking.Tracking.Search

/-!
# One tracking computation

From route, pose and configuration to a target and its curvature, as a function of these
three alone. Each way to fail is a status of the result.
-/
namespace PathTracking

/-- The circles that steer the tracker, in metres: targets lie on the one of radius
`distance`; with the whole route inside the one of radius `minimum` it is at its end. -/
structure Lookahead (α : Type) where
  distance : α
  minimum : α
  /-- Aim between waypoints, not only at them. -/
  interpolate : Bool
  deriving DecidableEq, Repr

inductive Status
  | ok
  /-- There is no route, or no pose. -/
  | pathLost
  /-- No waypoint lies beyond the minimum distance. -/
  | noValidCurve
  /-- The segment aimed at yields no target. -/
  | targetLost
  deriving DecidableEq, Repr

def Status.name : Status → String
  | ok => "ok"
  | pathLost => "path_lost"
  | noValidCurve => "no_valid_curve"
  | targetLost => "target_lost"

inductive TargetKind
  /-- A waypoint itself. -/
  | raw
  | interpolated
  deriving DecidableEq, Repr

def TargetKind.name : TargetKind → String
  | raw => "raw"
  | interpolated => "interpolated"

/-- What the tracker aims at: the waypoint, -1 for none, and the target point. -/
structure Aim (α : Type) where
  index : Int
  target : Option (Point α)
  deriving DecidableEq, Repr

def Aim.unset {α : Type} : Aim α := ⟨-1, none⟩

/-- The outcome of a tracking computation. The curvature counts only if it succeeded. -/
structure Tick (α : Type) where
  status : Status
  kappa : α
  aim : Aim α
  kind : Option TargetKind
  miss : Option Miss
  deriving DecidableEq, Repr

variable {α : Type} [Scalar α]

namespace Tick

def succeeded (t : Tick α) : Bool := t.status = .ok

def pathLost : Tick α := ⟨.pathLost, 0.0, .unset, none, none⟩

def noValidCurve (index : Nat) : Tick α := ⟨.noValidCurve, 0.0, ⟨index, none⟩, none, none⟩

def targetLost (index : Nat) (kind : TargetKind) (miss : Miss) : Tick α :=
  ⟨.targetLost, 0.0, ⟨index, none⟩, some kind, some miss⟩

def onTarget (index : Nat) (target : Point α) (kind : TargetKind) (kappa : α) : Tick α :=
  ⟨.ok, kappa, ⟨index, some target⟩, some kind, none⟩

end Tick

/-- Waypoints are aimed at directly at both ends of a route, and everywhere if
interpolation is off. -/
def TargetKind.choose (length : Int) (index : Int) (interpolate : Bool) : TargetKind :=
  if !interpolate || index == 0 || index == length - 1 then .raw else .interpolated

/-- The target of the waypoint at `index`, of the given kind. -/
def Route.target (route : Route α) (index : Nat) (kind : TargetKind) (pose : Pose α)
    (reach : α) : Except TrackingFault (Except Miss (Point α)) :=
  match kind with
  | .interpolated => route.interpolate index pose reach
  | .raw =>
    match route[index]? with
    | some w => .ok (.ok w.position)
    | none => .error (.noWaypoint index route.length)

/-- One tracking computation. -/
def Route.track (route : Route α) (pose : Pose α) (config : Lookahead α) :
    Except TrackingFault (Tick α) :=
  match route.search pose config.distance with
  | none => .ok .pathLost
  | some index =>
    if !route.reachesBeyond pose config.minimum then .ok (.noValidCurve index)
    else do
      let kind := TargetKind.choose route.length index config.interpolate
      match ← route.target index kind pose config.distance with
      | .error miss => return .targetLost index kind miss
      | .ok target => return .onTarget index target kind (← pose.curvatureTo target saturation)

end PathTracking
