import PathTracking.Tracking.Notice

/-!
# The tracker

Holds the latest route, pose and configuration, and the aim of the last computation,
which a new route clears.
-/
namespace PathTracking

structure Tracker (α : Type) where
  config : Lookahead α
  pose : Option (Pose α)
  route : Route α
  aim : Aim α
  deriving DecidableEq, Repr

namespace Tracker

variable {α : Type} [Scalar α]

def new (config : Lookahead α) : Tracker α := ⟨config, none, [], .unset⟩

def setConfig (t : Tracker α) (config : Lookahead α) : Tracker α := { t with config }

/-- `none` drops a stale pose. -/
def setPose (t : Tracker α) (pose : Option (Pose α)) : Tracker α := { t with pose }

def setRoute (t : Tracker α) (route : Route α) : Tracker α := { t with route, aim := .unset }

/-- The position of the waypoint aimed at. -/
def aimedWaypoint (t : Tracker α) : Option (Point α) :=
  match t.aim.index with
  | .ofNat i => t.route[i]?.map Waypoint.position
  | .negSucc _ => none

/-- What a computation reports of its outcome. -/
def notices (tick : Tick α) : List Notice :=
  match tick.status, tick.miss with
  | .ok, _ => []
  | .targetLost, some miss => [.lostTarget miss]
  | status, _ => [.noCurvature status]

/-- A tracking computation on what the tracker holds. One that is interrupted leaves the
tracker as it was. -/
def tick (t : Tracker α) : Except TrackingFault (Tracker α × Tick α × List Notice) :=
  match t.pose with
  | none => .ok ({ t with aim := .unset }, .pathLost, [.noPose])
  | some pose =>
    match t.route.track pose t.config with
    | .error fault => .error fault
    | .ok tick => .ok ({ t with aim := tick.aim }, tick, notices tick)

end Tracker
end PathTracking
