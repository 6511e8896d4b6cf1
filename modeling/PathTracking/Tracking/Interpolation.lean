import PathTracking.Geometry.Line
import PathTracking.Route.Waypoint

/-!
# The target on a segment

The lookahead circle is centred on the vehicle. The target is the point where it crosses
the segment that leads to the waypoint aimed at: of two crossings the one ahead, unless
only the one behind lies within the segment.
-/
namespace PathTracking

/-- What interrupts a tracking computation. -/
inductive TrackingFault
  | arithmetic (fault : Fault)
  | noWaypoint (index : Int) (length : Nat)
  deriving DecidableEq, Repr

def TrackingFault.message : TrackingFault → String
  | arithmetic fault => fault.message
  | noWaypoint index length => s!"waypoint index {index} outside path of length {length}"

instance : MonadLift (Except Fault) (Except TrackingFault) where
  monadLift := Except.mapError .arithmetic

/-- Why a segment yields no target. -/
inductive Miss
  /-- The ends of the segment coincide. -/
  | degenerate
  /-- The circle does not reach the line. -/
  | outOfRange
  /-- Neither normal leads to the line. -/
  | geometryMismatch
  | noIntersectionOnSegment
  deriving DecidableEq, Repr

def Miss.name : Miss → String
  | degenerate => "degenerate"
  | outOfRange => "out_of_range"
  | geometryMismatch => "geometry_mismatch"
  | noIntersectionOnSegment => "no_intersection_on_segment"

variable {α : Type} [Scalar α]

/-- The foot of the perpendicular from `here`, which is `d` away from the line: only one
of the two normals of `unit` leads to it. -/
def Line.foot (line : Line α) (here : Point α) (d : α) (unit : Planar α) :
    Except Fault (Option (Point α)) := do
  let onLeft := here.along (← unit.rotate 90.0) d here.z
  let onRight := here.along (← unit.rotate (-90.0)) d here.z
  return if line.holds onLeft then some onLeft
    else if line.holds onRight then some onRight
    else none

/-- The crossing of the circle with the segment, once the foot is known. -/
def crossing (stop start foot here : Point α) (unit : Planar α) (d reach : α) :
    Except Fault (Except Miss (Point α)) := do
  let s ← Scalar.sqrt ((← Scalar.square reach) - (← Scalar.square d))
  let ahead := foot.along unit s here.z
  let behind := foot.against unit s here.z
  let interval := stop.planeDistance start
  return if ahead.planeDistance stop < interval then .ok ahead
    else if behind.planeDistance stop < interval then .ok behind
    else .error .noIntersectionOnSegment

/-- The target on the segment from `start` to `stop`. -/
def interpolateOn (start stop here : Point α) (reach : α) :
    Except Fault (Except Miss (Point α)) :=
  match Line.through start stop with
  | .error _ => .ok (.error .degenerate)
  | .ok line => do
    let d ← line.distance here
    if d > reach then return .error .outOfRange
    let length := Scalar.hypot (stop.x - start.x) (stop.y - start.y)
    let unit : Planar α :=
      ⟨← Scalar.div (stop.x - start.x) length, ← Scalar.div (stop.y - start.y) length⟩
    match ← line.foot here d unit with
    | none => return .error .geometryMismatch
    | some foot =>
      if d == reach then return .ok foot
      crossing stop start foot here unit d reach

/-- The target for the waypoint at `index`. The first waypoint, which no segment leads
to, and the last one are targets themselves. -/
def Route.interpolate (route : Route α) (index : Int) (pose : Pose α) (reach : α) :
    Except TrackingFault (Except Miss (Point α)) :=
  match index with
  | .negSucc _ => .error (.noWaypoint index route.length)
  | .ofNat i =>
    match route[i]? with
    | none => .error (.noWaypoint index route.length)
    | some w =>
      if i + 1 = route.length then .ok (.ok w.position)
      else
        match i, route[i - 1]? with
        | _ + 1, some before => interpolateOn before.position w.position pose.position reach
        | _, _ => .ok (.ok w.position)

end PathTracking
