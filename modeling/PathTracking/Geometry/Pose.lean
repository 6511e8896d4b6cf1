import PathTracking.Geometry.Point

/-!
# Poses

A position with a heading: the yaw in degrees, counter-clockwise from the x axis. In the
local frame of a pose x points forward and y to the left.
-/
namespace PathTracking

structure Pose (α : Type) where
  x : α
  y : α
  z : α
  yaw : α
  deriving DecidableEq, Repr

/-- A unit quaternion. -/
structure Quaternion (α : Type) where
  x : α
  y : α
  z : α
  w : α
  deriving DecidableEq, Repr

variable {α : Type} [Scalar α]

/-- An angle in degrees from -180, which it may be, to 180, which it may not. -/
def wrapAngle (angle : α) : α :=
  let turned := Scalar.floorMod (angle + 180.0) 360.0 - 180.0
  if turned == 180.0 then -180.0 else turned

namespace Pose

def position (p : Pose α) : Point α := ⟨p.x, p.y, p.z⟩

/-- A position and an orientation, of which only the yaw is kept. -/
def ofQuaternion (place : Point α) (q : Quaternion α) : Pose α :=
  let sine := 2.0 * (q.w * q.z + q.x * q.y)
  let cosine := 1.0 - 2.0 * (q.y * q.y + q.z * q.z)
  ⟨place.x, place.y, place.z, Scalar.toDegrees (Scalar.atan2 sine cosine)⟩

/-- A point of the map in the local frame. -/
def toLocal (pose : Pose α) (p : Point α) : Except Fault (Point α) := do
  let cos ← Scalar.cos (Scalar.toRadians pose.yaw)
  let sin ← Scalar.sin (Scalar.toRadians pose.yaw)
  let dx := p.x - pose.x
  let dy := p.y - pose.y
  return ⟨cos * dx + sin * dy, -sin * dx + cos * dy, p.z - pose.z⟩

/-- A point of the local frame on the map. -/
def toMap (pose : Pose α) (p : Point α) : Except Fault (Point α) := do
  let cos ← Scalar.cos (Scalar.toRadians pose.yaw)
  let sin ← Scalar.sin (Scalar.toRadians pose.yaw)
  return ⟨pose.x + cos * p.x - sin * p.y, pose.y + sin * p.x + cos * p.y, pose.z + p.z⟩

end Pose
end PathTracking
