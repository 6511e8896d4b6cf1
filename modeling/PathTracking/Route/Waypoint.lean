import PathTracking.Geometry.Pose

/-!
# Waypoints and routes

A route is the list of waypoints to follow. A waypoint may carry a speed of its own.
-/
namespace PathTracking

structure Waypoint (α : Type) where
  x : α
  y : α
  z : α
  /-- In metres per second. -/
  speed : Option α
  deriving DecidableEq, Repr

def Waypoint.position {α : Type} (w : Waypoint α) : Point α := ⟨w.x, w.y, w.z⟩

abbrev Route (α : Type) := List (Waypoint α)

end PathTracking
