import PathTracking.Route.Waypoint

/-!
# Inputs of the control loop

The latest route and pose. Both are replaced as a whole; a counter tells one route from
the next.
-/
namespace PathTracking

structure Inputs (α : Type) where
  route : Route α
  pose : Option (Pose α)
  revision : Nat
  deriving DecidableEq, Repr

namespace Inputs

variable {α : Type}

def new (route : Route α) (pose : Option (Pose α)) : Inputs α := ⟨route, pose, 0⟩

def replaceRoute (i : Inputs α) (route : Route α) : Inputs α :=
  { i with route, revision := i.revision + 1 }

def updatePose (i : Inputs α) (pose : Option (Pose α)) : Inputs α := { i with pose }

end Inputs
end PathTracking
