import PathTracking.Route.Waypoint

/-!
# The waypoint to aim at

The first waypoint beyond the lookahead circle around the vehicle, or the last one if the
circle holds the whole route. Only an empty route has none.
-/
namespace PathTracking

variable {α : Type} [Scalar α]

/-- The index of the first waypoint farther than `reach`, or of the last one. -/
def Route.firstBeyond (here : Point α) (reach : α) : Route α → Nat
  | [] | [_] => 0
  | w :: rest =>
    if w.position.planeDistance here > reach then 0 else firstBeyond here reach rest + 1

def Route.search (route : Route α) (pose : Pose α) (reach : α) : Option Nat :=
  if route.isEmpty then none else some (route.firstBeyond pose.position reach)

/-- Whether some waypoint lies farther than `reach`. -/
def Route.reachesBeyond (route : Route α) (pose : Pose α) (reach : α) : Bool :=
  route.any fun w => w.position.planeDistance pose.position > reach

end PathTracking
