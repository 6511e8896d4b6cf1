import PathTracking.Route.Waypoint

/-!
# The local route

The tracker searches its route from the start, so it has to be given what is still ahead:
the route from the waypoint closest to the vehicle on. The closest waypoint is looked for
from the last one found, so it only moves forward.
-/
namespace PathTracking

structure Planner (α : Type) where
  route : Route α
  /-- How many waypoints an update looks at; all of them if absent. -/
  window : Option Int
  closest : Option Nat
  deriving DecidableEq, Repr

namespace Planner

variable {α : Type} [Scalar α]

def new (route : Route α) (window : Option Int) : Planner α := ⟨route, window, none⟩

/-- The first index of least distance among `best`, at distance `least`, and the
waypoints from `index` on. -/
def nearest (here : Point α) (best : Nat) (least : α) : Nat → Route α → Nat
  | _, [] => best
  | index, w :: rest =>
    let d := w.position.planeDistance here
    if d < least then nearest here index d (index + 1) rest
    else nearest here best least (index + 1) rest

/-- Where an update starts to look. -/
def first (p : Planner α) : Nat := p.closest.getD 0

/-- The waypoints an update looks at after the first. -/
def candidates (p : Planner α) : Route α :=
  let later := p.route.drop (p.first + 1)
  match p.window with
  | none => later
  | some w => later.take (w - 1).toNat

/-- The rest of the route from the closest waypoint on, if that waypoint is a new one. -/
def update (p : Planner α) (pose : Pose α) : Planner α × Option (Route α) :=
  match p.route[p.first]? with
  | none => (p, none)
  | some w =>
    let here := pose.position
    let best := nearest here p.first (w.position.planeDistance here) (p.first + 1) p.candidates
    if p.closest = some best then (p, none)
    else ({ p with closest := some best }, some (p.route.drop best))

end Planner
end PathTracking
