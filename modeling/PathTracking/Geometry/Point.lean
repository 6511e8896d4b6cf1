import PathTracking.Scalar

/-!
# Points and planar vectors

Positions in metres. Distances and directions ignore the height.
-/
namespace PathTracking

structure Point (α : Type) where
  x : α
  y : α
  z : α
  deriving DecidableEq, Repr

/-- A vector in the plane. -/
structure Planar (α : Type) where
  x : α
  y : α
  deriving DecidableEq, Repr

variable {α : Type} [Scalar α]

/-- The distance of two points on the plane. -/
def Point.planeDistance (p q : Point α) : α := Scalar.hypot (p.x - q.x) (p.y - q.y)

/-- The point `steps` times `v` away from `p`. -/
def Point.along (p : Point α) (v : Planar α) (steps : α) (height : α) : Point α :=
  ⟨p.x + steps * v.x, p.y + steps * v.y, height⟩

/-- The point `steps` times `v` before `p`. -/
def Point.against (p : Point α) (v : Planar α) (steps : α) (height : α) : Point α :=
  ⟨p.x - steps * v.x, p.y - steps * v.y, height⟩

/-- Turns a vector counter-clockwise by an angle in degrees. -/
def Planar.rotate (v : Planar α) (angle : α) : Except Fault (Planar α) := do
  let cos ← Scalar.cos (Scalar.toRadians angle)
  let sin ← Scalar.sin (Scalar.toRadians angle)
  return ⟨v.x * cos - v.y * sin, v.x * sin + v.y * cos⟩

end PathTracking
