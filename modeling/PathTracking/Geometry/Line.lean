import PathTracking.Decimal.Shortest
import PathTracking.Geometry.Point

/-!
# Lines in the plane

The line through two points as the zeros of `a * x + b * y + c`. Points that are closer
than the tolerance on both axes determine no line.
-/
namespace PathTracking

structure Line (α : Type) where
  a : α
  b : α
  c : α
  deriving DecidableEq, Repr

/-- Two points that coincide on the plane. -/
structure Coincident (α : Type) where
  first : Point α
  second : Point α
  deriving DecidableEq, Repr

def Coincident.message (e : Coincident Float) : String :=
  let shown (p : Point Float) := s!"({Decimal.text p.x}, {Decimal.text p.y})"
  s!"points {shown e.first} and {shown e.second} coincide"

namespace Line

variable {α : Type} [Scalar α]

/-- The gap on an axis below which two coordinates count as one, and the residual of the
line equation below which a point counts as on the line. -/
def tolerance : α := 1e-5

def through (p q : Point α) : Except (Coincident α) (Line α) :=
  let a := q.y - p.y
  let b := p.x - q.x
  if Scalar.abs a < tolerance ∧ Scalar.abs b < tolerance then .error ⟨p, q⟩
  else .ok ⟨a, b, -a * p.x - b * p.y⟩

/-- The value of the line equation at a point. -/
def residual (l : Line α) (p : Point α) : α := l.a * p.x + l.b * p.y + l.c

def holds (l : Line α) (p : Point α) : Bool := Scalar.abs (l.residual p) < tolerance

/-- The distance of a point from the line. -/
def distance (l : Line α) (p : Point α) : Except Fault α := do
  Scalar.div (Scalar.abs (l.residual p)) (← Scalar.sqrt (l.a * l.a + l.b * l.b))

end Line
end PathTracking
