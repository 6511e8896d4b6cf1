/-!
# Scalars

The arithmetic of path tracking as one class, so that the same definitions run on
binary64 numbers and are reasoned about on exact ones. Comparisons are decidable
relations of the instance: with a NaN, all of them may fail at once. An operation
that can be undefined answers `Except Fault`, so every use has to say what happens
then.
-/
namespace PathTracking

/-- Why an arithmetic operation has no result. -/
inductive Fault
  | divisionByZero
  /-- A square beyond the largest number. -/
  | overflow
  /-- A function outside its domain: a negative square root, an angle without end. -/
  | outsideDomain
  deriving DecidableEq, Repr

def Fault.message : Fault → String
  | .divisionByZero => "float division by zero"
  | .overflow => "numerical result out of range"
  | .outsideDomain => "math domain error"

class Scalar (α : Type) extends
    Add α, Sub α, Mul α, Neg α, LT α, LE α, BEq α, OfScientific α where
  decLt : DecidableLT α
  decLe : DecidableLE α
  abs : α → α
  /-- One degree in radians. -/
  degree : α
  /-- One radian in degrees. -/
  radian : α
  hypot : α → α → α
  atan : α → α
  /-- The angle of the point with ordinate `y` and abscissa `x`. -/
  atan2 : (y x : α) → α
  /-- The remainder with the sign of the divisor. -/
  floorMod : α → α → α
  div : α → α → Except Fault α
  sqrt : α → Except Fault α
  square : α → Except Fault α
  sin : α → Except Fault α
  cos : α → Except Fault α
  tan : α → Except Fault α

instance Scalar.decidableLT {α : Type} [Scalar α] : DecidableLT α := Scalar.decLt

instance Scalar.decidableLE {α : Type} [Scalar α] : DecidableLE α := Scalar.decLe

namespace Scalar

variable {α : Type} [Scalar α]

/-- The smaller of two numbers; the first unless the second is strictly smaller. -/
def min (a b : α) : α := if b < a then b else a

/-- The greater of two numbers; the first unless the second is strictly greater. -/
def max (a b : α) : α := if b > a then b else a

def toRadians (x : α) : α := x * degree

def toDegrees (x : α) : α := x * radian

end Scalar
end PathTracking
