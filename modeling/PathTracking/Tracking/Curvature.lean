import PathTracking.Geometry.Pose

/-!
# The steering curvature

In the local frame the parabola `y = a * x²` through the vehicle and the target has the
curvature `2 * y / x²` at the vehicle; positive turns left.
-/
namespace PathTracking

variable {α : Type} [Scalar α]

/-- The curvature for a target exactly abeam, in 1/m. -/
def saturation : α := 1.0e9

/-- The curvature of the arc to `target`. A target abeam gives `limit` to the left and
`-limit` to the right and for the vehicle's own place. -/
def Pose.curvatureTo (pose : Pose α) (target : Point α) (limit : α) : Except Fault α := do
  let p ← pose.toLocal target
  let denominator := p.x * p.x
  let numerator := 2.0 * p.y
  if denominator == 0.0 then return if numerator > 0.0 then limit else -limit
  else Scalar.div numerator denominator

end PathTracking
