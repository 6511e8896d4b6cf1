import Mathlib.Analysis.SpecialFunctions.Complex.Arg
import Mathlib.Analysis.SpecialFunctions.Trigonometric.Arctan
import Mathlib.Tactic.FieldSimp
import Mathlib.Tactic.Linarith
import Mathlib.Tactic.NormNum
import PathTracking.Tracking.Tick

/-!
# Exact arithmetic

The real numbers as scalars. No operation overflows and no angle is without end, so of the
faults only a division by zero and the root of a negative number are left.
-/
namespace PathTracking.Exact

noncomputable instance : Scalar ℝ where
  decLt := fun _ _ => inferInstance
  decLe := fun _ _ => inferInstance
  beq := fun x y => decide (x = y)
  abs := fun x => |x|
  degree := Real.pi / 180
  radian := 180 / Real.pi
  hypot := fun x y => √(x ^ 2 + y ^ 2)
  atan := Real.arctan
  atan2 := fun y x => Complex.arg ⟨x, y⟩
  floorMod := fun x y => x - y * ⌊x / y⌋
  div := fun x y => if y = 0 then .error .divisionByZero else .ok (x / y)
  sqrt := fun x => if x < 0 then .error .outsideDomain else .ok (√x)
  square := fun x => .ok (x ^ 2)
  sin := fun x => .ok (Real.sin x)
  cos := fun x => .ok (Real.cos x)
  tan := fun x => .ok (Real.tan x)

theorem beq_iff (x y : ℝ) : (x == y) = true ↔ x = y := decide_eq_true_iff

theorem beq_zero_iff (x : ℝ) : (x == (0.0 : ℝ)) = true ↔ x = 0 := by
  rw [beq_iff]
  norm_num

theorem div_eq {x y : ℝ} (nonzero : y ≠ 0) : Scalar.div x y = .ok (x / y) := if_neg nonzero

theorem sqrt_eq {x : ℝ} (nonneg : 0 ≤ x) : Scalar.sqrt x = .ok (√x) := if_neg (not_lt.mpr nonneg)

theorem ne_zero_of_pos {x : ℝ} (positive : x > 0.0) : x ≠ 0 := by
  norm_num at positive
  exact positive.ne'

theorem toDegrees_toRadians (x : ℝ) : Scalar.toDegrees (Scalar.toRadians x) = x := by
  have pi := Real.pi_ne_zero
  change x * (Real.pi / 180) * (180 / Real.pi) = x
  field_simp

theorem toRadians_toDegrees (x : ℝ) : Scalar.toRadians (Scalar.toDegrees x) = x := by
  have pi := Real.pi_ne_zero
  change x * (180 / Real.pi) * (Real.pi / 180) = x
  field_simp

/-- Wrapping takes the whole turns away. -/
theorem wrapAngle_eq (angle : ℝ) : wrapAngle angle = angle - 360 * ⌊(angle + 180) / 360⌋ := by
  have turned : Scalar.floorMod (angle + 180.0) 360.0 - 180.0 =
      angle - 360 * ⌊(angle + 180) / 360⌋ := by
    change angle + 180.0 - 360.0 * (⌊(angle + 180.0) / 360.0⌋ : ℝ) - 180.0 = _
    norm_num
    ring
  have below : (angle + 180) / 360 < ⌊(angle + 180) / 360⌋ + 1 := Int.lt_floor_add_one _
  unfold wrapAngle
  rw [turned, if_neg]
  -- What is left is less than half a turn, since the floor is the greatest integer below.
  rw [beq_iff]
  norm_num
  intro half
  linarith

/-- An angle in range is left as it is. -/
theorem wrapAngle_of_mem {angle : ℝ} (low : -180 ≤ angle) (high : angle < 180) :
    wrapAngle angle = angle := by
  have first : ⌊(angle + 180) / 360⌋ = 0 := by
    rw [Int.floor_eq_zero_iff]
    constructor
    · exact div_nonneg (by linarith) (by norm_num)
    · rw [div_lt_one (by norm_num)]
      linarith
  rw [wrapAngle_eq, first, Int.cast_zero, mul_zero, sub_zero]

/-! ## Geometry -/

theorem planeDistance_eq (p q : Point ℝ) :
    p.planeDistance q = √((p.x - q.x) ^ 2 + (p.y - q.y) ^ 2) := rfl

theorem planeDistance_comm (p q : Point ℝ) : p.planeDistance q = q.planeDistance p := by
  rw [planeDistance_eq, planeDistance_eq, sub_sq_comm p.x, sub_sq_comm p.y]

theorem rotate_eq (v : Planar ℝ) (angle : ℝ) :
    v.rotate angle = .ok
      ⟨v.x * Real.cos (angle * (Real.pi / 180)) - v.y * Real.sin (angle * (Real.pi / 180)),
        v.x * Real.sin (angle * (Real.pi / 180)) + v.y * Real.cos (angle * (Real.pi / 180))⟩ :=
  rfl

theorem rotate_left (v : Planar ℝ) : v.rotate 90.0 = .ok ⟨-v.y, v.x⟩ := by
  have quarter : (90.0 : ℝ) * (Real.pi / 180) = Real.pi / 2 := by
    norm_num
    ring
  rw [rotate_eq, quarter, Real.cos_pi_div_two, Real.sin_pi_div_two]
  simp

theorem rotate_right (v : Planar ℝ) : v.rotate (-90.0) = .ok ⟨v.y, -v.x⟩ := by
  have quarter : (-90.0 : ℝ) * (Real.pi / 180) = -(Real.pi / 2) := by
    norm_num
    ring
  rw [rotate_eq, quarter, Real.cos_neg, Real.sin_neg, Real.cos_pi_div_two, Real.sin_pi_div_two]
  simp

theorem toLocal_eq (pose : Pose ℝ) (p : Point ℝ) :
    pose.toLocal p = .ok
      ⟨Real.cos (Scalar.toRadians pose.yaw) * (p.x - pose.x) +
          Real.sin (Scalar.toRadians pose.yaw) * (p.y - pose.y),
        -Real.sin (Scalar.toRadians pose.yaw) * (p.x - pose.x) +
          Real.cos (Scalar.toRadians pose.yaw) * (p.y - pose.y), p.z - pose.z⟩ :=
  rfl

/-- The curvature to a target in the local frame is that of the parabola through it, and
the limit for a target abeam. -/
theorem curvatureTo_eq (pose : Pose ℝ) (target : Point ℝ) (limit : ℝ) {p : Point ℝ}
    (isLocal : pose.toLocal target = .ok p) :
    pose.curvatureTo target limit =
      .ok (if p.x = 0 then if 0 < p.y then limit else -limit else 2 * p.y / (p.x * p.x)) := by
  simp only [Pose.curvatureTo, isLocal, bind, Except.bind]
  by_cases abeam : p.x = 0
  · have zero : (p.x * p.x == (0.0 : ℝ)) = true :=
      (beq_zero_iff _).mpr (by rw [abeam, mul_zero])
    have sign : (2.0 * p.y > (0.0 : ℝ)) ↔ 0 < p.y := by
      constructor <;> intro left <;> norm_num at left ⊢ <;> linarith
    rw [if_pos zero, if_pos abeam]
    simp only [sign, pure, Except.pure]
  · have nonzero : p.x * p.x ≠ 0 := mul_ne_zero abeam abeam
    have unequal : ¬ (p.x * p.x == (0.0 : ℝ)) = true := (beq_zero_iff _).not.mpr nonzero
    have two : (2.0 : ℝ) = 2 := by norm_num
    rw [if_neg unequal, div_eq nonzero, if_neg abeam, two]

/-- Every target has a curvature. -/
theorem curvatureTo_total (pose : Pose ℝ) (target : Point ℝ) (limit : ℝ) :
    ∃ kappa, pose.curvatureTo target limit = .ok kappa :=
  ⟨_, curvatureTo_eq pose target limit rfl⟩

end PathTracking.Exact
