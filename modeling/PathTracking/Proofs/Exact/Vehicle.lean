import PathTracking.Proofs.Exact.Arithmetic
import PathTracking.Vehicle

/-!
# The vehicle in exact arithmetic

A step moves the vehicle along a line or an arc and always comes to an end (`step_total`). A
vehicle without speed stays in its place, whatever curvature is left from its last command.
-/
namespace PathTracking.Exact

theorem new_eq (start : Pose ℝ) {wheelbase : ℝ} (maxSteer : ℝ) (nonzero : wheelbase ≠ 0) :
    Vehicle.new start wheelbase maxSteer =
      .ok ⟨start, wheelbase, Real.tan (Scalar.toRadians maxSteer) / wheelbase, 0.0, 0.0⟩ := by
  unfold Vehicle.new
  simp only [Scalar.tan, bind, Except.bind, div_eq nonzero, pure, Except.pure]

/-! ## Commands -/

theorem clip_eq (v : Vehicle ℝ) (kappa : ℝ) :
    v.clip kappa = max (-v.maxKappa) (min v.maxKappa kappa) := by
  have lower (a b : ℝ) : Scalar.min a b = min a b := by
    unfold Scalar.min
    split
    next less => exact (min_eq_right less.le).symm
    next more => exact (min_eq_left (not_lt.mp more)).symm
  have upper (a b : ℝ) : Scalar.max a b = max a b := by
    unfold Scalar.max
    split
    next more => exact (max_eq_right more.le).symm
    next less => exact (max_eq_left (not_lt.mp less)).symm
  rw [Vehicle.clip, upper, lower]

theorem clip_of_abs_le {v : Vehicle ℝ} {kappa : ℝ} (within : |kappa| ≤ v.maxKappa) :
    v.clip kappa = kappa := by
  obtain ⟨low, high⟩ := abs_le.mp within
  rw [clip_eq, min_eq_right high, max_eq_right low]

/-- A yaw rate that encodes a curvature is decoded to it, up to the steering limit. -/
theorem drive_eq (v : Vehicle ℝ) {speed : ℝ} (kappa : ℝ) (nonzero : speed ≠ 0) :
    v.drive ⟨speed, speed * kappa⟩ = { v with speed, kappa := v.clip kappa } := by
  have moving : ¬ (speed == (0.0 : ℝ)) = true := (beq_zero_iff speed).not.mpr nonzero
  simp only [Vehicle.drive, if_neg moving, div_eq nonzero, mul_div_cancel_left₀ kappa nonzero]
  rfl

theorem drive_straight {v : Vehicle ℝ} {speed : ℝ} (nonzero : speed ≠ 0) (limit : 0 ≤ v.maxKappa) :
    v.drive ⟨speed, speed * 0⟩ = { v with speed, kappa := 0 } := by
  rw [drive_eq v 0 nonzero, clip_of_abs_le (by rw [abs_zero]; exact limit)]

/-! ## Steps -/

section Step

variable (v : Vehicle ℝ) (dt : ℝ)

theorem poseAfter_straight (straight : v.kappa = 0) :
    v.poseAfter dt =
      .ok ⟨v.pose.x + v.speed * dt * Real.cos (Scalar.toRadians v.pose.yaw),
        v.pose.y + v.speed * dt * Real.sin (Scalar.toRadians v.pose.yaw), v.pose.z,
        wrapAngle (Scalar.toDegrees (Scalar.toRadians v.pose.yaw))⟩ := by
  unfold Vehicle.poseAfter
  rw [if_pos ((beq_zero_iff v.kappa).mpr straight)]
  rfl

theorem poseAfter_arc (turning : v.kappa ≠ 0) :
    let th := Scalar.toRadians v.pose.yaw
    let th' := th + v.kappa * (v.speed * dt)
    v.poseAfter dt =
      .ok ⟨v.pose.x + (Real.sin th' - Real.sin th) / v.kappa,
        v.pose.y - (Real.cos th' - Real.cos th) / v.kappa, v.pose.z,
        wrapAngle (Scalar.toDegrees th')⟩ := by
  unfold Vehicle.poseAfter
  rw [if_neg ((beq_zero_iff v.kappa).not.mpr turning)]
  simp only [Scalar.sin, Scalar.cos, bind, Except.bind, pure, Except.pure, div_eq turning]

/-- A step always comes to an end, and a vehicle without speed stays in its place. -/
theorem step_total :
    ∃ pose, v.step dt = .ok { v with pose } ∧
      (v.speed = 0 → pose.position = v.pose.position) := by
  -- Without speed the way made is nothing on a line, and the angle turned nothing on an arc.
  by_cases straight : v.kappa = 0
  · refine ⟨_, by rw [Vehicle.step, poseAfter_straight v dt straight]; rfl, ?_⟩
    intro standing
    simp [Pose.position, standing]
  · refine ⟨_, by rw [Vehicle.step, poseAfter_arc v dt straight]; rfl, ?_⟩
    intro standing
    simp [Pose.position, standing]

theorem speed_stop : v.stop.speed = 0 := by
  norm_num [Vehicle.stop]

end Step
end PathTracking.Exact
