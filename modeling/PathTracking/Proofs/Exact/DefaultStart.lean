import PathTracking.Proofs.Exact.Arithmetic
import PathTracking.Simulation

/-!
# The default start

A simulation without a start pose begins on the first waypoint and faces the second one. The
heading is an angle in degrees, the local frame a turn by an angle in radians; that they agree in
every quadrant, straight up and down, and for points that coincide, is one fact about the argument
of a complex number (`toLocal_ahead`).
-/
namespace PathTracking.Exact

/-- A pose is the origin of its frame. -/
theorem toLocal_position (pose : Pose ℝ) : pose.toLocal pose.position = .ok ⟨0, 0, 0⟩ := by
  rw [toLocal_eq]
  simp [Pose.position]

/-- A point that the heading is taken from lies straight ahead. -/
theorem toLocal_ahead {pose : Pose ℝ} {p : Point ℝ}
    (facing : pose.yaw = Scalar.toDegrees (Scalar.atan2 (p.y - pose.y) (p.x - pose.x))) :
    pose.toLocal p = .ok ⟨pose.position.planeDistance p, 0, p.z - pose.z⟩ := by
  let way : ℂ := ⟨p.x - pose.x, p.y - pose.y⟩
  have angle : Scalar.toRadians pose.yaw = way.arg := by
    rw [facing, toRadians_toDegrees]
    rfl
  have length : pose.position.planeDistance p = ‖way‖ := by
    rw [planeDistance_comm, planeDistance_eq, Complex.norm_eq_sqrt_sq_add_sq]
    rfl
  -- In polar form the way has its length at its angle, also when both are zero.
  have abscissa : p.x - pose.x = ‖way‖ * Real.cos way.arg := (Complex.norm_mul_cos_arg way).symm
  have ordinate : p.y - pose.y = ‖way‖ * Real.sin way.arg := (Complex.norm_mul_sin_arg way).symm
  have unit := Real.cos_sq_add_sin_sq way.arg
  rw [toLocal_eq, angle, length, abscissa, ordinate]
  congr 2
  · linear_combination ‖way‖ * unit
  · ring

/-- The curvature to a point straight ahead is zero. -/
theorem curvatureTo_ahead {pose : Pose ℝ} {p : Point ℝ} {d z : ℝ} (limit : ℝ)
    (ahead : pose.toLocal p = .ok ⟨d, 0, z⟩) (apart : d ≠ 0) :
    pose.curvatureTo p limit = .ok 0 := by
  rw [curvatureTo_eq pose p limit ahead, if_neg apart, mul_zero, zero_div]

theorem planeDistance_ne_zero {p q : Point ℝ} (apart : ¬(p.x = q.x ∧ p.y = q.y)) :
    p.planeDistance q ≠ 0 := by
  intro same
  rw [planeDistance_eq, Real.sqrt_eq_zero (by positivity),
    add_eq_zero_iff_of_nonneg (sq_nonneg _) (sq_nonneg _), sq_eq_zero_iff, sq_eq_zero_iff,
    sub_eq_zero, sub_eq_zero] at same
  exact apart same

/-- The default start faces the route. In its frame the first waypoint is the origin and the second
one lies straight ahead at its distance, so that it is steered to without a turn unless one is above
the other. -/
theorem defaultStart_faces (first second : Waypoint ℝ) (rest : Route ℝ) :
    ∃ start, Route.defaultStart (first :: second :: rest) = .ok start ∧
      start.toLocal first.position = .ok ⟨0, 0, 0⟩ ∧
      start.toLocal second.position =
        .ok ⟨first.position.planeDistance second.position, 0, second.z - first.z⟩ ∧
      (¬(first.x = second.x ∧ first.y = second.y) →
        ∀ limit, start.curvatureTo second.position limit = .ok 0) := by
  refine ⟨_, rfl, toLocal_position _, toLocal_ahead rfl, ?_⟩
  intro apart limit
  exact curvatureTo_ahead limit (toLocal_ahead rfl) (planeDistance_ne_zero apart)

/-- A route that begins backwards and down: the second waypoint lies in the third quadrant, and the
start still has it five metres ahead. -/
theorem defaultStart_faces_back :
    let first : Waypoint ℝ := ⟨1, 1, 2, none⟩
    let second : Waypoint ℝ := ⟨-2, -3, 0, some 1⟩
    ¬(first.x = second.x ∧ first.y = second.y) ∧
    ∃ start, Route.defaultStart [first, second] = .ok start ∧
      start.toLocal second.position = .ok ⟨5, 0, -2⟩ ∧
      start.curvatureTo second.position saturation = .ok 0 := by
  intro first second
  have apart : ¬(first.x = second.x ∧ first.y = second.y) := by norm_num [first, second]
  obtain ⟨start, begun, -, ahead, straight⟩ := defaultStart_faces first second []
  have distance : first.position.planeDistance second.position = 5 := by
    have square : ((1 : ℝ) - -2) ^ 2 + (1 - -3) ^ 2 = 5 ^ 2 := by norm_num
    rw [planeDistance_eq]
    exact (congrArg Real.sqrt square).trans (Real.sqrt_sq (by norm_num))
  have height : second.z - first.z = -2 := by norm_num [first, second]
  rw [distance, height] at ahead
  exact ⟨apart, start, begun, ahead, straight apart saturation⟩

end PathTracking.Exact
