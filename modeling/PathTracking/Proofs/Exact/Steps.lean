import PathTracking.Proofs.Exact.Vehicle

/-!
# Steps add up

A step stores the heading wrapped, a whole number of turns away from the angle reached. Sine and
cosine do not see whole turns, and neither does the next wrapping, so the next step goes on exactly
where the last one has ended (`poseAt_poseAt`). By induction on the steps, a vehicle that keeps its
speed and curvature gets to the same place however its time is cut into steps (`steps_sum`).
-/
namespace PathTracking.Exact

/-! ## Whole turns -/

theorem wrapAngle_sub_turns (angle : ℝ) (turns : ℤ) :
    wrapAngle (angle - 360 * turns) = wrapAngle angle := by
  have fewer : (angle - 360 * turns + 180) / 360 = (angle + 180) / 360 - turns := by ring
  rw [wrapAngle_eq, wrapAngle_eq, fewer, Int.floor_sub_intCast]
  push_cast
  ring

/-- In radians a wrapped angle differs by whole turns. -/
theorem toRadians_wrapAngle (angle : ℝ) :
    ∃ turns : ℤ, Scalar.toRadians (wrapAngle angle) =
      Scalar.toRadians angle - turns * (2 * Real.pi) := by
  refine ⟨⌊(angle + 180) / 360⌋, ?_⟩
  rw [wrapAngle_eq]
  change (angle - 360 * _) * (Real.pi / 180) = angle * (Real.pi / 180) - _
  ring

/-! ## Two steps -/

/-- The pose of a vehicle after a time. -/
noncomputable def poseAt (v : Vehicle ℝ) (dt : ℝ) : Pose ℝ :=
  let th := Scalar.toRadians v.pose.yaw
  let th' := th + v.kappa * (v.speed * dt)
  if v.kappa = 0 then
    ⟨v.pose.x + v.speed * dt * Real.cos th, v.pose.y + v.speed * dt * Real.sin th, v.pose.z,
      wrapAngle (Scalar.toDegrees th')⟩
  else
    ⟨v.pose.x + (Real.sin th' - Real.sin th) / v.kappa,
      v.pose.y - (Real.cos th' - Real.cos th) / v.kappa, v.pose.z,
      wrapAngle (Scalar.toDegrees th')⟩

theorem step_eq (v : Vehicle ℝ) (dt : ℝ) : v.step dt = .ok { v with pose := poseAt v dt } := by
  unfold Vehicle.step poseAt
  by_cases straight : v.kappa = 0
  · rw [poseAfter_straight v dt straight]
    simp only [straight, if_true, zero_mul, add_zero]
    rfl
  · rw [poseAfter_arc v dt straight]
    simp only [straight, if_false]
    rfl

section TwoSteps

variable (v : Vehicle ℝ) (dt : ℝ)

theorem yaw_poseAt : (poseAt v dt).yaw =
    wrapAngle (Scalar.toDegrees
      (Scalar.toRadians v.pose.yaw + v.kappa * (v.speed * dt))) := by
  unfold poseAt
  split <;> rfl

/-- From the heading after a step the same angles are reached as before it, but for whole turns. -/
theorem heading_poseAt :
    ∃ turns : ℤ, ∀ dt', Scalar.toRadians (poseAt v dt).yaw + v.kappa * (v.speed * dt') =
      Scalar.toRadians v.pose.yaw + v.kappa * (v.speed * (dt + dt')) -
        turns * (2 * Real.pi) := by
  obtain ⟨turns, wrapped⟩ := toRadians_wrapAngle
    (Scalar.toDegrees (Scalar.toRadians v.pose.yaw + v.kappa * (v.speed * dt)))
  refine ⟨turns, fun dt' => ?_⟩
  rw [yaw_poseAt, wrapped, toRadians_toDegrees]
  ring

theorem yaw_poseAt_poseAt (dt' : ℝ) :
    (poseAt { v with pose := poseAt v dt } dt').yaw = (poseAt v (dt + dt')).yaw := by
  obtain ⟨turns, heading⟩ := heading_poseAt v dt
  have degrees (x : ℝ) : Scalar.toDegrees (x - turns * (2 * Real.pi)) =
      Scalar.toDegrees x - 360 * turns := by
    change (x - turns * (2 * Real.pi)) * (180 / Real.pi) = x * (180 / Real.pi) - _
    have pi := Real.pi_ne_zero
    field_simp
    ring
  rw [yaw_poseAt, yaw_poseAt v (dt + dt')]
  dsimp only
  rw [heading, degrees, wrapAngle_sub_turns]

/-- A step goes on where the step before has ended. -/
theorem poseAt_poseAt (dt' : ℝ) :
    poseAt { v with pose := poseAt v dt } dt' = poseAt v (dt + dt') := by
  obtain ⟨turns, heading⟩ := heading_poseAt v dt
  have yaw := yaw_poseAt_poseAt v dt dt'
  unfold poseAt at yaw heading ⊢
  by_cases straight : v.kappa = 0
  · -- The heading stays the same, so the ways made lie on one line.
    simp only [straight, if_true, zero_mul, add_zero] at yaw heading ⊢
    rw [yaw, heading 0, Real.cos_sub_int_mul_two_pi, Real.sin_sub_int_mul_two_pi]
    congr 1
    · ring
    · ring
  · -- The arc goes on from the angle at which it was left, and the differences telescope.
    have left := heading 0
    simp only [straight, if_false, mul_zero, add_zero] at yaw heading left ⊢
    rw [yaw, heading, left]
    simp only [Real.cos_sub_int_mul_two_pi, Real.sin_sub_int_mul_two_pi]
    congr 1
    · ring
    · ring

end TwoSteps

theorem foldlM_step (v : Vehicle ℝ) (dt : ℝ) (rest : List ℝ) :
    (dt :: rest).foldlM Vehicle.step v = .ok { v with pose := poseAt v (dt + rest.sum) } := by
  induction rest generalizing v dt with
  | nil =>
    rw [List.sum_nil, add_zero, List.foldlM_cons, step_eq]
    rfl
  | cons dt' rest ih =>
    rw [List.foldlM_cons, step_eq]
    change (dt' :: rest).foldlM Vehicle.step _ = _
    rw [ih, poseAt_poseAt, List.sum_cons]

/-- A vehicle that keeps its speed and curvature gets to the same pose, with the same heading, in
any number of steps and in one step of their sum, on a line as on an arc. -/
theorem steps_sum (v : Vehicle ℝ) (dt : ℝ) (rest : List ℝ) :
    ∃ pose, (dt :: rest).foldlM Vehicle.step v = .ok { v with pose } ∧
      v.step (dt :: rest).sum = .ok { v with pose } :=
  ⟨poseAt v (dt + rest.sum), foldlM_step v dt rest, step_eq v _⟩

end PathTracking.Exact
