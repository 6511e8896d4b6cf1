import PathTracking.Proofs.Exact.Motion

/-!
# The local frame

A pose is a rigid motion that takes its local frame to the map: a turn by the heading and a shift
to its place. So the way to the map keeps distances (`planeDistance_toMap`). The way to the local
frame has a rotation of its own, with its own signs; that it undoes the motion in either order
(`toMap_toLocal`, `toLocal_toMap`) makes it keep distances too.
-/
namespace PathTracking.Exact

variable (pose : Pose ℝ) (p q : Point ℝ)

theorem toMap_eq :
    pose.toMap p = .ok
      ⟨pose.x + Real.cos (Scalar.toRadians pose.yaw) * p.x -
          Real.sin (Scalar.toRadians pose.yaw) * p.y,
        pose.y + Real.sin (Scalar.toRadians pose.yaw) * p.x +
          Real.cos (Scalar.toRadians pose.yaw) * p.y, pose.z + p.z⟩ :=
  rfl

/-- From the map to the local frame and back. -/
theorem toMap_toLocal : (pose.toLocal p >>= pose.toMap) = .ok p := by
  have unit := Real.cos_sq_add_sin_sq (Scalar.toRadians pose.yaw)
  rw [toLocal_eq]
  refine (toMap_eq pose _).trans ?_
  dsimp only
  congr 2
  · linear_combination (p.x - pose.x) * unit
  · linear_combination (p.y - pose.y) * unit
  · ring

/-- From the local frame to the map and back. -/
theorem toLocal_toMap : (pose.toMap p >>= pose.toLocal) = .ok p := by
  have unit := Real.cos_sq_add_sin_sq (Scalar.toRadians pose.yaw)
  rw [toMap_eq]
  refine (toLocal_eq pose _).trans ?_
  dsimp only
  congr 2
  · linear_combination p.x * unit
  · linear_combination p.y * unit
  · ring

/-- The motion from the local frame of a pose to the map. -/
def Motion.ofPose : Motion := ⟨pose.yaw, ⟨pose.x, pose.y⟩⟩

variable {pose p q}

theorem planeDistance_toMap {p' q' : Point ℝ} (left : pose.toMap p = .ok p')
    (right : pose.toMap q = .ok q') : p'.planeDistance q' = p.planeDistance q := by
  rw [toMap_eq] at left right
  cases left
  cases right
  rw [← (Motion.ofPose pose).planeDistance_point p q, planeDistance_eq, planeDistance_eq]
  unfold Motion.ofPose Motion.point Motion.cos Motion.sin
  dsimp only
  congr 1
  ring

theorem planeDistance_toLocal {p' q' : Point ℝ} (left : pose.toLocal p = .ok p')
    (right : pose.toLocal q = .ok q') : p'.planeDistance q' = p.planeDistance q := by
  -- The local points are those whose way back to the map ends at the points.
  have left' := toMap_toLocal pose p
  have right' := toMap_toLocal pose q
  rw [left] at left'
  rw [right] at right'
  exact (planeDistance_toMap left' right').symm

/-- The ways between the map and the local frame of a pose undo each other, heights included, and
both keep the distances on the plane. -/
theorem frames_inverse (pose : Pose ℝ) (p q : Point ℝ) :
    (pose.toLocal p >>= pose.toMap) = .ok p ∧ (pose.toMap p >>= pose.toLocal) = .ok p ∧
    (∃ p' q', pose.toLocal p = .ok p' ∧ pose.toLocal q = .ok q' ∧
      p'.planeDistance q' = p.planeDistance q) ∧
    ∃ p' q', pose.toMap p = .ok p' ∧ pose.toMap q = .ok q' ∧
      p'.planeDistance q' = p.planeDistance q :=
  ⟨toMap_toLocal pose p, toLocal_toMap pose p,
    ⟨_, _, rfl, rfl, planeDistance_toLocal rfl rfl⟩,
    ⟨_, _, rfl, rfl, planeDistance_toMap rfl rfl⟩⟩

end PathTracking.Exact
