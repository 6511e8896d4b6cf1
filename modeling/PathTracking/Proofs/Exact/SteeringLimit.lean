import Mathlib.Analysis.SpecialFunctions.Trigonometric.Bounds
import PathTracking.Proofs.Exact.Steps

/-!
# The steering limit

A drive clips its curvature, a stop keeps it, and a step moves the vehicle by no more than the way
it drives, since a chord is never longer than its arc (`chord_le_arc`). So by induction on what is
asked of a vehicle, whatever the speeds and times, its curvature and its steering angle stay within
the limits it was built with, and it stays at its height (`steering_limited`).
-/
namespace PathTracking

/-! ## Orders -/

namespace Vehicle

variable {α : Type}

/-- What can be asked of a vehicle: to obey a call, or to move on for a time. -/
inductive Order (α : Type)
  | call (call : Call α)
  | move (dt : α)
  deriving DecidableEq, Repr

variable [Scalar α]

def follow (v : Vehicle α) : Order α → Except Fault (Vehicle α)
  | .call call => .ok (v.obey call)
  | .move dt => v.step dt

/-- The vehicle after some orders. -/
def after (v : Vehicle α) (orders : List (Order α)) : Except Fault (Vehicle α) :=
  orders.foldlM follow v

theorem after_snoc (v : Vehicle α) (orders : List (Order α)) (order : Order α) :
    v.after (orders ++ [order]) = v.after orders >>= fun v' => v'.follow order := by
  simp only [after, List.foldlM_append, List.foldlM_cons, List.foldlM_nil, bind_pure]

end Vehicle

namespace Exact

/-! ## One step -/

theorem wrapAngle_mem (angle : ℝ) : wrapAngle angle ∈ Set.Ico (-180 : ℝ) 180 := by
  have above : (⌊(angle + 180) / 360⌋ : ℝ) ≤ (angle + 180) / 360 := Int.floor_le _
  have below : (angle + 180) / 360 < ⌊(angle + 180) / 360⌋ + 1 := Int.lt_floor_add_one _
  rw [wrapAngle_eq]
  constructor <;> linarith

theorem chord_le_arc (th turn : ℝ) :
    (Real.sin (th + turn) - Real.sin th) ^ 2 + (Real.cos (th + turn) - Real.cos th) ^ 2 ≤
      turn ^ 2 := by
  have bound : 1 - turn ^ 2 / 2 ≤ Real.cos turn := Real.one_sub_sq_div_two_le_cos
  have unit := Real.cos_sq_add_sin_sq th
  have unit' := Real.cos_sq_add_sin_sq turn
  calc (Real.sin (th + turn) - Real.sin th) ^ 2 + (Real.cos (th + turn) - Real.cos th) ^ 2
      = 2 - 2 * Real.cos turn := by
        rw [Real.sin_add, Real.cos_add]
        linear_combination (Real.cos turn ^ 2 + Real.sin turn ^ 2 - 2 * Real.cos turn + 1) * unit +
          unit'
    _ ≤ turn ^ 2 := by linarith

section Step

variable (v : Vehicle ℝ) (dt : ℝ)

theorem z_poseAt : (poseAt v dt).z = v.pose.z := by
  unfold poseAt
  split <;> rfl

theorem yaw_poseAt_mem : (poseAt v dt).yaw ∈ Set.Ico (-180 : ℝ) 180 := by
  rw [yaw_poseAt]
  exact wrapAngle_mem _

theorem displacement_le :
    (poseAt v dt).position.planeDistance v.pose.position ≤ |v.speed * dt| := by
  rw [planeDistance_eq, ← Real.sqrt_sq_eq_abs]
  refine Real.sqrt_le_sqrt ?_
  unfold poseAt Pose.position
  split
  next straight =>
    have unit := Real.cos_sq_add_sin_sq (Scalar.toRadians v.pose.yaw)
    refine le_of_eq ?_
    dsimp only
    linear_combination (v.speed * dt) ^ 2 * unit
  next turning =>
    -- The chord is that of the unit circle, divided by the curvature.
    have chord := chord_le_arc (Scalar.toRadians v.pose.yaw) (v.kappa * (v.speed * dt))
    have square : 0 < v.kappa ^ 2 := by positivity
    dsimp only
    rw [add_sub_cancel_left, sub_sub_cancel_left, neg_sq, div_pow, div_pow, ← add_div,
      div_le_iff₀ square]
    linarith [mul_pow v.kappa (v.speed * dt) 2]

end Step

/-! ## Every run -/

/-- What no order takes from a vehicle. -/
structure Restrained (built v : Vehicle ℝ) : Prop where
  wheelbase : v.wheelbase = built.wheelbase
  maxKappa : v.maxKappa = built.maxKappa
  kappa : |v.kappa| ≤ built.maxKappa
  height : v.pose.z = built.pose.z

theorem abs_clip_le {v : Vehicle ℝ} (limit : 0 ≤ v.maxKappa) (kappa : ℝ) :
    |v.clip kappa| ≤ v.maxKappa := by
  rw [clip_eq, abs_le]
  exact ⟨le_max_left _ _, max_le (by linarith) (min_le_left _ _)⟩

namespace Restrained

variable {built v : Vehicle ℝ}

theorem drive (restrained : Restrained built v) (limit : 0 ≤ built.maxKappa)
    (command : Command ℝ) : Restrained built (v.drive command) := by
  obtain ⟨speed, yawRate⟩ := command
  by_cases standing : speed = 0
  · -- No curvature can be told from a yaw rate at a stand, so the last one is kept unclipped.
    have kept : v.drive ⟨speed, yawRate⟩ = { v with speed } := by
      rw [Vehicle.drive, if_pos ((beq_zero_iff speed).mpr standing)]
    rw [kept]
    exact ⟨restrained.wheelbase, restrained.maxKappa, restrained.kappa, restrained.height⟩
  · have steered := drive_eq v (yawRate / speed) standing
    rw [mul_div_cancel₀ yawRate standing] at steered
    rw [steered]
    refine ⟨restrained.wheelbase, restrained.maxKappa, ?_, restrained.height⟩
    have clipped := abs_clip_le (limit.trans_eq restrained.maxKappa.symm) (yawRate / speed)
    rwa [restrained.maxKappa] at clipped

theorem obey (restrained : Restrained built v) (limit : 0 ≤ built.maxKappa) (call : Call ℝ) :
    Restrained built (v.obey call) := by
  cases call with
  | drive command => exact restrained.drive limit command
  | stop =>
    exact ⟨restrained.wheelbase, restrained.maxKappa, restrained.kappa, restrained.height⟩

theorem move (restrained : Restrained built v) (dt : ℝ) :
    Restrained built { v with pose := poseAt v dt } :=
  ⟨restrained.wheelbase, restrained.maxKappa, restrained.kappa,
    (z_poseAt v dt).trans restrained.height⟩

end Restrained

theorem pose_obey (v : Vehicle ℝ) (call : Call ℝ) : (v.obey call).pose = v.pose := by
  cases call with
  | stop => rfl
  | drive command =>
    unfold Vehicle.obey Vehicle.drive
    dsimp only
    split
    · rfl
    · split <;> rfl

/-- Every run comes to an end and keeps what no order takes. The heading is in range as soon as
there was a move. -/
theorem restrained_after {built : Vehicle ℝ} (restrained : Restrained built built)
    (limit : 0 ≤ built.maxKappa) (orders : List (Vehicle.Order ℝ)) :
    ∃ v, built.after orders = .ok v ∧ Restrained built v ∧
      ((∃ dt, .move dt ∈ orders) → v.pose.yaw ∈ Set.Ico (-180 : ℝ) 180) := by
  induction orders using List.reverseRecOn with
  | nil => exact ⟨built, rfl, restrained, by simp⟩
  | append_singleton orders order ih =>
    obtain ⟨v, reached, restrained, wrapped⟩ := ih
    cases order with
    | call call =>
      refine ⟨v.obey call, ?_, restrained.obey limit call, ?_⟩
      · rw [Vehicle.after_snoc, reached]
        rfl
      · rintro ⟨dt, moved⟩
        rw [pose_obey]
        exact wrapped ⟨dt, by simpa using moved⟩
    | move dt =>
      refine ⟨{ v with pose := poseAt v dt }, ?_, restrained.move dt, ?_⟩
      · rw [Vehicle.after_snoc, reached]
        exact step_eq v dt
      · exact fun _ => yaw_poseAt_mem v dt

section Angle

variable {maxSteer : ℝ} (low : 0 ≤ maxSteer) (high : maxSteer < 90)

include low high in
/-- A limit below a quarter turn is an angle at which the tangent is not negative and can be
undone. -/
theorem toRadians_mem : Scalar.toRadians maxSteer ∈ Set.Ico 0 (Real.pi / 2) := by
  have pi := Real.pi_pos
  change maxSteer * (Real.pi / 180) ∈ _
  constructor
  · positivity
  · calc maxSteer * (Real.pi / 180) < 90 * (Real.pi / 180) := by gcongr
      _ = Real.pi / 2 := by ring

include low high in
theorem abs_steeringAngle_le {v : Vehicle ℝ} (positive : 0 < v.wheelbase) {kappa : ℝ}
    (within : |kappa| ≤ Real.tan (Scalar.toRadians maxSteer) / v.wheelbase) :
    |v.steeringAngle kappa| ≤ maxSteer := by
  obtain ⟨nonneg, acute⟩ := toRadians_mem low high
  have undone : Real.arctan (Real.tan (Scalar.toRadians maxSteer)) = Scalar.toRadians maxSteer :=
    Real.arctan_tan (by linarith [Real.pi_pos]) acute
  have product : |v.wheelbase * kappa| ≤ Real.tan (Scalar.toRadians maxSteer) := by
    rw [abs_mul, abs_of_pos positive]
    exact (le_div_iff₀' positive).mp within
  -- The limit was set by a tangent, and the arctangent that undoes it is monotone.
  have angle : |Real.arctan (v.wheelbase * kappa)| ≤ Scalar.toRadians maxSteer := by
    obtain ⟨left, right⟩ := abs_le.mp product
    rw [abs_le, ← undone, ← Real.arctan_neg]
    exact ⟨Real.arctan_mono left, Real.arctan_mono right⟩
  have degrees : 0 < 180 / Real.pi := by positivity
  have shown : v.steeringAngle kappa = Real.arctan (v.wheelbase * kappa) * (180 / Real.pi) := rfl
  calc |v.steeringAngle kappa|
      = |Real.arctan (v.wheelbase * kappa)| * (180 / Real.pi) := by
        rw [shown, abs_mul, abs_of_pos degrees]
    _ ≤ Scalar.toRadians maxSteer * (180 / Real.pi) := by gcongr
    _ = maxSteer := toDegrees_toRadians maxSteer

end Angle

/-- Whatever a vehicle is told, with whatever speeds and yaw rates, and however long it moves: its
curvature stays within its limit and its steering angle within the one it was built with, its
height never changes, its heading is in range once it has moved, and no step takes it further than
the way it drives. -/
theorem steering_limited (start : Pose ℝ) {wheelbase maxSteer : ℝ} (positive : 0 < wheelbase)
    (low : 0 ≤ maxSteer) (high : maxSteer < 90) :
    ∃ built, Vehicle.new start wheelbase maxSteer = .ok built ∧
    ∀ orders : List (Vehicle.Order ℝ), ∃ v, built.after orders = .ok v ∧
      v.maxKappa = built.maxKappa ∧ |v.kappa| ≤ v.maxKappa ∧
      |v.steeringAngle v.kappa| ≤ maxSteer ∧ v.pose.z = start.z ∧
      ((∃ dt, .move dt ∈ orders) → v.pose.yaw ∈ Set.Ico (-180 : ℝ) 180) ∧
      ∀ dt, ∃ v', v.step dt = .ok v' ∧
        v'.pose.position.planeDistance v.pose.position ≤ |v.speed * dt| := by
  obtain ⟨built, new, wheelbase', maxKappa, kappa, pose⟩ : ∃ built : Vehicle ℝ,
      Vehicle.new start wheelbase maxSteer = .ok built ∧ built.wheelbase = wheelbase ∧
        built.maxKappa = Real.tan (Scalar.toRadians maxSteer) / wheelbase ∧ built.kappa = 0 ∧
        built.pose = start :=
    ⟨_, new_eq start maxSteer positive.ne', rfl, rfl, by norm_num, rfl⟩
  obtain ⟨nonneg, acute⟩ := toRadians_mem low high
  have limit : 0 ≤ built.maxKappa := by
    rw [maxKappa]
    exact div_nonneg (Real.tan_nonneg_of_nonneg_of_le_pi_div_two nonneg acute.le) positive.le
  have straight : |built.kappa| ≤ built.maxKappa := by rwa [kappa, abs_zero]
  refine ⟨built, new, fun orders => ?_⟩
  obtain ⟨v, reached, restrained, wrapped⟩ :=
    restrained_after ⟨rfl, rfl, straight, rfl⟩ limit orders
  have within : |v.kappa| ≤ v.maxKappa := restrained.kappa.trans_eq restrained.maxKappa.symm
  refine ⟨v, reached, restrained.maxKappa, within, ?_, ?_, wrapped, fun dt => ?_⟩
  · have same : v.wheelbase = wheelbase := restrained.wheelbase.trans wheelbase'
    refine abs_steeringAngle_le low high (positive.trans_eq same.symm) ?_
    rw [same, ← maxKappa]
    exact restrained.kappa
  · rw [restrained.height, pose]
  · exact ⟨_, step_eq v dt, displacement_le v dt⟩

/-- A vehicle that goes backwards with a yaw rate beyond its limit, stops and is asked to move on. -/
theorem steering_limited_backwards :
    (0 : ℝ) < 2 ∧ (0 : ℝ) ≤ 45 ∧ (45 : ℝ) < 90 ∧
    ∃ built, Vehicle.new ⟨0, 0, 1, 30⟩ 2 45 = .ok built ∧
    ∃ v, built.after [.call (.drive ⟨-1, 5⟩), .move 3, .call .stop, .move 1] = .ok v ∧
      |v.kappa| ≤ v.maxKappa ∧ |v.steeringAngle v.kappa| ≤ 45 ∧ v.pose.z = 1 ∧
      v.pose.yaw ∈ Set.Ico (-180 : ℝ) 180 := by
  have positive : (0 : ℝ) < 2 := by norm_num
  have low : (0 : ℝ) ≤ 45 := by norm_num
  have high : (45 : ℝ) < 90 := by norm_num
  obtain ⟨built, new, limited⟩ := steering_limited ⟨0, 0, 1, 30⟩ positive low high
  obtain ⟨v, reached, -, kappa, angle, height, wrapped, -⟩ :=
    limited [.call (.drive ⟨-1, 5⟩), .move 3, .call .stop, .move 1]
  exact ⟨positive, low, high, built, new, v, reached, kappa, angle, height,
    wrapped ⟨3, by simp⟩⟩

end Exact
end PathTracking
