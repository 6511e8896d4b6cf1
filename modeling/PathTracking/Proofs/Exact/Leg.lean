import PathTracking.Proofs.Exact.Arithmetic
import PathTracking.Proofs.Follower.Run
import PathTracking.Proofs.Tracking.Target

/-!
# A straight leg

A route of two points on the x axis and a vehicle on that axis that heads along it: as long
as the route is not passed, the vehicle is driven straight at its end (`track_leg`,
`apply_onLeg`).
-/
namespace PathTracking.Exact

/-- The leg from the origin to the point `x` of the axis. -/
def leg (x : ℝ) : Route ℝ := [⟨0, 0, 0, none⟩, ⟨x, 0, 0, none⟩]

/-- The pose at the point `x` of the axis, heading along it. -/
def onAxis (x : ℝ) : Pose ℝ := ⟨x, 0, 0, 0⟩

theorem planeDistance_axis (x y z w : ℝ) :
    (⟨x, 0, z⟩ : Point ℝ).planeDistance ⟨y, 0, w⟩ = |x - y| := by
  rw [planeDistance_eq]
  simp [Real.sqrt_sq_eq_abs]

theorem toLocal_axis (p x z : ℝ) :
    (onAxis p).toLocal ⟨x, 0, z⟩ = .ok ⟨x - p, 0, z⟩ := by
  simp [Pose.toLocal, onAxis, Scalar.toRadians, Scalar.cos, Scalar.sin, bind, Except.bind, pure,
    Except.pure]

theorem track_leg (p x : ℝ) (config : Lookahead ℝ) (near : |p| ≤ config.distance)
    (beyond : config.minimum < |p| ∨ config.minimum < |x - p|) (apart : x ≠ p) :
    (leg x).track (onAxis p) config = .ok (.onTarget 1 ⟨x, 0, 0⟩ .raw 0) := by
  have found : (leg x).search (onAxis p) config.distance = some 1 := by
    simpa [Route.search, leg, Route.firstBeyond, Waypoint.position, onAxis, Pose.position,
      planeDistance_axis] using near
  have reaches : (leg x).reachesBeyond (onAxis p) config.minimum = true := by
    simpa [Route.reachesBeyond, leg, Waypoint.position, onAxis, Pose.position,
      planeDistance_axis] using beyond
  have kind : (leg x).kindAt config 1 = .raw := by
    simp [Route.kindAt, TargetKind.choose, leg]
  have curvature : (onAxis p).curvatureTo ⟨x, 0, 0⟩ saturation = .ok 0 := by
    rw [curvatureTo_eq _ _ _ (toLocal_axis p x 0), if_neg (sub_ne_zero.mpr apart)]
    simp
  rw [← kind]
  refine Route.track_onTarget found reaches ?_ curvature
  rw [kind]
  rfl

/-! ## The first tick -/

/-- The follower of a leg, before its first tick. -/
noncomputable def onLeg (settings : Settings ℝ) (x p : ℝ) : ControlLoop ℝ :=
  .new settings (.new (leg x) (some (onAxis p)))

/-- Settings with the lookahead distances 5 and 1. -/
noncomputable def cruise (maxHold : Nat) : Settings ℝ where
  distance := 5
  minimum := 1
  interpolate := true
  speed := 1
  rate := 20
  maxHold
  maxTicks := 2000
  wheelbase := 2.7
  logLevel := "INFO"
  logFile := none
  logMaxBytes := 2097152
  logBackups := 3

section FirstTick

variable {settings : Settings ℝ} {p x : ℝ}

theorem outcome_onLeg (near : |p| ≤ settings.distance)
    (beyond : settings.minimum < |p| ∨ settings.minimum < |x - p|) (apart : x ≠ p) :
    (onLeg settings x p).follower.outcome (onLeg settings x p).inputs =
      .computed (.onTarget 1 ⟨x, 0, 0⟩ .raw 0) := by
  have outdated : (onLeg settings x p).follower.revision ≠
      some (onLeg settings x p).inputs.revision := nofun
  refine Follower.outcome_eq_computed rfl (rfl : _ = some (onAxis p)) (List.cons_ne_nil _ _) ?_ ?_
  · rw [Follower.sync_of_outdated _ _ outdated]
    rfl
  · rw [Follower.sync_of_outdated _ _ outdated]
    exact track_leg p x settings.toLookahead near beyond apart

/-- The first tick drives straight on and leaves the tracker aiming at the end. -/
theorem apply_onLeg (near : |p| ≤ settings.distance)
    (beyond : settings.minimum < |p| ∨ settings.minimum < |x - p|) (apart : x ≠ p) :
    let l := onLeg settings x p
    let tick : Tick ℝ := .onTarget 1 ⟨x, 0, 0⟩ .raw 0
    l.apply .tick =
      (⟨{ l.follower.aimed l.inputs tick.aim with
          last := some tick, command := some (l.follower.commandFor tick), held := 0,
          phase := .tracking }, l.inputs⟩,
        ⟨.ok (some tick), [.drive (l.follower.commandFor tick)], []⟩) := by
  intro l tick
  rw [ControlLoop.apply_tick, Follower.tick_driving (outcome_onLeg near beyond apart) rfl]
  rfl

/-- After the first tick a vehicle that comes close to the end has arrived. -/
theorem outcome_at_end {q : ℝ} (near : |p| ≤ settings.distance)
    (beyond : settings.minimum < |p| ∨ settings.minimum < |x - p|) (apart : x ≠ p)
    (there : |q - x| ≤ settings.minimum) :
    let l := (onLeg settings x p).after [.tick, .updatePose (some (onAxis q))]
    l.follower.outcome l.inputs = .arrived := by
  intro l
  have ticked : l =
      ((onLeg settings x p).apply .tick).1.after [.updatePose (some (onAxis q))] := rfl
  rw [apply_onLeg near beyond apart] at ticked
  have current : l.follower.sync l.inputs = l.follower :=
    Follower.sync_of_current _ _ (by rw [ticked]; rfl)
  have posed : l.inputs.pose = some (onAxis q) := by rw [ticked]; rfl
  refine Follower.outcome_eq_arrived ?_ posed ?_ ?_
  · rw [ticked]; rfl
  · rw [ticked]; exact List.cons_ne_nil _ _
  · rw [current, Follower.reachedGoal_iff, ticked]
    refine ⟨⟨x, 0, 0, none⟩, rfl, rfl, ?_⟩
    exact (planeDistance_axis q x 0 0).trans_le there

end FirstTick
end PathTracking.Exact
