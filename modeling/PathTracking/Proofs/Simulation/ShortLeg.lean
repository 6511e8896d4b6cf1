import PathTracking.Proofs.Exact.Aiming
import PathTracking.Proofs.Exact.Vehicle
import PathTracking.Proofs.Simulation.Cycle

/-!
# Simulations on a short leg

A simulation on a leg whose end is near after one cycle, followed step by step: the first tick
drives straight on, the second one completes the run (`simulate_leg`).
-/
namespace PathTracking.Exact

theorem step_onAxis {v : Vehicle ℝ} {x : ℝ} (dt : ℝ) (placed : v.pose = onAxis x)
    (straight : v.kappa = 0) :
    v.step dt = .ok { v with pose := onAxis (x + v.speed * dt) } := by
  have yaw : (onAxis x).yaw = 0 := rfl
  rw [Vehicle.step, poseAfter_straight v dt straight, placed, toDegrees_toRadians, yaw,
    wrapAngle_of_mem (by norm_num) (by norm_num)]
  simp [onAxis, Scalar.toRadians]

/-- On the first half of a leg the waypoint to start from is the closest one. -/
theorem update_leg {x q : ℝ} {closest : Option Nat} (first : closest.getD 0 = 0)
    (closer : |q| ≤ |x - q|) :
    (⟨leg x, none, closest⟩ : Planner ℝ).update (onAxis q) =
      if closest = some 0 then (⟨leg x, none, closest⟩, none)
      else (⟨leg x, none, some 0⟩, some (leg x)) := by
  have farther : ¬ |x - q| < |q| := not_lt.mpr closer
  simp [Planner.update, Planner.first, first, Planner.candidates, leg, Planner.nearest,
    Waypoint.position, onAxis, Pose.position, planeDistance_axis, farther]

theorem startOf_leg {x : ℝ} (ahead : 0 ≤ x) :
    Simulation.startOf (leg x) none = .ok (onAxis 0) := by
  have heading : Scalar.atan2 ((0 : ℝ) - 0) (x - 0) = 0 := by
    rw [sub_zero, sub_zero]
    exact Complex.arg_ofReal_of_nonneg ahead
  change Except.ok (⟨0, 0, 0, Scalar.toDegrees (Scalar.atan2 ((0 : ℝ) - 0) (x - 0))⟩ : Pose ℝ) = _
  rw [heading]
  simp [onAxis, Scalar.toDegrees]

section ShortLeg

variable {settings : Settings ℝ} {x : ℝ}

/-- The vehicle at the start of a leg. -/
noncomputable def parked (settings : Settings ℝ) : Vehicle ℝ where
  pose := onAxis 0
  wheelbase := settings.wheelbase
  maxKappa := Real.tan (Scalar.toRadians Vehicle.defaultMaxSteer) / settings.wheelbase
  speed := 0.0
  kappa := 0.0

theorem maxKappa_nonneg (valid : settings.Valid) : 0 ≤ (parked settings).maxKappa := by
  have positive := valid.wheelbase
  have pi := Real.pi_pos
  norm_num at positive
  refine div_nonneg (Real.tan_nonneg_of_nonneg_of_le_pi_div_two ?_ ?_) positive.le
  · change 0 ≤ (35.0 : ℝ) * (Real.pi / 180)
    positivity
  · change (35.0 : ℝ) * (Real.pi / 180) ≤ Real.pi / 2
    norm_num
    linarith

/-- A simulation on a leg at its start. -/
noncomputable def legStart (settings : Settings ℝ) (x : ℝ) : Simulation ℝ :=
  ⟨⟨onLeg settings x 0, parked settings⟩, ⟨leg x, none, some 0⟩, 0, []⟩

theorem init_leg (valid : settings.Valid) :
    Simulation.init (leg x) settings (onAxis 0) = .ok (legStart settings x) := by
  have wheelbase : settings.wheelbase ≠ 0 := ne_zero_of_pos valid.wheelbase
  have settled : (Planner.new (leg x) none).update (onAxis 0) =
      (⟨leg x, none, some 0⟩, some (leg x)) :=
    update_leg rfl (by rw [abs_zero]; exact abs_nonneg _)
  simp only [Simulation.init, new_eq _ _ wheelbase, settled]
  rfl

/-- The vehicle one cycle later. -/
noncomputable def underWay (settings : Settings ℝ) (q : ℝ) : Vehicle ℝ :=
  { parked settings with pose := onAxis q, speed := settings.speed, kappa := 0 }

/-- A cycle whose tick finds the goal reached completes the run. -/
theorem cycle_of_arrived {s : Simulation ℝ} (dt : ℝ)
    (arrived : s.rig.loop.follower.outcome s.rig.loop.inputs = .arrived) :
    ∃ s', s.cycle dt = .ok s' ∧ s'.done = true ∧ s'.rig.loop.follower.phase = .completed := by
  obtain ⟨pose, moved, -⟩ := step_total s.commanded dt
  have ended := s.next_follower { s.commanded with pose }
  rw [ControlLoop.apply_tick, Follower.tick_arrived arrived] at ended
  refine ⟨_, Simulation.cycle_eq_ok_iff.mpr ⟨tick_total _, _, moved, rfl⟩, ?_, ?_⟩
  · rw [Simulation.done, ended]
    rfl
  · rw [ended]
    rfl

/-- The end of a leg that is longer than the minimum distance is ahead of its start. -/
theorem ahead_of_start (valid : settings.Valid) (beyond : settings.minimum < x) :
    |(0 : ℝ)| ≤ settings.distance ∧ settings.minimum < |x - 0| ∧ 0 < x := by
  have minimum := valid.minimum
  have distance := valid.distance
  norm_num at minimum distance
  rw [abs_zero, sub_zero]
  exact ⟨distance.le, beyond.trans_le (le_abs_self x), minimum.trans beyond⟩

variable {q : ℝ}

/-- The first cycle drives straight on and leaves the local route as it is. -/
theorem cycle_leg (valid : settings.Valid) (beyond : settings.minimum < x) {dt : ℝ}
    (driven : settings.speed * dt = q) (half : |q| ≤ |x - q|) :
    let s := (legStart settings x).next (underWay settings q)
    (legStart settings x).cycle dt = .ok s ∧
      s.rig.loop = (onLeg settings x 0).after [.tick, .updatePose (some (onAxis q))] := by
  obtain ⟨near, far, apart⟩ := ahead_of_start valid beyond
  have ticked := apply_onLeg near (.inr far) apart.ne'
  have commanded : (legStart settings x).commanded =
      { parked settings with speed := settings.speed, kappa := 0 } := by
    rw [Simulation.commanded, legStart, ticked]
    exact drive_straight (ne_zero_of_pos valid.speed) (maxKappa_nonneg valid)
  have moved : (legStart settings x).commanded.step dt = .ok (underWay settings q) := by
    rw [commanded, step_onAxis dt rfl rfl, zero_add, driven]
    rfl
  have settled : (legStart settings x).planner.update (underWay settings q).pose =
      (⟨leg x, none, some 0⟩, none) := (update_leg rfl half).trans (if_pos rfl)
  refine ⟨Simulation.cycle_eq_ok_iff.mpr ⟨tick_total _, _, moved, rfl⟩, ?_⟩
  rw [Simulation.next, settled]
  rfl

/-- If the first cycle brings the vehicle within the minimum distance of the end, the second one
completes the run. -/
theorem simulate_leg (valid : settings.Valid) (enough : 2 ≤ settings.maxTicks)
    (beyond : settings.minimum < x) (driven : settings.speed * (1.0 / settings.rate) = q)
    (half : |q| ≤ |x - q|) (there : |q - x| ≤ settings.minimum) :
    ∃ summary notices, simulate (leg x) settings none = .ok (summary, notices) ∧
      summary.phase = .completed := by
  obtain ⟨near, far, apart⟩ := ahead_of_start valid beyond
  obtain ⟨first, ridden⟩ := cycle_leg valid beyond driven half
  generalize (legStart settings x).next (underWay settings q) = s at first ridden
  have arrived : s.rig.loop.follower.outcome s.rig.loop.inputs = .arrived := by
    rw [ridden]
    exact outcome_at_end near (.inr far) apart.ne' there
  have going : s.done = false := Follower.going_of_outcome (by rw [arrived]; exact nofun)
  obtain ⟨final, second, ended, completed⟩ := cycle_of_arrived (1.0 / settings.rate) arrived
  have ran : (legStart settings x).run (1.0 / settings.rate) settings.maxTicks = .ok final := by
    obtain ⟨left, enough⟩ := Nat.exists_eq_add_of_le' enough
    -- Two cycles are run, and the rest of the ticks is left over.
    rw [enough, Simulation.run_of_cycle rfl first, Simulation.run_of_cycle going second,
      Simulation.run_of_done ended]
  obtain ⟨summary, summed, phase, -⟩ := final.conclude.summary_spec (rfl : (leg x).getLast? = _)
  refine ⟨summary, _, Simulation.simulate_eq (startOf_leg apart.le) (init_leg valid)
    (div_eq (ne_zero_of_pos valid.rate)) ran summed, ?_⟩
  rw [phase, Simulation.conclude, if_pos ended, completed]

end ShortLeg

theorem cruise_valid (maxHold : Nat) : (cruise maxHold).Valid where
  distance := by norm_num [cruise]
  minimum := by norm_num [cruise]
  inOrder := by norm_num [cruise]
  speed := by norm_num [cruise]
  rate := by norm_num [cruise]
  maxTicks := by norm_num [cruise]
  wheelbase := by norm_num [cruise]

end PathTracking.Exact
