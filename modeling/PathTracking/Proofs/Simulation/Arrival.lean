import PathTracking.Proofs.Follower.Completion
import PathTracking.Proofs.Simulation.ShortLeg

/-!
# Arrival

In exact arithmetic a simulation always comes to an end, and one that is completed ended within
the minimum distance of the last waypoint of its route (`simulate_completed`). The tick that
completes the run has measured that distance from the pose the vehicle had then, to the end of the
local route. The local route ends where the whole route ends, and the tick stops the vehicle, so
that the step after it leads nowhere.
-/
namespace PathTracking

namespace Simulation

variable {route : Route ℝ} {settings : Settings ℝ} {s : Simulation ℝ}

/-- If the run is completed, the vehicle is within the minimum distance of the last waypoint. -/
def AtGoal (route : Route ℝ) (settings : Settings ℝ) (s : Simulation ℝ) : Prop :=
  s.rig.loop.follower.phase = .completed → ∃ goal, route.getLast? = some goal ∧
    s.rig.vehicle.pose.position.planeDistance goal.position ≤ settings.minimum

/-- A run that is going on is not completed. -/
theorem InStep.uncompleted (inStep : s.InStep route settings) (going : s.done = false) :
    s.rig.loop.follower.phase ≠ .completed := by
  intro completed
  have halted := inStep.coherent.consistent.done_iff.mpr (.inl completed)
  rw [done, halted] at going
  cases going

/-- When a tick completes the run, the pose before it is at the goal. -/
theorem InStep.near_of_completed (inStep : s.InStep route settings)
    (going : s.done = false)
    (completed : (s.rig.loop.apply .tick).1.follower.phase = .completed) :
    ∃ goal, route.getLast? = some goal ∧
      s.rig.vehicle.pose.position.planeDistance goal.position ≤ settings.minimum := by
  obtain ⟨pose, goal, posed, ending, near⟩ :=
    inStep.coherent.completed (inStep.uncompleted going) completed
  rw [inStep.posed] at posed
  cases posed
  rw [inStep.settings] at near
  refine ⟨goal, inStep.getLast? ▸ ending, ?_⟩
  rcases near with near | inside
  · exact near
  · -- In exact arithmetic the last waypoint is within the distance if it is not beyond it.
    rw [Exact.planeDistance_comm]
    exact not_lt.mp (inside goal (List.mem_of_getLast? ending))

/-- A cycle comes to an end, keeps the parts in step and completes the run only at the goal. -/
theorem InStep.cycle (inStep : s.InStep route settings) (dt : ℝ) (going : s.done = false) :
    ∃ s', s.cycle dt = .ok s' ∧ s'.InStep route settings ∧ s'.AtGoal route settings := by
  obtain ⟨pose, moved, rest⟩ := Exact.step_total s.commanded dt
  refine ⟨s.next { s.commanded with pose }, ?_, inStep.next _, ?_⟩
  · exact cycle_eq_ok_iff.mpr ⟨Exact.tick_total s.rig.loop, _, moved, rfl⟩
  · intro completed
    rw [next_follower] at completed
    -- The tick that completes the run has stopped the vehicle, so the step leads nowhere.
    have halting : s.commanded = s.rig.vehicle.stop := by
      rw [commanded,
        ControlLoop.calls_of_completed (inStep.uncompleted going) completed]
      rfl
    have stays : pose.position = s.rig.vehicle.pose.position := by
      rw [halting] at rest
      exact rest (Exact.speed_stop _)
    obtain ⟨goal, ending, near⟩ := inStep.near_of_completed going completed
    exact ⟨goal, ending, stays ▸ near⟩

/-- A run that is stopped is not completed. -/
theorem AtGoal.conclude (atGoal : s.AtGoal route settings) :
    s.conclude.AtGoal route settings := by
  unfold Simulation.conclude
  cases state : s.done with
  | true =>
    rw [if_pos rfl]
    exact atGoal
  | false =>
    intro completed
    rw [if_neg Bool.false_ne_true] at completed
    have aborted : s.rig.loop.follower.estop.1.phase = .aborted := by
      rw [Follower.estop_of_going _ state]
      rfl
    cases aborted.symm.trans completed

end Simulation

/-- In exact arithmetic every simulation on a route with valid settings comes to an end and reports
how far its vehicle is from the last waypoint of the route. If it was completed, that is at most
the minimum distance. -/
theorem simulate_completed (route : Route ℝ) (settings : Settings ℝ) (start : Option (Pose ℝ))
    (occupied : route ≠ []) (valid : settings.Valid) :
    ∃ summary notices goal, simulate route settings start = .ok (summary, notices) ∧
      route.getLast? = some goal ∧
      summary.toGoal = summary.finalPose.position.planeDistance goal.position ∧
      (summary.phase = .completed → summary.toGoal ≤ settings.minimum) := by
  obtain ⟨pose, placed⟩ := Simulation.startOf_total start occupied
  have wheelbase : settings.wheelbase ≠ 0 := Exact.ne_zero_of_pos valid.wheelbase
  have rate : settings.rate ≠ 0 := Exact.ne_zero_of_pos valid.rate
  have ending : route.getLast? = some (route.getLast occupied) :=
    List.getLast?_eq_some_getLast occupied
  obtain ⟨s, begun, inStep, idle⟩ :=
    Simulation.init_inStep occupied (Exact.new_eq pose Vehicle.defaultMaxSteer wheelbase)
  have unfinished : s.AtGoal route settings := by
    intro completed
    rw [idle] at completed
    cases completed
  obtain ⟨final, ran, -, atGoal⟩ := Simulation.run_invariant
    (P := fun s => s.InStep route settings ∧ s.AtGoal route settings)
    (fun s kept going => kept.1.cycle (1.0 / settings.rate) going) settings.maxTicks
    ⟨inStep, unfinished⟩
  obtain ⟨summary, summed, phase, finalPose, toGoal⟩ := final.conclude.summary_spec ending
  refine ⟨summary, final.conclude.notices.reverse, route.getLast occupied, ?_, ending, ?_, ?_⟩
  · exact Simulation.simulate_eq placed begun (Exact.div_eq rate) ran summed
  · rw [toGoal, finalPose]
  · intro completed
    rw [phase] at completed
    obtain ⟨goal, same, near⟩ := atGoal.conclude completed
    rw [ending] at same
    cases same
    rw [toGoal]
    exact near

/-- Five hundredths of a metre on, the end of a leg of 1.05 metres is within the minimum distance
of one metre. -/
theorem simulate_completed_on_leg :
    let route := Exact.leg (21 / 20)
    let settings := Exact.cruise 0
    route ≠ [] ∧ settings.Valid ∧
    ∃ summary notices goal, simulate route settings none = .ok (summary, notices) ∧
      summary.phase = .completed ∧ route.getLast? = some goal ∧
      summary.toGoal = summary.finalPose.position.planeDistance goal.position ∧
      summary.toGoal ≤ settings.minimum := by
  intro route settings
  have occupied : route ≠ [] := List.cons_ne_nil _ _
  have valid : settings.Valid := Exact.cruise_valid 0
  obtain ⟨summary, notices, simulated, completed⟩ :
      ∃ summary notices, simulate route settings none = .ok (summary, notices) ∧
        summary.phase = .completed :=
    Exact.simulate_leg (q := 1 / 20) valid (by norm_num [settings, Exact.cruise])
      (by norm_num [settings, Exact.cruise]) (by norm_num [settings, Exact.cruise])
      (by norm_num) (by norm_num [settings, Exact.cruise])
  obtain ⟨summary', notices', goal, simulated', ending, toGoal, near⟩ :=
    simulate_completed route settings none occupied valid
  rw [simulated] at simulated'
  cases simulated'
  exact ⟨occupied, valid, summary, notices, goal, simulated, completed, ending, toGoal,
    near completed⟩

end PathTracking
