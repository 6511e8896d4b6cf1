import PathTracking.Proofs.Binary64.Distance
import PathTracking.Proofs.Follower.Coherence
import PathTracking.Proofs.Tracking.Target

/-!
# Completion

A run is completed by a tick, in one of two ways: the goal is found within the minimum distance,
or no waypoint is found beyond it. On numbers the second gives the first for the last waypoint. A
distance that is a NaN is neither within nor beyond, so that a vehicle whose place is not a
number is taken for one that has arrived (`completed_near_goal`, `completed_nowhere`).
-/
namespace PathTracking

variable {α : Type} [Scalar α]

/-- Only two outcomes complete a run. -/
theorem Follower.outcome_of_completed {f : Follower α} {inputs : Inputs α}
    (before : f.phase ≠ .completed) (completed : (f.tick inputs).1.phase = .completed) :
    f.outcome inputs = .arrived ∨
      ∃ tick, f.outcome inputs = .computed tick ∧ tick.status = .noValidCurve := by
  cases went : f.outcome inputs with
  | finished => rw [tick_finished went] at completed; exact absurd completed before
  | waiting =>
    rw [tick_waiting went, sync_phase] at completed
    exact absurd completed before
  | arrived => exact .inl rfl
  | interrupted fault =>
    rw [tick_interrupted went, aimed_phase] at completed
    exact absurd completed before
  | computed tick =>
    obtain ⟨after, calls, notices, reaction, ticked⟩ := tick_computed went
    rw [ticked] at completed
    cases reaction with
    | complete ended => exact .inr ⟨tick, rfl, ended⟩
    | drive | hold | abort => cases completed

namespace ControlLoop

/-- The tick that completes a run stops the vehicle. -/
theorem calls_of_completed {l : ControlLoop α} (before : l.follower.phase ≠ .completed)
    (completed : (l.apply .tick).1.follower.phase = .completed) :
    (l.apply .tick).2.calls = [.stop] := by
  rw [apply_tick]
  rcases Follower.outcome_of_completed before completed with arrived | ⟨tick, computed, ended⟩
  · rw [Follower.tick_arrived arrived]
  · obtain ⟨after, calls, notices, reaction, ticked⟩ := Follower.tick_computed computed
    rw [ticked]
    cases reaction with
    | complete => rfl
    | drive ok => rw [ended] at ok; cases ok
    | hold lost | abort lost => exact absurd ended (Status.apart_of_lost lost).2

theorem tick_of_completed {l : ControlLoop α} {event : Event α}
    (before : l.follower.phase ≠ .completed)
    (completed : (l.apply event).1.follower.phase = .completed) : event = .tick := by
  cases event with
  | tick => rfl
  | updatePose | replaceRoute => exact absurd completed before
  | load => cases completed
  | estop =>
    rw [apply_estop] at completed
    cases state : l.follower.done with
    | true => rw [Follower.estop_of_done _ state] at completed; exact absurd completed before
    | false => rw [Follower.estop_of_going _ state] at completed; cases completed
  | resume =>
    rw [apply_resume] at completed
    by_cases aborted : l.follower.phase = .aborted
    · rw [Follower.resume_of_aborted _ aborted] at completed; cases completed
    · rw [Follower.resume_of_other _ aborted] at completed; exact absurd completed before

/-- What completes a run: the pose of the inputs is within the minimum distance of the last
waypoint, or no waypoint is beyond that distance. -/
theorem Coherent.completed {l : ControlLoop α} (coherent : l.Coherent)
    (before : l.follower.phase ≠ .completed)
    (completed : (l.apply .tick).1.follower.phase = .completed) :
    ∃ pose goal, l.inputs.pose = some pose ∧ l.inputs.route.getLast? = some goal ∧
      (pose.position.planeDistance goal.position ≤ l.follower.settings.minimum ∨
        ∀ w ∈ l.inputs.route,
          ¬ w.position.planeDistance pose.position > l.follower.settings.minimum) := by
  rcases Follower.outcome_of_completed before completed with arrived | ⟨tick, computed, ended⟩
  · have course := l.follower.outcome_course l.inputs
    rw [arrived] at course
    cases course with
    | @arrived pose _ posed _ reached =>
      obtain ⟨goal, ending, -, near⟩ := Follower.reachedGoal_iff.mp reached
      rw [Follower.sync_settings] at near
      exact ⟨pose, goal, posed, ending, .inl near⟩
  · obtain ⟨pose, posed, tracked⟩ := coherent.track_of_computed computed
    obtain ⟨occupied, inside⟩ := Route.inside_of_noValidCurve tracked ended
    refine ⟨pose, _, posed, List.getLast?_eq_some_getLast occupied, .inr fun w member => ?_⟩
    simpa using List.any_eq_false.mp inside w member

/-- A tick that goes on with a route of which no waypoint is beyond the minimum distance completes
the run. -/
theorem Coherent.completes {l : ControlLoop α} (coherent : l.Coherent) {pose : Pose α}
    (going : l.follower.done = false) (posed : l.inputs.pose = some pose)
    (occupied : l.inputs.route ≠ [])
    (inside : l.inputs.route.reachesBeyond pose l.follower.settings.minimum = false) :
    (l.apply .tick).1.follower.phase = .completed := by
  rw [apply_tick]
  cases reached : (l.follower.sync l.inputs).reachedGoal pose l.inputs.route with
  | true =>
    rw [Follower.tick_arrived (Follower.outcome_eq_arrived going posed occupied reached)]
    rfl
  | false =>
    obtain ⟨index, tracked⟩ :=
      Route.track_of_inside l.follower.settings.toLookahead occupied inside
    rw [← coherent.track] at tracked
    obtain ⟨after, calls, notices, reaction, ticked⟩ := Follower.tick_computed
      (Follower.outcome_eq_computed going posed occupied reached tracked)
    rw [ticked]
    cases reaction with
    | complete => rfl
    | drive ok => cases ok
    | hold lost | abort lost => exact absurd rfl (Status.apart_of_lost lost).2

end ControlLoop

/-! ## On binary64 numbers -/

namespace Binary64

/-- Settings with the lookahead distances 5 and 1. -/
def cruise : Settings Float where
  distance := 5
  minimum := 1
  interpolate := true
  speed := 1
  rate := 20
  maxHold := 5
  maxTicks := 2000
  wheelbase := 2.7
  logLevel := "INFO"
  logFile := none
  logMaxBytes := 2097152
  logBackups := 3

theorem cruise_valid : cruise.toLookahead.Valid where
  distance := by decide +kernel
  minimum := by decide +kernel
  inOrder := by decide +kernel

/-- A leg along the abscissa, and a pose on its line. -/
def onLeg (length x : Float) : Inputs Float :=
  .new [⟨0, 0, 0, none⟩, ⟨length, 0, 0, none⟩] (some ⟨x, 0, 0, 0⟩)

end Binary64

namespace ControlLoop

/-- In every run of a follower with valid settings the event that completes the run is a tick with
a pose and a last waypoint. The pose is within the minimum distance of that waypoint exactly if
their distance is not a NaN; if it is one, no waypoint is beyond the minimum distance. -/
theorem completed_near_goal (settings : Settings Float) (inputs : Inputs Float)
    (events : List (Event Float)) (event : Event Float) (valid : settings.toLookahead.Valid)
    (before : ((ControlLoop.new settings inputs).after events).follower.phase ≠ .completed)
    (completed : (((ControlLoop.new settings inputs).after events).apply event).1.follower.phase =
      .completed) :
    let l := (ControlLoop.new settings inputs).after events
    event = .tick ∧ ∃ pose goal, l.inputs.pose = some pose ∧
      l.inputs.route.getLast? = some goal ∧
      let distance := pose.position.planeDistance goal.position
      (distance ≤ settings.minimum ↔ distance.isNaN = false) ∧
      (distance.isNaN = true → ∀ w ∈ l.inputs.route,
        ¬ w.position.planeDistance pose.position > settings.minimum) := by
  intro l
  obtain rfl := tick_of_completed before completed
  have coherent : l.Coherent := after_coherent settings inputs events
  have number : settings.minimum.isNaN = false := (Binary64.isNaN_of_lt valid.minimum).2
  obtain ⟨pose, goal, posed, ending, near | inside⟩ := coherent.completed before completed
  · rw [after_settings] at near
    have measured : (pose.position.planeDistance goal.position).isNaN = false :=
      (Binary64.le_iff.mp near).2.1
    refine ⟨rfl, pose, goal, posed, ending, iff_of_true near measured, fun unmeasured => ?_⟩
    rw [measured] at unmeasured
    cases unmeasured
  · rw [after_settings] at inside
    refine ⟨rfl, pose, goal, posed, ending, ⟨fun near => (Binary64.le_iff.mp near).2.1, ?_⟩,
      fun _ => inside⟩
    intro measured
    have near := inside goal (List.mem_of_getLast? ending)
    rw [Binary64.planeDistance_comm] at near
    exact Binary64.le_iff.mpr ⟨near, measured, number⟩

/-- Half a metre before the end of its route the first tick completes the run. -/
theorem completed_half_metre_away :
    let l := (ControlLoop.new Binary64.cruise (Binary64.onLeg 0.5 0)).after []
    l.follower.phase ≠ .completed ∧ (l.apply .tick).1.follower.phase = .completed ∧
    (⟨0, 0, 0⟩ : Point Float).planeDistance ⟨0.5, 0, 0⟩ ≤ Binary64.cruise.minimum := by
  have before :
      ((ControlLoop.new Binary64.cruise (Binary64.onLeg 0.5 0)).after []).follower.phase ≠
        .completed := nofun
  have completed :
      (((ControlLoop.new Binary64.cruise (Binary64.onLeg 0.5 0)).after []).apply
        .tick).1.follower.phase = .completed := by decide +kernel
  refine ⟨before, completed, ?_⟩
  obtain ⟨-, pose, goal, posed, ending, near, -⟩ :=
    completed_near_goal Binary64.cruise (Binary64.onLeg 0.5 0) [] .tick Binary64.cruise_valid
      before completed
  cases posed
  cases ending
  exact near.mpr (by decide +kernel)

/-- A tick whose pose has no distance from any waypoint completes the run. -/
theorem Coherent.completes_unmeasured {l : ControlLoop Float} (coherent : l.Coherent)
    {pose : Pose Float} (going : l.follower.done = false) (posed : l.inputs.pose = some pose)
    (occupied : l.inputs.route ≠ [])
    (unmeasured : ∀ w ∈ l.inputs.route,
      (w.position.planeDistance pose.position).isNaN = true) :
    (l.apply .tick).1.follower.phase = .completed := by
  refine coherent.completes going posed occupied (List.any_eq_false.mpr fun w member beyond => ?_)
  have measured := (Binary64.isNaN_of_lt (of_decide_eq_true beyond)).2
  rw [unmeasured w member] at measured
  cases measured

/-- Ten metres before the end of its route, or anywhere else for that matter, the first tick
completes the run if the abscissa of the pose is a NaN. -/
theorem completed_nowhere :
    let l := ControlLoop.new Binary64.cruise (Binary64.onLeg 10 Binary64.nan)
    l.follower.phase ≠ .completed ∧ (l.apply .tick).1.follower.phase = .completed ∧
    ∀ pose goal, l.inputs.pose = some pose → l.inputs.route.getLast? = some goal →
      ¬ pose.position.planeDistance goal.position ≤ Binary64.cruise.minimum := by
  have unmeasured : ∀ w ∈ (Binary64.onLeg 10 Binary64.nan).route,
      (w.position.planeDistance ⟨Binary64.nan, 0, 0⟩).isNaN = true := by decide +kernel
  have completed :
      ((ControlLoop.new Binary64.cruise (Binary64.onLeg 10 Binary64.nan)).apply
        .tick).1.follower.phase = .completed :=
    (new_coherent _ _).completes_unmeasured rfl rfl (List.cons_ne_nil _ _) unmeasured
  refine ⟨nofun, completed, ?_⟩
  rintro pose goal ⟨⟩ ⟨⟩
  decide +kernel

end ControlLoop
end PathTracking
