import PathTracking.Proofs.Failure
import PathTracking.Proofs.Follower.Coherence
import PathTracking.Proofs.Simulation.LocalRoute
import PathTracking.Simulation

/-!
# Cycles of a simulation

A cycle is a tick of the control loop, a step of the vehicle and an update of the planner; to the
loop it is a run of two or three events (`cycle_eq_ok_iff`). Between cycles the parts are in step:
the inputs hold the pose of the vehicle and the local route from the closest waypoint on
(`InStep`). What every cycle can do and keeps, a whole run can do and keeps (`run_invariant`).
-/
namespace PathTracking

variable {α : Type} [Scalar α]

theorem lift_ok_iff {β : Type} {x : Except Fault β} {b : β} :
    (x : Except TrackingFault β) = .ok b ↔ x = .ok b := by
  cases x <;> simp [liftM, monadLift, MonadLift.monadLift, Except.mapError]

/-- What is checked of the settings that a run depends on. -/
structure Settings.Valid (settings : Settings α) : Prop
    extends settings.toLookahead.Valid where
  speed : settings.speed > 0.0
  rate : settings.rate > 0.0
  maxTicks : 0 < settings.maxTicks
  wheelbase : settings.wheelbase > 0.0

namespace Simulation

/-! ## One cycle -/

/-- The vehicle once it has obeyed the calls of a tick. -/
def commanded (s : Simulation α) : Vehicle α :=
  (s.rig.loop.apply .tick).2.calls.foldl Vehicle.obey s.rig.vehicle

/-- What happens to the control loop in a cycle after which the vehicle is at `pose` and in which
`ahead` is published. -/
def eventsOf (pose : Pose α) (ahead : Option (Route α)) : List (Event α) :=
  .tick :: .updatePose (some pose) :: (ahead.map Event.replaceRoute).toList

/-- The state after a cycle that brings the vehicle into the state given. -/
def next (s : Simulation α) (vehicle : Vehicle α) : Simulation α where
  rig := ⟨s.rig.loop.after (eventsOf vehicle.pose (s.planner.update vehicle.pose).2), vehicle⟩
  planner := (s.planner.update vehicle.pose).1
  ticks := s.ticks + 1
  notices := (s.rig.loop.apply .tick).2.notices.reverse ++ s.notices

/-- A cycle goes on exactly if neither the tick nor the step of the vehicle is interrupted. -/
theorem cycle_eq_ok_iff {s s' : Simulation α} {dt : α} :
    s.cycle dt = .ok s' ↔
      (∃ tick, (s.rig.loop.apply .tick).2.result = .ok tick) ∧
      ∃ vehicle, s.commanded.step dt = .ok vehicle ∧ s' = s.next vehicle := by
  unfold cycle Rig.apply Rig.step
  dsimp only
  cases ticked : (s.rig.loop.apply .tick).2.result with
  | error fault => simp [bind, Except.bind]
  | ok tick =>
    rw [← commanded]
    cases moved : s.commanded.step dt with
    | error fault =>
      simp [bind, Except.bind, liftM, monadLift, MonadLift.monadLift, Except.mapError]
    | ok vehicle =>
      simp only [bind, Except.bind, pure, Except.pure, liftM, monadLift, MonadLift.monadLift,
        Except.mapError, Except.ok.injEq, exists_eq', exists_eq_left', true_and]
      -- What the planner publishes goes to the loop; the vehicle has no call to obey.
      rw [eq_comm, next, eventsOf]
      cases (s.planner.update vehicle.pose).2 <;> rfl

section Next

variable (s : Simulation α) (vehicle : Vehicle α)

/-- After the tick of a cycle only the inputs change. -/
theorem next_follower :
    (s.next vehicle).rig.loop.follower = (s.rig.loop.apply .tick).1.follower := by
  unfold next eventsOf
  cases (s.planner.update vehicle.pose).2 <;> rfl

theorem next_posed : (s.next vehicle).rig.loop.inputs.pose = some vehicle.pose := by
  unfold next eventsOf
  cases (s.planner.update vehicle.pose).2 <;> rfl

theorem next_route :
    (s.next vehicle).rig.loop.inputs.route =
      (s.planner.update vehicle.pose).2.getD s.rig.loop.inputs.route := by
  unfold next eventsOf
  cases (s.planner.update vehicle.pose).2 <;> rfl

end Next

/-! ## Between cycles -/

/-- How the parts of a simulation stand to each other between cycles. -/
structure InStep (route : Route α) (settings : Settings α) (s : Simulation α) : Prop where
  coherent : s.rig.loop.Coherent
  settings : s.rig.loop.follower.settings = settings
  posed : s.rig.loop.inputs.pose = some s.rig.vehicle.pose
  planned : s.planner.route = route
  ahead : ∃ closest, s.planner.closest = some closest ∧ closest < route.length ∧
    s.rig.loop.inputs.route = route.drop closest

namespace InStep

variable {route : Route α} {settings : Settings α} {s : Simulation α}

omit [Scalar α] in
/-- The local route ends where the whole route ends. -/
theorem getLast? (inStep : s.InStep route settings) :
    s.rig.loop.inputs.route.getLast? = route.getLast? := by
  obtain ⟨closest, -, inside, rest⟩ := inStep.ahead
  rw [rest, List.getLast?_drop, if_neg (by omega)]

theorem next (inStep : s.InStep route settings) (vehicle : Vehicle α) :
    (s.next vehicle).InStep route settings := by
  obtain ⟨closest, known, inside, rest⟩ := inStep.ahead
  have first : s.planner.first < s.planner.route.length := by
    rw [Planner.first, known, inStep.planned]
    exact inside
  obtain ⟨nearest, within, settled, published⟩ := s.planner.update_spec vehicle.pose first
  rw [inStep.planned] at within published
  refine ⟨?_, ?_, next_posed s vehicle, ?_, nearest, ?_, within, ?_⟩
  · exact ControlLoop.after_invariant _ ControlLoop.apply_coherent inStep.coherent _
  · rw [next_follower, ControlLoop.apply_settings]
    exact inStep.settings
  · rw [Simulation.next, settled]
    exact inStep.planned
  · rw [Simulation.next, settled]
  · -- The waypoint settled on is a new one, or the local route starts there already.
    rw [next_route, published, known]
    split
    next same =>
      rw [Option.getD_none, rest, Option.some.inj same]
    · rfl

end InStep

theorem pose_of_new {start : Pose α} {wheelbase maxSteer : α} {vehicle : Vehicle α}
    (built : Vehicle.new start wheelbase maxSteer = .ok vehicle) : vehicle.pose = start := by
  unfold Vehicle.new at built
  cases tangent : Scalar.tan (Scalar.toRadians maxSteer) with
  | error fault =>
    rw [tangent] at built
    cases built
  | ok slope =>
    rw [tangent] at built
    cases ratio : Scalar.div slope wheelbase with
    | error fault =>
      simp only [bind, Except.bind, ratio] at built
      cases built
    | ok maxKappa =>
      simp only [bind, Except.bind, ratio] at built
      cases built
      rfl

/-- At the start the planner settles on a waypoint for the first time. -/
theorem init_inStep {route : Route α} {start : Pose α} {settings : Settings α}
    {vehicle : Vehicle α} (occupied : route ≠ [])
    (built : Vehicle.new start settings.wheelbase Vehicle.defaultMaxSteer = .ok vehicle) :
    ∃ s, init route settings start = .ok s ∧ s.InStep route settings ∧
      s.rig.loop.follower.phase = .idle := by
  have first : (Planner.new route none).first < (Planner.new route none).route.length :=
    List.length_pos_iff.mpr occupied
  obtain ⟨nearest, within, settled, published⟩ := (Planner.new route none).update_spec start first
  have begun : init route settings start =
      .ok ⟨⟨.new settings (.new (route.drop nearest) (some start)), vehicle⟩,
        { Planner.new route none with closest := some nearest }, 0, []⟩ := by
    simp only [init, built, settled, published]
    rfl
  refine ⟨_, begun, ⟨ControlLoop.new_coherent .., rfl, ?_, rfl, nearest, rfl, within, rfl⟩, rfl⟩
  rw [pose_of_new built]
  rfl

/-! ## A whole simulation -/

theorem run_of_done {s : Simulation α} (ended : s.done = true) (dt : α) (left : Nat) :
    s.run dt left = .ok s := by
  cases left with
  | zero => rfl
  | succ left => rw [run, if_pos ended]

theorem run_of_cycle {s s' : Simulation α} {dt : α} (going : s.done = false)
    (cycled : s.cycle dt = .ok s') (left : Nat) : s.run dt (left + 1) = s'.run dt left := by
  rw [run, going, if_neg Bool.false_ne_true, cycled]

/-- If every cycle of a run comes to an end and keeps a property, so does the whole run. -/
theorem run_invariant {P : Simulation α → Prop} {dt : α}
    (cycles : ∀ s, P s → s.done = false → ∃ s', s.cycle dt = .ok s' ∧ P s') (left : Nat)
    {s : Simulation α} (initial : P s) : ∃ s', s.run dt left = .ok s' ∧ P s' := by
  induction left generalizing s with
  | zero => exact ⟨s, rfl, initial⟩
  | succ left ih =>
    cases state : s.done with
    | true => exact ⟨s, run_of_done state dt _, initial⟩
    | false =>
      obtain ⟨s', cycled, kept⟩ := cycles s initial state
      rw [run_of_cycle state cycled]
      exact ih kept

theorem summary_spec (s : Simulation α) {route : Route α} {goal : Waypoint α}
    (ending : route.getLast? = some goal) :
    ∃ summary, s.summary route = .ok summary ∧ summary.phase = s.rig.loop.follower.phase ∧
      summary.finalPose = s.rig.vehicle.pose ∧
      summary.toGoal = s.rig.vehicle.pose.position.planeDistance goal.position := by
  unfold summary
  rw [ending]
  exact ⟨_, rfl, rfl, rfl, rfl⟩

/-- Where a simulation starts. -/
def startOf (route : Route α) : Option (Pose α) → Except TrackingFault (Pose α)
  | some pose => .ok pose
  | none => route.defaultStart

theorem startOf_total {route : Route α} (start : Option (Pose α)) (occupied : route ≠ []) :
    ∃ pose, startOf route start = .ok pose := by
  cases start with
  | some pose => exact ⟨pose, rfl⟩
  | none =>
    match route, occupied with
    | [w], _ => exact ⟨_, rfl⟩
    | w :: next :: _, _ => exact ⟨_, rfl⟩

/-- A simulation is a run from its start that is concluded and summed up. -/
theorem simulate_stages (route : Route α) (settings : Settings α) (start : Option (Pose α)) :
    simulate route settings start = (do
      let start ← startOf route start
      let s ← init route settings start
      let dt ← (Scalar.div 1.0 settings.rate : Except Fault α)
      let s := (← s.run dt settings.maxTicks).conclude
      return (← s.summary route, s.notices.reverse)) := by
  cases start <;> rfl

theorem simulate_eq {route : Route α} {settings : Settings α} {start : Option (Pose α)}
    {pose : Pose α} {s s' : Simulation α} {dt : α} {summary : Summary α}
    (placed : startOf route start = .ok pose) (begun : init route settings pose = .ok s)
    (rated : Scalar.div 1.0 settings.rate = .ok dt)
    (ran : s.run dt settings.maxTicks = .ok s')
    (summed : s'.conclude.summary route = .ok summary) :
    simulate route settings start = .ok (summary, s'.conclude.notices.reverse) := by
  simp only [simulate_stages, placed, begun, rated, ran, summed, bind, Except.bind, pure,
    Except.pure, liftM, monadLift, MonadLift.monadLift, Except.mapError]

end Simulation
end PathTracking
