import PathTracking.Proofs.Simulation.ShortLeg

/-!
# The course of a simulation

Follower, vehicle and planner stay in step for a whole simulation, whatever its numbers are. Every
tick finds the pose of the vehicle and the rest of the route from the closest waypoint on in the
inputs, so none waits and each one makes a call. A local route is published only when the planner
has moved on, so there are fewer of these than waypoints (`Paced`). The call that ends the run is a
stop, and if the ticks run out first, the emergency stop is one. `Ran` lists what a run goes
through, and each law of a whole run is an induction on it.
-/
namespace PathTracking

variable {α : Type}

/-- The event gives the inputs a route. -/
def Event.replacesRoute : Event α → Bool
  | replaceRoute _ | load _ => true
  | _ => false

variable [Scalar α]

/-- The revision of the inputs counts the routes they have been given. -/
theorem ControlLoop.revision_after (l : ControlLoop α) (events : List (Event α)) :
    (l.after events).inputs.revision =
      l.inputs.revision + events.countP Event.replacesRoute := by
  induction events generalizing l with
  | nil => rfl
  | cons event rest ih =>
    rw [after_cons, ih, List.countP_cons]
    cases event with
    | replaceRoute | load =>
      simp only [apply, Follower.load, Inputs.replaceRoute, Event.replacesRoute, if_true]
      omega
    | updatePose | tick | estop | resume => rfl

/-- A tick that has something to compute with and is not interrupted makes one call, a stop if it
ends the run. -/
theorem Follower.tick_call {f : Follower α} {inputs : Inputs α} {result : Option (Tick α)}
    (going : f.done = false) (posed : inputs.pose ≠ none) (occupied : inputs.route ≠ [])
    (ticked : (f.tick inputs).2.result = .ok result) :
    f.outcome inputs ≠ .waiting ∧ ∃ call, (f.tick inputs).2.calls = [call] ∧
      ((f.tick inputs).1.done = true → call = .stop) := by
  have course := f.outcome_course inputs
  generalize went : f.outcome inputs = outcome at course ⊢
  cases course with
  | finished halted => rw [going] at halted; cases halted
  | waiting _ lacking => exact absurd lacking (not_or.mpr ⟨posed, occupied⟩)
  | arrived =>
    rw [tick_arrived went]
    exact ⟨nofun, .stop, rfl, fun _ => rfl⟩
  | interrupted => rw [tick_interrupted went] at ticked; cases ticked
  | computed =>
    obtain ⟨after, calls, notices, reaction, reacted⟩ := tick_computed went
    rw [reacted]
    refine ⟨nofun, ?_⟩
    -- A reaction that leaves the run going leaves the mark as it was.
    cases reaction with
    | drive => exact ⟨_, rfl, by simp [going]⟩
    | complete => exact ⟨.stop, rfl, fun _ => rfl⟩
    | hold => exact ⟨_, rfl, by simp [going]⟩
    | abort => exact ⟨.stop, rfl, fun _ => rfl⟩

/-- A step changes nothing but the pose. -/
theorem Vehicle.step_frame {v v' : Vehicle α} {dt : α} (moved : v.step dt = .ok v') :
    ∃ pose, v' = { v with pose } := by
  simp only [step, bind, Except.bind, pure, Except.pure] at moved
  split at moved
  · cases moved
  · exact ⟨_, (Except.ok.inj moved).symm⟩

namespace Simulation

variable {route : Route α} {settings : Settings α} {s s' last : Simulation α} {dt : α}
  {left : Nat} {starts : List (Simulation α)} {events : List (Event α)}

/-! ## What a run goes through -/

/-- A run of at most `left` ticks that comes to an end, with the states that its ticks start from
and what happens to its control loop. -/
inductive Ran (dt : α) :
    Nat → Simulation α → List (Simulation α) → List (Event α) → Simulation α → Prop
  | spent (s : Simulation α) : Ran dt 0 s [] [] s
  | finished {s : Simulation α} {left : Nat} (ended : s.done = true) : Ran dt left s [] [] s
  | cycle {s s' last : Simulation α} {left : Nat} {starts : List (Simulation α)}
      {events : List (Event α)} (going : s.done = false) (cycled : s.cycle dt = .ok s')
      (rest : Ran dt left s' starts events last) :
      Ran dt (left + 1) s (s :: starts)
        (eventsOf s'.rig.vehicle.pose (s.planner.update s'.rig.vehicle.pose).2 ++ events) last

theorem run_eq_ok_iff :
    s.run dt left = .ok last ↔ ∃ starts events, Ran dt left s starts events last := by
  constructor
  · intro ran
    induction left generalizing s with
    | zero =>
      cases ran
      exact ⟨[], [], .spent _⟩
    | succ left ih =>
      cases state : s.done with
      | true =>
        rw [run_of_done state] at ran
        cases ran
        exact ⟨[], [], .finished state⟩
      | false =>
        cases cycled : s.cycle dt with
        | error fault => simp [run, state, cycled] at ran
        | ok s' =>
          rw [run_of_cycle state cycled] at ran
          obtain ⟨starts, events, rest⟩ := ih ran
          exact ⟨_, _, .cycle state cycled rest⟩
  · rintro ⟨starts, events, ran⟩
    induction ran with
    | spent => rfl
    | finished ended => exact run_of_done ended dt _
    | cycle going cycled rest ih => rw [run_of_cycle going cycled, ih]

namespace Ran

/-- The control loop of a run has only the events of the run behind it. -/
theorem loop (ran : Ran dt left s starts events last) :
    last.rig.loop = s.rig.loop.after events := by
  induction ran with
  | spent | finished => rfl
  | cycle going cycled rest ih =>
    obtain ⟨-, vehicle, -, rfl⟩ := cycle_eq_ok_iff.mp cycled
    rw [ControlLoop.after_append]
    exact ih

/-- The ticks reported are those made. -/
theorem ticks (ran : Ran dt left s starts events last) :
    last.ticks = s.ticks + starts.length ∧ starts.length ≤ left := by
  induction ran with
  | spent | finished => simp
  | cycle going cycled rest ih =>
    obtain ⟨-, vehicle, -, rfl⟩ := cycle_eq_ok_iff.mp cycled
    obtain ⟨counted, bounded⟩ := ih
    rw [counted, List.length_cons]
    simp only [next]
    omega

/-- A run that can begin makes a tick. -/
theorem begins (ran : Ran dt left s starts events last) (going : s.done = false)
    (room : 0 < left) : 0 < starts.length := by
  cases ran with
  | spent => cases room
  | finished ended => rw [going] at ended; cases ended
  | cycle => exact Nat.succ_pos _

/-- What holds at the start and is kept by every cycle holds whenever a tick starts, and in the
end. -/
theorem invariant {P : Simulation α → Prop}
    (cycles : ∀ s s', P s → s.done = false → s.cycle dt = .ok s' → P s')
    (ran : Ran dt left s starts events last) (initial : P s) :
    (∀ t ∈ starts, P t ∧ t.done = false ∧ ∃ t', t.cycle dt = .ok t') ∧ P last := by
  induction ran with
  | spent | finished => exact ⟨by simp, initial⟩
  | @cycle s s' _ _ _ _ going cycled rest ih =>
    obtain ⟨each, final⟩ := ih (cycles s s' initial going cycled)
    exact ⟨List.forall_mem_cons.mpr ⟨⟨initial, going, s', cycled⟩, each⟩, final⟩

end Ran

/-! ## What every cycle keeps -/

/-- The parts are in step, the planner has moved on for every local route published, and the
vehicle of a run that is over stands. -/
structure Paced (route : Route α) (settings : Settings α) (s : Simulation α) : Prop
    extends s.InStep route settings where
  published : ∀ closest, s.planner.closest = some closest →
    s.rig.loop.inputs.revision ≤ closest
  stands : s.done = true → s.rig.vehicle.speed = 0.0

omit [Scalar α] in
/-- The inputs are never without a route. -/
theorem InStep.occupied (inStep : s.InStep route settings) : s.rig.loop.inputs.route ≠ [] := by
  obtain ⟨closest, -, inside, rest⟩ := inStep.ahead
  rw [rest, Ne, List.drop_eq_nil_iff, Nat.not_le]
  exact inside

/-- Between cycles every tick that is not interrupted makes one call. -/
theorem InStep.call (inStep : s.InStep route settings) (going : s.done = false)
    {result : Option (Tick α)} (ticked : (s.rig.loop.apply .tick).2.result = .ok result) :
    s.rig.loop.follower.outcome s.rig.loop.inputs ≠ .waiting ∧
    ∃ call, (s.rig.loop.apply .tick).2.calls = [call] ∧
      ((s.rig.loop.apply .tick).1.follower.done = true → call = .stop) :=
  Follower.tick_call going (by rw [inStep.posed]; exact nofun) inStep.occupied ticked

/-- The number of the local routes published grows with the waypoint that the planner is at. -/
theorem Paced.published_next (paced : s.Paced route settings) (vehicle : Vehicle α)
    {closest : Nat} (settled : (s.next vehicle).planner.closest = some closest) :
    (s.next vehicle).rig.loop.inputs.revision ≤ closest := by
  obtain ⟨old, known, inside, -⟩ := paced.ahead
  have first : s.planner.first = old := by rw [Planner.first, known, Option.getD_some]
  have counted := paced.published old known
  have onward : old ≤ closest := first ▸ s.planner.first_le_closest vehicle.pose settled
  obtain ⟨new, -, found, published⟩ := s.planner.update_spec vehicle.pose
    (by rw [first, paced.planned]; exact inside)
  have same : new = closest := by simpa [next, found] using settled
  have events : (s.next vehicle).rig.loop.inputs.revision = s.rig.loop.inputs.revision +
      (eventsOf vehicle.pose (s.planner.update vehicle.pose).2).countP Event.replacesRoute :=
    ControlLoop.revision_after _ _
  rw [events, published, same]
  -- A route is published only with a new waypoint, and that one comes later.
  by_cases kept : s.planner.closest = some closest
  · simp [kept, eventsOf, Event.replacesRoute]
    omega
  · have moved : old ≠ closest := fun stayed => kept (stayed ▸ known)
    simp [kept, eventsOf, Event.replacesRoute]
    omega

theorem Paced.cycle (paced : s.Paced route settings) (going : s.done = false)
    (cycled : s.cycle dt = .ok s') : s'.Paced route settings := by
  obtain ⟨⟨result, ticked⟩, vehicle, moved, rfl⟩ := cycle_eq_ok_iff.mp cycled
  refine ⟨paced.toInStep.next vehicle, fun closest => paced.published_next vehicle, ?_⟩
  intro ended
  rw [done, next_follower] at ended
  obtain ⟨-, call, calls, stop⟩ := paced.toInStep.call going ticked
  obtain ⟨pose, rfl⟩ := Vehicle.step_frame moved
  -- The call that ends the run stops the vehicle, and the step after it changes only the pose.
  change s.commanded.speed = 0.0
  rw [commanded, calls, stop ended]
  rfl

/-- At the start no local route has been published, beside the first one. -/
theorem init_paced {pose : Pose α} (occupied : route ≠ [])
    (begun : init route settings pose = .ok s) : s.Paced route settings ∧ s.done = false := by
  obtain ⟨vehicle, built, settled⟩ := bind_eq_ok_iff.mp begun
  obtain ⟨s', same, inStep, idle⟩ := init_inStep occupied (lift_ok_iff.mp built)
  obtain rfl : s = s' := Except.ok.inj (begun.symm.trans same)
  have going : s.done = false := by
    rw [done, Bool.eq_false_iff, Ne, inStep.coherent.consistent.done_iff, idle]
    simp
  have unrevised : s.rig.loop.inputs.revision = 0 := by
    cases settled
    rfl
  refine ⟨⟨inStep, fun _ _ => unrevised ▸ Nat.zero_le _, ?_⟩, going⟩
  intro ended
  rw [going] at ended
  cases ended

theorem init_ticks {pose : Pose α} (begun : init route settings pose = .ok s) : s.ticks = 0 := by
  obtain ⟨vehicle, built, settled⟩ := bind_eq_ok_iff.mp begun
  cases settled
  rfl

theorem summary_of_ok {summary : Summary α} (summed : s.summary route = .ok summary) :
    summary.phase = s.rig.loop.follower.phase ∧ summary.ticks = s.ticks := by
  unfold Simulation.summary at summed
  split at summed
  · cases summed
  · cases summed
    exact ⟨rfl, rfl⟩

/-- A run that is concluded is over, and its vehicle stands. -/
theorem Paced.concluded (paced : s.Paced route settings) :
    (s.conclude.rig.loop.follower.phase = .completed ∨
      s.conclude.rig.loop.follower.phase = .aborted) ∧
    s.conclude.rig.vehicle.speed = 0.0 ∧ s.conclude.ticks = s.ticks := by
  unfold conclude
  cases state : s.done with
  | true =>
    rw [if_pos rfl]
    exact ⟨paced.coherent.consistent.done_iff.mp state, paced.stands state, rfl⟩
  | false =>
    -- The ticks have run out, and the emergency stop stops the vehicle.
    rw [if_neg Bool.false_ne_true]
    have aborted : s.rig.loop.follower.estop.1.phase = .aborted := by
      rw [Follower.estop_of_going _ state]
      rfl
    exact ⟨.inr aborted, rfl, rfl⟩

/-! ## A whole simulation -/

/-- What a simulation that comes to an end has gone through. -/
structure Trace (route : Route α) (settings : Settings α) (start : Option (Pose α))
    (summary : Summary α) where
  pose : Pose α
  dt : α
  first : Simulation α
  last : Simulation α
  /-- The states that its ticks start from. -/
  starts : List (Simulation α)
  /-- What happens to its control loop. -/
  events : List (Event α)
  placed : startOf route start = .ok pose
  begun : init route settings pose = .ok first
  rated : Scalar.div 1.0 settings.rate = .ok dt
  ran : Ran dt settings.maxTicks first starts events last
  summed : last.conclude.summary route = .ok summary

/-- Every simulation that comes to an end has such a trace. -/
theorem exists_trace {start : Option (Pose α)} {summary : Summary α} {notices : List Notice}
    (simulated : simulate route settings start = .ok (summary, notices)) :
    ∃ trace : Trace route settings start summary,
      trace.last.conclude.notices.reverse = notices := by
  rw [simulate_stages] at simulated
  obtain ⟨pose, placed, simulated⟩ := bind_eq_ok_iff.mp simulated
  obtain ⟨first, begun, simulated⟩ := bind_eq_ok_iff.mp simulated
  obtain ⟨dt, rated, simulated⟩ := bind_eq_ok_iff.mp simulated
  obtain ⟨last, ran, simulated⟩ := bind_eq_ok_iff.mp simulated
  obtain ⟨summary, summed, ⟨⟩⟩ := bind_eq_ok_iff.mp simulated
  obtain ⟨starts, events, ran⟩ := run_eq_ok_iff.mp ran
  exact ⟨⟨pose, dt, first, last, starts, events, placed, begun, lift_ok_iff.mp rated, ran, summed⟩,
    rfl⟩

/-- In every simulation that comes to an end, whenever a tick starts the inputs hold the pose of
the vehicle and the route from the closest waypoint on, so the tick does not wait and makes exactly
one call. The inputs are given fewer routes than there are waypoints. At least one tick is made and
at most as many as are allowed; in the end the run is completed or aborted and the vehicle
stands. -/
theorem simulate_in_step {start : Option (Pose α)} {summary : Summary α} {notices : List Notice}
    (occupied : route ≠ []) (allowed : 0 < settings.maxTicks)
    (simulated : simulate route settings start = .ok (summary, notices)) :
    ∃ trace : Trace route settings start summary,
      (∀ s ∈ trace.starts,
        (∃ closest, s.planner.closest = some closest ∧ closest < route.length ∧
          s.rig.loop.inputs.route = route.drop closest) ∧
        s.rig.loop.inputs.pose = some s.rig.vehicle.pose ∧
        s.done = false ∧ s.rig.loop.follower.outcome s.rig.loop.inputs ≠ .waiting ∧
        ∃ call, (s.rig.loop.apply .tick).2.calls = [call]) ∧
      trace.last.rig.loop = trace.first.rig.loop.after trace.events ∧
      trace.events.countP Event.replacesRoute ≤ route.length - 1 ∧
      summary.ticks = trace.starts.length ∧ 1 ≤ summary.ticks ∧
      summary.ticks ≤ settings.maxTicks ∧
      (summary.phase = .completed ∨ summary.phase = .aborted) ∧
      trace.last.conclude.rig.vehicle.speed = 0.0 := by
  obtain ⟨trace, -⟩ := exists_trace simulated
  obtain ⟨initial, going⟩ := init_paced occupied trace.begun
  obtain ⟨each, final⟩ := trace.ran.invariant (fun _ _ => Paced.cycle) initial
  obtain ⟨ended, stands, concluded⟩ := final.concluded
  obtain ⟨phase, ticks⟩ := summary_of_ok trace.summed
  obtain ⟨counted, bounded⟩ := trace.ran.ticks
  have made : summary.ticks = trace.starts.length := by
    rw [ticks, concluded, counted, init_ticks trace.begun, Nat.zero_add]
  refine ⟨trace, ?_, trace.ran.loop, ?_, made, ?_, ?_, phase ▸ ended, stands⟩
  · intro s member
    obtain ⟨paced, going, s', cycled⟩ := each s member
    obtain ⟨⟨result, ticked⟩, -⟩ := cycle_eq_ok_iff.mp cycled
    obtain ⟨unwaiting, call, calls, -⟩ := paced.toInStep.call going ticked
    exact ⟨paced.ahead, paced.posed, going, unwaiting, call, calls⟩
  · obtain ⟨closest, known, inside, -⟩ := final.ahead
    have published := final.published closest known
    rw [trace.ran.loop, ControlLoop.revision_after] at published
    omega
  · rw [made]
    exact trace.ran.begins going allowed
  · rw [made]
    exact bounded

/-- On a short leg the whole route stays the local one, and two ticks are enough. -/
theorem simulate_in_step_on_leg :
    let route := Exact.leg (21 / 20)
    let settings := Exact.cruise 0
    route ≠ [] ∧ 0 < settings.maxTicks ∧
    ∃ summary notices, simulate route settings none = .ok (summary, notices) ∧
    ∃ trace : Trace route settings none summary,
      (∀ s ∈ trace.starts,
        (∃ closest, s.planner.closest = some closest ∧ closest < route.length ∧
          s.rig.loop.inputs.route = route.drop closest) ∧
        s.rig.loop.inputs.pose = some s.rig.vehicle.pose ∧
        s.done = false ∧ s.rig.loop.follower.outcome s.rig.loop.inputs ≠ .waiting ∧
        ∃ call, (s.rig.loop.apply .tick).2.calls = [call]) ∧
      trace.last.rig.loop = trace.first.rig.loop.after trace.events ∧
      trace.events.countP Event.replacesRoute ≤ 1 ∧
      summary.ticks = trace.starts.length ∧ 1 ≤ summary.ticks ∧
      summary.ticks ≤ settings.maxTicks ∧
      (summary.phase = .completed ∨ summary.phase = .aborted) ∧
      trace.last.conclude.rig.vehicle.speed = 0.0 := by
  intro route settings
  have occupied : route ≠ [] := List.cons_ne_nil _ _
  have allowed : 0 < settings.maxTicks := by norm_num [settings, Exact.cruise]
  obtain ⟨summary, notices, simulated, -⟩ :
      ∃ summary notices, simulate route settings none = .ok (summary, notices) ∧
        summary.phase = .completed :=
    Exact.simulate_leg (q := 1 / 20) (Exact.cruise_valid 0) (by norm_num [settings, Exact.cruise])
      (by norm_num [settings, Exact.cruise]) (by norm_num [settings, Exact.cruise])
      (by norm_num) (by norm_num [settings, Exact.cruise])
  exact ⟨occupied, allowed, summary, notices, simulated,
    simulate_in_step occupied allowed simulated⟩

end Simulation
end PathTracking
