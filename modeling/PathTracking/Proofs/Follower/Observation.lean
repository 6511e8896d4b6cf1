import PathTracking.Proofs.Follower.Coherence

/-!
# What shows of a run

Two control loops that agree in all but their memory, that is the aim and the last result,
show the same as long as their ticks go alike. The memory is read by nothing but the check for
the goal. So runs with the same memory show the same (`observe_congr`), and a loop that has
lost its aim shows the same as one that has not, exactly unless the other finds its goal
reached before it next computes (`observe_eq_iff`).
-/
namespace PathTracking

variable {α : Type}

/-- What shows after an event: phase and mark of the follower, the calls that the sink received
and the result of the tick. -/
structure Observation (α : Type) where
  phase : Phase
  done : Bool
  calls : List (Call α)
  result : Except TrackingFault (Option (Tick α))

/-- What shows after one event. -/
def ControlLoop.observation [Scalar α] (l : ControlLoop α) (event : Event α) : Observation α :=
  let (after, report) := l.apply event
  ⟨after.follower.phase, after.follower.done, report.calls, report.result⟩

/-! ## Agreement of followers -/

namespace Follower

/-- Agreement in all that is not copied from the inputs or remembered from a computation. -/
structure Agrees (f g : Follower α) : Prop where
  settings : f.settings = g.settings
  phase : f.phase = g.phase
  done : f.done = g.done
  command : f.command = g.command
  held : f.held = g.held

namespace Agrees

variable {f g : Follower α}

theorem finish (agrees : f.Agrees g) (phase : Phase) : (f.finish phase).Agrees (g.finish phase) :=
  ⟨agrees.settings, rfl, rfl, agrees.command, agrees.held⟩

theorem rearm (agrees : f.Agrees g) : f.rearm.Agrees g.rearm :=
  ⟨agrees.settings, rfl, rfl, rfl, rfl⟩

theorem estop (agrees : f.Agrees g) : f.estop.1.Agrees g.estop.1 := by
  have done := agrees.done
  cases state : f.done with
  | true =>
    rw [estop_of_done f state, estop_of_done g (done ▸ state)]
    exact agrees
  | false =>
    rw [estop_of_going f state, estop_of_going g (done ▸ state)]
    exact agrees.finish .aborted

theorem resume (agrees : f.Agrees g) : f.resume.Agrees g.resume := by
  have phase := agrees.phase
  by_cases aborted : f.phase = .aborted
  · rw [resume_of_aborted f aborted, resume_of_aborted g (phase ▸ aborted)]
    exact agrees.rearm
  · rw [resume_of_other f aborted, resume_of_other g (phase ▸ aborted)]
    exact agrees

theorem sync (agrees : f.Agrees g) (inputs others : Inputs α) :
    (f.sync inputs).Agrees (g.sync others) := by
  constructor <;> simp only [sync_settings, sync_phase, sync_done, sync_command, sync_held]
  · exact agrees.settings
  · exact agrees.phase
  · exact agrees.done
  · exact agrees.command
  · exact agrees.held

theorem aimed (agrees : f.Agrees g) (inputs others : Inputs α) (aim other : Aim α) :
    (f.aimed inputs aim).Agrees (g.aimed others other) := by
  have synced := agrees.sync inputs others
  exact ⟨synced.settings, synced.phase, synced.done, synced.command, synced.held⟩

/-- A reaction depends on the common part of the followers alone. -/
theorem react [Scalar α] (agrees : f.Agrees g) (tick : Tick α) :
    (f.react tick).1.Agrees (g.react tick).1 ∧ (f.react tick).2 = (g.react tick).2 := by
  obtain ⟨settings, phase, done, command, held⟩ := agrees
  have limit : f.settings.maxHold = g.settings.maxHold := congrArg Settings.maxHold settings
  have speed : f.settings.speed = g.settings.speed := congrArg Settings.speed settings
  unfold Follower.react
  cases tick.status with
  | ok => exact ⟨⟨settings, rfl, done, by simp only [speed], rfl⟩, by simp only [speed]⟩
  | noValidCurve => exact ⟨⟨settings, rfl, rfl, command, held⟩, rfl⟩
  | pathLost | targetLost =>
    simp only [held, limit, command]
    split
    · exact ⟨⟨settings, rfl, done, rfl, rfl⟩, rfl⟩
    · exact ⟨⟨settings, rfl, rfl, rfl, rfl⟩, rfl⟩

end Agrees

end Follower

namespace ControlLoop

/-! ## The memory of a loop -/

section Memory

variable [Scalar α]

/-- The aim after an event with a given outcome, by the aim before it. -/
def aimAfter (aim : Aim α) : Event α → Option (Outcome α) → Aim α
  | .replaceRoute _, _ | .load _, _ => .unset
  | _, some (.computed tick) => tick.aim
  | _, _ => aim

omit [Scalar α] in
theorem aimAfter_of_uncomputed (aim : Aim α) (event : Event α) {outcome : Option (Outcome α)}
    (uncomputed : ∀ tick, outcome ≠ some (.computed tick)) :
    aimAfter aim event outcome = aim ∨ aimAfter aim event outcome = .unset := by
  unfold aimAfter
  split
  · exact .inr rfl
  · exact .inr rfl
  next tick _ _ => exact absurd rfl (uncomputed tick)
  · exact .inl rfl

theorem aim_apply {l : ControlLoop α} (coherent : l.Coherent) (event : Event α) :
    (l.apply event).1.aim = aimAfter l.aim event (l.outcome? event) := by
  cases event with
  | updatePose => rfl
  | replaceRoute route =>
    exact congrArg Tracker.aim (Follower.sync_replaceRoute coherent.behind route)
  | load route =>
    exact congrArg Tracker.aim
      (Follower.sync_replaceRoute (f := l.follower.rearm) coherent.behind route)
  | estop =>
    obtain ⟨tracker, revision, -, -⟩ := l.follower.estop_frame
    exact congrArg Tracker.aim (Follower.sync_tracker_congr tracker revision)
  | resume =>
    obtain ⟨tracker, revision, -, -⟩ := l.follower.resume_frame
    exact congrArg Tracker.aim (Follower.sync_tracker_congr tracker revision)
  | tick =>
    rw [apply_tick]
    unfold aim
    dsimp only [outcome?]
    cases went : l.follower.outcome l.inputs with
    | finished => rw [Follower.tick_finished went]; rfl
    | waiting => rw [Follower.tick_waiting went, Follower.sync_sync]; rfl
    | arrived =>
      have current : ((l.follower.sync l.inputs).finish .completed).revision =
          some l.inputs.revision := Follower.sync_revision ..
      rw [Follower.tick_arrived went]
      dsimp only
      rw [Follower.sync_of_current _ _ current]
      rfl
    | interrupted fault => rw [Follower.tick_interrupted went, Follower.sync_aimed]; rfl
    | computed tick =>
      obtain ⟨after, calls, notices, reaction, ticked⟩ := Follower.tick_computed went
      obtain ⟨tracker, revision, -, -⟩ := reaction.frame
      rw [ticked]
      dsimp only
      rw [Follower.sync_tracker_congr tracker revision, Follower.sync_aimed]
      rfl

/-- The last result after an event with a given outcome, by the one before it. -/
def lastAfter (last : Option (Tick α)) : Option (Outcome α) → Option (Tick α)
  | some (.computed tick) => some tick
  | _ => last

theorem last_apply (l : ControlLoop α) (event : Event α) :
    (l.apply event).1.follower.last = lastAfter l.follower.last (l.outcome? event) := by
  cases event with
  | updatePose | replaceRoute | load => rfl
  | estop => exact l.follower.estop_frame.2.2.2
  | resume => exact l.follower.resume_frame.2.2.2
  | tick =>
    rw [apply_tick]
    dsimp only [outcome?]
    cases went : l.follower.outcome l.inputs with
    | finished => rw [Follower.tick_finished went]; rfl
    | waiting => rw [Follower.tick_waiting went]; exact Follower.sync_last ..
    | arrived => rw [Follower.tick_arrived went]; exact Follower.sync_last ..
    | interrupted fault => rw [Follower.tick_interrupted went]; exact Follower.aimed_last ..
    | computed tick =>
      obtain ⟨after, calls, notices, reaction, ticked⟩ := Follower.tick_computed went
      rw [ticked]
      exact reaction.frame.2.2.2

end Memory

/-! ## Loops that differ in their memory -/

/-- Agreement of two coherent loops in all but revisions, aims and results. -/
structure Alike (l k : ControlLoop α) : Prop where
  left : l.Coherent
  right : k.Coherent
  agrees : l.follower.Agrees k.follower
  route : l.inputs.route = k.inputs.route
  pose : l.inputs.pose = k.inputs.pose

namespace Alike

variable {l k : ControlLoop α}

/-- What the trackers compute with is the same. -/
theorem computes (alike : l.Alike k) :
    (l.follower.sync l.inputs).tracker.route = (k.follower.sync k.inputs).tracker.route ∧
    (l.follower.sync l.inputs).tracker.config = (k.follower.sync k.inputs).tracker.config := by
  constructor
  · rw [alike.left.route, alike.right.route, alike.route]
  · rw [Follower.sync_config, Follower.sync_config, alike.left.config, alike.right.config,
      alike.agrees.settings]

variable [Scalar α]

/-- Ticks that find the goal reached alike go the same way. -/
theorem outcome_congr (alike : l.Alike k)
    (reached : ∀ pose, l.follower.done = false → l.inputs.pose = some pose →
      (l.follower.sync l.inputs).reachedGoal pose l.inputs.route =
        (k.follower.sync k.inputs).reachedGoal pose k.inputs.route) :
    l.follower.outcome l.inputs = k.follower.outcome k.inputs := by
  obtain ⟨route, config⟩ := alike.computes
  unfold Follower.outcome
  rw [← alike.agrees.done, ← alike.pose, ← alike.route]
  cases state : l.follower.done with
  | true => rfl
  | false =>
    cases posed : l.inputs.pose with
    | none => rfl
    | some pose =>
      -- What is left to compare is the check for the goal and the computation.
      have reached := reached pose state posed
      rw [← alike.route] at reached
      simp only [reached, route, config]

/-- With the same aim a tick goes the same way. -/
theorem outcome_of_aim (alike : l.Alike k) (aim : l.aim = k.aim) :
    l.follower.outcome l.inputs = k.follower.outcome k.inputs := by
  have aims : (l.follower.sync l.inputs).tracker.aim = (k.follower.sync k.inputs).tracker.aim := aim
  refine alike.outcome_congr fun pose _ _ => ?_
  unfold Follower.reachedGoal
  rw [aims, alike.route, Follower.sync_settings, Follower.sync_settings, alike.agrees.settings]

/-- Without an aim a tick goes the same way, unless the other arrives. -/
theorem outcome_of_unset (alike : l.Alike k) (unset : k.aim = .unset)
    (pending : l.follower.outcome l.inputs ≠ .arrived) :
    l.follower.outcome l.inputs = k.follower.outcome k.inputs := by
  refine alike.outcome_congr fun pose going posed => ?_
  rw [Follower.unreached_of_unset pose k.inputs.route unset, Bool.eq_false_iff]
  intro reached
  have occupied : l.inputs.route ≠ [] := by
    intro empty
    rw [empty] at reached
    cases reached
  exact pending (Follower.outcome_eq_arrived going posed occupied reached)

theorem outcome?_of_aim (alike : l.Alike k) (aim : l.aim = k.aim) (event : Event α) :
    l.outcome? event = k.outcome? event := by
  cases event with
  | tick => exact congrArg some (alike.outcome_of_aim aim)
  | _ => rfl

theorem outcome?_of_unset (alike : l.Alike k) (unset : k.aim = .unset) (event : Event α)
    (pending : l.outcome? event ≠ some .arrived) : l.outcome? event = k.outcome? event := by
  cases event with
  | tick =>
    have pending : l.follower.outcome l.inputs ≠ .arrived :=
      fun arrived => pending (congrArg some arrived)
    exact congrArg some (alike.outcome_of_unset unset pending)
  | _ => rfl

/-- An event that goes the same way leaves the loops alike and reports the same. The last
results count only if they are reported again. -/
theorem report (alike : l.Alike k) (event : Event α)
    (outcome : l.outcome? event = k.outcome? event)
    (last : l.outcome? event = some .arrived → l.follower.last = k.follower.last) :
    (l.apply event).1.Alike (k.apply event).1 ∧
    (l.apply event).2.calls = (k.apply event).2.calls ∧
    (l.apply event).2.result = (k.apply event).2.result := by
  have left := l.apply_coherent event alike.left
  have right := k.apply_coherent event alike.right
  cases event with
  | updatePose pose => exact ⟨⟨left, right, alike.agrees, alike.route, rfl⟩, rfl, rfl⟩
  | replaceRoute route => exact ⟨⟨left, right, alike.agrees, rfl, alike.pose⟩, rfl, rfl⟩
  | load route => exact ⟨⟨left, right, alike.agrees.rearm, rfl, alike.pose⟩, rfl, rfl⟩
  | estop => exact ⟨⟨left, right, alike.agrees.estop, alike.route, alike.pose⟩, rfl, rfl⟩
  | resume => exact ⟨⟨left, right, alike.agrees.resume, alike.route, alike.pose⟩, rfl, rfl⟩
  | tick =>
    have same : l.follower.outcome l.inputs = k.follower.outcome k.inputs :=
      Option.some.inj outcome
    suffices goal : (l.follower.tick l.inputs).1.Agrees (k.follower.tick k.inputs).1 ∧
        (l.follower.tick l.inputs).2.calls = (k.follower.tick k.inputs).2.calls ∧
        (l.follower.tick l.inputs).2.result = (k.follower.tick k.inputs).2.result from
      ⟨⟨left, right, goal.1, alike.route, alike.pose⟩, goal.2⟩
    have synced := alike.agrees.sync l.inputs k.inputs
    rw [Follower.tick_eq l.follower, Follower.tick_eq k.follower, ← same]
    cases went : l.follower.outcome l.inputs with
    | finished => exact ⟨alike.agrees, rfl, rfl⟩
    | waiting => exact ⟨synced, rfl, rfl⟩
    | arrived =>
      have last := last (congrArg some went)
      exact ⟨synced.finish .completed, rfl, congrArg Except.ok last⟩
    | interrupted fault => exact ⟨alike.agrees.aimed _ _ _ _, rfl, rfl⟩
    | computed tick =>
      have aimed := alike.agrees.aimed l.inputs k.inputs tick.aim tick.aim
      obtain ⟨agrees, reported⟩ := aimed.react tick
      exact ⟨agrees, congrArg Prod.fst reported, rfl⟩

theorem observation (alike : l.Alike k) (event : Event α)
    (outcome : l.outcome? event = k.outcome? event)
    (last : l.outcome? event = some .arrived → l.follower.last = k.follower.last) :
    (l.apply event).1.Alike (k.apply event).1 ∧ l.observation event = k.observation event := by
  obtain ⟨next, calls, result⟩ := alike.report event outcome last
  refine ⟨next, ?_⟩
  unfold ControlLoop.observation
  dsimp only
  rw [next.agrees.phase, next.agrees.done, calls, result]

end Alike

/-! ## Arrivals -/

section Arrival

variable [Scalar α] {l k : ControlLoop α}

/-- What arrives has an aim. -/
theorem aim_of_arrived (arrived : l.follower.outcome l.inputs = .arrived) : l.aim ≠ .unset := by
  have course := l.follower.outcome_course l.inputs
  rw [arrived] at course
  cases course with
  | arrived _ _ _ reached =>
    intro unset
    rw [Follower.unreached_of_unset _ _ unset] at reached
    cases reached

theorem aim_of_outcome? {event : Event α} (arrived : l.outcome? event = some .arrived) :
    l.aim ≠ .unset := by
  cases event with
  | tick => exact aim_of_arrived (Option.some.inj arrived)
  | _ => cases arrived

/-- A tick that arrives shows: a computation may complete the run too, but the result of an
arrival is an older one, after which the run went on. -/
theorem observation_ne_of_arrived (coherent : l.Coherent)
    (arrived : l.follower.outcome l.inputs = .arrived)
    (other : k.follower.outcome k.inputs ≠ .arrived) :
    l.observation .tick ≠ k.observation .tick := by
  have going : l.follower.done = false := Follower.going_of_outcome (by rw [arrived]; exact nofun)
  have unfinished : l.follower.phase ≠ .completed := by
    intro completed
    rw [coherent.consistent.done_iff.mpr (.inl completed)] at going
    cases going
  obtain ⟨older, last, -, lasting⟩ :=
    coherent.memory unfinished (aim_of_arrived arrived)
  have shown : l.observation .tick = ⟨.completed, true, [.stop], .ok (some older)⟩ := by
    rw [observation, apply_tick, Follower.tick_arrived arrived, ← last]
    rfl
  rw [shown, observation, apply_tick]
  cases went : k.follower.outcome k.inputs with
  | finished => rw [Follower.tick_finished went]; simp [Report.silent]
  | waiting => rw [Follower.tick_waiting went]; simp [Report.silent]
  | arrived => exact absurd went other
  | interrupted fault => rw [Follower.tick_interrupted went]; simp
  | computed tick =>
    obtain ⟨after, calls, notices, reaction, ticked⟩ := Follower.tick_computed went
    rw [ticked]
    cases reaction with
    | drive => simp
    | complete ended =>
      -- The phase is the same, but this result ended the run and the older one did not.
      intro same
      simp only [Observation.mk.injEq, Except.ok.injEq, Option.some.injEq] at same
      exact lasting (same.2.2.2 ▸ ended)
    | hold => simp
    | abort => simp

end Arrival

/-! ## Observed runs -/

section Observe

variable [Scalar α]

/-- What shows of a run, event by event. -/
def observe (l : ControlLoop α) : List (Event α) → List (Observation α)
  | [] => []
  | event :: rest => l.observation event :: (l.apply event).1.observe rest

/-- Among the ticks of the events, one finds the goal reached before any computes. -/
def ArrivesFirst (l : ControlLoop α) : List (Event α) → Prop
  | [] => False
  | event :: rest =>
    match l.outcome? event with
    | some .arrived => True
    | some (.computed _) => False
    | _ => (l.apply event).1.ArrivesFirst rest

theorem length_observe (l : ControlLoop α) (events : List (Event α)) :
    (l.observe events).length = events.length := by
  induction events generalizing l with
  | nil => rfl
  | cons event rest ih => rw [observe, List.length_cons, List.length_cons, ih]

theorem observe_append (l : ControlLoop α) (first second : List (Event α)) :
    l.observe (first ++ second) = l.observe first ++ (l.after first).observe second := by
  induction first generalizing l with
  | nil => rfl
  | cons event rest ih => rw [List.cons_append, observe, ih, observe, after_cons, List.cons_append]

/-- What shows of a run beside one of its events. -/
theorem eraseIdx_observe (l : ControlLoop α) (before : List (Event α)) (event : Event α)
    (later : List (Event α)) :
    (l.observe (before ++ event :: later)).eraseIdx before.length =
      l.observe before ++ ((l.after before).apply event).1.observe later := by
  rw [observe_append, observe, ← length_observe l before,
    List.eraseIdx_append_of_length_le (Nat.le_refl _), Nat.sub_self, List.eraseIdx_cons_zero]

variable {l k : ControlLoop α}

/-- Loops that are alike and remember the same show the same. The last result is
remembered only along with an aim. -/
theorem observe_congr (alike : l.Alike k) (aim : l.aim = k.aim)
    (last : l.aim ≠ .unset → l.follower.last = k.follower.last) (events : List (Event α)) :
    l.observe events = k.observe events := by
  induction events generalizing l k with
  | nil => rfl
  | cons event rest ih =>
    have outcome := alike.outcome?_of_aim aim event
    obtain ⟨next, shown⟩ :=
      alike.observation event outcome fun arrived => last (aim_of_outcome? arrived)
    have aims : (l.apply event).1.aim = (k.apply event).1.aim := by
      rw [aim_apply alike.left, aim_apply alike.right, aim, outcome]
    refine congrArg₂ List.cons shown (ih next aims ?_)
    rw [aim_apply alike.left, last_apply, last_apply, outcome]
    intro aimed
    -- A computation replaces both results; without one the aim, and with it the result, is older.
    by_cases computed : ∃ tick, k.outcome? event = some (.computed tick)
    · obtain ⟨tick, computed⟩ := computed
      rw [computed]
      rfl
    · have uncomputed : ∀ tick, k.outcome? event ≠ some (.computed tick) := not_exists.mp computed
      rcases aimAfter_of_uncomputed l.aim event uncomputed with kept | dropped
      · rw [last (kept ▸ aimed)]
      · exact absurd dropped aimed

/-- A loop that has lost its aim shows the same as one that has not, unless the latter
arrives by that aim. -/
theorem observe_eq_iff (alike : l.Alike k) (unset : k.aim = .unset) (events : List (Event α)) :
    l.observe events = k.observe events ↔ ¬ l.ArrivesFirst events := by
  -- Up to the first tick that arrives or computes both loops do the same; that tick decides.
  induction events generalizing l k with
  | nil => exact iff_of_true rfl id
  | cons event rest ih =>
    by_cases arrived : l.outcome? event = some .arrived
    · have arrives : l.ArrivesFirst (event :: rest) := by
        rw [ArrivesFirst, arrived]
        trivial
      refine iff_of_false (fun same => ?_) (not_not_intro arrives)
      cases event with
      | tick =>
        refine observation_ne_of_arrived alike.left (Option.some.inj arrived) ?_
          (List.cons.inj same).1
        -- The other loop cannot arrive here, having no aim.
        intro other
        exact aim_of_arrived other unset
      | _ => cases arrived
    · have outcome := alike.outcome?_of_unset unset event arrived
      obtain ⟨next, shown⟩ :=
        alike.observation event outcome fun arrives => absurd arrives arrived
      rw [observe, observe, shown, List.cons.injEq, and_iff_right rfl]
      by_cases computed : ∃ tick, l.outcome? event = some (.computed tick)
      · -- From here on both have the aim and the result of this tick.
        obtain ⟨tick, computed⟩ := computed
        have settled : ¬ l.ArrivesFirst (event :: rest) := by
          rw [ArrivesFirst, computed]
          exact id
        refine iff_of_true (observe_congr next ?_ ?_ rest) settled
        · rw [aim_apply alike.left, aim_apply alike.right, ← outcome, computed]
          cases event with
          | tick => rfl
          | _ => cases computed
        · intro _
          rw [last_apply, last_apply, ← outcome, computed]
          rfl
      · have uncomputed : ∀ tick, l.outcome? event ≠ some (.computed tick) :=
          not_exists.mp computed
        have later : l.ArrivesFirst (event :: rest) ↔ (l.apply event).1.ArrivesFirst rest := by
          rw [ArrivesFirst]
          split
          next arrives => exact absurd arrives arrived
          next tick computes => exact absurd computes (uncomputed tick)
          · rfl
        rw [later]
        refine ih next ?_
        rw [aim_apply alike.right, ← outcome]
        rcases aimAfter_of_uncomputed k.aim event uncomputed with kept | dropped
        · exact kept.trans unset
        · exact dropped

end Observe
end ControlLoop
end PathTracking
