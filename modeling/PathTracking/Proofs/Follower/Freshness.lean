import PathTracking.Proofs.Follower.Observation

/-!
# Fresh inputs

Nothing stale enters a tick. What it computes is the tracking computation on the route and pose
that the inputs hold at that moment, and the aim that the check for the goal reads was computed
on the route that still stands: a new revision drops the aim, so an aim that is left comes from a
tick since (`aim_source`, by induction from the last event).
-/
namespace PathTracking.ControlLoop

variable {α : Type} [Scalar α]

/-- A tick that is not skipped and does not arrive returns the computation on the inputs. -/
theorem Coherent.result {l : ControlLoop α} (coherent : l.Coherent) {pose : Pose α}
    (going : l.follower.done = false) (posed : l.inputs.pose = some pose)
    (occupied : l.inputs.route ≠ [])
    (unreached : (l.follower.sync l.inputs).reachedGoal pose l.inputs.route = false) :
    (l.apply .tick).2.result =
      (l.inputs.route.track pose l.follower.settings.toLookahead).map some := by
  rw [apply_tick, ← coherent.track pose]
  cases tracked : (l.follower.sync l.inputs).tracker.route.track pose
      (l.follower.sync l.inputs).tracker.config with
  | error fault =>
    rw [Follower.tick_interrupted
      (Follower.outcome_eq_interrupted going posed occupied unreached tracked)]
    rfl
  | ok tick =>
    obtain ⟨after, calls, notices, -, ticked⟩ := Follower.tick_computed
      (Follower.outcome_eq_computed going posed occupied unreached tracked)
    rw [ticked]
    rfl

/-! ## Where an aim comes from -/

/-- An event that leaves an aim and is no computation leaves the aim, and the route with its
revision. -/
theorem aim_kept {l : ControlLoop α} (coherent : l.Coherent) (event : Event α)
    (aimed : (l.apply event).1.aim ≠ .unset)
    (uncomputed : ∀ tick, l.outcome? event ≠ some (.computed tick)) :
    (l.apply event).1.aim = l.aim ∧ (l.apply event).1.inputs.route = l.inputs.route ∧
      (l.apply event).1.inputs.revision = l.inputs.revision := by
  have kept : (l.apply event).1.aim = l.aim := by
    rw [aim_apply coherent] at aimed ⊢
    exact (aimAfter_of_uncomputed l.aim event uncomputed).resolve_right aimed
  refine ⟨kept, ?_⟩
  cases event with
  | replaceRoute route | load route =>
    rw [aim_apply coherent] at aimed
    exact absurd rfl aimed
  | updatePose | tick | estop | resume => exact ⟨rfl, rfl⟩

/-- A run has computed the aim it is left with, on the route and revision that it is left with,
and nothing after that. -/
theorem aim_source (settings : Settings α) (inputs : Inputs α) (events : List (Event α)) :
    let start := ControlLoop.new settings inputs
    let l := start.after events
    l.aim ≠ .unset → ∃ before between tick, events = before ++ .tick :: between ∧
      (start.after before).follower.outcome (start.after before).inputs = .computed tick ∧
      l.aim = tick.aim ∧ l.inputs.route = (start.after before).inputs.route ∧
      l.inputs.revision = (start.after before).inputs.revision ∧
      ∀ later, .computed later ∉ ((start.after before).apply .tick).1.outcomes between := by
  intro start
  induction events using List.reverseRecOn with
  | nil => exact fun aimed => absurd (new_aim settings inputs) aimed
  | append_singleton events event ih =>
    intro l aimed
    have coherent : (start.after events).Coherent := after_coherent settings inputs events
    have snoc : l = ((start.after events).apply event).1 := start.after_snoc events event
    rw [snoc] at aimed ⊢
    by_cases computed : ∃ tick, (start.after events).outcome? event = some (.computed tick)
    · -- This event has computed the aim.
      obtain ⟨tick, computed⟩ := computed
      cases event with
      | tick =>
        refine ⟨events, [], tick, rfl, Option.some.inj computed, ?_, rfl, rfl, fun _ => nofun⟩
        rw [aim_apply coherent, computed]
        rfl
      | _ => cases computed
    · have uncomputed : ∀ tick, (start.after events).outcome? event ≠ some (.computed tick) :=
        not_exists.mp computed
      obtain ⟨aim, route, revision⟩ := aim_kept coherent event aimed uncomputed
      rw [aim] at aimed
      obtain ⟨before, between, tick, split, source, earlier, sameRoute, sameRevision, none_later⟩ :=
        ih aimed
      refine ⟨before, between ++ [event], tick, by rw [split]; simp, source, aim.trans earlier,
        route.trans sameRoute, revision.trans sameRevision, fun later member => ?_⟩
      rw [outcomes_snoc, List.mem_append] at member
      rcases member with member | member
      · exact none_later later member
      · rw [← after_cons, ← after_append, ← split, Option.mem_toList] at member
        exact uncomputed later member

/-- In every run, a tick that is not skipped and does not find the goal reached returns the
tracking computation on the route and pose of the inputs under the settings' lookahead. When it
does find the goal reached, the index it compared was computed by an earlier tick on the same
revision of the route, the latest tick that computed at all. -/
theorem tick_on_inputs (settings : Settings α) (inputs : Inputs α) (events : List (Event α)) :
    let start := ControlLoop.new settings inputs
    let l := start.after events
    let synced := l.follower.sync l.inputs
    (∀ pose, l.follower.done = false → l.inputs.pose = some pose → l.inputs.route ≠ [] →
      synced.reachedGoal pose l.inputs.route = false →
      (l.apply .tick).2.result = (l.inputs.route.track pose settings.toLookahead).map some) ∧
    (∀ pose, synced.reachedGoal pose l.inputs.route = true →
      synced.tracker.aim.index = (l.inputs.route.length : Int) - 1 ∧
      ∃ before between place tick, events = before ++ .tick :: between ∧
        let k := start.after before
        k.inputs.revision = l.inputs.revision ∧ k.inputs.route = l.inputs.route ∧
        k.inputs.pose = some place ∧ k.inputs.route.track place settings.toLookahead = .ok tick ∧
        (k.apply .tick).2.result = .ok (some tick) ∧
        synced.tracker.aim.index = tick.aim.index ∧
        ∀ later, .computed later ∉ (k.apply .tick).1.outcomes between) := by
  intro start l synced
  have coherent : l.Coherent := after_coherent settings inputs events
  have same (events : List (Event α)) : (start.after events).follower.settings = settings :=
    after_settings _ events
  constructor
  · intro pose going posed occupied unreached
    rw [coherent.result going posed occupied unreached, same events]
  · intro pose reached
    have aimed : l.aim ≠ .unset := by
      intro unset
      rw [Follower.unreached_of_unset pose l.inputs.route unset] at reached
      cases reached
    obtain ⟨before, between, tick, split, computed, aim, route, revision, none_later⟩ :=
      aim_source settings inputs events aimed
    obtain ⟨place, posed, tracked⟩ :=
      (after_coherent settings inputs before).track_of_computed computed
    obtain ⟨after, calls, notices, -, ticked⟩ := Follower.tick_computed computed
    obtain ⟨-, -, index, -⟩ := Follower.reachedGoal_iff.mp reached
    rw [same before] at tracked
    refine ⟨index, before, between, place, tick, split, revision.symm, route.symm, posed, tracked,
      ?_, congrArg Aim.index aim, none_later⟩
    rw [apply_tick, ticked]

end PathTracking.ControlLoop
