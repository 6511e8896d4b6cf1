import PathTracking.Proofs.Follower.Driving

/-!
# The follower and its inputs

The tracker holds a copy of the route, taken over when the revision of the inputs tells that
it is outdated. `Coherent` is the invariant behind this: at every tick the copy is the route
of the inputs, and an aim that is left from an earlier tick belongs to the last result.
-/
namespace PathTracking

variable {α : Type}

namespace Follower

section Sync

variable {f g : Follower α} {inputs : Inputs α}

/-- The tracker that a tick starts from depends on no other part of the follower. -/
theorem sync_tracker_congr (tracker : g.tracker = f.tracker) (revision : g.revision = f.revision) :
    (g.sync inputs).tracker = (f.sync inputs).tracker := by
  by_cases current : f.revision = some inputs.revision
  · rw [sync_of_current f inputs current, sync_of_current g inputs (revision.trans current),
      tracker]
  · rw [sync_of_outdated f inputs current,
      sync_of_outdated g inputs (fun same => current (revision.symm.trans same)), tracker]

theorem sync_sync (f : Follower α) (inputs : Inputs α) :
    (f.sync inputs).sync inputs = f.sync inputs :=
  sync_of_current _ _ (sync_revision f inputs)

theorem sync_aimed (f : Follower α) (inputs : Inputs α) (aim : Aim α) :
    (f.aimed inputs aim).sync inputs = f.aimed inputs aim :=
  sync_of_current _ _ (aimed_revision f inputs aim)

/-- A route that the follower cannot know yet is taken over, and the aim is dropped. -/
theorem sync_replaceRoute (behind : ∀ revision, f.revision = some revision →
      revision ≤ inputs.revision) (route : Route α) :
    (f.sync (inputs.replaceRoute route)).tracker = f.tracker.setRoute route := by
  rw [sync_of_outdated]
  · rfl
  · -- The revision has just been counted up, past any that the follower knows.
    intro same
    have := behind _ same
    simp only [Inputs.replaceRoute] at this
    omega

end Sync

/-- A reaction to a computation leaves tracker, revision and settings alone and keeps the
result. -/
theorem Reaction.frame [Scalar α] {f g : Follower α} {tick : Tick α} {calls : List (Call α)}
    {notices : List Notice} (reaction : Reaction f tick (g, calls, notices)) :
    g.tracker = f.tracker ∧ g.revision = f.revision ∧ g.settings = f.settings ∧
      g.last = some tick := by
  cases reaction <;> exact ⟨rfl, rfl, rfl, rfl⟩

end Follower

namespace ControlLoop

/-- The aim that the next tick starts from. -/
def aim (l : ControlLoop α) : Aim α := (l.follower.sync l.inputs).tracker.aim

/-- What holds in every state of every run. -/
structure Coherent (l : ControlLoop α) : Prop where
  consistent : l.follower.Consistent
  config : l.follower.tracker.config = l.follower.settings.toLookahead
  behind : ∀ revision, l.follower.revision = some revision → revision ≤ l.inputs.revision
  route : (l.follower.sync l.inputs).tracker.route = l.inputs.route
  memory : l.follower.phase ≠ .completed → l.aim ≠ .unset →
    ∃ tick, l.follower.last = some tick ∧ tick.aim = l.aim ∧ tick.status ≠ .noValidCurve

namespace Coherent

variable {l : ControlLoop α}

/-- An event that leaves inputs, tracker and result alone keeps a loop coherent, unless it
takes a completed run up again. -/
theorem follower (coherent : l.Coherent) (f : Follower α) (consistent : f.Consistent)
    (tracker : f.tracker = l.follower.tracker) (revision : f.revision = l.follower.revision)
    (settings : f.settings = l.follower.settings) (last : f.last = l.follower.last)
    (unfinished : f.phase ≠ .completed → l.follower.phase ≠ .completed) :
    (⟨f, l.inputs⟩ : ControlLoop α).Coherent where
  consistent
  config := by rw [tracker, settings]; exact coherent.config
  behind := by rw [revision]; exact coherent.behind
  route := by rw [Follower.sync_tracker_congr tracker revision]; exact coherent.route
  memory := by
    intro going aimed
    have aim : (⟨f, l.inputs⟩ : ControlLoop α).aim = l.aim :=
      congrArg Tracker.aim (Follower.sync_tracker_congr tracker revision)
    rw [aim] at aimed ⊢
    rw [last]
    exact coherent.memory (unfinished going) aimed

theorem updatePose (coherent : l.Coherent) (pose : Option (Pose α)) :
    (⟨l.follower, l.inputs.updatePose pose⟩ : ControlLoop α).Coherent :=
  ⟨coherent.consistent, coherent.config, coherent.behind, coherent.route, coherent.memory⟩

/-- With a new route nothing is left of the old aim. -/
theorem replaceRoute (coherent : l.Coherent) (f : Follower α) (consistent : f.Consistent)
    (tracker : f.tracker = l.follower.tracker) (revision : f.revision = l.follower.revision)
    (settings : f.settings = l.follower.settings) (route : Route α) :
    (⟨f, l.inputs.replaceRoute route⟩ : ControlLoop α).Coherent := by
  have synced : (f.sync (l.inputs.replaceRoute route)).tracker = f.tracker.setRoute route :=
    Follower.sync_replaceRoute (by rw [revision]; exact coherent.behind) route
  refine ⟨consistent, by rw [tracker, settings]; exact coherent.config, ?_, ?_, ?_⟩
  · intro known same
    rw [revision] at same
    exact Nat.le_succ_of_le (coherent.behind known same)
  · dsimp only
    rw [synced]
    rfl
  · intro _ aimed
    exact absurd (congrArg Tracker.aim synced) aimed

/-- A follower that has synchronised keeps what it holds of the inputs. -/
theorem synced (coherent : l.Coherent) {f : Follower α} (consistent : f.Consistent)
    (config : f.tracker.config = f.settings.toLookahead)
    (revision : f.revision = some l.inputs.revision)
    (route : f.tracker.route = (l.follower.sync l.inputs).tracker.route)
    (memory : f.phase ≠ .completed → f.tracker.aim ≠ .unset →
      ∃ tick, f.last = some tick ∧ tick.aim = f.tracker.aim ∧ tick.status ≠ .noValidCurve) :
    (⟨f, l.inputs⟩ : ControlLoop α).Coherent := by
  have current : f.sync l.inputs = f := Follower.sync_of_current f l.inputs revision
  refine ⟨consistent, config, ?_, ?_, ?_⟩
  · intro known same
    dsimp only at same
    rw [revision, Option.some.injEq] at same
    exact Nat.le_of_eq same.symm
  · dsimp only
    rw [current, route]
    exact coherent.route
  · unfold aim
    dsimp only
    rw [current]
    exact memory

theorem tick [Scalar α] (coherent : l.Coherent) :
    (⟨(l.follower.tick l.inputs).1, l.inputs⟩ : ControlLoop α).Coherent := by
  have consistent := coherent.consistent.tick l.inputs
  have config : (l.follower.sync l.inputs).tracker.config = l.follower.settings.toLookahead := by
    rw [Follower.sync_config]
    exact coherent.config
  cases went : l.follower.outcome l.inputs with
  | finished =>
    rw [Follower.tick_finished went]
    exact coherent
  | waiting =>
    -- Neither the aim nor the last result has changed.
    rw [Follower.tick_waiting went] at consistent ⊢
    refine coherent.synced consistent (by simpa using config) (Follower.sync_revision ..) rfl ?_
    rw [Follower.sync_phase, Follower.sync_last]
    exact coherent.memory
  | arrived =>
    rw [Follower.tick_arrived went] at consistent ⊢
    refine coherent.synced consistent (by simpa [Follower.finish] using config)
      (Follower.sync_revision ..) rfl ?_
    intro going
    exact absurd rfl going
  | interrupted fault =>
    -- The tracker has the new pose, but aims where it did.
    rw [Follower.tick_interrupted went] at consistent ⊢
    refine coherent.synced consistent (by simpa [Follower.aimed] using config)
      (Follower.aimed_revision ..) rfl ?_
    rw [Follower.aimed_phase, Follower.aimed_last]
    exact coherent.memory
  | computed tick =>
    obtain ⟨after, calls, notices, reaction, ticked⟩ := Follower.tick_computed went
    rw [ticked] at consistent ⊢
    obtain ⟨tracker, revision, settings, last⟩ := reaction.frame
    refine coherent.synced consistent ?_ (revision.trans (Follower.aimed_revision ..)) ?_ ?_
    · dsimp only
      rw [tracker, settings, Follower.aimed_settings]
      exact config
    · dsimp only
      rw [tracker]
      rfl
    · intro going _
      refine ⟨tick, last, ?_, ?_⟩
      · dsimp only
        rw [tracker]
        rfl
      · -- A result without a valid curve ends the run.
        intro ended
        cases reaction with
        | drive ok => rw [ended] at ok; cases ok
        | complete => exact going rfl
        | hold lost | abort lost => exact (Status.apart_of_lost lost).2 ended

/-! ### What a tick computes with -/

section Computation

variable [Scalar α]

/-- The tracker computes with the route of the inputs and the settings' own lookahead. -/
theorem track (coherent : l.Coherent) (pose : Pose α) :
    (l.follower.sync l.inputs).tracker.route.track pose
        (l.follower.sync l.inputs).tracker.config =
      l.inputs.route.track pose l.follower.settings.toLookahead := by
  rw [coherent.route, Follower.sync_config, coherent.config]

/-- A computed tick is the computation on the inputs. -/
theorem track_of_computed (coherent : l.Coherent) {tick : Tick α}
    (computed : l.follower.outcome l.inputs = .computed tick) :
    ∃ pose, l.inputs.pose = some pose ∧
      l.inputs.route.track pose l.follower.settings.toLookahead = .ok tick := by
  have course := l.follower.outcome_course l.inputs
  rw [computed] at course
  cases course with
  | @computed pose _ _ posed _ _ tracked =>
    rw [coherent.track] at tracked
    exact ⟨pose, posed, tracked⟩

end Computation

end Coherent

variable [Scalar α]

theorem apply_coherent (l : ControlLoop α) (event : Event α) (coherent : l.Coherent) :
    (l.apply event).1.Coherent := by
  have consistent := l.apply_consistent event coherent.consistent
  cases event with
  | updatePose pose => exact coherent.updatePose pose
  | replaceRoute route => exact coherent.replaceRoute _ consistent rfl rfl rfl route
  | load route => exact coherent.replaceRoute _ consistent rfl rfl rfl route
  | tick => exact coherent.tick
  | estop =>
    rw [apply_estop] at consistent ⊢
    obtain ⟨tracker, revision, settings, last⟩ := l.follower.estop_frame
    refine coherent.follower _ consistent tracker revision settings last ?_
    intro unfinished completed
    have halted := coherent.consistent.done_iff.mpr (.inl completed)
    rw [Follower.estop_of_done _ halted] at unfinished
    exact unfinished completed
  | resume =>
    rw [apply_resume] at consistent ⊢
    obtain ⟨tracker, revision, settings, last⟩ := l.follower.resume_frame
    refine coherent.follower _ consistent tracker revision settings last ?_
    intro unfinished completed
    have other : l.follower.phase ≠ .aborted := by rw [completed]; exact nofun
    rw [Follower.resume_of_other _ other] at unfinished
    exact unfinished completed

omit [Scalar α] in
/-- The first tick takes the route of the inputs over. -/
theorem new_tracker (settings : Settings α) (inputs : Inputs α) :
    ((ControlLoop.new settings inputs).follower.sync inputs).tracker =
      (Tracker.new settings.toLookahead).setRoute inputs.route := by
  have outdated : (ControlLoop.new settings inputs).follower.revision ≠
      some inputs.revision := nofun
  rw [Follower.sync_of_outdated _ _ outdated]
  rfl

omit [Scalar α] in
theorem new_aim (settings : Settings α) (inputs : Inputs α) :
    (ControlLoop.new settings inputs).aim = .unset :=
  congrArg Tracker.aim (new_tracker settings inputs)

/-- The first tick computes on its inputs, whatever they are. -/
theorem new_outcome {settings : Settings α} {inputs : Inputs α} {pose : Pose α} {tick : Tick α}
    (posed : inputs.pose = some pose) (occupied : inputs.route ≠ [])
    (tracked : inputs.route.track pose settings.toLookahead = .ok tick) :
    (ControlLoop.new settings inputs).follower.outcome inputs = .computed tick := by
  have tracker := new_tracker settings inputs
  refine Follower.outcome_eq_computed rfl posed occupied ?_ ?_
  · exact Follower.unreached_of_unset pose inputs.route (congrArg Tracker.aim tracker)
  · rw [tracker]
    exact tracked

omit [Scalar α] in
theorem new_coherent (settings : Settings α) (inputs : Inputs α) :
    (ControlLoop.new settings inputs).Coherent where
  consistent := new_consistent settings inputs
  config := rfl
  behind := nofun
  route := congrArg Tracker.route (new_tracker settings inputs)
  memory := fun _ aimed => absurd (new_aim settings inputs) aimed

theorem after_coherent (settings : Settings α) (inputs : Inputs α) (events : List (Event α)) :
    ((ControlLoop.new settings inputs).after events).Coherent :=
  after_invariant _ apply_coherent (new_coherent settings inputs) events

end ControlLoop
end PathTracking
