import PathTracking.Follower.Loop

/-!
# How a tick goes

A tick of the follower goes in one of five ways. `outcome_course` says when it goes which
way, `tick_eq` what each way does to the follower and reports, and `react_reaction` what
follows from a computation. The theorems about runs rest on these three and do not open
the tick again.
-/
namespace PathTracking

variable {α : Type}

/-- A computation that lost the route or its target neither succeeded nor found the end of the
route. -/
theorem Status.apart_of_lost {status : Status}
    (lost : status = .pathLost ∨ status = .targetLost) : status ≠ .ok ∧ status ≠ .noValidCurve := by
  rcases lost with rfl | rfl <;> exact ⟨nofun, nofun⟩

/-- How a tick goes. -/
inductive Outcome (α : Type)
  /-- The run is over. -/
  | finished
  /-- There is no pose, or no route. -/
  | waiting
  /-- The goal is reached, by the aim of an earlier tick. -/
  | arrived
  | interrupted (fault : TrackingFault)
  | computed (tick : Tick α)
  deriving DecidableEq, Repr

namespace Outcome

/-- The tick obtained a curvature. -/
def succeeded : Outcome α → Bool
  | computed tick => tick.status = .ok
  | _ => false

/-- The tick computed, obtained no curvature and did not find the end of the route. -/
def failed : Outcome α → Bool
  | computed tick => tick.status = .pathLost || tick.status = .targetLost
  | _ => false

/-- The run goes on, but the tick has nothing to compute with or does not come to an end. -/
def blind : Outcome α → Bool
  | waiting | interrupted _ => true
  | _ => false

@[simp] theorem succeeded_computed {tick : Tick α} :
    (computed tick).succeeded = true ↔ tick.status = .ok := decide_eq_true_iff

@[simp] theorem failed_computed {tick : Tick α} :
    (computed tick).failed = true ↔ tick.status = .pathLost ∨ tick.status = .targetLost := by
  simp [failed]

end Outcome

namespace Follower

/-! ## What single operations leave alone -/

section Fields

variable (f : Follower α) (inputs : Inputs α)

@[simp] theorem sync_settings : (f.sync inputs).settings = f.settings := by
  unfold sync; split <;> rfl

@[simp] theorem sync_phase : (f.sync inputs).phase = f.phase := by
  unfold sync; split <;> rfl

@[simp] theorem sync_done : (f.sync inputs).done = f.done := by
  unfold sync; split <;> rfl

@[simp] theorem sync_last : (f.sync inputs).last = f.last := by
  unfold sync; split <;> rfl

@[simp] theorem sync_command : (f.sync inputs).command = f.command := by
  unfold sync; split <;> rfl

@[simp] theorem sync_held : (f.sync inputs).held = f.held := by
  unfold sync; split <;> rfl

@[simp] theorem sync_config : (f.sync inputs).tracker.config = f.tracker.config := by
  unfold sync; split <;> rfl

@[simp] theorem sync_revision : (f.sync inputs).revision = some inputs.revision := by
  unfold sync
  split
  next same => exact same
  · rfl

theorem sync_of_current (current : f.revision = some inputs.revision) :
    f.sync inputs = f := by
  rw [sync, if_pos current]

theorem sync_of_outdated (outdated : f.revision ≠ some inputs.revision) :
    f.sync inputs =
      { f with revision := some inputs.revision, tracker := f.tracker.setRoute inputs.route } := by
  rw [sync, if_neg outdated]

end Fields

/-- The follower once the tracker has the pose of the inputs and the aim given. -/
def aimed (f : Follower α) (inputs : Inputs α) (aim : Aim α) : Follower α :=
  { f.sync inputs with
    tracker := { (f.sync inputs).tracker with pose := inputs.pose, aim } }

section Aimed

variable (f : Follower α) (inputs : Inputs α) (aim : Aim α)

@[simp] theorem aimed_settings : (f.aimed inputs aim).settings = f.settings :=
  sync_settings f inputs

@[simp] theorem aimed_phase : (f.aimed inputs aim).phase = f.phase := sync_phase f inputs

@[simp] theorem aimed_done : (f.aimed inputs aim).done = f.done := sync_done f inputs

@[simp] theorem aimed_last : (f.aimed inputs aim).last = f.last := sync_last f inputs

@[simp] theorem aimed_command : (f.aimed inputs aim).command = f.command :=
  sync_command f inputs

@[simp] theorem aimed_held : (f.aimed inputs aim).held = f.held := sync_held f inputs

@[simp] theorem aimed_revision : (f.aimed inputs aim).revision = some inputs.revision :=
  sync_revision f inputs

end Aimed

section Interventions

variable (f : Follower α)

theorem estop_of_done (halted : f.done = true) : f.estop.1 = f := if_pos halted

theorem estop_of_going (going : f.done = false) : f.estop.1 = f.finish .aborted := by
  rw [estop, going]
  rfl

theorem resume_of_aborted (aborted : f.phase = .aborted) : f.resume = f.rearm := if_pos aborted

theorem resume_of_other (other : f.phase ≠ .aborted) : f.resume = f := if_neg other

/-- An emergency stop is no matter of the tracker. -/
theorem estop_frame :
    f.estop.1.tracker = f.tracker ∧ f.estop.1.revision = f.revision ∧
      f.estop.1.settings = f.settings ∧ f.estop.1.last = f.last := by
  cases state : f.done with
  | true => rw [estop_of_done f state]; exact ⟨rfl, rfl, rfl, rfl⟩
  | false => rw [estop_of_going f state]; exact ⟨rfl, rfl, rfl, rfl⟩

theorem resume_frame :
    f.resume.tracker = f.tracker ∧ f.resume.revision = f.revision ∧
      f.resume.settings = f.settings ∧ f.resume.last = f.last := by
  by_cases aborted : f.phase = .aborted
  · rw [resume_of_aborted f aborted]; exact ⟨rfl, rfl, rfl, rfl⟩
  · rw [resume_of_other f aborted]; exact ⟨rfl, rfl, rfl, rfl⟩

end Interventions

variable [Scalar α]

/-- How a tick on these inputs goes. -/
def outcome (f : Follower α) (inputs : Inputs α) : Outcome α :=
  if f.done then .finished
  else
    match inputs.pose with
    | none => .waiting
    | some pose =>
      if inputs.route.isEmpty then .waiting
      else if (f.sync inputs).reachedGoal pose inputs.route then .arrived
      else
        let tracker := (f.sync inputs).tracker
        match tracker.route.track pose tracker.config with
        | .error fault => .interrupted fault
        | .ok tick => .computed tick

/-- What a tick does, by how it goes. -/
theorem tick_eq (f : Follower α) (inputs : Inputs α) :
    f.tick inputs =
      match f.outcome inputs with
      | .finished => (f, .silent)
      | .waiting => (f.sync inputs, .silent)
      | .arrived =>
        ((f.sync inputs).finish .completed, ⟨.ok f.last, [.stop], [.reachedGoal]⟩)
      | .interrupted fault =>
        (f.aimed inputs (f.sync inputs).tracker.aim, ⟨.error fault, [], []⟩)
      | .computed tick =>
        let (after, calls, notices) := (f.aimed inputs tick.aim).react tick
        (after, ⟨.ok (some tick), calls, Tracker.notices tick ++ notices⟩) := by
  unfold tick outcome
  -- Both sides test the same conditions in the same order.
  by_cases halted : f.done = true
  · simp only [halted, if_true]
  · simp only [halted, if_false, Bool.false_eq_true]
    cases posed : inputs.pose with
    | none => rfl
    | some pose =>
      by_cases empty : inputs.route.isEmpty = true
      · simp only [empty, if_true]
      · by_cases reached : (f.sync inputs).reachedGoal pose inputs.route = true
        · simp only [empty, reached, if_true, if_false, Bool.false_eq_true, sync_last]
        · simp only [empty, reached, if_false, Bool.false_eq_true, Tracker.tick, Tracker.setPose]
          cases (f.sync inputs).tracker.route.track pose (f.sync inputs).tracker.config with
          | error fault => simp only [aimed, posed]
          | ok tick => simp only [aimed, posed]

/-! ## When a tick goes which way -/

/-- What the follower and the inputs were like for a tick to go as it went. -/
inductive Course (f : Follower α) (inputs : Inputs α) : Outcome α → Prop
  | finished (halted : f.done = true) : Course f inputs .finished
  | waiting (going : f.done = false) (lacking : inputs.pose = none ∨ inputs.route = []) :
      Course f inputs .waiting
  | arrived {pose : Pose α} (going : f.done = false) (posed : inputs.pose = some pose)
      (occupied : inputs.route ≠ [])
      (reached : (f.sync inputs).reachedGoal pose inputs.route = true) :
      Course f inputs .arrived
  | interrupted {pose : Pose α} {fault : TrackingFault} (going : f.done = false)
      (posed : inputs.pose = some pose) (occupied : inputs.route ≠ [])
      (unreached : (f.sync inputs).reachedGoal pose inputs.route = false)
      (tracked : (f.sync inputs).tracker.route.track pose (f.sync inputs).tracker.config =
        .error fault) : Course f inputs (.interrupted fault)
  | computed {pose : Pose α} {tick : Tick α} (going : f.done = false)
      (posed : inputs.pose = some pose) (occupied : inputs.route ≠ [])
      (unreached : (f.sync inputs).reachedGoal pose inputs.route = false)
      (tracked : (f.sync inputs).tracker.route.track pose (f.sync inputs).tracker.config =
        .ok tick) : Course f inputs (.computed tick)

theorem outcome_course (f : Follower α) (inputs : Inputs α) :
    Course f inputs (f.outcome inputs) := by
  unfold outcome
  split
  next halted => exact .finished halted
  next going =>
    have going : f.done = false := by simpa using going
    split
    next lacking => exact .waiting going (.inl lacking)
    next pose posed =>
      split
      next empty => exact .waiting going (.inr (by simpa using empty))
      next occupied =>
        have occupied : inputs.route ≠ [] := by simpa using occupied
        split
        next reached => exact .arrived going posed occupied reached
        next unreached =>
          have unreached := Bool.not_eq_true _ ▸ unreached
          dsimp only
          split
          next fault tracked => exact .interrupted going posed occupied unreached tracked
          next tick tracked => exact .computed going posed occupied unreached tracked

theorem outcome_eq_waiting {f : Follower α} {inputs : Inputs α} (going : f.done = false)
    (lacking : inputs.pose = none ∨ inputs.route = []) : f.outcome inputs = .waiting := by
  unfold outcome
  rw [going, if_neg Bool.false_ne_true]
  rcases lacking with unposed | empty
  · rw [unposed]
  · rw [empty]
    cases inputs.pose <;> rfl

theorem outcome_eq_arrived {f : Follower α} {inputs : Inputs α} {pose : Pose α}
    (going : f.done = false) (posed : inputs.pose = some pose) (occupied : inputs.route ≠ [])
    (reached : (f.sync inputs).reachedGoal pose inputs.route = true) :
    f.outcome inputs = .arrived := by
  simp [outcome, going, posed, occupied, reached]

theorem outcome_eq_computed {f : Follower α} {inputs : Inputs α} {pose : Pose α} {tick : Tick α}
    (going : f.done = false) (posed : inputs.pose = some pose) (occupied : inputs.route ≠ [])
    (unreached : (f.sync inputs).reachedGoal pose inputs.route = false)
    (tracked : (f.sync inputs).tracker.route.track pose (f.sync inputs).tracker.config =
      .ok tick) : f.outcome inputs = .computed tick := by
  simp only [outcome, going, posed, List.isEmpty_iff, occupied, unreached, tracked, if_false,
    Bool.false_eq_true]

theorem outcome_eq_interrupted {f : Follower α} {inputs : Inputs α} {pose : Pose α}
    {fault : TrackingFault} (going : f.done = false) (posed : inputs.pose = some pose)
    (occupied : inputs.route ≠ [])
    (unreached : (f.sync inputs).reachedGoal pose inputs.route = false)
    (tracked : (f.sync inputs).tracker.route.track pose (f.sync inputs).tracker.config =
      .error fault) : f.outcome inputs = .interrupted fault := by
  simp only [outcome, going, posed, List.isEmpty_iff, occupied, unreached, tracked, if_false,
    Bool.false_eq_true]

theorem outcome_finished_iff {f : Follower α} {inputs : Inputs α} :
    f.outcome inputs = .finished ↔ f.done = true := by
  constructor
  · intro finished
    have course := f.outcome_course inputs
    rw [finished] at course
    cases course
    assumption
  · intro halted
    rw [outcome, if_pos halted]

theorem going_of_outcome {f : Follower α} {inputs : Inputs α}
    (going : f.outcome inputs ≠ .finished) : f.done = false := by
  rw [Ne, outcome_finished_iff] at going
  simpa using going

theorem reachedGoal_iff {f : Follower α} {pose : Pose α} {route : Route α} :
    f.reachedGoal pose route = true ↔
      ∃ goal, route.getLast? = some goal ∧ f.tracker.aim.index = (route.length : Int) - 1 ∧
        pose.position.planeDistance goal.position ≤ f.settings.minimum := by
  unfold reachedGoal
  split
  next empty => simp [empty]
  next goal ending => simp [ending]

/-- Without an aim the goal is not reached. -/
theorem unreached_of_unset {f : Follower α} (pose : Pose α) (route : Route α)
    (unset : f.tracker.aim = .unset) : f.reachedGoal pose route = false := by
  rw [Bool.eq_false_iff, Ne, reachedGoal_iff, unset]
  rintro ⟨goal, ending, aimed, -⟩
  have occupied : 0 < route.length := by
    rw [List.length_pos_iff]
    rintro rfl
    cases ending
  simp only [Aim.unset] at aimed
  omega

/-! ## What follows from a computation -/

/-- The call of a tick without curvature: the last command again, or a stop if there is
none. -/
def repetition (f : Follower α) : Call α :=
  match f.command with
  | some command => .drive command
  | none => .stop

/-- The command for the curvature of a tick. -/
def commandFor (f : Follower α) (tick : Tick α) : Command α :=
  ⟨f.settings.speed, f.settings.speed * tick.kappa⟩

/-- What can follow from a computation: the follower after it, its calls and its notices. -/
inductive Reaction (f : Follower α) (tick : Tick α) :
    Follower α × List (Call α) × List Notice → Prop
  | drive (ok : tick.status = .ok) : Reaction f tick
      ({ f with
          last := some tick, command := some (f.commandFor tick), held := 0,
          phase := .tracking },
        [.drive (f.commandFor tick)], [])
  | complete (ended : tick.status = .noValidCurve) : Reaction f tick
      ({ f with last := some tick, phase := .completed, done := true }, [.stop], [.reachedEnd])
  | hold (lost : tick.status = .pathLost ∨ tick.status = .targetLost)
      (room : f.held < f.settings.maxHold) : Reaction f tick
      ({ f with last := some tick, held := f.held + 1, phase := .holding }, [f.repetition],
        [.holding (f.held + 1) f.settings.maxHold])
  | abort (lost : tick.status = .pathLost ∨ tick.status = .targetLost)
      (spent : f.settings.maxHold ≤ f.held) : Reaction f tick
      ({ f with last := some tick, phase := .aborted, done := true }, [.stop],
        [.aborted tick.status])

theorem react_reaction (f : Follower α) (tick : Tick α) : Reaction f tick (f.react tick) := by
  cases status : tick.status with
  | ok =>
    simp only [react, status]
    exact .drive status
  | noValidCurve =>
    simp only [react, status]
    exact .complete status
  | pathLost =>
    by_cases room : f.held < f.settings.maxHold
    · simp only [react, status, if_pos room]
      exact .hold (.inl status) room
    · simp only [react, status, if_neg room]
      rw [← status]
      exact .abort (.inl status) (by omega)
  | targetLost =>
    by_cases room : f.held < f.settings.maxHold
    · simp only [react, status, if_pos room]
      exact .hold (.inr status) room
    · simp only [react, status, if_neg room]
      rw [← status]
      exact .abort (.inr status) (by omega)

/-! ## A tick by its outcome -/

section Ticked

variable {f : Follower α} {inputs : Inputs α}

theorem tick_finished (finished : f.outcome inputs = .finished) :
    f.tick inputs = (f, .silent) := by
  rw [tick_eq, finished]

theorem tick_waiting (waiting : f.outcome inputs = .waiting) :
    f.tick inputs = (f.sync inputs, .silent) := by
  rw [tick_eq, waiting]

theorem tick_arrived (arrived : f.outcome inputs = .arrived) :
    f.tick inputs =
      ((f.sync inputs).finish .completed, ⟨.ok f.last, [.stop], [.reachedGoal]⟩) := by
  rw [tick_eq, arrived]

theorem tick_interrupted {fault : TrackingFault}
    (interrupted : f.outcome inputs = .interrupted fault) :
    f.tick inputs = (f.aimed inputs (f.sync inputs).tracker.aim, ⟨.error fault, [], []⟩) := by
  rw [tick_eq, interrupted]

theorem tick_computed {tick : Tick α} (computed : f.outcome inputs = .computed tick) :
    ∃ after calls notices,
      Reaction (f.aimed inputs tick.aim) tick (after, calls, notices) ∧
      f.tick inputs =
        (after, ⟨.ok (some tick), calls, Tracker.notices tick ++ notices⟩) := by
  have reaction := react_reaction (f.aimed inputs tick.aim) tick
  rw [tick_eq, computed]
  dsimp only
  generalize (f.aimed inputs tick.aim).react tick = result at reaction ⊢
  exact ⟨_, _, _, reaction, rfl⟩

theorem tick_driving {tick : Tick α} (computed : f.outcome inputs = .computed tick)
    (ok : tick.status = .ok) :
    f.tick inputs =
      ({ f.aimed inputs tick.aim with
          last := some tick, command := some (f.commandFor tick), held := 0,
          phase := .tracking },
        ⟨.ok (some tick), [.drive (f.commandFor tick)], Tracker.notices tick⟩) := by
  obtain ⟨after, calls, notices, reaction, ticked⟩ := tick_computed computed
  rw [ticked]
  cases reaction with
  | drive => simp [commandFor]
  | complete ended => rw [ok] at ended; cases ended
  | hold lost | abort lost => exact absurd ok (Status.apart_of_lost lost).1

end Ticked

end Follower
end PathTracking
