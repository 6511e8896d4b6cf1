import PathTracking.Proofs.Follower.Driving

/-!
# Holding the last command

The follower has two fields for what to do without a curvature: the command it would repeat and
the number of ticks it has held. `Remembers` ties both to the history. The command is that of the
newest success since the run was last armed, by a load or by a resumption that took effect, and
the number counts the failures since. Every event keeps it (`remembers`), so a tick that fails
repeats that command while the failures fit into the limit, and stops the run with the first one
that does not.
-/
namespace PathTracking

variable {α : Type}

namespace Outcome

/-- The tick that obtained a curvature, if one did. -/
def success? : Outcome α → Option (Tick α)
  | computed tick => if tick.status = .ok then some tick else none
  | _ => none

/-- The newest success among outcomes. -/
def lastSuccess (outcomes : List (Outcome α)) : Option (Tick α) :=
  outcomes.reverse.findSome? success?

/-- The failures among outcomes since the newest success. -/
def failures (outcomes : List (Outcome α)) : Nat := (sinceSuccess outcomes).countP failed

theorem lastSuccess_snoc (outcomes : List (Outcome α)) (outcome : Outcome α) :
    lastSuccess (outcomes ++ [outcome]) = outcome.success?.or (lastSuccess outcomes) := by
  rw [lastSuccess, List.reverse_append, List.reverse_singleton, List.singleton_append,
    List.findSome?_cons, lastSuccess]
  cases outcome.success? <;> rfl

theorem failures_snoc (outcomes : List (Outcome α)) (outcome : Outcome α) :
    failures (outcomes ++ [outcome]) =
      if outcome.succeeded then 0
      else failures outcomes + if outcome.failed then 1 else 0 := by
  rw [failures, sinceSuccess_snoc]
  split
  · rfl
  · rw [List.countP_cons, failures]

theorem success?_of_ok {tick : Tick α} (ok : tick.status = .ok) :
    (computed tick).success? = some tick := if_pos ok

/-- An outcome that is no success does not change which success is the newest. -/
theorem success?_of_unsucceeded {outcome : Outcome α} (unsucceeded : outcome.succeeded = false) :
    outcome.success? = none := by
  cases outcome with
  | computed tick => exact if_neg (by simpa [succeeded] using unsucceeded)
  | _ => rfl

end Outcome

/-! ## What a follower remembers -/

variable [Scalar α]

namespace Follower

/-- What command and counter say about the outcomes since the run was armed. The failure that
ends a run is no longer counted, as there is nothing left to hold. -/
structure Remembers (f : Follower α) (recent : List (Outcome α)) : Prop where
  command : f.command = (Outcome.lastSuccess recent).map f.commandFor
  held : f.held ≤ f.settings.maxHold
  failures : Outcome.failures recent = f.held ∨
    f.done = true ∧ Outcome.failures recent = f.settings.maxHold + 1

theorem commandFor_congr {f g : Follower α} (settings : g.settings = f.settings) :
    g.commandFor = f.commandFor := by
  funext tick
  rw [commandFor, commandFor, settings]

namespace Remembers

variable {f g : Follower α} {recent : List (Outcome α)} {outcome : Outcome α}

/-- A run that is armed has nothing to remember. -/
theorem armed (unset : f.command = none) (fresh : f.held = 0) : f.Remembers [] where
  command := unset
  held := by rw [fresh]; exact Nat.zero_le _
  failures := .inl fresh.symm

/-- No more failures than the limit and the one that ends the run. -/
theorem failures_le (remembers : f.Remembers recent) :
    Outcome.failures recent ≤ f.settings.maxHold + 1 := by
  have held := remembers.held
  rcases remembers.failures with counted | ⟨-, spent⟩
  · omega
  · exact Nat.le_of_eq spent

/-- In a run that goes on every failure is counted. -/
theorem counted (remembers : f.Remembers recent) (going : f.done = false) :
    Outcome.failures recent = f.held := by
  refine remembers.failures.resolve_right fun spent => ?_
  rw [going] at spent
  cases spent.1

/-- An event without a tick keeps what is remembered. -/
theorem keep (remembers : f.Remembers recent) (settings : g.settings = f.settings)
    (command : g.command = f.command) (held : g.held = f.held)
    (done : f.done = true → g.done = true) : g.Remembers recent where
  command := by rw [command, commandFor_congr settings, remembers.command]
  held := by rw [held, settings]; exact remembers.held
  failures := by
    rw [held, settings]
    exact remembers.failures.imp_right fun spent => ⟨done spent.1, spent.2⟩

/-- So does an outcome that is neither a success nor a failure. -/
theorem neutral (remembers : f.Remembers recent) (unsucceeded : outcome.succeeded = false)
    (unfailed : outcome.failed = false) : f.Remembers (recent ++ [outcome]) := by
  have same : Outcome.failures (recent ++ [outcome]) = Outcome.failures recent := by
    rw [Outcome.failures_snoc, unsucceeded, unfailed]
    rfl
  refine ⟨?_, remembers.held, ?_⟩
  · rw [Outcome.lastSuccess_snoc, Outcome.success?_of_unsucceeded unsucceeded, Option.none_or]
    exact remembers.command
  · rw [same]
    exact remembers.failures

/-- What is remembered after a computation. -/
theorem reaction {tick : Tick α} {calls : List (Call α)} {notices : List Notice}
    (remembers : f.Remembers recent) (going : f.done = false)
    (reaction : Reaction f tick (g, calls, notices)) :
    g.Remembers (recent ++ [.computed tick]) := by
  have counted := remembers.counted going
  have held := remembers.held
  cases reaction with
  | drive ok =>
    refine ⟨?_, Nat.zero_le _, .inl ?_⟩
    · rw [Outcome.lastSuccess_snoc, Outcome.success?_of_ok ok]
      rfl
    · rw [Outcome.failures_snoc, Outcome.succeeded_computed.mpr ok, if_pos rfl]
  | complete ended =>
    refine (remembers.neutral ?_ ?_).keep rfl rfl rfl fun _ => rfl
    · simp [Outcome.succeeded, ended]
    · simp [Outcome.failed, ended]
  | hold lost room =>
    have failed := Outcome.failed_computed.mpr lost
    have unsucceeded := Outcome.unsucceeded (.inl failed)
    refine ⟨?_, room, .inl ?_⟩
    · rw [Outcome.lastSuccess_snoc, Outcome.success?_of_unsucceeded unsucceeded, Option.none_or]
      exact remembers.command
    · rw [Outcome.failures_snoc, unsucceeded, failed, counted]
      rfl
  | abort lost spent =>
    have failed := Outcome.failed_computed.mpr lost
    have unsucceeded := Outcome.unsucceeded (.inl failed)
    refine ⟨?_, held, .inr ⟨rfl, ?_⟩⟩
    · rw [Outcome.lastSuccess_snoc, Outcome.success?_of_unsucceeded unsucceeded, Option.none_or]
      exact remembers.command
    · rw [Outcome.failures_snoc, unsucceeded, failed, counted, if_neg Bool.false_ne_true,
        if_pos rfl, Nat.le_antisymm held spent]

theorem tick (remembers : f.Remembers recent) (inputs : Inputs α) :
    (f.tick inputs).1.Remembers (recent ++ [f.outcome inputs]) := by
  cases went : f.outcome inputs with
  | finished =>
    rw [tick_finished went]
    exact remembers.neutral rfl rfl
  | waiting =>
    rw [tick_waiting went]
    exact (remembers.neutral rfl rfl).keep (sync_settings ..) (sync_command ..) (sync_held ..)
      (sync_done f inputs).trans
  | arrived =>
    rw [tick_arrived went]
    exact (remembers.neutral rfl rfl).keep (sync_settings ..) (sync_command ..) (sync_held ..)
      fun _ => rfl
  | interrupted fault =>
    rw [tick_interrupted went]
    exact (remembers.neutral rfl rfl).keep (aimed_settings ..) (aimed_command ..)
      (aimed_held ..) (aimed_done f inputs _).trans
  | computed tick =>
    have going : (f.aimed inputs tick.aim).done = false :=
      (aimed_done ..).trans (going_of_outcome (by rw [went]; exact nofun))
    obtain ⟨after, calls, notices, reacted, ticked⟩ := tick_computed went
    have aimed : (f.aimed inputs tick.aim).Remembers recent :=
      remembers.keep (aimed_settings ..) (aimed_command ..) (aimed_held ..)
        (aimed_done f inputs _).trans
    rw [ticked]
    exact aimed.reaction going reacted

end Remembers
end Follower

/-! ## Since the run was armed -/

namespace ControlLoop

/-- The event takes a run up anew: a route is loaded, or an aborted run resumed. -/
def rearms (l : ControlLoop α) : Event α → Bool
  | .load _ => true
  | .resume => l.follower.phase = .aborted
  | _ => false

/-- The outcomes of the ticks since the last event that took the run up anew, after those that
came before the events. -/
def sinceArmedFrom (recent : List (Outcome α)) (l : ControlLoop α) :
    List (Event α) → List (Outcome α)
  | [] => recent
  | event :: rest =>
    sinceArmedFrom (if l.rearms event then [] else recent ++ (l.outcome? event).toList)
      (l.apply event).1 rest

/-- The outcomes of the ticks of a run since it was last taken up anew. -/
def sinceArmed (l : ControlLoop α) (events : List (Event α)) : List (Outcome α) :=
  l.sinceArmedFrom [] events

theorem sinceArmedFrom_snoc (l : ControlLoop α) (recent : List (Outcome α))
    (events : List (Event α)) (event : Event α) :
    l.sinceArmedFrom recent (events ++ [event]) =
      if (l.after events).rearms event then []
      else l.sinceArmedFrom recent events ++ ((l.after events).outcome? event).toList := by
  induction events generalizing l recent with
  | nil => rfl
  | cons first rest ih =>
    rw [List.cons_append, sinceArmedFrom, ih, sinceArmedFrom, after_cons]

theorem sinceArmed_snoc (l : ControlLoop α) (events : List (Event α)) (event : Event α) :
    l.sinceArmed (events ++ [event]) =
      if (l.after events).rearms event then []
      else l.sinceArmed events ++ ((l.after events).outcome? event).toList :=
  l.sinceArmedFrom_snoc [] events event

/-- What the follower remembers is what has happened since the run was armed. -/
theorem remembers (settings : Settings α) (inputs : Inputs α) (events : List (Event α)) :
    let start := ControlLoop.new settings inputs
    (start.after events).follower.Remembers (start.sinceArmed events) := by
  intro start
  induction events using List.reverseRecOn with
  | nil => exact .armed rfl rfl
  | append_singleton events event ih =>
    rw [after_snoc, sinceArmed_snoc]
    -- An event other than a tick arms the run or changes nothing that is remembered.
    cases event with
    | updatePose | replaceRoute => simpa [rearms, outcome?, apply] using ih
    | load => exact .armed rfl rfl
    | tick => exact ih.tick (start.after events).inputs
    | estop =>
      suffices kept : (start.after events).follower.estop.1.Remembers (start.sinceArmed events) by
        simpa [rearms, outcome?, apply_estop] using kept
      cases state : (start.after events).follower.done with
      | true =>
        rw [Follower.estop_of_done _ state]
        exact ih
      | false =>
        rw [Follower.estop_of_going _ state]
        exact ih.keep rfl rfl rfl fun _ => rfl
    | resume =>
      rw [apply_resume]
      by_cases aborted : (start.after events).follower.phase = .aborted
      · rw [if_pos (by simpa [rearms] using aborted), Follower.resume_of_aborted _ aborted]
        exact .armed rfl rfl
      · simpa [rearms, outcome?, aborted, Follower.resume_of_other _ aborted] using ih

end ControlLoop

/-! ## What a tick does -/

namespace Follower

variable {f : Follower α} {inputs : Inputs α}

theorem tick_calls_le (f : Follower α) (inputs : Inputs α) :
    (f.tick inputs).2.calls.length ≤ 1 := by
  cases went : f.outcome inputs with
  | finished => rw [tick_finished went]; exact Nat.zero_le _
  | waiting => rw [tick_waiting went]; exact Nat.zero_le _
  | arrived => rw [tick_arrived went]; exact Nat.le_refl _
  | interrupted fault => rw [tick_interrupted went]; exact Nat.zero_le _
  | computed tick =>
    obtain ⟨after, calls, notices, reaction, ticked⟩ := tick_computed went
    rw [ticked]
    cases reaction <;> exact Nat.le_refl _

/-- A tick drives by the curvature it has just obtained or, having failed, by the command that
stands. -/
theorem tick_drive {command : Command α} (driven : .drive command ∈ (f.tick inputs).2.calls) :
    (∃ tick, f.outcome inputs = .computed tick ∧ (f.tick inputs).2.result = .ok (some tick) ∧
      tick.status = .ok ∧ command = f.commandFor tick ∧ (f.tick inputs).1.phase = .tracking) ∨
    ((f.outcome inputs).failed = true ∧ (f.tick inputs).1.phase = .holding ∧
      f.command = some command) := by
  cases went : f.outcome inputs with
  | finished => rw [tick_finished went] at driven; cases driven
  | waiting => rw [tick_waiting went] at driven; cases driven
  | arrived => rw [tick_arrived went] at driven; simp at driven
  | interrupted fault => rw [tick_interrupted went] at driven; cases driven
  | computed tick =>
    obtain ⟨after, calls, notices, reaction, ticked⟩ := tick_computed went
    rw [ticked] at driven ⊢
    cases reaction with
    | drive ok =>
      refine .inl ⟨tick, rfl, rfl, ok, ?_, rfl⟩
      rw [← commandFor_congr (aimed_settings f inputs tick.aim)]
      simpa using driven
    | complete => simp at driven
    | hold lost =>
      refine .inr ⟨Outcome.failed_computed.mpr lost, rfl, ?_⟩
      rw [List.mem_singleton, repetition, aimed_command] at driven
      cases standing : f.command with
      | none => rw [standing] at driven; cases driven
      | some command => rw [standing] at driven; cases driven; rfl
    | abort => simp at driven

/-- A tick that fails holds as long as the counter leaves room, and then aborts. -/
theorem tick_failed (failed : (f.outcome inputs).failed = true) :
    (f.held < f.settings.maxHold →
      (f.tick inputs).1.phase = .holding ∧ (f.tick inputs).2.calls = [f.repetition]) ∧
    (f.settings.maxHold ≤ f.held →
      (f.tick inputs).1.phase = .aborted ∧ (f.tick inputs).2.calls = [.stop]) := by
  cases went : f.outcome inputs with
  | computed tick =>
    rw [went] at failed
    have lost := Outcome.failed_computed.mp failed
    obtain ⟨after, calls, notices, reaction, ticked⟩ := tick_computed went
    rw [ticked]
    cases reaction with
    | drive ok => exact absurd ok (Status.apart_of_lost lost).1
    | complete ended => exact absurd ended (Status.apart_of_lost lost).2
    | hold _ room =>
      rw [aimed_held, aimed_settings] at room
      refine ⟨fun _ => ⟨rfl, ?_⟩, fun spent => absurd room (Nat.not_lt.mpr spent)⟩
      rw [repetition, aimed_command, repetition]
    | abort _ spent =>
      rw [aimed_held, aimed_settings] at spent
      exact ⟨fun room => absurd room (Nat.not_lt.mpr spent), fun _ => ⟨rfl, rfl⟩⟩
  | finished | waiting | arrived | interrupted => rw [went] at failed; cases failed

end Follower

namespace ControlLoop

/-- In every run a tick makes at most one call. If it drives, it has just obtained a curvature
and the command is the one for it, or it has failed, holds, and repeats the command for the newest
success since the run was armed. With the n-th failure since that success, or since the run was
armed, the follower holds as long as n is within the limit, stopping the vehicle if there is no
command to repeat, and with the next one it stops the vehicle and aborts. There is no further one
until the run is armed again. -/
theorem hold_policy (settings : Settings α) (inputs : Inputs α) (events : List (Event α)) :
    let start := ControlLoop.new settings inputs
    let l := start.after events
    let recent := start.sinceArmed events
    let outcome := l.follower.outcome l.inputs
    let report := (l.apply .tick).2
    let phase := (l.apply .tick).1.follower.phase
    let commandFor (tick : Tick α) : Command α := ⟨settings.speed, settings.speed * tick.kappa⟩
    let n := Outcome.failures (recent ++ [outcome])
    report.calls.length ≤ 1 ∧
    (∀ command, .drive command ∈ report.calls →
      (∃ tick, outcome = .computed tick ∧ report.result = .ok (some tick) ∧ tick.status = .ok ∧
        command = commandFor tick ∧ phase = .tracking) ∨
      (outcome.failed = true ∧ phase = .holding ∧
        ∃ tick, Outcome.lastSuccess recent = some tick ∧ command = commandFor tick)) ∧
    (outcome.failed = true →
      (n ≤ settings.maxHold → phase = .holding ∧ report.calls =
        [match Outcome.lastSuccess recent with
          | some tick => .drive (commandFor tick)
          | none => .stop]) ∧
      (n = settings.maxHold + 1 → phase = .aborted ∧ report.calls = [.stop])) ∧
    Outcome.failures recent ≤ settings.maxHold + 1 := by
  intro start l recent outcome report phase commandFor n
  have remembers : l.follower.Remembers recent := remembers settings inputs events
  have same : l.follower.settings = settings := after_settings _ events
  have own : l.follower.commandFor = commandFor := by
    funext tick
    rw [Follower.commandFor, same]
  have command : l.follower.command = (Outcome.lastSuccess recent).map commandFor :=
    own ▸ remembers.command
  refine ⟨Follower.tick_calls_le _ _, ?_, ?_, same ▸ remembers.failures_le⟩
  · intro given driven
    rcases Follower.tick_drive driven with
      ⟨tick, computed, result, ok, new, tracking⟩ | ⟨failed, holding, standing⟩
    · exact .inl ⟨tick, computed, result, ok, own ▸ new, tracking⟩
    · rw [command, Option.map_eq_some_iff] at standing
      obtain ⟨tick, newest, repeated⟩ := standing
      exact .inr ⟨failed, holding, tick, newest, repeated.symm⟩
  · intro failed
    have unfinished : outcome ≠ .finished := by
      intro finished
      rw [finished] at failed
      cases failed
    have going : l.follower.done = false := Follower.going_of_outcome unfinished
    have counted : n = l.follower.held + 1 := by
      rw [← remembers.counted going]
      simp only [n, Outcome.failures_snoc, Outcome.unsucceeded (.inl failed), failed, if_true,
        if_false, Bool.false_eq_true]
    obtain ⟨holds, aborts⟩ := Follower.tick_failed failed
    rw [same] at holds aborts
    constructor
    · intro within
      obtain ⟨holding, repeats⟩ := holds (by omega)
      refine ⟨holding, repeats.trans ?_⟩
      rw [Follower.repetition, command]
      cases Outcome.lastSuccess recent <;> rfl
    · intro beyond
      exact aborts (by omega)

end ControlLoop
end PathTracking
