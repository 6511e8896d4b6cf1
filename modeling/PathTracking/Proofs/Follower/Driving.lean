import PathTracking.Proofs.Exact.Leg

/-!
# When the vehicle is driven

The last call tells what the follower is doing: it is a drive exactly while the run goes on
and a command stands (`lastCall_drive_iff`). So a finished or idle follower has stopped the
vehicle, and while it drives, its counter of held ticks counts the failed computations since
the last success (`accounted`). Ticks that have nothing to compute with are not counted:
`drive_bounded` says what bound they leave, `drive_unwatched` that nothing else ends them.
-/
namespace PathTracking

variable {α : Type}

/-! ## Phase, mark and command -/

namespace Follower

/-- The mark of a finished run agrees with the phase, and no command stands before the
first success. -/
structure Consistent (f : Follower α) : Prop where
  done_iff : f.done = true ↔ f.phase = .completed ∨ f.phase = .aborted
  idle : f.phase = .idle → f.command = none

namespace Consistent

variable {f g : Follower α}

theorem of_eq (sound : f.Consistent) (phase : g.phase = f.phase) (done : g.done = f.done)
    (command : g.command = f.command) : g.Consistent where
  done_iff := by rw [phase, done]; exact sound.done_iff
  idle := by rw [phase, command]; exact sound.idle

theorem rearm (f : Follower α) : f.rearm.Consistent where
  done_iff := by simp [Follower.rearm]
  idle := by simp [Follower.rearm]

theorem finish (f : Follower α) {phase : Phase} (final : phase = .completed ∨ phase = .aborted) :
    (f.finish phase).Consistent where
  done_iff := by simp [Follower.finish, final]
  idle := by rcases final with rfl | rfl <;> simp [Follower.finish]

theorem reaction {tick : Tick α} {calls : List (Call α)} {notices : List Notice} [Scalar α]
    (going : f.done = false) (reaction : Reaction f tick (g, calls, notices)) :
    g.Consistent := by
  cases reaction with
  | drive => exact ⟨by simp [going], by simp⟩
  | complete => exact ⟨by simp, by simp⟩
  | hold => exact ⟨by simp [going], by simp⟩
  | abort => exact ⟨by simp, by simp⟩

theorem tick [Scalar α] (sound : f.Consistent) (inputs : Inputs α) :
    (f.tick inputs).1.Consistent := by
  cases went : f.outcome inputs with
  | finished => rw [tick_finished went]; exact sound
  | waiting =>
    rw [tick_waiting went]
    exact sound.of_eq (sync_phase ..) (sync_done ..) (sync_command ..)
  | arrived => rw [tick_arrived went]; exact finish _ (.inl rfl)
  | interrupted fault =>
    rw [tick_interrupted went]
    exact sound.of_eq (aimed_phase ..) (aimed_done ..) (aimed_command ..)
  | computed tick =>
    obtain ⟨after, calls, notices, reacted, ticked⟩ := tick_computed went
    have going : (f.aimed inputs tick.aim).done = false := by
      rw [aimed_done]
      exact going_of_outcome (by rw [went]; exact nofun)
    rw [ticked]
    exact .reaction going reacted

end Consistent
end Follower

namespace ControlLoop

variable [Scalar α]

theorem apply_consistent (l : ControlLoop α) (event : Event α)
    (sound : l.follower.Consistent) : (l.apply event).1.follower.Consistent := by
  cases event with
  | updatePose | replaceRoute => exact sound
  | load route => exact .rearm l.follower
  | tick => exact sound.tick l.inputs
  | estop =>
    rw [apply_estop]
    cases state : l.follower.done with
    | true => rw [Follower.estop_of_done _ state]; exact sound
    | false => rw [Follower.estop_of_going _ state]; exact .finish _ (.inr rfl)
  | resume =>
    rw [apply_resume]
    by_cases aborted : l.follower.phase = .aborted
    · rw [Follower.resume_of_aborted _ aborted]; exact .rearm l.follower
    · rw [Follower.resume_of_other _ aborted]; exact sound

omit [Scalar α] in
theorem new_consistent (settings : Settings α) (inputs : Inputs α) :
    (ControlLoop.new settings inputs).follower.Consistent :=
  ⟨by simp [new, Follower.new], by simp [new, Follower.new]⟩

theorem after_consistent (settings : Settings α) (inputs : Inputs α) (events : List (Event α)) :
    ((ControlLoop.new settings inputs).after events).follower.Consistent :=
  after_invariant _ (P := fun l => l.follower.Consistent) apply_consistent
    (new_consistent settings inputs) events

/-! ## The last call -/

/-- The last call that the sink received. -/
def lastCall (l : ControlLoop α) (events : List (Event α)) : Option (Call α) :=
  (l.calls events).getLast?

theorem lastCall_snoc (l : ControlLoop α) (events : List (Event α)) (event : Event α) :
    l.lastCall (events ++ [event]) =
      ((l.after events).apply event).2.calls.getLast?.or (l.lastCall events) := by
  rw [lastCall, calls_snoc, List.getLast?_append, lastCall]

/-- A tick leaves the last call a drive exactly if it leaves a run that goes on with a
command. -/
theorem tick_drive_iff {f : Follower α} (inputs : Inputs α) (last : Option (Call α))
    (command : Command α)
    (driving : last = some (.drive command) ↔ f.done = false ∧ f.command = some command) :
    (f.tick inputs).2.calls.getLast?.or last = some (.drive command) ↔
      (f.tick inputs).1.done = false ∧ (f.tick inputs).1.command = some command := by
  cases went : f.outcome inputs with
  | finished => rw [Follower.tick_finished went]; simpa [Report.silent] using driving
  | waiting => rw [Follower.tick_waiting went]; simpa [Report.silent] using driving
  | arrived => rw [Follower.tick_arrived went]; simp [Follower.finish]
  | interrupted fault => rw [Follower.tick_interrupted went]; simpa using driving
  | computed tick =>
    have going : f.done = false := Follower.going_of_outcome (by rw [went]; exact nofun)
    obtain ⟨after, calls, notices, reaction, ticked⟩ := Follower.tick_computed went
    rw [ticked]
    cases reaction with
    | drive => simp [going]
    | complete => simp
    | hold =>
      -- The command is repeated if one stands; if not, the call is a stop.
      simp only [Follower.repetition, Follower.aimed_command, Follower.aimed_done, going]
      cases f.command <;> simp
    | abort => simp

theorem lastCall_drive_iff (settings : Settings α) (inputs : Inputs α)
    (events : List (Event α)) (command : Command α) :
    let l := ControlLoop.new settings inputs
    l.lastCall events = some (.drive command) ↔
      (l.after events).follower.done = false ∧
      (l.after events).follower.command = some command := by
  intro l
  -- The last event decides, unless it makes no call.
  induction events using List.reverseRecOn with
  | nil => simp [lastCall, l, new, Follower.new]
  | append_singleton events event ih =>
    rw [lastCall_snoc, after_snoc]
    cases event with
    | updatePose | replaceRoute => simpa [apply, Report.silent] using ih
    | load => simp [apply_load, Follower.rearm]
    | tick => exact tick_drive_iff _ _ command ih
    | estop =>
      rw [apply_estop]
      cases state : (l.after events).follower.done with
      | true => simp [Follower.estop_of_done _ state, state]
      | false => simp [Follower.estop_of_going _ state, Follower.finish]
    | resume =>
      rw [apply_resume]
      by_cases aborted : (l.after events).follower.phase = .aborted
      · -- No command stands once the run is armed again, and the abort has stopped the vehicle.
        have halted : (l.after events).follower.done = true :=
          (after_consistent settings inputs events).done_iff.mpr (.inr aborted)
        have stopped : l.lastCall events ≠ some (.drive command) := by
          rw [Ne, ih, halted]
          simp
        simpa [Follower.resume_of_aborted _ aborted, Follower.rearm, Report.silent] using stopped
      · simpa [Follower.resume_of_other _ aborted, Report.silent] using ih

end ControlLoop

/-! ## The ticks since the last success -/

namespace Outcome

/-- The outcomes since the last success, the newest first. -/
def sinceSuccess (outcomes : List (Outcome α)) : List (Outcome α) :=
  outcomes.reverse.takeWhile fun outcome => !outcome.succeeded

theorem sinceSuccess_snoc (outcomes : List (Outcome α)) (outcome : Outcome α) :
    sinceSuccess (outcomes ++ [outcome]) =
      if outcome.succeeded then [] else outcome :: sinceSuccess outcomes := by
  rw [sinceSuccess, List.reverse_append, List.reverse_singleton, List.singleton_append,
    List.takeWhile_cons]
  cases outcome.succeeded <;> rfl

theorem sinceSuccess_waiting (outcomes : List (Outcome α)) (n : Nat) :
    sinceSuccess (outcomes ++ List.replicate n .waiting) =
      List.replicate n .waiting ++ sinceSuccess outcomes := by
  induction n with
  | zero => simp
  | succ n ih =>
    rw [List.replicate_succ', ← List.append_assoc, sinceSuccess_snoc, ih,
      ← List.replicate_succ', List.replicate_succ]
    rfl

/-- Of the ticks without a curvature that leave a run going, the blind ones are those that did
not fail. -/
theorem blind_iff {outcome : Outcome α}
    (fell : outcome.failed = true ∨ outcome.blind = true) :
    outcome.blind = true ↔ ¬ outcome.failed = true := by
  cases outcome with
  | computed tick =>
    have failed := fell.resolve_right Bool.false_ne_true
    exact iff_of_false Bool.false_ne_true (not_not_intro failed)
  | _ => simp_all [failed, blind]

theorem unsucceeded {outcome : Outcome α}
    (fell : outcome.failed = true ∨ outcome.blind = true) : outcome.succeeded = false := by
  cases outcome with
  | computed tick =>
    rcases fell with failed | blind
    · simpa [succeeded] using (Status.apart_of_lost (failed_computed.mp failed)).1
    · cases blind
  | _ => rfl

/-- Outcomes that all are failed or blind are as many as the failed and the blind ones. -/
theorem length_eq_countP (outcomes : List (Outcome α))
    (each : ∀ outcome ∈ outcomes, outcome.failed = true ∨ outcome.blind = true) :
    outcomes.length = outcomes.countP failed + outcomes.countP blind := by
  rw [List.length_eq_countP_add_countP failed, Nat.add_left_cancel_iff]
  refine List.countP_congr fun outcome member => ?_
  rw [decide_eq_true_iff]
  exact (blind_iff (each outcome member)).symm

end Outcome

namespace Follower

/-- What the counter of held ticks says about the outcomes so far: it counts the failed
computations since the last success, and no other ticks but blind ones came between. -/
structure Accounted (f : Follower α) (outcomes : List (Outcome α)) : Prop where
  begun : ∃ outcome ∈ outcomes, outcome.succeeded = true
  counted : (Outcome.sinceSuccess outcomes).countP Outcome.failed = f.held
  bounded : f.held ≤ f.settings.maxHold
  between : ∀ outcome ∈ Outcome.sinceSuccess outcomes,
    outcome.failed = true ∨ outcome.blind = true

namespace Accounted

variable {f g : Follower α} {outcomes : List (Outcome α)} {outcome : Outcome α}

theorem snoc (sound : f.Accounted outcomes)
    (fell : outcome.failed = true ∨ outcome.blind = true)
    (counted : g.held = f.held + if outcome.failed then 1 else 0)
    (bounded : g.held ≤ g.settings.maxHold) : g.Accounted (outcomes ++ [outcome]) := by
  have recent : Outcome.sinceSuccess (outcomes ++ [outcome]) =
      outcome :: Outcome.sinceSuccess outcomes := by
    rw [Outcome.sinceSuccess_snoc, Outcome.unsucceeded fell, if_neg Bool.false_ne_true]
  obtain ⟨success, member, succeeded⟩ := sound.begun
  refine ⟨⟨success, List.mem_append_left _ member, succeeded⟩, ?_, bounded, ?_⟩
  · rw [recent, List.countP_cons, sound.counted, counted]
  · rw [recent]
    exact List.forall_mem_cons.mpr ⟨fell, sound.between⟩

/-- A blind tick is not counted. -/
theorem blind (sound : f.Accounted outcomes) (blind : outcome.blind = true)
    (held : g.held = f.held) (settings : g.settings = f.settings) :
    g.Accounted (outcomes ++ [outcome]) := by
  refine sound.snoc (.inr blind) ?_ (by rw [held, settings]; exact sound.bounded)
  rw [if_neg ((Outcome.blind_iff (.inr blind)).mp blind), held, Nat.add_zero]

theorem failed (sound : f.Accounted outcomes) (failed : outcome.failed = true)
    (room : f.held < f.settings.maxHold) (held : g.held = f.held + 1)
    (settings : g.settings = f.settings) : g.Accounted (outcomes ++ [outcome]) := by
  refine sound.snoc (.inl failed) ?_ (by rw [held, settings]; exact room)
  rw [if_pos failed, held]

theorem succeeded (succeeded : outcome.succeeded = true) (held : g.held = 0) :
    g.Accounted (outcomes ++ [outcome]) := by
  have recent : Outcome.sinceSuccess (outcomes ++ [outcome]) = [] := by
    rw [Outcome.sinceSuccess_snoc, if_pos succeeded]
  refine ⟨⟨outcome, by simp, succeeded⟩, ?_, ?_, ?_⟩
  · rw [recent, held]; rfl
  · rw [held]; exact Nat.zero_le _
  · rw [recent]; exact nofun

end Accounted

/-- A tick that leaves a run with a command keeps the account. -/
theorem tick_accounted [Scalar α] {f : Follower α} {inputs : Inputs α}
    {outcomes : List (Outcome α)}
    (sound : f.done = false → f.command ≠ none → f.Accounted outcomes)
    (going : (f.tick inputs).1.done = false) (commanded : (f.tick inputs).1.command ≠ none) :
    (f.tick inputs).1.Accounted (outcomes ++ [f.outcome inputs]) := by
  -- Only three ways to go leave a run that goes on: the two blind ones, and a computation that
  -- did not end it.
  cases went : f.outcome inputs with
  | finished =>
    rw [tick_finished went] at going
    rw [outcome_finished_iff.mp went] at going
    cases going
  | waiting =>
    rw [tick_waiting went] at going commanded ⊢
    rw [sync_done] at going
    rw [sync_command] at commanded
    exact (sound going commanded).blind rfl (sync_held ..) (sync_settings ..)
  | arrived =>
    rw [tick_arrived went] at going
    cases going
  | interrupted fault =>
    rw [tick_interrupted went] at going commanded ⊢
    rw [aimed_done] at going
    rw [aimed_command] at commanded
    exact (sound going commanded).blind rfl (aimed_held ..) (aimed_settings ..)
  | computed tick =>
    have before : f.done = false := going_of_outcome (by rw [went]; exact nofun)
    obtain ⟨after, calls, notices, reaction, ticked⟩ := tick_computed went
    rw [ticked] at going commanded ⊢
    cases reaction with
    | drive ok => exact .succeeded (Outcome.succeeded_computed.mpr ok) rfl
    | complete => cases going
    | hold lost room =>
      dsimp only at commanded
      rw [aimed_command] at commanded
      rw [aimed_held, aimed_settings] at room
      refine (sound before commanded).failed ?_ room ?_ (aimed_settings f inputs tick.aim)
      · exact Outcome.failed_computed.mpr lost
      · dsimp only
        rw [aimed_held]
    | abort => cases going

end Follower

namespace ControlLoop

variable [Scalar α]

/-- While a run goes on with a command, the counter of held ticks accounts for the ticks
since the last success. -/
theorem accounted (settings : Settings α) (inputs : Inputs α) (events : List (Event α)) :
    let l := ControlLoop.new settings inputs
    (l.after events).follower.done = false → (l.after events).follower.command ≠ none →
      (l.after events).follower.Accounted (l.outcomes events) := by
  intro l
  induction events using List.reverseRecOn with
  | nil => simp [l, new, Follower.new]
  | append_singleton events event ih =>
    rw [after_snoc, outcomes_snoc]
    -- An event other than a tick leaves the account alone or leaves no command.
    cases event with
    | updatePose | replaceRoute => simpa [apply, outcome?] using ih
    | load => simp [apply_load, Follower.rearm]
    | tick => exact Follower.tick_accounted ih
    | estop =>
      rw [apply_estop]
      cases state : (l.after events).follower.done with
      | true => simp [Follower.estop_of_done _ state, state]
      | false => simp [Follower.estop_of_going _ state, Follower.finish]
    | resume =>
      rw [apply_resume]
      by_cases aborted : (l.after events).follower.phase = .aborted
      · simp [Follower.resume_of_aborted _ aborted, Follower.rearm]
      · simpa [Follower.resume_of_other _ aborted, outcome?] using ih

/-! ## How long the vehicle is driven -/

/-- Ticks without inputs, in a run that goes on, make no call. -/
theorem blind_ticks (l : ControlLoop α) (going : l.follower.done = false)
    (lacking : l.inputs.pose = none ∨ l.inputs.route = []) (n : Nat) :
    l.calls (List.replicate n .tick) = [] ∧
    l.outcomes (List.replicate n .tick) = List.replicate n .waiting := by
  -- A waiting tick may still take over a route, so the state is generalised.
  induction n generalizing l with
  | zero => exact ⟨rfl, rfl⟩
  | succ n ih =>
    have waiting := Follower.outcome_eq_waiting going lacking
    have ticked : l.apply .tick = (⟨l.follower.sync l.inputs, l.inputs⟩, .silent) := by
      rw [apply_tick, Follower.tick_waiting waiting]
    have rest := ih ⟨l.follower.sync l.inputs, l.inputs⟩ ((Follower.sync_done ..).trans going)
      lacking
    rw [List.replicate_succ, List.replicate_succ, calls_cons, outcomes, ticked, rest.1, rest.2,
      outcome?, waiting]
    exact ⟨rfl, rfl⟩

/-- Once the pose is lost, no number of ticks ends a drive. -/
theorem drive_unwatched (settings : Settings α) (inputs : Inputs α) (events : List (Event α))
    (command : Command α)
    (driving : (ControlLoop.new settings inputs).lastCall events = some (.drive command))
    (n : Nat) :
    let l := ControlLoop.new settings inputs
    let unwatched := events ++ .updatePose none :: List.replicate n .tick
    l.lastCall unwatched = some (.drive command) ∧
    Outcome.sinceSuccess (l.outcomes unwatched) =
      List.replicate n .waiting ++ Outcome.sinceSuccess (l.outcomes events) := by
  intro l unwatched
  obtain ⟨going, -⟩ := (lastCall_drive_iff settings inputs events command).mp driving
  obtain ⟨silent, waited⟩ :=
    blind_ticks ((l.after events).apply (.updatePose none)).1 going (.inl rfl) n
  constructor
  · rw [lastCall, calls_append, calls_cons, silent]
    simpa [apply, Report.silent, lastCall] using driving
  · rw [outcomes_append, outcomes, waited]
    exact Outcome.sinceSuccess_waiting _ n

theorem lastCall_onLeg {settings : Settings ℝ} {p x : ℝ} (near : |p| ≤ settings.distance)
    (beyond : settings.minimum < |p| ∨ settings.minimum < |x - p|) (apart : x ≠ p) :
    (Exact.onLeg settings x p).lastCall [.tick] =
      some (.drive ⟨settings.speed, settings.speed * 0⟩) := by
  rw [lastCall, calls_cons, Exact.apply_onLeg near beyond apart]
  rfl

/-- While the last call is a drive, the ticks since the last success are failed computations,
which never exceed the limit, and blind ticks. So they stay within the limit exactly if the
blind ones fit into what the failed ones leave of it. -/
theorem drive_bounded (settings : Settings α) (inputs : Inputs α) (events : List (Event α))
    (command : Command α)
    (driving : (ControlLoop.new settings inputs).lastCall events = some (.drive command)) :
    let outcomes := (ControlLoop.new settings inputs).outcomes events
    let recent := Outcome.sinceSuccess outcomes
    (∃ outcome ∈ outcomes, outcome.succeeded = true) ∧
    recent.length = recent.countP Outcome.failed + recent.countP Outcome.blind ∧
    recent.countP Outcome.failed ≤ settings.maxHold ∧
    (recent.length ≤ settings.maxHold ↔
      recent.countP Outcome.blind ≤ settings.maxHold - recent.countP Outcome.failed) := by
  intro outcomes recent
  obtain ⟨going, commanded⟩ := (lastCall_drive_iff settings inputs events command).mp driving
  have account := accounted settings inputs events going (by rw [commanded]; exact nofun)
  have failures : recent.countP Outcome.failed ≤ settings.maxHold := by
    have bound := account.bounded
    rw [after_settings] at bound
    rw [account.counted]
    exact bound
  have split := Outcome.length_eq_countP recent account.between
  refine ⟨account.begun, split, failures, ?_⟩
  rw [split]
  omega

theorem drive_bounded_on_leg :
    let l := Exact.onLeg (Exact.cruise 1) 10 0
    let events := [.tick, .updatePose none, .tick]
    let recent := Outcome.sinceSuccess (l.outcomes events)
    l.lastCall events = some (.drive ⟨1, 1 * 0⟩) ∧
    (∃ outcome ∈ l.outcomes events, outcome.succeeded = true) ∧
    recent.length = recent.countP Outcome.failed + recent.countP Outcome.blind ∧
    recent.countP Outcome.failed ≤ 1 ∧
    (recent.length ≤ 1 ↔ recent.countP Outcome.blind ≤ 1 - recent.countP Outcome.failed) := by
  intro l events recent
  have first : l.lastCall [.tick] = some (.drive ⟨1, 1 * 0⟩) :=
    lastCall_onLeg (by norm_num [Exact.cruise]) (.inr (by norm_num [Exact.cruise])) (by norm_num)
  have driving : l.lastCall events = some (.drive ⟨1, 1 * 0⟩) :=
    (drive_unwatched (Exact.cruise 1) _ [.tick] _ first 1).1
  exact ⟨driving, drive_bounded (Exact.cruise 1) _ events _ driving⟩

/-- With no tick to hold, a single tick without a pose leaves the vehicle driven beyond the
limit. -/
theorem drive_beyond_limit :
    let l := Exact.onLeg (Exact.cruise 0) 10 0
    let events := [.tick, .updatePose none, .tick]
    l.lastCall events = some (.drive ⟨1, 1 * 0⟩) ∧
    ¬ (Outcome.sinceSuccess (l.outcomes events)).length ≤ (Exact.cruise 0).maxHold := by
  intro l events
  have first : l.lastCall [.tick] = some (.drive ⟨1, 1 * 0⟩) :=
    lastCall_onLeg (by norm_num [Exact.cruise]) (.inr (by norm_num [Exact.cruise])) (by norm_num)
  obtain ⟨driving, recent⟩ := drive_unwatched (Exact.cruise 0) _ [.tick] _ first 1
  refine ⟨driving, ?_⟩
  rw [show Outcome.sinceSuccess (l.outcomes events) = _ from recent]
  simp [Exact.cruise]

end ControlLoop

/-! ## A stopped vehicle -/

/-- The events that can start a finished run again. -/
def Event.restarts : Event α → Bool
  | load _ | resume => true
  | _ => false

namespace ControlLoop

variable [Scalar α]

theorem apply_halted (l : ControlLoop α) (halted : l.follower.done = true) (event : Event α)
    (kept : event.restarts = false) :
    (l.apply event).1.follower = l.follower ∧
    ∀ command, .drive command ∉ (l.apply event).2.calls := by
  cases event with
  | updatePose | replaceRoute => exact ⟨rfl, nofun⟩
  | load | resume => cases kept
  | tick =>
    rw [apply_tick, Follower.tick_finished (Follower.outcome_finished_iff.mpr halted)]
    exact ⟨rfl, nofun⟩
  | estop =>
    rw [apply_estop]
    exact ⟨Follower.estop_of_done _ halted, by simp⟩

/-- A finished follower stays as it is and drives no more until it is started again. -/
theorem after_halted (l : ControlLoop α) (halted : l.follower.done = true) (events : List (Event α))
    (kept : ∀ event ∈ events, event.restarts = false) :
    (l.after events).follower = l.follower ∧ ∀ command, .drive command ∉ l.calls events := by
  induction events generalizing l with
  | nil => exact ⟨rfl, nofun⟩
  | cons event rest ih =>
    obtain ⟨same, silent⟩ := apply_halted l halted event (kept event List.mem_cons_self)
    obtain ⟨later, quiet⟩ := ih (l.apply event).1 (by rw [same]; exact halted)
      fun e member => kept e (List.mem_cons_of_mem _ member)
    refine ⟨later.trans same, fun command => ?_⟩
    rw [calls_cons, List.mem_append, not_or]
    exact ⟨silent command, quiet command⟩

/-- A completed run is left by a new route alone, an aborted one also by a resumption. -/
theorem leave_halted (l : ControlLoop α) (sound : l.follower.Consistent) (event : Event α) :
    (l.follower.phase = .completed → (l.apply event).1.follower.phase ≠ .completed →
      ∃ route, event = .load route) ∧
    (l.follower.phase = .aborted → (l.apply event).1.follower.phase ≠ .aborted →
      (∃ route, event = .load route) ∨ event = .resume) := by
  cases event with
  | load route => exact ⟨fun _ _ => ⟨route, rfl⟩, fun _ _ => .inl ⟨route, rfl⟩⟩
  | resume =>
    refine ⟨fun completed left => absurd ?_ left, fun _ _ => .inr rfl⟩
    have other : l.follower.phase ≠ .aborted := by rw [completed]; exact nofun
    rw [apply_resume, Follower.resume_of_other _ other]
    exact completed
  | _ =>
    refine ⟨fun completed left => absurd ?_ left, fun aborted left => absurd ?_ left⟩
    · rw [(apply_halted l (sound.done_iff.mpr (.inl completed)) _ rfl).1]
      exact completed
    · rw [(apply_halted l (sound.done_iff.mpr (.inr aborted)) _ rfl).1]
      exact aborted

/-- In every state of every run: the run is marked as done exactly if it is completed or
aborted; an idle, completed or aborted follower has stopped the vehicle; a follower that is
done sends no drive and keeps its phase whatever happens but a new route or a resumption, of
which the latter does nothing to a completed run. -/
theorem stop_safety (settings : Settings α) (inputs : Inputs α) (events : List (Event α)) :
    let start := ControlLoop.new settings inputs
    let l := start.after events
    (l.follower.done = true ↔ l.follower.phase = .completed ∨ l.follower.phase = .aborted) ∧
    (l.follower.phase ∈ [.idle, .completed, .aborted] →
      ∀ call, start.lastCall events = some call → call = .stop) ∧
    (l.follower.done = true → ∀ later, (∀ event ∈ later, event.restarts = false) →
      (∀ command, .drive command ∉ l.calls later) ∧
      (l.after later).follower.phase = l.follower.phase ∧ (l.after later).follower.done = true) ∧
    (∀ event, l.follower.phase = .completed → (l.apply event).1.follower.phase ≠ .completed →
      ∃ route, event = .load route) ∧
    (∀ event, l.follower.phase = .aborted → (l.apply event).1.follower.phase ≠ .aborted →
      (∃ route, event = .load route) ∨ event = .resume) := by
  intro start l
  have sound : l.follower.Consistent := after_consistent settings inputs events
  refine ⟨sound.done_iff, ?_, ?_, fun event => (leave_halted l sound event).1,
    fun event => (leave_halted l sound event).2⟩
  · intro resting call last
    cases call with
    | stop => rfl
    | drive command =>
      obtain ⟨going, commanded⟩ := (lastCall_drive_iff settings inputs events command).mp last
      have commanded : l.follower.command = some command := commanded
      have unfinished : ¬ (l.follower.phase = .completed ∨ l.follower.phase = .aborted) := by
        rw [← sound.done_iff, show l.follower.done = false from going]
        exact Bool.false_ne_true
      simp only [List.mem_cons, List.not_mem_nil, or_false] at resting
      rcases resting with idle | finished
      · -- An idle follower has no command.
        rw [sound.idle idle] at commanded
        cases commanded
      · exact absurd finished unfinished
  · intro halted later kept
    obtain ⟨same, quiet⟩ := after_halted l halted later kept
    exact ⟨quiet, by rw [same], by rw [same]; exact halted⟩

end ControlLoop
end PathTracking
