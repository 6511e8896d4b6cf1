import PathTracking.Proofs.Follower.Holding

/-!
# Where a command comes from

A command belongs to a success: every drive is the one for the newest success of the run, whether
the tick that makes it has just had that success or repeats what stands (`calls_of_event`). Nothing
else that happens has a success, and all that it tells the vehicle is to stop. So the vehicle knows
of the newest success, also across loads and resumptions, after which the follower knows no
command. While it is tracking, the last result is that success (`last_of_tracking`).
-/
namespace PathTracking

variable {α : Type}

theorem Outcome.lastSuccess_append (first second : List (Outcome α)) :
    lastSuccess (first ++ second) = (lastSuccess second).or (lastSuccess first) := by
  simp only [lastSuccess, List.reverse_append, List.findSome?_append]

theorem Outcome.ok_of_success? {outcome : Outcome α} {tick : Tick α}
    (success : outcome.success? = some tick) : tick.status = .ok := by
  cases outcome with
  | computed other =>
    simp only [success?, Option.ite_none_right_eq_some] at success
    obtain ⟨ok, ⟨⟩⟩ := success
    exact ok
  | _ => cases success

variable [Scalar α]

namespace Follower

variable {f : Follower α} {inputs : Inputs α}

/-- A tick that succeeds drives by what it has computed. -/
theorem tick_success {tick : Tick α} (success : (f.outcome inputs).success? = some tick) :
    (f.tick inputs).2.calls = [.drive (f.commandFor tick)] ∧
      (f.tick inputs).1.last = some tick := by
  cases went : f.outcome inputs with
  | computed other =>
    simp only [went, Outcome.success?, Option.ite_none_right_eq_some] at success
    obtain ⟨ok, ⟨⟩⟩ := success
    rw [tick_driving went ok]
    exact ⟨rfl, rfl⟩
  | _ => simp [went, Outcome.success?] at success

/-- A tick that does not succeed tracks on only if it leaves the last result. -/
theorem tick_unsuccessful (unsuccessful : (f.outcome inputs).success? = none)
    (tracking : (f.tick inputs).1.phase = .tracking) :
    f.phase = .tracking ∧ (f.tick inputs).1.last = f.last := by
  cases went : f.outcome inputs with
  | finished =>
    rw [tick_finished went] at tracking ⊢
    exact ⟨tracking, rfl⟩
  | waiting =>
    rw [tick_waiting went] at tracking ⊢
    exact ⟨by simpa using tracking, sync_last ..⟩
  | arrived => rw [tick_arrived went] at tracking; cases tracking
  | interrupted =>
    rw [tick_interrupted went] at tracking ⊢
    exact ⟨by simpa using tracking, aimed_last ..⟩
  | computed tick =>
    obtain ⟨after, calls, notices, reaction, ticked⟩ := tick_computed went
    rw [ticked] at tracking
    cases reaction with
    | drive ok => rw [went, Outcome.success?_of_ok ok] at unsuccessful; cases unsuccessful
    | complete | hold | abort => cases tracking

end Follower

namespace ControlLoop

/-- The newest success of a run. -/
def newest (l : ControlLoop α) (events : List (Event α)) : Option (Tick α) :=
  Outcome.lastSuccess (l.outcomes events)

theorem newest_snoc (l : ControlLoop α) (events : List (Event α)) (event : Event α) :
    l.newest (events ++ [event]) =
      (((l.after events).outcome? event).bind Outcome.success?).or (l.newest events) := by
  rw [newest, outcomes_snoc]
  cases (l.after events).outcome? event with
  | none => simp [newest]
  | some outcome => exact Outcome.lastSuccess_snoc _ outcome

theorem ok_of_newest {l : ControlLoop α} {events : List (Event α)} {tick : Tick α}
    (newest : l.newest events = some tick) : tick.status = .ok := by
  obtain ⟨outcome, -, success⟩ := List.exists_of_findSome?_eq_some newest
  exact Outcome.ok_of_success? success

/-- The outcomes since the run was armed end those of the whole run. -/
theorem sinceArmed_suffix (l : ControlLoop α) (events : List (Event α)) :
    l.sinceArmed events <:+ l.outcomes events := by
  induction events using List.reverseRecOn with
  | nil => exact List.suffix_refl _
  | append_singleton events event ih =>
    rw [sinceArmed_snoc, outcomes_snoc]
    split
    · exact List.nil_suffix
    · obtain ⟨earlier, split⟩ := ih
      exact ⟨earlier, by rw [← split, List.append_assoc]⟩

variable (settings : Settings α) (inputs : Inputs α)

/-- A command that stands is the one for the newest success. -/
theorem command_newest (events : List (Event α)) {command : Command α} :
    let start := ControlLoop.new settings inputs
    (start.after events).follower.command = some command →
      ∃ tick, start.newest events = some tick ∧
        command = (start.after events).follower.commandFor tick := by
  intro start standing
  rw [(remembers settings inputs events).command, Option.map_eq_some_iff] at standing
  obtain ⟨tick, newest, same⟩ := standing
  obtain ⟨earlier, split⟩ := start.sinceArmed_suffix events
  refine ⟨tick, ?_, same.symm⟩
  rw [ControlLoop.newest, ← split, Outcome.lastSuccess_append, newest]
  rfl

/-- What an event tells the vehicle: to stop at most, and then it is no success, or the command
for the newest success of the run. -/
theorem calls_of_event (events : List (Event α)) (event : Event α) :
    let start := ControlLoop.new settings inputs
    let calls := ((start.after events).apply event).2.calls
    ((calls = [] ∨ calls = [.stop]) ∧ start.newest (events ++ [event]) = start.newest events) ∨
    ∃ tick, calls = [.drive ⟨settings.speed, settings.speed * tick.kappa⟩] ∧
      start.newest (events ++ [event]) = some tick := by
  intro start calls
  rw [newest_snoc]
  cases event with
  | updatePose | replaceRoute | resume => exact .inl ⟨.inl rfl, rfl⟩
  | load | estop => exact .inl ⟨.inr rfl, rfl⟩
  | tick =>
    have own (tick : Tick α) : (start.after events).follower.commandFor tick =
        ⟨settings.speed, settings.speed * tick.kappa⟩ := by
      rw [Follower.commandFor, after_settings]
      rfl
    simp only [outcome?, Option.bind_some]
    cases success :
        ((start.after events).follower.outcome (start.after events).inputs).success? with
    | some tick =>
      refine .inr ⟨tick, ?_, rfl⟩
      rw [← own]
      exact (Follower.tick_success success).1
    | none =>
      rw [Option.none_or]
      -- Without a success the tick may still repeat what stands.
      have single : calls.length ≤ 1 := Follower.tick_calls_le _ _
      cases made : calls with
      | nil => exact .inl ⟨.inl rfl, rfl⟩
      | cons call others =>
        obtain rfl : others = [] := by
          rw [made, List.length_cons] at single
          exact List.length_eq_zero_iff.mp (by omega)
        cases call with
        | stop => exact .inl ⟨.inr rfl, rfl⟩
        | drive command =>
          have driven : .drive command ∈ calls := by
            rw [made]
            exact List.mem_singleton_self _
          rcases Follower.tick_drive driven with ⟨tick, computed, -, ok, -⟩ | ⟨-, -, standing⟩
          · rw [computed, Outcome.success?_of_ok ok] at success
            cases success
          · obtain ⟨tick, newest, same⟩ := command_newest settings inputs events standing
            exact .inr ⟨tick, by rw [same, own], newest⟩

/-- While the follower is tracking, its last result is the newest success. -/
theorem last_of_tracking (events : List (Event α)) :
    let start := ControlLoop.new settings inputs
    (start.after events).follower.phase = .tracking →
      ∃ tick, (start.after events).follower.last = some tick ∧
        start.newest events = some tick := by
  intro start
  induction events using List.reverseRecOn with
  | nil => exact fun tracking => by cases tracking
  | append_singleton events event ih =>
    rw [after_snoc, newest_snoc]
    intro tracking
    -- Only a tick can begin to track; every other event leaves phase and result or ends tracking.
    cases event with
    | updatePose | replaceRoute => exact ih tracking
    | load => cases tracking
    | tick =>
      simp only [outcome?, Option.bind_some]
      cases success :
          ((start.after events).follower.outcome (start.after events).inputs).success? with
      | some tick => exact ⟨tick, (Follower.tick_success success).2, rfl⟩
      | none =>
        obtain ⟨before, same⟩ := Follower.tick_unsuccessful success tracking
        rw [apply_tick, same]
        exact ih before
    | estop =>
      rw [apply_estop] at tracking ⊢
      cases state : (start.after events).follower.done with
      | true =>
        rw [Follower.estop_of_done _ state] at tracking ⊢
        exact ih tracking
      | false => rw [Follower.estop_of_going _ state] at tracking; cases tracking
    | resume =>
      rw [apply_resume] at tracking ⊢
      by_cases aborted : (start.after events).follower.phase = .aborted
      · rw [Follower.resume_of_aborted _ aborted] at tracking; cases tracking
      · rw [Follower.resume_of_other _ aborted] at tracking ⊢
        exact ih tracking

end ControlLoop
end PathTracking
