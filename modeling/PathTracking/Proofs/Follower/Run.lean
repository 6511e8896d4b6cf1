import Mathlib.Data.List.Induction
import PathTracking.Proofs.Follower.Outcome

/-!
# Runs of the control loop

The states, calls and tick outcomes along a run, and how one more event extends them. A
property of runs is proved by induction from the last event: `after_snoc`, `calls_snoc`
and `outcomes_snoc` say what that event adds.
-/
namespace PathTracking.ControlLoop

variable {α : Type} [Scalar α]

/-- The state after a sequence of events. -/
def after (l : ControlLoop α) (events : List (Event α)) : ControlLoop α := (l.run events).1

/-- The calls that the sink receives during a sequence of events. -/
def calls (l : ControlLoop α) (events : List (Event α)) : List (Call α) :=
  (l.run events).2.flatMap Report.calls

/-- The outcome of an event, if it is a tick. -/
def outcome? (l : ControlLoop α) : Event α → Option (Outcome α)
  | .tick => some (l.follower.outcome l.inputs)
  | _ => none

/-- The outcomes of the ticks among a sequence of events. -/
def outcomes (l : ControlLoop α) : List (Event α) → List (Outcome α)
  | [] => []
  | event :: rest => (l.outcome? event).toList ++ (l.apply event).1.outcomes rest

section Events

variable (l : ControlLoop α)

@[simp] theorem after_nil : l.after [] = l := rfl

@[simp] theorem after_cons (event : Event α) (rest : List (Event α)) :
    l.after (event :: rest) = (l.apply event).1.after rest := rfl

@[simp] theorem calls_nil : l.calls [] = [] := rfl

@[simp] theorem calls_cons (event : Event α) (rest : List (Event α)) :
    l.calls (event :: rest) = (l.apply event).2.calls ++ (l.apply event).1.calls rest := rfl

theorem after_append (first second : List (Event α)) :
    l.after (first ++ second) = (l.after first).after second := by
  induction first generalizing l with
  | nil => rfl
  | cons event rest ih => exact ih (l.apply event).1

theorem calls_append (first second : List (Event α)) :
    l.calls (first ++ second) = l.calls first ++ (l.after first).calls second := by
  induction first generalizing l with
  | nil => rfl
  | cons event rest ih =>
    rw [List.cons_append, calls_cons, ih, calls_cons, after_cons, List.append_assoc]

theorem outcomes_append (first second : List (Event α)) :
    l.outcomes (first ++ second) = l.outcomes first ++ (l.after first).outcomes second := by
  induction first generalizing l with
  | nil => rfl
  | cons event rest ih =>
    rw [List.cons_append, outcomes, ih, outcomes, after_cons, List.append_assoc]

theorem after_snoc (events : List (Event α)) (event : Event α) :
    l.after (events ++ [event]) = ((l.after events).apply event).1 :=
  l.after_append events [event]

theorem calls_snoc (events : List (Event α)) (event : Event α) :
    l.calls (events ++ [event]) = l.calls events ++ ((l.after events).apply event).2.calls := by
  rw [calls_append, calls_cons, calls_nil, List.append_nil]

theorem outcomes_snoc (events : List (Event α)) (event : Event α) :
    l.outcomes (events ++ [event]) =
      l.outcomes events ++ ((l.after events).outcome? event).toList := by
  rw [outcomes_append, outcomes, outcomes, List.append_nil]

/-- What every event preserves holds after every run. -/
theorem after_invariant {P : ControlLoop α → Prop}
    (preserved : ∀ l event, P l → P (l.apply event).1)
    (initial : P l) (events : List (Event α)) : P (l.after events) := by
  induction events generalizing l with
  | nil => exact initial
  | cons event rest ih => exact ih (l.apply event).1 (preserved l event initial)

end Events

/-! ## Single events -/

section Apply

variable (l : ControlLoop α)

theorem apply_tick :
    l.apply .tick =
      (⟨(l.follower.tick l.inputs).1, l.inputs⟩, (l.follower.tick l.inputs).2) := rfl

theorem apply_estop :
    l.apply .estop = (⟨l.follower.estop.1, l.inputs⟩, ⟨.ok none, [.stop], []⟩) := rfl

theorem apply_resume : l.apply .resume = (⟨l.follower.resume, l.inputs⟩, .silent) := rfl

theorem apply_load (route : Route α) :
    l.apply (.load route) =
      (⟨l.follower.rearm, l.inputs.replaceRoute route⟩,
        ⟨.ok none, [.stop], [.loadedPath route.length]⟩) := rfl

/-- The settings are those the loop was made with. -/
@[simp] theorem apply_settings (event : Event α) :
    (l.apply event).1.follower.settings = l.follower.settings := by
  cases event with
  | updatePose | replaceRoute | load => rfl
  | estop => exact l.follower.estop_frame.2.2.1
  | resume => exact l.follower.resume_frame.2.2.1
  | tick =>
    rw [apply_tick]
    cases went : l.follower.outcome l.inputs with
    | finished => rw [Follower.tick_finished went]
    | waiting => rw [Follower.tick_waiting went]; exact Follower.sync_settings ..
    | arrived => rw [Follower.tick_arrived went]; exact Follower.sync_settings ..
    | interrupted fault => rw [Follower.tick_interrupted went]; exact Follower.aimed_settings ..
    | computed tick =>
      obtain ⟨after, calls, notices, reaction, ticked⟩ := Follower.tick_computed went
      rw [ticked]
      cases reaction <;> exact Follower.aimed_settings l.follower l.inputs tick.aim

@[simp] theorem after_settings (events : List (Event α)) :
    (l.after events).follower.settings = l.follower.settings := by
  induction events generalizing l with
  | nil => rfl
  | cons event rest ih => rw [after_cons, ih, apply_settings]

end Apply

end PathTracking.ControlLoop
