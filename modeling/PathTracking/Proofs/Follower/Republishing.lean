import PathTracking.Proofs.Exact.Leg
import PathTracking.Proofs.Follower.Observation

/-!
# Republishing a route

A route that is published again, though it has not changed, makes the tracker drop its aim at
the next tick. This shows exactly if that aim would have completed the run: the goal counts as
reached only once the tracker aims at it, so the follower has to compute once more.
-/
namespace PathTracking.ControlLoop

variable {α : Type} [Scalar α]

theorem replaceRoute_alike {l : ControlLoop α} (coherent : l.Coherent) :
    l.Alike (l.apply (.replaceRoute l.inputs.route)).1 where
  left := coherent
  right := l.apply_coherent _ coherent
  agrees := ⟨rfl, rfl, rfl, rfl, rfl⟩
  route := rfl
  pose := rfl

/-- From a coherent state on, the route published again does not show exactly if the run
without it does not arrive before it computes. -/
theorem observe_replaceRoute {l : ControlLoop α} (coherent : l.Coherent)
    (events : List (Event α)) :
    (l.apply (.replaceRoute l.inputs.route)).1.observe events = l.observe events ↔
      ¬ l.ArrivesFirst events := by
  rw [eq_comm]
  refine observe_eq_iff (replaceRoute_alike coherent) ?_ events
  rw [aim_apply coherent]
  rfl

/-- In every run and at every place in it, publishing the current route again does nothing to
the follower and calls nothing. It leaves all other observations as they are exactly if no
later tick of the run without it completes by the goal check before a tick has computed. -/
theorem republish_unobserved_iff (settings : Settings α) (inputs : Inputs α)
    (before later : List (Event α)) :
    let start := ControlLoop.new settings inputs
    let l := start.after before
    let republish : Event α := .replaceRoute l.inputs.route
    (l.apply republish).1.follower = l.follower ∧ (l.apply republish).2.calls = [] ∧
    ((start.observe (before ++ republish :: later)).eraseIdx before.length =
        start.observe (before ++ later) ↔
      ¬ l.ArrivesFirst later) := by
  intro start l republish
  refine ⟨rfl, rfl, ?_⟩
  rw [eraseIdx_observe, observe_append, List.append_cancel_left_eq]
  exact observe_replaceRoute (after_coherent settings inputs before) later

/-- On a leg of three metres, with the vehicle half a metre before its end, the run without
the second publication completes at once and the one with it drives on. -/
theorem republish_observed_at_goal :
    let start := Exact.onLeg (Exact.cruise 5) 3 0
    let before : List (Event ℝ) := [.tick, .updatePose (some (Exact.onAxis 2.5))]
    let republish : Event ℝ := .replaceRoute (start.after before).inputs.route
    (start.observe (before ++ republish :: [.tick])).eraseIdx before.length ≠
      start.observe (before ++ [.tick]) := by
  intro start before republish
  have coherent : (start.after before).Coherent := after_coherent (Exact.cruise 5) _ before
  have arrives : (start.after before).ArrivesFirst [.tick] := by
    have arrived : (start.after before).follower.outcome (start.after before).inputs = .arrived :=
      Exact.outcome_at_end (by norm_num [Exact.cruise]) (.inr (by norm_num [Exact.cruise]))
        (by norm_num) (by norm_num [Exact.cruise, abs_le])
    rw [ArrivesFirst, outcome?, arrived]
    trivial
  rw [eraseIdx_observe, observe_append, Ne, List.append_cancel_left_eq,
    observe_replaceRoute coherent]
  exact not_not_intro arrives

end PathTracking.ControlLoop
