import PathTracking.Proofs.Exact.Leg
import PathTracking.Proofs.Follower.Freshness

/-!
# Going on after an abort

Resuming sets back all that a new follower sets, except that the tracker keeps its aim: a tick
after an abort goes the way it would have gone without one (`outcome_estop_resume`). So a
resumed follower shows the same as a new one exactly unless the goal is found reached by an aim
from before the abort (`resume_fresh_iff`), and that aim is one at the end of the route
(`ArrivesFirst.aimsAtEnd`).
-/
namespace PathTracking

variable {α : Type} [Scalar α]

namespace Follower

/-- How a tick goes depends on the mark, the settings and the tracker with its revision. -/
theorem outcome_of_frame {f g : Follower α} (inputs : Inputs α) (done : g.done = f.done)
    (tracker : g.tracker = f.tracker) (revision : g.revision = f.revision)
    (settings : g.settings = f.settings) : g.outcome inputs = f.outcome inputs := by
  have synced : (g.sync inputs).tracker = (f.sync inputs).tracker :=
    sync_tracker_congr tracker revision
  have reached (pose : Pose α) :
      (g.sync inputs).reachedGoal pose inputs.route =
        (f.sync inputs).reachedGoal pose inputs.route := by
    unfold reachedGoal
    rw [synced, sync_settings, sync_settings, settings]
  unfold outcome
  simp only [done, synced, reached]

/-- An emergency stop that is taken back is nothing to the next tick. -/
theorem outcome_estop_resume {f : Follower α} (inputs : Inputs α) (going : f.done = false) :
    f.estop.1.resume.outcome inputs = f.outcome inputs := by
  rw [estop_of_going f going, resume_of_aborted _ rfl]
  exact outcome_of_frame inputs going.symm rfl rfl rfl

end Follower

namespace ControlLoop

/-- The next tick starts from an aim at the last waypoint of its route. -/
def AimsAtEnd (l : ControlLoop α) : Prop :=
  l.inputs.route ≠ [] ∧ l.aim.index = (l.inputs.route.length : Int) - 1

namespace AimsAtEnd

variable {l : ControlLoop α}

omit [Scalar α] in
theorem aimed (atEnd : l.AimsAtEnd) : l.aim ≠ .unset := by
  intro unset
  obtain ⟨occupied, index⟩ := atEnd
  have : 0 < l.inputs.route.length := List.length_pos_iff.mpr occupied
  simp only [unset, Aim.unset] at index
  omega

/-- Without a computation an aim at the end is an old one. -/
theorem of_apply (coherent : l.Coherent) (event : Event α)
    (uncomputed : ∀ tick, l.outcome? event ≠ some (.computed tick))
    (atEnd : (l.apply event).1.AimsAtEnd) : l.AimsAtEnd := by
  obtain ⟨aim, route, -⟩ := aim_kept coherent event atEnd.aimed uncomputed
  obtain ⟨occupied, index⟩ := atEnd
  rw [aim, route] at index
  rw [route] at occupied
  exact ⟨occupied, index⟩

theorem of_arrived (arrived : l.follower.outcome l.inputs = .arrived) : l.AimsAtEnd := by
  have course := l.follower.outcome_course l.inputs
  rw [arrived] at course
  cases course with
  | arrived _ _ occupied reached =>
    obtain ⟨-, -, index, -⟩ := Follower.reachedGoal_iff.mp reached
    exact ⟨occupied, index⟩

end AimsAtEnd

/-- What arrives before it computes has aimed at the end from the start. -/
theorem ArrivesFirst.aimsAtEnd {l : ControlLoop α} (coherent : l.Coherent)
    {events : List (Event α)} (arrives : l.ArrivesFirst events) : l.AimsAtEnd := by
  induction events generalizing l with
  | nil => cases arrives
  | cons event rest ih =>
    rw [ArrivesFirst] at arrives
    split at arrives
    next arrived =>
      cases event with
      | tick => exact .of_arrived (Option.some.inj arrived)
      | _ => cases arrived
    · cases arrives
    next uncomputed =>
      -- Nothing has been computed yet, so the aim that arrives later is there already.
      refine .of_apply coherent event uncomputed ?_
      exact ih (l.apply_coherent event coherent) arrives

/-- A tick that arrives after events without a computation arrives first. -/
theorem arrivesFirst_snoc {l : ControlLoop α} {events : List (Event α)}
    (uncomputed : ∀ tick, .computed tick ∉ l.outcomes events)
    (arrived : (l.after events).follower.outcome (l.after events).inputs = .arrived) :
    l.ArrivesFirst (events ++ [.tick]) := by
  induction events generalizing l with
  | nil =>
    have arrived : l.outcome? .tick = some .arrived := congrArg some arrived
    rw [List.nil_append, ArrivesFirst, arrived]
    trivial
  | cons event rest ih =>
    rw [List.cons_append, ArrivesFirst]
    split
    · trivial
    next tick computed =>
      refine uncomputed tick (List.mem_append_left _ ?_)
      rw [computed]
      exact List.mem_singleton.mpr rfl
    · exact ih (fun tick member => uncomputed tick (List.mem_append_right _ member)) arrived

/-! ## A resumed follower beside a new one -/

theorem resume_alike {l : ControlLoop α} {settings : Settings α} (coherent : l.Coherent)
    (made : l.follower.settings = settings) (aborted : l.follower.phase = .aborted) :
    (l.apply .resume).1.Alike (ControlLoop.new settings l.inputs) where
  left := l.apply_coherent _ coherent
  right := new_coherent _ _
  agrees := by
    rw [apply_resume, Follower.resume_of_aborted _ aborted]
    exact ⟨made, rfl, rfl, rfl, rfl⟩
  route := rfl
  pose := rfl

theorem resume_aim {l : ControlLoop α} (coherent : l.Coherent) :
    (l.apply .resume).1.aim = l.aim := by
  rw [aim_apply coherent]
  rfl

/-- In every run that is aborted, resuming leaves a follower that looks like a new one with the
same settings on the same inputs, and it shows the same as that one whatever happens afterwards,
exactly unless a tick completes the run by the goal check before a tick has computed. Only an
aim at the end of the route, left from before the abort, can do that. Unless it does, the first
tick that is not skipped computes from the inputs. -/
theorem resume_fresh_iff (settings : Settings α) (inputs : Inputs α)
    (before later : List (Event α))
    (aborted : ((ControlLoop.new settings inputs).after before).follower.phase = .aborted) :
    let l := (ControlLoop.new settings inputs).after before
    let resumed := (l.apply .resume).1
    let fresh := ControlLoop.new settings l.inputs
    resumed.follower.phase = fresh.follower.phase ∧
    resumed.follower.done = fresh.follower.done ∧
    (resumed.observe later = fresh.observe later ↔ ¬ resumed.ArrivesFirst later) ∧
    (resumed.ArrivesFirst later → l.AimsAtEnd) ∧
    let k := resumed.after later
    (∀ pose, k.follower.done = false → k.inputs.pose = some pose → k.inputs.route ≠ [] →
      (∀ tick, .computed tick ∉ resumed.outcomes later) →
      ¬ resumed.ArrivesFirst (later ++ [.tick]) →
      (k.apply .tick).2.result = (k.inputs.route.track pose settings.toLookahead).map some) := by
  intro l resumed fresh
  have coherent : l.Coherent := after_coherent settings inputs before
  have made : l.follower.settings = settings := after_settings _ before
  have alike : resumed.Alike fresh := resume_alike coherent made aborted
  refine ⟨alike.agrees.phase, alike.agrees.done, ?_, ?_, ?_⟩
  · exact observe_eq_iff alike (new_aim settings l.inputs) later
  · intro arrives
    obtain ⟨occupied, index⟩ := arrives.aimsAtEnd alike.left
    rw [resume_aim coherent] at index
    exact ⟨occupied, index⟩
  · intro k pose going posed occupied uncomputed pending
    have unreached : (k.follower.sync k.inputs).reachedGoal pose k.inputs.route = false := by
      rw [Bool.eq_false_iff]
      intro reached
      exact pending (arrivesFirst_snoc uncomputed
        (Follower.outcome_eq_arrived going posed occupied reached))
    have result := (after_invariant resumed apply_coherent alike.left later).result
      going posed occupied unreached
    rw [result, after_settings, apply_settings, made]

/-! ## On a leg of three metres -/

section Leg

open Exact

/-- The run that has aimed at the end of the leg, with the vehicle at the point `p`. -/
noncomputable def driven (p : ℝ) : ControlLoop ℝ :=
  (onLeg (cruise 5) 3 0).after [.tick, .updatePose (some (onAxis p))]

theorem driven_follower (p : ℝ) :
    (driven p).follower = ((onLeg (cruise 5) 3 0).apply .tick).1.follower := rfl

theorem driven_going (p : ℝ) : (driven p).follower.done = false := by
  have near : |(0 : ℝ)| ≤ (cruise 5).distance := by norm_num [cruise]
  have beyond : (cruise 5).minimum < |(0 : ℝ)| ∨ (cruise 5).minimum < |(3 : ℝ) - 0| := by
    norm_num [cruise]
  rw [driven_follower, apply_onLeg near beyond (by norm_num)]
  rfl

theorem driven_arrives_iff (p : ℝ) :
    (driven p).follower.outcome (driven p).inputs = .arrived ↔ |p - 3| ≤ 1 := by
  constructor
  · intro arrived
    have course := (driven p).follower.outcome_course (driven p).inputs
    rw [arrived] at course
    cases course with
    | arrived _ posed _ reached =>
      obtain ⟨goal, ending, -, near⟩ := Follower.reachedGoal_iff.mp reached
      cases posed
      cases ending
      rw [Follower.sync_settings, driven_follower, apply_settings] at near
      exact (planeDistance_axis p 3 0 0).ge.trans near
  · intro near
    exact outcome_at_end (by norm_num [cruise]) (.inr (by norm_num [cruise])) (by norm_num) near

theorem driven_aborted (p : ℝ) : ((driven p).after [.estop]).follower.phase = .aborted := by
  rw [after_cons, after_nil, apply_estop, Follower.estop_of_going _ (driven_going p)]
  rfl

/-- Stopped and resumed, the run arrives where it would have arrived. -/
theorem driven_resumed_arrives_iff (p : ℝ) :
    ((driven p).after [.estop, .resume]).ArrivesFirst [.tick] ↔ |p - 3| ≤ 1 := by
  have outcome : ((driven p).after [.estop, .resume]).outcome? .tick =
      some ((driven p).follower.outcome (driven p).inputs) :=
    congrArg some (Follower.outcome_estop_resume _ (driven_going p))
  rw [← driven_arrives_iff, ArrivesFirst, outcome]
  cases (driven p).follower.outcome (driven p).inputs <;> simp [ArrivesFirst]

/-- With the vehicle back at the start of the leg the run shows the same after an abort as a new
one. -/
theorem resume_fresh_at_start :
    let l := (onLeg (cruise 5) 3 0).after [.tick, .updatePose (some (onAxis 0)), .estop]
    l.follower.phase = .aborted ∧
    (l.apply .resume).1.observe [.tick] =
      (ControlLoop.new (cruise 5) l.inputs).observe [.tick] := by
  intro l
  have aborted : l.follower.phase = .aborted := driven_aborted 0
  obtain ⟨-, -, fresh, -⟩ := resume_fresh_iff (cruise 5) (.new (leg 3) (some (onAxis 0)))
    [.tick, .updatePose (some (onAxis 0)), .estop] [.tick] aborted
  refine ⟨aborted, fresh.mpr fun arrives => ?_⟩
  have near : |(0 : ℝ) - 3| ≤ 1 := (driven_resumed_arrives_iff 0).mp arrives
  norm_num at near

/-- Half a metre before the end of the leg the resumed run completes at once, by the aim from
before the abort, and a new one drives on. -/
theorem resume_stale_near_end :
    let l := (onLeg (cruise 5) 3 0).after [.tick, .updatePose (some (onAxis 2.5)), .estop]
    l.follower.phase = .aborted ∧
    (l.apply .resume).1.observe [.tick] ≠
      (ControlLoop.new (cruise 5) l.inputs).observe [.tick] := by
  intro l
  have coherent : l.Coherent := after_coherent (cruise 5) _ _
  have aborted : l.follower.phase = .aborted := driven_aborted 2.5
  have alike := resume_alike coherent (after_settings _ _) aborted
  refine ⟨aborted, fun same => ?_⟩
  have pending := (observe_eq_iff alike (new_aim _ _) [.tick]).mp same
  exact pending ((driven_resumed_arrives_iff 2.5).mpr (by norm_num [abs_le]))

end Leg

end ControlLoop
end PathTracking
