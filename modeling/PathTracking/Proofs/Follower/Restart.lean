import PathTracking.Proofs.Follower.Observation

/-!
# Starting over

A loaded route drops the aim and sets everything back that a later tick reads, so the follower
goes on as a new one on the same inputs would. What it keeps beside, the pose in the tracker,
the revision it knows and the last result, is replaced before it is read again: `Alike` is the
agreement in all the rest, and `observe_congr` carries it along a run.
-/
namespace PathTracking.ControlLoop

variable {α : Type} [Scalar α]

theorem load_aim {l : ControlLoop α} (coherent : l.Coherent) (route : Route α) :
    (l.apply (.load route)).1.aim = .unset := by
  rw [aim_apply coherent]
  rfl

/-- After a route is loaded, the loop agrees with a new one in all but its memory. -/
theorem load_alike {l : ControlLoop α} (coherent : l.Coherent) (route : Route α) :
    (l.apply (.load route)).1.Alike
      (ControlLoop.new l.follower.settings (.new route l.inputs.pose)) where
  left := l.apply_coherent _ coherent
  right := new_coherent _ _
  agrees := ⟨rfl, rfl, rfl, rfl, rfl⟩
  route := rfl
  pose := rfl

/-- In every state of every run, loading a route leaves a follower that looks like a new one
with the same settings on the new route and the current pose, and that shows the same as that
one whatever happens afterwards. -/
theorem load_starts_over (settings : Settings α) (inputs : Inputs α) (before : List (Event α))
    (route : Route α) (later : List (Event α)) :
    let l := (ControlLoop.new settings inputs).after before
    let loaded := (l.apply (.load route)).1
    let fresh := ControlLoop.new settings (.new route l.inputs.pose)
    loaded.follower.phase = fresh.follower.phase ∧ loaded.follower.done = fresh.follower.done ∧
    loaded.observe later = fresh.observe later := by
  intro l loaded fresh
  have coherent : l.Coherent := after_coherent settings inputs before
  have alike : loaded.Alike fresh := by
    have alike := load_alike coherent route
    rwa [show l.follower.settings = settings from after_settings _ before] at alike
  have unaimed : loaded.aim = .unset := load_aim coherent route
  refine ⟨alike.agrees.phase, alike.agrees.done, observe_congr alike ?_ ?_ later⟩
  · rw [unaimed, new_aim]
  · -- Without an aim the last results are not read.
    intro aimed
    exact absurd unaimed aimed

end PathTracking.ControlLoop
