import PathTracking.Proofs.Tracking.Stretch

/-!
# Results of a computation

Status, curvature, aim, kind and miss of a result depend on each other. `Tick.WellFormed` says
how: the status tells which of the fields are there, and what route and pose were like. Each of
the four ways a computation ends with a result gives one of the lemmas below; the one that needs
the two distances of the configuration in order is the last index of a result without a valid
curve (`last_of_inside`).
-/
namespace PathTracking

variable {α : Type} [Scalar α]

/-- How the fields of a result depend on each other, on the route and on the configuration. -/
structure Tick.WellFormed (route : Route α) (pose : Pose α) (config : Lookahead α)
    (tick : Tick α) : Prop where
  pathLost : tick.status = .pathLost ↔ route = []
  unaimed : tick.aim.index = -1 ↔ route = []
  inside : route ≠ [] → 0 ≤ tick.aim.index ∧ tick.aim.index < route.length
  noValidCurve : tick.status = .noValidCurve ↔
    route ≠ [] ∧ ∀ w ∈ route, ¬ w.position.planeDistance pose.position > config.minimum
  last : tick.status = .noValidCurve → tick.aim.index = route.length - 1
  target : tick.aim.target.isSome = true ↔ tick.status = .ok
  kappa : tick.status ≠ .ok → tick.kappa = 0.0
  miss : tick.miss.isSome = true ↔ tick.status = .targetLost
  interpolated : tick.kind = some .interpolated →
    config.interpolate = true ∧ 0 < tick.aim.index ∧ tick.aim.index < route.length - 1
  raw : tick.kind = some .raw →
    ∃ i : Nat, ∃ w, tick.aim.index = i ∧ route[i]? = some w ∧ tick.aim.target = some w.position

namespace Route

variable {route : Route α} {pose : Pose α} {config : Lookahead α} {index : Nat}

theorem occupied_of_search {reach : α} (found : route.search pose reach = some index) :
    route ≠ [] := by
  rintro rfl
  cases found

theorem reachesBeyond_eq_false_iff {minimum : α} :
    route.reachesBeyond pose minimum = false ↔
      ∀ w ∈ route, ¬ w.position.planeDistance pose.position > minimum := by
  rw [reachesBeyond, List.any_eq_false]
  simp only [decide_eq_true_iff]

/-- The waypoint found is one of the route, so that a result with this index has an aim. -/
theorem index_of_search {reach : α} (found : route.search pose reach = some index) :
    ((index : Int) = -1 ↔ route = []) ∧
      (route ≠ [] → 0 ≤ (index : Int) ∧ (index : Int) < route.length) := by
  obtain ⟨within, -, -⟩ := search_spec found
  exact ⟨iff_of_false (by omega) (occupied_of_search found), fun _ => by omega⟩

/-- A route that reaches beyond the minimum distance has a waypoint there. -/
theorem not_inside_of_reaches {minimum : α}
    (reaches : route.reachesBeyond pose minimum = true) :
    ¬ ∀ w ∈ route, ¬ w.position.planeDistance pose.position > minimum := by
  rw [← reachesBeyond_eq_false_iff, reaches]
  exact Bool.noConfusion

/-- On a route within the minimum distance the search goes through to the last waypoint. -/
theorem last_of_inside (farther : ∀ d, d > config.distance → d > config.minimum)
    (found : route.search pose config.distance = some index)
    (inside : route.reachesBeyond pose config.minimum = false) : index + 1 = route.length := by
  obtain ⟨within, -, beyond⟩ := search_spec found
  by_contra short
  have inner : index + 1 < route.length := by omega
  have at_index : route[index]? = some route[index] := List.getElem?_eq_getElem within
  have far := farther _ (beyond _ inner at_index)
  exact reachesBeyond_eq_false_iff.mp inside _ (List.getElem_mem within) far

omit [Scalar α] in
theorem interpolate_of_kindAt (kind : route.kindAt config index = .interpolated) :
    config.interpolate = true := by
  simp [kindAt, TargetKind.choose] at kind
  exact kind.1.1

/-- A waypoint aimed at directly is its own target. -/
theorem target_raw {reach : α} {aimed : Except Miss (Point α)}
    (target : route.target index .raw pose reach = .ok aimed) :
    ∃ w, route[index]? = some w ∧ aimed = .ok w.position := by
  simp only [Route.target] at target
  split at target
  next w at_index => exact ⟨w, at_index, (Except.ok.inj target).symm⟩
  · cases target

/-! ## The ways to end -/

theorem wellFormed_pathLost : Tick.WellFormed [] pose config .pathLost where
  pathLost := iff_of_true rfl rfl
  unaimed := iff_of_true rfl rfl
  inside := absurd rfl
  noValidCurve := iff_of_false nofun fun occupied => occupied.1 rfl
  last := nofun
  target := iff_of_false nofun nofun
  kappa _ := rfl
  miss := iff_of_false nofun nofun
  interpolated := nofun
  raw := nofun

theorem wellFormed_noValidCurve (farther : ∀ d, d > config.distance → d > config.minimum)
    (found : route.search pose config.distance = some index)
    (inside : route.reachesBeyond pose config.minimum = false) :
    Tick.WellFormed route pose config (.noValidCurve index) := by
  have occupied := occupied_of_search found
  have last := last_of_inside farther found inside
  have curve : route ≠ [] ∧
      ∀ w ∈ route, ¬ w.position.planeDistance pose.position > config.minimum :=
    ⟨occupied, reachesBeyond_eq_false_iff.mp inside⟩
  exact {
    pathLost := iff_of_false nofun occupied
    unaimed := (index_of_search found).1
    inside := (index_of_search found).2
    noValidCurve := iff_of_true rfl curve
    last := fun _ => by simp only [Tick.noValidCurve]; omega
    target := iff_of_false nofun nofun
    kappa := fun _ => rfl
    miss := iff_of_false nofun nofun
    interpolated := nofun
    raw := nofun }

theorem wellFormed_targetLost {miss : Miss}
    (found : route.search pose config.distance = some index)
    (reaches : route.reachesBeyond pose config.minimum = true)
    (missed : route.target index (route.kindAt config index) pose config.distance =
      .ok (.error miss)) :
    Tick.WellFormed route pose config
      (.targetLost index (route.kindAt config index) miss) := by
  have occupied := occupied_of_search found
  obtain ⟨within, -, -⟩ := search_spec found
  exact {
    pathLost := iff_of_false nofun occupied
    unaimed := (index_of_search found).1
    inside := (index_of_search found).2
    noValidCurve := iff_of_false nofun fun curve => not_inside_of_reaches reaches curve.2
    last := nofun
    target := iff_of_false nofun nofun
    kappa := fun _ => rfl
    miss := iff_of_true rfl rfl
    interpolated := fun kind => by
      have kind := Option.some.inj kind
      have between := between_of_interpolated within kind
      refine ⟨interpolate_of_kindAt kind, ?_⟩
      simp only [Tick.targetLost]
      omega
    raw := fun kind => by
      -- A waypoint aimed at directly is never missed.
      rw [Option.some.inj kind] at missed
      obtain ⟨w, -, aimed⟩ := target_raw missed
      cases aimed }

theorem wellFormed_onTarget {target : Point α} {kappa : α}
    (found : route.search pose config.distance = some index)
    (reaches : route.reachesBeyond pose config.minimum = true)
    (aimed : route.target index (route.kindAt config index) pose config.distance =
      .ok (.ok target)) :
    Tick.WellFormed route pose config
      (.onTarget index target (route.kindAt config index) kappa) := by
  have occupied := occupied_of_search found
  obtain ⟨within, -, -⟩ := search_spec found
  exact {
    pathLost := iff_of_false nofun occupied
    unaimed := (index_of_search found).1
    inside := (index_of_search found).2
    noValidCurve := iff_of_false nofun fun curve => not_inside_of_reaches reaches curve.2
    last := nofun
    target := iff_of_true rfl rfl
    kappa := absurd rfl
    miss := iff_of_false nofun nofun
    interpolated := fun kind => by
      have kind := Option.some.inj kind
      have between := between_of_interpolated within kind
      refine ⟨interpolate_of_kindAt kind, ?_⟩
      simp only [Tick.onTarget]
      omega
    raw := fun kind => by
      rw [Option.some.inj kind] at aimed
      obtain ⟨w, at_index, found⟩ := target_raw aimed
      exact ⟨index, w, rfl, at_index, congrArg some (Except.ok.inj found)⟩ }

/-- Every result is well formed if what is beyond the lookahead distance is beyond the minimum. -/
theorem wellFormed_of_track (farther : ∀ d, d > config.distance → d > config.minimum)
    {tick : Tick α} (tracked : route.track pose config = .ok tick) :
    tick.WellFormed route pose config := by
  have course := route.track_course pose config
  rw [tracked] at course
  cases course with
  | pathLost empty => rw [empty]; exact wellFormed_pathLost
  | noValidCurve found inside => exact wellFormed_noValidCurve farther found inside
  | targetLost found reaches missed => exact wellFormed_targetLost found reaches missed
  | onTarget found reaches aimed => exact wellFormed_onTarget found reaches aimed

/-! ## On binary64 numbers -/

/-- Every result of a computation with a valid configuration is well formed, and there is one for
an empty route and for one that lies within the minimum distance. -/
theorem track_wellFormed (route : Route Float) (pose : Pose Float) (config : Lookahead Float)
    (valid : config.Valid) :
    (∀ tick, route.track pose config = .ok tick → tick.WellFormed route pose config) ∧
    (route = [] ∨ (∀ w ∈ route, ¬ w.position.planeDistance pose.position > config.minimum) →
      ∃ tick, route.track pose config = .ok tick) := by
  constructor
  · intro tick tracked
    exact wellFormed_of_track (fun _ => beyond_minimum valid) tracked
  · intro near
    by_cases occupied : route = []
    · rw [occupied]
      exact ⟨.pathLost, rfl⟩
    · have inside := reachesBeyond_eq_false_iff.mpr (near.resolve_left occupied)
      obtain ⟨index, tracked⟩ := track_of_inside config occupied inside
      exact ⟨_, tracked⟩

/-- A route of two waypoints within the minimum distance ends without a valid curve. -/
theorem track_wellFormed_near_end :
    let route : Route Float := [⟨0, 0, 0, none⟩, ⟨0.5, 0, 0, none⟩]
    let pose : Pose Float := ⟨0.25, 0, 0, 30⟩
    let config : Lookahead Float := ⟨3.5, 1, true⟩
    config.Valid ∧
    (∀ w ∈ route, ¬ w.position.planeDistance pose.position > config.minimum) ∧
    ∃ tick, route.track pose config = .ok tick ∧ tick.WellFormed route pose config := by
  intro route pose config
  have valid : config.Valid := ⟨by decide +kernel, by decide +kernel, by decide +kernel⟩
  have near : ∀ w ∈ route, ¬ w.position.planeDistance pose.position > config.minimum := by
    decide +kernel
  obtain ⟨wellFormed, returned⟩ := track_wellFormed route pose config valid
  obtain ⟨tick, tracked⟩ := returned (.inr near)
  exact ⟨valid, near, tick, tracked, wellFormed tick tracked⟩

end Route
end PathTracking
