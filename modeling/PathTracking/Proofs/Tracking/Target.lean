import PathTracking.Tracking.Tick

/-!
# The waypoint aimed at and its target

What the search for a waypoint guarantees (`search_spec`), what a tracking computation comes to
once the search and the target are known, and how it can go at all (`track_course`).
-/
namespace PathTracking

/-- What is checked of a configuration. -/
structure Lookahead.Valid {α : Type} [Scalar α] (config : Lookahead α) : Prop where
  distance : config.distance > 0.0
  minimum : config.minimum > 0.0
  inOrder : ¬ config.minimum > config.distance

namespace Route

variable {α : Type} [Scalar α]

/-! ## The search -/

theorem firstBeyond_lt (here : Point α) (reach : α) (route : Route α) (occupied : route ≠ []) :
    route.firstBeyond here reach < route.length := by
  fun_induction firstBeyond here reach route with
  | case1 => exact absurd rfl occupied
  | case2 w => simp
  | case3 w rest more beyond => simp
  | case4 w rest more inside ih =>
    have := ih more
    rw [List.length_cons]
    omega

/-- The waypoints before the one found are within reach. -/
theorem not_beyond_of_lt_firstBeyond (here : Point α) (reach : α) (route : Route α) {j : Nat}
    {w : Waypoint α} (earlier : j < route.firstBeyond here reach) (at_j : route[j]? = some w) :
    ¬ w.position.planeDistance here > reach := by
  fun_induction firstBeyond here reach route generalizing j with
  | case1 => cases earlier
  | case2 v => cases earlier
  | case3 v rest more beyond => cases earlier
  | case4 v rest more inside ih =>
    cases j with
    | zero =>
      cases at_j
      exact inside
    | succ j => exact ih (by omega) at_j

/-- The waypoint found is out of reach, unless it is the last one. -/
theorem beyond_of_firstBeyond (here : Point α) (reach : α) (route : Route α) {w : Waypoint α}
    (inner : route.firstBeyond here reach + 1 < route.length)
    (found : route[route.firstBeyond here reach]? = some w) :
    w.position.planeDistance here > reach := by
  fun_induction firstBeyond here reach route with
  | case1 => cases inner
  | case2 v => simp at inner
  | case3 v rest more beyond =>
    cases found
    exact beyond
  | case4 v rest more inside ih =>
    rw [List.length_cons] at inner
    exact ih (by omega) found

/-- The search finds the first waypoint out of reach, or the last one. -/
theorem search_spec {route : Route α} {pose : Pose α} {reach : α} {i : Nat}
    (found : route.search pose reach = some i) :
    i < route.length ∧
    (∀ j w, j < i → route[j]? = some w → ¬ w.position.planeDistance pose.position > reach) ∧
    (∀ w, i + 1 < route.length → route[i]? = some w →
      w.position.planeDistance pose.position > reach) := by
  unfold search at found
  split at found
  · cases found
  next occupied =>
    cases found
    refine ⟨firstBeyond_lt _ _ route (by simpa using occupied), ?_, ?_⟩
    · intro j w earlier at_j
      exact not_beyond_of_lt_firstBeyond _ _ route earlier at_j
    · intro w inner at_i
      exact beyond_of_firstBeyond _ _ route inner at_i

/-- The search stops at the first waypoint out of reach, if it is not the last one. -/
theorem firstBeyond_eq {here : Point α} {reach : α} {route : Route α} {j : Nat} {w : Waypoint α}
    (inner : j + 1 < route.length)
    (nearer : ∀ m v, m < j → route[m]? = some v → ¬ v.position.planeDistance here > reach)
    (at_j : route[j]? = some w) (beyond : w.position.planeDistance here > reach) :
    route.firstBeyond here reach = j := by
  fun_induction firstBeyond here reach route generalizing j with
  | case1 => cases inner
  | case2 v => simp at inner
  | case3 v rest more far =>
    cases j with
    | zero => rfl
    | succ j => exact absurd far (nearer 0 v (by omega) rfl)
  | case4 v rest more close ih =>
    cases j with
    | zero =>
      cases at_j
      exact absurd beyond close
    | succ j =>
      rw [List.length_cons] at inner
      congr 1
      exact ih (by omega) (fun m u earlier at_m => nearer (m + 1) u (by omega) at_m) at_j

theorem search_of_occupied {route : Route α} (pose : Pose α) (reach : α) (occupied : route ≠ []) :
    route.search pose reach = some (route.firstBeyond pose.position reach) := by
  rw [search, if_neg (by simpa using occupied)]

/-- The search reads nothing but distances. -/
theorem firstBeyond_map (f : Waypoint α → Waypoint α) {here there : Point α}
    (same : ∀ w, (f w).position.planeDistance there = w.position.planeDistance here) (reach : α)
    (route : Route α) :
    firstBeyond there reach (route.map f) = route.firstBeyond here reach := by
  induction route with
  | nil => rfl
  | cons w rest ih =>
    cases rest with
    | nil => rfl
    | cons v rest =>
      simp only [List.map_cons, firstBeyond, same] at ih ⊢
      rw [ih]

theorem reachesBeyond_of_getElem? {route : Route α} {pose : Pose α} {minimum : α} {i : Nat}
    {w : Waypoint α} (at_i : route[i]? = some w)
    (beyond : w.position.planeDistance pose.position > minimum) :
    route.reachesBeyond pose minimum = true := by
  rw [reachesBeyond, List.any_eq_true]
  exact ⟨w, List.mem_of_getElem? at_i, decide_eq_true beyond⟩

/-! ## The computation -/

section Track

variable {route : Route α} {pose : Pose α} {config : Lookahead α} {index : Nat}

/-- The kind of target for a waypoint under a configuration. -/
def kindAt (route : Route α) (config : Lookahead α) (index : Nat) : TargetKind :=
  .choose route.length index config.interpolate

/-- With a waypoint found and the route reaching far enough, what is left is the target and the
curvature to it. -/
theorem track_reaching (found : route.search pose config.distance = some index)
    (reaches : route.reachesBeyond pose config.minimum = true) :
    route.track pose config = (do
      match ← route.target index (route.kindAt config index) pose config.distance with
      | .error miss => return .targetLost index (route.kindAt config index) miss
      | .ok target =>
        return .onTarget index target (route.kindAt config index)
          (← pose.curvatureTo target saturation)) := by
  simp only [track, found, reaches, Bool.not_true, Bool.false_eq_true, if_false]
  rfl

theorem track_pathLost (lost : route.search pose config.distance = none) :
    route.track pose config = .ok .pathLost := by
  simp only [track, lost]

theorem track_noValidCurve (found : route.search pose config.distance = some index)
    (inside : route.reachesBeyond pose config.minimum = false) :
    route.track pose config = .ok (.noValidCurve index) := by
  simp only [track, found, inside, Bool.not_false, if_true]

theorem track_onTarget {target : Point α} {kappa : α}
    (found : route.search pose config.distance = some index)
    (reaches : route.reachesBeyond pose config.minimum = true)
    (aimed : route.target index (route.kindAt config index) pose config.distance =
      .ok (.ok target))
    (steered : pose.curvatureTo target saturation = .ok kappa) :
    route.track pose config = .ok (.onTarget index target (route.kindAt config index) kappa) := by
  rw [track_reaching found reaches, aimed]
  dsimp only [bind, Except.bind]
  rw [steered]
  rfl

theorem track_targetLost {miss : Miss}
    (found : route.search pose config.distance = some index)
    (reaches : route.reachesBeyond pose config.minimum = true)
    (missed : route.target index (route.kindAt config index) pose config.distance =
      .ok (.error miss)) :
    route.track pose config = .ok (.targetLost index (route.kindAt config index) miss) := by
  rw [track_reaching found reaches, missed]
  rfl

omit [Scalar α] in
/-- A target is looked for on a segment only between the ends of a route. -/
theorem between_of_interpolated (inside : index < route.length)
    (kind : route.kindAt config index = .interpolated) : 0 < index ∧ index + 1 < route.length := by
  simp [kindAt, TargetKind.choose] at kind
  omega

omit [Scalar α] in
/-- Away from both ends of a route its length does not decide about the kind of target. -/
theorem kindAt_between (first : 0 < index) (last : index + 1 < route.length) :
    route.kindAt config index = if config.interpolate then .interpolated else .raw := by
  have start : ¬ index = 0 := by omega
  have finish : ¬ (index : Int) = route.length - 1 := by omega
  cases interpolating : config.interpolate <;>
    simp [kindAt, TargetKind.choose, interpolating, start, finish]

omit [Scalar α] in
theorem kindAt_inner (first : 0 < index) (last : index + 1 < route.length)
    (interpolating : config.interpolate = true) : route.kindAt config index = .interpolated := by
  rw [kindAt_between first last, if_pos interpolating]

/-- Between the ends of the route the target lies on the segment that leads to the
waypoint. -/
theorem interpolate_inner {reach : α} {before w : Waypoint α} (first : 0 < index)
    (last : index + 1 < route.length) (at_before : route[index - 1]? = some before)
    (at_index : route[index]? = some w) :
    route.interpolate index pose reach =
      interpolateOn before.position w.position pose.position reach := by
  obtain ⟨i, rfl⟩ := Nat.exists_eq_succ_of_ne_zero (by omega : index ≠ 0)
  have inner : ¬ i + 1 + 1 = route.length := by omega
  rw [Nat.succ_sub_one] at at_before
  simp [interpolate, at_index, inner, at_before]

end Track

/-! ## How a computation goes -/

/-- What route and pose were like for a computation to end as it ended. -/
inductive Course (route : Route α) (pose : Pose α) (config : Lookahead α) :
    Except TrackingFault (Tick α) → Prop
  | pathLost (empty : route = []) : Course route pose config (.ok .pathLost)
  | noValidCurve {index : Nat} (found : route.search pose config.distance = some index)
      (inside : route.reachesBeyond pose config.minimum = false) :
      Course route pose config (.ok (.noValidCurve index))
  | targetFault {index : Nat} {fault : TrackingFault}
      (found : route.search pose config.distance = some index)
      (reaches : route.reachesBeyond pose config.minimum = true)
      (failed : route.target index (route.kindAt config index) pose config.distance =
        .error fault) : Course route pose config (.error fault)
  | targetLost {index : Nat} {miss : Miss}
      (found : route.search pose config.distance = some index)
      (reaches : route.reachesBeyond pose config.minimum = true)
      (missed : route.target index (route.kindAt config index) pose config.distance =
        .ok (.error miss)) :
      Course route pose config (.ok (.targetLost index (route.kindAt config index) miss))
  | curvatureFault {index : Nat} {target : Point α} {fault : Fault}
      (found : route.search pose config.distance = some index)
      (reaches : route.reachesBeyond pose config.minimum = true)
      (aimed : route.target index (route.kindAt config index) pose config.distance =
        .ok (.ok target))
      (failed : pose.curvatureTo target saturation = .error fault) :
      Course route pose config (.error (.arithmetic fault))
  | onTarget {index : Nat} {target : Point α} {kappa : α}
      (found : route.search pose config.distance = some index)
      (reaches : route.reachesBeyond pose config.minimum = true)
      (aimed : route.target index (route.kindAt config index) pose config.distance =
        .ok (.ok target))
      (steered : pose.curvatureTo target saturation = .ok kappa) :
      Course route pose config (.ok (.onTarget index target (route.kindAt config index) kappa))

theorem track_course (route : Route α) (pose : Pose α) (config : Lookahead α) :
    Course route pose config (route.track pose config) := by
  cases found : route.search pose config.distance with
  | none =>
    have empty : route = [] := by simpa [search] using found
    rw [track_pathLost found]
    exact .pathLost empty
  | some index =>
    cases reaches : route.reachesBeyond pose config.minimum with
    | false =>
      rw [track_noValidCurve found reaches]
      exact .noValidCurve found reaches
    | true =>
      cases aimed : route.target index (route.kindAt config index) pose config.distance with
      | error fault =>
        rw [track_reaching found reaches, aimed]
        exact .targetFault found reaches aimed
      | ok target =>
        cases target with
        | error miss =>
          rw [track_targetLost found reaches aimed]
          exact .targetLost found reaches aimed
        | ok target =>
          cases steered : pose.curvatureTo target saturation with
          | error fault =>
            rw [track_reaching found reaches, aimed]
            dsimp only [bind, Except.bind]
            rw [steered]
            exact .curvatureFault found reaches aimed steered
          | ok kappa =>
            rw [track_onTarget found reaches aimed steered]
            exact .onTarget found reaches aimed steered

/-- On a route that lies within the minimum distance a computation finds no valid curve. -/
theorem track_of_inside {route : Route α} {pose : Pose α} (config : Lookahead α)
    (occupied : route ≠ []) (inside : route.reachesBeyond pose config.minimum = false) :
    ∃ index, route.track pose config = .ok (.noValidCurve index) := by
  have course := route.track_course pose config
  generalize route.track pose config = result at course ⊢
  cases course with
  | pathLost empty => exact absurd empty occupied
  | @noValidCurve index => exact ⟨index, rfl⟩
  | targetFault _ reaches | targetLost _ reaches | curvatureFault _ reaches
  | onTarget _ reaches => rw [inside] at reaches; cases reaches

/-- A computation finds no valid curve only there. -/
theorem inside_of_noValidCurve {route : Route α} {pose : Pose α} {config : Lookahead α}
    {tick : Tick α} (tracked : route.track pose config = .ok tick)
    (ended : tick.status = .noValidCurve) :
    route ≠ [] ∧ route.reachesBeyond pose config.minimum = false := by
  have course := route.track_course pose config
  rw [tracked] at course
  cases course with
  | noValidCurve found inside =>
    refine ⟨?_, inside⟩
    rintro rfl
    cases found
  | pathLost | targetLost | onTarget => cases ended

end Route
end PathTracking
