import PathTracking.Proofs.Binary64.Order
import PathTracking.Proofs.Tracking.Target

/-!
# The active stretch of a route

What a computation reads of a route is the waypoint found by the search and the one before it,
as long as the one found is not the last. Waypoints passed before these two and the route beyond
them can be exchanged: the search stops at the same waypoint (`search_stretch`), which is beyond
the minimum distance because it is beyond the lookahead distance, it is no end of the new route
either, and the segment that leads to it is the same (`target_stretch`).
-/
namespace PathTracking

namespace Tick

variable {α : Type}

/-- The result with the waypoint aimed at counted from `first` on. -/
def countedFrom (tick : Tick α) (first : Nat) : Tick α :=
  { tick with aim := { tick.aim with index := tick.aim.index - first } }

variable {i k : Nat}

theorem countedFrom_targetLost [Scalar α] (kind : TargetKind) (miss : Miss) (passed : k ≤ i) :
    (targetLost i kind miss : Tick α).countedFrom k = targetLost (i - k) kind miss := by
  rw [targetLost, targetLost, Int.ofNat_sub passed]
  rfl

theorem countedFrom_onTarget (target : Point α) (kind : TargetKind) (kappa : α)
    (passed : k ≤ i) :
    (onTarget i target kind kappa).countedFrom k = onTarget (i - k) target kind kappa := by
  rw [onTarget, onTarget, Int.ofNat_sub passed]
  rfl

end Tick

namespace Route

variable {α : Type}

/-- The waypoints from index `first` to index `last`, both included. -/
def stretch (route : Route α) (first last : Nat) : Route α := (route.take (last + 1)).drop first

section Stretch

variable {route : Route α} {i k : Nat} (tail : Route α)

theorem length_stretch (passed : k ≤ i) (inside : i < route.length) :
    (route.stretch k i).length = i - k + 1 := by
  rw [stretch, List.length_drop, List.length_take]
  omega

theorem getElem?_stretch (passed : k ≤ i) (inside : i < route.length) {j : Nat}
    (within : j ≤ i - k) : (route.stretch k i ++ tail)[j]? = route[k + j]? := by
  have short : j < (route.stretch k i).length := by
    rw [length_stretch passed inside]
    omega
  rw [List.getElem?_append_left short, stretch, List.getElem?_drop,
    List.getElem?_take_of_lt (by omega)]

theorem stretch_inner (passed : k ≤ i) (inside : i < route.length) (more : tail ≠ []) :
    i - k + 1 < (route.stretch k i ++ tail).length := by
  have := List.length_pos_iff.mpr more
  rw [List.length_append, length_stretch passed inside]
  omega

end Stretch

variable [Scalar α]

section Active

variable {route tail : Route α} {pose : Pose α} {config : Lookahead α} {i k : Nat}

/-- The search finds the same waypoint, counted from the start of the stretch. -/
theorem search_stretch (found : route.search pose config.distance = some i)
    (inner : i + 1 < route.length) (passed : k ≤ i) (more : tail ≠ []) :
    (route.stretch k i ++ tail).search pose config.distance = some (i - k) := by
  obtain ⟨inside, nearer, farther⟩ := search_spec found
  obtain ⟨w, at_i⟩ : ∃ w, route[i]? = some w := ⟨_, List.getElem?_eq_getElem inside⟩
  rw [search_of_occupied pose config.distance (by simp [more])]
  refine congrArg some (firstBeyond_eq (w := w) (stretch_inner tail passed inside more) ?_ ?_ ?_)
  · -- The waypoints left before the one found are waypoints of the route, `k` places on.
    intro m v earlier at_m
    rw [getElem?_stretch tail passed inside (by omega)] at at_m
    exact nearer (k + m) v (by omega) at_m
  · rw [getElem?_stretch tail passed inside (by omega), Nat.add_sub_cancel' passed]
    exact at_i
  · exact farther w inner at_i

/-- The target is a waypoint or on the segment that leads to it, and both are in the stretch. -/
theorem target_stretch (kind : TargetKind) (inner : i + 1 < route.length) (passed : k < i)
    (more : tail ≠ []) :
    (route.stretch k i ++ tail).target (i - k) kind pose config.distance =
      route.target i kind pose config.distance := by
  have inside : i < route.length := by omega
  have at_stop : (route.stretch k i ++ tail)[i - k]? = route[i]? := by
    rw [getElem?_stretch tail passed.le inside (by omega), Nat.add_sub_cancel' passed.le]
  have at_start : (route.stretch k i ++ tail)[i - k - 1]? = route[i - 1]? := by
    rw [getElem?_stretch tail passed.le inside (by omega)]
    congr 1
    omega
  have stop : route[i]? = some route[i] := List.getElem?_eq_getElem inside
  have start : route[i - 1]? = some route[i - 1] := List.getElem?_eq_getElem (by omega)
  cases kind with
  | raw => simp only [target, at_stop, stop]
  | interpolated =>
    simp only [target]
    rw [interpolate_inner (by omega) (stretch_inner tail passed.le inside more)
        (at_start.trans start) (at_stop.trans stop),
      interpolate_inner (by omega) inner start stop]

/-- A computation on the stretch between a passed waypoint and the one aimed at, followed by
anything, is the computation on the whole route. -/
theorem track_stretch (found : route.search pose config.distance = some i)
    (inner : i + 1 < route.length) (passed : k < i) (more : tail ≠ [])
    (farther : ∀ d, d > config.distance → d > config.minimum) :
    (route.stretch k i ++ tail).track pose config =
      (route.track pose config).map (·.countedFrom k) := by
  obtain ⟨inside, -, beyond⟩ := search_spec found
  have stop : route[i]? = some route[i] := List.getElem?_eq_getElem inside
  -- The waypoint found is beyond the minimum distance too, and both routes have it.
  have far := farther _ (beyond _ inner stop)
  have last := stretch_inner tail passed.le inside more
  have again : (route.stretch k i ++ tail)[i - k]? = some route[i] := by
    rw [getElem?_stretch tail passed.le inside (by omega), Nat.add_sub_cancel' passed.le, stop]
  have kind : (route.stretch k i ++ tail).kindAt config (i - k) = route.kindAt config i := by
    rw [kindAt_between (by omega) last, kindAt_between (by omega) inner]
  rw [track_reaching found (reachesBeyond_of_getElem? stop far),
    track_reaching (search_stretch found inner passed.le more) (reachesBeyond_of_getElem? again far),
    kind, target_stretch _ inner passed more]
  cases route.target i (route.kindAt config i) pose config.distance with
  | error fault => rfl
  | ok aimed =>
    cases aimed with
    | error miss => exact congrArg Except.ok (Tick.countedFrom_targetLost _ miss passed.le).symm
    | ok target =>
      dsimp only [bind, Except.bind]
      cases pose.curvatureTo target saturation with
      | error fault => rfl
      | ok kappa =>
        exact congrArg Except.ok (Tick.countedFrom_onTarget target _ kappa passed.le).symm

end Active

/-! ## On binary64 numbers -/

/-- What is beyond the lookahead distance of a valid configuration is beyond the minimum. -/
theorem beyond_minimum {config : Lookahead Float} (valid : config.Valid) {d : Float}
    (beyond : d > config.distance) : d > config.minimum :=
  Binary64.lt_of_not_lt_of_lt (Binary64.isNaN_of_lt valid.minimum).2 valid.inOrder beyond

/-- Steering depends on the active stretch of a route alone. Where the search stops before the
last waypoint, the waypoints passed before the segment aimed at can be dropped and the route
beyond it can be replaced: the computation comes to the same result, or the same fault, with the
waypoint counted from the first one left. -/
theorem track_active (route tail : Route Float) (pose : Pose Float) (config : Lookahead Float)
    (i k : Nat) (valid : config.Valid) (found : route.search pose config.distance = some i)
    (inner : i + 1 < route.length) (passed : k < i) (more : tail ≠ []) :
    (route.stretch k i ++ tail).track pose config =
      (route.track pose config).map (·.countedFrom k) :=
  track_stretch found inner passed more fun _ => beyond_minimum valid

/-- On a bend the search stops at the fourth of six waypoints; the first one can be dropped and
the last two can be exchanged for another one. -/
theorem track_active_on_bend :
    let route : Route Float := [⟨0, 0, 0, none⟩, ⟨2, 0, 0, none⟩, ⟨4, 1, 0, none⟩,
      ⟨6, 3, 0, some 2⟩, ⟨6, 6, 0, none⟩, ⟨5, 9, 0, none⟩]
    let pose : Pose Float := ⟨3, 0.5, 0, 20⟩
    let config : Lookahead Float := ⟨3.5, 1, true⟩
    let tail : Route Float := [⟨9, 3, 0, none⟩]
    config.Valid ∧ route.search pose config.distance = some 3 ∧
    (route.stretch 1 3 ++ tail).track pose config =
      (route.track pose config).map (·.countedFrom 1) := by
  intro route pose config tail
  have valid : config.Valid := ⟨by decide +kernel, by decide +kernel, by decide +kernel⟩
  have found : route.search pose config.distance = some 3 := by decide +kernel
  exact ⟨valid, found, track_active route tail pose config 3 1 valid found (by decide) (by decide)
    (List.cons_ne_nil _ _)⟩

end Route
end PathTracking
