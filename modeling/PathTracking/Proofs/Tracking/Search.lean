import Mathlib.Order.Bounds.Basic
import PathTracking.Proofs.Binary64.Order
import PathTracking.Proofs.Tracking.Target

/-!
# The first waypoint beyond the circle

The search stops at the least index that is the last one or has its waypoint beyond the lookahead
circle (`search_isLeast_iff`). So it is settled by the set of these indices alone: a wider circle
leaves out some of them, so that the search goes on at least as far (`search_grows`), and waypoints
behind one where it stopped, short of the end, add none before it (`search_append`). None of this
needs the distances to grow along the route.
-/
namespace PathTracking.Route

variable {α : Type} [Scalar α]

/-- The indices where a search can stop: the last one, and those of waypoints out of reach. -/
def stops (route : Route α) (pose : Pose α) (reach : α) : Set Nat :=
  {i | ∃ w, route[i]? = some w ∧
    (i + 1 = route.length ∨ w.position.planeDistance pose.position > reach)}

section Search

variable {route : Route α} {pose : Pose α} {reach : α} {i : Nat}

theorem search_eq_none_iff : route.search pose reach = none ↔ route = [] := by
  simp [search]

theorem isLeast_of_search (found : route.search pose reach = some i) :
    IsLeast (route.stops pose reach) i := by
  obtain ⟨within, nearer, farther⟩ := search_spec found
  have at_i := List.getElem?_eq_getElem within
  constructor
  · refine ⟨route[i], at_i, ?_⟩
    rcases Nat.lt_or_ge (i + 1) route.length with inner | last
    · exact .inr (farther _ inner at_i)
    · exact .inl (by omega)
  · rintro j ⟨w, at_j, last | beyond⟩
    · omega
    · by_contra earlier
      exact nearer j w (by omega) at_j beyond

theorem search_isLeast_iff :
    route.search pose reach = some i ↔ IsLeast (route.stops pose reach) i := by
  constructor
  · exact isLeast_of_search
  · intro least
    obtain ⟨w, at_i, -⟩ := least.1
    have occupied : route ≠ [] := by
      rintro rfl
      cases at_i
    have found := search_of_occupied pose reach occupied
    rw [found, (isLeast_of_search found).unique least]

/-- A search with a wider reach goes on at least as far. -/
theorem search_grows {near far : α} {j : Nat} (wider : ∀ d : α, d > far → d > near)
    (first : route.search pose near = some i) (second : route.search pose far = some j) :
    i ≤ j := by
  have fewer : route.stops pose far ⊆ route.stops pose near := by
    rintro k ⟨w, at_k, stop⟩
    exact ⟨w, at_k, stop.imp_right (wider _)⟩
  exact (isLeast_of_search second).mono (isLeast_of_search first) fewer

/-- A search that stops short of the end does not see what comes behind. -/
theorem search_append (tail : Route α) (found : route.search pose reach = some i)
    (inner : i + 1 ≠ route.length) : (route ++ tail).search pose reach = some i := by
  rw [search_isLeast_iff] at found ⊢
  obtain ⟨⟨w, at_i, stop⟩, least⟩ := found
  have within : i < route.length := (List.getElem?_eq_some_iff.mp at_i).1
  constructor
  · exact ⟨w, by rw [List.getElem?_append_left within, at_i], .inr (stop.resolve_left inner)⟩
  · rintro j ⟨v, at_j, stop⟩
    by_contra earlier
    -- An index before the one found is no last one, of either route.
    rw [List.getElem?_append_left (by omega)] at at_j
    rw [List.length_append] at stop
    exact earlier (least ⟨v, at_j, .inr (stop.resolve_left (by omega))⟩)

end Search

/-- The search for the waypoint to aim at. It finds none exactly on an empty route, and otherwise
the first waypoint beyond the circle or the last one. It never goes back as the circle grows, and
waypoints put behind one where it stopped short of the end make no difference. A circle or a
distance may be no number, which is never exceeded and never exceeds. -/
theorem search_first (route : Route Float) (pose : Pose Float) :
    (∀ reach, route.search pose reach = none ↔ route = []) ∧
    (∀ reach i, route.search pose reach = some i ↔ IsLeast (route.stops pose reach) i) ∧
    (∀ near far i j, near ≤ far → route.search pose near = some i →
      route.search pose far = some j → i ≤ j) ∧
    ∀ reach i tail, route.search pose reach = some i → i + 1 ≠ route.length →
      (route ++ tail).search pose reach = some i := by
  refine ⟨fun _ => search_eq_none_iff, fun _ _ => search_isLeast_iff, ?_,
    fun _ _ tail => search_append tail⟩
  intro near far i j upTo
  obtain ⟨wider, number, -⟩ := Binary64.le_iff.mp upTo
  exact search_grows fun d beyond => Binary64.lt_of_not_lt_of_lt number wider beyond

/-- Out, back and out again. A circle of five metres stops the search on the way out, whatever
follows; one of fifteen, and one whose size is no number, only at the end. -/
theorem search_first_out_and_back :
    let route : Route Float :=
      [⟨0, 0, 0, none⟩, ⟨10, 0, 0, none⟩, ⟨3, 0, 0, none⟩, ⟨12, 0, 0, some 2⟩]
    let pose : Pose Float := ⟨0, 0, 0, 90⟩
    (5 : Float) ≤ 15 ∧ route.search pose 5 = some 1 ∧ route.search pose 15 = some 3 ∧ 1 ≤ 3 ∧
    IsLeast (route.stops pose 5) 1 ∧ IsLeast (route.stops pose Binary64.nan) 3 ∧
    ∀ tail, (route ++ tail).search pose 5 = some 1 := by
  intro route pose
  obtain ⟨-, least, grows, stable⟩ := search_first route pose
  have upTo : (5 : Float) ≤ 15 := by decide +kernel
  have near : route.search pose 5 = some 1 := by decide +kernel
  have far : route.search pose 15 = some 3 := by decide +kernel
  have endless : route.search pose Binary64.nan = some 3 := by decide +kernel
  exact ⟨upTo, near, far, grows 5 15 1 3 upTo near far, (least 5 1).mp near,
    (least Binary64.nan 3).mp endless, fun tail => stable 5 1 tail near (by decide)⟩

end PathTracking.Route
