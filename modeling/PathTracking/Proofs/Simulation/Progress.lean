import PathTracking.Proofs.Binary64.Order
import PathTracking.Proofs.Simulation.LocalRoute

/-!
# Progress along the route

An update either changes nothing or settles on a later waypoint and publishes the route from there
(`OnRoute.update_cases`). By induction on the poses, the waypoints that a planner publishes from
only ever grow (`publications_spec`), so each local route is a part of the ones before and ends
where the whole route ends (`OnRoute.publications_nested`, `OnRoute.publications_end`). Of the
waypoints scanned, an update settles on the first of the closest ones, if all distances are numbers
(`updates_progress`).

Without a window a second update from the same pose changes nothing (`update_standing`). This needs
no law of the comparisons: the waypoints behind the one settled on have each been compared with its
distance already, so it holds with distances that are no numbers, too.
-/
namespace PathTracking.Planner

variable {α : Type} [Scalar α]

/-! ## Runs -/

/-- The planner after a sequence of updates. -/
def after (p : Planner α) (poses : List (Pose α)) : Planner α :=
  poses.foldl (fun p pose => (p.update pose).1) p

/-- The local routes published meanwhile. -/
def publications (p : Planner α) : List (Pose α) → List (Route α)
  | [] => []
  | pose :: rest => (p.update pose).2.toList ++ (p.update pose).1.publications rest

/-- The waypoint last found is one of the route. -/
def OnRoute (p : Planner α) : Prop :=
  ∀ closest, p.closest = some closest → closest < p.route.length

omit [Scalar α] in
theorem OnRoute.inside {p : Planner α} (onRoute : p.OnRoute) (occupied : p.route ≠ []) :
    p.first < p.route.length := by
  unfold first
  cases found : p.closest with
  | none => exact List.length_pos_iff.mpr occupied
  | some closest => exact onRoute closest found

/-- What an update does: nothing, or it moves on and publishes. -/
theorem OnRoute.update_cases {p : Planner α} (onRoute : p.OnRoute) (pose : Pose α) :
    p.update pose = (p, none) ∨
    ∃ closest, p.update pose = ({ p with closest := some closest }, some (p.route.drop closest)) ∧
      closest < p.route.length ∧ ∀ old, p.closest = some old → old < closest := by
  by_cases occupied : p.route = []
  · left
    exact update_of_outside (by simp [occupied]) pose
  · obtain ⟨closest, within, left, published⟩ := p.update_spec pose (onRoute.inside occupied)
    have onward := p.first_le_closest pose (by rw [left])
    by_cases same : p.closest = some closest
    · left
      rw [if_pos same] at published
      exact Prod.ext (left.trans (by rw [← same])) published
    · right
      rw [if_neg same] at published
      refine ⟨closest, Prod.ext left published, within, ?_⟩
      intro old found
      rw [first, found, Option.getD_some] at onward
      exact lt_of_le_of_ne onward fun stayed => same (stayed ▸ found)

theorem OnRoute.update {p : Planner α} (onRoute : p.OnRoute) (pose : Pose α) :
    (p.update pose).1.OnRoute ∧ (p.update pose).1.route = p.route ∧
      (p.update pose).1.window = p.window := by
  rcases onRoute.update_cases pose with same | ⟨closest, moved, within, -⟩
  · rw [same]
    exact ⟨onRoute, rfl, rfl⟩
  · rw [moved]
    refine ⟨?_, rfl, rfl⟩
    rintro _ ⟨⟩
    exact within

theorem OnRoute.after {p : Planner α} (onRoute : p.OnRoute) (poses : List (Pose α)) :
    (p.after poses).OnRoute ∧ (p.after poses).route = p.route ∧
      (p.after poses).window = p.window := by
  induction poses generalizing p with
  | nil => exact ⟨onRoute, rfl, rfl⟩
  | cons pose rest ih =>
    obtain ⟨kept, route, window⟩ := onRoute.update pose
    obtain ⟨reached, route', window'⟩ := ih kept
    exact ⟨reached, route'.trans route, window'.trans window⟩

omit [Scalar α] in
theorem new_onRoute (route : Route α) (window : Option Int) : (new route window).OnRoute := nofun

/-- The local routes of a run start from waypoints that grow, beyond the one last found. -/
theorem publications_spec {p : Planner α} (onRoute : p.OnRoute) (poses : List (Pose α)) :
    ∃ places : List Nat, p.publications poses = places.map (p.route.drop ·) ∧
      places.Pairwise (· < ·) ∧
      ∀ place ∈ places, place < p.route.length ∧ ∀ old, p.closest = some old → old < place := by
  induction poses generalizing p with
  | nil => exact ⟨[], rfl, .nil, by simp⟩
  | cons pose rest ih =>
    rcases onRoute.update_cases pose with same | ⟨closest, moved, within, onward⟩
    · simp only [publications, same, Option.toList_none, List.nil_append]
      exact ih onRoute
    · obtain ⟨kept, -, -⟩ := onRoute.update pose
      rw [moved] at kept
      obtain ⟨places, published, grow, bounded⟩ := ih kept
      have later : ∀ place ∈ places, closest < place :=
        fun place member => (bounded place member).2 closest rfl
      refine ⟨closest :: places, ?_, List.pairwise_cons.mpr ⟨later, grow⟩, ?_⟩
      · simp only [publications, moved, Option.toList_some, List.singleton_append, published,
          List.map_cons]
      · refine List.forall_mem_cons.mpr ⟨⟨within, onward⟩, ?_⟩
        intro place member
        exact ⟨(bounded place member).1, fun old found =>
          (onward old found).trans (later place member)⟩

namespace OnRoute

variable {p : Planner α} (onRoute : p.OnRoute) (poses : List (Pose α))
include onRoute

/-- Each local route is a proper part of the ones before. -/
theorem publications_nested :
    (p.publications poses).Pairwise fun earlier later => later <:+ earlier ∧ later ≠ earlier := by
  obtain ⟨places, published, grow, bounded⟩ := publications_spec onRoute poses
  rw [published, List.pairwise_map]
  refine grow.imp_of_mem fun {place later} here _ before => ?_
  refine ⟨List.drop_suffix_drop_left p.route before.le, fun same => ?_⟩
  -- They differ in their lengths.
  have lengths := congrArg List.length same
  rw [List.length_drop, List.length_drop] at lengths
  have within := (bounded place here).1
  omega

/-- Each local route leads to the end of the route. -/
theorem publications_end :
    ∀ ahead ∈ p.publications poses, ahead ≠ [] ∧ ahead.getLast? = p.route.getLast? := by
  obtain ⟨places, published, -, bounded⟩ := publications_spec onRoute poses
  rw [published, List.forall_mem_map]
  intro place member
  have inside := Nat.not_le.mpr (bounded place member).1
  rw [Ne, List.drop_eq_nil_iff, List.getLast?_drop, if_neg inside]
  exact ⟨inside, rfl⟩

/-- There are no more local routes than waypoints, as they start from different ones. -/
theorem length_publications_le : (p.publications poses).length ≤ p.route.length := by
  obtain ⟨places, published, grow, bounded⟩ := publications_spec onRoute poses
  have different : places.Nodup := grow.imp ne_of_lt
  have among : places ⊆ List.range p.route.length :=
    fun place member => List.mem_range.mpr (bounded place member).1
  have counted := (List.subperm_of_subset different among).length_le
  rwa [List.length_range, ← List.length_map (p.route.drop ·), ← published] at counted

end OnRoute

/-! ## A vehicle that stands still -/

/-- If none of the later waypoints is closer, a scan does not move. -/
theorem nearest_of_none_closer (here : Point α) (best : Nat) (least : α) (index : Nat)
    (later : Route α) (farther : ∀ d ∈ later.distancesFrom here, ¬ d < least) :
    nearest here best least index later = best := by
  induction later generalizing index with
  | nil => rfl
  | cons w rest ih =>
    simp only [Route.distancesFrom, List.map_cons, List.forall_mem_cons] at farther
    simp only [nearest, if_neg farther.1]
    exact ih (index + 1) farther.2

/-- The distances behind the place settled on are not below the one there. -/
structure Settled (distances : List α) (k : Nat) (least : α) : Prop where
  here : distances[k]? = some least
  farther : ∀ d ∈ distances.drop (k + 1), ¬ d < least

namespace Settled

variable {seen : List α} {k : Nat} {least d : α}

theorem keeps (held : Settled seen k least) (farther : ¬ d < least) :
    Settled (seen ++ [d]) k least := by
  have within : k < seen.length := (List.getElem?_eq_some_iff.mp held.here).1
  constructor
  · rw [List.getElem?_append_left within, held.here]
  · rw [List.drop_append_of_le_length within, List.forall_mem_append]
    exact ⟨held.farther, by simpa using farther⟩

/-- Nothing has been seen behind the last place. -/
theorem last (seen : List α) (d : α) : Settled (seen ++ [d]) seen.length d := by
  constructor <;> simp

end Settled

/-- Without a window, a second update from the same pose changes nothing. -/
theorem update_update {p : Planner α} (unwindowed : p.window = none) (pose : Pose α) :
    (p.update pose).1.update pose = ((p.update pose).1, none) := by
  by_cases inside : p.first < p.route.length
  · obtain ⟨k, least, ⟨settled, farther⟩, left, -⟩ := update_scan (P := Settled)
      (fun d => Settled.last [] d) (fun _ _ _ _ held => held.keeps)
      (fun seen _ _ d _ _ => Settled.last seen d) p pose inside
    have looked : p.scanned = p.route.drop p.first := by rw [scanned, unwindowed]
    rw [Route.distancesFrom, List.getElem?_map, Option.map_eq_some_iff] at settled
    obtain ⟨w, found, rfl⟩ := settled
    rw [left]
    -- The second scan starts where the first one settled, so it meets only waypoints that the first
    -- one has passed over.
    have again : scanned { p with closest := some (p.first + k) } =
        w :: p.scanned.drop (k + 1) := by
      obtain ⟨within, rfl⟩ := List.getElem?_eq_some_iff.mp found
      rw [← List.drop_eq_getElem_cons within, looked, List.drop_drop]
      simp [scanned, unwindowed, first]
    have stays := nearest_of_none_closer pose.position (p.first + k)
      (w.position.planeDistance pose.position) (p.first + k + 1) (p.scanned.drop (k + 1))
      (by rwa [Route.distancesFrom, List.map_drop])
    rw [update_eq, again]
    dsimp only
    rw [show first { p with closest := some (p.first + k) } = p.first + k from rfl, stays,
      if_pos rfl]
  · rw [update_of_outside inside, update_of_outside inside]

/-- A vehicle that stands still gets no new local route. In every state that a planner without a
window comes to, whatever poses it was given and whatever the comparisons of their distances, a
second update from the same pose publishes nothing and leaves the planner as it is. -/
theorem update_standing (route : Route α) (poses : List (Pose α)) (pose : Pose α) :
    let p := (new route none).after poses
    (p.update pose).1.update pose = ((p.update pose).1, none) := by
  intro p
  obtain ⟨-, -, window⟩ := (new_onRoute route none).after poses
  exact update_update window pose

/-! ## The closest waypoint -/

/-- The least of some distances, at the first of the places where it stands. -/
structure FirstLeast (distances : List Float) (k : Nat) (d : Float) : Prop where
  here : distances[k]? = some d
  least : ∀ e ∈ distances, d ≤ e
  first : ∀ (j : Nat) (e : Float), distances[j]? = some e → j < k → d < e

namespace FirstLeast

open Binary64

variable {seen : List Float} {k : Nat} {least d : Float}

theorem single (number : d.isNaN = false) : FirstLeast [d] 0 d where
  here := rfl
  least := by simpa using le_refl number
  first := by simp

theorem keeps (held : FirstLeast seen k least) (number : d.isNaN = false)
    (farther : ¬ d < least) : FirstLeast (seen ++ [d]) k least := by
  obtain ⟨within, rfl⟩ := List.getElem?_eq_some_iff.mp held.here
  obtain ⟨-, number', -⟩ := le_iff.mp (held.least _ (List.getElem_mem within))
  constructor
  · rw [List.getElem?_append_left within, held.here]
  · rw [List.forall_mem_append]
    exact ⟨held.least, by simpa using le_iff.mpr ⟨farther, number', number⟩⟩
  · intro j e found before
    rw [List.getElem?_append_left (before.trans within)] at found
    exact held.first j e found before

/-- What is below the least of the distances is below them all. -/
theorem moves (held : FirstLeast seen k least) (closer : d < least) :
    FirstLeast (seen ++ [d]) seen.length d := by
  have below : ∀ e ∈ seen, d < e := fun e member => lt_of_lt_of_le closer (held.least e member)
  constructor
  · simp
  · rw [List.forall_mem_append]
    exact ⟨fun e member => le_of_lt (below e member),
      by simpa using le_refl (isNaN_of_lt closer).1⟩
  · intro j e found before
    rw [List.getElem?_append_left before] at found
    exact below e (List.mem_of_getElem? found)

end FirstLeast

/-- An update settles on a waypoint scanned. If all distances are numbers, it is the first of the
closest ones. -/
theorem update_firstLeast (p : Planner Float) (pose : Pose Float)
    (inside : p.first < p.route.length) :
    ∃ k, k < p.scanned.length ∧
      (p.update pose).1 = { p with closest := some (p.first + k) } ∧
      (p.update pose).2 = (if p.closest = some (p.first + k) then none
        else some (p.route.drop (p.first + k))) ∧
      ((∀ d ∈ p.scanned.distancesFrom pose.position, d.isNaN = false) →
        ∃ d, FirstLeast (p.scanned.distancesFrom pose.position) k d) := by
  obtain ⟨k, least, ⟨within, closest⟩, left, published⟩ := update_scan
    (P := fun seen k least => k < seen.length ∧
      ((∀ d ∈ seen, d.isNaN = false) → FirstLeast seen k least))
    (fun d => ⟨Nat.one_pos, fun numbers => .single (by simpa using numbers)⟩)
    (fun seen k least d held farther => by
      rw [List.length_append, List.forall_mem_append]
      exact ⟨Nat.lt_add_right _ held.1, fun numbers =>
        (held.2 numbers.1).keeps (by simpa using numbers.2) farther⟩)
    (fun seen k least d held closer => by
      rw [List.forall_mem_append]
      exact ⟨by simp, fun numbers => (held.2 numbers.1).moves closer⟩)
    p pose inside
  rw [Route.distancesFrom, List.length_map] at within
  exact ⟨k, within, left, published, fun numbers => ⟨least, closest numbers⟩⟩

/-- A planner only moves forward on its route and never loses the end of it. Each local route it
publishes is a proper part of the ones before that is not empty and ends where the route ends, and
there are at most as many as waypoints. In every state that it comes to, an update settles on a
waypoint of the route, no earlier than the last one, and publishes the route from there exactly if
it is a new one. It depends only on the waypoints scanned: with a window of one waypoint or more
these are at most as many as the window has, and the update goes on by at most one less, from the
waypoint last found or from the start of the route. If their distances are numbers, the update
settles on the first of the closest ones among them. -/
theorem updates_progress (route : Route Float) (window : Option Int) (poses : List (Pose Float)) :
    let start := new route window
    let published := start.publications poses
    (published.Pairwise fun earlier later => later <:+ earlier ∧ later ≠ earlier) ∧
    (∀ ahead ∈ published, ahead ≠ [] ∧ ahead.getLast? = route.getLast?) ∧
    published.length ≤ route.length ∧
    ∀ pose,
      let p := start.after poses
      p.route = route ∧ p.window = window ∧
      (route = [] → p.update pose = (p, none)) ∧
      (route ≠ [] → ∃ k,
        let closest := p.first + k
        closest < route.length ∧ k < p.scanned.length ∧
        (p.update pose).1 = { p with closest := some closest } ∧
        (p.update pose).2 =
          (if p.closest = some closest then none else some (route.drop closest)) ∧
        (∀ width, window = some width → 1 ≤ width →
          (p.scanned.length : Int) ≤ width ∧ (k : Int) ≤ width - 1) ∧
        (∀ q : Planner Float, q.closest = p.closest → q.scanned = p.scanned →
          (q.update pose).1.closest = some closest) ∧
        ((∀ d ∈ p.scanned.distancesFrom pose.position, d.isNaN = false) →
          ∃ d, FirstLeast (p.scanned.distancesFrom pose.position) k d)) := by
  intro start published
  have onRoute : start.OnRoute := new_onRoute route window
  refine ⟨onRoute.publications_nested poses, onRoute.publications_end poses,
    onRoute.length_publications_le poses, ?_⟩
  intro pose p
  obtain ⟨reached, same_route, same_window⟩ := onRoute.after poses
  have planned : p.route = route := same_route
  refine ⟨planned, same_window, ?_, ?_⟩
  · rintro rfl
    exact update_of_outside (by simp [planned]) pose
  · intro occupied
    obtain ⟨k, seen, left, published, closest⟩ :=
      p.update_firstLeast pose (reached.inside (planned ▸ occupied))
    refine ⟨k, planned ▸ lt_of_lt_scanned seen, seen, left, planned ▸ published, ?_, ?_, closest⟩
    · intro width windowed some
      have bounded := p.length_scanned_le (same_window.trans windowed) some
      omega
    · intro q last looked
      rw [closest_congr last looked, left]

end PathTracking.Planner
