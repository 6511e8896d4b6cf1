import PathTracking.Planner

/-!
# The local route

An update of the planner scans the waypoints from the last one found on, as far as its window
reaches, and reads no others (`update_eq`). It settles on the waypoint at which the running minimum
of their distances was last improved, and what a scan keeps true step by step is true of that
waypoint in the end (`nearest_invariant`, `update_scan`). So whatever the pose, an update settles on
a waypoint of the route, and what it publishes is the rest of the route from there (`update_spec`):
every local route ends where the whole route ends. The waypoint is never an earlier one than the
last (`first_le_closest`), and a local route is published only with a later one.
-/
namespace PathTracking

/-- The distances of the waypoints from a point. -/
def Route.distancesFrom {α : Type} [Scalar α] (route : Route α) (here : Point α) : List α :=
  route.map fun w => w.position.planeDistance here

namespace Planner

variable {α : Type}

/-! ## What is scanned -/

/-- The waypoints that an update looks at. -/
def scanned (p : Planner α) : Route α :=
  match p.window with
  | none => p.route.drop p.first
  | some width => (p.route.drop p.first).take (max 1 width).toNat

theorem scanned_eq (p : Planner α) :
    p.scanned = match p.route[p.first]? with
      | none => []
      | some w => w :: p.candidates := by
  unfold scanned candidates
  cases start : p.route[p.first]? with
  | none =>
    rw [List.drop_eq_nil_of_le (List.getElem?_eq_none_iff.mp start)]
    cases p.window <;> simp
  | some w =>
    obtain ⟨inside, rfl⟩ := List.getElem?_eq_some_iff.mp start
    rw [List.drop_eq_getElem_cons inside]
    cases p.window with
    | none => rfl
    | some width =>
      have counted : (max 1 width).toNat = (width - 1).toNat + 1 := by omega
      dsimp only
      rw [counted, List.take_succ_cons]

/-- There is something to scan exactly if there is a waypoint to start with. -/
theorem scanned_ne_nil_iff {p : Planner α} : p.scanned ≠ [] ↔ p.first < p.route.length := by
  rw [scanned_eq]
  cases start : p.route[p.first]? with
  | none => simpa using start
  | some w => simpa using (List.getElem?_eq_some_iff.mp start).1

theorem scanned_prefix (p : Planner α) : p.scanned <+: p.route.drop p.first := by
  unfold scanned
  split
  · exact List.prefix_rfl
  · exact List.take_prefix ..

theorem lt_of_lt_scanned {p : Planner α} {k : Nat} (within : k < p.scanned.length) :
    p.first + k < p.route.length := by
  have shorter := p.scanned_prefix.length_le
  rw [List.length_drop] at shorter
  omega

/-- A window bounds how far an update looks. -/
theorem length_scanned_le (p : Planner α) {width : Int} (windowed : p.window = some width)
    (some : 1 ≤ width) : (p.scanned.length : Int) ≤ width := by
  have taken := List.length_take_le (max 1 width).toNat (p.route.drop p.first)
  unfold scanned
  rw [windowed]
  dsimp only
  omega

/-! ## The scan -/

variable [Scalar α]

/-- If `P` holds of the distances seen so far, of the place settled on among them and of the
distance there, and goes on to hold whether the next distance is smaller or not, then it holds of
all the distances in the end. -/
theorem nearest_invariant {P : List α → Nat → α → Prop}
    (keeps : ∀ seen k least d, P seen k least → ¬ d < least → P (seen ++ [d]) k least)
    (moves : ∀ seen k least d, P seen k least → d < least → P (seen ++ [d]) seen.length d)
    (here : Point α) (base : Nat) {seen : List α} {k : Nat} {least : α} (later : Route α)
    (held : P seen k least) :
    ∃ k' least', nearest here (base + k) least (base + seen.length) later = base + k' ∧
      P (seen ++ later.distancesFrom here) k' least' := by
  -- The distances seen grow by one with every waypoint, and so does the index.
  induction later generalizing seen k least with
  | nil => exact ⟨k, least, rfl, by simpa [Route.distancesFrom] using held⟩
  | cons w rest ih =>
    have next : base + seen.length + 1 =
        base + (seen ++ [w.position.planeDistance here]).length := by
      simp [Nat.add_assoc]
    have rejoined : seen ++ Route.distancesFrom (w :: rest) here =
        seen ++ [w.position.planeDistance here] ++ Route.distancesFrom rest here := by
      simp [Route.distancesFrom]
    rw [rejoined]
    simp only [nearest]
    rw [next]
    split
    next closer => exact ih (moves _ _ _ _ held closer)
    next farther => exact ih (keeps _ _ _ _ held farther)

/-- An update, by the waypoints scanned. -/
theorem update_eq (p : Planner α) (pose : Pose α) :
    p.update pose = match p.scanned with
      | [] => (p, none)
      | w :: later =>
        let best := nearest pose.position p.first (w.position.planeDistance pose.position)
          (p.first + 1) later
        if p.closest = some best then (p, none)
        else ({ p with closest := some best }, some (p.route.drop best)) := by
  rw [scanned_eq, update]
  cases p.route[p.first]? <;> rfl

/-- Without a waypoint to start with nothing happens. -/
theorem update_of_outside {p : Planner α} (outside : ¬ p.first < p.route.length) (pose : Pose α) :
    p.update pose = (p, none) := by
  have nothing : p.scanned = [] :=
    Classical.not_not.mp fun looked => outside (scanned_ne_nil_iff.mp looked)
  rw [update_eq, nothing]

/-- Planners that scan the same waypoints from the same one on settle on the same one. -/
theorem closest_congr {p q : Planner α} (closest : q.closest = p.closest)
    (scanned : q.scanned = p.scanned) (pose : Pose α) :
    (q.update pose).1.closest = (p.update pose).1.closest := by
  have first : q.first = p.first := by rw [Planner.first, Planner.first, closest]
  rw [update_eq, update_eq, scanned, first, closest]
  split
  · exact closest
  · dsimp only
    split
    · exact closest
    · rfl

/-- What every scan keeps true is true of the waypoint that an update settles on, and that waypoint
decides what the update leaves and publishes. -/
theorem update_scan {P : List α → Nat → α → Prop}
    (starts : ∀ d, P [d] 0 d)
    (keeps : ∀ seen k least d, P seen k least → ¬ d < least → P (seen ++ [d]) k least)
    (moves : ∀ seen k least d, P seen k least → d < least → P (seen ++ [d]) seen.length d)
    (p : Planner α) (pose : Pose α) (inside : p.first < p.route.length) :
    ∃ k least, P (p.scanned.distancesFrom pose.position) k least ∧
      (p.update pose).1 = { p with closest := some (p.first + k) } ∧
      (p.update pose).2 = if p.closest = some (p.first + k) then none
        else some (p.route.drop (p.first + k)) := by
  rw [update_eq]
  cases looked : p.scanned with
  | nil => exact absurd looked (scanned_ne_nil_iff.mpr inside)
  | cons w later =>
    obtain ⟨k, least, settled, held⟩ := nearest_invariant keeps moves pose.position p.first later
      (starts (w.position.planeDistance pose.position))
    refine ⟨k, least, held, ?_⟩
    simp only [Nat.add_zero, List.length_singleton] at settled
    dsimp only
    rw [settled]
    split
    next same =>
      -- The waypoint is the old one, so nothing changes.
      exact ⟨by rw [← same], rfl⟩
    · exact ⟨rfl, rfl⟩

/-- What an update leaves and publishes, by the waypoint it settles on. -/
theorem update_spec (p : Planner α) (pose : Pose α) (inside : p.first < p.route.length) :
    ∃ closest, closest < p.route.length ∧ (p.update pose).1 = { p with closest := some closest } ∧
      (p.update pose).2 =
        if p.closest = some closest then none else some (p.route.drop closest) := by
  obtain ⟨k, -, within, updated⟩ := update_scan (P := fun seen k _ => k < seen.length)
    (fun _ => Nat.one_pos)
    (fun _ _ _ _ held _ => by rw [List.length_append]; exact Nat.lt_add_right _ held)
    (fun _ _ _ _ _ _ => by simp) p pose inside
  rw [Route.distancesFrom, List.length_map] at within
  exact ⟨p.first + k, lt_of_lt_scanned within, updated⟩

/-- No update settles on an earlier waypoint than the last one found. -/
theorem first_le_closest (p : Planner α) (pose : Pose α) {closest : Nat}
    (settled : (p.update pose).1.closest = some closest) : p.first ≤ closest := by
  by_cases inside : p.first < p.route.length
  · obtain ⟨k, -, -, left, -⟩ := update_scan (P := fun _ _ _ => True) (fun _ => trivial)
      (fun _ _ _ _ _ _ => trivial) (fun _ _ _ _ _ _ => trivial) p pose inside
    rw [left] at settled
    cases settled
    exact Nat.le_add_right ..
  · rw [update_of_outside inside] at settled
    simp [first, show p.closest = some closest from settled]

end Planner
end PathTracking
