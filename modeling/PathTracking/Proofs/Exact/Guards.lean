import PathTracking.Proofs.Exact.Crossing

/-!
# When a segment yields no target

A target is missing if the ends of the segment coincide or for one of the reasons of `Lost`, and for
no others. The guards stand far from what they protect. The test for coinciding ends keeps two
divisions from zero, the test of the range keeps a root from negative numbers, and one of the
normals always leads to the line, as both are as long as the vehicle is away from it. So in exact
arithmetic no computation is interrupted and no foot is missing. Since the foot is the closest point
of the line, the line is out of range exactly if none of its points is within the lookahead distance
(`interpolate_guarded`).
-/
namespace PathTracking.Exact

/-- The points of the line through two points, at any height. -/
def OnLine (start stop p : Point ℝ) : Prop :=
  ∃ t : ℝ, p.x = start.x + t * (stop.x - start.x) ∧ p.y = start.y + t * (stop.y - start.y)

namespace Segment

variable (s : Segment)

theorem lost_outOfRange_iff {t n reach : ℝ} : s.Lost t n reach .outOfRange ↔ reach < |n| := by
  constructor
  · rintro ⟨far⟩
    exact far
  · exact .outOfRange

/-- In the frame of the segment the line is the first axis. -/
theorem onLine_iff (p : Point ℝ) : OnLine s.start s.stop p ↔ ∃ t, p = s.point t 0 p.z := by
  constructor
  · rintro ⟨t, x, y⟩
    rw [s.unit_x] at x
    rw [s.unit_y] at y
    refine ⟨t * s.length, ?_⟩
    cases p
    unfold point
    congr 1
    · linear_combination x
    · linear_combination y
  · rintro ⟨t, place⟩
    have scaled : t / s.length * s.length = t := div_mul_cancel₀ t s.length_pos.ne'
    refine ⟨t / s.length, ?_, ?_⟩
    · rw [place, s.unit_x, point]
      linear_combination -s.unit.x * scaled
    · rw [place, s.unit_y, point]
      linear_combination -s.unit.y * scaled

/-- The line is as far away as its closest point, the foot. -/
theorem lt_beside_iff (here : Point ℝ) (reach : ℝ) :
    reach < |s.beside here| ↔ ∀ p, OnLine s.start s.stop p → reach < p.planeDistance here := by
  have distance (t z : ℝ) : (s.point t 0 z).planeDistance here =
      √((t - s.along here) ^ 2 + s.beside here ^ 2) := by
    conv_lhs => rw [← s.point_coordinates here, planeDistance_point]
    rw [zero_sub, neg_sq]
  constructor
  · intro far p onLine
    obtain ⟨t, place⟩ := (s.onLine_iff p).mp onLine
    rw [place, distance]
    exact far.trans_le (Real.abs_le_sqrt (le_add_of_nonneg_left (sq_nonneg _)))
  · intro far
    have foot := far (s.point (s.along here) 0 here.z) ((s.onLine_iff _).mpr ⟨_, rfl⟩)
    rwa [distance, sub_self, zero_pow two_ne_zero, zero_add, Real.sqrt_sq_eq_abs] at foot

end Segment

section Guarded

variable {route : Route ℝ} {pose : Pose ℝ} {reach : ℝ} {i : Nat} {before w : Waypoint ℝ}

/-- Between the ends of a route the interpolation always comes to an end: it divides by nothing
that is zero and takes no root of a negative number, whatever the lookahead distance and its sign.
A foot of the perpendicular is never missing. The segment counts as degenerate exactly if its ends
determine no line, and otherwise it is out of range exactly if every point of its line is farther
away than the lookahead distance. -/
theorem interpolate_guarded (first : 0 < i) (last : i + 1 < route.length)
    (at_before : route[i - 1]? = some before) (at_index : route[i]? = some w) :
    ∃ result, route.interpolate i pose reach = .ok result ∧
      result ≠ .error .geometryMismatch ∧
      (result = .error .degenerate ↔
        (Line.through before.position w.position).isOk = false) ∧
      ((Line.through before.position w.position).isOk = true →
        (result = .error .outOfRange ↔ ∀ p, OnLine before.position w.position p →
          reach < p.planeDistance pose.position)) := by
  rw [Route.interpolate_inner first last at_before at_index]
  cases through : Line.through before.position w.position with
  | error coincident =>
    refine ⟨.error .degenerate, by rw [interpolateOn, through]; rfl, ?_, iff_of_true rfl rfl, ?_⟩
    · rintro ⟨⟩
    · rintro ⟨⟩
  | ok line =>
    let s : Segment := ⟨before.position, w.position, line, through⟩
    let result := (s.targetFrom (s.along pose.position) (s.beside pose.position) reach).map
      fun c => s.point c.1 c.2 pose.z
    have found : interpolateOn before.position w.position pose.position reach = .ok result :=
      s.interpolateOn_here pose.position reach
    have lost (miss : Miss) : result = .error miss ↔
        s.Lost (s.along pose.position) (s.beside pose.position) reach miss := by
      rw [← s.targetFrom_eq_error_iff]
      unfold result
      cases s.targetFrom (s.along pose.position) (s.beside pose.position) reach <;>
        simp [Except.map]
    refine ⟨result, by rw [found]; rfl, ?_, ?_, ?_⟩
    · rw [Ne, lost]
      rintro ⟨⟩
    · rw [lost]
      refine iff_of_false ?_ ?_
      · rintro ⟨⟩
      · rintro ⟨⟩
    · intro _
      rw [lost, s.lost_outOfRange_iff]
      exact s.lt_beside_iff pose.position reach

end Guarded

/-- A vehicle on the line is out of range of it if the lookahead distance is negative. -/
theorem interpolate_guarded_negative :
    let route := row [0, 10, 20]
    0 < 1 ∧ 1 + 1 < route.length ∧ route[1 - 1]? = some ⟨0, 0, 0, none⟩ ∧
      route[1]? = some ⟨10, 0, 0, none⟩ ∧
      route.interpolate (1 : Nat) (onAxis 3) (-1) = .ok (.error .outOfRange) := by
  intro route
  have last : 1 + 1 < route.length := by simp [route, row]
  obtain ⟨result, found, -, -, range⟩ := @interpolate_guarded route (onAxis 3) (-1) 1
    ⟨0, 0, 0, none⟩ ⟨10, 0, 0, none⟩ Nat.one_pos last rfl rfl
  have apart : 2 * Line.tolerance ≤ (⟨10, 0, 0⟩ : Point ℝ).planeDistance ⟨0, 0, 0⟩ := by
    rw [planeDistance_axis]
    norm_num [Line.tolerance]
  have beyond : result = .error .outOfRange := by
    refine (range (through_isOk apart)).mpr ?_
    intro p _
    exact neg_one_lt_zero.trans_le (Real.sqrt_nonneg _)
  exact ⟨Nat.one_pos, last, rfl, rfl, found.trans (by rw [beyond])⟩

end PathTracking.Exact
