import PathTracking.Proofs.Exact.Arithmetic

/-!
# A segment and its frame

The frame of a segment measures points along the segment from its start and across it to the
right. In it the line equation is a multiple of the second coordinate, both normals and both
crossings are shifts of one coordinate, and `interpolateOn` has a closed form
(`interpolateOn_eq`).
-/
namespace PathTracking.Exact

/-- Two points that do not coincide, with the line through them. -/
structure Segment where
  start : Point ℝ
  stop : Point ℝ
  line : Line ℝ
  through : Line.through start stop = .ok line

namespace Segment

variable (s : Segment)

theorem tolerance_pos : (0 : ℝ) < Line.tolerance := by
  norm_num [Line.tolerance]

/-- The length of the segment. -/
noncomputable def length : ℝ := s.stop.planeDistance s.start

/-- The direction of the segment. -/
noncomputable def unit : Planar ℝ :=
  ⟨(s.stop.x - s.start.x) / s.length, (s.stop.y - s.start.y) / s.length⟩

theorem line_eq :
    s.line = ⟨s.stop.y - s.start.y, s.start.x - s.stop.x,
      -(s.stop.y - s.start.y) * s.start.x - (s.start.x - s.stop.x) * s.start.y⟩ := by
  have through := s.through
  unfold Line.through at through
  dsimp only at through
  split at through
  · cases through
  · exact (Except.ok.inj through).symm

theorem length_sq :
    s.length ^ 2 = (s.stop.x - s.start.x) ^ 2 + (s.stop.y - s.start.y) ^ 2 := by
  rw [length, planeDistance_eq, Real.sq_sqrt (by positivity)]

theorem length_pos : 0 < s.length := by
  have apart : ¬ (|s.stop.y - s.start.y| < Line.tolerance ∧
      |s.start.x - s.stop.x| < Line.tolerance) := by
    have through := s.through
    unfold Line.through at through
    dsimp only at through
    split at through
    · cases through
    next apart => exact apart
  rw [length, planeDistance_eq, Real.sqrt_pos]
  by_contra coincident
  -- Both differences would vanish, and then there is no line.
  have across : s.stop.x - s.start.x = 0 := by nlinarith
  have up : s.stop.y - s.start.y = 0 := by nlinarith
  apply apart
  rw [up, ← neg_sub, across, neg_zero, abs_zero]
  exact ⟨tolerance_pos, tolerance_pos⟩

theorem unit_sq : s.unit.x ^ 2 + s.unit.y ^ 2 = 1 := by
  have positive := s.length_pos
  rw [unit, div_pow, div_pow, ← add_div, ← length_sq, div_self (by positivity)]

theorem unit_x : s.stop.x - s.start.x = s.length * s.unit.x := by
  rw [unit, mul_div_cancel₀ _ s.length_pos.ne']

theorem unit_y : s.stop.y - s.start.y = s.length * s.unit.y := by
  rw [unit, mul_div_cancel₀ _ s.length_pos.ne']

/-! ## The frame -/

/-- How far along the segment a point lies. -/
noncomputable def along (p : Point ℝ) : ℝ :=
  (p.x - s.start.x) * s.unit.x + (p.y - s.start.y) * s.unit.y

/-- How far to the right of the segment a point lies. -/
noncomputable def beside (p : Point ℝ) : ℝ :=
  (p.x - s.start.x) * s.unit.y - (p.y - s.start.y) * s.unit.x

/-- The point with given coordinates in the frame. -/
noncomputable def point (along beside height : ℝ) : Point ℝ :=
  ⟨s.start.x + along * s.unit.x + beside * s.unit.y,
    s.start.y + along * s.unit.y - beside * s.unit.x, height⟩

theorem point_coordinates (p : Point ℝ) : s.point (s.along p) (s.beside p) p.z = p := by
  have unit := s.unit_sq
  unfold point along beside
  congr 1 <;> grind

@[simp] theorem point_z (t n z : ℝ) : (s.point t n z).z = z := rfl

theorem start_eq : s.start = s.point 0 0 s.start.z := by simp [point]

theorem stop_eq : s.stop = s.point s.length 0 s.stop.z := by
  have x := s.unit_x
  have y := s.unit_y
  unfold point
  cases stop : s.stop with
  | mk a b c =>
    rw [stop] at x y
    dsimp only at x y ⊢
    congr 1 <;> linarith

theorem planeDistance_point (t n z t' n' z' : ℝ) :
    (s.point t n z).planeDistance (s.point t' n' z') = √((t - t') ^ 2 + (n - n') ^ 2) := by
  have unit := s.unit_sq
  rw [planeDistance_eq]
  congr 1
  unfold point
  dsimp only
  linear_combination ((t - t') ^ 2 + (n - n') ^ 2) * unit

theorem along_shift (t n z steps height : ℝ) :
    (s.point t n z).along s.unit steps height = s.point (t + steps) n height := by
  unfold point Point.along
  congr 1 <;> ring

theorem against_shift (t n z steps height : ℝ) :
    (s.point t n z).against s.unit steps height = s.point (t - steps) n height := by
  unfold point Point.against
  congr 1 <;> ring

theorem left_shift (t n z steps height : ℝ) :
    (s.point t n z).along ⟨-s.unit.y, s.unit.x⟩ steps height = s.point t (n - steps) height := by
  unfold point Point.along
  congr 1 <;> ring

theorem right_shift (t n z steps height : ℝ) :
    (s.point t n z).along ⟨s.unit.y, -s.unit.x⟩ steps height = s.point t (n + steps) height := by
  unfold point Point.along
  congr 1 <;> ring

/-! ## The line equation -/

theorem residual_point (t n z : ℝ) : s.line.residual (s.point t n z) = s.length * n := by
  have unit := s.unit_sq
  rw [line_eq, Line.residual, ← neg_sub s.stop.x s.start.x, s.unit_x, s.unit_y]
  unfold point
  dsimp only
  linear_combination s.length * n * unit

theorem distance_point (t n z : ℝ) : s.line.distance (s.point t n z) = .ok |n| := by
  have positive := s.length_pos
  have norm : s.line.a * s.line.a + s.line.b * s.line.b = s.length ^ 2 := by
    rw [line_eq, length_sq]
    ring
  have root : √(s.length ^ 2) = s.length := Real.sqrt_sq positive.le
  unfold Line.distance
  rw [residual_point, norm, sqrt_eq (by positivity), root]
  refine (div_eq positive.ne').trans ?_
  change Except.ok (|s.length * n| / s.length) = _
  rw [abs_mul, abs_of_pos positive, mul_div_cancel_left₀ _ positive.ne']

theorem holds_point (t n z : ℝ) :
    s.line.holds (s.point t n z) = true ↔ s.length * |n| < Line.tolerance := by
  rw [Line.holds, residual_point, decide_eq_true_iff]
  change |s.length * n| < _ ↔ _
  rw [abs_mul, abs_of_pos s.length_pos]

/-! ## The target -/

/-- How far to the right of the line the foot is taken. It is on the line, unless the point
lies so closely to the left of it that a step away from the line still passes for one that
leads to it. -/
noncomputable def drift (n : ℝ) : ℝ :=
  if n < 0 ∧ s.length * (2 * |n|) < Line.tolerance then 2 * n else 0

/-- The foot is as far from the point as the line. -/
theorem drift_sub_sq (n : ℝ) : (s.drift n - n) ^ 2 = n ^ 2 := by
  unfold drift
  split <;> ring

theorem foot_point (t n z : ℝ) :
    s.line.foot (s.point t n z) |n| s.unit = .ok (some (s.point t (s.drift n) z)) := by
  unfold Line.foot
  simp only [rotate_left, rotate_right, bind, Except.bind, pure, Except.pure, left_shift,
    right_shift, point_z, holds_point]
  congr 1
  -- The left normal is tried first; from a place to the left of the line it leads away from it.
  rcases lt_or_ge n 0 with left | right
  · have onLeft : n - |n| = 2 * n := by rw [abs_of_neg left]; ring
    have onRight : n + |n| = 0 := by rw [abs_of_neg left]; ring
    rw [onLeft, onRight, abs_mul, abs_two, abs_zero, mul_zero, if_pos tolerance_pos, drift]
    simp only [left, true_and]
    split <;> rfl
  · have onLeft : n - |n| = 0 := by rw [abs_of_nonneg right]; ring
    have straight : s.drift n = 0 := if_neg fun slipped => absurd slipped.1 (not_lt.mpr right)
    rw [onLeft, abs_zero, mul_zero, if_pos tolerance_pos, straight]

theorem crossing_point (t n z reach : ℝ) (near : |n| ≤ reach) :
    crossing s.stop s.start (s.point t (s.drift n) z) (s.point t n z) s.unit |n| reach =
      .ok (
        if √((t + √(reach ^ 2 - n ^ 2) - s.length) ^ 2 + s.drift n ^ 2) < s.length then
          .ok (s.point (t + √(reach ^ 2 - n ^ 2)) (s.drift n) z)
        else if √((t - √(reach ^ 2 - n ^ 2) - s.length) ^ 2 + s.drift n ^ 2) < s.length then
          .ok (s.point (t - √(reach ^ 2 - n ^ 2)) (s.drift n) z)
        else .error .noIntersectionOnSegment) := by
  have room : 0 ≤ reach ^ 2 - |n| ^ 2 := sub_nonneg.mpr (pow_le_pow_left₀ (abs_nonneg n) near 2)
  have half : Scalar.sqrt (reach ^ 2 - |n| ^ 2) = .ok (√(reach ^ 2 - n ^ 2)) := by
    rw [sqrt_eq room, sq_abs]
  have squared (x : ℝ) : Scalar.square x = .ok (x ^ 2) := rfl
  have distance (t' : ℝ) : (s.point t' (s.drift n) z).planeDistance s.stop =
      √((t' - s.length) ^ 2 + s.drift n ^ 2) := by
    rw [s.stop_eq, planeDistance_point, sub_zero]
  unfold crossing
  simp only [squared, half, bind, Except.bind, pure, Except.pure, along_shift, against_shift,
    point_z, distance]
  rfl

/-- The target on a segment, by the coordinates of the place it is seen from. -/
theorem interpolateOn_eq (t n z reach : ℝ) :
    interpolateOn s.start s.stop (s.point t n z) reach =
      if reach < |n| then .ok (.error .outOfRange)
      else if |n| = reach then .ok (.ok (s.point t (s.drift n) z))
      else crossing s.stop s.start (s.point t (s.drift n) z) (s.point t n z) s.unit |n| reach := by
  have length : Scalar.hypot (s.stop.x - s.start.x) (s.stop.y - s.start.y) = s.length := rfl
  have positive := s.length_pos
  unfold interpolateOn
  rw [s.through]
  simp only [bind, Except.bind, distance_point, length, div_eq positive.ne']
  change (if reach < |n| then _ else _) = _
  split
  · rfl
  · have foot : s.line.foot (s.point t n z) |n|
        ⟨(s.stop.x - s.start.x) / s.length, (s.stop.y - s.start.y) / s.length⟩ =
      .ok (some (s.point t (s.drift n) z)) := s.foot_point t n z
    simp only [foot, beq_iff]
    rfl

/-- The target in the frame of the segment, seen from the coordinates `t` and `n`. -/
noncomputable def targetFrom (t n reach : ℝ) : Except Miss (ℝ × ℝ) :=
  if reach < |n| then .error .outOfRange
  else if |n| = reach then .ok (t, s.drift n)
  else if √((t + √(reach ^ 2 - n ^ 2) - s.length) ^ 2 + s.drift n ^ 2) < s.length then
    .ok (t + √(reach ^ 2 - n ^ 2), s.drift n)
  else if √((t - √(reach ^ 2 - n ^ 2) - s.length) ^ 2 + s.drift n ^ 2) < s.length then
    .ok (t - √(reach ^ 2 - n ^ 2), s.drift n)
  else .error .noIntersectionOnSegment

theorem interpolateOn_point (t n z reach : ℝ) :
    interpolateOn s.start s.stop (s.point t n z) reach =
      .ok ((s.targetFrom t n reach).map fun c => s.point c.1 c.2 z) := by
  rw [interpolateOn_eq, targetFrom]
  by_cases far : reach < |n|
  · rw [if_pos far, if_pos far]
    rfl
  · rw [if_neg far, if_neg far]
    by_cases tangent : |n| = reach
    · rw [if_pos tangent, if_pos tangent]
      rfl
    · rw [if_neg tangent, if_neg tangent, crossing_point _ _ _ _ _ (not_lt.mp far)]
      split
      · rfl
      · split <;> rfl

theorem interpolateOn_here (here : Point ℝ) (reach : ℝ) :
    interpolateOn s.start s.stop here reach =
      .ok ((s.targetFrom (s.along here) (s.beside here) reach).map
        fun c => s.point c.1 c.2 here.z) := by
  rw [← interpolateOn_point, point_coordinates]

end Segment

/-- Points farther apart than twice the tolerance do not coincide. -/
theorem through_isOk {p q : Point ℝ} (apart : 2 * Line.tolerance ≤ q.planeDistance p) :
    (Line.through p q).isOk = true := by
  have positive := Segment.tolerance_pos
  unfold Line.through
  dsimp only
  split
  next close =>
    obtain ⟨up, across⟩ : |q.y - p.y| < Line.tolerance ∧ |p.x - q.x| < Line.tolerance := close
    rw [planeDistance_eq] at apart
    have far : (2 * Line.tolerance) ^ 2 ≤ (q.x - p.x) ^ 2 + (q.y - p.y) ^ 2 :=
      (Real.le_sqrt' (by positivity)).mp apart
    rw [abs_lt] at up across
    nlinarith
  · rfl

/-- Every segment has a target, seen from anywhere, or a reason why it has none. -/
theorem interpolateOn_total (start stop here : Point ℝ) (reach : ℝ) :
    ∃ result, interpolateOn start stop here reach = .ok result := by
  cases through : Line.through start stop with
  | error coincident => exact ⟨.error .degenerate, by rw [interpolateOn, through]⟩
  | ok line => exact ⟨_, Segment.interpolateOn_here ⟨start, stop, line, through⟩ here reach⟩

end PathTracking.Exact
