import PathTracking.Proofs.Exact.Aiming

/-!
# Where targets between waypoints lie

A target that the interpolation finds is one of the two points where the lookahead circle meets a
parallel to the segment, or its foot if the circle only touches that line (`Found`). If there is
none, the circle does not reach the line or neither point is close enough to the waypoint aimed at
(`Lost`). A target is at the lookahead distance, at the height of the vehicle and, unless it is the
foot, closer to the waypoint aimed at than the segment is long (`interpolated_on_circle`). The
parallel is the line of the segment, with one exception: the tolerance of the test for the foot is
one of the residual, which grows with the length of the segment. On a short segment the foot is
taken on the wrong side of a vehicle that is close enough to the left of it, and then the target
lies off the line by twice the distance of the vehicle (`interpolated_offset`,
`interpolated_off_line`).
-/
namespace PathTracking.Exact

namespace Segment

variable (s : Segment)

/-- On the line the drift is the offset of the foot. -/
theorem abs_drift (n : ℝ) :
    |s.drift n| = if n < 0 ∧ s.length * (2 * |n|) < Line.tolerance then 2 * |n| else 0 := by
  unfold drift
  split
  · rw [abs_mul, abs_two]
  · exact abs_zero

/-- How a target is found from the coordinates `t` and `n`, and its own coordinates. -/
inductive Found (t n reach : ℝ) : ℝ × ℝ → Prop
  | foot (touches : |n| = reach) : Found t n reach (t, s.drift n)
  | ahead (cuts : |n| < reach)
      (closer : √((t + √(reach ^ 2 - n ^ 2) - s.length) ^ 2 + s.drift n ^ 2) < s.length) :
      Found t n reach (t + √(reach ^ 2 - n ^ 2), s.drift n)
  | behind (cuts : |n| < reach)
      (farther : ¬ √((t + √(reach ^ 2 - n ^ 2) - s.length) ^ 2 + s.drift n ^ 2) < s.length)
      (closer : √((t - √(reach ^ 2 - n ^ 2) - s.length) ^ 2 + s.drift n ^ 2) < s.length) :
      Found t n reach (t - √(reach ^ 2 - n ^ 2), s.drift n)

/-- Why no target is found from the coordinates `t` and `n`. -/
inductive Lost (t n reach : ℝ) : Miss → Prop
  | outOfRange (far : reach < |n|) : Lost t n reach .outOfRange
  | noIntersection (cuts : |n| < reach)
      (ahead : ¬ √((t + √(reach ^ 2 - n ^ 2) - s.length) ^ 2 + s.drift n ^ 2) < s.length)
      (behind : ¬ √((t - √(reach ^ 2 - n ^ 2) - s.length) ^ 2 + s.drift n ^ 2) < s.length) :
      Lost t n reach .noIntersectionOnSegment

/-- Either there is a way to the target or a reason why there is none. -/
theorem targetFrom_course (t n reach : ℝ) :
    match s.targetFrom t n reach with
    | .ok c => s.Found t n reach c
    | .error miss => s.Lost t n reach miss := by
  unfold targetFrom
  by_cases far : reach < |n|
  · rw [if_pos far]
    exact .outOfRange far
  · rw [if_neg far]
    by_cases touches : |n| = reach
    · rw [if_pos touches]
      exact .foot touches
    · have cuts := lt_of_le_of_ne (not_lt.mp far) touches
      rw [if_neg touches]
      -- The crossing ahead is tried first.
      by_cases closer :
        √((t + √(reach ^ 2 - n ^ 2) - s.length) ^ 2 + s.drift n ^ 2) < s.length
      · rw [if_pos closer]
        exact .ahead cuts closer
      · rw [if_neg closer]
        by_cases behind :
          √((t - √(reach ^ 2 - n ^ 2) - s.length) ^ 2 + s.drift n ^ 2) < s.length
        · rw [if_pos behind]
          exact .behind cuts closer behind
        · rw [if_neg behind]
          exact .noIntersection cuts closer behind

theorem targetFrom_eq_ok_iff {t n reach : ℝ} {c : ℝ × ℝ} :
    s.targetFrom t n reach = .ok c ↔ s.Found t n reach c := by
  constructor
  · intro found
    have course := s.targetFrom_course t n reach
    rw [found] at course
    exact course
  · intro found
    unfold targetFrom
    cases found with
    | foot touches => rw [if_neg touches.not_gt, if_pos touches]
    | ahead cuts closer => rw [if_neg cuts.not_gt, if_neg cuts.ne, if_pos closer]
    | behind cuts farther closer =>
      rw [if_neg cuts.not_gt, if_neg cuts.ne, if_neg farther, if_pos closer]

theorem targetFrom_eq_error_iff {t n reach : ℝ} {miss : Miss} :
    s.targetFrom t n reach = .error miss ↔ s.Lost t n reach miss := by
  constructor
  · intro lost
    have course := s.targetFrom_course t n reach
    rw [lost] at course
    exact course
  · intro lost
    unfold targetFrom
    cases lost with
    | outOfRange far => rw [if_pos far]
    | noIntersection cuts ahead behind =>
      rw [if_neg cuts.not_gt, if_neg cuts.ne, if_neg ahead, if_neg behind]

/-- What is found in the frame of the segment that leads to a waypoint is its target. -/
theorem interpolate_of_found {route : Route ℝ} {pose : Pose ℝ} {reach : ℝ} {i : Nat}
    {before w : Waypoint ℝ} {c : ℝ × ℝ} (first : 0 < i) (last : i + 1 < route.length)
    (at_before : route[i - 1]? = some before) (at_index : route[i]? = some w)
    (start : s.start = before.position) (stop : s.stop = w.position)
    (found : s.Found (s.along pose.position) (s.beside pose.position) reach c) :
    route.interpolate i pose reach = .ok (.ok (s.point c.1 c.2 pose.z)) := by
  rw [Route.interpolate_inner first last at_before at_index, ← start, ← stop,
    s.interpolateOn_here, s.targetFrom_eq_ok_iff.mpr found]
  rfl

namespace Found

variable {s} {t n reach : ℝ} {c : ℝ × ℝ}

/-- Whichever it is, the target has drifted with the foot. -/
theorem drifted (found : s.Found t n reach c) : c.2 = s.drift n := by
  cases found <;> rfl

theorem room (near : |n| ≤ reach) : 0 ≤ reach ^ 2 - n ^ 2 := by
  rw [sub_nonneg, ← sq_abs n]
  exact pow_le_pow_left₀ (abs_nonneg n) near 2

/-- A drift leaves the target on the circle, as the foot is as far away as the line. -/
theorem on_circle (found : s.Found t n reach c) :
    √((c.1 - t) ^ 2 + (c.2 - n) ^ 2) = reach := by
  cases found with
  | foot touches => rw [sub_self, drift_sub_sq, zero_pow two_ne_zero, zero_add,
      Real.sqrt_sq_eq_abs, touches]
  | ahead cuts =>
    rw [add_sub_cancel_left, drift_sub_sq, Real.sq_sqrt (room cuts.le), sub_add_cancel,
      Real.sqrt_sq ((abs_nonneg n).trans cuts.le)]
  | behind cuts =>
    rw [sub_sub_cancel_left, neg_sq, drift_sub_sq, Real.sq_sqrt (room cuts.le), sub_add_cancel,
      Real.sqrt_sq ((abs_nonneg n).trans cuts.le)]

/-- A target that is a crossing is closer to the stop than the start is. -/
theorem closer (found : s.Found t n reach c) (apart : |n| ≠ reach) :
    √((c.1 - s.length) ^ 2 + c.2 ^ 2) < s.length := by
  cases found with
  | foot touches => exact absurd touches apart
  | ahead _ closer => exact closer
  | behind _ _ closer => exact closer

theorem crossing (found : s.Found t n reach c) :
    c.1 = t + √(reach ^ 2 - n ^ 2) ∨ c.1 = t - √(reach ^ 2 - n ^ 2) := by
  cases found with
  | foot touches =>
    -- Where the circle touches the parallel, both crossings are the foot.
    rw [← touches, sq_abs, sub_self, Real.sqrt_zero]
    exact .inl (add_zero t).symm
  | ahead => exact .inl rfl
  | behind => exact .inr rfl

/-- The crossing behind the foot is taken only if the one ahead will not do. -/
theorem farther (found : s.Found t n reach c) (behind : c.1 = t - √(reach ^ 2 - n ^ 2))
    (apart : 0 < √(reach ^ 2 - n ^ 2)) :
    ¬ √((t + √(reach ^ 2 - n ^ 2) - s.length) ^ 2 + s.drift n ^ 2) < s.length := by
  cases found with
  | foot touches =>
    rw [← touches, sq_abs, sub_self, Real.sqrt_zero] at apart
    exact absurd apart (lt_irrefl 0)
  | ahead =>
    dsimp only at behind
    linarith
  | behind _ farther => exact farther

end Found
end Segment

section Interpolated

variable {route : Route ℝ} {pose : Pose ℝ} {reach : ℝ} {i : Nat} {before w : Waypoint ℝ}
  {target : Point ℝ}

/-- A target between the ends of a route comes from the segment that leads to the waypoint. -/
theorem segment_of_interpolated (first : 0 < i) (last : i + 1 < route.length)
    (at_before : route[i - 1]? = some before) (at_index : route[i]? = some w)
    (found : route.interpolate i pose reach = .ok (.ok target)) :
    ∃ s : Segment, s.start = before.position ∧ s.stop = w.position ∧
      ∃ c, s.Found (s.along pose.position) (s.beside pose.position) reach c ∧
        target = s.point c.1 c.2 pose.z := by
  rw [Route.interpolate_inner first last at_before at_index] at found
  cases through : Line.through before.position w.position with
  | error coincident =>
    rw [interpolateOn, through] at found
    cases found
  | ok line =>
    let s : Segment := ⟨before.position, w.position, line, through⟩
    refine ⟨s, rfl, rfl, ?_⟩
    rw [show interpolateOn before.position w.position pose.position reach = _ from
      s.interpolateOn_here pose.position reach] at found
    cases hit : s.targetFrom (s.along pose.position) (s.beside pose.position) reach with
    | error miss => rw [hit] at found; cases found
    | ok c =>
      rw [hit] at found
      cases found
      exact ⟨c, s.targetFrom_eq_ok_iff.mp hit, rfl⟩

/-- A target between the ends of a route is at the lookahead distance and at the height of the
vehicle. It is one of the two points that lie half a chord ahead of the foot and behind it. Unless
the line is as far away as the lookahead distance, it is closer to the waypoint aimed at than the
segment is long, and it is the point behind the foot only if the one ahead is not that close. -/
theorem interpolated_on_circle (first : 0 < i) (last : i + 1 < route.length)
    (at_before : route[i - 1]? = some before) (at_index : route[i]? = some w)
    (found : route.interpolate i pose reach = .ok (.ok target)) :
    ∃ s : Segment, s.start = before.position ∧ s.stop = w.position ∧
    ∃ d foot, s.line.distance pose.position = .ok d ∧
      s.line.foot pose.position d s.unit = .ok (some foot) ∧
      let half := √(reach ^ 2 - d ^ 2)
      let ahead := foot.along s.unit half pose.z
      let behind := foot.against s.unit half pose.z
      target.planeDistance pose.position = reach ∧ target.z = pose.z ∧
      (target = ahead ∨ target = behind) ∧
      (d ≠ reach → target.planeDistance w.position < w.position.planeDistance before.position) ∧
      (target = behind → 0 < half →
        ¬ ahead.planeDistance w.position < w.position.planeDistance before.position) := by
  obtain ⟨s, start, stop, c, hit, rfl⟩ :=
    segment_of_interpolated first last at_before at_index found
  have here := s.point_coordinates pose.position
  have length : w.position.planeDistance before.position = s.length := by
    rw [Segment.length, start, stop]
  -- From here on only the coordinates in the frame of the segment count.
  generalize s.along pose.position = t, s.beside pose.position = n at hit here
  have toStop (t' : ℝ) : (s.point t' (s.drift n) pose.z).planeDistance w.position =
      √((t' - s.length) ^ 2 + s.drift n ^ 2) := by
    rw [← stop, s.stop_eq, Segment.planeDistance_point, sub_zero]
  refine ⟨s, start, stop, |n|, s.point t (s.drift n) pose.z, ?_, ?_, ?_⟩
  · rw [← here, Segment.distance_point]
  · rw [← here, Segment.foot_point]
    rfl
  · rw [sq_abs]
    intro half
    simp only [Segment.along_shift, Segment.against_shift, toStop, length]
    refine ⟨?_, rfl, ?_, ?_, ?_⟩
    · rw [← here, Segment.planeDistance_point]
      exact hit.on_circle
    · rw [← hit.drifted]
      exact hit.crossing.imp (fun ahead => by rw [ahead]) (fun behind => by rw [behind])
    · intro apart
      rw [hit.drifted, toStop, ← hit.drifted]
      exact hit.closer apart
    · intro behind apart
      -- Equal points have equal coordinates, which tell the two crossings apart.
      have place := congrArg s.along behind
      rw [Segment.along_point, Segment.along_point] at place
      exact hit.farther place apart

/-- Past the end of the segment the circle leaves the line too far ahead, and the target is the
crossing behind. -/
theorem interpolate_row_behind :
    (row [-5, 0, 2, 10]).interpolate (2 : Nat) (onAxis (5 / 2)) 2 = .ok (.ok ⟨1 / 2, 0, 0⟩) := by
  let s := rowSegment 0 2 (by norm_num)
  have length : s.length = 2 := (planeDistance_axis 2 0 0 0).trans (by norm_num)
  have along (x : ℝ) : s.along ⟨x, 0, 0⟩ = x := by
    rw [along_row _ x 0 (by norm_num), sub_zero]
  have beside (x : ℝ) : s.beside ⟨x, 0, 0⟩ = 0 := beside_row _ x 0
  have straight : s.drift 0 = 0 := s.drift_of_apart (.inl le_rfl)
  have half : √((2 : ℝ) ^ 2 - 0 ^ 2) = 2 := by
    rw [zero_pow two_ne_zero, sub_zero, Real.sqrt_sq zero_le_two]
  have place : s.point (5 / 2 - √(2 ^ 2 - 0 ^ 2)) (s.drift 0) 0 = ⟨1 / 2, 0, 0⟩ := by
    rw [half, straight, show (5 / 2 - 2 : ℝ) = 1 / 2 by norm_num]
    simpa only [along, beside] using s.point_coordinates ⟨1 / 2, 0, 0⟩
  have found : s.Found (s.along (onAxis (5 / 2)).position) (s.beside (onAxis (5 / 2)).position) 2
      (5 / 2 - √(2 ^ 2 - 0 ^ 2), s.drift 0) := by
    rw [onAxis, Pose.position, along, beside]
    refine .behind (by norm_num) ?_ ?_
    · rw [straight, half, length, not_lt, Real.le_sqrt' two_pos]
      norm_num
    · rw [straight, half, length, Real.sqrt_lt' two_pos]
      norm_num
  rw [← place]
  exact s.interpolate_of_found (by norm_num) (by simp [row])
    (rfl : (row [-5, 0, 2, 10])[2 - 1]? = some ⟨0, 0, 0, none⟩)
    (rfl : (row [-5, 0, 2, 10])[2]? = some ⟨2, 0, 0, none⟩) rfl rfl found

theorem interpolated_on_circle_behind :
    let route := row [-5, 0, 2, 10]
    let pose := onAxis (5 / 2)
    let target : Point ℝ := ⟨1 / 2, 0, 0⟩
    route.interpolate (2 : Nat) pose 2 = .ok (.ok target) ∧
    ∃ s : Segment, s.start = ⟨0, 0, 0⟩ ∧ s.stop = ⟨2, 0, 0⟩ ∧
    ∃ d foot, s.line.distance pose.position = .ok d ∧
      s.line.foot pose.position d s.unit = .ok (some foot) ∧
      let half := √(2 ^ 2 - d ^ 2)
      let ahead := foot.along s.unit half pose.z
      let behind := foot.against s.unit half pose.z
      target.planeDistance pose.position = 2 ∧ target.z = pose.z ∧
      (target = ahead ∨ target = behind) ∧
      (d ≠ 2 → target.planeDistance ⟨2, 0, 0⟩ < (⟨2, 0, 0⟩ : Point ℝ).planeDistance ⟨0, 0, 0⟩) ∧
      (target = behind → 0 < half →
        ¬ ahead.planeDistance ⟨2, 0, 0⟩ < (⟨2, 0, 0⟩ : Point ℝ).planeDistance ⟨0, 0, 0⟩) := by
  intro route pose target
  have found := interpolate_row_behind
  exact ⟨found, interpolated_on_circle (by norm_num) (by simp [route, row])
    (rfl : route[2 - 1]? = some ⟨0, 0, 0, none⟩) (rfl : route[2]? = some ⟨2, 0, 0, none⟩) found⟩

/-- A target between the ends of a route lies on the line of the segment, unless the vehicle is so
closely to the left of it that the foot is taken on the wrong side. Then it lies off the line by
twice the distance of the vehicle, which is below the tolerance on every segment of a metre or
more. -/
theorem interpolated_offset (first : 0 < i) (last : i + 1 < route.length)
    (at_before : route[i - 1]? = some before) (at_index : route[i]? = some w)
    (found : route.interpolate i pose reach = .ok (.ok target)) :
    ∃ line d offset, Line.through before.position w.position = .ok line ∧
      line.distance pose.position = .ok d ∧ line.distance target = .ok offset ∧
      let length := w.position.planeDistance before.position
      let slips := line.residual pose.position < 0 ∧ length * (2 * d) < Line.tolerance
      (slips → offset = 2 * d) ∧ (¬ slips → offset = 0) ∧
      (offset < Line.tolerance ↔ ¬ (slips ∧ Line.tolerance ≤ 2 * d)) ∧
      (1 ≤ length → offset < Line.tolerance) := by
  obtain ⟨s, start, stop, c, hit, rfl⟩ :=
    segment_of_interpolated first last at_before at_index found
  have positive := s.length_pos
  have here := s.point_coordinates pose.position
  have length : w.position.planeDistance before.position = s.length := by
    rw [Segment.length, start, stop]
  generalize s.along pose.position = t, s.beside pose.position = n at hit here
  refine ⟨s.line, |n|, |s.drift n|, ?_, ?_, ?_, ?_⟩
  · rw [← start, ← stop, s.through]
  · rw [← here, Segment.distance_point]
  · rw [Segment.distance_point, hit.drifted]
  · intro length' slips
    have left : s.line.residual pose.position < 0 ↔ n < 0 := by
      rw [← here, Segment.residual_point]
      exact ⟨(neg_of_mul_neg_right · positive.le), mul_neg_of_pos_of_neg positive⟩
    have same : slips ↔ n < 0 ∧ s.length * (2 * |n|) < Line.tolerance := by
      simp only [slips, length', left, length]
    rw [same, show length' = s.length from length, s.abs_drift]
    have tolerance := Segment.tolerance_pos
    -- Either the foot has slipped, and the target with it, or both are on the line.
    split
    next slipped =>
      refine ⟨fun _ => rfl, fun straight => absurd slipped straight, ?_, ?_⟩
      · rw [and_iff_right slipped, not_le]
      · intro long
        nlinarith [abs_nonneg n]
    next straight =>
      refine ⟨fun slipped => absurd slipped straight, fun _ => rfl, ?_, fun _ => tolerance⟩
      exact iff_of_true tolerance fun slipped => straight slipped.1

theorem interpolated_offset_behind :
    let route := row [-5, 0, 2, 10]
    let pose := onAxis (5 / 2)
    let target : Point ℝ := ⟨1 / 2, 0, 0⟩
    route.interpolate (2 : Nat) pose 2 = .ok (.ok target) ∧
    ∃ line d offset, Line.through (⟨0, 0, 0⟩ : Point ℝ) ⟨2, 0, 0⟩ = .ok line ∧
      line.distance pose.position = .ok d ∧ line.distance target = .ok offset ∧
      let length := (⟨2, 0, 0⟩ : Point ℝ).planeDistance ⟨0, 0, 0⟩
      let slips := line.residual pose.position < 0 ∧ length * (2 * d) < Line.tolerance
      (slips → offset = 2 * d) ∧ (¬ slips → offset = 0) ∧
      (offset < Line.tolerance ↔ ¬ (slips ∧ Line.tolerance ≤ 2 * d)) ∧
      (1 ≤ length → offset < Line.tolerance) := by
  intro route pose target
  have found := interpolate_row_behind
  exact ⟨found, interpolated_offset (by norm_num) (by simp [route, row])
    (rfl : route[2 - 1]? = some ⟨0, 0, 0, none⟩) (rfl : route[2]? = some ⟨2, 0, 0, none⟩) found⟩

end Interpolated

/-! ## A short segment -/

/-- The first two millimetres of the x axis. -/
noncomputable def shortSegment : Segment where
  start := ⟨0, 0, 0⟩
  stop := ⟨1 / 500, 0, 0⟩
  line := ⟨0 - 0, 0 - 1 / 500, -(0 - 0) * 0 - (0 - 1 / 500) * 0⟩
  through := by
    refine if_neg fun close => ?_
    have near : |(0 : ℝ) - 1 / 500| < Line.tolerance := close.2
    norm_num [Line.tolerance] at near

theorem length_short : shortSegment.length = 1 / 500 :=
  (planeDistance_axis (1 / 500) 0 0 0).trans (by norm_num)

theorem unit_short : shortSegment.unit = ⟨1, 0⟩ := by
  rw [Segment.unit, length_short]
  norm_num [shortSegment]

theorem along_short (p : Point ℝ) : shortSegment.along p = p.x := by
  rw [Segment.along, unit_short]
  simp [shortSegment]

theorem beside_short (p : Point ℝ) : shortSegment.beside p = -p.y := by
  rw [Segment.beside, unit_short]
  simp [shortSegment]

/-- Three tenths of a millimetre to the left of two millimetres, the foot is taken another three
tenths to the left. -/
theorem drift_short : shortSegment.drift (-(3 / 10000)) = -(3 / 5000) := by
  rw [Segment.drift, length_short, if_pos]
  · norm_num
  · norm_num [Line.tolerance, abs_of_pos]

/-- The target on a short segment lies six tenths of a millimetre beside its line. -/
theorem interpolated_off_line :
    let route := row [0, 1 / 500, 1]
    let pose : Pose ℝ := ⟨1 / 1000, 3 / 10000, 0, 0⟩
    let target : Point ℝ := ⟨7 / 5000, 3 / 5000, 0⟩
    route.interpolate (1 : Nat) pose (1 / 2000) = .ok (.ok target) ∧
    ∃ line, Line.through (⟨0, 0, 0⟩ : Point ℝ) ⟨1 / 500, 0, 0⟩ = .ok line ∧
      line.distance target = .ok (3 / 5000) ∧ ¬ (3 / 5000 : ℝ) < Line.tolerance := by
  intro route pose target
  let s := shortSegment
  have half : √((1 / 2000 : ℝ) ^ 2 - (-(3 / 10000)) ^ 2) = 1 / 2500 := by
    rw [Real.sqrt_eq_iff_eq_sq (by norm_num) (by norm_num)]
    norm_num
  have place : s.point (1 / 1000 + √((1 / 2000) ^ 2 - (-(3 / 10000)) ^ 2))
      (s.drift (-(3 / 10000))) pose.z = target := by
    rw [half, drift_short, show (1 / 1000 + 1 / 2500 : ℝ) = 7 / 5000 by norm_num]
    have coordinates := shortSegment.point_coordinates target
    rw [along_short, beside_short] at coordinates
    exact coordinates
  have found : s.Found (s.along pose.position) (s.beside pose.position) (1 / 2000)
      (1 / 1000 + √((1 / 2000) ^ 2 - (-(3 / 10000)) ^ 2), s.drift (-(3 / 10000))) := by
    rw [along_short, beside_short]
    refine .ahead ?_ ?_
    · norm_num [pose, Pose.position, abs_of_pos]
    · change √((1 / 1000 + √((1 / 2000) ^ 2 - (-(3 / 10000)) ^ 2) - s.length) ^ 2 +
        s.drift (-(3 / 10000)) ^ 2) < s.length
      rw [half, drift_short, length_short, Real.sqrt_lt' (by norm_num)]
      norm_num
  have interpolated := s.interpolate_of_found Nat.one_pos (by simp [route, row])
    (rfl : route[1 - 1]? = some ⟨0, 0, 0, none⟩) (rfl : route[1]? = some ⟨1 / 500, 0, 0, none⟩)
    rfl rfl found
  rw [place] at interpolated
  refine ⟨interpolated, s.line, s.through, ?_, ?_⟩
  · rw [← place, Segment.distance_point, drift_short, abs_neg, abs_of_pos (by norm_num)]
  · norm_num [Line.tolerance]

end PathTracking.Exact
