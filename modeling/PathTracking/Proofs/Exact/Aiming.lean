import PathTracking.Proofs.Exact.Leg
import PathTracking.Proofs.Exact.Segment

/-!
# Aiming between waypoints

Between the ends of a route the search finds a segment that starts within the lookahead circle
and stops beyond it. The circle leaves the segment at `exit`, and that is where the tracker
aims (`track_inner`), unless it leaves where the segment starts (`Misses`). A point closely to the
left of the line is left out: its foot may be taken beside the line (`drift`).
-/
namespace PathTracking.Exact

namespace Segment

variable (s : Segment) {here : Point ℝ} {reach : ℝ}

/-- How far along the segment the circle around a point leaves its line. -/
noncomputable def exit (here : Point ℝ) (reach : ℝ) : ℝ :=
  s.along here + √(reach ^ 2 - s.beside here ^ 2)

theorem start_distance (here : Point ℝ) :
    s.start.planeDistance here = √(s.along here ^ 2 + s.beside here ^ 2) := by
  rw [s.start_eq, ← s.point_coordinates here, planeDistance_point, s.point_coordinates, zero_sub,
    zero_sub, neg_sq, neg_sq]

theorem stop_distance (here : Point ℝ) :
    s.stop.planeDistance here = √((s.length - s.along here) ^ 2 + s.beside here ^ 2) := by
  conv_lhs => rw [s.stop_eq, ← s.point_coordinates here, planeDistance_point]
  rw [zero_sub, neg_sq]

/-- A circle that holds the start and not the stop leaves the line between them. -/
theorem exit_between (within : s.start.planeDistance here ≤ reach)
    (beyond : reach < s.stop.planeDistance here) :
    |s.beside here| ≤ reach ∧ 0 ≤ s.exit here reach ∧ s.exit here reach < s.length ∧
      s.along here ≤ √(reach ^ 2 - s.beside here ^ 2) := by
  have positive := s.length_pos
  rw [start_distance] at within
  rw [stop_distance] at beyond
  have reaching : 0 ≤ reach := (Real.sqrt_nonneg _).trans within
  have inside : s.along here ^ 2 + s.beside here ^ 2 ≤ reach ^ 2 :=
    (Real.sqrt_le_left reaching).mp within
  have outside : reach ^ 2 < (s.length - s.along here) ^ 2 + s.beside here ^ 2 :=
    (Real.lt_sqrt reaching).mp beyond
  have half := Real.sqrt_nonneg (reach ^ 2 - s.beside here ^ 2)
  have square := Real.sq_sqrt (show 0 ≤ reach ^ 2 - s.beside here ^ 2 by nlinarith)
  unfold exit
  generalize √(reach ^ 2 - s.beside here ^ 2) = r at half square ⊢
  have back : |s.along here| ≤ r := abs_le_of_sq_le_sq (by linarith) half
  have ahead : r < |s.length - s.along here| := by
    by_contra short
    have := pow_le_pow_left₀ (abs_nonneg _) (not_lt.mp short) 2
    rw [sq_abs] at this
    linarith
  obtain ⟨low, high⟩ := abs_le.mp back
  refine ⟨abs_le_of_sq_le_sq (by nlinarith) reaching, by linarith, ?_, high⟩
  -- The circle cannot lie beyond the stop, since it holds the start.
  rcases lt_abs.mp ahead with front | behind
  · linarith
  · linarith

/-- The circle leaves the segment where it starts: the start is on the circle, ahead of the
point. -/
def Misses (here : Point ℝ) (reach : ℝ) : Prop :=
  s.start.planeDistance here = reach ∧ s.along here < 0

/-- The point where the circle leaves the segment. -/
noncomputable def aimed (here : Point ℝ) (reach : ℝ) : Point ℝ :=
  s.point (s.exit here reach) 0 here.z

theorem aimed_distance (near : |s.beside here| ≤ reach) :
    (s.aimed here reach).planeDistance here = reach := by
  have reaching : 0 ≤ reach := (abs_nonneg _).trans near
  have room : 0 ≤ reach ^ 2 - s.beside here ^ 2 := by
    rw [sub_nonneg, ← sq_abs (s.beside here)]
    exact pow_le_pow_left₀ (abs_nonneg _) near 2
  rw [aimed]
  conv_lhs => rw [← s.point_coordinates here, planeDistance_point, s.point_coordinates]
  rw [zero_sub, neg_sq, exit, add_sub_cancel_left, Real.sq_sqrt room, sub_add_cancel,
    Real.sqrt_sq reaching]

theorem along_point (t n z : ℝ) : s.along (s.point t n z) = t := by
  have unit := s.unit_sq
  unfold along point
  dsimp only
  linear_combination t * unit

theorem beside_point (t n z : ℝ) : s.beside (s.point t n z) = n := by
  have unit := s.unit_sq
  unfold beside point
  dsimp only
  linear_combination n * unit

/-- The foot lies on the line unless the point is so closely to the left of it that a step away
from the line still passes for one that leads to it. -/
theorem drift_of_apart {n : ℝ} (apart : 0 ≤ n ∨ Line.tolerance ≤ s.length * (2 * |n|)) :
    s.drift n = 0 := by
  rw [drift, if_neg]
  rintro ⟨left, close⟩
  rcases apart with right | far
  · exact absurd left (not_lt.mpr right)
  · exact absurd close (not_lt.mpr far)

/-- The start is the only point of the segment that is as far from the stop. -/
theorem exit_eq_zero_iff (within : s.start.planeDistance here ≤ reach)
    (beyond : reach < s.stop.planeDistance here) (cuts : |s.beside here| < reach) :
    s.exit here reach = 0 ↔ s.Misses here reach := by
  obtain ⟨near, begun, unended, -⟩ := s.exit_between within beyond
  have reaching : 0 ≤ reach := (abs_nonneg _).trans near
  rw [Misses, start_distance]
  constructor
  · intro leaving
    have room : 0 < reach ^ 2 - s.beside here ^ 2 := by
      rw [sub_pos, ← sq_abs (s.beside here)]
      exact pow_lt_pow_left₀ cuts (abs_nonneg _) two_ne_zero
    have half := Real.sqrt_pos.mpr room
    have square := Real.sq_sqrt room.le
    have back : s.along here = -√(reach ^ 2 - s.beside here ^ 2) :=
      eq_neg_of_add_eq_zero_left leaving
    refine ⟨?_, by linarith⟩
    rw [back, neg_sq, square, sub_add_cancel, Real.sqrt_sq reaching]
  · rintro ⟨edge, behind⟩
    have circle : s.along here ^ 2 + s.beside here ^ 2 = reach ^ 2 := by
      rw [← edge, Real.sq_sqrt (by positivity)]
    rw [exit, ← circle, add_sub_cancel_right, Real.sqrt_sq_eq_abs, abs_of_neg behind,
      add_neg_cancel]

/-- A circle that touches the line does not miss the segment. -/
theorem not_misses_of_tangent (tangent : |s.beside here| = reach) : ¬ s.Misses here reach := by
  rintro ⟨edge, behind⟩
  have reaching : 0 ≤ reach := tangent ▸ abs_nonneg _
  rw [start_distance] at edge
  have circle : s.along here ^ 2 + s.beside here ^ 2 = reach ^ 2 := by
    rw [← edge, Real.sq_sqrt (by positivity)]
  rw [← tangent, sq_abs] at circle
  nlinarith

/-- Where the search has found a segment, the interpolation finds the crossing, or nothing if
it misses it. -/
theorem interpolateOn_between (within : s.start.planeDistance here ≤ reach)
    (beyond : reach < s.stop.planeDistance here) (straight : s.drift (s.beside here) = 0) :
    (s.Misses here reach →
      interpolateOn s.start s.stop here reach = .ok (.error .noIntersectionOnSegment)) ∧
    (¬ s.Misses here reach →
      interpolateOn s.start s.stop here reach = .ok (.ok (s.aimed here reach))) := by
  obtain ⟨near, begun, unended, front⟩ := s.exit_between within beyond
  have positive := s.length_pos
  have closed := s.interpolateOn_eq (s.along here) (s.beside here) here.z reach
  rw [s.point_coordinates, if_neg (not_lt.mpr near), straight] at closed
  rw [closed]
  rcases near.eq_or_lt with tangent | cuts
  · -- The circle touches the line in the foot, which then is the crossing.
    have foot : s.point (s.along here) 0 here.z = s.aimed here reach := by
      rw [aimed, exit, ← tangent, sq_abs, sub_self, Real.sqrt_zero, add_zero]
    rw [if_pos tangent, foot]
    exact ⟨fun missed => absurd missed (s.not_misses_of_tangent tangent), fun _ => rfl⟩
  · have crossed := s.crossing_point (s.along here) (s.beside here) here.z reach near
    rw [s.point_coordinates, straight, zero_pow two_ne_zero, add_zero, add_zero,
      Real.sqrt_sq_eq_abs, Real.sqrt_sq_eq_abs, ← exit] at crossed
    -- The crossing behind lies before the start, and so is farther from the stop.
    have behind : ¬ |s.along here - √(reach ^ 2 - s.beside here ^ 2) - s.length| < s.length := by
      rw [not_lt, le_abs]
      right
      linarith
    have ahead : |s.exit here reach - s.length| < s.length ↔ ¬ s.Misses here reach := by
      rw [← s.exit_eq_zero_iff within beyond cuts, abs_of_neg (by linarith)]
      constructor
      · intro short leaving
        linarith
      · intro away
        have := lt_of_le_of_ne begun (Ne.symm away)
        linarith
    rw [if_neg behind] at crossed
    rw [if_neg cuts.ne, crossed]
    refine ⟨fun missed => ?_, fun hit => ?_⟩
    · rw [if_neg fun short => ahead.mp short missed]
    · rw [if_pos (ahead.mpr hit)]
      rfl

end Segment

/-! ## Computations come to an end -/

/-- A waypoint that the search can find has a target, or a reason why it has none. -/
theorem target_total {route : Route ℝ} {config : Lookahead ℝ} {i : Nat} (inside : i < route.length)
    (pose : Pose ℝ) :
    ∃ target, route.target i (route.kindAt config i) pose config.distance = .ok target := by
  have at_index : route[i]? = some route[i] := List.getElem?_eq_getElem inside
  cases kind : route.kindAt config i with
  | raw => exact ⟨.ok route[i].position, by simp only [Route.target, at_index]⟩
  | interpolated =>
    obtain ⟨first, last⟩ := Route.between_of_interpolated inside kind
    have at_before : route[i - 1]? = some route[i - 1] :=
      List.getElem?_eq_getElem (Nat.lt_of_le_of_lt (Nat.sub_le ..) inside)
    obtain ⟨target, found⟩ := interpolateOn_total route[i - 1].position route[i].position
      pose.position config.distance
    refine ⟨target, ?_⟩
    dsimp only [Route.target]
    rw [Route.interpolate_inner first last at_before at_index, found]
    rfl

/-- No computation is interrupted. -/
theorem track_total (route : Route ℝ) (pose : Pose ℝ) (config : Lookahead ℝ) :
    ∃ tick, route.track pose config = .ok tick := by
  have course := route.track_course pose config
  generalize route.track pose config = result at course ⊢
  cases course with
  | pathLost | noValidCurve | targetLost | onTarget => exact ⟨_, rfl⟩
  | targetFault found _ failed =>
    obtain ⟨target, aimed⟩ := target_total (Route.search_spec found).1 pose
    rw [aimed] at failed
    cases failed
  | @curvatureFault _ target _ _ _ _ failed =>
    obtain ⟨kappa, steered⟩ := curvatureTo_total pose target saturation
    rw [steered] at failed
    cases failed

/-- No tick is interrupted. -/
theorem tick_total (l : ControlLoop ℝ) : ∃ tick, (l.apply .tick).2.result = .ok tick := by
  rw [ControlLoop.apply_tick]
  cases went : l.follower.outcome l.inputs with
  | finished => exact ⟨none, by rw [Follower.tick_finished went]; rfl⟩
  | waiting => exact ⟨none, by rw [Follower.tick_waiting went]; rfl⟩
  | arrived => exact ⟨l.follower.last, by rw [Follower.tick_arrived went]⟩
  | interrupted fault =>
    have course := l.follower.outcome_course l.inputs
    rw [went] at course
    cases course with
    | @interrupted pose _ _ _ _ _ failed =>
      obtain ⟨tick, tracked⟩ := track_total (l.follower.sync l.inputs).tracker.route pose
        (l.follower.sync l.inputs).tracker.config
      rw [tracked] at failed
      cases failed
  | computed tick =>
    obtain ⟨after, calls, notices, -, ticked⟩ := Follower.tick_computed went
    exact ⟨some tick, by rw [ticked]⟩

/-! ## Waypoints in a row -/

/-- Waypoints on the x axis. -/
def row (places : List ℝ) : Route ℝ := places.map fun x => ⟨x, 0, 0, none⟩

/-- A segment of the x axis. -/
noncomputable def rowSegment (x y : ℝ) (apart : 1 ≤ |x - y|) : Segment where
  start := ⟨x, 0, 0⟩
  stop := ⟨y, 0, 0⟩
  line := ⟨0 - 0, x - y, -(0 - 0) * x - (x - y) * 0⟩
  through := by
    refine if_neg fun close => ?_
    have near : |x - y| < Line.tolerance := close.2
    norm_num [Line.tolerance] at near
    linarith

section Row

variable {x y : ℝ} (apart : 1 ≤ |x - y|)

theorem beside_row (p z : ℝ) : (rowSegment x y apart).beside ⟨p, 0, z⟩ = 0 := by
  simp [Segment.beside, Segment.unit, rowSegment]

theorem along_row (p z : ℝ) (ascending : x < y) :
    (rowSegment x y apart).along ⟨p, 0, z⟩ = p - x := by
  have length : (rowSegment x y apart).length = y - x := by
    rw [Segment.length, rowSegment, planeDistance_axis, abs_of_pos (sub_pos.mpr ascending)]
  have positive : y - x ≠ 0 := (sub_pos.mpr ascending).ne'
  simp only [Segment.along, Segment.unit, length]
  simp [rowSegment, div_self positive]

end Row

/-! ## The computation between the ends of a route -/

section Inner

variable {route : Route ℝ} {pose : Pose ℝ} {config : Lookahead ℝ} {i : Nat}
  {before w : Waypoint ℝ}

/-- The segment that leads to the waypoint found starts within the circle and stops beyond
it. -/
theorem search_between (found : route.search pose config.distance = some i) (first : 0 < i)
    (last : i + 1 < route.length) (at_before : route[i - 1]? = some before)
    (at_index : route[i]? = some w) :
    before.position.planeDistance pose.position ≤ config.distance ∧
    config.distance < w.position.planeDistance pose.position := by
  obtain ⟨-, nearer, farther⟩ := Route.search_spec found
  exact ⟨not_lt.mp (nearer (i - 1) before (by omega) at_before), farther w last at_index⟩

theorem reachesBeyond_of_beyond (valid : config.Valid) (at_index : route[i]? = some w)
    (beyond : config.distance < w.position.planeDistance pose.position) :
    route.reachesBeyond pose config.minimum = true :=
  Route.reachesBeyond_of_getElem? at_index (lt_of_le_of_lt (not_lt.mp valid.inOrder) beyond)

/-- Between the ends of a route the tracker aims at the crossing, or loses its target if it
misses it. -/
theorem track_inner (valid : config.Valid) (interpolating : config.interpolate = true)
    (found : route.search pose config.distance = some i) (first : 0 < i)
    (last : i + 1 < route.length) (at_before : route[i - 1]? = some before)
    (at_index : route[i]? = some w) (s : Segment) (start : s.start = before.position)
    (stop : s.stop = w.position) (straight : s.drift (s.beside pose.position) = 0) :
    (s.Misses pose.position config.distance →
      route.track pose config = .ok (.targetLost i .interpolated .noIntersectionOnSegment)) ∧
    (¬ s.Misses pose.position config.distance → ∃ kappa,
      route.track pose config =
        .ok (.onTarget i (s.aimed pose.position config.distance) .interpolated kappa)) := by
  obtain ⟨within, beyond⟩ := search_between found first last at_before at_index
  have reaches := reachesBeyond_of_beyond valid at_index beyond
  have kind : route.kindAt config i = .interpolated :=
    Route.kindAt_inner first last interpolating
  have target : route.target i (route.kindAt config i) pose config.distance =
      (interpolateOn s.start s.stop pose.position config.distance).mapError .arithmetic := by
    rw [kind, start, stop]
    exact Route.interpolate_inner first last at_before at_index
  rw [← start] at within
  rw [← stop] at beyond
  obtain ⟨missed, hit⟩ := s.interpolateOn_between within beyond straight
  rw [← kind]
  constructor
  · intro misses
    rw [missed misses] at target
    exact Route.track_targetLost found reaches target
  · intro hits
    rw [hit hits] at target
    obtain ⟨kappa, steered⟩ := curvatureTo_total pose (s.aimed pose.position config.distance)
      saturation
    exact ⟨kappa, Route.track_onTarget found reaches target steered⟩

/-- With interpolation between the ends of a route, on a segment that has a line, a vehicle to
the right of the line, or farther to the left than the tolerance tells, loses its target
exactly if the segment starts on the lookahead circle, ahead of the vehicle. Otherwise the
target is on the circle, on the line and on the segment. -/
theorem track_inner_targetLost_iff {line : Line ℝ} (valid : config.Valid)
    (interpolating : config.interpolate = true)
    (found : route.search pose config.distance = some i) (first : 0 < i)
    (last : i + 1 < route.length) (at_before : route[i - 1]? = some before)
    (at_index : route[i]? = some w)
    (through : Line.through before.position w.position = .ok line) :
    let s : Segment := ⟨before.position, w.position, line, through⟩
    let here := pose.position
    ∃ tick, route.track pose config = .ok tick ∧
      (0 ≤ s.beside here ∨ Line.tolerance ≤ s.length * (2 * |s.beside here|) →
        (tick.status = .targetLost ↔
          s.start.planeDistance here = config.distance ∧ s.along here < 0) ∧
        (tick.status ≠ .targetLost →
          tick.status = .ok ∧ tick.kind = some .interpolated ∧ tick.aim.index = i ∧
          ∃ target, tick.aim.target = some target ∧
            target.planeDistance here = config.distance ∧ s.beside target = 0 ∧
            0 ≤ s.along target ∧ s.along target < s.length)) := by
  intro s here
  obtain ⟨tick, tracked⟩ := track_total route pose config
  refine ⟨tick, tracked, fun apart => ?_⟩
  obtain ⟨within, beyond⟩ := search_between found first last at_before at_index
  obtain ⟨near, begun, unended, -⟩ := s.exit_between within beyond
  obtain ⟨missed, hit⟩ :=
    track_inner valid interpolating found first last at_before at_index s rfl rfl
      (s.drift_of_apart apart)
  by_cases misses : s.Misses here config.distance
  · obtain rfl := Except.ok.inj (tracked.symm.trans (missed misses))
    refine ⟨iff_of_true rfl misses, ?_⟩
    intro found
    exact absurd rfl found
  · obtain ⟨kappa, onTarget⟩ := hit misses
    obtain rfl := Except.ok.inj (tracked.symm.trans onTarget)
    refine ⟨iff_of_false nofun misses, fun _ => ⟨rfl, rfl, rfl, ?_⟩⟩
    refine ⟨s.aimed here config.distance, rfl, s.aimed_distance near, s.beside_point _ _ _, ?_⟩
    rw [Segment.aimed, Segment.along_point]
    exact ⟨begun, unended⟩

end Inner

theorem track_row_targetLost_iff :
    let route := row [0, 5, 10, 15]
    let config : Lookahead ℝ := ⟨7, 1, true⟩
    let here := (onAxis 0).position
    let s := rowSegment 5 10 (by norm_num)
    config.Valid ∧ route.search (onAxis 0) config.distance = some 2 ∧
    ∃ tick, route.track (onAxis 0) config = .ok tick ∧
      (tick.status = .targetLost ↔
        s.start.planeDistance here = config.distance ∧ s.along here < 0) ∧
      (tick.status ≠ .targetLost →
        tick.status = .ok ∧ tick.kind = some .interpolated ∧ tick.aim.index = 2 ∧
        ∃ target, tick.aim.target = some target ∧
          target.planeDistance here = config.distance ∧ s.beside target = 0 ∧
          0 ≤ s.along target ∧ s.along target < s.length) := by
  intro route config here s
  have valid : config.Valid := ⟨by norm_num [config], by norm_num [config], by norm_num [config]⟩
  have found : route.search (onAxis 0) config.distance = some 2 := by
    norm_num [route, config, row, Route.search, Route.firstBeyond, Waypoint.position, onAxis,
      Pose.position, planeDistance_axis]
  have at_before : route[2 - 1]? = some ⟨5, 0, 0, none⟩ := rfl
  have at_index : route[2]? = some ⟨10, 0, 0, none⟩ := rfl
  obtain ⟨tick, tracked, told⟩ := track_inner_targetLost_iff valid rfl found (by norm_num)
    (by simp [route, row]) at_before at_index s.through
  have beside : s.beside here = 0 := beside_row _ 0 0
  exact ⟨valid, found, tick, tracked, told (.inl beside.ge)⟩

/-- A start on the circle is no target, though it is not beyond it and the stop is. -/
theorem track_row_targetLost :
    let route := row [0, 5, 10, 15]
    let config : Lookahead ℝ := ⟨5, 1, true⟩
    config.Valid ∧ route.search (onAxis 0) config.distance = some 2 ∧
    (∃ line, Line.through (⟨5, 0, 0⟩ : Point ℝ) ⟨10, 0, 0⟩ = .ok line) ∧
    route.track (onAxis 0) config =
      .ok (.targetLost 2 .interpolated .noIntersectionOnSegment) := by
  intro route config
  have valid : config.Valid := ⟨by norm_num [config], by norm_num [config], by norm_num [config]⟩
  have found : route.search (onAxis 0) config.distance = some 2 := by
    norm_num [route, config, row, Route.search, Route.firstBeyond, Waypoint.position, onAxis,
      Pose.position, planeDistance_axis]
  let s := rowSegment 5 10 (by norm_num)
  have last : 2 + 1 < route.length := by simp [route, row]
  have at_before : route[2 - 1]? = some ⟨5, 0, 0, none⟩ := rfl
  have at_index : route[2]? = some ⟨10, 0, 0, none⟩ := rfl
  have beside : s.beside (onAxis 0).position = 0 := beside_row _ 0 0
  have along : s.along (onAxis 0).position = 0 - 5 := along_row _ 0 0 (by norm_num)
  obtain ⟨missed, -⟩ := track_inner valid rfl found two_pos last at_before at_index s rfl rfl
    (s.drift_of_apart (.inl beside.ge))
  refine ⟨valid, found, ⟨_, s.through⟩, missed ⟨?_, by rw [along]; norm_num⟩⟩
  exact (planeDistance_axis 5 0 0 0).trans (by norm_num [config])

end PathTracking.Exact
