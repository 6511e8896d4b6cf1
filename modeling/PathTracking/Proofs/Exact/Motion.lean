import PathTracking.Proofs.Exact.Aiming

/-!
# The map frame

A rigid motion of the plane takes one map frame to another. It keeps distances, takes the frame
of a segment to the frame of its image (`point_segment`) and leaves the local frame of a pose
alone (`toLocal_moved`), and nothing else of the map enters a computation: from the moved route
and the moved pose comes the same result, with the moved target (`track_moved`). Only the test for
coinciding points reads the axes, and its answer is a hypothesis.
-/
namespace PathTracking.Exact

/-- A turn about the origin, by an angle in degrees, and then a shift. -/
structure Motion where
  angle : ℝ
  shift : Planar ℝ

namespace Motion

variable (g : Motion)

noncomputable def cos : ℝ := Real.cos (Scalar.toRadians g.angle)

noncomputable def sin : ℝ := Real.sin (Scalar.toRadians g.angle)

noncomputable def point (p : Point ℝ) : Point ℝ :=
  ⟨g.cos * p.x - g.sin * p.y + g.shift.x, g.sin * p.x + g.cos * p.y + g.shift.y, p.z⟩

noncomputable def waypoint (w : Waypoint ℝ) : Waypoint ℝ :=
  ⟨(g.point w.position).x, (g.point w.position).y, w.z, w.speed⟩

noncomputable def route (route : Route ℝ) : Route ℝ := route.map g.waypoint

/-- The heading turns along. -/
noncomputable def pose (p : Pose ℝ) : Pose ℝ :=
  ⟨(g.point p.position).x, (g.point p.position).y, p.z, p.yaw + g.angle⟩

/-- Of a result only the target is a place on the map. -/
noncomputable def tick (t : Tick ℝ) : Tick ℝ :=
  { t with aim := { t.aim with target := t.aim.target.map g.point } }

@[simp] theorem waypoint_position (w : Waypoint ℝ) :
    (g.waypoint w).position = g.point w.position := rfl

@[simp] theorem pose_position (p : Pose ℝ) : (g.pose p).position = g.point p.position := rfl

theorem cos_sq_add_sin_sq : g.cos ^ 2 + g.sin ^ 2 = 1 := Real.cos_sq_add_sin_sq _

theorem planeDistance_point (p q : Point ℝ) :
    (g.point p).planeDistance (g.point q) = p.planeDistance q := by
  have unit := g.cos_sq_add_sin_sq
  rw [planeDistance_eq, planeDistance_eq]
  congr 1
  unfold point
  dsimp only
  linear_combination ((p.x - q.x) ^ 2 + (p.y - q.y) ^ 2) * unit

/-! ## The search -/

variable (route : Route ℝ) (pose : Pose ℝ) (reach : ℝ)

theorem getElem?_route (i : Nat) : (g.route route)[i]? = route[i]?.map g.waypoint :=
  List.getElem?_map ..

theorem length_route : (g.route route).length = route.length := List.length_map ..

theorem search_moved : (g.route route).search (g.pose pose) reach = route.search pose reach := by
  have first : Route.firstBeyond (g.point pose.position) reach (route.map g.waypoint) =
      route.firstBeyond pose.position reach :=
    Route.firstBeyond_map g.waypoint (fun w => g.planeDistance_point w.position pose.position)
      reach route
  unfold Route.search Motion.route
  rw [pose_position, first, List.isEmpty_map]

theorem reachesBeyond_moved :
    (g.route route).reachesBeyond (g.pose pose) reach = route.reachesBeyond pose reach := by
  unfold Route.reachesBeyond Motion.route
  simp only [List.any_map, Function.comp_def, waypoint_position, pose_position,
    planeDistance_point]

/-! ## The segment -/

/-- The image of a segment, if it has a line too. -/
noncomputable def segment (s : Segment) {line : Line ℝ}
    (through : Line.through (g.point s.start) (g.point s.stop) = .ok line) : Segment :=
  ⟨g.point s.start, g.point s.stop, line, through⟩

section Segment

variable {s : Segment} {line : Line ℝ}
  (through : Line.through (g.point s.start) (g.point s.stop) = .ok line)

theorem length_segment : (g.segment s through).length = s.length :=
  g.planeDistance_point s.stop s.start

theorem point_segment (t n z : ℝ) :
    (g.segment s through).point t n z = g.point (s.point t n z) := by
  unfold Segment.point Segment.unit
  rw [length_segment]
  unfold segment point
  dsimp only
  congr 1 <;> ring

theorem targetFrom_segment (t n : ℝ) :
    (g.segment s through).targetFrom t n reach = s.targetFrom t n reach := by
  unfold Segment.targetFrom Segment.drift
  rw [length_segment]

end Segment

/-- On a segment that has a line before and after the motion, or neither before nor after, the
target moves along. -/
theorem interpolateOn_moved (start stop here : Point ℝ)
    (alike : (Line.through (g.point start) (g.point stop)).isOk =
      (Line.through start stop).isOk) :
    interpolateOn (g.point start) (g.point stop) (g.point here) reach =
      (interpolateOn start stop here reach).map (Except.map g.point) := by
  cases through : Line.through start stop with
  | error coincident =>
    cases moved : Line.through (g.point start) (g.point stop) with
    | error coincident => rw [interpolateOn, interpolateOn, through, moved]; rfl
    | ok line => rw [through, moved] at alike; cases alike
  | ok line =>
    cases moved : Line.through (g.point start) (g.point stop) with
    | error coincident => rw [through, moved] at alike; cases alike
    | ok line' =>
      let s : Segment := ⟨start, stop, line, through⟩
      have image := (g.segment s moved).interpolateOn_point (s.along here) (s.beside here)
        here.z reach
      rw [point_segment, s.point_coordinates, targetFrom_segment] at image
      refine image.trans ?_
      rw [show interpolateOn start stop here reach = _ from s.interpolateOn_here here reach]
      simp only [point_segment]
      cases s.targetFrom (s.along here) (s.beside here) reach <;> rfl

/-! ## The local frame -/

theorem cos_turned (yaw : ℝ) : Real.cos (Scalar.toRadians (yaw + g.angle)) =
    Real.cos (Scalar.toRadians yaw) * g.cos - Real.sin (Scalar.toRadians yaw) * g.sin := by
  rw [show Scalar.toRadians (yaw + g.angle) = Scalar.toRadians yaw + Scalar.toRadians g.angle from
    add_mul .., Real.cos_add]
  rfl

theorem sin_turned (yaw : ℝ) : Real.sin (Scalar.toRadians (yaw + g.angle)) =
    Real.sin (Scalar.toRadians yaw) * g.cos + Real.cos (Scalar.toRadians yaw) * g.sin := by
  rw [show Scalar.toRadians (yaw + g.angle) = Scalar.toRadians yaw + Scalar.toRadians g.angle from
    add_mul .., Real.sin_add]
  rfl

/-- In the local frame of a pose nothing moves. -/
theorem toLocal_moved (p : Point ℝ) : (g.pose pose).toLocal (g.point p) = pose.toLocal p := by
  have unit := g.cos_sq_add_sin_sq
  rw [toLocal_eq, toLocal_eq]
  unfold Motion.pose Motion.point Pose.position
  dsimp only
  rw [cos_turned, sin_turned]
  congr 2
  · linear_combination (Real.cos (Scalar.toRadians pose.yaw) * (p.x - pose.x) +
      Real.sin (Scalar.toRadians pose.yaw) * (p.y - pose.y)) * unit
  · linear_combination (-Real.sin (Scalar.toRadians pose.yaw) * (p.x - pose.x) +
      Real.cos (Scalar.toRadians pose.yaw) * (p.y - pose.y)) * unit

theorem curvatureTo_moved (p : Point ℝ) (limit : ℝ) :
    (g.pose pose).curvatureTo (g.point p) limit = pose.curvatureTo p limit := by
  unfold Pose.curvatureTo
  rw [toLocal_moved]

/-! ## The computation -/

/-- The guard against coinciding points answers alike on the segment that leads to the waypoint at
`i` and on its image. -/
def GuardsAlike (i : Nat) : Prop :=
  ∀ start stop, route[i - 1]? = some start → route[i]? = some stop →
    (Line.through (g.point start.position) (g.point stop.position)).isOk =
      (Line.through start.position stop.position).isOk

/-- On a segment longer than twice the tolerance both guards let it pass. -/
theorem guardsAlike_of_apart {i : Nat} {start stop : Waypoint ℝ}
    (at_start : route[i - 1]? = some start) (at_stop : route[i]? = some stop)
    (apart : 2 * Line.tolerance ≤ stop.position.planeDistance start.position) :
    g.GuardsAlike route i := by
  rintro start' stop' found found'
  rw [at_start] at found
  rw [at_stop] at found'
  cases found
  cases found'
  rw [through_isOk apart, through_isOk]
  rwa [planeDistance_point]

theorem target_moved {config : Lookahead ℝ} {i : Nat} (inside : i < route.length)
    (alike : route.kindAt config i = .interpolated → g.GuardsAlike route i) :
    ∃ target, route.target i (route.kindAt config i) pose reach = .ok target ∧
      (g.route route).target i (route.kindAt config i) (g.pose pose) reach =
        .ok (target.map g.point) := by
  have stop : route[i]? = some route[i] := List.getElem?_eq_getElem inside
  have stop' : (g.route route)[i]? = some (g.waypoint route[i]) := by rw [getElem?_route, stop]; rfl
  cases kind : route.kindAt config i with
  | raw =>
    refine ⟨.ok route[i].position, ?_, ?_⟩
    · simp only [Route.target, stop]
    · simp only [Route.target, stop', waypoint_position, Except.map]
  | interpolated =>
    -- The waypoint is not an end of the route, so a segment leads to it.
    obtain ⟨first, last⟩ := Route.between_of_interpolated inside kind
    have start : route[i - 1]? = some route[i - 1] := List.getElem?_eq_getElem (by omega)
    have start' : (g.route route)[i - 1]? = some (g.waypoint route[i - 1]) := by
      rw [getElem?_route, start]
      rfl
    have last' : i + 1 < (g.route route).length := by rwa [length_route]
    obtain ⟨target, aimed⟩ := interpolateOn_total route[i - 1].position route[i].position
      pose.position reach
    have moved := g.interpolateOn_moved reach route[i - 1].position route[i].position
      pose.position (alike kind _ _ start stop)
    rw [aimed] at moved
    refine ⟨target, ?_, ?_⟩
    · exact (Route.interpolate_inner first last start stop).trans (congrArg _ aimed)
    · exact (Route.interpolate_inner first last' start' stop').trans (congrArg _ moved)

end Motion

/-- The tracker does not depend on the map frame. A rigid motion of route and pose, the heading
turned along, changes nothing in the result of a computation but the place of the target, which
moves along, if the guard against coinciding points answers alike wherever the target is looked
for on a segment. -/
theorem track_moved (g : Motion) (route : Route ℝ) (pose : Pose ℝ) (config : Lookahead ℝ)
    (alike : ∀ i, route.search pose config.distance = some i →
      route.kindAt config i = .interpolated → g.GuardsAlike route i) :
    ∃ tick, route.track pose config = .ok tick ∧
      (g.route route).track (g.pose pose) config = .ok (g.tick tick) := by
  have same := g.search_moved route pose config.distance
  cases found : route.search pose config.distance with
  | none =>
    rw [found] at same
    exact ⟨_, Route.track_pathLost found, Route.track_pathLost same⟩
  | some i =>
    rw [found] at same
    have reach := g.reachesBeyond_moved route pose config.minimum
    cases reaches : route.reachesBeyond pose config.minimum with
    | false =>
      rw [reaches] at reach
      exact ⟨_, Route.track_noValidCurve found reaches, Route.track_noValidCurve same reach⟩
    | true =>
      rw [reaches] at reach
      obtain ⟨inside, -, -⟩ := Route.search_spec found
      obtain ⟨target, aimed, moved⟩ :=
        g.target_moved route pose config.distance inside (alike i found)
      have kind : (g.route route).kindAt config i = route.kindAt config i := by
        unfold Route.kindAt
        rw [g.length_route]
      rw [← kind] at moved
      cases target with
      | error miss =>
        refine ⟨_, Route.track_targetLost found reaches aimed, ?_⟩
        rw [Route.track_targetLost same reach moved, kind]
        rfl
      | ok target =>
        obtain ⟨kappa, steered⟩ := curvatureTo_total pose target saturation
        have steered' := (g.curvatureTo_moved pose target saturation).trans steered
        refine ⟨_, Route.track_onTarget found reaches aimed steered, ?_⟩
        rw [Route.track_onTarget same reach moved steered', kind]
        rfl

/-- Four waypoints in a row, with the target between the second and the third, and the same row
turned by thirty degrees and shifted. -/
theorem track_moved_row :
    let route := row [0, 5, 10, 15]
    let config : Lookahead ℝ := ⟨7, 1, true⟩
    let g : Motion := ⟨30, ⟨3, -4⟩⟩
    (∀ i, route.search (onAxis 0) config.distance = some i →
      route.kindAt config i = .interpolated → g.GuardsAlike route i) ∧
    ∃ tick, route.track (onAxis 0) config = .ok tick ∧
      (g.route route).track (g.pose (onAxis 0)) config = .ok (g.tick tick) := by
  intro route config g
  have found : route.search (onAxis 0) config.distance = some 2 := by
    norm_num [route, config, row, Route.search, Route.firstBeyond, Waypoint.position, onAxis,
      Pose.position, planeDistance_axis]
  have alike : ∀ i, route.search (onAxis 0) config.distance = some i →
      route.kindAt config i = .interpolated → g.GuardsAlike route i := by
    intro i found' _
    rw [found] at found'
    cases found'
    have at_start : route[2 - 1]? = some ⟨5, 0, 0, none⟩ := rfl
    have at_stop : route[2]? = some ⟨10, 0, 0, none⟩ := rfl
    refine g.guardsAlike_of_apart route at_start at_stop ?_
    refine le_of_le_of_eq ?_ (planeDistance_axis 10 5 0 0).symm
    norm_num [Line.tolerance]
  exact ⟨alike, track_moved g route (onAxis 0) config alike⟩

end PathTracking.Exact
