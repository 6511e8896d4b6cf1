import PathTracking.Proofs.Binary64.Length
import PathTracking.Proofs.Tracking.Target

/-!
# What interrupts a computation

On binary64 numbers the operations of a computation that may be undefined are two quotients by a
length, two roots, two squares, the angle functions and the index of a waypoint. The lengths are not
zero because points that determine a line are apart on some axis; the roots are of sums of squares
and of the difference of two squares in order; a heading overflows only if it is infinite. What is
left is the square of the lookahead distance and the heading (`track_interrupted_iff`).
-/
namespace PathTracking

open Binary64 (Unsigned)

/-! ## Operations -/

theorem sqrt_ok {x : Float} (unsigned : Unsigned x.toModel.unpack) :
    Scalar.sqrt x = .ok x.sqrt :=
  if_neg (Binary64.not_lt_zero unsigned)

theorem div_ok (x : Float) {y : Float} (nonzero : (y == 0) = false) :
    Scalar.div x y = .ok (x / y) :=
  if_neg (by rw [nonzero]; exact Bool.noConfusion)

theorem square_ok {x : Float} (inRange : (x * x).isInf = false) :
    Scalar.square x = .ok (x * x) := by
  show (if ((x * x).isInf && !x.isInf) = true then _ else _) = _
  rw [inRange]
  rfl

/-! ## Headings -/

theorem unpack_degree : (Scalar.degree : Float).toModel.unpack =
    .finite .positive 5030569068109113 (-58) (by decide) :=
  rfl

/-- A degree is less than one radian, so that no heading overflows. -/
theorem isInf_toRadians (yaw : Float) : (Scalar.toRadians yaw).isInf = yaw.isInf := by
  obtain ⟨canonical, inRange⟩ := Binary64.representable yaw
  show (yaw * Scalar.degree).toModel.unpack.isInf = yaw.toModel.unpack.isInf
  rw [Binary64.unpack_mul, unpack_degree]
  cases unpacked : yaw.toModel.unpack with
  | notANumber | infinity s | zero s => rfl
  | finite s m e pos =>
    rw [unpacked] at canonical inRange
    have small : e ≤ 971 := by
      by_contra large
      rw [Binary64.bounded, if_pos (by omega)] at inRange
      cases inRange
    have degree := (Binary64.representable Scalar.degree).1
    rw [unpack_degree] at degree
    rw [Binary64.bounded_mul canonical degree (by omega)]
    exact Binary64.not_isInf_of_isFinite (Binary64.isFinite_mul rfl rfl)

theorem onFinite_ok (f : Float → Float) {x : Float} (finite : x.isInf = false) :
    Binary64.onFinite f x = .ok (f x) :=
  if_neg (by rw [finite]; exact Bool.noConfusion)

theorem rotate_ok (v : Planar Float) (angle : Float)
    (finite : (Scalar.toRadians angle).isInf = false) : ∃ w, v.rotate angle = .ok w := by
  have cos : Scalar.cos (Scalar.toRadians angle) = .ok _ := onFinite_ok Float.cos finite
  have sin : Scalar.sin (Scalar.toRadians angle) = .ok _ := onFinite_ok Float.sin finite
  unfold Planar.rotate
  rw [cos, sin]
  exact ⟨_, rfl⟩

theorem Pose.curvatureTo_fault_iff (pose : Pose Float) (target : Point Float) (limit : Float)
    (fault : Fault) :
    pose.curvatureTo target limit = .error fault ↔
      fault = .outsideDomain ∧ pose.yaw.isInf = true := by
  unfold Pose.curvatureTo Pose.toLocal
  cases endless : pose.yaw.isInf with
  | true =>
    have cos : Scalar.cos (Scalar.toRadians pose.yaw) = .error .outsideDomain :=
      if_pos ((isInf_toRadians _).trans endless)
    rw [cos]
    simp [bind, Except.bind, eq_comm]
  | false =>
    have finite := (isInf_toRadians pose.yaw).trans endless
    have cos : Scalar.cos (Scalar.toRadians pose.yaw) = .ok _ := onFinite_ok Float.cos finite
    have sin : Scalar.sin (Scalar.toRadians pose.yaw) = .ok _ := onFinite_ok Float.sin finite
    rw [cos, sin]
    dsimp only [bind, Except.bind, pure, Except.pure]
    refine iff_of_false ?_ nofun
    split
    · nofun
    next nonzero =>
      rw [div_ok _ (Bool.eq_false_iff.mpr nonzero)]
      nofun

/-! ## Lines -/

theorem Line.apart_of_through {start stop : Point Float} {line : Line Float}
    (through : Line.through start stop = .ok line) :
    ¬ ((stop.y - start.y).abs < 1e-5 ∧ (start.x - stop.x).abs < 1e-5) ∧
      line.a = stop.y - start.y ∧ line.b = start.x - stop.x := by
  unfold Line.through at through
  dsimp only at through
  split at through
  · cases through
  next apart =>
    cases through
    exact ⟨apart, rfl, rfl⟩

/-- The normal of a line through two points is not zero, so that there is a distance from the
line, and it has no sign. -/
theorem Line.distance_ok {start stop : Point Float} {line : Line Float}
    (through : Line.through start stop = .ok line) (here : Point Float) :
    ∃ d, line.distance here = .ok d ∧ Unsigned d.toModel.unpack := by
  obtain ⟨apart, a, b⟩ := apart_of_through through
  rw [← a, ← b] at apart
  have unsigned := Binary64.unsigned_sum_of_squares line.a line.b
  refine ⟨(line.residual here).abs / (line.a * line.a + line.b * line.b).sqrt, ?_, ?_⟩
  · unfold Line.distance
    rw [sqrt_ok unsigned]
    exact div_ok _ (Binary64.sqrt_sum_of_squares_ne_zero apart)
  · exact Binary64.unsigned_pack (Binary64.unsigned_div
      (Binary64.unsigned_pack (Binary64.unsigned_abs (line.residual here).toModel.unpack))
      (Binary64.unsigned_pack (Binary64.unsigned_sqrt unsigned)))

/-- The ends of a segment that determine a line are apart. -/
theorem Line.length_ne_zero {start stop : Point Float} {line : Line Float}
    (through : Line.through start stop = .ok line) :
    (Scalar.hypot (stop.x - start.x) (stop.y - start.y) == 0) = false := by
  obtain ⟨apart, -, -⟩ := apart_of_through through
  have turned : Binary64.hypot (stop.x - start.x) (stop.y - start.y) =
      Binary64.hypot (start.x - stop.x) (stop.y - start.y) :=
    Binary64.hypot_congr (Binary64.decodeBits_upToSign (Binary64.bits_sub_comm stop.x start.x))
      (Binary64.decodeBits_upToSign rfl)
  show (Binary64.hypot _ _ == 0) = false
  -- The normal has the first difference the other way round.
  rw [turned]
  refine Binary64.hypot_ne_zero ((not_and_or.mp apart).symm.imp ?_ ?_)
  · exact fun upTo => (Binary64.sizeable_of_not_lt upTo).ne_zero
  · exact fun upTo => (Binary64.sizeable_of_not_lt upTo).ne_zero

/-- The direction of a segment. -/
def heading (start stop : Point Float) : Planar Float :=
  let length := Scalar.hypot (stop.x - start.x) (stop.y - start.y)
  ⟨(stop.x - start.x) / length, (stop.y - start.y) / length⟩

theorem Line.foot_ok (line : Line Float) (here : Point Float) (d : Float) (unit : Planar Float) :
    ∃ foot, line.foot here d unit = .ok foot := by
  obtain ⟨left, turnedLeft⟩ := rotate_ok unit 90.0 rfl
  obtain ⟨right, turnedRight⟩ := rotate_ok unit (-90.0) rfl
  unfold Line.foot
  rw [turnedLeft, turnedRight]
  exact ⟨_, rfl⟩

/-! ## Crossings -/

/-- The crossings are at the root of a difference of two squares in order, if these squares are
numbers. -/
theorem crossing_fault_iff (stop start foot here : Point Float) (unit : Planar Float)
    {d reach : Float} (unsigned : Unsigned d.toModel.unpack) (near : d < reach)
    (finite : reach.isInf = false) (fault : Fault) :
    crossing stop start foot here unit d reach = .error fault ↔
      fault = .overflow ∧ Scalar.square reach = .error .overflow := by
  unfold crossing
  cases inRange : (reach * reach).isInf with
  | false =>
    obtain ⟨inRangeD, nonneg⟩ := Binary64.square_sub_square unsigned near inRange
    have root : Scalar.sqrt (reach * reach - d * d) = .ok (reach * reach - d * d).sqrt :=
      if_neg nonneg
    rw [square_ok inRange, square_ok inRangeD]
    dsimp only [bind, Except.bind, pure, Except.pure]
    rw [root]
    dsimp only
    refine iff_of_false ?_ nofun
    split
    · nofun
    · split <;> nofun
  | true =>
    have overflow : Scalar.square reach = .error .overflow :=
      if_pos (by rw [inRange, finite]; rfl)
    rw [overflow]
    simp [bind, Except.bind, eq_comm]

/-- The lookahead circle cuts the line through the ends of a segment: the vehicle is nearer to the
line than the radius, and one of the normals leads from it to the line. -/
def Cuts (start stop here : Point Float) (reach : Float) : Prop :=
  ∃ line d foot, Line.through start stop = .ok line ∧ line.distance here = .ok d ∧ d < reach ∧
    line.foot here d (heading start stop) = .ok (some foot)

theorem Line.holds_of_isNaN (line : Line Float) {p : Point Float} (nan : p.x.isNaN = true) :
    line.holds p = false := by
  have residual : (line.residual p).isNaN = true :=
    Binary64.isNaN_add (.inl (Binary64.isNaN_add (.inl (Binary64.isNaN_mul (.inr nan)))))
  refine decide_eq_false fun less => ?_
  have number := (Binary64.isNaN_of_lt less).1
  rw [show (Scalar.abs (line.residual p)).isNaN = true from Binary64.isNaN_abs residual] at number
  cases number

/-- No foot is found at a distance that is no number. -/
theorem Line.isNaN_of_foot {line : Line Float} {here : Point Float} {d : Float}
    {unit : Planar Float} {foot : Point Float} (found : line.foot here d unit = .ok (some foot)) :
    d.isNaN = false := by
  rw [Bool.eq_false_iff]
  intro nan
  have lost (v : Planar Float) : line.holds (here.along v d here.z) = false :=
    line.holds_of_isNaN (Binary64.isNaN_add (.inr (Binary64.isNaN_mul (.inl nan))))
  obtain ⟨left, turnedLeft⟩ := rotate_ok unit 90.0 rfl
  obtain ⟨right, turnedRight⟩ := rotate_ok unit (-90.0) rfl
  unfold Line.foot at found
  rw [turnedLeft, turnedRight] at found
  simp [bind, Except.bind, pure, Except.pure, lost] at found

theorem cuts_iff {start stop here : Point Float} {reach d : Float} {line : Line Float}
    (through : Line.through start stop = .ok line) (distance : line.distance here = .ok d) :
    Cuts start stop here reach ↔
      d < reach ∧ ∃ p, line.foot here d (heading start stop) = .ok (some p) := by
  unfold Cuts
  rw [through]
  constructor
  · rintro ⟨line', d', foot, same, distance', near, found⟩
    cases same
    rw [distance] at distance'
    cases distance'
    exact ⟨near, foot, found⟩
  · rintro ⟨near, foot, found⟩
    exact ⟨line, d, foot, rfl, distance, near, found⟩

/-- On a line that the circle reaches the foot and the crossing are left to find. -/
theorem interpolateOn_reached {start stop here : Point Float} {reach d : Float}
    {line : Line Float} (through : Line.through start stop = .ok line)
    (distance : line.distance here = .ok d) (reached : ¬ d > reach) :
    interpolateOn start stop here reach = (do
      match ← line.foot here d (heading start stop) with
      | none => return .error .geometryMismatch
      | some foot =>
        if d == reach then return .ok foot
        crossing stop start foot here (heading start stop) d reach) := by
  have length := Line.length_ne_zero through
  unfold interpolateOn
  rw [through]
  dsimp only
  rw [distance]
  dsimp only [bind, Except.bind, pure, Except.pure]
  rw [if_neg reached, div_ok _ length, div_ok _ length]
  dsimp only
  rw [show line.foot here d ⟨_, _⟩ = line.foot here d (heading start stop) from rfl]
  rcases line.foot here d (heading start stop) with _ | _ | _ <;> rfl

theorem interpolateOn_fault_iff (start stop here : Point Float) {reach : Float}
    (number : reach.isNaN = false) (finite : reach.isInf = false) (fault : Fault) :
    interpolateOn start stop here reach = .error fault ↔
      fault = .overflow ∧ Cuts start stop here reach ∧
        Scalar.square reach = .error .overflow := by
  cases through : Line.through start stop with
  | error coincident =>
    rw [interpolateOn, through]
    refine iff_of_false nofun ?_
    rintro ⟨-, ⟨line, d, foot, onLine, -⟩, -⟩
    rw [through] at onLine
    cases onLine
  | ok line =>
    obtain ⟨d, distance, unsigned⟩ := Line.distance_ok through here
    obtain ⟨foot, found⟩ := line.foot_ok here d (heading start stop)
    rw [cuts_iff through distance, found]
    by_cases far : d > reach
    · -- The circle does not reach the line.
      have out : interpolateOn start stop here reach = .ok (.error .outOfRange) := by
        rw [interpolateOn, through]
        dsimp only
        rw [distance]
        exact if_pos far
      rw [out]
      refine iff_of_false nofun ?_
      rintro ⟨-, ⟨near, p, leads⟩, -⟩
      cases leads
      exact ((Binary64.lt_iff (Line.isNaN_of_foot found) number).mp near).1 far
    rw [interpolateOn_reached through distance far, found]
    cases foot with
    | none =>
      refine iff_of_false nofun ?_
      rintro ⟨-, ⟨-, foot, leads⟩, -⟩
      cases leads
    | some foot =>
      have order := Binary64.lt_iff (Line.isNaN_of_foot found) number
      dsimp only [bind, Except.bind, pure, Except.pure]
      split
      next touching =>
        -- A circle that touches the line has its target at the foot.
        refine iff_of_false nofun ?_
        rintro ⟨-, ⟨near, -⟩, -⟩
        rw [(order.mp near).2] at touching
        cases touching
      next apart =>
        have near : d < reach := order.mpr ⟨far, Bool.eq_false_iff.mpr apart⟩
        rw [crossing_fault_iff stop start foot here _ unsigned near finite]
        simp [near]

/-! ## Computations -/

namespace Route

variable {route : Route Float} {pose : Pose Float} {config : Lookahead Float}

/-- A waypoint that is farther than a positive radius shows that the radius is a finite number. -/
theorem finite_of_beyond {d reach : Float} (positive : reach > 0.0) (beyond : d > reach) :
    reach.isNaN = false ∧ reach.isInf = false := by
  refine ⟨(Binary64.isNaN_of_lt beyond).1, ?_⟩
  have above := Binary64.lt_iff_comparison.mp positive
  have below := Binary64.lt_iff_comparison.mp beyond
  rw [Binary64.comparison] at above below
  show reach.toModel.unpack.isInf = false
  cases unpacked : reach.toModel.unpack with
  | notANumber | zero | finite => rfl
  | infinity s =>
    rw [unpacked] at above below
    cases s with
    | negative => cases above
    | positive =>
      cases unpackedD : d.toModel.unpack with
      | infinity t => rw [unpackedD] at below; cases t <;> cases below
      | notANumber | zero | finite => rw [unpackedD] at below; cases below

/-- The circle cuts the segment that leads to the waypoint. -/
def CutAt (route : Route Float) (index : Nat) (pose : Pose Float) (reach : Float) : Prop :=
  ∃ before w, route[index - 1]? = some before ∧ route[index]? = some w ∧
    Cuts before.position w.position pose.position reach

theorem cutAt_iff {index : Nat} {before w : Waypoint Float} {reach : Float}
    (at_before : route[index - 1]? = some before) (at_index : route[index]? = some w) :
    route.CutAt index pose reach ↔ Cuts before.position w.position pose.position reach := by
  unfold CutAt
  rw [at_before, at_index]
  simp

theorem lift_error_iff {α : Type} {x : Except Fault α} {fault : TrackingFault} :
    (x : Except TrackingFault α) = .error fault ↔
      ∃ reason, x = .error reason ∧ fault = .arithmetic reason := by
  cases x with
  | ok a => exact iff_of_false nofun nofun
  | error reason =>
    constructor
    · rintro ⟨⟩
      exact ⟨reason, rfl, rfl⟩
    · rintro ⟨_, ⟨⟩, rfl⟩
      rfl

theorem target_fault_iff {index : Nat} (valid : config.Valid)
    (found : route.search pose config.distance = some index) (fault : TrackingFault) :
    route.target index (route.kindAt config index) pose config.distance = .error fault ↔
      fault = .arithmetic .overflow ∧ route.kindAt config index = .interpolated ∧
        route.CutAt index pose config.distance ∧
        Scalar.square config.distance = .error .overflow := by
  obtain ⟨within, -, beyond⟩ := search_spec found
  have at_index : route[index]? = some route[index] := List.getElem?_eq_getElem within
  cases kind : route.kindAt config index with
  | raw =>
    refine iff_of_false ?_ nofun
    simp [Route.target, at_index]
  | interpolated =>
    obtain ⟨first, last⟩ := between_of_interpolated within kind
    obtain ⟨number, finite⟩ := finite_of_beyond valid.distance (beyond _ last at_index)
    have at_before : route[index - 1]? = some route[index - 1] :=
      List.getElem?_eq_getElem (by omega)
    have target : route.target index .interpolated pose config.distance =
        (interpolateOn route[index - 1].position route[index].position pose.position
          config.distance : Except Fault _) :=
      interpolate_inner first last at_before at_index
    rw [cutAt_iff at_before at_index, target, lift_error_iff]
    simp only [interpolateOn_fault_iff _ _ _ number finite, true_and]
    constructor
    · rintro ⟨_, ⟨rfl, overflow⟩, rfl⟩
      exact ⟨rfl, overflow⟩
    · rintro ⟨rfl, overflow⟩
      exact ⟨_, ⟨rfl, overflow⟩, rfl⟩

/-- What interrupts a computation with a valid configuration. -/
inductive Interrupted (route : Route Float) (pose : Pose Float) (config : Lookahead Float) :
    TrackingFault → Prop
  /-- A target between waypoints is looked for with a radius whose square is too large. -/
  | overflow {index : Nat} (found : route.search pose config.distance = some index)
      (reaches : route.reachesBeyond pose config.minimum = true)
      (between : route.kindAt config index = .interpolated)
      (cut : route.CutAt index pose config.distance)
      (square : Scalar.square config.distance = .error .overflow) :
      Interrupted route pose config (.arithmetic .overflow)
  /-- A target is there, but no heading to steer from. -/
  | endless {index : Nat} {target : Point Float}
      (found : route.search pose config.distance = some index)
      (reaches : route.reachesBeyond pose config.minimum = true)
      (aimed : route.target index (route.kindAt config index) pose config.distance =
        .ok (.ok target))
      (yaw : pose.yaw.isInf = true) : Interrupted route pose config (.arithmetic .outsideDomain)

theorem interrupted_of_track (valid : config.Valid) {fault : TrackingFault}
    (failed : route.track pose config = .error fault) : route.Interrupted pose config fault := by
  have course := route.track_course pose config
  rw [failed] at course
  cases course with
  | targetFault found reaches lost =>
    obtain ⟨rfl, between, cut, square⟩ := (target_fault_iff valid found fault).mp lost
    exact .overflow found reaches between cut square
  | curvatureFault found reaches aimed lost =>
    obtain ⟨rfl, yaw⟩ := (pose.curvatureTo_fault_iff _ saturation _).mp lost
    exact .endless found reaches aimed yaw

theorem Interrupted.track (valid : config.Valid) {fault : TrackingFault}
    (interrupted : route.Interrupted pose config fault) :
    route.track pose config = .error fault := by
  cases interrupted with
  | overflow found reaches between cut square =>
    have lost := (target_fault_iff valid found _).mpr ⟨rfl, between, cut, square⟩
    rw [track_reaching found reaches, lost]
    rfl
  | @endless index target found reaches aimed yaw =>
    have lost := (pose.curvatureTo_fault_iff target saturation .outsideDomain).mpr ⟨rfl, yaw⟩
    rw [track_reaching found reaches, aimed]
    dsimp only [bind, Except.bind]
    rw [lost]
    rfl

/-- With a valid configuration a computation is interrupted in two cases only, and in these always:
if a target is there and the heading is infinite, and if the square of the lookahead distance
overflows where the circle cuts the segment aimed at. No division is by zero, no root is of a
negative number and no index is outside the route. -/
theorem track_interrupted_iff (route : Route Float) (pose : Pose Float) (config : Lookahead Float)
    (valid : config.Valid) :
    (∀ fault, route.track pose config = .error fault ↔ route.Interrupted pose config fault) ∧
    (pose.yaw.isInf = false → Scalar.square config.distance ≠ .error .overflow →
      ∃ tick, route.track pose config = .ok tick) := by
  refine ⟨fun fault => ⟨interrupted_of_track valid, Interrupted.track valid⟩, ?_⟩
  intro finite square
  cases tracked : route.track pose config with
  | ok tick => exact ⟨tick, rfl⟩
  | error fault =>
    cases interrupted_of_track valid tracked with
    | overflow _ _ _ _ overflow => exact absurd overflow square
    | endless _ _ _ yaw => rw [finite] at yaw; cases yaw

/-- On a leg of ten metres a heading interrupts the computation if it is infinite, and else there is
a result. -/
theorem track_interrupted_on_leg :
    let route : Route Float := [⟨0, 0, 0, none⟩, ⟨10, 0, 0, none⟩]
    let config : Lookahead Float := ⟨5, 1, true⟩
    config.Valid ∧
    route.track ⟨0, 0, 0, Binary64.infinity false⟩ config = .error (.arithmetic .outsideDomain) ∧
    ∃ tick, route.track ⟨0, 0, 0, 30⟩ config = .ok tick := by
  intro route config
  have valid : config.Valid := ⟨by decide +kernel, by decide +kernel, by decide +kernel⟩
  obtain ⟨interrupted, -⟩ :=
    track_interrupted_iff route ⟨0, 0, 0, Binary64.infinity false⟩ config valid
  obtain ⟨-, returned⟩ := track_interrupted_iff route ⟨0, 0, 0, 30⟩ config valid
  refine ⟨valid, (interrupted _).mpr ?_, returned (by decide +kernel) ?_⟩
  · have found : route.search ⟨0, 0, 0, Binary64.infinity false⟩ config.distance = some 1 := by
      decide +kernel
    exact .endless found (by decide +kernel) rfl (by decide +kernel)
  · rw [square_ok (by decide +kernel)]
    nofun

/-- An infinite heading is a pose like any other, but no result comes of it. -/
theorem track_endless_heading :
    let config : Lookahead Float := ⟨5, 1, true⟩
    config.Valid ∧
    Route.track [⟨0, 0, 0, none⟩, ⟨10, 0, 0, none⟩] ⟨0, 0, 0, Binary64.infinity false⟩ config =
      .error (.arithmetic .outsideDomain) := by
  refine ⟨⟨by decide +kernel, by decide +kernel, by decide +kernel⟩, ?_⟩
  decide +kernel

end Route
end PathTracking
