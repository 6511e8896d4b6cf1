import PathTracking.Proofs.Exact.Vehicle
import PathTracking.Proofs.Follower.Commands
import PathTracking.Proofs.Simulation.ShortLeg

/-!
# What the vehicle steers

A curvature reaches the vehicle as a yaw rate, the product with the speed, and is taken out again
by division. In exact arithmetic nothing is lost on the way but what the steering limit cuts off.
A repeated command carries the same curvature, and a stop leaves it in place, so in every state of
every run the vehicle steers the curvature of the newest success (`steers_newest`, by induction
from the last occurrence).
-/
namespace PathTracking

/-! ## Runs of a rig -/

namespace Rig

variable {α : Type}

/-- What can happen to a rig: an event of its loop, or a move of its vehicle that nobody
reports. -/
inductive Occurrence (α : Type)
  | event (event : Event α)
  | move (dt : α)
  deriving DecidableEq, Repr

def Occurrence.event? : Occurrence α → Option (Event α)
  | event e => some e
  | move _ => none

variable [Scalar α]

/-- The rig after an occurrence. A move that is interrupted leaves the vehicle as it was. -/
def undergo (r : Rig α) : Occurrence α → Rig α
  | .event event => (r.apply event).1
  | .move dt =>
    match r.vehicle.step dt with
    | .ok vehicle => { r with vehicle }
    | .error _ => r

def after (r : Rig α) (occurrences : List (Occurrence α)) : Rig α := occurrences.foldl undergo r

theorem after_snoc (r : Rig α) (occurrences : List (Occurrence α)) (occurrence : Occurrence α) :
    r.after (occurrences ++ [occurrence]) = (r.after occurrences).undergo occurrence :=
  List.foldl_concat ..

/-- The loop of a rig has only the events among the occurrences behind it. -/
theorem after_loop (r : Rig α) (occurrences : List (Occurrence α)) :
    (r.after occurrences).loop = r.loop.after (occurrences.filterMap Occurrence.event?) := by
  induction occurrences using List.reverseRecOn with
  | nil => rfl
  | append_singleton occurrences occurrence ih =>
    rw [after_snoc, List.filterMap_append]
    cases occurrence with
    | event event =>
      simp only [List.filterMap_cons, Occurrence.event?, List.filterMap_nil,
        ControlLoop.after_snoc, ← ih]
      rfl
    | move dt =>
      simp only [List.filterMap_cons, Occurrence.event?, List.filterMap_nil, List.append_nil, ← ih,
        undergo]
      split <;> rfl

end Rig

/-! ## The vehicle -/

namespace Exact

open Rig (Occurrence)

/-- What a vehicle makes of the calls of a run, given the last call and the newest success. -/
structure Obeys (settings : Settings ℝ) (built : Vehicle ℝ) (last : Option (Call ℝ))
    (newest : Option (Tick ℝ)) (v : Vehicle ℝ) : Prop where
  limit : v.maxKappa = built.maxKappa
  speed : v.speed = match last with
    | some (.drive _) => settings.speed
    | _ => 0
  kappa : ∀ tick, newest = some tick → v.kappa = built.clip tick.kappa

namespace Obeys

variable {settings : Settings ℝ} {built v : Vehicle ℝ} {last : Option (Call ℝ)}
  {newest : Option (Tick ℝ)}

theorem stop (obeys : Obeys settings built last newest v) :
    Obeys settings built (some .stop) newest v.stop :=
  ⟨obeys.limit, speed_stop v, obeys.kappa⟩

theorem drive (obeys : Obeys settings built last newest v) (moving : settings.speed ≠ 0)
    (tick : Tick ℝ) :
    let command : Command ℝ := ⟨settings.speed, settings.speed * tick.kappa⟩
    Obeys settings built (some (.drive command)) (some tick) (v.drive command) := by
  intro command
  have clipped : v.clip tick.kappa = built.clip tick.kappa := by
    rw [clip_eq, clip_eq, obeys.limit]
  rw [drive_eq v tick.kappa moving, clipped]
  refine ⟨obeys.limit, rfl, ?_⟩
  rintro _ ⟨⟩
  rfl

theorem move (obeys : Obeys settings built last newest v) {dt : ℝ} {v' : Vehicle ℝ}
    (moved : v.step dt = .ok v') : Obeys settings built last newest v' := by
  obtain ⟨pose, stepped, -⟩ := step_total v dt
  obtain rfl : { v with pose } = v' := Except.ok.inj (stepped.symm.trans moved)
  exact ⟨obeys.limit, obeys.speed, obeys.kappa⟩

end Obeys

/-- The vehicle of a rig obeys whatever has happened. -/
theorem obeys_after {settings : Settings ℝ} (inputs : Inputs ℝ) {built : Vehicle ℝ}
    (moving : settings.speed ≠ 0) (standing : built.speed = 0)
    (occurrences : List (Occurrence ℝ)) :
    let loop := ControlLoop.new settings inputs
    let events := occurrences.filterMap Occurrence.event?
    Obeys settings built (loop.lastCall events) (loop.newest events)
      ((⟨loop, built⟩ : Rig ℝ).after occurrences).vehicle := by
  intro loop
  -- The last call and the newest success look back from the end, and so does the induction.
  induction occurrences using List.reverseRecOn with
  | nil => exact ⟨rfl, standing, nofun⟩
  | append_singleton occurrences occurrence ih =>
    rw [Rig.after_snoc, List.filterMap_append]
    have behind := (⟨loop, built⟩ : Rig ℝ).after_loop occurrences
    generalize (⟨loop, built⟩ : Rig ℝ).after occurrences = rig at ih behind ⊢
    cases occurrence with
    | event event =>
      simp only [List.filterMap_cons, Occurrence.event?, List.filterMap_nil]
      generalize occurrences.filterMap Occurrence.event? = events at ih behind ⊢
      have obeyed : (rig.undergo (.event event)).vehicle =
          ((loop.after events).apply event).2.calls.foldl Vehicle.obey rig.vehicle := by
        rw [← behind]
        rfl
      rw [obeyed, ControlLoop.lastCall_snoc]
      rcases ControlLoop.calls_of_event settings inputs events event with
        ⟨calls | calls, newest⟩ | ⟨tick, calls, newest⟩
      · rw [newest, calls]
        exact ih
      · rw [newest, calls]
        exact ih.stop
      · rw [newest, calls]
        exact ih.drive moving tick
    | move dt =>
      simp only [List.filterMap_cons, Occurrence.event?, List.filterMap_nil, List.append_nil,
        Rig.undergo]
      cases moved : rig.vehicle.step dt with
      | ok vehicle => exact ih.move moved
      | error fault => exact ih

/-- A follower with valid settings drives a vehicle that is built with its wheelbase. In every
state of every run the vehicle has the speed of the settings if the last call was a drive, and none
otherwise. Its curvature is that of the newest success, clamped to what the steering allows: the
last result while tracking, and the one before the failures while holding. -/
theorem steers_newest (settings : Settings ℝ) (inputs : Inputs ℝ) (start : Pose ℝ) (maxSteer : ℝ)
    (valid : settings.Valid) :
    ∃ vehicle, Vehicle.new start settings.wheelbase maxSteer = .ok vehicle ∧
    ∀ occurrences : List (Occurrence ℝ),
      let loop := ControlLoop.new settings inputs
      let events := occurrences.filterMap Occurrence.event?
      let rig := (⟨loop, vehicle⟩ : Rig ℝ).after occurrences
      let clamped (kappa : ℝ) := max (-vehicle.maxKappa) (min vehicle.maxKappa kappa)
      rig.loop = loop.after events ∧ rig.vehicle.maxKappa = vehicle.maxKappa ∧
      (rig.vehicle.speed = match loop.lastCall events with
        | some (.drive _) => settings.speed
        | _ => 0) ∧
      (rig.loop.follower.phase = .tracking → ∃ tick, rig.loop.follower.last = some tick ∧
        tick.status = .ok ∧ rig.vehicle.kappa = clamped tick.kappa) ∧
      (∀ tick, loop.newest events = some tick →
        rig.vehicle.kappa = clamped tick.kappa) := by
  obtain ⟨vehicle, built, standing⟩ : ∃ vehicle : Vehicle ℝ,
      Vehicle.new start settings.wheelbase maxSteer = .ok vehicle ∧ vehicle.speed = 0 :=
    ⟨_, new_eq start maxSteer (ne_zero_of_pos valid.wheelbase), by norm_num⟩
  refine ⟨vehicle, built, ?_⟩
  intro occurrences loop events rig clamped
  have behind : rig.loop = loop.after events := Rig.after_loop _ occurrences
  have obeys := obeys_after inputs (ne_zero_of_pos valid.speed) standing occurrences
  have steered : ∀ tick, loop.newest events = some tick →
      rig.vehicle.kappa = clamped tick.kappa := by
    intro tick newest
    rw [obeys.kappa tick newest, clip_eq]
  refine ⟨behind, obeys.limit, obeys.speed, ?_, steered⟩
  intro tracking
  rw [behind] at tracking ⊢
  obtain ⟨tick, last, newest⟩ := ControlLoop.last_of_tracking settings inputs events tracking
  exact ⟨tick, last, ControlLoop.ok_of_newest newest, steered tick newest⟩

/-- The route from the origin to a point on its left, and a vehicle that heads to neither side. -/
noncomputable def abeam : Inputs ℝ :=
  .new [⟨0, 0, 0, none⟩, ⟨0, 10, 0, none⟩] (some (onAxis 0))

theorem track_abeam (maxHold : Nat) :
    abeam.route.track (onAxis 0) (cruise maxHold).toLookahead =
      .ok (.onTarget 1 ⟨0, 10, 0⟩ .raw saturation) := by
  have ten : √((10 : ℝ) ^ 2) = 10 := Real.sqrt_sq (by norm_num)
  have found : abeam.route.search (onAxis 0) (cruise maxHold).distance = some 1 := by
    simp [abeam, Inputs.new, Route.search, Route.firstBeyond, Waypoint.position, onAxis,
      Pose.position, planeDistance_axis, cruise]
  have reaches : abeam.route.reachesBeyond (onAxis 0) (cruise maxHold).minimum = true := by
    simp [abeam, Inputs.new, Route.reachesBeyond, Waypoint.position, onAxis, Pose.position,
      planeDistance_eq, cruise, ten]
  have kind : abeam.route.kindAt (cruise maxHold).toLookahead 1 = .raw := by
    simp [Route.kindAt, TargetKind.choose, abeam, Inputs.new]
  have curvature : (onAxis 0).curvatureTo ⟨0, 10, 0⟩ saturation = .ok saturation := by
    rw [curvatureTo_eq _ _ _ (toLocal_eq _ _)]
    simp [onAxis, Scalar.toRadians]
  rw [← kind]
  refine Route.track_onTarget found reaches ?_ curvature
  rw [kind]
  rfl

/-- A target abeam asks for more curvature than any vehicle can steer. With a limit of 45 degrees
it is driven along a circle as narrow as the wheelbase. -/
theorem steers_newest_abeam :
    (cruise 0).Valid ∧
    ∃ vehicle, Vehicle.new (onAxis 0) (cruise 0).wheelbase 45 = .ok vehicle ∧
      let rig := (⟨.new (cruise 0) abeam, vehicle⟩ : Rig ℝ).after [.event .tick, .move 1]
      rig.loop.follower.phase = .tracking ∧ rig.vehicle.speed = (cruise 0).speed ∧
      rig.vehicle.kappa = 1 / (cruise 0).wheelbase := by
  have valid : (cruise 0).Valid := cruise_valid 0
  obtain ⟨vehicle, built, steers⟩ := steers_newest (cruise 0) abeam (onAxis 0) 45 valid
  obtain ⟨behind, -, speed, steered, -⟩ := steers [.event .tick, .move 1]
  refine ⟨valid, vehicle, built, ?_⟩
  intro rig
  have ticked := Follower.tick_driving
    (ControlLoop.new_outcome rfl (List.cons_ne_nil _ _) (track_abeam 0)) rfl
  have after : rig.loop.follower = ((ControlLoop.new (cruise 0) abeam).follower.tick abeam).1 := by
    rw [behind]
    rfl
  rw [ticked] at after
  have tracking : rig.loop.follower.phase = .tracking := by rw [after]
  refine ⟨tracking, ?_, ?_⟩
  · have driven : ∃ command, (ControlLoop.new (cruise 0) abeam).lastCall [.tick] =
        some (.drive command) := by
      rw [ControlLoop.lastCall, ControlLoop.calls_cons, ControlLoop.apply_tick]
      exact ⟨_, congrArg (fun ticked => (ticked.2.calls ++ []).getLast?) ticked⟩
    obtain ⟨command, driven⟩ := driven
    refine speed.trans ?_
    simp only [List.filterMap_cons, Occurrence.event?, List.filterMap_nil, driven]
  · obtain ⟨tick, last, -, kappa⟩ := steered tracking
    rw [after] at last
    cases last
    have limit : vehicle.maxKappa = 1 / (cruise 0).wheelbase := by
      rw [new_eq _ _ (ne_zero_of_pos valid.wheelbase)] at built
      cases built
      have half : (45 : ℝ) * (Real.pi / 180) = Real.pi / 4 := by ring
      change Real.tan (45 * (Real.pi / 180)) / _ = _
      rw [half, Real.tan_pi_div_four]
    rw [kappa, limit]
    norm_num [Tick.onTarget, saturation, cruise]

end Exact
end PathTracking
