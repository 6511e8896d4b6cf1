import Mathlib.Data.List.Induction
import PathTracking.Proofs.Tracking.Target
import PathTracking.Tracking.Tracker

/-!
# The history of a tracker

A tracker holds the latest configuration, pose and route, and what is left of its last
computation. The first three are what was set last (`holds_latest`), so that a computation
answers the same whatever came before. What is left is the aim of the newest result since the
route was set, which is an aim on that very route (`remembers_newest`): a new route drops it, and
a computation that is interrupted returns nothing and leaves it as it was.
-/
namespace PathTracking

variable {α β : Type}

/-- What can be asked of a tracker. -/
inductive Request (α : Type)
  | setConfig (config : Lookahead α)
  | setPose (pose : Option (Pose α))
  | setRoute (route : Route α)
  | tick
  deriving DecidableEq, Repr

namespace Request

def config? : Request α → Option (Lookahead α)
  | setConfig config => some config
  | _ => none

def pose? : Request α → Option (Option (Pose α))
  | setPose pose => some pose
  | _ => none

def route? : Request α → Option (Route α)
  | setRoute route => some route
  | _ => none

/-- The value that was set last, or the first one if none was set. -/
def latest (set? : Request α → Option β) (first : β) (requests : List (Request α)) : β :=
  (requests.reverse.findSome? set?).getD first

theorem latest_snoc (set? : Request α → Option β) (first : β) (requests : List (Request α))
    (request : Request α) :
    latest set? first (requests ++ [request]) =
      (set? request).getD (latest set? first requests) := by
  rw [latest, List.reverse_append, List.reverse_singleton, List.singleton_append,
    List.findSome?_cons, latest]
  cases set? request <;> rfl

end Request

namespace Tracker

variable [Scalar α]

/-- The result that a computation returns. -/
def answer (t : Tracker α) : Except TrackingFault (Tick α) := t.tick.map fun after => after.2.1

/-- The tracker after a request. -/
def apply (t : Tracker α) : Request α → Tracker α
  | .setConfig config => t.setConfig config
  | .setPose pose => t.setPose pose
  | .setRoute route => t.setRoute route
  | .tick =>
    match t.tick with
    | .ok (after, _, _) => after
    | .error _ => t

/-- The tracker after a sequence of requests. -/
def after (t : Tracker α) (requests : List (Request α)) : Tracker α := requests.foldl apply t

/-- The results since the route was set, by those before a request. -/
def resultsAfter (t : Tracker α) (recent : List (Tick α)) : Request α → List (Tick α)
  | .setRoute _ => []
  | .tick => recent ++ t.answer.toOption.toList
  | _ => recent

/-- The results returned since the last request that set the route, after those that came before
the requests. -/
def resultsFrom (recent : List (Tick α)) (t : Tracker α) : List (Request α) → List (Tick α)
  | [] => recent
  | request :: rest => resultsFrom (t.resultsAfter recent request) (t.apply request) rest

/-- The results returned during the requests since the route was last set. -/
def results (t : Tracker α) (requests : List (Request α)) : List (Tick α) :=
  t.resultsFrom [] requests

section Requests

variable (t : Tracker α) (requests : List (Request α)) (request : Request α)

theorem after_snoc : t.after (requests ++ [request]) = (t.after requests).apply request := by
  rw [after, List.foldl_append]
  rfl

theorem resultsFrom_snoc (recent : List (Tick α)) :
    t.resultsFrom recent (requests ++ [request]) =
      (t.after requests).resultsAfter (t.resultsFrom recent requests) request := by
  induction requests generalizing t recent with
  | nil => rfl
  | cons first rest ih => exact ih (t.apply first) (t.resultsAfter recent first)

theorem results_snoc :
    t.results (requests ++ [request]) =
      (t.after requests).resultsAfter (t.results requests) request :=
  t.resultsFrom_snoc requests request []

end Requests

/-! ## Computations -/

theorem answer_posed (t : Tracker α) :
    t.answer = match t.pose with
      | none => .ok .pathLost
      | some pose => t.route.track pose t.config := by
  unfold answer tick
  cases t.pose with
  | none => rfl
  | some pose =>
    dsimp only
    cases t.route.track pose t.config <;> rfl

/-- A computation that returns leaves its aim, and one that is interrupted leaves everything. -/
theorem apply_tick (t : Tracker α) :
    t.apply .tick = match t.answer with
      | .ok tick => { t with aim := tick.aim }
      | .error _ => t := by
  unfold apply answer tick
  cases t.pose with
  | none => rfl
  | some pose =>
    dsimp only
    cases t.route.track pose t.config <;> rfl

/-- An aim is on the route, and has a target only if the computation succeeded. -/
structure Fits (tick : Tick α) (route : Route α) : Prop where
  index : tick.aim.index = -1 ∨ 0 ≤ tick.aim.index ∧ tick.aim.index < route.length
  target : tick.aim.target.isSome = true → tick.status = .ok

theorem fits_of_answer {t : Tracker α} {tick : Tick α} (answered : t.answer = .ok tick) :
    Fits tick t.route := by
  rw [answer_posed] at answered
  cases posed : t.pose with
  | none =>
    rw [posed] at answered
    cases answered
    exact ⟨.inl rfl, nofun⟩
  | some pose =>
    rw [posed] at answered
    dsimp only at answered
    have course := t.route.track_course pose t.config
    rw [answered] at course
    cases course with
    | pathLost => exact ⟨.inl rfl, nofun⟩
    | noValidCurve found | targetLost found =>
      have within := (Route.search_spec found).1
      exact ⟨.inr ⟨Int.natCast_nonneg _, Int.ofNat_lt.mpr within⟩, nofun⟩
    | onTarget found =>
      have within := (Route.search_spec found).1
      exact ⟨.inr ⟨Int.natCast_nonneg _, Int.ofNat_lt.mpr within⟩, fun _ => rfl⟩

/-! ## What is held -/

/-- The tracker holds what was set last. -/
structure Holds (t : Tracker α) (config : Lookahead α) (pose : Option (Pose α))
    (route : Route α) : Prop where
  config : t.config = config
  pose : t.pose = pose
  route : t.route = route

/-- What is left of the last computation: the aim of the newest result since the route was set,
which fits that route. -/
structure Remembers (t : Tracker α) (recent : List (Tick α)) : Prop where
  aim : t.aim = (recent.getLast?.map Tick.aim).getD .unset
  fits : ∀ tick, recent.getLast? = some tick → Fits tick t.route

theorem holds_latest (config : Lookahead α) (requests : List (Request α)) :
    ((new config).after requests).Holds (Request.latest Request.config? config requests)
      (Request.latest Request.pose? none requests)
      (Request.latest Request.route? [] requests) := by
  induction requests using List.reverseRecOn with
  | nil => exact ⟨rfl, rfl, rfl⟩
  | append_singleton requests request ih =>
    obtain ⟨config, pose, route⟩ := ih
    rw [after_snoc, Request.latest_snoc, Request.latest_snoc, Request.latest_snoc]
    cases request with
    | setConfig => exact ⟨rfl, pose, route⟩
    | setPose => exact ⟨config, rfl, route⟩
    | setRoute => exact ⟨config, pose, rfl⟩
    | tick =>
      rw [apply_tick]
      split <;> exact ⟨config, pose, route⟩

/-- A computation makes its result the newest, if it returns one. -/
theorem Remembers.tick {t : Tracker α} {recent : List (Tick α)} (remembers : t.Remembers recent) :
    (t.apply .tick).Remembers (t.resultsAfter recent .tick) := by
  rw [apply_tick, resultsAfter]
  cases answered : t.answer with
  | error fault => simpa [Except.toOption] using remembers
  | ok tick =>
    have newest : (recent ++ (Except.ok tick : Except TrackingFault _).toOption.toList).getLast? =
        some tick := List.getLast?_concat
    constructor
    · rw [newest]
      rfl
    · intro tick' same
      rw [newest] at same
      cases same
      exact fits_of_answer answered

theorem remembers_newest (config : Lookahead α) (requests : List (Request α)) :
    ((new config).after requests).Remembers ((new config).results requests) := by
  induction requests using List.reverseRecOn with
  | nil => exact ⟨rfl, nofun⟩
  | append_singleton requests request ih =>
    rw [after_snoc, results_snoc]
    cases request with
    | setConfig | setPose => exact ⟨ih.aim, ih.fits⟩
    | setRoute => exact ⟨rfl, nofun⟩
    | tick => exact ih.tick

omit [Scalar α] in
/-- The aim that is left is unset or on the route. -/
theorem Remembers.index {t : Tracker α} {recent : List (Tick α)} (remembers : t.Remembers recent) :
    t.aim.index = -1 ∨ 0 ≤ t.aim.index ∧ t.aim.index < t.route.length := by
  rw [remembers.aim]
  cases newest : recent.getLast? with
  | none => exact .inl rfl
  | some tick => exact (remembers.fits tick newest).index

omit [Scalar α] in
theorem aimedWaypoint_eq_none_iff {t : Tracker α}
    (index : t.aim.index = -1 ∨ 0 ≤ t.aim.index ∧ t.aim.index < t.route.length) :
    t.aimedWaypoint = none ↔ t.aim.index = -1 := by
  unfold aimedWaypoint
  cases aimed : t.aim.index with
  | ofNat i =>
    rw [aimed] at index
    have within : i < t.route.length := by
      rcases index with unset | ⟨-, inside⟩
      · cases unset
      · exact Int.ofNat_lt.mp inside
    dsimp only
    rw [List.getElem?_eq_getElem within]
    exact iff_of_false nofun nofun
  | negSucc i =>
    rw [aimed] at index
    exact iff_of_true rfl (index.resolve_right fun inside => absurd inside.1 (by omega))

/-- After every sequence of requests a computation returns that no path is there if the pose set
last is none, and else what follows from the route, pose and configuration set last. The waypoint
aimed at is none or one of that route, its position is there exactly if it is, and a target is
left only if some computation has returned a result since that route was set and the newest one
to do so succeeded with this target. -/
theorem answers_latest (config : Lookahead α) (requests : List (Request α)) :
    let start := Tracker.new config
    let t := start.after requests
    let route := Request.latest Request.route? [] requests
    t.answer =
      (match Request.latest Request.pose? none requests with
        | none => .ok .pathLost
        | some pose => route.track pose (Request.latest Request.config? config requests)) ∧
    (t.aim.index = -1 ∨ 0 ≤ t.aim.index ∧ t.aim.index < route.length) ∧
    (t.aimedWaypoint = none ↔ t.aim.index = -1) ∧
    (t.aim.target.isSome = true → ∃ tick, (start.results requests).getLast? = some tick ∧
      tick.status = .ok ∧ tick.aim.target = t.aim.target) := by
  intro start t route
  have holds := holds_latest config requests
  have remembers : t.Remembers (start.results requests) := remembers_newest config requests
  have index := remembers.index
  have sameRoute : t.route = route := holds.route
  refine ⟨?_, by rwa [← sameRoute], aimedWaypoint_eq_none_iff index, ?_⟩
  · rw [answer_posed, holds.config, holds.pose, holds.route]
  · intro targeted
    rw [remembers.aim] at targeted ⊢
    cases newest : (start.results requests).getLast? with
    | none => rw [newest] at targeted; cases targeted
    | some tick =>
      rw [newest] at targeted
      exact ⟨tick, rfl, (remembers.fits tick newest).target targeted, rfl⟩

end Tracker
end PathTracking
