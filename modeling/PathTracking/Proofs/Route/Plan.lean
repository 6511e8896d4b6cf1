import PathTracking.Proofs.Binary64.Sign
import PathTracking.Proofs.Failure
import PathTracking.Route.Plan

/-!
# What a mission plan keeps

The command of an item, its position and its height are looked up in one place and, where that says
nothing, in another. Here these rules are told as if nothing could fail (`command`, `latitude`,
`longitude`, `altitude`): what is not there is `null`. A plan that loads has followed them. It gives
one waypoint for each item that navigates and has a position (`isKept`), in order, and all of them
are seen from one origin (`route_placed`).
-/
namespace PathTracking.Route.Plan

open Geodesic (Bearing Place Survey)

/-! ## The rules of a plan -/

/-- The field of a value; `null` if it is not there. -/
def field (v : Value) (name : String) : Value :=
  (v.get name).toOption.join.getD .null

/-- The entry of a value at a place; `null` if it is not there. -/
def entry (v : Value) (i : Nat) : Value :=
  (v.item i).toOption.getD .null

/-- How many entries a value has. -/
def count (v : Value) : Nat :=
  v.size.toOption.getD 0

def command (item : Value) : Value :=
  if (field item "command").isGiven then field item "command" else field item "Command"

/-- A value or, if it is `null`, one of the parameters. -/
def orParam (item value : Value) (i : Nat) : Value :=
  if value.isNull then entry (field item "params") i else value

def latitude (item : Value) : Value :=
  orParam item (entry (field item "coordinate") 0) 4

def longitude (item : Value) : Value :=
  orParam item (entry (field item "coordinate") 1) 5

/-- The third entry; `null` if there are only two. -/
def third (v : Value) : Value :=
  if 2 < count v then entry v 2 else .null

def altitude (item : Value) : Value :=
  orParam item (third (field item "coordinate")) 6

/-- The items that are kept navigate and have a position. -/
def isKept (item : Value) : Bool :=
  isNavigation (command item) && (!(latitude item).isNull && !(longitude item).isNull)

/-- The stop that an item stands for. -/
structure Reads (item : Value) (stop : Stop) : Prop where
  lat : (latitude item).toNumber = .ok stop.place.lat
  lon : (longitude item).toNumber = .ok stop.place.lon
  alt : optionalNumber (altitude item) = .ok stop.place.alt
  speed : optionalNumber (field item "Speed") = .ok stop.speed

def missionItems (document : Value) : List Value :=
  (field (field document "mission") "items").elements.toOption.getD []

def plannedPosition (document : Value) : Value :=
  field (field document "mission") "plannedHomePosition"

/-- The home that is planned, at height zero unless there is a third entry. -/
structure Planned (position : Value) (place : Place) : Prop where
  two : 2 ≤ count position
  lat : (entry position 0).toNumber = .ok place.lat
  lon : (entry position 1).toNumber = .ok place.lon
  alt : ∃ z, place.alt = some z ∧
    if 2 < count position then (entry position 2).toNumber = .ok z else z = 0

/-- The origin is the home that is given, else the planned position, else the first place. -/
inductive Origin (position : Value) (first : Place) : Option Place → Place → Prop
  | home (place : Place) : Origin position first (some place) place
  | planned {place : Place} (planned : Planned position place) : Origin position first none place
  | first (few : count position < 2) :
      Origin position first none { first with
        alt := some (if first.alt.getD 0 == 0 then 0 else first.alt.getD 0) }

/-- Where a stop is: at the height of the origin if it has none. -/
def target (origin : Place) (stop : Stop) : Place :=
  { stop.place with alt := stop.place.alt.orElse fun _ => origin.alt }

/-- A waypoint is where its stop is seen from the origin. -/
structure Placed (survey : Survey) (origin : Place) (stop : Stop) (w : Waypoint Float) : Prop where
  position : Geodesic.localPoint survey origin (target origin stop) = .ok w.position
  height : ∀ alt ∈ stop.place.alt, w.z = alt - origin.alt.getD 0
  level : stop.place.alt = none → (∀ alt ∈ origin.alt, alt.isFinite = true) → w.z = 0
  speed : w.speed = stop.speed

/-- The bearing of a point in the same place: no distance, in a direction that has a sine and a
cosine. -/
structure Together (bearing : Bearing) : Prop where
  distance : (bearing.distance == 0) = true
  sine : ∀ s, Scalar.sin (Geodesic.radians bearing.azimuth) = .ok s → s.isFinite = true
  cosine : ∀ c, Scalar.cos (Geodesic.radians bearing.azimuth) = .ok c → c.isFinite = true

/-! ## Fields and entries -/

theorem field_of_get {v : Value} {name : String} {found : Option Value}
    (got : v.get name = .ok found) : field v name = found.getD .null := by
  rw [field, got]
  rfl

theorem entry_of_item {v w : Value} {i : Nat} (got : v.item i = .ok w) : entry v i = w := by
  rw [entry, got]
  rfl

theorem count_of_size {v : Value} {n : Nat} (sized : v.size = .ok n) : count v = n := by
  rw [count, sized]
  rfl

/-- What does not count as given has no entries. -/
theorem empty_of_not_given {v : Value} (blank : v.isGiven = false) :
    (∀ i, entry v i = .null) ∧ count v = 0 := by
  cases v with
  | text s =>
    obtain rfl : s = "" := by simpa [Value.isGiven] using blank
    exact ⟨fun _ => rfl, rfl⟩
  | list items | set items | bytes items | mapping items =>
    cases items with
    | nil => exact ⟨fun _ => rfl, rfl⟩
    | cons => cases blank
  | broken | pair | link => cases blank
  | null | bool | int | float | timestamp => exact ⟨fun _ => rfl, rfl⟩

theorem eitherField_eq_ok {item v : Value} {first second : String}
    (read : eitherField item first second = .ok v) :
    v = if (field item first).isGiven then field item first else field item second := by
  obtain ⟨found, got, rest⟩ := bind_eq_ok_iff.mp read
  rw [field_of_get got]
  dsimp only at rest
  split at rest
  next given =>
    cases rest
    rw [if_pos given]
  next blank =>
    obtain ⟨other, got, ⟨⟩⟩ := bind_eq_ok_iff.mp rest
    rw [if_neg blank, field_of_get got]

theorem listField_eq_ok {item v : Value} {name : String} {length : Nat}
    (read : listField item name length = .ok v) :
    v = field item name ∨
      (field item name).isGiven = false ∧ v = .list (List.replicate length .null) := by
  obtain ⟨found, got, rest⟩ := bind_eq_ok_iff.mp read
  rw [field_of_get got]
  dsimp only at rest
  split at rest
  · cases rest
    exact .inl rfl
  next blank =>
    cases rest
    exact .inr ⟨Bool.eq_false_iff.mpr blank, rfl⟩

theorem item_replicate {length i : Nat} {w : Value}
    (got : (Value.list (List.replicate length .null)).item i = .ok w) : w = .null := by
  obtain ⟨items, ⟨⟩, rest⟩ := bind_eq_ok_iff.mp got
  split at rest
  next w there =>
    cases rest
    exact List.eq_of_mem_replicate (List.mem_of_getElem? there)
  next => cases rest

section ListField

variable {item v w : Value} {name : String} {length : Nat}
  (read : listField item name length = .ok v)

include read

/-- The list of `null`s that stands in for a field has the same entries as the field. -/
theorem entry_of_listField {i : Nat} (got : v.item i = .ok w) : entry (field item name) i = w := by
  rcases listField_eq_ok read with rfl | ⟨blank, rfl⟩
  · exact entry_of_item got
  · rw [(empty_of_not_given blank).1, item_replicate got]

theorem third_of_listField {n : Nat} (sized : v.size = .ok n)
    (got : (if 2 < n then v.item 2 else pure .null) = .ok w) : third (field item name) = w := by
  unfold third
  rcases listField_eq_ok read with rfl | ⟨blank, rfl⟩
  · rw [count_of_size sized]
    split at got
    next three => rw [if_pos three, entry_of_item got]
    next two =>
      cases got
      rw [if_neg two]
  · rw [(empty_of_not_given blank).2, if_neg (Nat.not_lt_zero 2)]
    split at got
    · exact (item_replicate got).symm
    · cases got
      rfl

end ListField

theorem orParam_of_listField {item params value w : Value} {i : Nat}
    (read : listField item "params" 7 = .ok params)
    (got : (if value.isNull then params.item i else .ok value) = .ok w) :
    orParam item value i = w := by
  unfold orParam
  split at got
  next blank => rw [if_pos blank, entry_of_listField read got]
  next given =>
    cases got
    rw [if_neg given]

/-! ## Stops -/

/-- The stop of an item that navigates, once its coordinates are looked up. -/
def stopAt? (item lat lon alt : Value) : Except Misfit (Option Stop) := do
  if lat.isNull || lon.isNull then return none
  let speed := (← item.get "Speed").getD .null
  return some {
    place := { lat := ← lat.toNumber, lon := ← lon.toNumber, alt := ← optionalNumber alt }
    speed := ← optionalNumber speed }

theorem stopAt?_eq_ok {item lat lon alt : Value} {found : Option Stop}
    (read : stopAt? item lat lon alt = .ok found) :
    found.isSome = (!lat.isNull && !lon.isNull) ∧ ∀ stop ∈ found,
      lat.toNumber = .ok stop.place.lat ∧ lon.toNumber = .ok stop.place.lon ∧
        optionalNumber alt = .ok stop.place.alt ∧
        optionalNumber (field item "Speed") = .ok stop.speed := by
  unfold stopAt? at read
  rw [← Bool.not_or]
  split at read
  next missing =>
    cases read
    rw [missing]
    exact ⟨rfl, nofun⟩
  next there =>
    simp only [bind_eq_ok_iff] at read
    obtain ⟨speed, got, x, lat, y, lon, z, alt, v, speed, ⟨⟩⟩ := read
    rw [Bool.eq_false_iff.mpr there, field_of_get got]
    refine ⟨rfl, ?_⟩
    rintro stop ⟨⟩
    exact ⟨lat, lon, alt, speed⟩

theorem stop?_eq_ok {item : Value} {found : Option Stop} (read : stop? item = .ok found) :
    found.isSome = isKept item ∧ ∀ stop ∈ found, Reads item stop := by
  obtain ⟨_, either, read⟩ := bind_eq_ok_iff.mp read
  obtain rfl : _ = command item := eitherField_eq_ok either
  unfold isKept
  dsimp only at read
  cases navigates : isNavigation (command item) with
  | false =>
    rw [navigates] at read
    cases read
    exact ⟨rfl, nofun⟩
  | true =>
    rw [navigates] at read
    simp only [bind_eq_ok_iff, Bool.not_true, Bool.false_eq_true, if_false] at read
    obtain ⟨coordinates, listed, params, spare, first, gotFirst, lat, isLat, second, gotSecond,
      lon, isLon, n, sized, read⟩ := read
    -- Whether or not there is a third coordinate, the rest is the same.
    have ⟨last, gotThird, read⟩ : ∃ last,
        (if 2 < n then coordinates.item 2 else pure .null) = .ok last ∧
          ((if last.isNull then params.item 6 else .ok last) >>= stopAt? item lat lon) =
            .ok found := by
      split at read
      next three => rw [if_pos three]; exact bind_eq_ok_iff.mp read
      next two => rw [if_neg two]; exact bind_eq_ok_iff.mp read
    obtain ⟨alt, isAlt, read⟩ := bind_eq_ok_iff.mp read
    obtain rfl := entry_of_listField listed gotFirst
    obtain rfl := entry_of_listField listed gotSecond
    obtain rfl := third_of_listField listed sized gotThird
    obtain rfl : latitude item = lat := orParam_of_listField spare isLat
    obtain rfl : longitude item = lon := orParam_of_listField spare isLon
    obtain rfl : altitude item = alt := orParam_of_listField spare isAlt
    obtain ⟨kept, reads⟩ := stopAt?_eq_ok read
    refine ⟨kept, fun stop member => ?_⟩
    obtain ⟨lat, lon, alt, speed⟩ := reads stop member
    exact ⟨lat, lon, alt, speed⟩

theorem stops_eq_ok {items : List Value} {found : List Stop} (read : stops items = .ok found) :
    List.Forall₂ Reads (items.filter isKept) found := by
  obtain ⟨options, traversed, ⟨⟩⟩ := bind_eq_ok_iff.mp read
  have each := mapM_eq_ok_iff.mp traversed
  clear read traversed
  -- Item by item: those that give no stop are those that the filter leaves out.
  induction each with
  | nil => exact .nil
  | @cons item option items options here later ih =>
    obtain ⟨kept, reads⟩ := stop?_eq_ok here
    cases option with
    | none =>
      rw [List.filter_cons_of_neg (by rw [← kept]; exact Bool.false_ne_true)]
      exact ih
    | some stop =>
      rw [List.filter_cons_of_pos kept.symm]
      exact .cons (reads stop rfl) ih

/-! ## The origin -/

theorem plannedHome?_eq_ok {mission : Value} {found : Option Place}
    (read : plannedHome? mission = .ok found) :
    (found = none → count (field mission "plannedHomePosition") < 2) ∧
      ∀ place ∈ found, Planned (field mission "plannedHomePosition") place := by
  obtain ⟨there, got, read⟩ := bind_eq_ok_iff.mp read
  rw [field_of_get got]
  dsimp only at read
  split at read
  next blank =>
    cases read
    rw [(empty_of_not_given ((Bool.not_eq_true' _).mp blank)).2]
    exact ⟨fun _ => Nat.zero_lt_two, nofun⟩
  next =>
    obtain ⟨n, sized, read⟩ := bind_eq_ok_iff.mp read
    rw [count_of_size sized]
    split at read
    next few =>
      cases read
      exact ⟨fun _ => few, nofun⟩
    next many =>
      simp only [bind_eq_ok_iff] at read
      obtain ⟨v, got, x, lat, w, got', y, lon, rest⟩ := read
      have ⟨z, alt, place⟩ : ∃ z, (if 2 < n then (entry (there.getD .null) 2).toNumber = .ok z
          else z = 0) ∧ found = some ⟨x, y, some z⟩ := by
        split at rest
        next three =>
          obtain ⟨z, spelled, ⟨⟩⟩ := bind_eq_ok_iff.mp rest
          obtain ⟨u, got, alt⟩ := bind_eq_ok_iff.mp spelled
          exact ⟨z, by rw [if_pos three, entry_of_item got, alt], rfl⟩
        next two =>
          cases rest
          exact ⟨0, by rw [if_neg two], rfl⟩
      subst place
      refine ⟨nofun, ?_⟩
      rintro place ⟨⟩
      rw [← count_of_size sized] at many alt
      exact ⟨Nat.not_lt.mp many, by rw [entry_of_item got, lat], by rw [entry_of_item got', lon],
        z, rfl, alt⟩

theorem origin_eq_ok {mission : Value} {home : Option Place} {first place : Place}
    (read : origin mission home first = .ok place) :
    Origin (field mission "plannedHomePosition") first home place := by
  unfold origin at read
  split at read
  next =>
    cases read
    exact .home _
  next =>
    obtain ⟨planned, looked, read⟩ := bind_eq_ok_iff.mp read
    obtain ⟨few, there⟩ := plannedHome?_eq_ok looked
    cases planned with
    | none =>
      cases read
      exact .first (few rfl)
    | some planned =>
      cases read
      exact .planned (there place rfl)

/-! ## Waypoints -/

theorem target_alt (origin : Place) (stop : Stop) :
    (target origin stop).alt = stop.place.alt.orElse fun _ => origin.alt := rfl

theorem localPoint_eq_ok {survey : Survey} {home target : Place} {p : Point Float}
    (seen : Geodesic.localPoint survey home target = .ok p) :
    p.z = target.alt.getD 0 - home.alt.getD 0 ∧
      (Together (survey home target) → (p.x == 0) = true ∧ (p.y == 0) = true) := by
  simp only [Geodesic.localPoint, bind_eq_ok_iff] at seen
  obtain ⟨c, cosine, s, sine, ⟨⟩⟩ := seen
  exact ⟨rfl, fun together => ⟨Binary64.zero_mul together.distance (together.sine s sine),
    Binary64.zero_mul together.distance (together.cosine c cosine)⟩⟩

theorem waypoint_eq_ok {survey : Survey} {origin : Place} {stop : Stop} {w : Waypoint Float}
    (made : waypoint survey origin stop = .ok w) : Placed survey origin stop w := by
  obtain ⟨p, seen, ⟨⟩⟩ := bind_eq_ok_iff.mp made
  have up : p.z = (target origin stop).alt.getD 0 - origin.alt.getD 0 := (localPoint_eq_ok seen).1
  rw [target_alt] at up
  refine ⟨seen, fun alt known => ?_, fun unknown finite => ?_, rfl⟩
  · rw [Option.mem_def.mp known] at up
    exact up
  · have finite : (origin.alt.getD 0).isFinite = true := by
      cases known : origin.alt with
      | none => rfl
      | some alt => exact finite alt known
    rw [unknown] at up
    exact up.trans (Binary64.sub_self finite)

/-- Seen from its own place a stop is at zero. -/
theorem Placed.at_origin {survey : Survey} {origin : Place} {position : Value} {stop : Stop}
    {w : Waypoint Float} (placed : Placed survey origin stop w)
    (first : Origin position stop.place none origin) (few : count position < 2)
    (finite : ∀ alt ∈ stop.place.alt, alt.isFinite = true)
    (together : Together (survey origin (target origin stop))) :
    (w.x == 0) = true ∧ (w.y == 0) = true ∧ (w.z == 0) = true := by
  obtain ⟨east, north⟩ := (localPoint_eq_ok placed.position).2 together
  refine ⟨east, north, ?_⟩
  cases first with
  | planned planned => exact absurd few (Nat.not_lt.mpr planned.two)
  | first =>
    cases known : stop.place.alt with
    | none =>
      have ground : ∀ alt ∈ some (if stop.place.alt.getD 0 == 0 then 0 else stop.place.alt.getD 0),
          alt.isFinite = true := by
        rintro _ ⟨⟩
        rw [known]
        rfl
      rw [placed.level known ground]
      rfl
    | some alt =>
      rw [placed.height alt known, known, Option.getD_some, Option.getD_some]
      -- Only a zero can be replaced in the origin, by the zero without sign.
      split
      next zero => exact Binary64.zero_sub_zero zero
      next =>
        rw [Binary64.sub_self (finite alt known)]
        rfl

/-! ## Plans -/

/-- A mission that is absent has no fields. -/
theorem field_getD (found : Option Value) (name : String) :
    field (found.getD (.mapping [])) name = field (found.getD .null) name := by
  cases found <;> rfl

theorem mission_eq_ok {document m : Value} {items : List Value}
    (read : mission document = .ok (m, items)) :
    items = missionItems document ∧ field m "plannedHomePosition" = plannedPosition document := by
  simp only [mission, bind_eq_ok_iff] at read
  obtain ⟨there, got, listed, got', elements, visited, ⟨⟩⟩ := read
  rw [missionItems, plannedPosition, field_of_get got, ← field_getD, ← field_getD,
    field_of_get got']
  refine ⟨?_, rfl⟩
  -- Items that are absent count as none, and so does what has no elements.
  cases listed with
  | none =>
    cases visited
    rfl
  | some v =>
    rw [Option.getD_some] at visited ⊢
    rw [visited]
    rfl

theorem route_eq_ok {survey : Survey} {home : Option Place} {document : Value}
    {route : Route Float} (loaded : Plan.route survey home document = .ok route) :
    ∃ stops, List.Forall₂ Reads ((missionItems document).filter isKept) stops ∧
      (stops = [] ∧ route = [] ∨ ∃ first rest origin, stops = first :: rest ∧
        Origin (plannedPosition document) first.place home origin ∧
        List.Forall₂ (Placed survey origin) stops route) := by
  obtain ⟨⟨m, items⟩, read, rest⟩ := bind_eq_ok_iff.mp loaded
  obtain ⟨rfl, position⟩ := mission_eq_ok (mapError_eq_ok_iff.mp read)
  obtain ⟨stops, read, rest⟩ := bind_eq_ok_iff.mp rest
  refine ⟨stops, stops_eq_ok (mapError_eq_ok_iff.mp read), ?_⟩
  cases stops with
  | nil =>
    cases rest
    exact .inl ⟨rfl, rfl⟩
  | cons first later =>
    obtain ⟨origin, read, made⟩ := bind_eq_ok_iff.mp rest
    have seenFrom := origin_eq_ok (mapError_eq_ok_iff.mp read)
    rw [position] at seenFrom
    have each := mapM_eq_ok_iff.mp (mapError_eq_ok_iff.mp made)
    exact .inr ⟨first, later, origin, rfl, seenFrom, each.imp fun _ _ => waypoint_eq_ok⟩

/-- A plan that loads gives one waypoint for each item that is kept, in order. All of them are seen
from one origin; if that is the first of them, its own waypoint is at zero. -/
theorem route_placed {survey : Survey} {home : Option Place} {document : Value}
    {route : Route Float} (loaded : Plan.route survey home document = .ok route) :
    ∃ stops origin,
      List.Forall₂ Reads ((missionItems document).filter isKept) stops ∧
      List.Forall₂ (Placed survey origin) stops route ∧
      ∀ first ∈ stops.head?, ∀ w ∈ route.head?,
        Origin (plannedPosition document) first.place home origin ∧
        (home = none → count (plannedPosition document) < 2 →
          (∀ alt ∈ first.place.alt, alt.isFinite = true) →
          Together (survey origin (target origin first)) →
          (w.x == 0) = true ∧ (w.y == 0) = true ∧ (w.z == 0) = true) := by
  obtain ⟨stops, reads, ⟨rfl, rfl⟩ | ⟨first, rest, origin, rfl, seenFrom, placed⟩⟩ :=
    route_eq_ok loaded
  · exact ⟨[], ⟨0, 0, none⟩, reads, .nil, nofun⟩
  · refine ⟨_, origin, reads, placed, ?_⟩
    rintro _ ⟨⟩ w there
    refine ⟨seenFrom, ?_⟩
    rintro rfl few finite together
    cases placed with
    | cons here =>
      obtain rfl := Option.some.inj there
      exact here.at_origin seenFrom few finite together

/-- An item with its height among the parameters. -/
def hover : Value :=
  .mapping [(.text "command", .int 16), (.text "coordinate", .list [.int 47, .int 0, .null]),
    (.text "params", .list [.null, .null, .null, .null, .int 1, .int 1, .int 30])]

/-- An item with its command and its position in the other places, straight below. -/
def descend : Value :=
  .mapping [(.text "command", .int 0), (.text "Command", .text "MAV_CMD_NAV_WAYPOINT"),
    (.text "params", .list [.int 0, .int 0, .int 0, .int 0, .int 47, .int 0, .int 12])]

/-- An item at another place. -/
def aside : Value :=
  .mapping [(.text "command", .int 16), (.text "coordinate", .list [.int 48, .int 0, .int 30])]

/-- A plan without home, that starts with items that are left out. -/
def hoverPlan : Value :=
  .mapping [(.text "mission", .mapping [
    (.text "plannedHomePosition", .list [.int 47]),
    (.text "items", .list [
      .mapping [(.text "command", .int 22), (.text "coordinate", .list [.int 46, .int 7])],
      .mapping [(.text "command", .int 16), (.text "coordinate", .list [.int 46, .null])],
      hover, descend, aside])])]

/-- A survey of places on a grid: they are apart by a metre to the south unless they are the
same. -/
def gridSurvey : Survey := fun home target =>
  ⟨if home.lat == target.lat && home.lon == target.lon then 0 else 1, 180⟩

theorem route_placed_hover :
    ∃ route, Plan.route gridSurvey none hoverPlan = .ok route ∧ route.length = 3 ∧
      ((∀ s, Scalar.sin (Geodesic.radians 180) = .ok s → s.isFinite = true) →
        (∀ c, Scalar.cos (Geodesic.radians 180) = .ok c → c.isFinite = true) →
        ∀ w ∈ route.head?, (w.x == 0) = true ∧ (w.y == 0) = true ∧ (w.z == 0) = true) := by
  obtain ⟨route, loaded⟩ : ∃ route, Plan.route gridSurvey none hoverPlan = .ok route := ⟨_, rfl⟩
  obtain ⟨stops, origin, reads, placed, seen⟩ := route_placed loaded
  have kept : (missionItems hoverPlan).filter isKept = [hover, descend, aside] := rfl
  rw [kept] at reads
  have three : route.length = 3 := placed.length_eq.symm.trans reads.length_eq.symm
  refine ⟨route, loaded, three, fun sine cosine w there => ?_⟩
  cases reads with
  | @cons _ first _ _ hovers _ =>
    have height : first.place.alt = some 30 := (Except.ok.inj hovers.alt).symm
    have lat : first.place.lat = Binary64.ofInt 47 := (Except.ok.inj hovers.lat).symm
    have lon : first.place.lon = Binary64.ofInt 0 := (Except.ok.inj hovers.lon).symm
    obtain ⟨seenFrom, atZero⟩ := seen first rfl w there
    have few : count (plannedPosition hoverPlan) < 2 := by decide +kernel
    have together : Together (gridSurvey origin (target origin first)) := by
      refine ⟨?_, sine, cosine⟩
      cases seenFrom with
      | planned planned => exact absurd few (Nat.not_lt.mpr planned.two)
      | first =>
        simp only [gridSurvey, target, lat, lon]
        decide +kernel
    refine atZero rfl few ?_ together
    rw [height]
    rintro alt ⟨⟩
    rfl

end PathTracking.Route.Plan
