import PathTracking.Geodesic.LocalTangent
import PathTracking.LoadError
import PathTracking.Route.Waypoint

/-!
# Routes in mission plans

A mission plan holds commands in geographic coordinates. Those that navigate to a place
become waypoints: east, north and up of one origin, which is the home that is given, else
the one that is planned, else the first place.
-/
namespace PathTracking.Route.Plan

open Geodesic (Place Survey)

/-- The first of two fields that is given; `null` if neither is there. -/
def eitherField (item : Value) (first second : String) : Except Misfit Value := do
  let value := (← item.get first).getD .null
  if value.isGiven then return value
  else return (← item.get second).getD .null

/-- The command that navigates to a place, by number or by name. -/
def isNavigation (command : Value) : Bool :=
  match command with
  | .int n => n == 16
  | .float x => x == 16
  | .text s => s == "MAV_CMD_NAV_WAYPOINT"
  | _ => false

/-- A list of a field's length where the field is not given. -/
def listField (item : Value) (name : String) (length : Nat) : Except Misfit Value := do
  let value := (← item.get name).getD .null
  if value.isGiven then return value
  else return .list (List.replicate length .null)

/-- A place to navigate to, and the speed to do it with. -/
structure Stop where
  place : Place
  speed : Option Float
  deriving Repr

/-- A number, or none for `null`. -/
def optionalNumber (v : Value) : Except Misfit (Option Float) :=
  if v.isNull then .ok none else v.toNumber.map some

/-- The stop that an item stands for, if it does. Each coordinate comes from the item's
coordinates or, where those say nothing, from its parameters. -/
def stop? (item : Value) : Except Misfit (Option Stop) := do
  if !isNavigation (← eitherField item "command" "Command") then return none
  let coordinate ← listField item "coordinate" 3
  let params ← listField item "params" 7
  let orParam (value : Value) (i : Nat) : Except Misfit Value :=
    if value.isNull then params.item i else .ok value
  -- The height is looked up before the item can be left out for want of a position.
  let lat ← orParam (← coordinate.item 0) 4
  let lon ← orParam (← coordinate.item 1) 5
  let third ← if 2 < (← coordinate.size) then coordinate.item 2 else pure .null
  let alt ← orParam third 6
  if lat.isNull || lon.isNull then return none
  let speed := (← item.get "Speed").getD .null
  return some {
    place := { lat := ← lat.toNumber, lon := ← lon.toNumber, alt := ← optionalNumber alt }
    speed := ← optionalNumber speed }

/-- The stops among some items, in order. -/
def stops (items : List Value) : Except Misfit (List Stop) := do
  return (← items.mapM stop?).filterMap id

/-- The home that a mission plans. -/
def plannedHome? (mission : Value) : Except Misfit (Option Place) := do
  let planned := (← mission.get "plannedHomePosition").getD .null
  if !planned.isGiven then return none
  let size ← planned.size
  if size < 2 then return none
  return some {
    lat := ← (← planned.item 0).toNumber
    lon := ← (← planned.item 1).toNumber
    alt := some (← if 2 < size then planned.item 2 >>= Value.toNumber else pure 0) }

/-- The origin of the local coordinates. The first place stands in with height zero if it
has none. -/
def origin (mission : Value) (home : Option Place) (first : Place) : Except Misfit Place := do
  match home with
  | some place => return place
  | none =>
    match ← plannedHome? mission with
    | some place => return place
    | none =>
      let alt := first.alt.getD 0
      return { first with alt := some (if alt == 0 then 0 else alt) }

/-- A stop as a waypoint. A stop without height has that of the origin. -/
def waypoint (survey : Survey) (home : Place) (stop : Stop) : Except Fault (Waypoint Float) := do
  let target := { stop.place with alt := stop.place.alt.orElse fun _ => home.alt }
  let p ← Geodesic.localPoint survey home target
  return { x := p.x, y := p.y, z := p.z, speed := stop.speed }

/-- The mission of a plan and its items. -/
def mission (document : Value) : Except Misfit (Value × List Value) := do
  let mission := (← document.get "mission").getD (.mapping [])
  let items := (← mission.get "items").getD (.list [])
  return (mission, ← items.elements)

/-- The route of a plan. Without stops no origin is looked for. -/
def route (survey : Survey) (home : Option Place) (document : Value) :
    Except LoadError (Route Float) := do
  let (mission, items) ← (mission document : Except Misfit _)
  match ← (stops items : Except Misfit _) with
  | [] => return []
  | first :: rest =>
    let home ← (origin mission home first.place : Except Misfit _)
    ((first :: rest).mapM (waypoint survey home)).mapError .arithmetic

end PathTracking.Route.Plan
