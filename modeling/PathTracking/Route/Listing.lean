import PathTracking.LoadError
import PathTracking.Settings.Records

/-!
# Routes in listings

A document that lists waypoints: either the list itself or a mapping that holds it under
`waypoints`. An item is a mapping with the fields of a waypoint, or a sequence of
coordinates of which the first two count, and the third if there is one. An empty document
is an empty route.
-/
namespace PathTracking.Route.Listing

/-- The items of a document. -/
def items (document : Document) : Except Misfit (List Value) :=
  if document.root.isGiven then
    match document.root with
    | .mapping entries =>
      (document.follow ((Value.field? "waypoints" entries).getD (.list []))).elements
    | root => root.elements
  else .ok []

/-- The waypoint with the given coordinates. All of them are read, also those after the
third. -/
def ofCoordinates (item : Value) : Except Misfit (Waypoint Float) := do
  match ← (← item.elements).mapM Value.toNumber with
  | x :: y :: rest => return { x, y, z := rest.head?.getD 0, speed := none }
  | _ => throw .missingItem

variable (validator : Validator)

/-- The waypoint with the given fields, whose names all have to be texts. -/
def ofEntries (entries : List (Value × Value)) : Except LoadError (Waypoint Float) :=
  match Fields.ofEntries? entries with
  | some fields => (Waypoint.ofFields validator fields).mapError .invalid
  | none => .error (.misfit .wrongKind)

def waypoint : Value → Except LoadError (Waypoint Float)
  | .mapping entries => ofEntries validator entries
  | item => (ofCoordinates item).mapError .misfit

/-- The route that a document lists. -/
def route (document : Document) : Except LoadError (Route Float) := do
  (← items document).mapM fun item => waypoint validator (document.follow item)

end PathTracking.Route.Listing
