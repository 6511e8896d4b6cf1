import PathTracking.Library
import PathTracking.Route.Listing
import PathTracking.Route.Plan
import PathTracking.Route.Table

/-!
# Routes in files

A route file is a table, a listing or a mission plan, as the ending of its name tells.
-/
namespace PathTracking

inductive RouteFormat
  | table
  | listing
  | plan
  deriving DecidableEq, Repr

/-- The ending of a file name: from its last point on, unless only points come before. -/
def fileEnding (name : List Char) : List Char :=
  let base := (name.reverse.takeWhile (· ≠ '/')).reverse
  let stem := base.dropWhile (· = '.')
  if stem.contains '.' then '.' :: (stem.reverse.takeWhile (· ≠ '.')).reverse else []

/-- The format of a file with this name. Case does not matter. -/
def RouteFormat.ofName (name : String) : Except LoadError RouteFormat :=
  let ending := String.ofList (Text.lower (fileEnding name.toList))
  if ending = ".csv" then .ok .table
  else if ending = ".yaml" ∨ ending = ".yml" then .ok .listing
  else if ending = ".plan" then .ok .plan
  else .error (.unsupported (if ending.isEmpty then name else ending))

/-- The document in a file with the syntax of plans. -/
def readJson (room : Nat) (content : Bytes) : Except LoadError Value := do
  let text ← (Text.decodeWhole content).mapError .encoding
  let text := Text.unifyLineEnds text
  (Json.parse room text).mapError (.json text)

namespace Route

/-- The route in the content of the table `name`. A fault of the text shows only once the rows
before its block are read. -/
def ofTable (name : String) (content : Bytes) : Except LoadError (Route Float) :=
  match Text.decodeFile content with
  | .ok text => do
    let rows ← (Csv.rows text).mapError .rows
    (Table.route rows).mapError fun fault => .row name fault.number fault.row
  | .error fault => do
    let _ ← (Csv.rowsFrom [] none (Csv.completeLines (Text.decodedBefore content))).mapError .rows
    throw (.encoding fault)

variable (library : Library)

def ofListing (content : Bytes) : Except LoadError (Route Float) := do
  Listing.route library.validator (← (library.readDocument content).mapError .document)

def ofPlan (home : Option Geodesic.Place) (content : Bytes) : Except LoadError (Route Float) := do
  Plan.route library.survey home (← readJson library.room content)

/-- The route in the content of the file `name`. -/
def ofContent (format : RouteFormat) (home : Option Geodesic.Place) (name : String)
    (content : Bytes) : Except LoadError (Route Float) :=
  match format with
  | .table => ofTable name content
  | .listing => ofListing library content
  | .plan => ofPlan library home content

variable {m : Type → Type} [Monad m]

/-- Reads a route file of a known format. -/
def loadAs (host : Host m) (format : RouteFormat) (home : Option Geodesic.Place)
    (name : String) : ExceptT LoadError m (Route Float) := do
  ofContent library format home name (← (host.read name).adapt .file)

/-- Reads a route file. -/
def load (host : Host m) (name : String) : ExceptT LoadError m (Route Float) := do
  loadAs library host (← RouteFormat.ofName name) none name

end Route
end PathTracking
