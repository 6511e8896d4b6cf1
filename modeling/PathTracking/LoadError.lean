import PathTracking.Csv.Rows
import PathTracking.Document
import PathTracking.Files
import PathTracking.Json.Parse
import PathTracking.Scalar
import PathTracking.Settings.Schema

/-!
# What can be wrong with an input

Route files, settings, start poses and the log are taken from outside, and each can turn
out to be unusable. A cause knows its message, and whether a run reports it or breaks off:
a file that cannot be read or a value that cannot be a number is reported, a document
whose structure makes no sense is not.
-/
namespace PathTracking

/-- Why an input cannot be used. -/
inductive LoadError
  | file (fault : FileFault)
  | encoding (fault : Text.Utf8Fault)
  | rows (error : Csv.Error)
  /-- A row of the table `name` that is no waypoint. -/
  | row (name : String) (number : Nat) (cells : Csv.Row)
  /-- A listing or a settings file in which a reader finds no document. -/
  | document (failure : ReadFailure)
  | json (text : List Char) (error : Json.Error)
  /-- A value whose kind does not fit its use. -/
  | misfit (cause : Misfit)
  | invalid (record : Invalid)
  | arithmetic (fault : Fault)
  /-- A file name that tells no known format: its ending, or all of it. -/
  | unsupported (shown : String)
  /-- An element of a list of settings that is not a name and a value. -/
  | badPair (index size : Nat)
  /-- A start pose without two or three numbers. -/
  | badPose (text : String)
  /-- A name that is in use among the log levels but is none. -/
  | unknownLevel (shown : String)
  | unusableLevel

instance : MonadLift (Except Misfit) (Except LoadError) where
  monadLift := Except.mapError .misfit

namespace LoadError

def message : LoadError → String
  | file fault => fault.message
  | encoding fault => fault.message
  | rows .cellTooLong => s!"field larger than field limit ({Csv.maxCell})"
  | row name number cells =>
    s!"{name}:{number}: malformed waypoint row {String.ofList (Text.quotedList cells)}"
  | document failure => failure.message
  | json text error => error.message text
  | misfit cause => cause.message
  | invalid record => record.message
  | arithmetic fault => fault.message
  | unsupported shown => s!"unsupported path file extension: {shown}"
  | badPair index size =>
    s!"dictionary update sequence element #{index} has length {size}; 2 is required"
  | badPose text =>
    s!"start pose must be 'x,y' or 'x,y,yaw_deg', got {String.ofList (Text.quoted text.toList)}"
  | unknownLevel shown => s!"Unknown level: {shown}"
  | unusableLevel => "the level is neither a number nor a name"

/-- Whether a run ends with the message of the cause. Other causes end it abruptly. -/
def isReported : LoadError → Bool
  | file _ | encoding _ | row .. | invalid _ | unsupported _ | badPair .. | badPose _
  | unknownLevel _ => true
  | document failure => failure.isReported
  | json _ error => error ≠ .tooDeep
  | misfit (.notNumeric _) => true
  | arithmetic .outsideDomain => true
  | rows _ | misfit _ | arithmetic _ | unusableLevel => false

end LoadError
end PathTracking
