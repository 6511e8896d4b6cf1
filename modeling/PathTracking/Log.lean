import PathTracking.LoadError
import PathTracking.Settings.Basic
import PathTracking.Tracking.Notice

/-!
# The log of a run

A log shows the notices of its level and above on the console, and writes them to a file
if the settings name one. The level is given by name. Case does not matter, and a name that
means nothing stands for the level of plain information.
-/
namespace PathTracking

/-- Characters outside ASCII whose upper-case form is in ASCII, with that form. -/
def upperToAscii : List (Char × String) := [
  ('ı', "I"), ('ſ', "S"), ('ß', "SS"), ('ﬀ', "FF"), ('ﬁ', "FI"), ('ﬂ', "FL"), ('ﬃ', "FFI"),
  ('ﬄ', "FFL"), ('ﬅ', "ST"), ('ﬆ', "ST")]

/-- A name in upper case, as far as that leads to ASCII. -/
def upperName (name : String) : String :=
  String.join (name.toList.map fun c =>
    match upperToAscii.lookup c with
    | some s => s
    | none => c.toUpper.toString)

namespace Log

/-- The ranks of the levels by name. -/
def levels : List (String × Nat) := [
  ("DEBUG", 10), ("INFO", 20), ("WARN", 30), ("WARNING", 30), ("ERROR", 40), ("FATAL", 50),
  ("CRITICAL", 50), ("NOTSET", 0)]

/-- The rank of the level of a name. Two names belong to other things than levels. -/
def rankNamed (name : String) : Except LoadError Nat :=
  let name := upperName name
  if name = "BASIC_FORMAT" then
    .error (.unknownLevel "'%(levelname)s:%(name)s:%(message)s'")
  else if name = "_STYLES" then .error .unusableLevel
  else .ok ((levels.lookup name).getD Severity.info.rank)

end Log

/-- A log file that is renamed when it reaches `maxBytes`, with `backups` older ones. -/
structure LogFile where
  place : String
  maxBytes : Nat
  backups : Nat
  deriving DecidableEq, Repr

structure Log where
  level : Nat
  file : Option LogFile
  deriving DecidableEq, Repr

namespace Log

/-- Whether a notice is shown. -/
def shows (log : Log) (notice : Notice) : Bool := log.level ≤ notice.severity.rank

/-- The lines on the console for some notices. -/
def console (log : Log) (notices : List Notice) : List String :=
  (notices.filter log.shows).map Notice.line

variable {m : Type → Type} [Monad m]

/-- Sets up the log that the settings ask for. A log file is made at once. -/
def setUp (host : Host m) (settings : Settings Float) (toFile : Bool) :
    ExceptT LoadError m Log := do
  let level ← rankNamed settings.logLevel
  match settings.logFile with
  | none | some "" => return ⟨level, none⟩
  | some name =>
    if !toFile then return ⟨level, none⟩
    let place ← (host.create name).adapt .file
    return ⟨level, some ⟨place, settings.logMaxBytes, settings.logBackups⟩⟩

end Log
end PathTracking
