import PathTracking.CommandLine.Run
import PathTracking.StandardLibrary

/-!
# The program

Runs a command line among the files of the machine.
-/
namespace PathTracking

/-- The fault behind a failed access to the file `name`. -/
def faultOf (name : String) : IO.Error → FileFault
  | .alreadyExists .. => .occupied name
  | .inappropriateType .. => .isDirectory name
  | .invalidArgument .. => .nullCharacter
  | .resourceExhausted .. => .nameTooLong name
  | _ => .notFound name

/-- Tries an access to the file `name`. -/
def attempt {α : Type} (name : String) (action : IO α) : ExceptT FileFault IO α :=
  ExceptT.mk do
    try return .ok (← action)
    catch e => return .error (faultOf name e)

/-- The name of a file from the root of the file system on. -/
def absoluteName (name : String) : IO String := do
  let here ← IO.currentDir
  let name := if name.startsWith "/" then name else here.toString ++ "/" ++ name
  return FileTree.fullName "" (FileTree.locate (FileTree.splitName name))

/-- The files of the machine. -/
def machine : Host IO where
  read name := attempt name do return (← IO.FS.readBinFile name).toList
  create name := attempt name do
    let full ← absoluteName name
    let parts := FileTree.locate (FileTree.splitName full)
    IO.FS.createDirAll (FileTree.fullName "" parts.dropLast)
    let _ ← IO.FS.Handle.mk full .append
    return full

/-- Appends lines to a log file. -/
def writeLog (file : LogFile) (lines : List String) : IO Unit := do
  let handle ← IO.FS.Handle.mk file.place .append
  for line in lines do handle.putStrLn line

/-- Shows and writes what a run leaves behind. -/
def deliver (outcome : CommandLine.Outcome) : IO Unit := do
  for line in outcome.messages ++ outcome.log do IO.eprintln line
  if let some file := outcome.logFile then writeLog file outcome.log
  match outcome.summary with
  | some summary => IO.println (CommandLine.summaryText summary)
  | none => if outcome.messages.isEmpty then IO.eprintln CommandLine.usage

end PathTracking

open PathTracking in
def main (argv : List String) : IO UInt32 := do
  match ← (CommandLine.run .standard machine (← IO.getEnv "LOG_LEVEL") argv).run with
  | .ok outcome =>
    deliver outcome
    return outcome.code.toUInt32
  | .error breakdown =>
    IO.eprintln breakdown.message
    return 1
