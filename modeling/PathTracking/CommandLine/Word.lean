import PathTracking.Text.DecimalDigit

/-!
# Words of a command line

What each word of a command line is, judged on its own: an option, with a value after an
equals sign if there is one, or an operand. The name of an option may be cut short as long
as one option alone starts with what is left. A word with a dash in front that is no option
is an operand only if it looks like a negative number or contains a space.
-/
namespace PathTracking.CommandLine

/-- The options of a run. -/
inductive Switch
  | help
  | path
  | config
  | lookahead
  | minLookahead
  | noInterpolation
  | speed
  | maxTicks
  | start
  | logLevel
  | logFile
  | noLogFile
  deriving DecidableEq, Repr

namespace Switch

def name : Switch → String
  | help => "--help"
  | path => "--path"
  | config => "--config"
  | lookahead => "--lookahead"
  | minLookahead => "--min-lookahead"
  | noInterpolation => "--no-interpolation"
  | speed => "--speed"
  | maxTicks => "--max-ticks"
  | start => "--start"
  | logLevel => "--log-level"
  | logFile => "--log-file"
  | noLogFile => "--no-log-file"

def all : List Switch := [
  help, path, config, lookahead, minLookahead, noInterpolation, speed, maxTicks, start,
  logLevel, logFile, noLogFile]

/-- Whether an option stands alone, without a value. -/
def isAlone : Switch → Bool
  | help | noInterpolation | noLogFile => true
  | _ => false

end Switch

/-- Why a command line starts no run. -/
inductive Refusal
  /-- It cannot be understood. -/
  | usage
  /-- It asks for help. -/
  | help
  deriving DecidableEq, Repr

inductive Word
  | operand (text : String)
  /-- An option, with what follows an equals sign. -/
  | option (switch : Switch) (inline : Option String)
  /-- The short form of the help option, with what is attached to it. -/
  | shortHelp (attached : List Char)
  | unknown
  /-- Two dashes; everything after them is an operand. -/
  | separator
  deriving DecidableEq, Repr

/-- Cuts a word at its first equals sign. -/
def splitInline (word : List Char) : List Char × Option String :=
  let (name, rest) := word.span (· ≠ '=')
  match rest with
  | [] => (name, none)
  | _ :: value => (name, some (String.ofList value))

def isDigit (c : Char) : Bool := (Text.digitValue? c).isSome

/-- A minus sign and digits, perhaps with a point before or among them. A line feed at the
end does not count. -/
def looksNegative (word : List Char) : Bool :=
  match word with
  | '-' :: body =>
    let body := if body.getLast? = some '\n' then body.dropLast else body
    let (whole, rest) := body.span isDigit
    match rest with
    | [] => !whole.isEmpty
    | '.' :: fraction => !fraction.isEmpty && fraction.all isDigit
    | _ => false
  | _ => false

/-- A word with a dash in front that names no option. -/
def strayWord (word : List Char) : Word :=
  if looksNegative word || word.contains ' ' then .operand (String.ofList word) else .unknown

/-- The option of a full or shortened name; `none` if there is none. -/
def findSwitch (known : List Switch) (name : List Char) : Except Refusal (Option Switch) :=
  match known.find? fun s => s.name.toList = name with
  | some s => .ok (some s)
  | none =>
    match known.filter fun s => name.isPrefixOf s.name.toList with
    | [] => .ok none
    | [s] => .ok (some s)
    | _ => .error .usage

/-- What a word is, among the options that are known. -/
def Word.of (known : List Switch) (word : String) : Except Refusal Word :=
  match word.toList with
  | '-' :: '-' :: rest => do
    let (name, inline) := splitInline ('-' :: '-' :: rest)
    match ← findSwitch known name with
    | some s => return .option s inline
    | none => return strayWord ('-' :: '-' :: rest)
  | '-' :: 'h' :: attached => .ok (.shortHelp attached)
  | '-' :: c :: rest => .ok (strayWord ('-' :: c :: rest))
  | _ => .ok (.operand word)

/-- The words of a command line. -/
def words (known : List Switch) : List String → Except Refusal (List Word)
  | [] => .ok []
  | "--" :: rest => .ok (.separator :: rest.map .operand)
  | word :: rest => do
    let first ← Word.of known word
    return first :: (← words known rest)

end PathTracking.CommandLine
