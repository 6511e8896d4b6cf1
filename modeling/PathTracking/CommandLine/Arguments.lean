import PathTracking.CommandLine.Word
import PathTracking.Settings.Fields
import PathTracking.Text.Numeral

/-!
# Arguments of a run

The command line of a run: the command `run` and its options, of which the path is
required. Options are taken in order, so that a call for help counts if nothing before it
is wrong, and of an option that is repeated the last one counts.
-/
namespace PathTracking.CommandLine

/-- The options so far. -/
structure Options where
  path : Option String
  config : Option String
  lookahead : Option Float
  minLookahead : Option Float
  noInterpolation : Bool
  speed : Option Float
  maxTicks : Option Int
  start : Option String
  logLevel : Option String
  logFile : Option String
  noLogFile : Bool
  /-- Whether there are words that mean nothing. -/
  stray : Bool

namespace Options

/-- No options, with a log level from elsewhere that holds unless one is given. -/
def initial (level : Option String) : Options where
  path := none
  config := none
  lookahead := none
  minLookahead := none
  noInterpolation := false
  speed := none
  maxTicks := none
  start := none
  logLevel := level
  logFile := none
  noLogFile := false
  stray := false

/-- A value that has to be read as something. -/
def spelled {α : Type} (read : List Char → Option α) (text : String) :
    Except Refusal (Option α) :=
  match read text.toList with
  | some a => .ok (some a)
  | none => .error .usage

/-- Takes an option with its value; an option that stands alone has the empty one. -/
def take (o : Options) (switch : Switch) (value : String) : Except Refusal Options :=
  match switch with
  | .help => .error .help
  | .path => .ok { o with path := some value }
  | .config => .ok { o with config := some value }
  | .lookahead => return { o with lookahead := ← spelled Text.readFloat value }
  | .minLookahead => return { o with minLookahead := ← spelled Text.readFloat value }
  | .noInterpolation => .ok { o with noInterpolation := true }
  | .speed => return { o with speed := ← spelled Text.readFloat value }
  | .maxTicks => return { o with maxTicks := ← spelled Text.readInt value }
  | .start => .ok { o with start := some value }
  | .logLevel => .ok { o with logLevel := some value }
  | .logFile => .ok { o with logFile := some value }
  | .noLogFile => .ok { o with noLogFile := true }

/-- The short form of help asks for help whatever is attached to it, only no value and no
further dash. -/
def shortHelp (attached : List Char) : Refusal :=
  match attached.dropWhile (· = 'h') with
  | '=' :: _ | '-' :: _ => .usage
  | _ => .help

/-- Takes words in order. An option that needs a value and has none inline takes the
operand after it. -/
def takeWords (o : Options) : List Word → Except Refusal Options
  | [] => .ok o
  | .operand _ :: rest | .unknown :: rest | .separator :: rest =>
    takeWords { o with stray := true } rest
  | .shortHelp attached :: _ => .error (shortHelp attached)
  | .option switch (some value) :: rest =>
    if switch.isAlone then .error .usage
    else
      match o.take switch value with
      | .ok o => takeWords o rest
      | .error refusal => .error refusal
  | .option switch none :: rest =>
    if switch.isAlone then
      match o.take switch "" with
      | .ok o => takeWords o rest
      | .error refusal => .error refusal
    else
      match rest with
      | .operand value :: rest =>
        match o.take switch value with
        | .ok o => takeWords o rest
        | .error refusal => .error refusal
      | _ => .error .usage

/-- What the options say about settings; `null` for nothing. -/
def overrides (o : Options) : Fields :=
  let given {α : Type} (wrap : α → Value) (x : Option α) : Value := (x.map wrap).getD .null
  [("lookahead_distance", given .float o.lookahead),
    ("minimum_lookahead_distance", given .float o.minLookahead),
    ("use_linear_interpolation", if o.noInterpolation then .bool false else .null),
    ("speed_mps", given .float o.speed),
    ("max_ticks", given .int o.maxTicks),
    ("log_level", given .text o.logLevel),
    ("log_file", given .text o.logFile)]

end Options

/-- The arguments of a run: the name of the route file, and the options. -/
structure Arguments where
  name : String
  options : Options

namespace Arguments

/-- The arguments after the command. -/
def ofOptions (level : Option String) (argv : List String) : Except Refusal Arguments := do
  let options ← (Options.initial level).takeWords (← words Switch.all argv)
  match options.path with
  | some name => if options.stray then throw .usage else return ⟨name, options⟩
  | none => throw .usage

/-- The arguments of a command line. Before the command only help is known; a word that is
neither spoils the line, but only after all the rest was understood. -/
def parse (level : Option String) : List String → Except Refusal Arguments
  | [] => .error .usage
  | "--" :: _ => .error .usage
  | word :: rest => do
    match ← Word.of [.help] word with
    | .operand text => if text = "run" then ofOptions level rest else throw .usage
    | .shortHelp attached => throw (Options.shortHelp attached)
    | .option _ inline => throw (if inline.isSome then .usage else .help)
    | .unknown | .separator =>
      let _ ← parse level rest
      throw .usage

end Arguments
end PathTracking.CommandLine
