import PathTracking.Text.Numeral

/-!
# Tags

The kinds of nodes, by tag, and the kind that the text of a plain scalar implies. The
numbers are those of YAML 1.1: binary, octal, hexadecimal and sexagesimal integers,
underscores among the digits, and an exponent only with a point and a sign.
-/
namespace PathTracking.Yaml

inductive Tag
  | null
  | bool
  | int
  | float
  | binary
  | timestamp
  | orderedMap
  | pairs
  | set
  | text
  | sequence
  | mapping
  /-- The key `<<`, which merges other mappings in. -/
  | merge
  /-- The key `=`, which holds the value of a mapping. -/
  | value
  | other
  deriving DecidableEq, Repr

def coreNames : List (String × Tag) := [
  ("null", .null), ("bool", .bool), ("int", .int), ("float", .float), ("binary", .binary),
  ("timestamp", .timestamp), ("omap", .orderedMap), ("pairs", .pairs), ("set", .set),
  ("str", .text), ("seq", .sequence), ("map", .mapping), ("merge", .merge),
  ("value", .value)]

/-- What the names of the core tags stand behind. -/
def coreUri : String := "tag:yaml.org,2002:"

def Tag.ofUri (uri : String) : Tag :=
  ((coreNames.find? fun (name, _) => coreUri ++ name = uri).map Prod.snd).getD .other

/-! ## Numbers -/

def isDigitOrLow (c : Char) : Bool := Text.isAsciiDigit c || c = '_'

def isOctalOrLow (c : Char) : Bool := ('0' ≤ c && c ≤ '7') || c = '_'

def isBinaryOrLow (c : Char) : Bool := c = '0' || c = '1' || c = '_'

def isHexOrLow (c : Char) : Bool :=
  isDigitOrLow c || ('a' ≤ c && c ≤ 'f') || ('A' ≤ c && c ≤ 'F')

def isRun (p : Char → Bool) (s : List Char) : Bool := !s.isEmpty && s.all p

/-- A number below sixty, of one or two digits. -/
def isSixtieth (s : List Char) : Bool :=
  match s with
  | [a] => Text.isAsciiDigit a
  | [a, b] => '0' ≤ a && a ≤ '5' && Text.isAsciiDigit b
  | _ => false

def dropSign (s : List Char) : List Char := (Text.splitSign s).2

/-- The parts between colons. -/
def colonParts (s : List Char) : List (List Char) := s.splitOn ':'

def looksInteger (s : List Char) : Bool :=
  match dropSign s with
  | ['0'] => true
  | '0' :: 'b' :: rest => isRun isBinaryOrLow rest
  | '0' :: 'x' :: rest => isRun isHexOrLow rest
  | '0' :: rest => isRun isOctalOrLow rest
  | s =>
    match colonParts s with
    | (c :: rest) :: parts => Text.isAsciiDigit c && rest.all isDigitOrLow && parts.all isSixtieth
    | _ => false

/-- Nothing, or an exponent with a sign. -/
def isSignedExponent : List Char → Bool
  | [] => true
  | e :: sign :: digits =>
    (e = 'e' || e = 'E') && (sign = '+' || sign = '-') && isRun Text.isAsciiDigit digits
  | _ => false

/-- Digits and a point, the fraction and exponent being optional. -/
def looksDecimal (s : List Char) : Bool :=
  let (whole, rest) := s.span isDigitOrLow
  match rest with
  | '.' :: rest =>
    whole.head?.any Text.isAsciiDigit && isSignedExponent (rest.dropWhile isDigitOrLow)
  | _ => false

/-- A sexagesimal number with a point. -/
def looksSexagesimal (s : List Char) : Bool :=
  let (whole, rest) := s.span (· ≠ '.')
  match rest, colonParts whole with
  | _ :: fraction, (c :: digits) :: part :: parts =>
    Text.isAsciiDigit c && digits.all isDigitOrLow && (part :: parts).all isSixtieth &&
      fraction.all isDigitOrLow
  | _, _ => false

def looksReal (s : List Char) : Bool :=
  let body := dropSign s
  let fractionOnly := match s with
    | '.' :: c :: rest =>
      Text.isAsciiDigit c && isSignedExponent (rest.dropWhile isDigitOrLow)
    | _ => false
  looksDecimal body || fractionOnly || looksSexagesimal body ||
    [".inf", ".Inf", ".INF"].contains (String.ofList body) ||
    [".nan", ".NaN", ".NAN"].contains (String.ofList s)

/-! ## Timestamps -/

/-- A date, with a time of day and a distance from UTC in minutes if they are given. -/
structure Stamp where
  year : Nat
  month : Nat
  day : Nat
  time : Option (Nat × Nat × Nat)
  offset : Option (Bool × Nat × Nat)
  /-- Month and day are written with two digits. -/
  wide : Bool
  deriving DecidableEq, Repr

/-- A number of at least `least` and at most `most` digits. -/
def digitsBetween (least most : Nat) (s : List Char) : Option (Nat × Nat × List Char) :=
  let digits := (s.take most).takeWhile Text.isAsciiDigit
  if digits.length < least then none
  else some (Text.ofDigits digits, digits.length, s.drop digits.length)

def expect (c : Char) : List Char → Option (List Char)
  | x :: rest => if x = c then some rest else none
  | [] => none

/-- The offset at the end of a timestamp. -/
def readOffset (s : List Char) : Option (Option (Bool × Nat × Nat)) :=
  match s.dropWhile fun c => c = ' ' || c = '\t' with
  | [] => if s.isEmpty then some none else none
  | ['Z'] => some (some (false, 0, 0))
  | sign :: rest =>
    if sign = '+' ∨ sign = '-' then do
      let (hours, _, rest) ← digitsBetween 1 2 rest
      match rest with
      | [] => return some (sign = '-', hours, 0)
      | ':' :: rest => do
        let (minutes, _, rest) ← digitsBetween 2 2 rest
        if rest.isEmpty then return some (sign = '-', hours, minutes) else none
      | _ => none
    else none

def readStamp (s : List Char) : Option Stamp := do
  let (year, _, s) ← digitsBetween 4 4 s
  let (month, m, s) ← digitsBetween 1 2 (← expect '-' s)
  let (day, d, s) ← digitsBetween 1 2 (← expect '-' s)
  let wide := m = 2 && d = 2
  match s with
  | [] => return ⟨year, month, day, none, none, wide⟩
  | c :: rest =>
    let s ← if c = 'T' ∨ c = 't' then some rest
      else if c = ' ' ∨ c = '\t' then some (rest.dropWhile fun c => c = ' ' || c = '\t')
      else none
    let (hour, _, s) ← digitsBetween 1 2 s
    let (minute, _, s) ← digitsBetween 2 2 (← expect ':' s)
    let (second, _, s) ← digitsBetween 2 2 (← expect ':' s)
    let s := match s with
      | '.' :: rest => rest.dropWhile Text.isAsciiDigit
      | s => s
    let offset ← readOffset s
    return ⟨year, month, day, some (hour, minute, second), offset, wide⟩

/-- A date alone is plain only with two digits for month and day. -/
def looksTimestamp (s : List Char) : Bool :=
  match readStamp s with
  | some stamp => stamp.time.isSome || stamp.wide
  | none => false

/-! ## Plain scalars -/

def trueWords : List String :=
  ["yes", "Yes", "YES", "true", "True", "TRUE", "on", "On", "ON"]

def falseWords : List String :=
  ["no", "No", "NO", "false", "False", "FALSE", "off", "Off", "OFF"]

def nullWords : List String := ["~", "null", "Null", "NULL", ""]

/-- The kind that the text of a plain scalar implies. A line feed at its end is ignored. -/
def Tag.ofPlain (text : List Char) : Tag :=
  let s := if text.getLast? = some '\n' then text.dropLast else text
  let word := String.ofList s
  if trueWords.contains word || falseWords.contains word then .bool
  else if nullWords.contains word then (if text.isEmpty || !s.isEmpty then .null else .text)
  else if looksReal s then .float
  else if looksInteger s then .int
  else if word = "<<" then .merge
  else if looksTimestamp s then .timestamp
  else if word = "=" then .value
  else if word = "!" ∨ word = "&" ∨ word = "*" then .other
  else .text

end PathTracking.Yaml
