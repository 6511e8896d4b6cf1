import PathTracking.Decimal.Basic
import PathTracking.Text.Blank
import PathTracking.Text.DecimalDigit

/-!
# Numerals

What counts as a number in a text. The core grammar is an optional sign, digits with an
optional point among or beside them, and an optional exponent, or the words `inf`,
`infinity` and `nan` in any case. Two readers wrap it. The *open* one, for cells, items
and poses, also takes the digits and spaces of every script and single underscores
between digits. The *strict* one, for settings, knows ASCII digits only and drops
underscores as long as none is doubled or stands at an end.
-/
namespace PathTracking.Text

def isAsciiDigit (c : Char) : Bool := '0' ≤ c && c ≤ '9'

def ofDigits (digits : List Char) : Nat :=
  digits.foldl (fun n c => 10 * n + (c.toNat - 48)) 0

/-- An optional sign; `true` for a minus. -/
def splitSign : List Char → Bool × List Char
  | '-' :: rest => (true, rest)
  | '+' :: rest => (false, rest)
  | rest => (false, rest)

def lowerAscii (s : List Char) : List Char := s.map Char.toLower

/-- The exponent part of a numeral: nothing, or `e`, an optional sign and digits. -/
def readExponent : List Char → Option Int
  | [] => some 0
  | c :: rest =>
    if c = 'e' ∨ c = 'E' then
      let (negative, digits) := splitSign rest
      if digits.isEmpty || !digits.all isAsciiDigit then none
      else some (if negative then -(ofDigits digits : Int) else ofDigits digits)
    else none

/-- An unsigned decimal numeral. -/
def readUnsigned (negative : Bool) (s : List Char) : Option Decimal :=
  let (whole, rest) := s.span isAsciiDigit
  let (fraction, rest) := match rest with
    | '.' :: rest => rest.span isAsciiDigit
    | rest => ([], rest)
  if whole.isEmpty && fraction.isEmpty then none
  else (readExponent rest).map fun e =>
    ⟨negative, ofDigits (whole ++ fraction), e - fraction.length⟩

/-- A numeral of the core grammar. -/
def readPlain (s : List Char) : Option Float :=
  let (negative, body) := splitSign s
  let word := String.ofList (lowerAscii body)
  if word = "inf" ∨ word = "infinity" then some (Binary64.infinity negative)
  else if word = "nan" then some Binary64.nan
  else (readUnsigned negative body).map Decimal.toFloat

/-- Drops underscores, each of which has to stand between two digits. `previous` is the
character before. -/
def dropInnerUnderscores : Option Char → List Char → Option (List Char)
  | previous, [] => if previous = some '_' then none else some []
  | previous, c :: rest =>
    if c = '_' then
      if previous.any isAsciiDigit then dropInnerUnderscores (some c) rest else none
    else if previous = some '_' && !isAsciiDigit c then none
    else (dropInnerUnderscores (some c) rest).map (c :: ·)

/-- Writes digits and spaces of any script in ASCII, in a text that is not all ASCII;
`none` if another character is left. -/
def toAscii (s : List Char) : Option (List Char) :=
  if s.all (·.toNat < 128) then some s
  else s.mapM fun c =>
    if c.toNat < 127 then some c
    else if isBlank c then some ' '
    else (digitValue? c).map fun d => Char.ofNat (48 + d)

/-- Underscores matter only where there are any. -/
def withoutInnerUnderscores (s : List Char) : Option (List Char) :=
  if s.contains '_' then dropInnerUnderscores none s else some s

/-- The open reader of real numbers. -/
def readFloat (s : List Char) : Option Float := do
  let ascii ← toAscii s
  readPlain (← withoutInnerUnderscores (trim isAsciiBlank ascii))

/-- Drops underscores unless one is doubled or stands at an end. -/
def dropLooseUnderscores (s : List Char) : Option (List Char) :=
  let doubled := (s.zip (s.drop 1)).any fun (a, b) => a = '_' && b = '_'
  if !s.contains '_' || s.head? = some '_' || s.getLast? = some '_' || doubled then none
  else some (s.filter (· ≠ '_'))

/-- The strict reader of real numbers. -/
def readStrictFloat (s : List Char) : Option Float :=
  let trimmed := trim isWhiteSpace s
  (readPlain trimmed).orElse fun _ => (dropLooseUnderscores trimmed).bind readPlain

/-- An optional sign and ASCII digits. -/
def readPlainInt (s : List Char) : Option Int :=
  let (negative, digits) := splitSign s
  if digits.isEmpty || !digits.all isAsciiDigit then none
  else some (if negative then -(ofDigits digits : Int) else ofDigits digits)

/-- The longest run of digits that is read as an integer. -/
def maxIntDigits : Nat := 4300

def hugeIntegerMessage (digits : Nat) : String :=
  s!"Exceeds the limit ({maxIntDigits} digits) for integer string conversion: value has {digits} digits; use sys.set_int_max_str_digits() to increase the limit"

/-- What is said of a text, already shown in quotes, that the open reader refuses. -/
def notNumericMessage (shown : List Char) : String :=
  s!"could not convert string to float: {String.ofList shown}"

/-- The open reader of integers. -/
def readInt (s : List Char) : Option Int := do
  let ascii ← toAscii s
  let body ← withoutInnerUnderscores (trim isAsciiBlank ascii)
  if (splitSign body).2.length > maxIntDigits then none else readPlainInt body

/-- Drops leading zeros, and underscores among them, but not the zero before a point or
at the end. -/
def dropLeadingZeros (s : List Char) : Option (List Char) :=
  match s with
  | '0' :: rest =>
    match rest.dropWhile fun c => c = '0' || c = '_' with
    | [] => s.getLast?.map fun c => [c]
    | '.' :: tail =>
      let skipped := s.take (s.length - tail.length - 1)
      skipped.getLast?.map fun c => c :: '.' :: tail
    | c :: tail => if isAsciiDigit c then some (c :: tail) else none
  | c :: _ => if isAsciiDigit c || c = '-' then some s else none
  | [] => none

/-- Drops a point that has zeros only after it. -/
def dropZeroFraction (s : List Char) : List Char :=
  let (whole, rest) := s.span (· ≠ '.')
  match rest with
  | _ :: zeros => if !zeros.isEmpty && zeros.all (· = '0') then whole else s
  | [] => s

/-- The strict reader of integers: the text itself, or what is left of it without the
space around it, a plus sign, leading zeros, a zero fraction and loose underscores. -/
def readStrictInt (s : List Char) : Option Int :=
  (readPlainInt s).orElse fun _ => do
    let trimmed := trim isWhiteSpace s
    let unsigned ← match trimmed with
      | '+' :: '-' :: _ => none
      | '+' :: rest => some rest
      | rest => some rest
    let short := dropZeroFraction (← dropLeadingZeros unsigned)
    readPlainInt ((dropLooseUnderscores short).getD short)

end PathTracking.Text
