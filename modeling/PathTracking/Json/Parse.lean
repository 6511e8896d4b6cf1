import PathTracking.Value

/-!
# Reading JSON

A recursive-descent reader over the characters of a text. Besides the standard grammar it
accepts the numbers `NaN`, `Infinity` and `-Infinity`; of two equal keys in an object the
last counts. An error names what was expected, and the position where. Arrays and objects can be
nested as deep in one another as the reader has room for.
-/
namespace PathTracking.Json

inductive Cause
  | byteOrderMark
  | value
  | propertyName
  | colon
  | comma
  | extraData
  | unterminatedString
  | controlCharacter
  | invalidEscape
  | invalidCodePoint
  deriving DecidableEq, Repr

def Cause.text : Cause → String
  | .byteOrderMark => "Unexpected UTF-8 BOM (decode using utf-8-sig)"
  | .value => "Expecting value"
  | .propertyName => "Expecting property name enclosed in double quotes"
  | .colon => "Expecting ':' delimiter"
  | .comma => "Expecting ',' delimiter"
  | .extraData => "Extra data"
  | .unterminatedString => "Unterminated string starting at"
  | .controlCharacter => "Invalid control character at"
  | .invalidEscape => "Invalid \\escape"
  | .invalidCodePoint => "Invalid \\uXXXX escape"

inductive Error
  | malformed (cause : Cause) (position : Nat)
  /-- An integer numeral of too many digits. -/
  | hugeInteger (digits : Nat)
  | tooDeep
  deriving DecidableEq, Repr

/-- What is left of the text, and how many characters came before. -/
structure Input where
  rest : List Char
  position : Nat

namespace Input

def skip (i : Input) (n : Nat) : Input := ⟨i.rest.drop n, i.position + n⟩

def fail {α : Type} (i : Input) (cause : Cause) : Except Error α :=
  .error (.malformed cause i.position)

def isSpace (c : Char) : Bool := c = ' ' || c = '\t' || c = '\n' || c = '\r'

def skipSpaces (i : Input) : Input :=
  let spaces := i.rest.takeWhile isSpace
  ⟨i.rest.drop spaces.length, i.position + spaces.length⟩

end Input

def hexValue? (c : Char) : Option Nat :=
  if '0' ≤ c ∧ c ≤ '9' then some (c.toNat - 48)
  else if 'a' ≤ c ∧ c ≤ 'f' then some (c.toNat - 87)
  else if 'A' ≤ c ∧ c ≤ 'F' then some (c.toNat - 55)
  else none

/-- Four hexadecimal digits that do not end the text. -/
def hex4? (s : List Char) : Option Nat :=
  match s with
  | a :: b :: c :: d :: _ :: _ => do
    let a ← hexValue? a
    let b ← hexValue? b
    let c ← hexValue? c
    let d ← hexValue? d
    return ((a * 16 + b) * 16 + c) * 16 + d
  | _ => none

def simpleEscape? : Char → Option Char
  | '"' => some '"'
  | '\\' => some '\\'
  | '/' => some '/'
  | 'b' => some '\x08'
  | 'f' => some '\x0c'
  | 'n' => some '\n'
  | 'r' => some '\r'
  | 't' => some '\t'
  | _ => none

/-- A code point in escapes, after `\u`: two surrogates in a row make one. Returns it with
the number of characters read, or tells how far on the `u` of the faulty escape stands. -/
def escapedCodePoint (s : List Char) : Except Nat (Text.CodePoint × Nat) :=
  match hex4? s with
  | none => .error 0
  | some high =>
    let alone := (Text.CodePoint.ofNat high, 4)
    if 0xd800 ≤ high ∧ high < 0xdc00 then
      match s.drop 4 with
      | '\\' :: 'u' :: rest =>
        match hex4? rest with
        | some low =>
          if 0xdc00 ≤ low ∧ low < 0xe000 then
            .ok (.ofNat (0x10000 + (high - 0xd800) * 0x400 + (low - 0xdc00)), 10)
          else .ok alone
        | none => if (rest.drop 4).isEmpty then .ok alone else .error 6
      | _ => .ok alone
    else .ok alone

/-- The rest of a string whose opening quote stands at `start`; `acc` holds the code points
read so far, in reverse. -/
def readString (start : Nat) :
    Nat → List Text.CodePoint → Input → Except Error (List Text.CodePoint × Input)
  | 0, _, _ => .error (.malformed .unterminatedString start)
  | fuel + 1, acc, i =>
    match i.rest with
    | [] => .error (.malformed .unterminatedString start)
    | '"' :: _ => .ok (acc.reverse, i.skip 1)
    | '\\' :: rest =>
      match rest with
      | [] => .error (.malformed .unterminatedString start)
      | 'u' :: rest =>
        match escapedCodePoint rest with
        | .ok (p, n) => readString start fuel (p :: acc) (i.skip (2 + n))
        | .error n => (i.skip (1 + n)).fail .invalidCodePoint
      | c :: _ =>
        match simpleEscape? c with
        | some c => readString start fuel (.inl c :: acc) (i.skip 2)
        | none => i.fail .invalidEscape
    | c :: _ =>
      if c.toNat < 0x20 then i.fail .controlCharacter
      else readString start fuel (.inl c :: acc) (i.skip 1)

/-- A number: an integer part without leading zeros, then a fraction and an exponent as
far as each is complete. -/
def readNumber (i : Input) : Except Error (Value × Input) :=
  let (negative, body) := match i.rest with
    | '-' :: rest => (true, rest)
    | rest => (false, rest)
  let whole := match body with
    | '0' :: _ => ['0']
    | rest => rest.takeWhile Text.isAsciiDigit
  if whole.isEmpty then i.fail .value
  else
    let rest := body.drop whole.length
    let fraction := match rest with
      | '.' :: rest => rest.takeWhile Text.isAsciiDigit
      | _ => []
    let rest := if fraction.isEmpty then rest else rest.drop (fraction.length + 1)
    let (expNegative, expLead, exponent) := match rest with
      | e :: '-' :: digits =>
        if e = 'e' ∨ e = 'E' then (true, 2, digits.takeWhile Text.isAsciiDigit) else (false, 0, [])
      | e :: '+' :: digits =>
        if e = 'e' ∨ e = 'E' then (false, 2, digits.takeWhile Text.isAsciiDigit) else (false, 0, [])
      | e :: digits =>
        if e = 'e' ∨ e = 'E' then (false, 1, digits.takeWhile Text.isAsciiDigit) else (false, 0, [])
      | [] => (false, 0, [])
    let rest := if exponent.isEmpty then rest else rest.drop (expLead + exponent.length)
    let length := (if negative then 1 else 0) + whole.length +
      (if fraction.isEmpty then 0 else fraction.length + 1) +
      (if exponent.isEmpty then 0 else expLead + exponent.length)
    let after : Input := ⟨rest, i.position + length⟩
    if fraction.isEmpty && exponent.isEmpty then
      if whole.length > Text.maxIntDigits then .error (.hugeInteger whole.length)
      else
        let n : Int := Text.ofDigits whole
        .ok (.int (if negative then -n else n), after)
    else
      let e : Int := Text.ofDigits exponent
      let d : Decimal := ⟨negative, Text.ofDigits (whole ++ fraction),
        (if expNegative then -e else e) - fraction.length⟩
      .ok (.float d.toFloat, after)

/-- The words that stand for a value. -/
def words : List (List Char × Value) := [
  ("null".toList, .null), ("true".toList, .bool true), ("false".toList, .bool false),
  ("NaN".toList, .float Binary64.nan), ("Infinity".toList, .float (Binary64.infinity false)),
  ("-Infinity".toList, .float (Binary64.infinity true))]

mutual

/-- A value. The fuel bounds the depth plus the number of elements on the way down, and the
lengths of the strings; `room` is how deep arrays and objects can be nested here. -/
def readValue : Nat → Nat → Input → Except Error (Value × Input)
  | 0, _, i => i.fail .value
  | fuel + 1, room, i =>
    match i.rest with
    | '"' :: _ => do
      let (s, i) ← readString i.position fuel [] (i.skip 1)
      return (.ofCodePoints s, i)
    | '[' :: _ =>
      match room with
      | 0 => .error .tooDeep
      | room + 1 =>
        let i := (i.skip 1).skipSpaces
        match i.rest with
        | ']' :: _ => .ok (.list [], i.skip 1)
        | _ => readItems fuel room [] i
    | '{' :: _ =>
      match room with
      | 0 => .error .tooDeep
      | room + 1 =>
        let i := (i.skip 1).skipSpaces
        match i.rest with
        | '}' :: _ => .ok (.mapping [], i.skip 1)
        | _ => readEntries fuel room [] i
    | _ =>
      match words.find? fun (word, _) => word.isPrefixOf i.rest with
      | some (word, value) => .ok (value, i.skip word.length)
      | none => readNumber i

/-- The items of an array from the next one on; `acc` holds those before in reverse. -/
def readItems : Nat → Nat → List Value → Input → Except Error (Value × Input)
  | 0, _, _, i => i.fail .value
  | fuel + 1, room, acc, i =>
    match readValue fuel room i with
    | .error e => .error e
    | .ok (v, i) =>
      let i := i.skipSpaces
      match i.rest with
      | ']' :: _ => .ok (.list (v :: acc).reverse, i.skip 1)
      | ',' :: _ => readItems fuel room (v :: acc) (i.skip 1).skipSpaces
      | _ => i.fail .comma

/-- The entries of an object from the next one on. -/
def readEntries : Nat → Nat → List (Value × Value) → Input → Except Error (Value × Input)
  | 0, _, _, i => i.fail .value
  | fuel + 1, room, acc, i =>
    match i.rest with
    | '"' :: _ =>
      match readString i.position fuel [] (i.skip 1) with
      | .error e => .error e
      | .ok (key, i) =>
        let i := i.skipSpaces
        match i.rest with
        | ':' :: _ =>
          match readValue fuel room (i.skip 1).skipSpaces with
          | .error e => .error e
          | .ok (v, i) =>
            let i := i.skipSpaces
            let acc := Value.putEntry (.ofCodePoints key) v acc
            match i.rest with
            | '}' :: _ => .ok (.mapping acc, i.skip 1)
            | ',' :: _ => readEntries fuel room acc (i.skip 1).skipSpaces
            | _ => i.fail .comma
        | _ => i.fail .colon
    | _ => i.fail .propertyName

end

/-- The value that a whole text holds. -/
def parse (room : Nat) (s : List Char) : Except Error Value :=
  let start : Input := ⟨s, 0⟩
  match s with
  | '\ufeff' :: _ => start.fail .byteOrderMark
  | _ =>
    match readValue (3 * s.length + 1) room start.skipSpaces with
    | .error e => .error e
    | .ok (v, i) =>
      let i := i.skipSpaces
      if i.rest.isEmpty then .ok v else i.fail .extraData

/-- Line and column, both counted from one, of a position in a text. -/
def lineAndColumn (s : List Char) (position : Nat) : Nat × Nat :=
  let before := s.take position
  (before.count '\n' + 1, (before.reverse.takeWhile (· ≠ '\n')).length + 1)

/-- The message of an error in the text `s`. -/
def Error.message (s : List Char) : Error → String
  | .malformed cause position =>
    let (line, column) := lineAndColumn s position
    s!"{cause.text}: line {line} column {column} (char {position})"
  | .hugeInteger digits => Text.hugeIntegerMessage digits
  | .tooDeep => "the collections are nested too deeply"

end PathTracking.Json
