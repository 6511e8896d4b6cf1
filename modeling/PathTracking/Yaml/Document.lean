import PathTracking.Document
import PathTracking.Files
import PathTracking.Text.LowerCase
import PathTracking.Yaml.Node
import PathTracking.Yaml.SetOrder

/-!
# Documents

The document in a YAML text. Scalars are read by their tags, `<<` merges mappings
under the entries written out, and of two equal keys the last counts.
-/
namespace PathTracking.Yaml

/-! ## Scalars -/

def withoutLows (s : List Char) : List Char := s.filter (· ≠ '_')

def hexOrDigit? (base : Nat) (c : Char) : Option Nat :=
  (Json.hexValue? c).filter (· < base)

/-- A number in a base, by the open reader's rules for signs and space. -/
def readBased (base : Nat) (s : List Char) : Except Error Int :=
  let failure : Error := .notIntegral base (Text.quoted s)
  let trimmed := Text.trim Text.isAsciiBlank ((Text.toAscii s).getD ['?'])
  let (negative, digits) := Text.splitSign trimmed
  if digits.isEmpty then .error failure
  else if base = 10 ∧ Text.maxIntDigits < digits.length ∧ digits.all Text.isAsciiDigit then
    .error (.hugeInteger digits.length)
  else
    match digits.mapM (hexOrDigit? base) with
    | some values =>
      let n : Nat := values.foldl (fun acc d => acc * base + d) 0
      let n : Int := n
      .ok (if negative then -n else n)
    | none => .error failure

/-- The sum of sexagesimal places, the last being the units. -/
def sexagesimal (parts : List Int) : Int := parts.foldl (fun acc p => 60 * acc + p) 0

/-- The octal reader also knows the marker `0o`. -/
def octalDigits : List Char → List Char
  | '0' :: 'o' :: rest => rest
  | '0' :: 'O' :: rest => rest
  | s => s

def readIntScalar (text : List Char) : Except Error Int := do
  let s := withoutLows text
  if s.isEmpty then throw .emptyNumber
  let (negative, s) := Text.splitSign s
  let n ← match s with
    | ['0'] => pure 0
    | '0' :: 'b' :: rest => readBased 2 rest
    | '0' :: 'x' :: rest => readBased 16 rest
    | '0' :: _ => readBased 8 (octalDigits s)
    | [] => throw .emptyNumber
    | s =>
      if s.contains ':' then sexagesimal <$> (colonParts s).mapM (readBased 10)
      else readBased 10 s
  return if negative then -n else n

def readReal (s : List Char) : Except Error Float :=
  match Text.readFloat s with
  | some x => .ok x
  | none => .error (.notNumeric (Text.quoted s))

/-- The sum of sexagesimal places, starting with the units. -/
def sexagesimalReal : Float → Float → List Float → Float
  | _, sum, [] => sum
  | unit, sum, x :: rest => sexagesimalReal (unit * 60) (sum + x * unit) rest

def readFloatScalar (text : List Char) : Except Error Float := do
  let s := Text.lower (withoutLows text)
  if s.isEmpty then throw .emptyNumber
  let (negative, s) := Text.splitSign s
  let x ←
    if s = ".inf".toList then pure (Binary64.infinity false)
    else if s = ".nan".toList then pure Binary64.nan
    else if s.contains ':' then
      (fun parts => sexagesimalReal 1 0 parts.reverse) <$> (colonParts s).mapM readReal
    else readReal s
  return if negative then -1 * x else x

def readBoolScalar (text : List Char) : Except Error Bool :=
  let word := String.ofList (Text.lower text)
  if trueWords.contains word then .ok true
  else if falseWords.contains word then .ok false
  else .error .unknownTruth

def base64Value? (c : Char) : Option Nat :=
  if 'A' ≤ c ∧ c ≤ 'Z' then some (c.toNat - 65)
  else if 'a' ≤ c ∧ c ≤ 'z' then some (c.toNat - 71)
  else if '0' ≤ c ∧ c ≤ '9' then some (c.toNat + 4)
  else if c = '+' then some 62
  else if c = '/' then some 63
  else none

/-- Base64: groups of four characters, other characters being skipped. `held` is the
value of the `place` characters of the current group. -/
def base64From (acc : List UInt8) (place held pads : Nat) : List Char → Option (List UInt8)
  | [] => if place = 0 then some acc.reverse else none
  | c :: rest =>
    if c = '=' then
      if 2 ≤ place ∧ 4 ≤ place + pads + 1 then some acc.reverse
      else base64From acc place held (if 2 ≤ place then pads + 1 else pads) rest
    else
      match base64Value? c with
      | none => base64From acc place held pads rest
      | some v =>
        match place with
        | 0 => base64From acc 1 v 0 rest
        | 1 => base64From (UInt8.ofNat (held * 4 + v / 16) :: acc) 2 (v % 16) 0 rest
        | 2 => base64From (UInt8.ofNat (held * 16 + v / 4) :: acc) 3 (v % 4) 0 rest
        | _ => base64From (UInt8.ofNat (held * 64 + v) :: acc) 0 0 0 rest

def readBinaryScalar (text : List Char) : Except Error (List UInt8) :=
  if text.all (·.toNat < 128) then
    match base64From [] 0 0 0 text with
    | some bytes => .ok bytes
    | none => .error .malformed
  else .error .malformed

def isLeap (year : Nat) : Bool := year % 4 = 0 && (year % 100 ≠ 0 || year % 400 = 0)

def daysIn (year month : Nat) : Nat :=
  if month = 2 then (if isLeap year then 29 else 28)
  else if [4, 6, 9, 11].contains month then 30
  else 31

/-- What is wrong with the parts of a timestamp, if anything. -/
def Stamp.problem? (s : Stamp) : Option String :=
  let time := s.time.getD (0, 0, 0)
  let offset := s.offset.getD (false, 0, 0)
  if s.offset.isSome && 24 * 60 ≤ offset.2.1 * 60 + offset.2.2 then
    let minutes : Int := offset.2.1 * 60 + offset.2.2
    let minutes := if offset.1 then -minutes else minutes
    let days := minutes.fdiv 1440
    let seconds := minutes.fmod 1440 * 60
    let shown := if seconds = 0 then s!"days={days}" else s!"days={days}, seconds={seconds}"
    some s!"offset must be a timedelta strictly between -timedelta(hours=24) and timedelta(hours=24), not datetime.timedelta({shown})."
  else if s.year = 0 then some "year 0 is out of range"
  else if s.month = 0 ∨ 12 < s.month then some "month must be in 1..12"
  else if s.day = 0 ∨ daysIn s.year s.month < s.day then some "day is out of range for month"
  else if 23 < time.1 then some "hour must be in 0..23"
  else if 59 < time.2.1 then some "minute must be in 0..59"
  else if 59 < time.2.2 then some "second must be in 0..59"
  else none

def checkTimestamp (text : List Char) : Except Error Unit :=
  let s := if text.getLast? = some '\n' then text.dropLast else text
  match readStamp s with
  | none => .error .notTimestamp
  | some stamp =>
    match stamp.problem? with
    | some problem => .error (.badDate problem)
    | none => .ok ()

def readChars (tag : Tag) (text : List Char) : Except Error Value :=
  match tag with
  | .null => .ok .null
  | .bool => Value.bool <$> readBoolScalar text
  | .int => Value.int <$> readIntScalar text
  | .float => Value.float <$> readFloatScalar text
  | .binary => Value.bytes <$> readBinaryScalar text
  | .timestamp => (fun _ => Value.timestamp) <$> checkTimestamp text
  | .text => .ok (.text (String.ofList text))
  | _ => .error .malformed

/-- A text with a surrogate in it spells nothing but itself. -/
def readBroken (tag : Tag) (text : Text.BrokenText) : Except Error Value :=
  match tag with
  | .null => .ok .null
  | .bool => .error .unknownTruth
  | .int => .error (.notIntegral 10 text.quoted)
  | .float => .error (.notNumeric text.quoted)
  | .timestamp => .error .notTimestamp
  | .text => .ok (.broken text)
  | _ => .error .malformed

def scalarValue (tag : Tag) (text : List Text.CodePoint) : Except Error Value :=
  match Text.splitSurrogate [] text with
  | .inl chars => readChars tag chars
  | .inr broken => readBroken tag broken

/-! ## Collections -/

def Node.hasTag (tag : Tag) : Node → Bool
  | scalar t _ => t = tag
  | sequence label _ | mapping label _ => label.tag = tag
  | enclosing _ => false

/-- What a node is or is an alias for. -/
def Node.resolve (anchors : Anchors) : Node → Node
  | enclosing anchor => (anchors.lookup anchor).getD (enclosing anchor)
  | node => node

/-- The entries of a mapping with what it merges in: the merged ones come first, so that
the others override them. Of several mappings merged at once the first counts. A mapping that
is merged into a part of itself adds what is left of it, its keys `<<` being gone by then:
`path` has the places of the mappings whose keys are. -/
def mergeEntries (anchors : Anchors) :
    Nat → List Nat → List (Node × Node) → Except Error (List (Node × Node))
  | 0, _, _ => .error .malformed
  | fuel + 1, path, entries => do
    let (merges, others) := entries.partition (·.1.hasTag .merge)
    let entriesOf (source : Node) : Except Error (List (Node × Node)) :=
      match source.resolve anchors with
      | .mapping label inner =>
        if path.contains label.place then .ok (inner.filter (!·.1.hasTag .merge))
        else mergeEntries anchors fuel (label.place :: path) inner
      | _ => .error .malformed
    let merged ← merges.mapM fun (_, source) =>
      match source.resolve anchors with
      | .sequence _ sources => do return (← sources.mapM entriesOf).reverse.flatten
      | source => entriesOf source
    return merged.flatten ++ others

/-- The key `=` of a mapping is an ordinary text. -/
def plainKey : Node → Node
  | .scalar .value text => .scalar .text text
  | n => n

/-- The scalar that stands for a mapping: the value of its key `=`. -/
def Node.valueOf? : Nat → List (Node × Node) → Option (List Text.CodePoint)
  | 0, _ => none
  | fuel + 1, entries =>
    match entries.find? (·.1.hasTag .value) with
    | some (_, .scalar _ text) => some text
    | some (_, .mapping _ inner) => valueOf? fuel inner
    | _ => none

def entryMap (entries : List (Value × Value)) : Except Error Value :=
  if entries.all fun (k, _) => k.isHashable then .ok (.mapping (Value.entriesOf entries))
  else .error .malformed

def elementSet (keys : List Value) : Except Error Value := do
  if !keys.all Value.isHashable then throw .malformed
  return .set (setOrder ((Value.entriesOf (keys.map fun k => (k, .null))).map Prod.fst))

/-- A list of pairs, one for each mapping of a single entry. -/
def singleEntry (anchors : Anchors) (node : Node) : Except Error (Node × Node) :=
  match node.resolve anchors with
  | .mapping _ [entry] => .ok entry
  | _ => .error .malformed

/-- The value of a node inside the collections at the places of `path`, one of which it may be
an alias for. The fuel bounds its depth. -/
def Node.value (anchors : Anchors) : Nat → List Nat → Node → Except Error Value
  | 0, _, _ => .error .malformed
  | fuel + 1, path, enclosing anchor =>
    match anchors.lookup anchor with
    | some node => value anchors fuel path node
    | none => .error .malformed
  | _ + 1, _, scalar tag text => scalarValue tag text
  | fuel + 1, path, sequence label items =>
    if path.contains label.place then .ok (.link label.place)
    else
      let value := value anchors fuel (label.place :: path)
      match label.tag with
      | .sequence => Value.list <$> items.mapM value
      | .orderedMap | .pairs => do
        let pairs ← items.mapM (singleEntry anchors)
        Value.list <$> pairs.mapM fun (k, v) => do return .pair (← value k) (← value v)
      | _ => .error .malformed
  | fuel + 1, path, mapping label entries =>
    if path.contains label.place then .ok (.link label.place)
    else
      let value := value anchors fuel (label.place :: path)
      match label.tag with
      | .mapping => do
        let entries ← mergeEntries anchors fuel [label.place] entries
        entryMap (← entries.mapM fun (k, v) => do return (← value (plainKey k), ← value v))
      | .set => do
        let entries ← mergeEntries anchors fuel [label.place] entries
        elementSet (← entries.mapM fun (k, v) => do
          let key ← value (plainKey k)
          let _ ← value v
          return key)
      | .null | .bool | .int | .float | .binary | .timestamp | .text =>
        match valueOf? fuel entries with
        | some text => scalarValue label.tag text
        | none => .error .malformed
      | _ => .error .malformed

/-- The collections in a node, by place. The fuel bounds its depth. -/
def Node.collections : Nat → Node → List (Nat × Node)
  | 0, _ => []
  | fuel + 1, node =>
    match node with
    | sequence label items => (label.place, node) :: items.flatMap (collections fuel)
    | mapping label entries =>
      (label.place, node) ::
        entries.flatMap fun (k, v) => collections fuel k ++ collections fuel v
    | _ => []

def isAlias : Token → Bool
  | .alias _ => true
  | _ => false

/-- The document in a text, with at most `room` collections in one another; a blank one if there
is none. -/
def parse (room : Nat) (s : List Char) : Except Error Document := do
  let tokens ← tokens s
  let fuel := 2 * tokens.length + 2
  match ← Node.ofTokens? room tokens with
  | none => return { root := .null, linked := [] }
  | some (node, anchors) =>
    let root ← node.value anchors fuel []
    let linked := if tokens.any isAlias then node.collections fuel else []
    return {
      root
      linked := linked.filterMap fun (place, node) =>
        (node.value anchors fuel []).toOption.map (place, ·) }

/-! ## Files -/

def Error.sort : Error → FailureSort
  | malformed => .malformed
  | beyondUnicode code => if isHugeEscape code then .tooLarge else .badValue
  | notNumeric _ | notIntegral .. | hugeInteger _ | badDate _ => .badValue
  | emptyNumber => .missingItem
  | unknownTruth => .missingKey
  | notTimestamp => .noFields
  | tooDeep => .other

/-- The document in a file. The whole file has to be UTF-8. -/
def readDocument (room : Nat) (content : Bytes) : Except ReadFailure Document :=
  match Text.decodeFile content with
  | .error fault => .error ⟨.encoding, fault.message⟩
  | .ok text => (parse room (Text.unifyLineEnds text)).mapError fun e => ⟨e.sort, e.message⟩

end PathTracking.Yaml
