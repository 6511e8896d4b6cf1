import PathTracking.Text.Utf8
import PathTracking.Yaml.ScalarText

/-!
# Tokens

A text as a sequence of tokens. Indentation is turned into tokens that open and close
block collections. A node that turns out to be a key only when the colon after it is
reached gets its key token put in front of it then: for each level of flow collections
the scanner remembers where such a node may have started.
-/
namespace PathTracking.Yaml

/-- A tag as written: a suffix behind a handle, or whole. -/
structure TagText where
  handle : Option String
  suffix : String
  deriving DecidableEq, Repr

inductive Directive
  | version (major : Nat)
  | tagHandle (handle expansion : String)
  | unknown
  deriving DecidableEq, Repr

inductive Token
  | directive (d : Directive)
  | documentStart
  | documentEnd
  | streamEnd
  | blockSequence
  | blockMapping
  | blockEnd
  | flowSequence
  | flowSequenceEnd
  | flowMapping
  | flowMappingEnd
  | blockEntry
  | flowEntry
  | key
  | value
  | alias (name : String)
  | anchor (name : String)
  | tag (t : TagText)
  | scalar (isPlain : Bool) (text : List Text.CodePoint)
  deriving DecidableEq, Repr

/-! ## Words, tags and directives -/

/-- The name after `*` or `&`. -/
def anchorName (c : Cursor) : Except Error (String × Cursor) :=
  let (name, c) := c.takeWhile isWordChar
  if name.isEmpty then .error .malformed
  else if isGapOrEnd c.head || ['?', ':', ',', ']', '\x7d', '%', '@', '\x60'].contains c.head then
    .ok (String.ofList name, c)
  else .error .malformed

/-- A handle: `!`, `!!` or a word between exclamation marks. -/
def tagHandle (c : Cursor) : Except Error (String × Cursor) :=
  if c.head ≠ '!' then .error .malformed
  else
    let c := c.next
    if c.head = ' ' then .ok ("!", c)
    else
      let (word, c) := c.takeWhile isWordChar
      if c.head = '!' then .ok (String.ofList ('!' :: word ++ ['!']), c.next)
      else .error .malformed

def isUriChar (c : Char) : Bool :=
  c.isAlphanum || "-;/?:@&=+$,_.!~*'()[]%".toList.contains c

/-- Escaped bytes in a row, which have to be UTF-8 together. -/
def uriEscapes : Nat → List UInt8 → Cursor → Except Error (List Char × Cursor)
  | 0, _, _ => .error .malformed
  | fuel + 1, acc, c =>
    if c.head = '%' then
      match hexNumber? c.next.rest 2 0 with
      | some n => uriEscapes fuel (UInt8.ofNat n :: acc) (c.skip 3)
      | none => .error .malformed
    else
      match Text.decodeWhole acc.reverse with
      | .ok text => .ok (text, c)
      | .error _ => .error .malformed

def tagUriFrom : Nat → List Char → Cursor → Except Error (List Char × Cursor)
  | 0, _, _ => .error .malformed
  | fuel + 1, acc, c =>
    if c.head = '%' then
      match uriEscapes (c.left + 1) [] c with
      | .ok (text, c) => tagUriFrom fuel (text.reverse ++ acc) c
      | .error e => .error e
    else if isUriChar c.head then tagUriFrom fuel (c.head :: acc) c.next
    else .ok (acc.reverse, c)

def tagUri (c : Cursor) : Except Error (String × Cursor) := do
  if !isUriChar c.head then throw .malformed
  let (text, c) ← tagUriFrom (c.left + 1) [] c
  return (String.ofList text, c)

/-- A tag from its `!` on. -/
def tagText (c : Cursor) : Except Error (TagText × Cursor) := do
  let (t, c) ←
    if c.peek 1 = '<' then do
      let (uri, c) ← tagUri (c.skip 2)
      if c.head = '>' then pure (⟨none, uri⟩, c.next) else throw .malformed
    else if isGapOrEnd (c.peek 1) then pure (⟨none, "!"⟩, c.next)
    else do
      let word := c.next.rest.takeWhile fun x => x ≠ '!' && (x = '\t' || !isGapOrEnd x)
      let (handle, c) ← if c.peek (word.length + 1) = '!' then tagHandle c else pure ("!", c.next)
      let (uri, c) ← tagUri c
      pure (⟨some handle, uri⟩, c)
  if c.head = ' ' || isBreakOrEnd c.head then return (t, c) else throw .malformed

def endsWord (c : Cursor) : Bool := c.head = ' ' || isBreakOrEnd c.head

def versionNumber (c : Cursor) : Except Error (Nat × Cursor) :=
  let (digits, c) := c.takeWhile Text.isAsciiDigit
  if digits.isEmpty then .error .malformed else .ok (Text.ofDigits digits, c)

/-- A directive after its percent sign, to the end of the line. -/
def directive (c : Cursor) : Except Error (Directive × Cursor) := do
  let (name, c) := c.takeWhile isWordChar
  if name.isEmpty || !endsWord c then throw .malformed
  let (d, c) ←
    if name = "YAML".toList then do
      let (major, c) ← versionNumber c.skipSpaces
      if c.head ≠ '.' then throw .malformed
      let (_, c) ← versionNumber c.next
      if endsWord c then pure (Directive.version major, c) else throw .malformed
    else if name = "TAG".toList then do
      let (handle, c) ← tagHandle c.skipSpaces
      if c.head ≠ ' ' then throw .malformed
      let (uri, c) ← tagUri c.skipSpaces
      if endsWord c then pure (Directive.tagHandle handle uri, c) else throw .malformed
    else pure (Directive.unknown, c.skipWhile (!isBreakOrEnd ·))
  return (d, ← c.endLine)

/-! ## The scanner -/

/-- A node that may turn out to be a key: the number of its first token, and its place.
It has to be one if it stands at the indentation of a block mapping. -/
structure PossibleKey where
  level : Nat
  token : Nat
  required : Bool
  index : Nat
  line : Nat
  column : Nat
  deriving DecidableEq, Repr

structure Scanner where
  cursor : Cursor
  /-- The tokens so far, the latest first, and their number. -/
  tokens : List Token
  count : Nat
  /-- The depth of flow collections. -/
  flow : Nat
  /-- The column of the innermost block collection, -1 outside. -/
  indent : Int
  outer : List Int
  keyAllowed : Bool
  keys : List PossibleKey
  deriving Repr

namespace Scanner

def start (s : List Char) : Scanner := ⟨.start s, [], 0, 0, -1, [], true, []⟩

def push (s : Scanner) (t : Token) : Scanner :=
  { s with tokens := t :: s.tokens, count := s.count + 1 }

def pushAt (s : Scanner) (t : Token) (c : Cursor) : Scanner := { s.push t with cursor := c }

/-- Puts a token in front of the one with the number `place`. -/
def insert (s : Scanner) (place : Nat) (t : Token) : Scanner :=
  let after := s.count - place
  { s with
    tokens := s.tokens.take after ++ t :: s.tokens.drop after
    count := s.count + 1 }

/-- The longest possible key. -/
def maxKey : Nat := 1024

/-- Gives up nodes that can no longer be keys: those on earlier lines and those too far
back. -/
def dropStale (s : Scanner) : Except Error Scanner :=
  let stale (k : PossibleKey) : Bool :=
    k.line ≠ s.cursor.line || maxKey < s.cursor.index - k.index
  if s.keys.any fun k => stale k && k.required then .error .malformed
  else .ok { s with keys := s.keys.filter (!stale ·) }

/-- Gives up the possible key of the current level. -/
def dropKey (s : Scanner) : Except Error Scanner :=
  if s.keys.any fun k => k.level = s.flow && k.required then .error .malformed
  else .ok { s with keys := s.keys.filter (·.level ≠ s.flow) }

/-- Remembers that the next token may start a key. -/
def saveKey (s : Scanner) : Except Error Scanner :=
  if s.keyAllowed then do
    let s ← s.dropKey
    let c := s.cursor
    let required := s.flow = 0 && s.indent = c.column
    return { s with
      keys := ⟨s.flow, s.count, required, c.index, c.line, c.column⟩ :: s.keys }
  else .ok s

/-- Closes the block collections that are indented more than `column`, the innermost of
which stands at `indent` and the others at `outer`. -/
def closeTo (s : Scanner) (column indent : Int) : List Int → Scanner
  | [] => { s with indent, outer := [] }
  | o :: outer =>
    if indent > column then (s.push .blockEnd).closeTo column o outer
    else { s with indent, outer := o :: outer }

def unwind (s : Scanner) (column : Int) : Scanner :=
  if s.flow ≠ 0 then s else s.closeTo column s.indent s.outer

/-- Opens a block collection at a column that is indented more, with `token` put in at
place `place`. -/
def openBlock (s : Scanner) (column : Nat) (place : Nat) (token : Token) : Scanner :=
  if s.indent < column then
    { s.insert place token with indent := column, outer := s.indent :: s.outer }
  else s

/-- Passes spaces, comments and line ends. After a line end outside flow collections a
key may start. -/
def gapFrom : Nat → Bool → Cursor → Cursor × Bool
  | 0, broke, c => (c, broke)
  | fuel + 1, broke, c =>
    let c := c.skipSpaces
    let c := if c.head = '#' then c.skipWhile (!isBreakOrEnd ·) else c
    if isBreak c.head then gapFrom fuel true c.next else (c, broke)

def skipGap (s : Scanner) : Scanner :=
  let c := s.cursor
  let c := if c.index = 0 && c.head = byteOrderMark then c.next else c
  let (c, broke) := gapFrom (c.left + 1) false c
  { s with cursor := c, keyAllowed := s.keyAllowed || (broke && s.flow = 0) }

/-- What ends the block collections: a directive, or the start or end of a document. -/
def boundary (s : Scanner) : Except Error Scanner := do
  let s ← (s.unwind (-1)).dropKey
  return { s with keyAllowed := false }

def openFlow (s : Scanner) (t : Token) : Except Error Scanner := do
  let s ← s.saveKey
  return { s.pushAt t s.cursor.next with flow := s.flow + 1, keyAllowed := true }

def closeFlow (s : Scanner) (t : Token) : Except Error Scanner := do
  let s ← s.dropKey
  if s.flow = 0 then throw .malformed
  return { s.pushAt t s.cursor.next with flow := s.flow - 1, keyAllowed := false }

def flowEntry (s : Scanner) : Except Error Scanner := do
  let s ← { s with keyAllowed := true }.dropKey
  return s.pushAt .flowEntry s.cursor.next

/-- A place where a block collection may start. -/
def atBlockStart (s : Scanner) (token : Token) : Except Error Scanner :=
  if s.flow ≠ 0 then .ok s
  else if s.keyAllowed then .ok (s.openBlock s.cursor.column s.count token)
  else .error .malformed

def blockEntry (s : Scanner) : Except Error Scanner := do
  let s ← s.atBlockStart .blockSequence
  let s ← { s with keyAllowed := true }.dropKey
  return s.pushAt .blockEntry s.cursor.next

def key (s : Scanner) : Except Error Scanner := do
  let s ← s.atBlockStart .blockMapping
  let s ← { s with keyAllowed := s.flow = 0 }.dropKey
  return s.pushAt .key s.cursor.next

/-- A colon: the node remembered on this level becomes a key; without one the key was
written out or is empty. -/
def value (s : Scanner) : Except Error Scanner := do
  let s ← match s.keys.find? (·.level = s.flow) with
    | some k => do
      let s := { s.insert k.token .key with
        keys := s.keys.filter (·.level ≠ s.flow)
        keyAllowed := false }
      pure (if s.flow = 0 then s.openBlock k.column k.token .blockMapping else s)
    | none => do
      let s ← s.atBlockStart .blockMapping
      { s with keyAllowed := s.flow = 0 }.dropKey
  return s.pushAt .value s.cursor.next

/-- A node that may be a key, read by `read`. -/
def node (s : Scanner) (read : Cursor → Except Error (Token × Cursor)) :
    Except Error Scanner := do
  let s ← s.saveKey
  let (t, c) ← read s.cursor
  return { s.pushAt t c with keyAllowed := false }

def plainNode (s : Scanner) : Except Error Scanner := do
  let s ← s.saveKey
  let (text, c, broke) :=
    plain (s.flow ≠ 0) (s.indent + 1) (s.cursor.left + 1) [] [] false s.cursor
  return { s.pushAt (.scalar true (text.map .inl)) c with keyAllowed := broke }

def blockNode (s : Scanner) (folded : Bool) : Except Error Scanner := do
  let s ← { s with keyAllowed := true }.dropKey
  let (text, c) ← block folded s.indent s.cursor.next
  return s.pushAt (.scalar false (text.map .inl)) c

def readQuoted (double : Bool) (c : Cursor) : Except Error (Token × Cursor) := do
  let (text, c) ← quoted double (c.left + 1) [] c.next
  return (.scalar false text, c)

/-- Characters that open a token of their own and so start no plain scalar. -/
def isIndicator (c : Char) : Bool := "-?:,[]\x7b\x7d#&*!|>'\"%@\x60".toList.contains c

def startsPlain (s : Scanner) : Bool :=
  let c := s.cursor
  !(isGapOrEnd c.head || isIndicator c.head) ||
    (!isGapOrEnd (c.peek 1) &&
      (c.head = '-' || (s.flow = 0 && (c.head = '?' || c.head = ':'))))

/-- Reads the token that starts here; `none` at the end of the text. -/
def step (s : Scanner) : Except Error (Option Scanner) := do
  let s ← s.skipGap.dropStale
  let s := s.unwind s.cursor.column
  let c := s.cursor
  let x := c.head
  let gapNext := isGapOrEnd (c.peek 1)
  -- Directives and document marks count in the first column only.
  if x = endMark then return none
  else if x = '%' && c.column = 0 then
    let s ← s.boundary
    let (d, c) ← directive c.next
    return some (s.pushAt (.directive d) c)
  else if c.column = 0 && c.hasMark '-' then return some ((← s.boundary).pushAt .documentStart (c.skip 3))
  else if c.column = 0 && c.hasMark '.' then return some ((← s.boundary).pushAt .documentEnd (c.skip 3))
  -- Inside flow collections an indicator needs no gap after it.
  else if x = '[' then return some (← s.openFlow .flowSequence)
  else if x = '\x7b' then return some (← s.openFlow .flowMapping)
  else if x = ']' then return some (← s.closeFlow .flowSequenceEnd)
  else if x = '\x7d' then return some (← s.closeFlow .flowMappingEnd)
  else if x = ',' then return some (← s.flowEntry)
  else if x = '-' && gapNext then return some (← s.blockEntry)
  else if x = '?' && (s.flow ≠ 0 || gapNext) then return some (← s.key)
  else if x = ':' && (s.flow ≠ 0 || gapNext) then return some (← s.value)
  else if x = '*' then
    return some (← s.node fun c => do
      let (name, c) ← anchorName c.next
      return (.alias name, c))
  else if x = '&' then
    return some (← s.node fun c => do
      let (name, c) ← anchorName c.next
      return (.anchor name, c))
  else if x = '!' then
    return some (← s.node fun c => do
      let (t, c) ← tagText c
      return (.tag t, c))
  else if x = '|' && s.flow = 0 then return some (← s.blockNode false)
  else if x = '>' && s.flow = 0 then return some (← s.blockNode true)
  else if x = '\'' then return some (← s.node (readQuoted false))
  else if x = '"' then return some (← s.node (readQuoted true))
  else if s.startsPlain then return some (← s.plainNode)
  else throw .malformed

def run : Nat → Scanner → Except Error (List Token)
  | 0, _ => .error .malformed
  | fuel + 1, s =>
    match s.step with
    | .error e => .error e
    | .ok (some s) => run fuel s
    | .ok none => do
      let s ← (s.skipGap.unwind (-1)).dropKey
      return (s.push .streamEnd).tokens.reverse

end Scanner

/-- Characters that a document may contain unescaped. -/
def isAllowed (c : Char) : Bool :=
  let n := c.toNat
  n = 9 || n = 0xa || n = 0xd || (0x20 ≤ n && n ≤ 0x7e) || n = 0x85 ||
    (0xa0 ≤ n && n ≤ 0xd7ff) || (0xe000 ≤ n && n ≤ 0xfffd) || 0x10000 ≤ n

/-- The tokens of a text. Every token takes at least one character. -/
def tokens (s : List Char) : Except Error (List Token) :=
  if s.all isAllowed then (Scanner.start s).run (s.length + 2) else .error .malformed

end PathTracking.Yaml
