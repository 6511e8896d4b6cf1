import PathTracking.Json.Parse
import PathTracking.Yaml.Cursor

/-!
# The texts of scalars

The three ways to write a scalar: plain, quoted and as a block. Each reader starts at the
first character and returns the text with its lines folded, and the place after it.
Lists named `acc` hold text in reverse. Fuel is the number of characters left.
-/
namespace PathTracking.Yaml

/-- Line ends kept in a scalar. -/
abbrev Breaks := List Char

/-- A folded line end: nothing of a single line feed but a space, else the further ones. -/
def foldBreaks (first : Char) (further : Breaks) : List Char :=
  if keptBreak first ≠ '\n' then keptBreak first :: further
  else if further.isEmpty then [' ']
  else further

/-! ## Plain scalars -/

/-- The characters of a plain scalar up to the next gap. -/
def plainChunk (inFlow : Bool) : List Char → List Char
  | [] => []
  | c :: rest =>
    let after := rest.head?.getD endMark
    let stops := isGapOrEnd c ||
      (c = ':' && (isGapOrEnd after || (inFlow && [',', '[', ']', '\x7b', '\x7d'].contains after))) ||
      (inFlow && [',', '?', '[', ']', '\x7b', '\x7d'].contains c)
    if stops then [] else c :: plainChunk inFlow rest

/-- Blank lines after a line of a plain scalar; `none` at a document mark. -/
def plainBreaks : Nat → Breaks → Cursor → Option Breaks × Cursor
  | 0, acc, c => (some acc.reverse, c)
  | fuel + 1, acc, c =>
    if c.head = ' ' then plainBreaks fuel acc c.next
    else if isBreak c.head then
      let kept := keptBreak c.head
      let c := c.next
      if c.atDocumentMark then (none, c) else plainBreaks fuel (kept :: acc) c
    else (some acc.reverse, c)

/-- What stands between two chunks of a plain scalar. -/
structure PlainGap where
  /-- The folded text; empty if the scalar ends here. -/
  text : List Char
  cursor : Cursor
  /-- A line ended in the gap. -/
  broke : Bool

def plainGap (c : Cursor) : PlainGap :=
  let (spaces, c) := c.takeWhile (· = ' ')
  if isBreak c.head then
    let first := c.head
    let c := c.next
    if c.atDocumentMark then ⟨[], c, true⟩
    else
      match plainBreaks (c.left + 1) [] c with
      | (none, c) => ⟨[], c, true⟩
      | (some breaks, c) => ⟨foldBreaks first breaks, c, true⟩
  else ⟨spaces, c, false⟩

/-- A plain scalar, and whether a line ended after its last chunk. `indent` is the least
column of its further lines. -/
def plain (inFlow : Bool) (indent : Int) :
    Nat → List Char → List Char → Bool → Cursor → List Char × Cursor × Bool
  | 0, acc, _, broke, c => (acc.reverse, c, broke)
  | fuel + 1, acc, gap, broke, c =>
    let chunk := if c.head = '#' then [] else plainChunk inFlow c.rest
    if chunk.isEmpty then (acc.reverse, c, broke)
    else
      let acc := chunk.reverse ++ (gap.reverse ++ acc)
      let g := plainGap (c.skip chunk.length)
      if g.text.isEmpty || g.cursor.head = '#' || (!inFlow && (g.cursor.column : Int) < indent)
      then (acc.reverse, g.cursor, g.broke)
      else plain inFlow indent fuel acc g.text g.broke g.cursor

/-! ## Quoted scalars -/

/-- Blank lines inside a quoted scalar, where no document may start or end. -/
def quotedBreaks : Nat → Breaks → Cursor → Except Error (Breaks × Cursor)
  | 0, _, _ => .error .malformed
  | fuel + 1, acc, c =>
    if c.atDocumentMark then .error .malformed
    else
      let c := c.skipWhile isGap
      if isBreak c.head then quotedBreaks fuel (keptBreak c.head :: acc) c.next
      else .ok (acc.reverse, c)

def simpleEscape? : Char → Option Char
  | '0' => some '\x00'
  | 'a' => some '\x07'
  | 'b' => some '\x08'
  | 't' | '\t' => some '\t'
  | 'n' => some '\n'
  | 'v' => some '\x0b'
  | 'f' => some '\x0c'
  | 'r' => some '\r'
  | 'e' => some '\x1b'
  | ' ' => some ' '
  | '"' => some '"'
  | '\\' => some '\\'
  | '/' => some '/'
  | 'N' => some '\u0085'
  | '_' => some '\u00a0'
  | 'L' => some '\u2028'
  | 'P' => some '\u2029'
  | _ => none

/-- The number of hexadecimal digits after an escape letter. -/
def hexEscape? : Char → Option Nat
  | 'x' => some 2
  | 'u' => some 4
  | 'U' => some 8
  | _ => none

/-- A hexadecimal number of exactly `n` digits. -/
def hexNumber? (s : List Char) : (n : Nat) → Nat → Option Nat
  | 0, value => some value
  | n + 1, value =>
    match s with
    | [] => none
    | c :: rest => do hexNumber? rest n (16 * value + (← Json.hexValue? c))

def codePoint (code : Nat) : Except Error Text.CodePoint :=
  if 0x110000 ≤ code then .error (.beyondUnicode code) else .ok (.ofNat code)

/-- A quoted scalar after its opening quote, to behind the closing one. Escapes exist
between double quotes only; two that are a pair of surrogates are not read as one. -/
def quoted (double : Bool) : Nat → List Text.CodePoint → Cursor →
    Except Error (List Text.CodePoint × Cursor)
  | 0, _, _ => .error .malformed
  | fuel + 1, acc, c =>
    let x := c.head
    if x = endMark then .error .malformed
    else if !double && x = '\'' && c.peek 1 = '\'' then quoted double fuel (.inl '\'' :: acc) (c.skip 2)
    else if x = (if double then '"' else '\'') then .ok (acc.reverse, c.next)
    else if double && x = '\\' then
      let c := c.next
      let x := c.head
      match simpleEscape? x, hexEscape? x with
      | some y, _ => quoted double fuel (.inl y :: acc) c.next
      | none, some n =>
        match hexNumber? c.next.rest n 0 with
        | none => .error .malformed
        | some code =>
          match codePoint code with
          | .error e => .error e
          | .ok y => quoted double fuel (y :: acc) (c.skip (n + 1))
      | none, none =>
        if isBreak x then
          match quotedBreaks (c.left + 1) [] c.next with
          | .error e => .error e
          | .ok (breaks, c) => quoted double fuel (breaks.reverse.map .inl ++ acc) c
        else .error .malformed
    else if isGap x || isBreak x then
      let (spaces, c) := c.takeWhile isGap
      if isBreak c.head then
        match quotedBreaks (c.left + 1) [] c.next with
        | .error e => .error e
        | .ok (breaks, d) =>
          quoted double fuel ((foldBreaks c.head breaks).reverse.map .inl ++ acc) d
      else quoted double fuel (spaces.reverse.map .inl ++ acc) c
    else quoted double fuel (.inl x :: acc) c.next

/-! ## Block scalars -/

/-- What happens to the line ends after the last line of a block scalar. -/
inductive Chomping
  | strip
  | clip
  | keep
  deriving DecidableEq, Repr

def chomping? (c : Char) : Option Chomping :=
  if c = '+' then some .keep else if c = '-' then some .strip else none

/-- An indentation indicator; zero is none. -/
def increment? (c : Char) : Except Error (Option Nat) :=
  if c = '0' then .error .malformed
  else if '1' ≤ c ∧ c ≤ '9' then .ok (some (c.toNat - 48))
  else .ok none

/-- The indicators after `|` or `>`, in either order. -/
def blockHeader (c : Cursor) : Except Error (Chomping × Option Nat × Cursor) := do
  match chomping? c.head with
  | some chomping =>
    let c := c.next
    match ← increment? c.head with
    | some n => return (chomping, some n, c.next)
    | none => return (chomping, none, c)
  | none =>
    match ← increment? c.head with
    | some n =>
      let c := c.next
      match chomping? c.head with
      | some chomping => return (chomping, some n, c.next)
      | none => return (.clip, some n, c)
    | none => return (.clip, none, c)

/-- Leading blank lines, and the greatest column reached in them. -/
def blockStart : Nat → Breaks → Nat → Cursor → Breaks × Nat × Cursor
  | 0, acc, widest, c => (acc.reverse, widest, c)
  | fuel + 1, acc, widest, c =>
    if c.head = ' ' then blockStart fuel acc (max widest c.next.column) c.next
    else if isBreak c.head then blockStart fuel (keptBreak c.head :: acc) widest c.next
    else (acc.reverse, widest, c)

/-- Passes at most the indentation. -/
def skipIndent (indent : Nat) (c : Cursor) : Cursor :=
  let spaces := (c.rest.takeWhile (· = ' ')).length
  c.skip (min spaces (indent - c.column))

def blockBreaks (indent : Nat) : Nat → Breaks → Cursor → Breaks × Cursor
  | 0, acc, c => (acc.reverse, c)
  | fuel + 1, acc, c =>
    let c := skipIndent indent c
    if isBreak c.head then blockBreaks indent fuel (keptBreak c.head :: acc) c.next
    else (acc.reverse, c)

/-- The lines of a block scalar. -/
def blockLines (folded : Bool) (chomping : Chomping) (indent : Nat) :
    Nat → List Char → Breaks → Cursor → List Char × Cursor
  | 0, acc, _, c => (acc.reverse, c)
  | fuel + 1, acc, breaks, c =>
    let acc := breaks.reverse ++ acc
    let indented := isGap c.head
    let (line, c) := c.takeWhile (!isBreakOrEnd ·)
    let acc := line.reverse ++ acc
    let ending : List Char := if isBreak c.head then [keptBreak c.head] else []
    let c := if isBreak c.head then c.next else c
    let (breaks, c) := blockBreaks indent (c.left + 1) [] c
    if c.column = indent && c.head ≠ endMark then
      -- A line end folds only between lines that both start flush.
      let folds := folded && ending = ['\n'] && !indented && !isGap c.head
      let acc := if folds then (if breaks.isEmpty then ' ' :: acc else acc) else ending ++ acc
      blockLines folded chomping indent fuel acc breaks c
    else
      let tail := match chomping with
        | .strip => []
        | .clip => ending
        | .keep => ending ++ breaks
      (acc.reverse ++ tail, c)

/-- A block scalar after its `|` or `>`. `outer` is the indentation around it. -/
def block (folded : Bool) (outer : Int) (c : Cursor) : Except Error (List Char × Cursor) := do
  let (chomping, increment, c) ← blockHeader c
  let c ← if isGapOrEnd c.head && c.head ≠ '\t' then c.endLine else .error .malformed
  let least := max 1 (outer + 1).toNat
  let fuel := c.left + 1
  let (breaks, indent, c) := match increment with
    | some n =>
      let indent := least + n - 1
      let (breaks, c) := blockBreaks indent fuel [] c
      (breaks, indent, c)
    | none =>
      let (breaks, widest, c) := blockStart fuel [] 0 c
      (breaks, max least widest, c)
  if c.column = indent && c.head ≠ endMark then
    return blockLines folded chomping indent fuel [] breaks c
  else
    return (if chomping = .keep then breaks else [], c)

end PathTracking.Yaml
