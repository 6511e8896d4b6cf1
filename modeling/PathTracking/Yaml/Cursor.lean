import PathTracking.Yaml.Error

/-!
# A place in a text

What is left of a text and how long that is, with the place it starts at: the index of the
character, and the line and column, all counted from zero. The end of the text reads as a NUL character,
which no valid text contains.
-/
namespace PathTracking.Yaml

structure Cursor where
  rest : List Char
  left : Nat
  index : Nat
  line : Nat
  column : Nat
  deriving DecidableEq, Repr

def endMark : Char := '\x00'

def byteOrderMark : Char := '\ufeff'

/-- Characters that end a line. Carriage returns are read as line feeds before. -/
def isBreak (c : Char) : Bool :=
  c = '\n' || c = '\u0085' || c = '\u2028' || c = '\u2029'

def isBreakOrEnd (c : Char) : Bool := isBreak c || c = endMark

def isGap (c : Char) : Bool := c = ' ' || c = '\t'

def isGapOrEnd (c : Char) : Bool := isGap c || isBreakOrEnd c

/-- How a line end is kept in a scalar. -/
def keptBreak (c : Char) : Char := if c = '\u2028' ∨ c = '\u2029' then c else '\n'

/-- Characters of names of anchors, directives and tag handles. -/
def isWordChar (c : Char) : Bool := c.isAlphanum || c = '-' || c = '_'

namespace Cursor

def start (s : List Char) : Cursor := ⟨s, s.length, 0, 0, 0⟩

/-- The character `n` places on. -/
def peek (c : Cursor) (n : Nat) : Char := (c.rest[n]?).getD endMark

def head (c : Cursor) : Char := (c.rest.head?).getD endMark

/-- Passes a character. A byte order mark takes no column. -/
def next (c : Cursor) : Cursor :=
  match c.rest with
  | [] => c
  | x :: rest =>
    if isBreak x then ⟨rest, c.left - 1, c.index + 1, c.line + 1, 0⟩
    else
      let column := if x = byteOrderMark then c.column else c.column + 1
      ⟨rest, c.left - 1, c.index + 1, c.line, column⟩

def skip (c : Cursor) : Nat → Cursor
  | 0 => c
  | n + 1 => c.next.skip n

/-- The longest run of characters of a class. -/
def takeWhile (c : Cursor) (p : Char → Bool) : List Char × Cursor :=
  let taken := c.rest.takeWhile p
  (taken, c.skip taken.length)

def skipWhile (c : Cursor) (p : Char → Bool) : Cursor := (c.takeWhile p).2

def skipSpaces (c : Cursor) : Cursor := c.skipWhile (· = ' ')

/-- The rest of the line is blank or a comment; passes its end. -/
def endLine (c : Cursor) : Except Error Cursor :=
  let c := c.skipSpaces
  let c := if c.head = '#' then c.skipWhile (!isBreakOrEnd ·) else c
  if isBreak c.head then .ok c.next
  else if c.head = endMark then .ok c
  else .error .malformed

/-- Whether three equal characters and a gap stand here. -/
def hasMark (c : Cursor) (x : Char) : Bool :=
  c.peek 0 = x && c.peek 1 = x && c.peek 2 = x && isGapOrEnd (c.peek 3)

/-- The start or the end of a document stands here. -/
def atDocumentMark (c : Cursor) : Bool := c.hasMark '-' || c.hasMark '.'

end Cursor
end PathTracking.Yaml
