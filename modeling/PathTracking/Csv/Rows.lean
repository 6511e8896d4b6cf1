/-!
# Comma-separated rows

A text is cut into lines and each line into cells. A cell that opens with a double quote
runs to the closing one, over commas and line ends; a doubled quote inside stands for one.
So one row is one line unless a quoted cell goes on in the next line. An empty line is a
row without cells.
-/
namespace PathTracking.Csv

abbrev Cell := List Char

abbrev Row := List Cell

/-- A line and the characters that end it: a line feed, a carriage return, both, or, on
the last line, none. -/
structure Line where
  body : List Char
  ending : List Char
  deriving DecidableEq, Repr

/-- Cuts a text into lines; `body` holds the current one in reverse. -/
def linesFrom (body : List Char) : List Char → List Line
  | [] => if body.isEmpty then [] else [⟨body.reverse, []⟩]
  | '\r' :: '\n' :: rest => ⟨body.reverse, ['\r', '\n']⟩ :: linesFrom [] rest
  | c :: rest =>
    if c = '\n' ∨ c = '\r' then ⟨body.reverse, [c]⟩ :: linesFrom [] rest
    else linesFrom (c :: body) rest

def lines (s : List Char) : List Line := linesFrom [] s

inductive Error
  | cellTooLong
  deriving DecidableEq, Repr

/-- The greatest length of a cell. -/
def maxCell : Nat := 131072

/-- Where in a cell the reader stands. -/
inductive Place
  | start
  | bare
  | quoted
  /-- After a quote inside a quoted cell: the closing one, or half of a doubled one. -/
  | afterQuote
  deriving DecidableEq, Repr

/-- A row in progress. Cells and characters are held in reverse. -/
structure Draft where
  cells : List Cell
  cell : List Char
  length : Nat
  place : Place
  deriving DecidableEq, Repr

namespace Draft

def empty : Draft := ⟨[], [], 0, .start⟩

def addChar (d : Draft) (c : Char) (place : Place) : Except Error Draft :=
  if maxCell ≤ d.length then .error .cellTooLong
  else .ok ⟨d.cells, c :: d.cell, d.length + 1, place⟩

def endCell (d : Draft) : Draft := ⟨d.cell.reverse :: d.cells, [], 0, .start⟩

def row (d : Draft) : Row := d.endCell.cells.reverse

/-- One character of a line, or of a line end inside quotes. -/
def step (d : Draft) (c : Char) : Except Error Draft :=
  match d.place with
  | .start =>
    if c = '"' then .ok { d with place := .quoted }
    else if c = ',' then .ok d.endCell
    else d.addChar c .bare
  | .bare => if c = ',' then .ok d.endCell else d.addChar c .bare
  | .quoted => if c = '"' then .ok { d with place := .afterQuote } else d.addChar c .quoted
  | .afterQuote =>
    if c = '"' then d.addChar c .quoted
    else if c = ',' then .ok d.endCell
    else d.addChar c .bare

end Draft

/-- Reads lines into rows. A draft is passed on only from inside a quoted cell. -/
def rowsFrom (rows : List Row) : Option Draft → List Line → Except Error (List Row)
  | none, [] => .ok rows.reverse
  | some draft, [] => .ok (draft.row :: rows).reverse
  | carried, line :: rest =>
    if carried.isNone && line.body.isEmpty then rowsFrom ([] :: rows) none rest
    else
      match line.body.foldlM Draft.step (carried.getD .empty) with
      | .error e => .error e
      | .ok draft =>
        if draft.place = .quoted then
          match line.ending.foldlM Draft.step draft with
          | .error e => .error e
          | .ok draft => rowsFrom rows (some draft) rest
        else rowsFrom (draft.row :: rows) none rest

def rows (s : List Char) : Except Error (List Row) := rowsFrom [] none (lines s)

/-- The lines of the front of a text that are complete whatever follows. Of a carriage return at
the end it is not known yet whether it ends its line alone. -/
def completeLines (s : List Char) : List Line :=
  let s := if s.getLast? = some '\r' then s.dropLast else s
  (lines s).filter (!·.ending.isEmpty)

end PathTracking.Csv
