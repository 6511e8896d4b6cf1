import PathTracking.Csv.Rows
import PathTracking.Route.Waypoint
import PathTracking.Text.LowerCase
import PathTracking.Text.Numeral

/-!
# Routes in tables

A table has one waypoint a row. Empty rows and rows whose first cell starts with a number
sign, after blanks, are left out. If the first row that is left names an `x` and a `y`
column, it is a header: columns are found by name, `z` and `velocity` among them if there
are any, and all others are ignored. Without a header the cells are `x`, `y` and perhaps
`z`. The rows that are left are numbered from one.
-/
namespace PathTracking.Route.Table

open Csv

def isComment (row : Row) : Bool :=
  row.head?.any fun cell => (cell.dropWhile Text.isBlank).head? = some '#'

/-- Rows that count: not empty and no comments. -/
def retained (rows : List Row) : List Row :=
  rows.filter fun row => !row.isEmpty && !isComment row

/-- Where the columns of a waypoint stand. -/
structure Columns where
  x : Nat
  y : Nat
  z : Option Nat
  velocity : Option Nat
  deriving DecidableEq, Repr

/-- A column name without the blanks around it, in lower case. -/
def columnName (cell : Cell) : String :=
  String.ofList (Text.lower (Text.trim Text.isBlank cell))

/-- The columns that a header names, the first of each name; `none` for a row that does
not name both `x` and `y`. -/
def Columns.ofHeader? (row : Row) : Option Columns := do
  let names := row.map columnName
  return {
    x := ← names.idxOf? "x"
    y := ← names.idxOf? "y"
    z := names.idxOf? "z"
    velocity := names.idxOf? "velocity" }

/-- Kilometres per hour in metres per second. -/
def kilometrePerHour : Float := 1.0 / 3.6

/-- The number in a cell. The outer `none` is for a cell that is missing or no number, the
inner one for a blank cell. -/
def optionalNumber (row : Row) (column : Nat) : Option (Option Float) := do
  let cell ← row[column]?
  if (Text.trim Text.isBlank cell).isEmpty then return none
  else return some (← Text.readFloat cell)

/-- The number in a cell that has to be there. -/
def number (row : Row) (column : Nat) : Option Float := row[column]?.bind Text.readFloat

/-- The waypoint in a row below a header. A blank height is zero, a blank velocity none. -/
def Columns.waypoint? (c : Columns) (row : Row) : Option (Waypoint Float) := do
  let velocity ← match c.velocity with
    | some column => optionalNumber row column
    | none => some none
  let z ← match c.z with
    | some column => optionalNumber row column
    | none => some none
  return {
    x := ← number row c.x
    y := ← number row c.y
    z := z.getD 0
    speed := velocity.map (· * kilometrePerHour) }

/-- The waypoint in a row of a table without header. A height that is blank or missing is
zero. -/
def bareWaypoint? (row : Row) : Option (Waypoint Float) := do
  let z ← if row.length > 2 then optionalNumber row 2 else some none
  return { x := ← number row 0, y := ← number row 1, z := z.getD 0, speed := none }

/-- A row that is no waypoint, with its number. -/
structure Malformed where
  number : Nat
  row : Row
  deriving DecidableEq, Repr

/-- Reads rows in order; `n` is the number of the first. -/
def waypoints (read : Row → Option (Waypoint Float)) (n : Nat) :
    List Row → Except Malformed (Route Float)
  | [] => .ok []
  | row :: rest =>
    match read row with
    | none => .error ⟨n, row⟩
    | some w => (waypoints read (n + 1) rest).map (w :: ·)

/-- The route in a table. -/
def route (rows : List Row) : Except Malformed (Route Float) :=
  match retained rows with
  | [] => .ok []
  | first :: rest =>
    match Columns.ofHeader? first with
    | some columns => waypoints columns.waypoint? 2 rest
    | none => waypoints bareWaypoint? 1 (first :: rest)

end PathTracking.Route.Table
