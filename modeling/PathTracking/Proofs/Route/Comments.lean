import Mathlib.Data.List.TakeWhile
import PathTracking.Proofs.Csv.Lines
import PathTracking.Proofs.Route.Table

/-!
# Blank lines and comments

An empty line is an empty row, and a line that starts with a number sign is a comment whatever
cells the rest of it is cut into (`isComment_of_readRow`). So either can be put anywhere in a table
without being noticed, if it ends outside quoted cells. A comment that ends inside one, which takes
a quote right behind a comma, has the rest of the table for its cell, and the waypoints in it are
lost (`ofTable_inserted`).
-/
namespace PathTracking.Route

open Csv (Row readRow opens)

/-- Whether the first character that is not blank is a number sign. -/
def isNoted (s : List Char) : Bool := (s.dropWhile Text.isBlank).head? = some '#'

theorem isNoted_iff {s : List Char} :
    isNoted s ↔ ∃ blanks rest, s = blanks ++ '#' :: rest ∧ ∀ c ∈ blanks, Text.isBlank c := by
  rw [isNoted, decide_eq_true_iff, List.head?_eq_some_iff]
  constructor
  · rintro ⟨rest, split⟩
    refine ⟨s.takeWhile Text.isBlank, rest, ?_, fun c => List.mem_takeWhile_imp⟩
    rw [← split, List.takeWhile_append_dropWhile]
  · rintro ⟨blanks, rest, rfl, blank⟩
    exact ⟨rest, by rw [List.dropWhile_append_of_pos blank]; rfl⟩

theorem isNoted_append {s : List Char} (noted : isNoted s) (rest : List Char) :
    isNoted (s ++ rest) := by
  obtain ⟨blanks, tail, rfl, blank⟩ := isNoted_iff.mp noted
  exact isNoted_iff.mpr ⟨blanks, tail ++ rest, by simp, blank⟩

theorem ne_of_isBlank {c : Char} (blank : Text.isBlank c) : c ≠ '"' ∧ c ≠ ',' := by
  constructor <;> rintro rfl <;> revert blank <;> decide

/-- A row whose line starts with a number sign is a comment, into whatever cells it is cut. -/
theorem isComment_of_readRow {s : List Char} {row : Row} (noted : isNoted s)
    (read : readRow s = .ok row) : Table.isComment row := by
  obtain ⟨blanks, rest, rfl, blank⟩ := isNoted_iff.mp noted
  have whole : blanks ++ '#' :: rest = (blanks ++ ['#']) ++ rest := by simp
  have nonempty : (blanks ++ '#' :: rest).isEmpty = false := by simp
  rw [readRow, nonempty, if_neg Bool.false_ne_true, map_eq_ok_iff, whole, List.foldlM_append] at read
  obtain ⟨d, read, rfl⟩ := read
  obtain ⟨d₁, start, read⟩ := bind_eq_ok_iff.mp read
  -- Up to the number sign there is only the first cell, and the cell keeps this start.
  have plain : ∀ c ∈ blanks ++ ['#'], c ≠ '"' ∧ c ≠ ',' := by
    intro c found
    rcases List.mem_append.mp found with found | found
    · exact ne_of_isBlank (blank c found)
    · rw [List.mem_singleton.mp found]
      decide
  have first : d₁.first = blanks ++ ['#'] :=
    Csv.Draft.first_of_plain (d := .empty) rfl (.inl rfl) plain start
  obtain ⟨more, kept⟩ := Csv.Draft.first_foldlM read
  rw [Table.isComment, Csv.Draft.head?_row, ← kept, first]
  exact isNoted_iff.mpr ⟨blanks, more, by simp, blank⟩

theorem isSkipped_of_readRow {s : List Char} {row : Row} (skipped : s = [] ∨ isNoted s)
    (read : readRow s = .ok row) : Table.isSkipped row := by
  rcases skipped with rfl | noted
  · cases read
    rfl
  · rw [Table.isSkipped, isComment_of_readRow noted read, Bool.or_true]

/-- A comment ends inside a quoted cell only if it has a quote right behind a comma. -/
theorem infix_of_opens {body : List Char} (skipped : body = [] ∨ isNoted body)
    (opened : opens body = true) : [',', '"'] <:+: body := by
  rcases (Csv.opens_cases body).2 (of_decide_eq_true opened) with quote | inside
  · -- A blank or a number sign comes first.
    rcases skipped with rfl | noted
    · cases quote
    · obtain ⟨blanks, rest, rfl, blank⟩ := isNoted_iff.mp noted
      cases blanks with
      | nil => cases quote
      | cons c blanks =>
        cases quote
        exact absurd rfl (ne_of_isBlank (blank _ List.mem_cons_self)).1
  · exact inside

/-! ## A line put in -/

section Inserted

variable {name : String} {content content' : Bytes} {s t : List Char}
  {above below : List Csv.Line} {line : Csv.Line} {route : Route Float}

theorem unquoted_around (unquoted : '"' ∉ s)
    (lines : (Csv.lines s).map Csv.Line.body = (above ++ below).map Csv.Line.body) :
    ∀ l ∈ above ++ below, '"' ∉ l.body := by
  intro l around
  obtain ⟨l', line, same⟩ : ∃ l' ∈ Csv.lines s, l'.body = l.body := by
    rw [← List.mem_map, lines]
    exact List.mem_map_of_mem around
  rw [← same]
  exact fun found => unquoted (Csv.mem_of_mem_body line found)

theorem rows_around (unquoted : '"' ∉ s)
    (lines : (Csv.lines s).map Csv.Line.body = (above ++ below).map Csv.Line.body) :
    Csv.rows s = (above ++ below).mapM Csv.Line.row := by
  have closed := Csv.closed_of_unquoted unquoted
  have closed' : ∀ l ∈ above ++ below, opens l.body = false := fun l around =>
    Csv.not_opens_of_unquoted (unquoted_around unquoted lines l around)
  rw [Csv.rows_of_unbroken fun l line => closed l (List.dropLast_subset _ line),
    Csv.mapM_row_of_closed closed, lines, ← Csv.mapM_row_of_closed closed']

section Around

variable (decoded' : Text.decodeFile content' = .ok t)
  (lines' : Csv.lines t = above ++ line :: below) (skipped : line.body = [] ∨ isNoted line.body)
  {rowsAbove rowsBelow : List Row} (before : above.mapM Csv.Line.row = .ok rowsAbove)
  (routed : Table.route (rowsAbove ++ rowsBelow) = .ok route)

include decoded' lines' skipped before routed

/-- Put in as a row of its own, the line is not noticed. -/
theorem ofTable_of_closed (behind : below.mapM Csv.Line.row = .ok rowsBelow)
    (closed : ∀ l ∈ above ++ below, opens l.body = false)
    (short : line.body.length ≤ Csv.maxCell) (closes : opens line.body = false) :
    ofTable name content' = .ok route := by
  obtain ⟨row, here⟩ := Csv.readRow_of_room short
  rw [List.forall_mem_append] at closed
  have unbroken : Csv.Unbroken t := by
    intro l member
    have member := List.dropLast_subset _ member
    rw [lines', List.mem_append, List.mem_cons] at member
    rcases member with member | rfl | member
    · exact closed.1 l member
    · exact closes
    · exact closed.2 l member
  refine (ofTable_eq_ok_iff decoded').mpr ⟨rowsAbove ++ row :: rowsBelow, ?_, ?_⟩
  · rw [Csv.rows_of_unbroken unbroken]
    exact mapM_eq_ok_split_iff.mpr ⟨above, line, below, lines', before,
      (Csv.Line.row_of_closed closes).trans here, behind⟩
  · rw [Table.route_skip (isSkipped_of_readRow skipped here), routed]

/-- A comment that ends inside a quoted cell is one row with all that is below it, which is skipped
as a whole. -/
theorem ofTable_of_opens (closed : ∀ l ∈ above, opens l.body = false)
    (unquoted : ∀ l ∈ below, '"' ∉ l.body) (opened : opens line.body = true) :
    ofTable name content' =
      match readRow ((line :: below).flatMap Csv.Line.text) with
      | .ok _ => .ok (route.take (Table.data rowsAbove).length)
      | .error e => .error (.rows e) := by
  have read := Csv.rows_of_opens lines' closed opened unquoted
  rw [before] at read
  cases swallowed : readRow ((line :: below).flatMap Csv.Line.text) with
  | error e =>
    rw [swallowed] at read
    rw [ofTable_of_decoded name decoded', read]
    rfl
  | ok row =>
    rw [swallowed] at read
    refine (ofTable_eq_ok_iff decoded').mpr ⟨rowsAbove ++ [row], read, ?_⟩
    have noted : isNoted line.body := by
      rcases skipped with empty | noted
      · rw [empty] at opened
        cases opened
      · exact noted
    -- The number sign still comes first in the row, whatever lines it takes in.
    rw [List.flatMap_cons, Csv.Line.text, List.append_assoc] at swallowed
    have comment := isSkipped_of_readRow (.inr (isNoted_append noted _)) swallowed
    rw [Table.route_skip comment, List.append_nil]
    exact Table.route_take routed

end Around

/-- In a table without quotes a line is put in that is empty or a comment. If it ends outside
quoted cells, the route stays the same. If it does not, in which case it has a quote right behind a
comma, the waypoints below it are lost; or all of them, if what is below is too long for a cell. -/
theorem ofTable_inserted (decoded : Text.decodeFile content = .ok s)
    (decoded' : Text.decodeFile content' = .ok t) (unquoted : '"' ∉ s)
    (lines : (Csv.lines s).map Csv.Line.body = (above ++ below).map Csv.Line.body)
    (lines' : Csv.lines t = above ++ line :: below) (skipped : line.body = [] ∨ isNoted line.body)
    (short : line.body.length ≤ Csv.maxCell) (loaded : ofTable name content = .ok route) :
    (opens line.body = false → ofTable name content' = .ok route) ∧
    (opens line.body = true → [',', '"'] <:+: line.body ∧
      ∃ rowsAbove, above.mapM Csv.Line.row = .ok rowsAbove ∧
        ofTable name content' =
          match readRow ((line :: below).flatMap Csv.Line.text) with
          | .ok _ => .ok (route.take (Table.data rowsAbove).length)
          | .error e => .error (.rows e)) := by
  have around := unquoted_around unquoted lines
  have closed : ∀ l ∈ above ++ below, opens l.body = false := fun l member =>
    Csv.not_opens_of_unquoted (around l member)
  obtain ⟨rows, read, routed⟩ := (ofTable_eq_ok_iff decoded).mp loaded
  rw [rows_around unquoted lines, List.mapM_append] at read
  obtain ⟨rowsAbove, before, read⟩ := bind_eq_ok_iff.mp read
  obtain ⟨rowsBelow, behind, ⟨⟩⟩ := bind_eq_ok_iff.mp read
  constructor
  · exact ofTable_of_closed decoded' lines' skipped before routed behind closed short
  · intro opened
    refine ⟨infix_of_opens skipped opened, rowsAbove, before, ?_⟩
    rw [List.forall_mem_append] at around closed
    exact ofTable_of_opens decoded' lines' skipped before routed closed.1 around.2 opened

end Inserted

/-- Two waypoints in a table. -/
def legText : List Char := "0,0\n5,0\n".toList

/-- The same table with a comment between the waypoints that opens a quoted cell. -/
def notedText : List Char := "0,0\n#,\"\n5,0\n".toList

theorem decodeFile_leg : Text.decodeFile (ascii legText) = .ok legText := by decide +kernel

theorem decodeFile_noted : Text.decodeFile (ascii notedText) = .ok notedText := by decide +kernel

theorem lines_leg : Csv.lines legText =
    [⟨['0', ',', '0'], ['\n']⟩] ++ [⟨['5', ',', '0'], ['\n']⟩] := by decide +kernel

theorem lines_noted : Csv.lines notedText =
    [⟨['0', ',', '0'], ['\n']⟩] ++ ⟨['#', ',', '"'], ['\n']⟩ :: [⟨['5', ',', '0'], ['\n']⟩] := by
  decide +kernel

theorem ofTable_leg :
    ofTable "r.csv" (ascii legText) = .ok [⟨0, 0, 0, none⟩, ⟨5, 0, 0, none⟩] := rfl

/-- The comment takes the second waypoint with it. -/
theorem ofTable_inserted_noted :
    Text.decodeFile (ascii legText) = .ok legText ∧
      Text.decodeFile (ascii notedText) = .ok notedText ∧ '"' ∉ legText ∧
      ofTable "r.csv" (ascii legText) = .ok [⟨0, 0, 0, none⟩, ⟨5, 0, 0, none⟩] ∧
      ofTable "r.csv" (ascii notedText) = .ok [⟨0, 0, 0, none⟩] := by
  have unquoted : '"' ∉ legText := by decide
  refine ⟨decodeFile_leg, decodeFile_noted, unquoted, ofTable_leg, ?_⟩
  obtain ⟨-, opens⟩ := ofTable_inserted decodeFile_leg decodeFile_noted unquoted
    (congrArg _ lines_leg) lines_noted (.inr rfl) (by decide) ofTable_leg
  obtain ⟨-, rowsAbove, before, lost⟩ := opens rfl
  obtain rfl : [[['0'], ['0']]] = rowsAbove := Except.ok.inj before
  exact lost

/-- A comment is not put into every table without being noticed. -/
theorem not_ofTable_inserted :
    ¬ ∀ (name : String) (content content' : Bytes) (s t : List Char) (above below : List Csv.Line)
        (line : Csv.Line) (route : Route Float),
      Text.decodeFile content = .ok s → Text.decodeFile content' = .ok t → '"' ∉ s →
      (Csv.lines s).map Csv.Line.body = (above ++ below).map Csv.Line.body →
      Csv.lines t = above ++ line :: below → line.body = [] ∨ isNoted line.body →
      line.body.length < Csv.maxCell → ofTable name content = .ok route →
      ofTable name content' = .ok route := by
  intro always
  have unnoticed := always _ _ _ _ _ _ _ _ _ decodeFile_leg decodeFile_noted (by decide)
    (congrArg _ lines_leg) lines_noted (.inr rfl) (by decide) ofTable_leg
  have lost : (ofTable "r.csv" (ascii notedText)).toOption.map List.length = some 1 := by
    decide +kernel
  rw [unnoticed] at lost
  cases lost

end PathTracking.Route
