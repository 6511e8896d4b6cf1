import PathTracking.Proofs.Csv.Lines
import PathTracking.Proofs.Route.Table
import PathTracking.Proofs.Text.Utf8

/-!
# Tables with and without a header

A row of a table without header is read as if its columns were named `x`, `y` and `z`, as long as it
has a cell for each name (`usual_waypoint?`). So a header that says so can be put in front of a
table that has none: the route stays the same, and so does the row that is reported as malformed,
its number being one higher (`ofTable_headed`).
-/
namespace PathTracking.Route

open Csv (Row)

namespace Table

/-- The columns of a table without header. -/
def usual : Columns := ⟨0, 1, some 2, none⟩

/-- The header that names them. -/
def heading : Row := [['x'], ['y'], ['z']]

theorem ofHeader?_heading : Columns.ofHeader? heading = some usual := by decide +kernel

theorem usual_waypoint? {row : Row} (wide : 3 ≤ row.length) :
    usual.waypoint? row = bareWaypoint? row := by
  have third : row.length > 2 := wide
  rw [bareWaypoint?, if_pos third]
  rfl

/-- Counting from one more, a malformed row has a number that is one higher. -/
theorem waypoints_succ {read read' : Row → Option (Waypoint Float)} {n : ℕ} {rows : List Row}
    (agree : ∀ row ∈ rows, read' row = read row) :
    waypoints read' (n + 1) rows =
      (waypoints read n rows).mapError fun m => ⟨m.number + 1, m.row⟩ := by
  induction rows generalizing n with
  | nil => rfl
  | cons row rows ih =>
    obtain ⟨here, later⟩ := List.forall_mem_cons.mp agree
    rw [waypoints, waypoints, here]
    cases read row with
    | none => rfl
    | some w =>
      dsimp only
      rw [ih later]
      cases waypoints read (n + 1) rows <;> rfl

section Headed

variable {rows : List Row} (wide : ∀ row ∈ retained rows, 3 ≤ row.length)
  (headless : ∀ first ∈ (retained rows).head?,
    ¬ ("x" ∈ first.map columnName ∧ "y" ∈ first.map columnName))

include headless in
theorem columns?_of_headless : columns? rows = none := by
  rw [columns?, Option.bind_eq_none_iff]
  intro first member
  rw [← Option.not_isSome_iff_eq_none, Columns.isSome_ofHeader?_iff]
  exact headless first member

include wide headless in
/-- With the usual header above it a table gives the same route, or reports the same row. -/
theorem route_headed :
    route (heading :: rows) = (route rows).mapError fun m => ⟨m.number + 1, m.row⟩ := by
  have bare := columns?_of_headless headless
  have all : retained (heading :: rows) = heading :: retained rows :=
    retained_cons (by decide)
  have named : columns? (heading :: rows) = some usual := by
    rw [columns?, all, List.head?_cons, Option.bind_some, ofHeader?_heading]
  rw [route_eq, route_eq, reader, reader, data, data, headed, headed, named, bare, all]
  exact waypoints_succ fun row member => usual_waypoint? (wide row member)

end Headed

end Table

/-! ## Files -/

theorem decodeFile_ascii {text : List Char} (small : ∀ c ∈ text, c.toNat < 128) :
    Text.decodeFile (ascii text) = .ok text := by
  rw [Text.decodeFile_eq_ok_iff]
  induction text with
  | nil => exact .stop []
  | cons c text ih =>
    obtain ⟨here, later⟩ := List.forall_mem_cons.mp small
    have byte : c.toNat.toUInt8.toNat = c.toNat := by
      rw [Nat.toUInt8, UInt8.toNat_ofNat']
      omega
    have step : Text.utf8Step (c.toNat.toUInt8 :: ascii text) = .char c 1 := by
      have alone : Text.sequenceLength c.toNat.toUInt8 = 1 := by
        rw [Text.sequenceLength, if_pos]
        rw [UInt8.lt_iff_toNat_lt, byte]
        exact here
      rw [Text.utf8Step, byte, Char.ofNat_toNat]
      exact alone
    exact .char step (ih later)

/-- The line that names the columns of a table without header. -/
def headingLine : List Char := ['x', ',', 'y', ',', 'z']

/-- In a table without header every row that counts has a cell for each coordinate. If a header that
names the coordinates is put in front of it, the route stays the same; or the same row is reported,
the first one that is malformed, with a number that is one higher. -/
theorem ofTable_headed {name : String} {content : Bytes} {text ending : List Char}
    {rows : List Row} (decoded : Text.decodeFile content = .ok text)
    (read : Csv.rows text = .ok rows) (ends : ending ∈ [['\n'], ['\r'], ['\r', '\n']])
    (wide : ∀ row ∈ Table.retained rows, 3 ≤ row.length)
    (headless : ∀ first ∈ (Table.retained rows).head?,
      ¬ ("x" ∈ first.map Table.columnName ∧ "y" ∈ first.map Table.columnName)) :
    (∃ route, ofTable name content = .ok route ∧
      ofTable name (ascii (headingLine ++ ending) ++ content) = .ok route) ∨
    ∃ above row below, rows = above ++ row :: below ∧ Table.FirstMalformed above row below ∧
      ofTable name content = .error (.row name ((Table.retained above).length + 1) row) ∧
      ofTable name (ascii (headingLine ++ ending) ++ content) =
        .error (.row name ((Table.retained above).length + 2) row) := by
  have inside : ∀ c ∈ headingLine, c ≠ '\n' ∧ c ≠ '\r' := by simp [headingLine]
  have closed : Csv.opens headingLine = false := by decide +kernel
  have single : Csv.readRow headingLine = .ok Table.heading := by decide +kernel
  obtain ⟨rows', read', same⟩ := Csv.rows_append inside ends closed single read
  have small : ∀ ending ∈ [['\n'], ['\r'], ['\r', '\n']], ∀ c ∈ headingLine ++ ending,
      c.toNat < 128 := by simp [headingLine]
  have decoded' : Text.decodeFile (ascii (headingLine ++ ending) ++ content) =
      .ok (headingLine ++ (ending ++ text)) := by
    rw [← List.append_assoc]
    exact Text.decodeFile_append (decodeFile_ascii (small ending ends)) decoded
  -- An empty row that is lost makes no difference.
  have headed : Table.route (Table.heading :: rows') = Table.route (Table.heading :: rows) := by
    rcases same with rfl | rfl
    · rfl
    · show Table.route ([Table.heading] ++ rows') = Table.route ([Table.heading] ++ [] :: rows')
      rw [Table.route_skip rfl]
  have routed : ofTable name content =
      (Table.route rows).mapError fun m => .row name m.number m.row := by
    rw [ofTable_of_decoded name decoded, read]
    rfl
  have routed' : ofTable name (ascii (headingLine ++ ending) ++ content) =
      (Table.route rows).mapError fun m => .row name (m.number + 1) m.row := by
    rw [ofTable_of_decoded name decoded', read']
    show (Table.route (Table.heading :: rows')).mapError _ = _
    rw [headed, Table.route_headed wide headless]
    cases Table.route rows <;> rfl
  cases result : Table.route rows with
  | ok route => exact .inl ⟨route, by rw [routed, result]; rfl, by rw [routed', result]; rfl⟩
  | error m =>
    obtain ⟨above, below, split, first, number⟩ := Table.route_eq_error_iff.mp result
    refine .inr ⟨above, m.row, below, split, first, ?_, ?_⟩
    · rw [routed, result, ← number]
      rfl
    · rw [routed', result, ← Nat.add_assoc _ 1 1, ← number]
      rfl

/-- A table without header that has a comment, a blank height, an empty line and a malformed row. -/
def gapText : List Char := "#\n1,2, \n\n3,oops,5\n".toList

theorem ofTable_headed_gap :
    Text.decodeFile (ascii gapText) = .ok gapText ∧
      ofTable "r.csv" (ascii gapText) =
        .error (.row "r.csv" 2 [['3'], ['o', 'o', 'p', 's'], ['5']]) ∧
      ofTable "r.csv" (ascii (headingLine ++ ['\n']) ++ ascii gapText) =
        .error (.row "r.csv" 3 [['3'], ['o', 'o', 'p', 's'], ['5']]) := by
  have decoded : Text.decodeFile (ascii gapText) = .ok gapText := by decide +kernel
  have read : Csv.rows gapText =
      .ok [[['#']], [['1'], ['2'], [' ']], [], [['3'], ['o', 'o', 'p', 's'], ['5']]] := by
    decide +kernel
  have failed : ofTable "r.csv" (ascii gapText) =
      .error (.row "r.csv" 2 [['3'], ['o', 'o', 'p', 's'], ['5']]) := rfl
  have ends : ['\n'] ∈ [['\n'], ['\r'], ['\r', '\n']] := by decide
  refine ⟨decoded, failed, ?_⟩
  obtain ⟨route, loaded, -⟩ | ⟨above, row, below, -, -, reported, reported'⟩ :=
    ofTable_headed decoded read ends (by decide +kernel) (by decide +kernel)
  · rw [failed] at loaded
    cases loaded
  · rw [failed] at reported
    injection reported with reported
    injection reported with _ number same
    rw [reported', ← same, ← Nat.add_assoc _ 1 1, ← number]

end PathTracking.Route
