import Mathlib.Data.List.Basic
import PathTracking.Proofs.Failure
import PathTracking.Route.Load

/-!
# Rows of a table

A table is read in three steps that do not depend on each other: rows are skipped by what they
hold, the first row left decides how rows are read (`reader`), and the rows of waypoints are read
in order (`route_eq`). So skipped rows can come and go (`route_skip`), rows at the end only add
waypoints (`route_take`), and a failure is that of the first row that cannot be read, with its
number among the rows left (`route_eq_error_iff`).
-/
namespace PathTracking.Route

open Csv

namespace Table

/-! ## Rows in order -/

section Rows

variable {read : Row → Option (Waypoint Float)}

/-- Rows below add waypoints at the end only. -/
theorem waypoints_take {n : Nat} {above below : List Row} {ws : Route Float}
    (loaded : waypoints read n (above ++ below) = .ok ws) :
    waypoints read n above = .ok (ws.take above.length) := by
  induction above generalizing n ws with
  | nil => rfl
  | cons row above ih =>
    rw [List.cons_append, waypoints] at loaded
    rw [waypoints]
    split at loaded
    next => cases loaded
    next w found =>
      obtain ⟨rest, below, rfl⟩ := map_eq_ok_iff.mp loaded
      rw [ih below]
      rfl

/-- Reading stops at the first row that cannot be read. -/
theorem waypoints_eq_error_iff {n k : Nat} {rows : List Row} {row : Row} :
    waypoints read n rows = .error ⟨k, row⟩ ↔
      ∃ above below, rows = above ++ row :: below ∧ (∀ r ∈ above, (read r).isSome) ∧
        read row = none ∧ k = n + above.length := by
  induction rows generalizing n with
  | nil => simp [waypoints]
  | cons first rows ih =>
    rw [waypoints]
    constructor
    · intro failed
      split at failed
      next found =>
        cases failed
        exact ⟨[], rows, rfl, List.forall_mem_nil _, found, rfl⟩
      next w found =>
        rw [map_eq_error_iff, ih] at failed
        obtain ⟨above, below, rfl, readable, unreadable, rfl⟩ := failed
        refine ⟨first :: above, below, rfl, ?_, unreadable, ?_⟩
        · exact List.forall_mem_cons.mpr ⟨by rw [found]; rfl, readable⟩
        · rw [List.length_cons]
          omega
    · rintro ⟨above, below, split, readable, unreadable, rfl⟩
      cases above with
      | nil =>
        obtain ⟨rfl, rfl⟩ := List.cons.inj split
        rw [unreadable]
        rfl
      | cons r above =>
        obtain ⟨rfl, rfl⟩ := List.cons.inj split
        obtain ⟨readable, rest⟩ := List.forall_mem_cons.mp readable
        obtain ⟨w, found⟩ := Option.isSome_iff_exists.mp readable
        rw [found]
        refine map_eq_error_iff.mpr (ih.mpr ⟨above, below, rfl, rest, unreadable, ?_⟩)
        rw [List.length_cons]
        omega

/-- Readers that agree row by row give the same waypoints, however the rows are numbered. -/
theorem waypoints_congr {read' : Row → Option (Waypoint Float)} {m k : ℕ} {rows rows' : List Row}
    (agree : List.Forall₂ (fun row row' => read row = read' row') rows rows') (ws : Route Float) :
    waypoints read m rows = .ok ws ↔ waypoints read' k rows' = .ok ws := by
  induction agree generalizing m k ws with
  | nil => exact Iff.rfl
  | cons same _ ih =>
    rw [waypoints, waypoints, same]
    split
    · exact iff_of_false nofun nofun
    · simp only [map_eq_ok_iff, ih (m := m + 1) (k := k + 1)]

end Rows

/-! ## Tables -/

/-- Where the columns stand is found exactly if the names of both coordinates are there. -/
theorem Columns.isSome_ofHeader?_iff (row : Row) :
    (ofHeader? row).isSome ↔ "x" ∈ row.map columnName ∧ "y" ∈ row.map columnName := by
  rw [← List.isSome_idxOf?, ← List.isSome_idxOf?, ofHeader?]
  cases (row.map columnName).idxOf? "x" with
  | none => simp
  | some x => cases (row.map columnName).idxOf? "y" <;> simp

/-- Whether a row does not count: it is empty or a comment. -/
def isSkipped (row : Row) : Bool := row.isEmpty || isComment row

theorem retained_eq (rows : List Row) : retained rows = rows.filter fun row => !isSkipped row := by
  simp only [retained, isSkipped, Bool.not_or]

/-- The columns of a table that has a header. -/
def columns? (rows : List Row) : Option Columns := (retained rows).head?.bind Columns.ofHeader?

/-- How the rows of waypoints are read. -/
def reader (rows : List Row) : Row → Option (Waypoint Float) :=
  (columns? rows).elim bareWaypoint? Columns.waypoint?

/-- The number of rows above the rows of waypoints: one if there is a header. -/
def headed (rows : List Row) : Nat := if (columns? rows).isSome then 1 else 0

/-- The rows of waypoints. -/
def data (rows : List Row) : List Row := (retained rows).drop (headed rows)

theorem route_eq (rows : List Row) :
    route rows = waypoints (reader rows) (headed rows + 1) (data rows) := by
  unfold route data headed reader columns?
  cases retained rows with
  | nil => rfl
  | cons first rest =>
    rw [List.head?_cons, Option.bind_some]
    cases header : Columns.ofHeader? first <;> simp only [header] <;> rfl

theorem headed_le (rows : List Row) : headed rows ≤ (retained rows).length := by
  unfold headed columns?
  cases retained rows with
  | nil => decide
  | cons first rest =>
    split
    · exact Nat.succ_le_succ (Nat.zero_le _)
    · exact Nat.zero_le _

theorem length_retained (rows : List Row) :
    (retained rows).length = headed rows + (data rows).length := by
  rw [data, List.length_drop, Nat.add_sub_cancel' (headed_le rows)]

section Append

variable (above below : List Row)

theorem retained_append : retained (above ++ below) = retained above ++ retained below :=
  List.filter_append ..

theorem columns?_append (some : retained above ≠ []) :
    columns? (above ++ below) = columns? above := by
  rw [columns?, columns?, retained_append, List.head?_append_of_ne_nil _ some]

theorem headed_append (some : retained above ≠ []) : headed (above ++ below) = headed above := by
  rw [headed, headed, columns?_append above below some]

theorem data_append (some : retained above ≠ []) :
    data (above ++ below) = data above ++ retained below := by
  rw [data, data, retained_append, headed_append above below some,
    List.drop_append_of_le_length (headed_le above)]

theorem reader_append (some : retained above ≠ []) : reader (above ++ below) = reader above := by
  rw [reader, reader, columns?_append above below some]

end Append

/-- Rows that do not count can come and go. -/
theorem route_skip {above below : List Row} {row : Row} (skipped : isSkipped row = true) :
    route (above ++ row :: below) = route (above ++ below) := by
  have same : retained (above ++ row :: below) = retained (above ++ below) := by
    simp [retained_eq, skipped]
  unfold route
  rw [same]

/-- Rows below add waypoints at the end only. -/
theorem route_take {above below : List Row} {ws : Route Float}
    (loaded : route (above ++ below) = .ok ws) :
    route above = .ok (ws.take (data above).length) := by
  by_cases none : retained above = []
  · have empty : data above = [] := by rw [data, none, List.drop_nil]
    rw [route_eq, empty]
    rfl
  · rw [route_eq, reader_append _ _ none, headed_append _ _ none, data_append _ _ none] at loaded
    rw [route_eq]
    exact waypoints_take loaded

/-! ## The first malformed row -/

/-- A row of a waypoint that cannot be read, the first one of its table. -/
structure FirstMalformed (above : List Row) (row : Row) (below : List Row) : Prop where
  /-- The row counts. -/
  counts : isSkipped row = false
  /-- Nor is it the header, which only the first row that counts can be. -/
  notHeader : retained above = [] → Columns.ofHeader? row = none
  unreadable : reader (above ++ row :: below) row = none
  readable : ∀ r ∈ data above, (reader (above ++ row :: below) r).isSome

section Split

variable {above below : List Row} {row : Row} (counts : isSkipped row = false)

include counts in
theorem retained_cons : retained (row :: below) = row :: retained below := by
  rw [retained_eq, retained_eq, List.filter_cons_of_pos (by rw [counts]; rfl)]

variable (below) in
include counts in
/-- A row of a waypoint stands among the rows of waypoints. -/
theorem data_split (notHeader : retained above = [] → Columns.ofHeader? row = none) :
    headed (above ++ row :: below) = headed above ∧
      data (above ++ row :: below) = data above ++ row :: retained below := by
  by_cases none : retained above = []
  · have all : retained (above ++ row :: below) = row :: retained below := by
      rw [retained_append, none, retained_cons counts, List.nil_append]
    have headless : headed (above ++ row :: below) = 0 := by
      rw [headed, columns?, all, List.head?_cons, Option.bind_some, notHeader none]
      rfl
    have headless' : headed above = 0 := by
      rw [headed, columns?, none]
      rfl
    refine ⟨headless.trans headless'.symm, ?_⟩
    rw [data, data, headless, all, none, List.drop_nil]
    rfl
  · exact ⟨headed_append above _ none, by rw [data_append above _ none, retained_cons counts]⟩

/-- A row that is retained stands in the table with what is retained above it. -/
theorem split_of_retained {rows good rest : List Row} (split : retained rows = good ++ row :: rest) :
    ∃ above below, rows = above ++ row :: below ∧ isSkipped row = false ∧
      retained above = good := by
  rw [retained_eq] at split
  obtain ⟨first, second, rfl, kept, split⟩ := List.filter_eq_append_iff.mp split
  obtain ⟨gap, below, rfl, skipped, counts, -⟩ := List.filter_eq_cons_iff.mp split
  refine ⟨first ++ gap, below, (List.append_assoc ..).symm, by simpa using counts, ?_⟩
  have none : gap.filter (fun row => !isSkipped row) = [] := List.filter_eq_nil_iff.mpr skipped
  rw [retained_eq, List.filter_append, kept, none, List.append_nil]

/-- A row among the rows of waypoints stands in the table with the rows of waypoints above it. -/
theorem split_of_data {rows good rest : List Row} (split : data rows = good ++ row :: rest) :
    ∃ above below, rows = above ++ row :: below ∧ isSkipped row = false ∧
      (retained above = [] → Columns.ofHeader? row = none) ∧ data above = good := by
  have all : retained rows = ((retained rows).take (headed rows) ++ good) ++ row :: rest := by
    rw [List.append_assoc, ← split, data, List.take_append_drop]
  obtain ⟨above, below, rfl, counts, kept⟩ := split_of_retained all
  have notHeader : retained above = [] → Columns.ofHeader? row = none := by
    intro empty
    have first : retained (above ++ row :: below) = row :: retained below := by
      rw [retained_append, empty, retained_cons counts, List.nil_append]
    -- With nothing retained above there is no header above, and the row is not one itself.
    rw [empty, first] at kept
    obtain ⟨nothing, -⟩ := List.append_eq_nil_iff.mp kept.symm
    have headless : headed (above ++ row :: below) = 0 :=
      (List.take_eq_nil_iff.mp nothing).resolve_right (List.cons_ne_nil _ _)
    rw [headed, columns?, first, List.head?_cons, Option.bind_some] at headless
    simpa using headless
  -- The header, if there is one, stands above the row, so it is dropped above the row as well.
  refine ⟨above, below, rfl, counts, notHeader, ?_⟩
  rw [data, kept, ← (data_split below counts notHeader).1, List.drop_left']
  rw [List.length_take, Nat.min_eq_left (headed_le _)]

end Split

/-- A table fails for its first malformed row, with the number that this row has among the rows
that count. -/
theorem route_eq_error_iff {rows : List Row} {n : Nat} {row : Row} :
    route rows = .error ⟨n, row⟩ ↔
      ∃ above below, rows = above ++ row :: below ∧ FirstMalformed above row below ∧
        n = (retained above).length + 1 := by
  rw [route_eq, waypoints_eq_error_iff]
  constructor
  · rintro ⟨good, rest, split, readable, unreadable, rfl⟩
    obtain ⟨above, below, rfl, counts, notHeader, rfl⟩ := split_of_data split
    refine ⟨above, below, rfl, ⟨counts, notHeader, unreadable, readable⟩, ?_⟩
    rw [(data_split below counts notHeader).1, length_retained]
    omega
  · rintro ⟨above, below, rfl, first, rfl⟩
    obtain ⟨headed, split⟩ := data_split below first.counts first.notHeader
    refine ⟨_, _, split, first.readable, first.unreadable, ?_⟩
    rw [headed, length_retained]
    omega

end Table

/-! ## Files -/

/-- The content of a file with an ASCII text. -/
def ascii (text : List Char) : Bytes := text.map fun c => c.toNat.toUInt8

theorem ofTable_of_decoded (name : String) {content : Bytes} {text : List Char}
    (decoded : Text.decodeFile content = .ok text) :
    ofTable name content =
      (Csv.rows text).mapError .rows >>= fun rows =>
        (Table.route rows).mapError fun fault => .row name fault.number fault.row := by
  rw [ofTable, decoded]

theorem ofTable_eq_row_iff {name : String} {content : Bytes} {text : List Char} {n : Nat}
    {row : Row} (decoded : Text.decodeFile content = .ok text) :
    ofTable name content = .error (.row name n row) ↔
      ∃ rows, Csv.rows text = .ok rows ∧ Table.route rows = .error ⟨n, row⟩ := by
  simp only [ofTable_of_decoded name decoded, bind_eq_error_iff, mapError_eq_error_iff,
    mapError_eq_ok_iff]
  constructor
  · rintro (⟨fault, -, ⟨⟩⟩ | ⟨rows, read, fault, malformed, ⟨⟩⟩)
    exact ⟨rows, read, malformed⟩
  · rintro ⟨rows, read, malformed⟩
    exact .inr ⟨rows, read, _, malformed, rfl⟩

theorem ofTable_eq_ok_iff {name : String} {content : Bytes} {text : List Char}
    {route : Route Float} (decoded : Text.decodeFile content = .ok text) :
    ofTable name content = .ok route ↔
      ∃ rows, Csv.rows text = .ok rows ∧ Table.route rows = .ok route := by
  simp only [ofTable_of_decoded name decoded, bind_eq_ok_iff, mapError_eq_ok_iff]

end PathTracking.Route
