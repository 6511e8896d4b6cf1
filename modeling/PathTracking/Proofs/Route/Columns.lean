import Mathlib.Data.List.Nodup
import Mathlib.Logic.Equiv.Fin.Rotate
import PathTracking.Proofs.Route.Table

/-!
# Columns by name

A header says where the columns stand, and the rows below it are read through the places it says.
If the columns of a table change places, and their names with them, each name is found where its
column went (`idxOf?_moved`), so that every row is read as before (`waypoint?_moved`). The names
have to be distinct: of two columns with one name the first counts, and which one that is changes
with the places. Nor can a table have comments, which are told by the first cell.
-/
namespace PathTracking.Route

open Csv

namespace Table

variable {n : ℕ} {σ : Equiv.Perm (Fin n)}

/-- The place to which column `i` goes; only the first `n` columns move. -/
def moved (σ : Equiv.Perm (Fin n)) (i : ℕ) : ℕ := if h : i < n then σ ⟨i, h⟩ else i

/-- Two rows with the same `n` cells, those of the second in the places to which `σ` moves them. -/
structure Rearranged (σ : Equiv.Perm (Fin n)) (row row' : Row) : Prop where
  length : row.length = n
  length' : row'.length = n
  cell : ∀ i : Fin n, row'[(σ i).val]? = row[i.val]?

theorem Rearranged.cell_moved {row row' : Row} (rearranged : Rearranged σ row row') (i : ℕ) :
    row'[moved σ i]? = row[i]? := by
  unfold moved
  split
  next inside => exact rearranged.cell ⟨i, inside⟩
  next outside =>
    have absent : row.length ≤ i := by
      rw [rearranged.length]
      exact Nat.le_of_not_lt outside
    rw [List.getElem?_eq_none absent, List.getElem?_eq_none]
    rw [rearranged.length', ← rearranged.length]
    exact absent

/-! ## Names -/

theorem idxOf?_of_nodup {names : List String} (distinct : names.Nodup) {name : String} {i : ℕ} :
    names.idxOf? name = some i ↔ names[i]? = some name := by
  rw [List.idxOf?_eq_some_iff, List.getElem?_eq_some_iff]
  constructor
  · rintro ⟨inside, here, -⟩
    exact ⟨inside, here⟩
  · rintro ⟨inside, here⟩
    refine ⟨inside, here, fun j before there => ?_⟩
    exact Nat.ne_of_lt before (distinct.getElem_inj_iff.mp (there.trans here.symm))

section Header

variable {header header' : Row} (rearranged : Rearranged σ header header')
  (distinct : (header.map columnName).Nodup)

include rearranged

theorem name_moved (i : ℕ) :
    (header'.map columnName)[moved σ i]? = (header.map columnName)[i]? := by
  rw [List.getElem?_map, List.getElem?_map, rearranged.cell_moved]

/-- Every column of the second header comes from one of the first. -/
theorem moved_surjective {j : ℕ} (inside : j < header'.length) : ∃ i, moved σ i = j := by
  rw [rearranged.length'] at inside
  refine ⟨σ.symm ⟨j, inside⟩, ?_⟩
  rw [moved, dif_pos (σ.symm ⟨j, inside⟩).isLt, Fin.eta, Equiv.apply_symm_apply]

include distinct

/-- A name is found where its column went. -/
theorem idxOf?_moved (name : String) :
    (header'.map columnName).idxOf? name = ((header.map columnName).idxOf? name).map (moved σ) := by
  cases found : (header'.map columnName).idxOf? name with
  | none =>
    have absent := List.idxOf?_eq_none_iff.mp found
    cases there : (header.map columnName).idxOf? name with
    | none => rfl
    | some i =>
      rw [idxOf?_of_nodup distinct, ← name_moved rearranged] at there
      exact absurd (List.mem_of_getElem? there) absent
  | some j =>
    obtain ⟨inside, here, -⟩ := List.idxOf?_eq_some_iff.mp found
    have inside' : j < header'.length := by rwa [List.length_map] at inside
    obtain ⟨i, rfl⟩ := moved_surjective rearranged inside'
    have there : (header.map columnName)[i]? = some name := by
      rw [← name_moved rearranged, List.getElem?_eq_getElem inside, here]
    rw [(idxOf?_of_nodup distinct).mpr there]
    rfl

end Header

/-! ## Rows -/

/-- The columns, each in its new place. -/
def Columns.moved (σ : Equiv.Perm (Fin n)) (c : Columns) : Columns where
  x := Table.moved σ c.x
  y := Table.moved σ c.y
  z := c.z.map (Table.moved σ)
  velocity := c.velocity.map (Table.moved σ)

theorem Columns.ofHeader?_moved {header header' : Row} (rearranged : Rearranged σ header header')
    (distinct : (header.map columnName).Nodup) :
    ofHeader? header' = (ofHeader? header).map (Columns.moved σ) := by
  have found := idxOf?_moved rearranged distinct
  unfold ofHeader?
  dsimp only
  rw [found, found, found, found]
  cases (header.map columnName).idxOf? "x" with
  | none => rfl
  | some x => cases (header.map columnName).idxOf? "y" <;> rfl

theorem Columns.waypoint?_moved {row row' : Row} (rearranged : Rearranged σ row row')
    (c : Columns) : (c.moved σ).waypoint? row' = c.waypoint? row := by
  have cell := rearranged.cell_moved
  have number (i : ℕ) : number row' (Table.moved σ i) = number row i := by
    rw [Table.number, Table.number, cell]
  have optional (i : ℕ) : optionalNumber row' (Table.moved σ i) = optionalNumber row i := by
    rw [optionalNumber, optionalNumber, cell]
  obtain ⟨x, y, z, velocity⟩ := c
  cases z <;> cases velocity <;>
    simp only [waypoint?, Columns.moved, Option.map_none, Option.map_some, number, optional]

/-! ## Tables -/

/-- Rows of the same columns in other places: empty lines have none. -/
def Rearrangement (σ : Equiv.Perm (Fin n)) : List Row → List Row → Prop :=
  List.Forall₂ fun row row' => (row = [] ∧ row' = []) ∨ Rearranged σ row row'

theorem retained_rearranged {rows rows' : List Row} (alike : Rearrangement σ rows rows')
    (plain : ∀ row ∈ rows, isComment row = false) (plain' : ∀ row ∈ rows', isComment row = false) :
    List.Forall₂ (Rearranged σ) (retained rows) (retained rows') := by
  rw [retained_eq, retained_eq]
  induction alike with
  | nil => exact .nil
  | @cons row row' rows rows' same alike ih =>
    rw [List.forall_mem_cons] at plain plain'
    have later := ih plain.2 plain'.2
    -- The first cells are no number signs, so only emptiness counts, which the two rows share.
    rcases same with ⟨rfl, rfl⟩ | rearranged
    · exact later
    · have empty : row.isEmpty = row'.isEmpty := by
        rw [Bool.eq_iff_iff, List.isEmpty_iff_length_eq_zero, List.isEmpty_iff_length_eq_zero,
          rearranged.length, rearranged.length']
      have skipped : isSkipped row = isSkipped row' := by
        rw [isSkipped, isSkipped, plain.1, plain'.1, empty]
      cases counts : isSkipped row with
      | true => simpa [counts, ← skipped] using later
      | false => simpa [counts, ← skipped] using List.Forall₂.cons rearranged later

theorem route_rearranged {rows rows' : List Row} {header : Row}
    (alike : Rearrangement σ rows rows') (plain : ∀ row ∈ rows, isComment row = false)
    (plain' : ∀ row ∈ rows', isComment row = false) (first : (retained rows).head? = some header)
    (named : (Columns.ofHeader? header).isSome) (distinct : (header.map columnName).Nodup)
    (ws : Route Float) : route rows = .ok ws ↔ route rows' = .ok ws := by
  have counting := retained_rearranged alike plain plain'
  obtain ⟨columns, found⟩ := Option.isSome_iff_exists.mp named
  unfold route
  generalize retained rows = left at first counting
  generalize retained rows' = right at counting
  cases counting with
  | nil => cases first
  | cons head rest =>
    cases first
    have found' := Columns.ofHeader?_moved head distinct
    rw [found] at found'
    simp only [found, found', Option.map_some]
    refine waypoints_congr (rest.imp fun row row' rearranged => ?_) ws
    exact (columns.waypoint?_moved rearranged).symm

end Table

/-- If the columns of a table with distinct names change places, the table gives the same route
or, as before, none. -/
theorem ofTable_rearranged {n : ℕ} {σ : Equiv.Perm (Fin n)} {name name' : String}
    {content content' : Bytes} {s t : List Char} {rows rows' : List Row} {header : Row}
    (decoded : Text.decodeFile content = .ok s) (decoded' : Text.decodeFile content' = .ok t)
    (read : Csv.rows s = .ok rows) (read' : Csv.rows t = .ok rows')
    (alike : Table.Rearrangement σ rows rows')
    (plain : ∀ row ∈ rows, Table.isComment row = false)
    (plain' : ∀ row ∈ rows', Table.isComment row = false)
    (first : (Table.retained rows).head? = some header)
    (distinct : (header.map Table.columnName).Nodup)
    (x : "x" ∈ header.map Table.columnName) (y : "y" ∈ header.map Table.columnName)
    (route : Route Float) :
    ofTable name content = .ok route ↔ ofTable name' content' = .ok route := by
  have named := (Table.Columns.isSome_ofHeader?_iff header).mpr ⟨x, y⟩
  have same := Table.route_rearranged alike plain plain' first named distinct route
  rw [ofTable_eq_ok_iff decoded, ofTable_eq_ok_iff decoded', read, read']
  simpa only [Except.ok.injEq, exists_eq_left'] using same

/-- A table with three columns. -/
def climbText : List Char := "x,y,z\n1,2,3\n".toList

/-- The same table with its last column in front. -/
def climbText' : List Char := "z,x,y\n3,1,2\n".toList

theorem ofTable_rearranged_climb :
    Text.decodeFile (ascii climbText) = .ok climbText ∧
      Text.decodeFile (ascii climbText') = .ok climbText' ∧
      Csv.rows climbText = .ok [[['x'], ['y'], ['z']], [['1'], ['2'], ['3']]] ∧
      Csv.rows climbText' = .ok [[['z'], ['x'], ['y']], [['3'], ['1'], ['2']]] ∧
      ofTable "r.csv" (ascii climbText') = .ok [⟨1, 2, 3, none⟩] := by
  have decoded : Text.decodeFile (ascii climbText) = .ok climbText := by decide +kernel
  have decoded' : Text.decodeFile (ascii climbText') = .ok climbText' := by decide +kernel
  have read : Csv.rows climbText = .ok [[['x'], ['y'], ['z']], [['1'], ['2'], ['3']]] := by
    decide +kernel
  have read' : Csv.rows climbText' = .ok [[['z'], ['x'], ['y']], [['3'], ['1'], ['2']]] := by
    decide +kernel
  have alike : Table.Rearrangement (finRotate 3) [[['x'], ['y'], ['z']], [['1'], ['2'], ['3']]]
      [[['z'], ['x'], ['y']], [['3'], ['1'], ['2']]] :=
    .cons (.inr ⟨rfl, rfl, by decide⟩) (.cons (.inr ⟨rfl, rfl, by decide⟩) .nil)
  have original : ofTable "r.csv" (ascii climbText) = .ok [⟨1, 2, 3, none⟩] := rfl
  refine ⟨decoded, decoded', read, read', (Iff.mp ?_ original)⟩
  exact ofTable_rearranged decoded decoded' read read' alike (by decide +kernel)
    (by decide +kernel) rfl (by decide +kernel) (by decide +kernel) (by decide +kernel) _

end PathTracking.Route
