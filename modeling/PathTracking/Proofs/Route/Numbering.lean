import PathTracking.Proofs.Csv.Lines
import PathTracking.Proofs.Route.Table

/-!
# The number of a malformed row

A malformed row is reported with its number among the rows that count. Where every line is a row,
this is the number of its line less the lines above that do not count (`malformed_number`).
So it is the number of the line if no line above is empty or a comment, and too small otherwise
(`not_malformed_line`).
-/
namespace PathTracking

namespace Route

open Csv (Row)

theorem Table.length_retained_add (rows : List Row) :
    (retained rows).length + rows.countP isSkipped = rows.length := by
  have both := List.length_eq_countP_add_countP isSkipped (l := rows)
  rw [retained_eq, ← List.countP_eq_length_filter, Nat.add_comm]
  simpa using both.symm

/-- Where no cell goes on in the next line, a malformed row is reported exactly if there is one,
and it is the first one. Its number is the number of its line less the number of the lines above
that are empty or comments. -/
theorem malformed_number {name : String} {content : Bytes} {text : List Char}
    (decoded : Text.decodeFile content = .ok text) (unbroken : Csv.Unbroken text) (n : Nat)
    (row : Row) :
    ofTable name content = .error (.row name n row) ↔
      ∃ above line below rowsAbove rowsBelow,
        Csv.lines text = above ++ line :: below ∧ above.mapM Csv.Line.row = .ok rowsAbove ∧
        line.row = .ok row ∧ below.mapM Csv.Line.row = .ok rowsBelow ∧
        Table.FirstMalformed rowsAbove row rowsBelow ∧
        n + rowsAbove.countP Table.isSkipped = above.length + 1 := by
  rw [ofTable_eq_row_iff decoded, Csv.rows_of_unbroken unbroken]
  constructor
  · rintro ⟨rows, read, malformed⟩
    obtain ⟨rowsAbove, rowsBelow, rfl, first, rfl⟩ := Table.route_eq_error_iff.mp malformed
    obtain ⟨above, line, below, split, before, here, behind⟩ := mapM_eq_ok_split_iff.mp read
    refine ⟨above, line, below, rowsAbove, rowsBelow, split, before, here, behind, first, ?_⟩
    have lengths := length_of_mapM before
    have counted := Table.length_retained_add rowsAbove
    omega
  · rintro ⟨above, line, below, rowsAbove, rowsBelow, split, before, here, behind, first, number⟩
    refine ⟨rowsAbove ++ row :: rowsBelow, ?_, ?_⟩
    · exact mapM_eq_ok_split_iff.mpr ⟨above, line, below, split, before, here, behind⟩
    · refine Table.route_eq_error_iff.mpr ⟨rowsAbove, rowsBelow, rfl, first, ?_⟩
      have lengths := length_of_mapM before
      have counted := Table.length_retained_add rowsAbove
      omega

/-- A table with a comment in its first line and a row that is no waypoint in its third. -/
def surveyText : List Char := "#\n1,2\n3,oops\n".toList

def survey : Bytes := ascii surveyText

theorem decodeFile_survey : Text.decodeFile survey = .ok surveyText := by decide +kernel

theorem unbroken_survey : Csv.Unbroken surveyText := by decide +kernel

theorem lines_survey : Csv.lines surveyText =
    [⟨['#'], ['\n']⟩, ⟨['1', ',', '2'], ['\n']⟩, ⟨['3', ',', 'o', 'o', 'p', 's'], ['\n']⟩] := by
  decide +kernel

theorem malformed_number_survey :
    Text.decodeFile survey = .ok surveyText ∧ Csv.Unbroken surveyText ∧
      ofTable "r.csv" survey = .error (.row "r.csv" 2 [['3'], ['o', 'o', 'p', 's']]) := by
  refine ⟨decodeFile_survey, unbroken_survey, ?_⟩
  refine (malformed_number decodeFile_survey unbroken_survey 2 _).mpr
    ⟨[⟨['#'], ['\n']⟩, ⟨['1', ',', '2'], ['\n']⟩], _, [], [[['#']], [['1'], ['2']]], [],
      lines_survey, by decide +kernel, by decide +kernel, rfl, ?_, by decide +kernel⟩
  exact ⟨by decide +kernel, by decide +kernel, by decide +kernel, by decide +kernel⟩

/-- The number of a malformed row is not always that of its line. -/
theorem not_malformed_line :
    ¬ ∀ (name : String) (content : Bytes) (text : List Char) (n : Nat) (row : Row),
      Text.decodeFile content = .ok text → Csv.Unbroken text →
      ofTable name content = .error (.row name n row) →
      ∃ above line below rowsAbove rowsBelow,
        Csv.lines text = above ++ line :: below ∧ above.mapM Csv.Line.row = .ok rowsAbove ∧
        line.row = .ok row ∧ below.mapM Csv.Line.row = .ok rowsBelow ∧
        Table.FirstMalformed rowsAbove row rowsBelow ∧ n = above.length + 1 := by
  intro always
  have failed : ofTable "r.csv" survey = .error (.row "r.csv" 2 [['3'], ['o', 'o', 'p', 's']]) :=
    rfl
  obtain ⟨above, line, below, _, _, split, -, here, -, -, number⟩ :=
    always _ _ _ _ _ decodeFile_survey unbroken_survey failed
  -- The reported number puts the row on the second line, which holds another row.
  obtain ⟨first, rfl⟩ : ∃ first, above = [first] := List.length_eq_one_iff.mp (by omega)
  rw [lines_survey] at split
  cases split
  revert here
  decide +kernel

end Route
end PathTracking
