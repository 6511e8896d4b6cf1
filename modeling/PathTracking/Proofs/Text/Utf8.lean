import PathTracking.Proofs.Failure
import PathTracking.Text.Utf8

/-!
# UTF-8 in blocks

Where a character ends depends on its own bytes alone (`utf8Step_append`). So a file that is read in
blocks, an unfinished character of each being carried into the next, gives the characters that its
bytes are as a whole (`decodeFile_eq_ok_iff`), and what is put in front of it only adds characters
in front (`decodeFile_append`).
-/
namespace PathTracking.Text

/-- The bytes at the front of a list that are characters, and what is left behind them. -/
inductive Decodes : List UInt8 → List Char → List UInt8 → Prop
  | stop (bytes : List UInt8) : Decodes bytes [] bytes
  | char {bytes : List UInt8} {c : Char} {n : Nat} {text : List Char} {left : List UInt8}
      (step : utf8Step bytes = .char c n) (later : Decodes (bytes.drop n) text left) :
      Decodes bytes (c :: text) left

/-! ## Single characters -/

/-- More bytes matter only to a character that is not finished. -/
theorem utf8Step_append {bytes : List UInt8} (settled : utf8Step bytes ≠ .cut)
    (more : List UInt8) : utf8Step (bytes ++ more) = utf8Step bytes := by
  rcases bytes with _ | ⟨a, _ | ⟨b, _ | ⟨c, _ | ⟨d, rest⟩⟩⟩⟩
  · exact absurd rfl settled
  all_goals
    revert settled
    simp only [utf8Step, List.cons_append, List.nil_append]
    generalize sequenceLength a = k
    rcases k with _ | _ | k <;> grind

/-- A character has a byte, and no more than there are. -/
theorem length_of_utf8Step {bytes : List UInt8} {c : Char} {n : Nat}
    (step : utf8Step bytes = .char c n) : 0 < n ∧ n ≤ bytes.length := by
  revert step
  rcases bytes with _ | ⟨a, _ | ⟨b, _ | ⟨c, _ | ⟨d, rest⟩⟩⟩⟩
  · nofun
  all_goals
    simp only [utf8Step]
    generalize sequenceLength a = k
    rcases k with _ | _ | k <;> grind

/-! ## Sequences of characters -/

namespace Decodes

variable {bytes middle left : List UInt8} {text more whole : List Char}

/-- Characters stay characters when bytes follow. -/
theorem append (decodes : Decodes bytes text left) (rest : List UInt8) :
    Decodes (bytes ++ rest) text (left ++ rest) := by
  induction decodes with
  | stop bytes => exact .stop _
  | @char bytes c n text left step later ih =>
    obtain ⟨-, inside⟩ := length_of_utf8Step step
    have settled : utf8Step bytes ≠ .cut := by
      rw [step]
      nofun
    refine .char ((utf8Step_append settled rest).trans step) ?_
    rw [List.drop_append_of_le_length inside]
    exact ih

theorem trans (first : Decodes bytes text middle) (second : Decodes middle more left) :
    Decodes bytes (text ++ more) left := by
  induction first with
  | stop bytes => exact second
  | char step later ih => exact .char step (ih second)

/-- Characters at the front are the first ones of the whole. -/
theorem split (all : Decodes bytes whole []) (decodes : Decodes bytes text left) :
    ∃ more, whole = text ++ more ∧ Decodes left more [] := by
  induction decodes generalizing whole with
  | stop bytes => exact ⟨whole, rfl, all⟩
  | char step later ih =>
    cases all with
    | stop => cases step
    | char step' later' =>
      obtain ⟨rfl, rfl⟩ := Utf8Step.char.inj (step.symm.trans step')
      obtain ⟨more, rfl, rest⟩ := ih later'
      exact ⟨more, rfl, rest⟩

end Decodes

/-! ## Blocks -/

/-- A block is read up to its end, an unfinished character or a fault. -/
theorem decodeBlock_cases (fuel position : Nat) (acc : List Char) (bytes : List UInt8)
    (enough : bytes.length ≤ fuel) :
    ∃ text left, Decodes bytes text left ∧
      ((utf8Step left = .cut ∧
          decodeBlock fuel position acc bytes = .ok (text.reverse ++ acc, left)) ∨
        ∃ n cause fault, utf8Step left = .fault n cause ∧
          decodeBlock fuel position acc bytes = .error fault) := by
  induction fuel generalizing position acc bytes with
  | zero =>
    obtain rfl := List.eq_nil_of_length_eq_zero (Nat.le_zero.mp enough)
    exact ⟨[], [], .stop [], .inl ⟨rfl, rfl⟩⟩
  | succ fuel ih =>
    cases bytes with
    | nil => exact ⟨[], [], .stop [], .inl ⟨rfl, rfl⟩⟩
    | cons b rest =>
      simp only [decodeBlock]
      cases step : utf8Step (b :: rest) with
      | cut => exact ⟨[], b :: rest, .stop _, .inl ⟨step, rfl⟩⟩
      | fault n cause => exact ⟨[], b :: rest, .stop _, .inr ⟨n, cause, _, step, rfl⟩⟩
      | char c n =>
        obtain ⟨positive, -⟩ := length_of_utf8Step step
        have enough' : ((b :: rest).drop n).length ≤ fuel := by
          rw [List.length_drop]
          omega
        obtain ⟨text, left, decodes, ends⟩ := ih (position + n) (c :: acc) _ enough'
        refine ⟨c :: text, left, .char step decodes, ?_⟩
        rw [List.reverse_cons, List.append_assoc]
        exact ends

/-- Blocks give the characters of all their bytes, behind those there already are. -/
theorem decodeBlocks_eq_ok_iff {size fuel : Nat} (positive : 0 < size) {acc result : List Char}
    {carried bytes : List UInt8} (unfinished : utf8Step carried = .cut)
    (enough : bytes.length < fuel) :
    decodeBlocks size fuel acc carried bytes = .ok result ↔
      ∃ text, result = acc.reverse ++ text ∧ Decodes (carried ++ bytes) text [] := by
  induction fuel generalizing acc carried bytes with
  | zero => omega
  | succ fuel ih =>
    cases bytes with
    | nil =>
      rw [List.append_nil]
      cases carried with
      | nil =>
        simp only [decodeBlocks, Except.ok.injEq]
        constructor
        · rintro rfl
          exact ⟨[], (List.append_nil _).symm, .stop []⟩
        · rintro ⟨text, rfl, decodes⟩
          cases decodes with
          | stop => exact (List.append_nil _).symm
          | char step => cases step
      | cons b rest =>
        refine iff_of_false nofun ?_
        rintro ⟨text, -, decodes⟩
        cases decodes with
        | char step => rw [unfinished] at step; cases step
    | cons b rest =>
      -- What is carried and the next block stand in front of the rest of the file.
      have whole : carried ++ b :: rest =
          (carried ++ (b :: rest).take size) ++ (b :: rest).drop size := by
        rw [List.append_assoc, List.take_append_drop]
      have enough' : ((b :: rest).drop size).length < fuel := by
        rw [List.length_cons] at enough
        rw [List.length_drop, List.length_cons]
        omega
      rw [decodeBlocks, whole]
      obtain ⟨front, left, decodes, ⟨cut, read⟩ | ⟨n, cause, fault, faulty, read⟩⟩ :=
        decodeBlock_cases _ 0 acc (carried ++ (b :: rest).take size) (Nat.le_refl _)
      · simp only [read, ih cut enough']
        have joined := decodes.append ((b :: rest).drop size)
        constructor
        · rintro ⟨text, rfl, later⟩
          exact ⟨front ++ text, by simp, joined.trans later⟩
        · rintro ⟨text, rfl, all⟩
          obtain ⟨more, rfl, later⟩ := all.split joined
          exact ⟨more, by simp, later⟩
      · simp only [read]
        refine iff_of_false nofun ?_
        rintro ⟨text, -, all⟩
        obtain ⟨more, -, later⟩ := all.split (decodes.append ((b :: rest).drop size))
        -- The fault is still there with all that follows.
        have settled : utf8Step left ≠ .cut := by
          rw [faulty]
          nofun
        have faulty' := (utf8Step_append settled ((b :: rest).drop size)).trans faulty
        generalize left ++ (b :: rest).drop size = behind at later faulty'
        cases later with
        | stop => cases faulty'
        | char step => rw [faulty'] at step; cases step

/-- A file is read if its bytes are characters from first to last. -/
theorem decodeFile_eq_ok_iff {bytes : List UInt8} {text : List Char} :
    decodeFile bytes = .ok text ↔ Decodes bytes text [] := by
  rw [decodeFile, mapError_eq_ok_iff, readBlocks,
    decodeBlocks_eq_ok_iff (by decide) rfl (Nat.lt_succ_self _)]
  simp

/-- What is put in front of a file adds characters in front. -/
theorem decodeFile_append {front bytes : List UInt8} {start text : List Char}
    (first : decodeFile front = .ok start) (second : decodeFile bytes = .ok text) :
    decodeFile (front ++ bytes) = .ok (start ++ text) := by
  rw [decodeFile_eq_ok_iff] at first second ⊢
  exact (first.append bytes).trans second

end PathTracking.Text
