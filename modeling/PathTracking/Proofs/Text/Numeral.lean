import Mathlib.Data.List.Basic
import PathTracking.Text.Numeral

/-!
# Numerals of one character

A text of a single character is a numeral exactly if the character is a decimal digit, of whatever
script (`readFloat_singleton`). In ASCII this is a matter of 128 characters; any other digit is
written in ASCII before it is read, and no digit is blank.
-/
namespace PathTracking.Text

/-- A digit is one of the ten behind the zero of its script. -/
theorem digitValue?_eq_some {c : Char} {d : ℕ} (digit : digitValue? c = some d) :
    d < 10 ∧ ∃ first ∈ zeroDigits, c.toNat = first + d := by
  obtain ⟨first, found, rfl⟩ := Option.map_eq_some_iff.mp digit
  have within := List.find?_some found
  simp only [Bool.and_eq_true, decide_eq_true_eq] at within
  exact ⟨by omega, first, List.mem_of_find?_eq_some found, by omega⟩

theorem not_isBlank_of_digit {c : Char} {d : ℕ} (digit : digitValue? c = some d) :
    isBlank c = false := by
  have all : ∀ first ∈ zeroDigits, ∀ d < 10, isBlank (Char.ofNat (first + d)) = false := by
    decide +kernel
  obtain ⟨small, first, script, value⟩ := digitValue?_eq_some digit
  have blank := all first script d small
  rwa [← value, Char.ofNat_toNat] at blank

/-- The number that a digit stands for. -/
def digitNumber? (c : Char) : Option Float := (digitValue? c).map fun d : ℕ => Binary64.ofInt d

theorem readFloat_ascii {n : ℕ} (small : n < 128) :
    readFloat [Char.ofNat n] = digitNumber? (Char.ofNat n) := by
  revert n
  decide +kernel

theorem readFloat_asciiDigit {d : ℕ} (small : d < 10) :
    readFloat [Char.ofNat (48 + d)] = some (Binary64.ofInt d) := by
  revert d
  decide +kernel

/-- Of the texts of one character the digits are the numerals. -/
theorem readFloat_singleton (c : Char) : readFloat [c] = digitNumber? c := by
  by_cases ascii : c.toNat < 128
  · have read := readFloat_ascii ascii
    rwa [Char.ofNat_toNat] at read
  · have written : toAscii [c] =
        if isBlank c then some [' '] else (digitValue? c).map fun d => [Char.ofNat (48 + d)] := by
      have beyond : ¬ c.toNat < 127 := by omega
      simp only [toAscii, List.all_cons, List.all_nil, Bool.and_true, decide_eq_true_eq, ascii,
        beyond, if_false, List.mapM_cons, List.mapM_nil]
      cases isBlank c <;> cases digitValue? c <;> rfl
    cases digit : digitValue? c with
    | none =>
      rw [digitNumber?, digit, readFloat, written, digit]
      cases isBlank c <;> rfl
    | some d =>
      obtain ⟨small, -⟩ := digitValue?_eq_some digit
      have again : toAscii [Char.ofNat (48 + d)] = some [Char.ofNat (48 + d)] := by
        clear digit
        revert d
        decide +kernel
      rw [digitNumber?, digit, Option.map_some, ← readFloat_asciiDigit small, readFloat, readFloat,
        written, again, not_isBlank_of_digit digit, digit]
      rfl

end PathTracking.Text
