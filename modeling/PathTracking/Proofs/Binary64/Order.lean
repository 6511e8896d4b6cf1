import PathTracking.Proofs.Binary64.Distance

/-!
# The order of binary64 numbers

Numbers compare as their places in a linear order: first the class by sign and size, then
exponent and mantissa, which count backwards below zero (`lt_iff_place`). A NaN is on neither
side of a comparison, so that a comparison carries over to a third number only if it is one
(`lt_of_not_lt_of_lt`).
-/
namespace PathTracking.Binary64

open Float.Model (UnpackedFloat)

/-- Where a number stands among the numbers. The place of a NaN is never looked at. -/
def place : UnpackedFloat → ℤ ×ₗ ℤ ×ₗ ℤ
  | .notANumber => toLex (0, toLex (0, 0))
  | .infinity .negative => toLex (-2, toLex (0, 0))
  | .finite .negative m e _ => toLex (-1, toLex (-e, -(m : ℤ)))
  | .zero _ => toLex (0, toLex (0, 0))
  | .finite .positive m e _ => toLex (1, toLex (e, (m : ℤ)))
  | .infinity .positive => toLex (2, toLex (0, 0))

theorem place_lt_iff (a b c a' b' c' : ℤ) :
    (toLex (a, toLex (b, c)) : ℤ ×ₗ ℤ ×ₗ ℤ) < toLex (a', toLex (b', c')) ↔
      a < a' ∨ a = a' ∧ (b < b' ∨ b = b' ∧ c < c') := by
  rw [Prod.Lex.toLex_lt_toLex, Prod.Lex.toLex_lt_toLex]

/-- Mantissas decide between equal exponents. -/
theorem then_eq_lt_iff (e f : ℤ) (m n : ℕ) :
    (compare e f).then (compare m n) = .lt ↔ e < f ∨ e = f ∧ m < n := by
  rw [Ordering.then_eq_lt, Int.compare_eq_lt, compare_eq_iff_eq, Nat.compare_eq_lt]

theorem then_eq_gt_iff (e f : ℤ) (m n : ℕ) :
    (compare e f).then (compare m n) = .gt ↔ f < e ∨ e = f ∧ n < m := by
  rw [Ordering.then_eq_gt, Int.compare_eq_gt, compare_eq_iff_eq, Nat.compare_eq_gt]

theorem compare_eq_lt_iff_place (u v : UnpackedFloat) :
    u.compare v = some .lt ↔ u.isNaN = false ∧ v.isNaN = false ∧ place u < place v := by
  cases u with
  | notANumber => cases v <;> simp [UnpackedFloat.compare, UnpackedFloat.isNaN]
  | infinity s =>
    cases v with
    | infinity t =>
      cases s <;> cases t <;>
        simp [UnpackedFloat.compare, UnpackedFloat.isNaN, place, place_lt_iff]
      rfl
    | finite t =>
      cases s <;> cases t <;>
        simp [UnpackedFloat.compare, UnpackedFloat.isNaN, place, place_lt_iff]
    | _ => cases s <;> simp [UnpackedFloat.compare, UnpackedFloat.isNaN, place, place_lt_iff]
  | zero s =>
    cases v with
    | infinity t | finite t =>
      cases t <;> simp [UnpackedFloat.compare, UnpackedFloat.isNaN, place, place_lt_iff]
    | _ => simp [UnpackedFloat.compare, UnpackedFloat.isNaN, place]
  | finite s =>
    cases v with
    | infinity t =>
      cases s <;> cases t <;>
        simp [UnpackedFloat.compare, UnpackedFloat.isNaN, place, place_lt_iff]
    | finite t =>
      -- Of one sign, exponent and mantissa decide, the other way round below zero.
      cases s <;> cases t <;>
        simp [UnpackedFloat.compare, UnpackedFloat.isNaN, place, place_lt_iff, then_eq_lt_iff,
          then_eq_gt_iff]
    | _ => cases s <;> simp [UnpackedFloat.compare, UnpackedFloat.isNaN, place, place_lt_iff]

theorem lt_iff_place {x y : Float} :
    x < y ↔ x.isNaN = false ∧ y.isNaN = false ∧
      place x.toModel.unpack < place y.toModel.unpack :=
  lt_iff_comparison.trans (compare_eq_lt_iff_place _ _)

/-- Among numbers, what is below one that is not greater than another is below that other. -/
theorem lt_of_not_lt_of_lt {x y z : Float} (number : x.isNaN = false) (upTo : ¬ y < x)
    (less : y < z) : x < z := by
  obtain ⟨numberY, numberZ, below⟩ := lt_iff_place.mp less
  have order : place x.toModel.unpack ≤ place y.toModel.unpack := by
    rw [← not_lt]
    exact fun above => upTo (lt_iff_place.mpr ⟨numberY, number, above⟩)
  exact lt_iff_place.mpr ⟨number, numberZ, order.trans_lt below⟩

theorem lt_of_lt_of_le {x y z : Float} (less : x < y) (upTo : y ≤ z) : x < z := by
  obtain ⟨numberX, numberY, below⟩ := lt_iff_place.mp less
  obtain ⟨smaller, -, numberZ⟩ := le_iff.mp upTo
  have order : place y.toModel.unpack ≤ place z.toModel.unpack := by
    rw [← not_lt]
    exact fun above => smaller (lt_iff_place.mpr ⟨numberZ, numberY, above⟩)
  exact lt_iff_place.mpr ⟨numberX, numberZ, below.trans_le order⟩

theorem le_of_lt {x y : Float} (less : x < y) : x ≤ y :=
  le_iff_comparison.mpr (.inl (lt_iff_comparison.mp less))

theorem le_refl {x : Float} (number : x.isNaN = false) : x ≤ x :=
  le_iff.mpr ⟨fun less => lt_irrefl _ (lt_iff_place.mp less).2.2, number, number⟩

end PathTracking.Binary64
