import PathTracking.Proofs.Binary64.Rounding

/-!
# Signs and zeros of results

A square root and a quotient fault on a negative argument and on a zero divisor. What is built from
squares, roots and absolute values has no sign (`Unsigned`), so that it is not below zero, and sums
of squares are zero only if their terms are: a sum of numbers without sign is not below its terms,
and no number as great as the least positive one is rounded to zero. Among finite numbers a number
less itself is zero, and so is a product with zero.
-/
namespace PathTracking.Binary64

open Float.Model (UnpackedFloat)
open Float.Model.UnpackedFloat (Sign Accuracy pack unpack packComponents roundWithAccuracy)

/-! ## Signs -/

/-- A number with a positive sign, or a NaN, which has none. -/
def Unsigned : UnpackedFloat → Prop
  | .notANumber => True
  | .infinity s | .zero s | .finite s _ _ _ => s = .positive

theorem unsigned_roundWithAccuracy (m : ℕ) (e : ℤ) (accuracy : Accuracy) :
    Unsigned (roundWithAccuracy .binary64 .positive m e accuracy) := by
  unfold roundWithAccuracy
  dsimp only
  split <;> rfl

theorem unsigned_normalize {m : ℤ} (nonneg : 0 ≤ m) (e : ℤ) :
    Unsigned (UnpackedFloat.normalize .binary64 m e .positive) := by
  unfold UnpackedFloat.normalize
  rcases nonneg.lt_or_eq with positive | rfl
  · rw [Int.compare_eq_gt.mpr positive]
    exact unsigned_roundWithAccuracy ..
  · rfl

theorem unsigned_mul_self (u : UnpackedFloat) : Unsigned (u.mul .binary64 u) := by
  cases u with
  | notANumber => trivial
  | infinity s | zero s => cases s <;> rfl
  | finite s m e pos => cases s <;> exact unsigned_roundWithAccuracy ..

theorem unsigned_add {u v : UnpackedFloat} (left : Unsigned u) (right : Unsigned v) :
    Unsigned (u.add .binary64 v) := by
  cases u with
  | notANumber => trivial
  | infinity s =>
    cases left
    cases v with
    | infinity t => cases right; rfl
    | _ => trivial
  | zero s =>
    cases left
    cases v with
    | zero t => cases right; rfl
    | _ => exact right
  | finite s m e pos =>
    cases left
    cases v with
    | finite t n f pos =>
      cases right
      exact unsigned_normalize (Int.add_nonneg (Int.natCast_nonneg _) (Int.natCast_nonneg _)) _
    | notANumber => trivial
    | infinity t => exact right
    | zero t => trivial

theorem unsigned_sqrt {u : UnpackedFloat} (unsigned : Unsigned u) :
    Unsigned (u.sqrt .binary64) := by
  cases u with
  | notANumber => trivial
  | infinity s | zero s => cases unsigned; rfl
  | finite s m e pos =>
    cases unsigned
    exact unsigned_roundWithAccuracy ..

theorem unsigned_abs (u : UnpackedFloat) : Unsigned u.abs := by
  cases u <;> first | rfl | trivial

theorem unsigned_div {u v : UnpackedFloat} (left : Unsigned u) (right : Unsigned v) :
    Unsigned (u.div .binary64 v) := by
  cases u with
  | notANumber => trivial
  | infinity s | zero s =>
    cases left
    cases v <;> first | trivial | (cases right; rfl)
  | finite s m e pos =>
    cases left
    cases v with
    | notANumber => trivial
    | infinity t | zero t => cases right; rfl
    | finite t n f pos =>
      cases right
      exact unsigned_roundWithAccuracy ..

theorem unsigned_unpack_packComponents (e : BitVec 11) (m : BitVec 52) :
    Unsigned (unpack .binary64 (packComponents .binary64 .positive e m)) := by
  have sign : Sign.ofBitVec 0#1 = .positive := rfl
  unfold unpack
  simp only [unpackSign_packComponents, Sign.toBitVec, sign]
  split
  · split <;> trivial
  · split
    · split <;> trivial
    · trivial

theorem unsigned_pack {u : UnpackedFloat} (unsigned : Unsigned u) :
    Unsigned (unpack .binary64 (pack .binary64 u)) := by
  cases u with
  | notANumber => exact unsigned_unpack_packComponents ..
  | infinity s | zero s => cases unsigned; exact unsigned_unpack_packComponents ..
  | finite s m e pos =>
    cases unsigned
    unfold pack
    dsimp only
    split
    · exact unsigned_unpack_packComponents ..
    · split <;> exact unsigned_unpack_packComponents ..

theorem unpack_zero : (0 : Float).toModel.unpack = .zero .positive := by
  rfl

theorem not_lt_zero {x : Float} (unsigned : Unsigned x.toModel.unpack) : ¬ x < 0 := by
  rw [lt_iff_comparison, comparison, unpack_zero]
  cases h : x.toModel.unpack with
  | notANumber => nofun
  | infinity s | zero s | finite s => rw [h] at unsigned; cases unsigned; nofun

/-! ## Zero -/

theorem beq_zero {x : Float} (zero : (x == 0) = true) : ∃ s, x.toModel.unpack = .zero s := by
  have same := beq_iff_comparison.mp zero
  rw [comparison, unpack_zero] at same
  cases unpacked : x.toModel.unpack with
  | zero s => exact ⟨s, rfl⟩
  | infinity s | finite s => rw [unpacked] at same; cases s <;> cases same
  | notANumber => rw [unpacked] at same; cases same

theorem beq_zero_eq_false {x : Float} (nonzero : ∀ s, x.toModel.unpack ≠ .zero s) :
    (x == 0) = false := by
  rw [Bool.eq_false_iff]
  intro zero
  obtain ⟨s, unpacked⟩ := beq_zero zero
  exact nonzero s unpacked

theorem beq_zero_of_unpack {x : Float} {s : Sign} (unpacked : x.toModel.unpack = .zero s) :
    (x == 0) = true := by
  rw [beq_iff_comparison, comparison, unpacked, unpack_zero]
  rfl

/-- A finite number less itself is zero. -/
theorem sub_self {x : Float} (finite : x.isFinite = true) : x - x = 0 := by
  have finite : x.toModel.unpack.isFinite = true := finite
  have zero : x.toModel.unpack.sub .binary64 x.toModel.unpack = .zero .positive := by
    cases unpacked : x.toModel.unpack with
    | notANumber | infinity => rw [unpacked] at finite; cases finite
    | zero s => cases s <;> rfl
    | finite s m e pos =>
      simp only [UnpackedFloat.sub, Int.sub_self]
      rfl
  show Float.ofModel (Float.Model.pack (x.toModel.unpack.sub .binary64 x.toModel.unpack)) = 0
  rw [zero]
  rfl

/-- A zero less zero is a zero. -/
theorem zero_sub_zero {x : Float} (zero : (x == 0) = true) : (x - 0 == 0) = true := by
  obtain ⟨s, unpacked⟩ := beq_zero zero
  have difference : x.toModel.unpack.sub .binary64 (.zero .positive) = .zero s := by
    rw [unpacked]
    cases s <;> rfl
  have canonical : Canonical (x.toModel.unpack.sub .binary64 (.zero .positive)) := by
    rw [difference]
    trivial
  have packed : (x - 0).toModel.unpack = .zero s := by
    refine (unpack_pack canonical).trans ?_
    rw [difference]
    rfl
  exact beq_zero_of_unpack packed

/-- Zero times a finite number is a zero, of either sign. -/
theorem zero_mul {x y : Float} (zero : (x == 0) = true) (finite : y.isFinite = true) :
    (x * y == 0) = true := by
  have finite : y.toModel.unpack.isFinite = true := finite
  obtain ⟨s, unpacked⟩ := beq_zero zero
  have product : ∃ t, (x * y).toModel.unpack = .zero t := by
    rw [unpack_mul, unpacked]
    cases other : y.toModel.unpack with
    | notANumber | infinity => rw [other] at finite; cases finite
    | zero t | finite t => exact ⟨_, rfl⟩
  obtain ⟨t, product⟩ := product
  exact beq_zero_of_unpack product

theorem bounded_ne_zero {u : UnpackedFloat} {s : Sign} (nonzero : u ≠ .zero s) :
    bounded u ≠ .zero s := by
  cases u with
  | finite t m e pos =>
    rw [bounded]
    split
    · intro same
      cases same
    · intro same
      cases same
  | _ => exact nonzero

theorem mul_self_ne_zero {s t : Sign} {m : ℕ} {e : ℤ} {pos : 0 < m}
    (canonical : Canonical (.finite s m e pos)) (large : minExponent ≤ e + e) :
    (UnpackedFloat.finite s m e pos).mul .binary64 (.finite s m e pos) ≠ .zero t :=
  roundWithAccuracy_ne_zero _ t _ (Nat.mul_pos pos pos)
    (product_le_grid pos pos canonical.2.2 canonical.2.2) (by omega)

theorem normalize_ne_zero {m : ℤ} {e : ℤ} (pos : 0 < m) (least : minExponent ≤ e) (s t : Sign) :
    UnpackedFloat.normalize .binary64 m e s ≠ .zero t := by
  obtain ⟨n, f, positive, length, within, rounded⟩ := round_eq .positive e (m := m.toNat) (by omega)
  unfold UnpackedFloat.normalize
  rw [Int.compare_eq_gt.mpr pos]
  dsimp only
  rw [rounded]
  exact roundWithAccuracy_ne_zero _ t _ positive within (by omega)

theorem add_ne_zero {u v : UnpackedFloat} (left : Unsigned u) (right : Unsigned v)
    (canonicalU : Canonical u) (canonicalV : Canonical v)
    (nonzero : (∀ s, u ≠ .zero s) ∨ ∀ s, v ≠ .zero s) (t : Sign) :
    u.add .binary64 v ≠ .zero t := by
  cases u with
  | notANumber => nofun
  | infinity s =>
    cases left
    cases v with
    | infinity t => cases right; nofun
    | _ => nofun
  | zero s =>
    cases v with
    | zero t => exact nonzero.elim (fun h => absurd rfl (h s)) fun h => absurd rfl (h t)
    | _ => nofun
  | finite s m e posM =>
    cases left
    cases v with
    | finite t n f posN =>
      cases right
      refine normalize_ne_zero ?_ ?_ _ _
      · simp only [Sign.apply, Nat.shiftLeft_eq]
        positivity
      · exact le_min canonicalU.2.1 canonicalV.2.1
    | _ => nofun

theorem sqrt_ne_zero {u : UnpackedFloat} (canonical : Canonical u)
    (nonzero : ∀ s, u ≠ .zero s) (t : Sign) : u.sqrt .binary64 ≠ .zero t := by
  cases u with
  | notANumber => nofun
  | infinity s => cases s <;> nofun
  | zero s => exact absurd rfl (nonzero s)
  | finite s m e pos =>
    cases s with
    | negative => nofun
    | positive =>
      obtain ⟨n, f, accuracy, root, positive, within, least⟩ := sqrtCore_spec pos canonical.2.1
      simp only [UnpackedFloat.sqrt, root]
      exact roundWithAccuracy_ne_zero _ t _ positive within (by omega)

/-- A number large enough for its square to be one: not below the exponent of the tolerance. -/
def Sizeable : UnpackedFloat → Prop
  | .zero _ => False
  | .finite _ _ e _ => -69 ≤ e
  | _ => True

theorem unpack_tolerance :
    (1e-5 : Float).toModel.unpack = .finite .positive 5902958103587057 (-69) (by decide) :=
  rfl

theorem Sizeable.ne_zero {u : UnpackedFloat} (sizeable : Sizeable u) (s : Sign) : u ≠ .zero s := by
  rintro rfl
  exact sizeable

theorem sizeable_of_not_lt {x : Float} (upTo : ¬ x.abs < 1e-5) : Sizeable x.toModel.unpack := by
  rw [lt_iff_comparison, comparison, unpack_abs, unpack_tolerance] at upTo
  cases unpacked : x.toModel.unpack with
  | notANumber | infinity s => trivial
  | zero s =>
    rw [unpacked] at upTo
    exact absurd rfl upTo
  | finite s m e pos =>
    rw [unpacked] at upTo
    simp only [UnpackedFloat.abs, UnpackedFloat.compare, Option.some.injEq, Ordering.then_eq_lt,
      Int.compare_eq_lt] at upTo
    -- Exponents are compared first.
    simp only [Sizeable]
    omega

/-! ## Sums of squares -/

theorem unsigned_square (x : Float) : Unsigned (x * x).toModel.unpack :=
  unsigned_pack (unsigned_mul_self x.toModel.unpack)

theorem unsigned_sum_of_squares (x y : Float) : Unsigned (x * x + y * y).toModel.unpack :=
  unsigned_pack (unsigned_add (unsigned_square x) (unsigned_square y))

theorem square_ne_zero {x : Float} (sizeable : Sizeable x.toModel.unpack) (s : Sign) :
    (x * x).toModel.unpack ≠ .zero s := by
  have canonical := (representable x).1
  rw [unpack_mul]
  refine bounded_ne_zero ?_
  cases unpacked : x.toModel.unpack with
  | notANumber => nofun
  | infinity t => cases t <;> nofun
  | zero t =>
    rw [unpacked] at sizeable
    exact sizeable.elim
  | finite t m e pos =>
    rw [unpacked] at sizeable canonical
    refine mul_self_ne_zero canonical ?_
    rw [minExponent]
    rw [Sizeable] at sizeable
    omega

/-- The length of a vector that is not within the tolerance on both axes is not zero. -/
theorem sqrt_sum_of_squares_ne_zero {x y : Float} (apart : ¬ (x.abs < 1e-5 ∧ y.abs < 1e-5)) :
    ((x * x + y * y).sqrt == 0) = false := by
  have nonzero : (∀ s, (x * x).toModel.unpack ≠ .zero s) ∨ ∀ s, (y * y).toModel.unpack ≠ .zero s :=
    (not_and_or.mp apart).imp (fun upTo => square_ne_zero (sizeable_of_not_lt upTo))
      fun upTo => square_ne_zero (sizeable_of_not_lt upTo)
  have sum (s : Sign) : (x * x + y * y).toModel.unpack ≠ .zero s := by
    rw [unpack_add]
    exact bounded_ne_zero (add_ne_zero (unsigned_square x) (unsigned_square y)
      (representable (x * x)).1 (representable (y * y)).1 nonzero s)
  refine beq_zero_eq_false fun t => ?_
  rw [unpack_sqrt]
  exact bounded_ne_zero (sqrt_ne_zero (representable (x * x + y * y)).1 sum t)

end PathTracking.Binary64
