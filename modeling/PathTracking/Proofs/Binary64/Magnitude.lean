import PathTracking.Proofs.Binary64.Order
import PathTracking.Proofs.Binary64.Sign

/-!
# The size of squares

A mantissa that is cut down is rounded to the nearest one, halves to even
(`roundedMantissa_exact`), so that a square is the exact square rounded to its grid
(`magnitude_mul_self`). The grid depends on the exact square alone and rounding to it keeps the
order (`nearest_mono`): of two numbers without sign the smaller one has the smaller square. Its
square is no infinity if the other is none, and the difference of the squares is not below zero
(`square_sub_square`).
-/
namespace PathTracking.Binary64

open Float.Model (UnpackedFloat)
open Float.Model.UnpackedFloat (Sign ExtendedMantissa roundWithAccuracy)

/-! ## Rounding to even -/

theorem shiftRight_exact (m k : ℕ) :
    ExtendedMantissa.ofMantissaAndAccuracy m .exact >>> (k + 1) =
      ⟨m / 2 ^ (k + 1), m / 2 ^ k % 2 != 0, m % 2 ^ k != 0⟩ := by
  induction k with
  | zero =>
    show ExtendedMantissa.mk (m / 2) (m % 2 != 0) false = ⟨m / 2, m / 1 % 2 != 0, m % 1 != 0⟩
    rw [Nat.div_one, Nat.mod_one]
    rfl
  | succ k ih =>
    rw [shiftRight_succ, ih, ExtendedMantissa.shiftRightOne]
    congr 1
    · rw [Nat.div_div_eq_div_mul, ← Nat.pow_succ]
    · rw [Nat.pow_succ, Nat.mod_mul]
      have below := Nat.mod_lt m (Nat.two_pow_pos k)
      rcases Nat.mod_two_eq_zero_or_one (m / 2 ^ k) with even | odd
      · rw [even]
        simp
      · rw [odd]
        simp

theorem roundedMantissa_exact (m k : ℕ) :
    (ExtendedMantissa.ofMantissaAndAccuracy m .exact >>> k).roundedMantissa =
      roundHalfEven m (2 ^ k) := by
  cases k with
  | zero =>
    show m = roundHalfEven m 1
    simp [roundHalfEven, Nat.mod_one]
  | succ k =>
    rw [shiftRight_exact]
    have below := Nat.mod_lt m (Nat.two_pow_pos k)
    have split : m % 2 ^ (k + 1) = m % 2 ^ k + 2 ^ k * (m / 2 ^ k % 2) := by
      rw [Nat.pow_succ, Nat.mod_mul]
    have double := Nat.pow_succ 2 k
    unfold roundHalfEven
    dsimp only
    rw [split]
    generalize m % 2 ^ k = rest at below
    rcases Nat.mod_two_eq_zero_or_one (m / 2 ^ k) with even | odd
    · rw [even, if_pos (by omega)]
      cases rest <;> rfl
    · rw [odd, if_neg (by omega)]
      cases rest with
      | zero =>
        rw [if_pos (by omega)]
        rfl
      | succ rest =>
        rw [if_neg (by omega)]
        rfl

theorem roundHalfEven_bounds (num den : ℕ) :
    num / den ≤ roundHalfEven num den ∧ roundHalfEven num den ≤ num / den + 1 := by
  unfold roundHalfEven
  dsimp only
  split
  · omega
  · split <;> omega

theorem roundHalfEven_mono {num num' : ℕ} (den : ℕ) (le : num ≤ num') :
    roundHalfEven num den ≤ roundHalfEven num' den := by
  have quotient : num / den ≤ num' / den := Nat.div_le_div_right le
  rcases quotient.lt_or_eq with less | same
  · have lower := (roundHalfEven_bounds num' den).1
    have upper := (roundHalfEven_bounds num den).2
    omega
  · have rest : num % den ≤ num' % den := by
      have := Nat.div_add_mod num den
      have := Nat.div_add_mod num' den
      rw [same] at *
      omega
    unfold roundHalfEven
    dsimp only
    rw [same]
    split <;> split <;> (try split) <;> (try split) <;> omega

theorem roundHalfEven_scale {c : ℕ} (pos : 0 < c) (num den : ℕ) :
    roundHalfEven (num * c) (den * c) = roundHalfEven num den := by
  unfold roundHalfEven
  dsimp only
  rw [Nat.mul_div_mul_right _ _ pos, Nat.mul_mod_mul_right, ← Nat.mul_assoc]
  simp only [Nat.mul_lt_mul_right pos, Nat.mul_left_inj pos.ne']

/-! ## Magnitudes -/

/-- The absolute value of a finite number, in units of the least positive one. -/
def magnitude : UnpackedFloat → ℕ
  | .finite _ m e _ => m * 2 ^ (e - minExponent).toNat
  | _ => 0

/-! ## Squares

Exact squares are counted in units of the square of the least positive number. -/

/-- The exponent of the grid to which an exact square is rounded. -/
def grain (v : ℕ) : ℕ := max (v.log2 - 52) (-minExponent).toNat

/-- The rounded square. -/
def nearest (v : ℕ) : ℕ := roundHalfEven v (2 ^ grain v) * 2 ^ grain v

theorem nearest_zero : nearest 0 = 0 := by
  simp [nearest, roundHalfEven]

theorem log2_mono {v w : ℕ} (le : v ≤ w) : v.log2 ≤ w.log2 := by
  rw [Nat.log2_eq_log_two, Nat.log2_eq_log_two]
  exact Nat.log_mono_right le

/-- A rounded square has at most 53 bits on its grid, and no fewer if the grid is coarser than the
finest one. -/
theorem nearest_bounds (v : ℕ) :
    roundHalfEven v (2 ^ grain v) ≤ 2 ^ 53 ∧
      ((-minExponent).toNat < grain v → 2 ^ 52 ≤ roundHalfEven v (2 ^ grain v)) := by
  obtain ⟨lower, upper⟩ := roundHalfEven_bounds v (2 ^ grain v)
  constructor
  · have short : v / 2 ^ grain v < 2 ^ 53 := by
      refine div_two_pow_lt ?_
      rw [grain]
      omega
    omega
  · intro coarse
    rw [grain] at coarse
    have pos : 0 < v := by
      rcases Nat.eq_zero_or_pos v with rfl | pos
      · exact absurd coarse (by decide)
      · exact pos
    refine le_trans (two_pow_le_div pos ?_) lower
    rw [grain]
    omega

/-- On a coarser grid there are only greater squares. -/
theorem nearest_mono {v w : ℕ} (le : v ≤ w) : nearest v ≤ nearest w := by
  have coarser : grain v ≤ grain w := max_le_max (Nat.sub_le_sub_right (log2_mono le) 52) le_rfl
  rcases coarser.lt_or_eq with less | same
  · have upper := (nearest_bounds v).1
    have lower := (nearest_bounds w).2 (lt_of_le_of_lt (le_max_right ..) less)
    calc nearest v ≤ 2 ^ 53 * 2 ^ grain v := Nat.mul_le_mul_right _ upper
      _ = 2 ^ 52 * 2 ^ (grain v + 1) := by ring
      _ ≤ 2 ^ 52 * 2 ^ grain w :=
        Nat.mul_le_mul_left _ (Nat.pow_le_pow_right Nat.two_pos less)
      _ ≤ nearest w := Nat.mul_le_mul_right _ lower
  · unfold nearest
    rw [same]
    exact Nat.mul_le_mul_right _ (roundHalfEven_mono _ le)

theorem magnitude_carried (s : Sign) (r : ℕ) {e : ℤ} (upper : r ≤ 2 ^ 53)
    (least : minExponent ≤ e) :
    magnitude (carried s r e) = r * 2 ^ (e - minExponent).toNat := by
  unfold carried
  split
  next zero => rw [zero, Nat.zero_mul]; rfl
  · split
    · rfl
    · obtain rfl : r = 2 ^ 53 := by omega
      rw [magnitude, show (e + 1 - minExponent).toNat = (e - minExponent).toNat + 1 by omega]
      ring

theorem magnitude_mul_self {u : UnpackedFloat} (canonical : Canonical u)
    (finite : u.isFinite = true) :
    magnitude (u.mul .binary64 u) * 2 ^ (-minExponent).toNat = nearest (magnitude u ^ 2) := by
  cases u with
  | notANumber | infinity s => cases finite
  | zero s =>
    show 0 * _ = nearest (0 ^ 2)
    rw [Nat.zero_mul, Nat.zero_pow Nat.two_pos, nearest_zero]
  | finite s m e pos =>
    obtain ⟨-, least, full⟩ := canonical
    have within := product_le_grid pos pos full full
    have floor : minExponent ≤ grid (m * m) (e + e) := Int.le_max_right ..
    have positive := Nat.mul_pos pos pos
    set k := (e + e + 2148).toNat with scale
    have value : magnitude (.finite s m e pos) ^ 2 = m * m * 2 ^ k := by
      rw [magnitude, mul_pow, ← Nat.pow_mul, Nat.pow_two,
        show (e - minExponent).toNat * 2 = k by rw [minExponent] at *; omega]
    have coarse : grain (m * m * 2 ^ k) = (grid (m * m) (e + e) - (e + e)).toNat + k := by
      rw [grain, log2_mul_two_pow positive]
      simp only [grid, minExponent] at least within ⊢
      omega
    obtain ⟨-, upper⟩ := carried_bounds (m * m) (e + e) .exact
    have rounded : (UnpackedFloat.finite s m e pos).mul .binary64 (.finite s m e pos) =
        carried (s * s) (roundHalfEven (m * m) (2 ^ (grid (m * m) (e + e) - (e + e)).toNat))
          (grid (m * m) (e + e)) := by
      rw [← roundedMantissa_exact]
      exact roundWithAccuracy_eq _ _ _ _ within
    rw [roundedMantissa_exact] at upper
    rw [rounded, magnitude_carried _ _ upper floor, value, nearest, coarse, Nat.pow_add,
      roundHalfEven_scale (Nat.two_pow_pos k), Nat.mul_assoc, ← Nat.pow_add, ← Nat.pow_add]
    congr 2
    rw [minExponent] at least floor ⊢
    omega

/-! ## The order of magnitudes -/

theorem exponent_le_of_magnitude_le {s t : Sign} {m n : ℕ} {e f : ℤ} {posM : 0 < m}
    {posN : 0 < n} (canonicalM : Canonical (.finite s m e posM))
    (canonicalN : Canonical (.finite t n f posN))
    (le : magnitude (.finite s m e posM) ≤ magnitude (.finite t n f posN)) : e ≤ f := by
  obtain ⟨-, leastM, full⟩ := canonicalM
  obtain ⟨small, leastN, -⟩ := canonicalN
  by_contra above
  -- Above the least exponent a mantissa has all its bits, and outweighs any at a lower one.
  have normal : 2 ^ 52 ≤ m := full.resolve_right (by omega)
  refine absurd le (not_le.mpr ?_)
  calc n * 2 ^ (f - minExponent).toNat
      < 2 ^ 53 * 2 ^ (f - minExponent).toNat :=
        Nat.mul_lt_mul_of_pos_right small (Nat.two_pow_pos _)
    _ = 2 ^ 52 * 2 ^ ((f - minExponent).toNat + 1) := by ring
    _ ≤ 2 ^ 52 * 2 ^ (e - minExponent).toNat :=
      Nat.mul_le_mul_left _ (Nat.pow_le_pow_right Nat.two_pos (by omega))
    _ ≤ m * 2 ^ (e - minExponent).toNat := Nat.mul_le_mul_right _ normal

/-- Canonical numbers without sign are in the order of their magnitudes. -/
theorem magnitude_lt_of_compare {m n : ℕ} {e f : ℤ} {posM : 0 < m} {posN : 0 < n}
    (canonicalM : Canonical (.finite .positive m e posM))
    (canonicalN : Canonical (.finite .positive n f posN))
    (less : (compare e f).then (compare m n) = .lt) :
    magnitude (.finite .positive m e posM) < magnitude (.finite .positive n f posN) := by
  by_contra above
  have order := exponent_le_of_magnitude_le canonicalN canonicalM (not_lt.mp above)
  rcases (then_eq_lt_iff e f m n).mp less with lower | ⟨same, smaller⟩
  · omega
  · subst same
    exact above (Nat.mul_lt_mul_of_pos_right smaller (Nat.two_pow_pos _))

/-- Above a number without sign there are only numbers without sign, of greater magnitude. -/
theorem magnitude_lt_of_lt {u v : UnpackedFloat} (canonicalU : Canonical u)
    (canonicalV : Canonical v) (unsigned : Unsigned u) (less : u.compare v = some .lt) :
    u.isFinite = true ∧ Unsigned v ∧ (v.isFinite = true → magnitude u < magnitude v) := by
  cases u with
  | notANumber => cases less
  | infinity s =>
    cases unsigned
    cases v with
    | infinity t => cases t <;> cases less
    | _ => cases less
  | zero s =>
    cases unsigned
    cases v with
    | notANumber | zero => cases less
    | infinity t => cases t with
      | negative => cases less
      | positive => exact ⟨rfl, rfl, nofun⟩
    | finite t n f posN =>
      cases t with
      | negative => cases less
      | positive => exact ⟨rfl, rfl, fun _ => Nat.mul_pos posN (Nat.two_pow_pos _)⟩
  | finite s m e posM =>
    cases unsigned
    cases v with
    | notANumber | zero => cases less
    | infinity t => cases t with
      | negative => cases less
      | positive => exact ⟨rfl, rfl, nofun⟩
    | finite t n f posN =>
      cases t with
      | negative => cases less
      | positive =>
        exact ⟨rfl, rfl, fun _ =>
          magnitude_lt_of_compare canonicalU canonicalV (Option.some.inj less)⟩

/-- What is not greater than a number in range is in range. -/
theorem bounded_of_magnitude_le {u v : UnpackedFloat} (canonicalU : Canonical u)
    (canonicalV : Canonical v) (finite : v.isFinite = true) (le : magnitude u ≤ magnitude v)
    (inRange : bounded v = v) : bounded u = u := by
  cases u with
  | finite s m e posM =>
    cases v with
    | notANumber | infinity => cases finite
    | zero t => exact absurd le (not_le.mpr (Nat.mul_pos posM (Nat.two_pow_pos _)))
    | finite t n f posN =>
      have order := exponent_le_of_magnitude_le canonicalU canonicalV le
      simp only [bounded] at inRange
      rw [bounded]
      split at inRange
      · cases inRange
      · rw [if_neg (by omega)]
  | _ => rfl

/-- A difference is not below zero if what is taken away is not greater. -/
theorem unsigned_sub {u v : UnpackedFloat} (left : Unsigned v) (right : Unsigned u)
    (canonicalU : Canonical u) (canonicalV : Canonical v)
    (finiteU : u.isFinite = true) (finiteV : v.isFinite = true)
    (le : magnitude u ≤ magnitude v) : Unsigned (v.sub .binary64 u) := by
  cases u with
  | notANumber | infinity => cases finiteU
  | zero s =>
    cases right
    cases v with
    | notANumber | infinity => cases finiteV
    | zero t => cases left; rfl
    | finite => exact left
  | finite s m e posM =>
    cases right
    cases v with
    | notANumber | infinity => cases finiteV
    | zero t => exact absurd le (not_le.mpr (Nat.mul_pos posM (Nat.two_pow_pos _)))
    | finite t n f posN =>
      cases left
      have leastM := canonicalU.2.1
      have leastN := canonicalV.2.1
      refine unsigned_normalize ?_ _
      simp only [Sign.apply, Nat.shiftLeft_eq]
      have unit : ∀ k : ℤ, min f e ≤ k → (k - minExponent).toNat =
          (k - min f e).toNat + (min f e - minExponent).toNat := by
        intro k above
        omega
      rw [magnitude, magnitude, unit e (min_le_right ..), unit f (min_le_left ..), Nat.pow_add,
        Nat.pow_add, ← Nat.mul_assoc, ← Nat.mul_assoc,
        Nat.mul_le_mul_right_iff (Nat.two_pow_pos _)] at le
      omega

theorem isFinite_mul {u v : UnpackedFloat} (left : u.isFinite = true)
    (right : v.isFinite = true) : (u.mul .binary64 v).isFinite = true := by
  cases u with
  | notANumber | infinity => cases left
  | zero =>
    cases v with
    | notANumber | infinity => cases right
    | zero | finite => rfl
  | finite =>
    cases v with
    | notANumber | infinity => cases right
    | zero => rfl
    | finite =>
      show (roundWithAccuracy ..).isFinite = true
      unfold roundWithAccuracy
      dsimp only
      split <;> rfl

theorem bounded_of_not_isInf {u : UnpackedFloat} (finite : u.isFinite = true)
    (inRange : (bounded u).isInf = false) : bounded u = u := by
  cases u with
  | notANumber | infinity => cases finite
  | zero => rfl
  | finite s m e pos =>
    rw [bounded] at inRange ⊢
    split
    next above => rw [if_pos above] at inRange; cases inRange
    · rfl

theorem not_isInf_of_isFinite {u : UnpackedFloat} (finite : u.isFinite = true) :
    u.isInf = false := by
  cases u with
  | notANumber | infinity => cases finite
  | _ => rfl

/-- The rounded square of a number in range is in range only if the number is finite. -/
theorem isFinite_of_square {u : UnpackedFloat} (number : u.isNaN = false)
    (inRange : (bounded (u.mul .binary64 u)).isInf = false) : u.isFinite = true := by
  cases u with
  | notANumber => cases number
  | infinity s => cases s <;> cases inRange
  | zero | finite => rfl

theorem magnitude_square_le {u v : UnpackedFloat} (canonicalU : Canonical u)
    (canonicalV : Canonical v) (finiteU : u.isFinite = true) (finiteV : v.isFinite = true)
    (le : magnitude u ≤ magnitude v) :
    magnitude (u.mul .binary64 u) ≤ magnitude (v.mul .binary64 v) := by
  have rounded := nearest_mono (Nat.pow_le_pow_left le 2)
  rw [← magnitude_mul_self canonicalU finiteU, ← magnitude_mul_self canonicalV finiteV] at rounded
  exact Nat.le_of_mul_le_mul_right rounded (Nat.two_pow_pos _)

/-- The square of the smaller of two numbers overflows only if that of the greater one does, and
else leaves a difference that is not below zero. -/
theorem square_sub_square {d r : Float} (unsigned : Unsigned d.toModel.unpack) (less : d < r)
    (inRange : (r * r).isInf = false) :
    (d * d).isInf = false ∧ ¬ r * r - d * d < 0 := by
  have canonicalD := (representable d).1
  have canonicalR := (representable r).1
  obtain ⟨finiteD, unsignedR, order⟩ :=
    magnitude_lt_of_lt canonicalD canonicalR unsigned (lt_iff_comparison.mp less)
  have inRangeR : (bounded (r.toModel.unpack.mul .binary64 r.toModel.unpack)).isInf = false := by
    rw [← unpack_mul]
    exact inRange
  have finiteR := isFinite_of_square (isNaN_of_lt less).2 inRangeR
  have le := magnitude_square_le canonicalD canonicalR finiteD finiteR (order finiteR).le
  have squareD := canonical_mul canonicalD canonicalD
  have squareR := canonical_mul canonicalR canonicalR
  have finiteD := isFinite_mul finiteD finiteD
  have finiteR := isFinite_mul finiteR finiteR
  have boundedR := bounded_of_not_isInf finiteR inRangeR
  have boundedD := bounded_of_magnitude_le squareD squareR finiteR le boundedR
  -- Neither square overflows, so both are packed as they are.
  have unpackedD := (unpack_mul d d).trans boundedD
  have unpackedR := (unpack_mul r r).trans boundedR
  constructor
  · show (d * d).toModel.unpack.isInf = false
    rw [unpackedD]
    exact not_isInf_of_isFinite finiteD
  · refine not_lt_zero (unsigned_pack ?_)
    show Unsigned ((r * r).toModel.unpack.sub .binary64 (d * d).toModel.unpack)
    rw [unpackedD, unpackedR]
    exact unsigned_sub (unsigned_mul_self _) (unsigned_mul_self _) squareD squareR finiteD finiteR
      le

end PathTracking.Binary64
