import PathTracking.Proofs.Binary64.Distance

/-!
# Rounding to binary64 numbers

Numbers are unpacked from their bits, computed with, rounded and packed again. What is unpacked is
in canonical form, what an operation rounds to is so as well (`canonical_mul` to `canonical_sqrt`),
and packing such a number keeps it, but for numbers beyond the largest one (`unpack_pack`). So
the results of the operations on `Float` are read off those on unpacked numbers.

An operation hands over a mantissa and an exponent, and what was left out of the mantissa, and the
mantissa is cut down to the grid of the result (`roundWithAccuracy_eq`).
-/
namespace PathTracking.Binary64

open Float.Model (UnpackedFloat Format totalExponent)
open Float.Model.UnpackedFloat (Sign Accuracy ExtendedMantissa pack unpack packComponents
  unpackSign unpackExponent unpackMantissa unpackExponent_packComponents
  unpackMantissa_packComponents roundWithAccuracy shiftToTargetExponent shiftToExponent sqrtCore)

/-- A number as bit patterns hold it: with a mantissa of 53 bits, or of fewer at the least exponent.
The exponent has no upper bound; beyond 971 such a number packs to an infinity. -/
def Canonical : UnpackedFloat → Prop
  | .finite _ m e _ => m < 2 ^ 53 ∧ minExponent ≤ e ∧ (2 ^ 52 ≤ m ∨ e = minExponent)
  | _ => True

/-! ## Packing -/

theorem unpackSign_packComponents (s : Sign) (e : BitVec 11) (m : BitVec 52) :
    unpackSign (packComponents .binary64 s e m) = s.toBitVec := by
  apply BitVec.eq_of_toNat_eq
  simp only [unpackSign, BitVec.toNat_cast, BitVec.extractLsb_toNat, toNat_packComponents,
    Nat.shiftRight_eq_div_pow]
  have := s.toBitVec.isLt
  have := e.isLt
  have := m.isLt
  omega

theorem ofBitVec_toBitVec (s : Sign) : Sign.ofBitVec s.toBitVec = s := by
  cases s <;> rfl

/-- The highest exponent is that of infinities and NaN. -/
theorem unpack_special (s : Sign) (m : BitVec 52) :
    unpack .binary64 (packComponents .binary64 s (-1#11) m) =
      if m = 0#52 then .infinity s else .notANumber := by
  simp only [unpack, unpackExponent_packComponents, unpackMantissa_packComponents,
    unpackSign_packComponents, ofBitVec_toBitVec, if_true]

theorem unpack_subnormal (s : Sign) (m : BitVec 52) (pos : 0 < m.toNat) :
    unpack .binary64 (packComponents .binary64 s 0#11 m) = .finite s m.toNat minExponent pos := by
  have nonzero : m ≠ 0#52 := by rintro rfl; simp at pos
  simp only [unpack, unpackExponent_packComponents, unpackMantissa_packComponents,
    unpackSign_packComponents, ofBitVec_toBitVec, if_true, dif_neg nonzero]
  rfl

theorem unpack_normal (s : Sign) (e : BitVec 11) (m : BitVec 52) (low : e ≠ 0#11)
    (high : e ≠ -1#11) :
    unpack .binary64 (packComponents .binary64 s e m) =
      .finite s (2 ^ 52 + m.toNat) (e.toNat - 1075) (by omega) := by
  simp only [unpack, unpackExponent_packComponents, unpackMantissa_packComponents,
    unpackSign_packComponents, ofBitVec_toBitVec, if_neg low, if_neg high, toNat_append_eq]
  rfl

/-- The number, or an infinity if it is too large. -/
def bounded : UnpackedFloat → UnpackedFloat
  | .finite s m e pos => if 971 < e then .infinity s else .finite s m e pos
  | u => u

theorem unpack_packed_normal (s : Sign) {m : ℕ} {e : ℤ} (pos : 0 < m) (small : m < 2 ^ 53)
    (normal : 2 ^ 52 ≤ m) (least : -1074 ≤ e) (high : e ≤ 971) :
    unpack .binary64 (packComponents .binary64 s (BitVec.ofNat 11 (e + 1075).toNat)
      (BitVec.ofNat 52 m)) = .finite s m e pos := by
  have exponent : (BitVec.ofNat 11 (e + 1075).toNat).toNat = (e + 1075).toNat := by
    rw [BitVec.toNat_ofNat]
    omega
  have mantissa : (BitVec.ofNat 52 m).toNat = m - 2 ^ 52 := by
    rw [BitVec.toNat_ofNat]
    omega
  rw [unpack_normal]
  · congr 1 <;> omega
  · intro none
    rw [none] at exponent
    change 0 = _ at exponent
    omega
  · intro full
    rw [full] at exponent
    change 2047 = _ at exponent
    omega

theorem unpack_packed_subnormal (s : Sign) {m : ℕ} (pos : 0 < m) (subnormal : m < 2 ^ 52) :
    unpack .binary64 (packComponents .binary64 s 0#11 (BitVec.ofNat 52 m)) =
      .finite s m minExponent pos := by
  have mantissa : (BitVec.ofNat 52 m).toNat = m := by
    rw [BitVec.toNat_ofNat]
    omega
  refine (unpack_subnormal s _ (by omega)).trans ?_
  congr 1

/-- Packing a canonical number keeps it, unless it is too large. -/
theorem unpack_pack {u : UnpackedFloat} (canonical : Canonical u) :
    unpack .binary64 (pack .binary64 u) = bounded u := by
  cases u with
  | notANumber => rfl
  | infinity s => cases s <;> rfl
  | zero s => cases s <;> rfl
  | finite s m e pos =>
    obtain ⟨small, least, full⟩ := canonical
    unfold pack bounded
    dsimp only
    have bias : (e + (Format.binary64.exponentBias : ℤ) + (52 : ℕ)).toNat = (e + 1075).toNat := by
      simp only [Format.exponentBias]
      omega
    rw [bias]
    -- The bits of a larger exponent would be those of an infinity or beyond.
    by_cases large : 971 < e
    · rw [if_pos large, if_pos (by omega)]
      exact (unpack_special s 0#52).trans (if_pos rfl)
    rw [if_neg large, if_neg (by omega)]
    have bits : m.log2 + 1 = Format.binary64.mantissaBits ↔ 2 ^ 52 ≤ m := by
      simp only [Format.mantissaBits]
      have := Nat.le_log2 (k := 52) pos.ne'
      have := Nat.log2_lt (k := 53) pos.ne'
      omega
    by_cases normal : 2 ^ 52 ≤ m
    · rw [if_pos (bits.mpr normal)]
      exact unpack_packed_normal s pos small normal least (not_lt.mp large)
    · rw [if_neg (bits.not.mpr normal)]
      obtain rfl := full.resolve_left normal
      exact unpack_packed_subnormal s pos (not_le.mp normal)

/-- A number that some bit pattern holds. -/
def Representable (u : UnpackedFloat) : Prop := Canonical u ∧ bounded u = u

theorem representable_unpack (b : BitVec 64) : Representable (unpack .binary64 b) := by
  have mantissa : (@unpackMantissa .binary64 b).toNat < 2 ^ 52 := BitVec.isLt _
  have exponent : (@unpackExponent .binary64 b).toNat < 2 ^ 11 := BitVec.isLt _
  have bias : (Format.binary64.exponentBias : ℤ) + (52 : ℕ) = 1075 := rfl
  unfold unpack
  dsimp only
  rw [bias]
  split
  · split <;> exact ⟨trivial, rfl⟩
  next finite =>
    have high : (@unpackExponent .binary64 b).toNat ≠ 2047 := fun same =>
      finite (BitVec.eq_of_toNat_eq same)
    split
    next zero =>
      split
      · exact ⟨trivial, rfl⟩
      · rw [zero]
        exact ⟨⟨by omega, by decide, .inr rfl⟩, rfl⟩
    next positive =>
      have low : (@unpackExponent .binary64 b).toNat ≠ 0 := fun same =>
        positive (BitVec.eq_of_toNat_eq same)
      have full : (1#1 ++ @unpackMantissa .binary64 b).toNat =
          2 ^ 52 + (@unpackMantissa .binary64 b).toNat := toNat_append_eq ..
      refine ⟨⟨?_, ?_, .inl ?_⟩, if_neg ?_⟩
      · omega
      · rw [minExponent]
        omega
      · omega
      · omega

/-! ## Bits of scaled mantissas -/

theorem div_two_pow_lt {m b k : ℕ} (short : m.log2 < b + k) : m / 2 ^ k < 2 ^ b := by
  rw [Nat.div_lt_iff_lt_mul (Nat.two_pow_pos _), ← Nat.pow_add]
  exact Nat.lt_log2_self.trans_le (Nat.pow_le_pow_right Nat.two_pos short)

theorem two_pow_le_div {m b k : ℕ} (pos : 0 < m) (long : b + k ≤ m.log2) :
    2 ^ b ≤ m / 2 ^ k := by
  rw [Nat.le_div_iff_mul_le (Nat.two_pow_pos _), ← Nat.pow_add]
  exact (Nat.pow_le_pow_right Nat.two_pos long).trans (Nat.log2_self_le pos.ne')

theorem two_pow_le_mul {m b k : ℕ} (pos : 0 < m) (long : b ≤ m.log2 + k) :
    2 ^ b ≤ m * 2 ^ k :=
  calc 2 ^ b ≤ 2 ^ (m.log2 + k) := Nat.pow_le_pow_right Nat.two_pos long
    _ = 2 ^ m.log2 * 2 ^ k := Nat.pow_add ..
    _ ≤ m * 2 ^ k := Nat.mul_le_mul_right _ (Nat.log2_self_le pos.ne')

theorem log2_mul_two_pow {m : ℕ} (pos : 0 < m) (k : ℕ) : (m * 2 ^ k).log2 = m.log2 + k := by
  have lower := Nat.log2_self_le pos.ne'
  have upper := Nat.lt_log2_self (n := m)
  rw [Nat.log2_eq_iff (by positivity)]
  constructor
  · rw [Nat.pow_add]
    exact Nat.mul_le_mul_right _ lower
  · rw [Nat.add_right_comm, Nat.pow_add]
    exact Nat.mul_lt_mul_of_pos_right upper (Nat.two_pow_pos k)

/-! ## Rounding -/

/-- The exponent to which `mantissa * 2 ^ exponent` is rounded. -/
def grid (mantissa : ℕ) (exponent : ℤ) : ℤ := max (mantissa.log2 + exponent - 52) minExponent

theorem targetExponent_eq (m : ℕ) (e : ℤ) :
    Format.binary64.targetExponent (totalExponent m e) = grid m e := by
  simp only [Format.targetExponent, totalExponent, Format.mantissaBits, Format.minExponent, grid,
    minExponent]
  omega

/-- The number with a rounded mantissa. One of 54 bits is a power of two and carries into the
exponent. -/
def carried (s : Sign) (r : ℕ) (e : ℤ) : UnpackedFloat :=
  if zero : r = 0 then .zero s
  else if r < 2 ^ 53 then .finite s r e (Nat.pos_of_ne_zero zero)
  else .finite s (2 ^ 52) (e + 1) (by decide)

theorem shiftRight_succ (em : ExtendedMantissa) (k : ℕ) :
    em >>> (k + 1) = (em >>> k).shiftRightOne := rfl

theorem mantissa_shiftRight (em : ExtendedMantissa) (k : ℕ) :
    (em >>> k).mantissa = em.mantissa / 2 ^ k := by
  induction k with
  | zero => exact (Nat.div_one _).symm
  | succ k ih =>
    rw [shiftRight_succ, ExtendedMantissa.shiftRightOne, ih, Nat.div_div_eq_div_mul, Nat.pow_succ]

theorem mantissa_ofMantissaAndAccuracy (m : ℕ) (accuracy : Accuracy) :
    (ExtendedMantissa.ofMantissaAndAccuracy m accuracy).mantissa = m := by
  cases accuracy with
  | exact => rfl
  | inexact order => cases order <;> rfl

theorem roundedMantissa_bounds (em : ExtendedMantissa) :
    em.mantissa ≤ em.roundedMantissa ∧ em.roundedMantissa ≤ em.mantissa + 1 := by
  obtain ⟨m, round, sticky⟩ := em
  cases round <;> cases sticky <;>
    simp [ExtendedMantissa.roundedMantissa, ExtendedMantissa.accuracy,
      Accuracy.roundToNearestEven]
  omega

theorem shiftToTargetExponent_eq (m : ℕ) (e : ℤ) (accuracy : Accuracy) (within : e ≤ grid m e) :
    shiftToTargetExponent .binary64 m e accuracy =
      (ExtendedMantissa.ofMantissaAndAccuracy m accuracy >>> (grid m e - e).toNat, grid m e) := by
  simp only [shiftToTargetExponent, targetExponent_eq, shiftToExponent]
  congr 1
  omega

theorem shift_small (r : ℕ) (e : ℤ) (small : r < 2 ^ 53) (least : minExponent ≤ e) :
    shiftToTargetExponent .binary64 r e .exact = (⟨r, false, false⟩, e) := by
  have bits : r.log2 ≤ 52 := by
    by_cases zero : r = 0
    · rw [zero]
      decide
    · exact Nat.le_of_lt_succ ((Nat.log2_lt zero).mpr small)
  have none : (grid r e - e).toNat = 0 := by
    rw [grid]
    omega
  simp only [shiftToTargetExponent, targetExponent_eq, shiftToExponent, none]
  rw [Int.natCast_zero, Int.add_zero]
  rfl

theorem shift_carry (e : ℤ) (least : minExponent ≤ e) :
    shiftToTargetExponent .binary64 (2 ^ 53) e .exact = (⟨2 ^ 52, false, false⟩, e + 1) := by
  have one : (grid (2 ^ 53) e - e).toNat = 1 := by
    rw [grid, Nat.log2_two_pow]
    omega
  simp only [shiftToTargetExponent, targetExponent_eq, shiftToExponent, one]
  rfl

theorem div_pow_lt (m : ℕ) (e : ℤ) : m / 2 ^ (grid m e - e).toNat < 2 ^ 53 := by
  refine div_two_pow_lt ?_
  rw [grid]
  omega

theorem carried_bounds (m : ℕ) (e : ℤ) (accuracy : Accuracy) :
    let r := (ExtendedMantissa.ofMantissaAndAccuracy m accuracy >>>
      (grid m e - e).toNat).roundedMantissa
    m / 2 ^ (grid m e - e).toNat ≤ r ∧ r ≤ 2 ^ 53 := by
  intro r
  have bounds := roundedMantissa_bounds
    (ExtendedMantissa.ofMantissaAndAccuracy m accuracy >>> (grid m e - e).toNat)
  rw [mantissa_shiftRight, mantissa_ofMantissaAndAccuracy] at bounds
  have := div_pow_lt m e
  omega

/-- The mantissa is cut down and rounded once. The second cut only takes up the carry. -/
theorem roundWithAccuracy_eq (s : Sign) (m : ℕ) (e : ℤ) (accuracy : Accuracy)
    (within : e ≤ grid m e) :
    roundWithAccuracy .binary64 s m e accuracy =
      carried s (ExtendedMantissa.ofMantissaAndAccuracy m accuracy >>>
        (grid m e - e).toNat).roundedMantissa (grid m e) := by
  have least : minExponent ≤ grid m e := Int.le_max_right ..
  obtain ⟨-, upper⟩ := carried_bounds m e accuracy
  rw [roundWithAccuracy, shiftToTargetExponent_eq m e accuracy within]
  dsimp only
  generalize ExtendedMantissa.roundedMantissa _ = r at upper ⊢
  unfold carried
  -- Only a mantissa that was rounded up to the next power of two has a bit too many.
  by_cases small : r < 2 ^ 53
  · rw [shift_small r _ small least]
    dsimp only
    split <;> rfl
  · obtain rfl : r = 2 ^ 53 := by omega
    rw [shift_carry _ least]
    rfl

theorem canonical_carried {s : Sign} {r : ℕ} {e : ℤ} (least : minExponent ≤ e)
    (full : 2 ^ 52 ≤ r ∨ e = minExponent) : Canonical (carried s r e) := by
  unfold carried
  split
  · trivial
  · split
    next small => exact ⟨small, least, full⟩
    · exact ⟨by decide, by omega, .inl (by decide)⟩

/-- What is cut down to the grid has all bits unless the exponent is the least one. -/
theorem canonical_roundWithAccuracy (s : Sign) {m : ℕ} {e : ℤ} (accuracy : Accuracy)
    (pos : 0 < m) (within : e ≤ grid m e) :
    Canonical (roundWithAccuracy .binary64 s m e accuracy) := by
  obtain ⟨lower, -⟩ := carried_bounds m e accuracy
  rw [roundWithAccuracy_eq s m e accuracy within]
  refine canonical_carried (Int.le_max_right ..) ?_
  by_cases least : grid m e = minExponent
  · exact .inr least
  · refine .inl (le_trans (two_pow_le_div pos ?_) lower)
    rw [grid] at least within ⊢
    omega

/-- A number as great as the least positive one is not rounded to zero. -/
theorem roundWithAccuracy_ne_zero (s t : Sign) {m : ℕ} {e : ℤ} (accuracy : Accuracy)
    (pos : 0 < m) (within : e ≤ grid m e) (large : minExponent ≤ m.log2 + e) :
    roundWithAccuracy .binary64 s m e accuracy ≠ .zero t := by
  obtain ⟨lower, -⟩ := carried_bounds m e accuracy
  have one : 2 ^ 0 ≤ m / 2 ^ (grid m e - e).toNat := by
    refine two_pow_le_div pos ?_
    rw [grid]
    omega
  rw [roundWithAccuracy_eq s m e accuracy within, carried, dif_neg (by omega)]
  split <;> nofun

/-- Before it is rounded, a mantissa with fewer bits than the grid has is widened. -/
theorem round_eq (s : Sign) {m : ℕ} (e : ℤ) (pos : 0 < m) :
    ∃ n f, 0 < n ∧ n.log2 + f = m.log2 + e ∧ f ≤ grid n f ∧
      UnpackedFloat.round .binary64 s m e = roundWithAccuracy .binary64 s n f .exact := by
  have length := log2_mul_two_pow pos (e - grid m e).toNat
  rw [← Nat.shiftLeft_eq] at length
  refine ⟨m <<< (e - grid m e).toNat, e - (e - grid m e).toNat, ?_, ?_, ?_, ?_⟩
  · rw [Nat.shiftLeft_eq]
    positivity
  · rw [length]
    omega
  · simp only [grid] at length ⊢
    rw [length]
    omega
  · rw [UnpackedFloat.round, targetExponent_eq]
    rfl

theorem canonical_round (s : Sign) {m : ℕ} (e : ℤ) (pos : 0 < m) :
    Canonical (UnpackedFloat.round .binary64 s m e) := by
  obtain ⟨n, f, positive, -, within, rounded⟩ := round_eq s e pos
  rw [rounded]
  exact canonical_roundWithAccuracy s .exact positive within

theorem canonical_normalize (m : ℤ) (e : ℤ) (s : Sign) :
    Canonical (UnpackedFloat.normalize .binary64 m e s) := by
  unfold UnpackedFloat.normalize
  rcases Int.lt_trichotomy m 0 with negative | rfl | positive
  · rw [Int.compare_eq_lt.mpr negative]
    exact canonical_round _ e (by omega)
  · trivial
  · rw [Int.compare_eq_gt.mpr positive]
    exact canonical_round _ e (by omega)

/-! ## Operations -/

/-- A product of two numbers has enough bits to be rounded. -/
theorem product_le_grid {m n : ℕ} {e f : ℤ} (posM : 0 < m) (posN : 0 < n)
    (fullM : 2 ^ 52 ≤ m ∨ e = minExponent) (fullN : 2 ^ 52 ≤ n ∨ f = minExponent) :
    e + f ≤ grid (m * n) (e + f) := by
  rw [grid]
  -- A shorter product has two factors of the least exponent.
  by_cases long : 2 ^ 52 ≤ m * n
  · have := (Nat.le_log2 (Nat.mul_pos posM posN).ne').mpr long
    omega
  · have shortM : ¬ 2 ^ 52 ≤ m := fun h => long (h.trans (Nat.le_mul_of_pos_right m posN))
    have shortN : ¬ 2 ^ 52 ≤ n := fun h => long (h.trans (Nat.le_mul_of_pos_left n posM))
    rw [fullM.resolve_left shortM, fullN.resolve_left shortN, minExponent]
    omega

theorem canonical_mul {u v : UnpackedFloat} (left : Canonical u) (right : Canonical v) :
    Canonical (u.mul .binary64 v) := by
  cases u with
  | finite s m e posM =>
    cases v with
    | finite t n f posN =>
      exact canonical_roundWithAccuracy _ _ (Nat.mul_pos posM posN)
        (product_le_grid posM posN left.2.2 right.2.2)
    | _ => trivial
  | _ => cases v <;> trivial

theorem canonical_add {u v : UnpackedFloat} (left : Canonical u) (right : Canonical v) :
    Canonical (u.add .binary64 v) := by
  cases u with
  | notANumber => trivial
  | infinity s =>
    cases v with
    | infinity t =>
      cases s <;> cases t <;> trivial
    | _ => trivial
  | zero s =>
    cases v with
    | zero t =>
      cases s <;> cases t <;> trivial
    | finite t n f pos => exact right
    | _ => trivial
  | finite s m e pos =>
    cases v with
    | zero t => exact left
    | finite t n f pos => exact canonical_normalize ..
    | _ => trivial

theorem targetExponent_root (m : ℕ) (e : ℤ) :
    Format.binary64.targetExponent ((totalExponent m e + 1).ediv 2) =
      max ((m.log2 + e + 2) / 2 - 53) minExponent := by
  simp only [Format.targetExponent, totalExponent, Format.mantissaBits, Format.minExponent,
    minExponent]
  have : ((m.log2 : ℤ) + 1 + e + 1).ediv 2 = (m.log2 + e + 2) / 2 := by
    show ((m.log2 : ℤ) + 1 + e + 1) / 2 = _
    omega
  rw [this]
  omega

/-- A number of enough bits has a root of all bits. -/
theorem log2_sqrt_shiftLeft {m k : ℕ} (pos : 0 < m) (long : 104 ≤ m.log2 + k) :
    52 ≤ (Nat.sqrt (m <<< k)).log2 := by
  have scaled : 2 ^ 52 * 2 ^ 52 ≤ m <<< k := by
    rw [Nat.shiftLeft_eq]
    exact two_pow_le_mul pos long
  have root : 2 ^ 52 ≤ Nat.sqrt (m <<< k) := Nat.le_sqrt.mpr scaled
  exact (Nat.le_log2 (by omega)).mpr root

/-- The root of a number has enough bits to be rounded. -/
theorem sqrtCore_spec {m : ℕ} {e : ℤ} (pos : 0 < m) (least : minExponent ≤ e) :
    ∃ n f accuracy, sqrtCore .binary64 m e = (n, f, accuracy) ∧ 0 < n ∧ f ≤ grid n f ∧
      minExponent ≤ f := by
  have ediv : e.ediv 2 = e / 2 := rfl
  refine ⟨_, _, _, rfl, ?_, ?_, ?_⟩
  · rw [Nat.sqrt_pos, Nat.shiftLeft_eq]
    positivity
  · rw [targetExponent_root, ediv]
    set f := min (e / 2) (max ((m.log2 + e + 2) / 2 - 53) minExponent) with exponent
    rw [grid]
    by_cases low : f ≤ minExponent
    · omega
    · have digits := log2_sqrt_shiftLeft (k := (e - 2 * f).toNat) pos (by omega)
      omega
  · rw [targetExponent_root, ediv]
    rw [minExponent] at least ⊢
    omega

theorem canonical_sqrt {u : UnpackedFloat} (canonical : Canonical u) :
    Canonical (u.sqrt .binary64) := by
  cases u with
  | notANumber => trivial
  | zero => trivial
  | infinity s => cases s <;> trivial
  | finite s m e pos =>
    cases s with
    | negative => trivial
    | positive =>
      obtain ⟨n, f, accuracy, root, positive, within, -⟩ := sqrtCore_spec pos canonical.2.1
      simp only [UnpackedFloat.sqrt, root]
      exact canonical_roundWithAccuracy _ _ positive within

theorem canonical_abs {u : UnpackedFloat} (canonical : Canonical u) : Canonical u.abs := by
  cases u with
  | finite => exact canonical
  | _ => trivial

/-! ## Operations on bit patterns -/

theorem representable (x : Float) : Representable x.toModel.unpack :=
  representable_unpack _

theorem unpack_mul (x y : Float) :
    (x * y).toModel.unpack = bounded (x.toModel.unpack.mul .binary64 y.toModel.unpack) :=
  unpack_pack (canonical_mul (representable x).1 (representable y).1)

theorem unpack_add (x y : Float) :
    (x + y).toModel.unpack = bounded (x.toModel.unpack.add .binary64 y.toModel.unpack) :=
  unpack_pack (canonical_add (representable x).1 (representable y).1)

theorem unpack_sqrt (x : Float) :
    x.sqrt.toModel.unpack = bounded (x.toModel.unpack.sqrt .binary64) :=
  unpack_pack (canonical_sqrt (representable x).1)

theorem unpack_abs (x : Float) : x.abs.toModel.unpack = x.toModel.unpack.abs := by
  obtain ⟨canonical, inRange⟩ := representable x
  refine (unpack_pack (canonical_abs canonical)).trans ?_
  cases unpacked : x.toModel.unpack with
  | finite s m e pos =>
    rw [unpacked, bounded] at inRange
    by_cases large : 971 < e
    · rw [if_pos large] at inRange
      cases inRange
    · exact if_neg large
  | _ => rfl

/-- What is far below the largest number does not overflow. -/
theorem bounded_carried (s : Sign) (r : ℕ) {e : ℤ} (small : e < 971) :
    bounded (carried s r e) = carried s r e := by
  unfold carried
  split
  · rfl
  · split <;> exact if_neg (by omega)

theorem bounded_mul {s t : Sign} {m n : ℕ} {e f : ℤ} {posM : 0 < m} {posN : 0 < n}
    (left : Canonical (.finite s m e posM)) (right : Canonical (.finite t n f posN))
    (small : e + f < 918) :
    bounded (UnpackedFloat.mul .binary64 (.finite s m e posM) (.finite t n f posN)) =
      UnpackedFloat.mul .binary64 (.finite s m e posM) (.finite t n f posN) := by
  have within := product_le_grid posM posN left.2.2 right.2.2
  have bits : (m * n).log2 < 106 := by
    rw [Nat.log2_lt (Nat.mul_pos posM posN).ne', show 106 = 53 + 53 from rfl, Nat.pow_add]
    exact Nat.mul_lt_mul'' left.1 right.1
  have inRange : grid (m * n) (e + f) < 971 := by
    rw [grid, minExponent]
    omega
  show bounded (roundWithAccuracy ..) = roundWithAccuracy ..
  rw [roundWithAccuracy_eq _ _ _ _ within]
  exact bounded_carried _ _ inRange

/-! ## NaN -/

theorem unpack_of_isNaN {x : Float} (nan : x.isNaN = true) :
    x.toModel.unpack = .notANumber := by
  change x.toModel.unpack.isNaN = true at nan
  cases unpacked : x.toModel.unpack with
  | notANumber => rfl
  | infinity | zero | finite => rw [unpacked] at nan; cases nan

theorem isNaN_mul {x y : Float} (nan : x.isNaN = true ∨ y.isNaN = true) :
    (x * y).isNaN = true := by
  show (x * y).toModel.unpack.isNaN = true
  rw [unpack_mul]
  rcases nan with nan | nan
  · rw [unpack_of_isNaN nan]
    rfl
  · rw [unpack_of_isNaN nan]
    cases x.toModel.unpack <;> rfl

theorem isNaN_add {x y : Float} (nan : x.isNaN = true ∨ y.isNaN = true) :
    (x + y).isNaN = true := by
  show (x + y).toModel.unpack.isNaN = true
  rw [unpack_add]
  rcases nan with nan | nan
  · rw [unpack_of_isNaN nan]
    rfl
  · rw [unpack_of_isNaN nan]
    cases x.toModel.unpack <;> rfl

theorem isNaN_abs {x : Float} (nan : x.isNaN = true) : x.abs.isNaN = true := by
  show x.abs.toModel.unpack.isNaN = true
  rw [unpack_abs, unpack_of_isNaN nan]
  rfl

end PathTracking.Binary64
