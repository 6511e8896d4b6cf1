import PathTracking.Proofs.Binary64.Magnitude

/-!
# Lengths that are not zero

A hypotenuse is the root of an exact sum of squares, rounded once. The integer root is not too small
(`floorSqrt_ge`), so the length is not below the longer side and is not rounded to zero unless both
sides are zeros (`hypot_ne_zero`).
-/
namespace PathTracking.Binary64

open Float.Model (UnpackedFloat)
open Float.Model.UnpackedFloat (Sign pack unpack unpackExponent unpackMantissa)

/-! ## Integer square roots -/

theorem floorSqrtFrom_ge {n k : ℕ} (root : k * k ≤ n) (fuel guess : ℕ) (above : k ≤ guess) :
    k ≤ floorSqrtFrom n fuel guess := by
  induction fuel generalizing guess with
  | zero => exact above
  | succ fuel ih =>
    rw [floorSqrtFrom]
    split
    · refine ih _ ?_
      rcases Nat.eq_zero_or_pos guess with rfl | positive
      · omega
      -- The mean of two factors is at least their geometric one.
      have quotient : 2 * k - guess ≤ n / guess := by
        rw [Nat.le_div_iff_mul_le positive]
        refine le_trans ?_ root
        rcases Nat.le_total (2 * k) guess with far | near
        · rw [Nat.sub_eq_zero_of_le far, Nat.zero_mul]
          exact Nat.zero_le _
        · zify [near]
          nlinarith [sq_nonneg ((k : ℤ) - guess)]
      omega
    · exact above

theorem floorSqrt_ge {n k : ℕ} (root : k * k ≤ n) : k ≤ floorSqrt n := by
  unfold floorSqrt
  split
  next zero =>
    rw [zero] at root
    nlinarith
  · refine floorSqrtFrom_ge root _ _ ?_
    by_contra above
    have := calc n < 2 ^ (n.log2 + 1) := Nat.lt_log2_self
      _ ≤ 2 ^ (n.log2 / 2 + 1 + (n.log2 / 2 + 1)) := Nat.pow_le_pow_right Nat.two_pos (by omega)
      _ = Nat.pow 2 (n.log2 / 2 + 1) * Nat.pow 2 (n.log2 / 2 + 1) := Nat.pow_add ..
      _ ≤ k * k := Nat.mul_self_le_mul_self (by omega)
    omega

/-! ## Zeros among bit patterns -/

theorem toNat_unpackExponent (b : BitVec 64) :
    (@unpackExponent .binary64 b).toNat = b.toNat / 2 ^ 52 % 2 ^ 11 := by
  simp only [unpackExponent, BitVec.toNat_cast, BitVec.extractLsb_toNat, Nat.shiftRight_eq_div_pow]

theorem toNat_unpackMantissa (b : BitVec 64) :
    (@unpackMantissa .binary64 b).toNat = b.toNat % 2 ^ 52 := by
  simp only [unpackMantissa, BitVec.toNat_cast, BitVec.extractLsb_toNat, Nat.shiftRight_zero]

theorem unpack_eq_zero_iff (b : BitVec 64) :
    (∃ s, unpack .binary64 b = .zero s) ↔ b.toNat % 2 ^ 63 = 0 := by
  have exponent := toNat_unpackExponent b
  have mantissa := toNat_unpackMantissa b
  unfold unpack
  dsimp only
  split
  next full =>
    rw [full] at exponent
    change 2047 = _ at exponent
    have filled : b.toNat % 2 ^ 63 ≠ 0 := by omega
    split <;> exact iff_of_false nofun filled
  · split
    next zero =>
      rw [zero] at exponent
      change 0 = _ at exponent
      split
      next none =>
        rw [none] at mantissa
        change 0 = _ at mantissa
        exact iff_of_true ⟨_, rfl⟩ (by omega)
      next some =>
        have : (@unpackMantissa .binary64 b).toNat ≠ 0 := fun same =>
          some (BitVec.eq_of_toNat_eq same)
        exact iff_of_false nofun (by omega)
    next positive =>
      have : (@unpackExponent .binary64 b).toNat ≠ 0 := fun same =>
        positive (BitVec.eq_of_toNat_eq same)
      exact iff_of_false nofun (by omega)

theorem unpack_ofBits (b : UInt64) :
    (Float.ofBits b).toModel.unpack = unpack .binary64 b.toBitVec := by
  obtain ⟨canonical, inRange⟩ := representable_unpack b.toBitVec
  exact (unpack_pack canonical).trans inRange

theorem ofMagnitude_ne_zero {bits : ℕ} (pos : 0 < bits) (upper : bits ≤ infinityBits) :
    (ofMagnitude false bits == 0) = false := by
  refine beq_zero_eq_false fun s unpacked => ?_
  rw [ofMagnitude, unpack_ofBits] at unpacked
  have zero := (unpack_eq_zero_iff _).mp ⟨s, unpacked⟩
  have small : bits < 2 ^ 63 := upper.trans_lt (by decide)
  rw [UInt64.toNat_toBitVec, UInt64.toNat_ofNat'] at zero
  simp only [Bool.false_eq_true, if_false] at zero
  omega

theorem exponentFor_ge (num den : ℕ) : minExponent ≤ exponentFor num den := by
  unfold exponentFor
  dsimp only
  split <;> omega

theorem ofRatio_ne_zero {num den : ℕ} (posN : 0 < num) (posD : 0 < den)
    (large : den ≤ num * 2 ^ (-minExponent).toNat) : (ofRatio false num den == 0) = false := by
  have least := exponentFor_ge num den
  unfold ofRatio
  rw [if_neg (by omega)]
  dsimp only
  refine ofMagnitude_ne_zero ?_ ?_
  · split
    · rcases least.lt_or_eq with above | same
      · have : 0 < (exponentFor num den - minExponent).toNat := by omega
        simp only [Nat.pow_eq]
        omega
      · have : 1 ≤ roundHalfEven (scale 2 num den (-exponentFor num den)).1
            (scale 2 num den (-exponentFor num den)).2 := by
          refine le_trans ?_ (roundHalfEven_bounds _ _).1
          have scaled : (0 : ℤ) ≤ -minExponent := by decide
          rw [← same, scale, if_pos scaled, Nat.le_div_iff_mul_le posD, Nat.one_mul]
          simpa only [Nat.pow_eq] using large
        omega
    · decide
  · split <;> omega

theorem ofBinary_ne_zero {m : ℕ} {e : ℤ} (pos : 0 < m) (large : minExponent ≤ m.log2 + e) :
    (ofBinary false m e == 0) = false := by
  by_cases nonneg : 0 ≤ e
  · have scaled : 0 < m * Nat.pow 2 e.toNat := Nat.mul_pos pos (Nat.two_pow_pos _)
    rw [ofBinary, scale, if_pos nonneg]
    exact ofRatio_ne_zero scaled Nat.one_pos (Nat.mul_pos scaled (Nat.two_pow_pos _))
  · rw [ofBinary, scale, if_neg nonneg]
    refine ofRatio_ne_zero pos (Nat.mul_pos Nat.one_pos (Nat.two_pow_pos _)) ?_
    rw [Nat.one_mul]
    exact two_pow_le_mul pos (by omega)

/-! ## Lengths -/

theorem sqrtOf_ne_zero {square : ℕ} {e : ℤ} (pos : 0 < square) (least : minExponent ≤ e) :
    (sqrtOf square e == 0) = false := by
  unfold sqrtOf
  dsimp only
  set widen := (110 - square.log2) / 2
  have root : 2 ^ widen ≤ floorSqrt (square * Nat.pow 4 widen) := by
    refine floorSqrt_ge ?_
    rw [← Nat.mul_pow]
    exact Nat.le_mul_of_pos_left _ pos
  generalize floorSqrt (square * Nat.pow 4 widen) = r at root
  have positive := Nat.two_pow_pos widen
  have doubled : 2 ^ (widen + 1) ≤ 2 * r + if r * r = square * Nat.pow 4 widen then 0 else 1 := by
    rw [Nat.pow_succ]
    omega
  have bits := (Nat.le_log2 (by omega)).mpr doubled
  exact ofBinary_ne_zero (by omega) (by omega)

theorem decode_finite {x : Float} {s : Bool} {m : ℕ} {e : ℤ} (decoded : decode x = .finite s m e) :
    minExponent ≤ e ∧ ((∀ t, x.toModel.unpack ≠ .zero t) → 0 < m) := by
  unfold decode decodeBits at decoded
  dsimp only at decoded
  split at decoded
  · split at decoded <;> cases decoded
  · split at decoded
    next low =>
      cases decoded
      refine ⟨le_rfl, fun nonzero => ?_⟩
      by_contra none
      obtain ⟨t, unpacked⟩ := (unpack_eq_zero_iff x.toBits.toBitVec).mpr (by
        rw [UInt64.toNat_toBitVec]
        simp only [Nat.pow_eq] at low none
        omega)
      exact nonzero t unpacked
    · cases decoded
      refine ⟨?_, fun _ => Nat.add_pos_left (Nat.two_pow_pos 52) _⟩
      rw [minExponent]
      omega

/-- The length of a vector is zero only if both its sides are. -/
theorem hypot_ne_zero {x y : Float}
    (nonzero : (∀ s, x.toModel.unpack ≠ .zero s) ∨ ∀ s, y.toModel.unpack ≠ .zero s) :
    (hypot x y == 0) = false := by
  have endless : (infinity false == 0) = false := ofMagnitude_ne_zero (by decide) le_rfl
  have number : (nan == 0) = false := rfl
  unfold hypot
  cases decodedX : decode x with
  | nan | infinite s => cases decode y <;> first | exact endless | exact number
  | finite s m e =>
    obtain ⟨leastX, positiveX⟩ := decode_finite decodedX
    cases decodedY : decode y with
    | nan => cases m <;> exact number
    | infinite t => cases m <;> exact endless
    | finite t n f =>
      obtain ⟨leastY, positiveY⟩ := decode_finite decodedY
      cases m with
      | zero =>
        -- The length of a side that stands alone is that side.
        have positive : 0 < n :=
          nonzero.elim (fun h => absurd (positiveX h) (lt_irrefl 0)) positiveY
        exact ofBinary_ne_zero positive (by omega)
      | succ m =>
        cases n with
        | zero => exact ofBinary_ne_zero (Nat.succ_pos m) (by omega)
        | succ n =>
          have side : 0 < (m + 1) * Nat.pow 2 (e - if e ≤ f then e else f).toNat :=
            Nat.mul_pos (Nat.succ_pos m) (Nat.two_pow_pos _)
          refine sqrtOf_ne_zero (Nat.add_pos_left (Nat.mul_pos side side) _) ?_
          split <;> assumption

end PathTracking.Binary64
