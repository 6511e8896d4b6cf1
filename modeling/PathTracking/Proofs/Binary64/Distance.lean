import Mathlib
import PathTracking.Binary64.Arithmetic
import PathTracking.Geometry.Point

/-!
# Comparing binary64 distances

Of two numbers one is at most the other, and a NaN compares to nothing (`le_iff`). A difference
only changes its sign when its sides are exchanged, and a hypotenuse reads no signs, so that a
distance is the same from either of its points (`planeDistance_comm`). Both hold for all bit
patterns, infinities and NaN included: they are read off the unpacked numbers.
-/
namespace PathTracking.Binary64

open Float.Model (UnpackedFloat)
open Float.Model.UnpackedFloat (Sign packComponents)

/-! ## Comparisons -/

/-- What two numbers compare as, if both are numbers. -/
def comparison (x y : Float) : Option Ordering := x.toModel.unpack.compare y.toModel.unpack

theorem lt_iff_comparison {x y : Float} : x < y ↔ comparison x y = some .lt := by
  show decide (x.toModel < y.toModel) = true ↔ _
  rw [decide_eq_true_iff]
  show (comparison x y == some .lt) = true ↔ _
  rw [beq_iff_eq]

theorem le_iff_comparison {x y : Float} :
    x ≤ y ↔ comparison x y = some .lt ∨ comparison x y = some .eq := by
  show decide (x.toModel ≤ y.toModel) = true ↔ _
  rw [decide_eq_true_iff]
  show (comparison x y).any Ordering.isLE = true ↔ _
  cases comparison x y with
  | none => simp
  | some order => cases order <;> simp [Ordering.isLE]

/-- Only a NaN has no place among the numbers. -/
theorem comparison_isSome (x y : Float) :
    (comparison x y).isSome = true ↔ x.isNaN = false ∧ y.isNaN = false := by
  show (UnpackedFloat.compare _ _).isSome = true ↔
    x.toModel.unpack.isNaN = false ∧ y.toModel.unpack.isNaN = false
  generalize x.toModel.unpack = u
  generalize y.toModel.unpack = v
  cases u with
  | notANumber => cases v <;> simp [UnpackedFloat.compare, UnpackedFloat.isNaN]
  | infinity s => cases v <;> cases s <;> simp [UnpackedFloat.compare, UnpackedFloat.isNaN]
  | zero s =>
    cases v with
    | infinity t | finite t => cases t <;> simp [UnpackedFloat.compare, UnpackedFloat.isNaN]
    | _ => simp [UnpackedFloat.compare, UnpackedFloat.isNaN]
  | finite s =>
    cases v with
    | infinity t | finite t =>
      cases s <;> cases t <;> simp [UnpackedFloat.compare, UnpackedFloat.isNaN]
    | _ => cases s <;> simp [UnpackedFloat.compare, UnpackedFloat.isNaN]

theorem comparison_swap (x y : Float) : comparison y x = (comparison x y).map .swap := by
  unfold comparison
  generalize x.toModel.unpack = u
  generalize y.toModel.unpack = v
  cases u with
  | notANumber => cases v with
    | infinity t | finite t => cases t <;> rfl
    | _ => rfl
  | infinity s =>
    cases v with
    | infinity t | finite t => cases s <;> cases t <;> rfl
    | _ => cases s <;> rfl
  | zero s =>
    cases v with
    | infinity t | finite t => cases t <;> rfl
    | _ => rfl
  | finite s =>
    cases v with
    | infinity t => cases s <;> cases t <;> rfl
    | finite t =>
      cases s <;> cases t <;>
        simp [UnpackedFloat.compare, Ordering.swap_then, Int.compare_swap, Nat.compare_swap]
    | _ => cases s <;> rfl

/-- What is not greater is at most as great, of numbers. -/
theorem le_iff {x y : Float} : x ≤ y ↔ ¬ y < x ∧ x.isNaN = false ∧ y.isNaN = false := by
  rw [le_iff_comparison, lt_iff_comparison, comparison_swap x y, ← comparison_isSome]
  cases comparison x y with
  | none => simp
  | some order => cases order <;> simp [Ordering.swap]

theorem beq_iff_comparison {x y : Float} : (x == y) = true ↔ comparison x y = some .eq := by
  show (comparison x y == some .eq) = true ↔ _
  rw [beq_iff_eq]

/-- What is neither greater nor equal is less, of numbers. -/
theorem lt_iff {x y : Float} (numberX : x.isNaN = false) (numberY : y.isNaN = false) :
    x < y ↔ ¬ y < x ∧ (x == y) = false := by
  have ordered := (comparison_isSome x y).mpr ⟨numberX, numberY⟩
  rw [lt_iff_comparison, lt_iff_comparison, Bool.eq_false_iff, ne_eq, beq_iff_comparison,
    comparison_swap x y]
  generalize comparison x y = order at ordered
  cases order with
  | none => cases ordered
  | some order => cases order <;> simp [Ordering.swap]

theorem isNaN_of_lt {x y : Float} (less : x < y) : x.isNaN = false ∧ y.isNaN = false := by
  rw [← comparison_isSome, lt_iff_comparison.mp less]
  rfl

/-! ## Signs -/

theorem abs_round (s t : Sign) (m : Nat) (e : Int) :
    (UnpackedFloat.round .binary64 s m e).abs = (UnpackedFloat.round .binary64 t m e).abs := by
  unfold UnpackedFloat.round UnpackedFloat.roundWithAccuracy
  dsimp only
  split <;> rfl

theorem abs_normalize_neg (m e : Int) (s : Sign) :
    (UnpackedFloat.normalize .binary64 (-m) e s).abs =
      (UnpackedFloat.normalize .binary64 m e s).abs := by
  unfold UnpackedFloat.normalize
  rcases Int.lt_trichotomy m 0 with negative | rfl | positive
  · rw [Int.compare_eq_gt.mpr (by omega : 0 < -m), Int.compare_eq_lt.mpr negative]
    exact abs_round ..
  · rfl
  · rw [Int.compare_eq_lt.mpr (by omega : -m < 0), Int.compare_eq_gt.mpr positive]
    dsimp only
    rw [Int.neg_neg]
    exact abs_round ..

theorem abs_sub_comm (u v : UnpackedFloat) :
    (u.sub .binary64 v).abs = (v.sub .binary64 u).abs := by
  cases u with
  | notANumber => cases v <;> rfl
  | infinity s =>
    cases v with
    | infinity t => cases s <;> cases t <;> rfl
    | _ => rfl
  | zero s =>
    cases v with
    | zero t => cases s <;> cases t <;> rfl
    | _ => rfl
  | finite s m e =>
    cases v with
    | finite t n f =>
      -- Both differences are rounded from the same exponent, and their mantissas are opposite.
      unfold UnpackedFloat.sub
      dsimp only
      rw [Int.min_comm f e, ← abs_normalize_neg, Int.neg_sub]
    | _ => rfl

theorem toNat_append_eq {m n : Nat} (v : BitVec m) (w : BitVec n) :
    (v ++ w).toNat = v.toNat * 2 ^ n + w.toNat := by
  rw [BitVec.toNat_append, ← Nat.shiftLeft_add_eq_or_of_lt w.isLt, Nat.shiftLeft_eq]

theorem toNat_packComponents (s : Sign) (e : BitVec 11) (m : BitVec 52) :
    (packComponents .binary64 s e m).toNat =
      (s.toBitVec.toNat * 2 ^ 11 + e.toNat) * 2 ^ 52 + m.toNat := by
  rw [← toNat_append_eq, ← toNat_append_eq]
  rfl

/-- The sign is the highest of the 64 bits. -/
theorem packComponents_mod (s t : Sign) (e : BitVec 11) (m : BitVec 52) :
    (packComponents .binary64 s e m).toNat % 2 ^ 63 =
      (packComponents .binary64 t e m).toNat % 2 ^ 63 := by
  rw [toNat_packComponents, toNat_packComponents]
  omega

theorem pack_abs (u : UnpackedFloat) :
    (u.abs.pack .binary64).toNat % 2 ^ 63 = (u.pack .binary64).toNat % 2 ^ 63 := by
  cases u with
  | notANumber => rfl
  | infinity s | zero s => exact packComponents_mod ..
  | finite s m e =>
    unfold UnpackedFloat.abs UnpackedFloat.pack
    dsimp only
    split
    · exact packComponents_mod ..
    · split <;> exact packComponents_mod ..

theorem bits_sub_comm (x y : Float) :
    (x - y).toBits.toNat % 2 ^ 63 = (y - x).toBits.toNat % 2 ^ 63 := by
  show ((x.toModel.unpack.sub .binary64 y.toModel.unpack).pack .binary64).toNat % 2 ^ 63 =
    ((y.toModel.unpack.sub .binary64 x.toModel.unpack).pack .binary64).toNat % 2 ^ 63
  rw [← pack_abs, abs_sub_comm, pack_abs]

/-! ## The hypotenuse -/

/-- Equality but for the sign. -/
inductive Value.UpToSign : Value → Value → Prop
  | nan : UpToSign .nan .nan
  | infinite (s t : Bool) : UpToSign (.infinite s) (.infinite t)
  | finite (s t : Bool) (m : Nat) (e : Int) : UpToSign (.finite s m e) (.finite t m e)

theorem decodeBits_upToSign {b c : Nat} (same : b % 2 ^ 63 = c % 2 ^ 63) :
    (decodeBits b).UpToSign (decodeBits c) := by
  have field : b / Nat.pow 2 52 % 2048 = c / Nat.pow 2 52 % 2048 := by
    simp only [Nat.pow_eq]
    omega
  have fraction : b % Nat.pow 2 52 = c % Nat.pow 2 52 := by
    simp only [Nat.pow_eq]
    omega
  unfold decodeBits
  simp only [field, fraction]
  split
  · split
    · exact .infinite _ _
    · exact .nan
  · split <;> exact .finite _ _ _ _

theorem hypot_congr {x x' y y' : Float} (abscissa : (decode x).UpToSign (decode x'))
    (ordinate : (decode y).UpToSign (decode y')) : hypot x y = hypot x' y' := by
  unfold hypot
  generalize decode x = u, decode x' = u' at abscissa
  generalize decode y = v, decode y' = v' at ordinate
  cases abscissa with
  | nan | infinite => cases ordinate <;> rfl
  | finite s t m e =>
    cases ordinate with
    | nan | infinite => rfl
    | finite s' t' n f => cases m <;> cases n <;> rfl

/-- A distance is the same from either of its points. -/
theorem planeDistance_comm (p q : Point Float) : p.planeDistance q = q.planeDistance p :=
  hypot_congr (decodeBits_upToSign (bits_sub_comm p.x q.x))
    (decodeBits_upToSign (bits_sub_comm p.y q.y))

end PathTracking.Binary64
