import PathTracking.Scalar
import PathTracking.Binary64.Basic

/-!
# Binary64 arithmetic

`Float` as a `Scalar`. The remainder and the hypotenuse are computed exactly on the
decoded numbers and rounded once, so both are the nearest binary64 number to the true
value; the remainder then takes the sign of its divisor.
-/
namespace PathTracking.Binary64

/-- Newton's iteration from above: it falls until it reaches the integer square root. -/
def floorSqrtFrom (n : Nat) : Nat → Nat → Nat
  | 0, guess => guess
  | fuel + 1, guess =>
    let next := (guess + n / guess) / 2
    if next < guess then floorSqrtFrom n fuel next else guess

/-- The largest natural number whose square is at most `n`. -/
def floorSqrt (n : Nat) : Nat :=
  if n = 0 then 0 else floorSqrtFrom n (n.log2 + 2) (Nat.pow 2 (n.log2 / 2 + 1))

/-- The nearest number to the square root of `square · 4 ^ exponent`. The square is
first widened to 110 bits, which gives a root of 55: a trailing odd bit marks an inexact
root, so that rounding it never sees a tie that is none. -/
def sqrtOf (square : Nat) (exponent : Int) : Float :=
  let widen := (110 - square.log2) / 2
  let widened := square * Nat.pow 4 widen
  let root := floorSqrt widened
  let marked := 2 * root + if root * root = widened then 0 else 1
  ofBinary false marked (exponent - widen - 1)

/-- The length of the vector `(x, y)`; infinite as soon as one side is. -/
def hypot (x y : Float) : Float :=
  match decode x, decode y with
  | .infinite _, _ | _, .infinite _ => infinity false
  | .nan, _ | _, .nan => nan
  | .finite _ 0 _, .finite _ m e => ofBinary false m e
  | .finite _ m e, .finite _ 0 _ => ofBinary false m e
  | .finite _ m e, .finite _ n f =>
    let low := if e ≤ f then e else f
    let a := m * Nat.pow 2 (e - low).toNat
    let b := n * Nat.pow 2 (f - low).toNat
    sqrtOf (a * a + b * b) low

/-- The remainder of truncated division, exact, with the sign of `x`. -/
def truncMod (x y : Float) : Float :=
  match decode x, decode y with
  | .nan, _ | _, .nan | .infinite _, _ => nan
  | .finite .., .infinite _ => x
  | .finite s m e, .finite _ n f =>
    if n = 0 then nan
    else
      let low := if e ≤ f then e else f
      ofBinary s (m * Nat.pow 2 (e - low).toNat % (n * Nat.pow 2 (f - low).toNat)) low

/-- The remainder with the sign of the divisor, which a zero takes too. -/
def floorMod (x y : Float) : Float :=
  let r := truncMod x y
  if r == 0 then zero (isNegative y)
  else if (y < 0) != (r < 0) then r + y
  else r

def pi : Float := 3.141592653589793

def onFinite (f : Float → Float) (x : Float) : Except Fault Float :=
  if x.isInf then .error .outsideDomain else .ok (f x)

instance : Scalar Float where
  decLt := fun a b => inferInstanceAs (Decidable (a < b))
  decLe := fun a b => inferInstanceAs (Decidable (a ≤ b))
  abs := Float.abs
  degree := pi / 180
  radian := 180 / pi
  hypot := hypot
  atan := Float.atan
  atan2 := Float.atan2
  floorMod := floorMod
  div := fun x y => if y == 0 then .error .divisionByZero else .ok (x / y)
  sqrt := fun x => if x < 0 then .error .outsideDomain else .ok x.sqrt
  square := fun x =>
    let y := x * x
    if y.isInf && !x.isInf then .error .overflow else .ok y
  sin := onFinite Float.sin
  cos := onFinite Float.cos
  tan := onFinite Float.tan

end PathTracking.Binary64
