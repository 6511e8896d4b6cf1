import PathTracking.Binary64.Arithmetic

/-!
# Angles in degrees

Arithmetic on angles that stays accurate near multiples of ninety degrees: differences
with their rounding error, and sines and cosines reduced to the first octant before they
are taken in radians.
-/
namespace PathTracking.Geodesic

/-- The magnitude of `x` with the sign of `y`. -/
def copySign (x y : Float) : Float :=
  if Binary64.isNegative y then -x.abs else x.abs

/-- The greater number; the first unless the second is strictly greater. -/
def maxOf (a b : Float) : Float := if b > a then b else a

def radians (x : Float) : Float := Scalar.toRadians x

def degrees (x : Float) : Float := Scalar.toDegrees x

def square (x : Float) : Float := x * x

/-- The vector `(x, y)` at unit length. -/
def normalize (x y : Float) : Float × Float :=
  let r := Binary64.hypot x y
  (x / r, y / r)

/-- The remainder of `x` by a full turn, from -180 to 180. -/
def turnRemainder (x : Float) : Float :=
  let z := Binary64.truncMod x 360
  let z := if x == 0 then x else z
  if z < -180 then z + 360 else if z < 180 then z else z - 360

/-- A sum and its rounding error. -/
def exactSum (u v : Float) : Float × Float :=
  let s := u + v
  let up := s - v
  let vpp := s - up
  let up := up - u
  let vpp := vpp - v
  (s, if s == 0 then s else 0 - (up + vpp))

/-- The difference `y - x` of two angles, from -180 to 180, and its rounding error. -/
def difference (x y : Float) : Float × Float :=
  let (d, t) := exactSum (turnRemainder (-x)) (turnRemainder y)
  let (d, t) := exactSum (turnRemainder d) t
  if d == 0 || d.abs == 180 then (copySign d (if t == 0 then y - x else -t), t) else (d, t)

/-- Rounds tiny angles to a multiple of `2 ^ -57`, so that none underflows. -/
def roundTiny (x : Float) : Float :=
  let z : Float := 0.0625
  let y := x.abs
  let w := z - y
  copySign (if w > 0 then z - w else y) x

/-- A latitude; NaN beyond a pole. -/
def latitude (x : Float) : Float := if x.abs > 90 then Binary64.nan else x

/-- Sine and cosine, `quarters` quarter turns after those of an angle. -/
def turned (s c : Float) (quarters : Int) : Float × Float :=
  match quarters % 4 with
  | 1 => (c, -s)
  | 2 => (-s, -c)
  | 3 => (-c, s)
  | _ => (s, c)

/-- The nearest number of quarter turns. -/
def quartersOf (x : Float) : Int :=
  if x.isFinite then
    let n := (x / 90).round
    if n < 0 then -(n.abs.toUInt64.toNat : Int) else n.toUInt64.toNat
  else 0

def sineCosine (x : Float) : Float × Float :=
  let r := Binary64.truncMod x 360
  let q := quartersOf r
  let r := radians (r - 90 * Binary64.ofInt q)
  let (s, c) := turned r.sin r.cos q
  (if s == 0 then copySign s x else s, c + 0)

/-- Sine and cosine of a difference with its rounding error. -/
def sineCosineError (x error : Float) : Float × Float :=
  let q := quartersOf x
  let r := radians (roundTiny (x - 90 * Binary64.ofInt q + error))
  let (s, c) := turned r.sin r.cos q
  (if s == 0 then copySign s x else s, c + 0)

/-- The direction of the point `(x, y)`, exact on the axes and diagonals. -/
def direction (y x : Float) : Float :=
  let swap : Bool := y.abs > x.abs
  let (y', x') := if swap then (x, y) else (y, x)
  let flip : Bool := x' < 0
  let angle := degrees (Float.atan2 y' x'.abs)
  match swap, flip with
  | false, false => angle
  | false, true => copySign 180 y' - angle
  | true, false => 90 - angle
  | true, true => -90 + angle

end PathTracking.Geodesic
