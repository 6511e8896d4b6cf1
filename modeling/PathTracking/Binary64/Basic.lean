/-!
# Binary64 numbers as integers

A finite binary64 number is `± mantissa · 2 ^ exponent`. `decode` reads these off the
bit pattern and `ofRatio` goes back, rounding a quotient of naturals to the nearest
number, ties to the even mantissa. Everything between a `Float` and a decimal text goes
through these two, in exact natural-number arithmetic.
-/
namespace PathTracking.Binary64

/-- What a bit pattern stands for. `negative` is the sign bit, of zeros too. -/
inductive Value
  | nan
  | infinite (negative : Bool)
  | finite (negative : Bool) (mantissa : Nat) (exponent : Int)
  deriving DecidableEq, Repr

/-- The exponent of the least positive number. -/
def minExponent : Int := -1074

def decodeBits (bits : Nat) : Value :=
  let negative : Bool := Nat.pow 2 63 ≤ bits
  let field : Nat := bits / Nat.pow 2 52 % 2048
  let fraction : Nat := bits % Nat.pow 2 52
  if field = 2047 then
    if fraction = 0 then .infinite negative else .nan
  else if field = 0 then .finite negative fraction minExponent
  else .finite negative (Nat.pow 2 52 + fraction) ((field : Int) - 1075)

def decode (x : Float) : Value := decodeBits x.toBits.toNat

def isNegative (x : Float) : Bool := Nat.pow 2 63 ≤ x.toBits.toNat

def infinityBits : Nat := 2047 * Nat.pow 2 52

def ofMagnitude (negative : Bool) (bits : Nat) : Float :=
  Float.ofBits (UInt64.ofNat (bits + if negative then Nat.pow 2 63 else 0))

def zero (negative : Bool) : Float := ofMagnitude negative 0

def infinity (negative : Bool) : Float := ofMagnitude negative infinityBits

def nan : Float := Float.ofBits (UInt64.ofNat (2047 * Nat.pow 2 52 + Nat.pow 2 51))

/-- `num / den` to the nearest integer, a half to the even neighbour. -/
def roundHalfEven (num den : Nat) : Nat :=
  let quotient := num / den
  let twice := 2 * (num % den)
  if twice < den then quotient
  else if twice = den then quotient + quotient % 2
  else quotient + 1

/-- The numerator and denominator of `(num / den) · base ^ exponent`. -/
def scale (base : Nat) (num den : Nat) (exponent : Int) : Nat × Nat :=
  if 0 ≤ exponent then (num * Nat.pow base exponent.toNat, den)
  else (num, den * Nat.pow base (-exponent).toNat)

/-- The integer that a number is, if it has no fraction. -/
def toInt? (x : Float) : Option Int :=
  match decode x with
  | .finite negative m e =>
    let (n, d) := scale 2 m 1 e
    if n % d = 0 then some (if negative then -(n / d : Nat) else (n / d : Nat)) else none
  | _ => none

/-- The exponent that leaves `num / den` a mantissa of 53 bits, or the least one. -/
def exponentFor (num den : Nat) : Int :=
  let guess : Int := (num.log2 : Int) - den.log2 - 53
  let (n, d) := scale 2 num den (-guess)
  -- The logarithms leave the quotient with 53 or 54 bits.
  let exact := if n / d < Nat.pow 2 53 then guess else guess + 1
  if exact < minExponent then minExponent else exact

/-- The binary64 number nearest to `± num / den`, ties to the even mantissa, with
overflow to infinity. The bit pattern of a positive number is `2 ^ 52` times its
exponent, counted from the least, plus its mantissa: a mantissa that rounds up to
`2 ^ 53` carries into the exponent by itself. -/
def ofRatio (negative : Bool) (num den : Nat) : Float :=
  if num = 0 ∨ den = 0 then zero negative
  else
    let exponent := exponentFor num den
    let (n, d) := scale 2 num den (-exponent)
    let bits := (exponent - minExponent).toNat * Nat.pow 2 52 + roundHalfEven n d
    ofMagnitude negative (if bits < infinityBits then bits else infinityBits)

/-- The number nearest to `± mantissa · 2 ^ exponent`. -/
def ofBinary (negative : Bool) (mantissa : Nat) (exponent : Int) : Float :=
  let (n, d) := scale 2 mantissa 1 exponent
  ofRatio negative n d

/-- The number nearest to an integer. -/
def ofInt (n : Int) : Float := ofRatio (n < 0) n.natAbs 1

end PathTracking.Binary64
