import PathTracking.Binary64.Basic

/-!
# Decimal numbers

A decimal number is `± digits · 10 ^ exponent`. `toFloat` is the nearest binary64
number; it never forms a power of ten that could not matter, so a numeral with an
enormous exponent costs nothing.
-/
namespace PathTracking

structure Decimal where
  negative : Bool
  digits : Nat
  exponent : Int
  deriving DecidableEq, Repr

namespace Decimal

/-- The digits of `n` in base ten, without leading zeros; zero has one digit. -/
def digitsOf (n : Nat) : List Char := Nat.toDigits 10 n

/-- Beyond `10 ^ 310` every number overflows and below `10 ^ -330` every one vanishes. -/
def toFloat (d : Decimal) : Float :=
  let magnitude : Int := (digitsOf d.digits).length + d.exponent
  if d.digits = 0 ∨ magnitude < -330 then Binary64.zero d.negative
  else if 310 < magnitude then Binary64.infinity d.negative
  else
    let (n, m) := Binary64.scale 10 d.digits 1 d.exponent
    Binary64.ofRatio d.negative n m

end Decimal
end PathTracking
