import PathTracking.Decimal.Basic

/-!
# Rounding to a decimal grid

A binary64 number rounded, from its exact value and half to even, to a multiple of a
power of ten, and written out with a number of places after the point.
-/
namespace PathTracking.Decimal

/-- `± mantissa · 2 ^ exponent` to the nearest multiple of `10 ^ unit`. -/
def onGrid (negative : Bool) (mantissa : Nat) (exponent unit : Int) : Decimal :=
  let (n, d) := Binary64.scale 2 mantissa 1 exponent
  let (n, d) := Binary64.scale 10 n d (-unit)
  ⟨negative, Binary64.roundHalfEven n d, unit⟩

/-- `digits` with a point before the last `places` of them. -/
def pointed (digits : Nat) (places : Nat) : List Char :=
  let text := digitsOf digits
  let text := List.replicate (places + 1 - text.length) '0' ++ text
  let whole := text.length - places
  text.take whole ++ (if places = 0 then [] else '.' :: text.drop whole)

/-- A number with exactly `places` digits after the point. -/
def fixed (x : Float) (places : Nat) : String :=
  match Binary64.decode x with
  | .nan => "nan"
  | .infinite negative => if negative then "-inf" else "inf"
  | .finite s m e =>
    let sign := if s then ['-'] else []
    String.ofList (sign ++ pointed (onGrid s m e (-places)).digits places)

end PathTracking.Decimal
