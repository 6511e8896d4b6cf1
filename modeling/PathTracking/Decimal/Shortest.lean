import PathTracking.Decimal.Basic

/-!
# The shortest numeral of a binary64 number

The reals that round to a binary64 number form an interval around it, which contains its
ends exactly if the mantissa is even. `shortest` looks at the grids of multiples of a
power of ten from coarse to fine: the first grid with a point in the interval gives the
fewest digits, and of two such points the nearer is taken. `text` writes the result
positionally from `1e-4` to below `1e16` and with an exponent elsewhere.
-/
namespace PathTracking.Decimal

/-- The interval of the reals that round to a number, in quarters of its last place,
around `4 * mantissa`. -/
structure Neighbourhood where
  low : Nat
  centre : Nat
  high : Nat
  closed : Bool
  deriving DecidableEq, Repr

/-- Below a power of two the next number is half as far away, except at the least
exponent. -/
def Neighbourhood.of (mantissa : Nat) (exponent : Int) : Neighbourhood where
  low := if mantissa = Nat.pow 2 52 ∧ exponent ≠ Binary64.minExponent then 4 * mantissa - 1
    else 4 * mantissa - 2
  centre := 4 * mantissa
  high := 4 * mantissa + 2
  closed := mantissa % 2 = 0

/-- `num / den` lies in the neighbourhood. -/
def Neighbourhood.holds (h : Neighbourhood) (num den : Nat) : Bool :=
  if h.closed then h.low * den ≤ num && num ≤ h.high * den
  else h.low * den < num && num < h.high * den

/-- The multiples of `num / den` next to the centre that lie in the neighbourhood: the
nearer one if both do, the even one if they are equally near. -/
def Neighbourhood.onGrid? (h : Neighbourhood) (num den : Nat) : Option Nat :=
  let below := h.centre * den / num
  let above := below + 1
  match h.holds (below * num) den, h.holds (above * num) den with
  | false, false => none
  | true, false => some below
  | false, true => some above
  | true, true =>
    let toBelow := h.centre * den - below * num
    let toAbove := above * num - h.centre * den
    if toBelow < toAbove then some below
    else if toAbove < toBelow then some above
    else some (below + below % 2)

/-- Tries the grid of `10 ^ unit` and then finer ones. -/
def shortestFrom (h : Neighbourhood) (negative : Bool) (exponent : Int) :
    Nat → Int → Decimal
  | 0, unit => ⟨negative, 0, unit⟩
  | fuel + 1, unit =>
    let (n, d) := Binary64.scale 10 1 1 unit
    let (n, d) := Binary64.scale 2 n d (2 - exponent)
    match h.onGrid? n d with
    | some digits => ⟨negative, digits, unit⟩
    | none => shortestFrom h negative exponent fuel (unit - 1)

/-- The decimal of fewest digits that rounds to `± mantissa · 2 ^ exponent`. The first
grid is coarser than the number, and seventeen digits always suffice. -/
def shortest (negative : Bool) (mantissa : Nat) (exponent : Int) : Decimal :=
  if mantissa = 0 then ⟨negative, 0, 0⟩
  else
    let start := ((mantissa.log2 : Int) + 1 + exponent) * 30103 / 100000 + 2
    shortestFrom (.of mantissa exponent) negative exponent 24 start

/-- The layout of a numeral: positional while the exponent of the first digit is at
least `lowest` and below `limit`. -/
structure Layout where
  lowest : Int
  limit : Int
  /-- The least number of digits of a written exponent. -/
  exponentWidth : Nat

/-- Numerals are positional from `0.0001` to below `1e16`; an exponent has a sign and at
least two digits. -/
def numeral : Layout := ⟨-4, 16, 2⟩

def padLeft (width : Nat) (text : List Char) : List Char :=
  List.replicate (width - text.length) '0' ++ text

/-- A decimal in a layout. A positional numeral always has a digit after the point. -/
def layOut (layout : Layout) (d : Decimal) : List Char :=
  let digits := digitsOf d.digits
  let first : Int := digits.length - 1 + d.exponent
  let sign := if d.negative then ['-'] else []
  if layout.lowest ≤ first ∧ first < layout.limit then
    if first < 0 then sign ++ "0.".toList ++ padLeft (digits.length + (-first - 1).toNat) digits
    else
      let whole := digits.take (first.toNat + 1)
      let whole := whole ++ List.replicate (first.toNat + 1 - whole.length) '0'
      let rest := digits.drop (first.toNat + 1)
      sign ++ whole ++ '.' :: (if rest.isEmpty then ['0'] else rest)
  else
    let rest := digits.drop 1
    let mantissa := digits.take 1 ++ (if rest.isEmpty then [] else '.' :: rest)
    let exponent := padLeft layout.exponentWidth (digitsOf first.natAbs)
    sign ++ mantissa ++ 'e' :: (if first < 0 then '-' else '+') :: exponent

/-- The shortest numeral that reads back to the same number. -/
def text (x : Float) : String :=
  match Binary64.decode x with
  | .nan => "nan"
  | .infinite negative => if negative then "-inf" else "inf"
  | .finite s m e => String.ofList (layOut numeral (shortest s m e))

end PathTracking.Decimal
