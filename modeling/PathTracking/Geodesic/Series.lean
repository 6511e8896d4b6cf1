import PathTracking.Geodesic.Angle

/-!
# Series for the geodesic integrals

The distance and longitude integrals along a geodesic of the WGS84 ellipsoid, as Fourier
series of order six. Their coefficients are polynomials in the expansion parameter
`eps`, and those of the longitude integral also in the third flattening.
-/
namespace PathTracking.Geodesic

/-- The equatorial radius in metres. -/
def equatorial : Float := 6378137.0

def flattening : Float := 1 / 298.257223563

/-- The ratio of the polar to the equatorial radius. -/
def axisRatio : Float := 1 - flattening

def eccentricity2 : Float := flattening * (2 - flattening)

def secondEccentricity2 : Float := eccentricity2 / square axisRatio

def thirdFlattening : Float := flattening / (2 - flattening)

/-- The polar radius in metres. -/
def polar : Float := equatorial * axisRatio

/-- A polynomial, the coefficient of the highest power first. -/
def polynomial (coefficients : List Float) (x : Float) : Float :=
  match coefficients with
  | [] => 0
  | c :: rest => rest.foldl (fun y c => y * x + c) c

/-- A polynomial over a common denominator. -/
structure Quotient where
  coefficients : List Float
  denominator : Float

def Quotient.at (q : Quotient) (x : Float) : Float :=
  polynomial q.coefficients x / q.denominator

/-- `terms[i]` times the power `i + 1` of `eps`. -/
def scaled (eps : Float) (terms : List Float) : List Float :=
  (terms.foldl (fun (acc, d) t => ((d * t) :: acc, d * eps)) (([] : List Float), eps)).1.reverse

def distanceScale (eps : Float) : Float :=
  (Quotient.at ⟨[1, 4, 64, 0], 256⟩ (square eps) + eps) / (1 - eps)

def distanceTerms : List Quotient := [
  ⟨[-1, 6, -16], 32⟩, ⟨[-9, 64, -128], 2048⟩, ⟨[9, -16], 768⟩, ⟨[3, -5], 512⟩,
  ⟨[-7], 1280⟩, ⟨[-7], 2048⟩]

def reducedScale (eps : Float) : Float :=
  (Quotient.at ⟨[-11, -28, -192, 0], 256⟩ (square eps) - eps) / (1 + eps)

def reducedTerms : List Quotient := [
  ⟨[1, 2, 16], 32⟩, ⟨[35, 64, 384], 2048⟩, ⟨[15, 80], 768⟩, ⟨[7, 35], 512⟩,
  ⟨[63], 1280⟩, ⟨[77], 2048⟩]

/-- The coefficients of a series at `eps`. -/
def coefficientsAt (terms : List Quotient) (eps : Float) : List Float :=
  let eps2 := square eps
  (terms.foldl (fun (acc, d) t =>
    ((d * polynomial t.coefficients eps2 / t.denominator) :: acc, d * eps))
    (([] : List Float), eps)).1.reverse

/-- The scale of the longitude integral, a polynomial in `eps`. -/
def longitudeScale (eps : Float) : Float :=
  polynomial ([⟨[-3], 128⟩, ⟨[-2, -3], 64⟩, ⟨[-1, -3, -1], 16⟩, ⟨[3, -1, -2], 8⟩,
    ⟨[1, -1], 2⟩, ⟨[1], 1⟩].map fun q : Quotient => q.at thirdFlattening) eps

/-- One polynomial in `eps` for each term of the longitude series. -/
def longitudeTerms : List (List Quotient) := [
  [⟨[3], 128⟩, ⟨[2, 5], 128⟩, ⟨[-1, 3, 3], 64⟩, ⟨[-1, 0, 1], 8⟩, ⟨[-1, 1], 4⟩],
  [⟨[5], 256⟩, ⟨[1, 3], 128⟩, ⟨[-3, -2, 3], 64⟩, ⟨[1, -3, 2], 32⟩],
  [⟨[7], 512⟩, ⟨[-10, 9], 384⟩, ⟨[5, -9, 5], 192⟩],
  [⟨[7], 512⟩, ⟨[-14, 7], 512⟩],
  [⟨[21], 2560⟩]]

def longitudeCoefficients (eps : Float) : List Float :=
  scaled eps (longitudeTerms.map fun row =>
    polynomial (row.map (·.at thirdFlattening)) eps)

/-- The sum of `c[i] * sin (2 (i + 1) x)` by Clenshaw's recurrence, from the sine and
cosine of `x`. -/
def sineSeries (s c : Float) (coefficients : List Float) : Float :=
  let twice := 2 * (c - s) * (c + s)
  let (y, _) := coefficients.foldr (fun k (y, y') => (twice * y - y' + k, y)) ((0 : Float), (0 : Float))
  2 * s * c * y

end PathTracking.Geodesic
