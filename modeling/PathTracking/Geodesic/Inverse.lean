import PathTracking.Geodesic.LocalTangent
import PathTracking.Geodesic.Series

/-!
# The inverse geodesic problem

The shortest geodesic between two points of the WGS84 ellipsoid: its length and the
azimuth at which it leaves. The points are brought to a canonical position by reflection
and exchange. Meridians and the equator are solved directly, short lines on an auxiliary
sphere, and the rest by Newton's method for the azimuth, kept within a bracket.
-/
namespace PathTracking.Geodesic

def tiny : Float := Float.sqrt 2.2250738585072014e-308

def tol0 : Float := 2.220446049250313e-16

def tol1 : Float := 200 * tol0

def tol2 : Float := Float.sqrt tol0

def xThreshold : Float := 1000 * tol2

/-- The arc below which a line counts as short. -/
def shortArc : Float :=
  0.1 * tol2 / Float.sqrt (flattening * (1 - flattening / 2) / 2)

/-- Newton steps before bisection takes over, and all iterations together. -/
def newtonSteps : Nat := 20

def allSteps : Nat := 83

/-- A point on the auxiliary sphere: sine and cosine of its reduced latitude, and the
square root of `1 + e'² sin²`. -/
structure Reduced where
  sin : Float
  cos : Float
  dn : Float

def Reduced.withDn (s c : Float) : Reduced :=
  ⟨s, c, Float.sqrt (1 + secondEccentricity2 * square s)⟩

/-- A direction or an arc by its sine and cosine. -/
structure Arc where
  sin : Float
  cos : Float

/-- Distance and reduced length, both in units of the polar radius. -/
def lengths (eps sig12 : Float) (sig1 : Arc) (dn1 : Float) (sig2 : Arc) (dn2 : Float) :
    Float × Float :=
  let a1 := distanceScale eps
  let c1 := coefficientsAt distanceTerms eps
  let a2 := reducedScale eps
  let c2 := coefficientsAt reducedTerms eps
  let m0 := a1 - a2
  let a1 := 1 + a1
  let a2 := 1 + a2
  let b1 := sineSeries sig2.sin sig2.cos c1 - sineSeries sig1.sin sig1.cos c1
  let b2 := sineSeries sig2.sin sig2.cos c2 - sineSeries sig1.sin sig1.cos c2
  let j12 := m0 * sig12 + (a1 * b1 - a2 * b2)
  (a1 * (sig12 + b1),
    dn2 * (sig1.cos * sig2.sin) - dn1 * (sig1.sin * sig2.cos) - sig1.cos * sig2.cos * j12)

/-- The positive root `k` of `k⁴ + 2 k³ - (x² + y² - 1) k² - 2 y² k - y² = 0`. -/
def astroid (x y : Float) : Float :=
  let p := square x
  let q := square y
  let r := (p + q - 1) / 6
  if q == 0 && r ≤ 0 then 0
  else
    let s := p * q / 4
    let r2 := square r
    let r3 := r * r2
    let disc := s * (s + 2 * r3)
    let u :=
      if disc ≥ 0 then
        let t3 := s + r3
        let t3 := if t3 < 0 then t3 - disc.sqrt else t3 + disc.sqrt
        let t := t3.cbrt
        r + (t + (if t != 0 then r2 / t else 0))
      else
        let angle := Float.atan2 (-disc).sqrt (-(s + r3))
        r + 2 * r * (angle / 3).cos
    let v := (square u + q).sqrt
    let uv := if u < 0 then q / (v - u) else u + v
    let w := (uv - q) / (2 * v)
    uv / ((uv + square w).sqrt + w)

/-- The first guess of the azimuths: that of a short line is final and comes with the arc
and the mean `dn`. -/
structure Start where
  alp1 : Arc
  /-- The final azimuth, the arc and the mean `dn` of a short line. -/
  short : Option (Arc × Float × Float)

def expansion (k2 : Float) : Float := k2 / (2 * (1 + (1 + k2).sqrt) + k2)

def startOf (p1 p2 : Reduced) (lam12 : Float) (lam : Arc) : Start :=
  let sbet12 := p2.sin * p1.cos - p2.cos * p1.sin
  let cbet12 := p2.cos * p1.cos + p2.sin * p1.sin
  let sbet12a := p2.sin * p1.cos + p2.cos * p1.sin
  let shortLine := cbet12 ≥ 0 && sbet12 < 0.5 && p2.cos * lam12 < 0.5
  let sbetm2 := square (p1.sin + p2.sin)
  let sbetm2 := sbetm2 / (sbetm2 + square (p1.cos + p2.cos))
  let dnm := (1 + secondEccentricity2 * sbetm2).sqrt
  -- The longitude on the auxiliary sphere, as that of a sphere of the mean radius.
  let omg : Arc :=
    if shortLine then
      let omg12 := lam12 / (axisRatio * dnm)
      ⟨omg12.sin, omg12.cos⟩
    else lam
  let salp1 := p2.cos * omg.sin
  let bend := square omg.sin
  let calp1 :=
    if omg.cos ≥ 0 then sbet12 + p2.cos * p1.sin * bend / (1 + omg.cos)
    else sbet12a - p2.cos * p1.sin * bend / (1 - omg.cos)
  let ssig12 := Binary64.hypot salp1 calp1
  let csig12 := p1.sin * p2.sin + p1.cos * p2.cos * omg.cos
  let finish (salp1 calp1 : Float) (short : Option (Arc × Float × Float)) : Start :=
    if salp1 ≤ 0 then ⟨⟨1, 0⟩, short⟩
    else
      let (s, c) := normalize salp1 calp1
      ⟨⟨s, c⟩, short⟩
  if shortLine && ssig12 < shortArc then
    let salp2 := p1.cos * omg.sin
    let calp2 := sbet12 - p1.cos * p2.sin *
      (if omg.cos ≥ 0 then bend / (1 + omg.cos) else 1 - omg.cos)
    let (s, c) := normalize salp2 calp2
    finish salp1 calp1 (some (⟨s, c⟩, Float.atan2 ssig12 csig12, dnm))
  else if csig12 ≥ 0 || ssig12 ≥ 6 * thirdFlattening * Binary64.pi * square p1.cos then
    finish salp1 calp1 none
  else
    -- Nearly antipodal points: their coordinates around the antipode, scaled to the caustic.
    let lam12x := Float.atan2 (-lam.sin) (-lam.cos)
    let eps := expansion (square p1.sin * secondEccentricity2)
    let lamScale := flattening * p1.cos * longitudeScale eps * Binary64.pi
    let betScale := lamScale * p1.cos
    let x := lam12x / lamScale
    let y := sbet12a / betScale
    if y > -tol1 && x > -1 - xThreshold then
      let salp1 := if -x < 1 then -x else 1
      finish salp1 (-(1 - square salp1).sqrt) none
    else
      let k := astroid x y
      let omg12a := lamScale * (-x * k / (1 + k))
      let somg12 := omg12a.sin
      let comg12 := -omg12a.cos
      finish (p2.cos * somg12)
        (sbet12a - p2.cos * p1.sin * square somg12 / (1 - comg12)) none

/-- The geodesic that leaves the first point at an azimuth, where it meets the latitude
of the second. `excess` is its longitude beyond the wanted one, `slope` the derivative of
that by the azimuth. -/
structure Shot where
  excess : Float
  alp2 : Arc
  sig12 : Float
  sig1 : Arc
  sig2 : Arc
  eps : Float
  slope : Float

def shoot (p1 p2 : Reduced) (alp1 : Arc) (lam : Arc) : Shot :=
  -- A line along the equator is taken as one that just leaves it.
  let calp1 := if p1.sin == 0 && alp1.cos == 0 then -tiny else alp1.cos
  let salp1 := alp1.sin
  let salp0 := salp1 * p1.cos
  let calp0 := Binary64.hypot calp1 (salp1 * p1.sin)
  let somg1 := salp0 * p1.sin
  let comg1 := calp1 * p1.cos
  let (ssig1, csig1) := normalize p1.sin comg1
  -- The sine of the azimuth times the cosine of the latitude is the same all along.
  let salp2 := if p2.cos != p1.cos then salp0 / p2.cos else salp1
  let calp2 :=
    if p2.cos != p1.cos || p2.sin.abs != -p1.sin then
      (square (calp1 * p1.cos) +
        (if p1.cos < -p1.sin then (p2.cos - p1.cos) * (p1.cos + p2.cos)
         else (p1.sin - p2.sin) * (p1.sin + p2.sin))).sqrt / p2.cos
    else calp1.abs
  let somg2 := salp0 * p2.sin
  let comg2 := calp2 * p2.cos
  let (ssig2, csig2) := normalize p2.sin comg2
  let sig12 := Float.atan2 (maxOf 0 (csig1 * ssig2 - ssig1 * csig2))
    (csig1 * csig2 + ssig1 * ssig2)
  let somg12 := maxOf 0 (comg1 * somg2 - somg1 * comg2)
  let comg12 := comg1 * comg2 + somg1 * somg2
  let eta := Float.atan2 (somg12 * lam.cos - comg12 * lam.sin)
    (comg12 * lam.cos + somg12 * lam.sin)
  let eps := expansion (square calp0 * secondEccentricity2)
  -- What the longitude on the ellipsoid lacks to that on the sphere.
  let c3 := longitudeCoefficients eps
  let b312 := sineSeries ssig2 csig2 c3 - sineSeries ssig1 csig1 c3
  let domg12 := -flattening * longitudeScale eps * salp0 * (sig12 + b312)
  let sig1 : Arc := ⟨ssig1, csig1⟩
  let sig2 : Arc := ⟨ssig2, csig2⟩
  let slope :=
    if calp2 == 0 then -2 * axisRatio * p1.dn / p1.sin
    else (lengths eps sig12 sig1 p1.dn sig2 p2.dn).2 * (axisRatio / (calp2 * p2.cos))
  ⟨eta + domg12, ⟨salp2, calp2⟩, sig12, sig1, sig2, eps, slope⟩

/-- The search for the azimuth: the current one, the ends of its bracket, and whether the
last steps left little to gain by Newton's method or by bisection. -/
structure Search where
  alp1 : Arc
  low : Arc
  high : Arc
  step : Nat
  nearNewton : Bool
  nearBracket : Bool

namespace Search

/-- Tightens the bracket by the azimuth just tried. -/
def tighten (s : Search) (excess : Float) : Search :=
  let late := s.step > newtonSteps
  if excess > 0 && (late || s.alp1.cos / s.alp1.sin > s.high.cos / s.high.sin) then
    { s with high := s.alp1 }
  else if excess < 0 && (late || s.alp1.cos / s.alp1.sin < s.low.cos / s.low.sin) then
    { s with low := s.alp1 }
  else s

/-- A step of Newton's method, if it stays within half a turn and on the right side. -/
def newton? (s : Search) (shot : Shot) : Option Search :=
  if s.step < newtonSteps && shot.slope > 0 then
    let d := -shot.excess / shot.slope
    if d.abs < Binary64.pi then
      let salp := s.alp1.sin * d.cos + s.alp1.cos * d.sin
      if salp > 0 then
        let (x, y) := normalize salp (s.alp1.cos * d.cos - s.alp1.sin * d.sin)
        some { s with alp1 := ⟨x, y⟩, nearNewton := shot.excess.abs ≤ 16 * tol0 }
      else none
    else none
  else none

/-- The middle of the bracket. -/
def bisect (s : Search) : Search :=
  let (x, y) := normalize ((s.low.sin + s.high.sin) / 2) ((s.low.cos + s.high.cos) / 2)
  { s with
    alp1 := ⟨x, y⟩
    nearNewton := false
    nearBracket := (s.low.sin - x).abs + (s.low.cos - y) < tol0 ||
      (x - s.high.sin).abs + (y - s.high.cos) < tol0 }

def next (s : Search) (shot : Shot) : Search :=
  let s := s.tighten shot.excess
  let s := { s with step := s.step + 1 }
  (s.newton? shot).getD s.bisect

/-- Goes on until the longitude is met; a NaN ends it at once. -/
def run (p1 p2 : Reduced) (lam : Arc) : Nat → Search → Arc × Shot
  | 0, s => (s.alp1, shoot p1 p2 s.alp1 lam)
  | fuel + 1, s =>
    let shot := shoot p1 p2 s.alp1 lam
    let limit := if s.nearNewton then 8 * tol0 else tol0
    if s.nearBracket || !(shot.excess.abs ≥ limit) then (s.alp1, shot)
    else run p1 p2 lam fuel (s.next shot)

def initial (alp1 : Arc) : Search := ⟨alp1, ⟨tiny, 1⟩, ⟨tiny, -1⟩, 0, false, false⟩

end Search

/-- A length in metres and the azimuths at both ends, in canonical position. -/
structure Solution where
  distance : Float
  alp1 : Arc
  alp2 : Arc

/-- The line along a meridian, unless it is longer than half of one. -/
def meridional? (p1 p2 : Reduced) (lam : Arc) : Option Solution :=
  let sig1 : Arc := ⟨p1.sin, lam.cos * p1.cos⟩
  let sig2 : Arc := ⟨p2.sin, p2.cos⟩
  let sig12 := Float.atan2 (maxOf 0 (sig1.cos * sig2.sin - sig1.sin * sig2.cos))
    (sig1.cos * sig2.cos + sig1.sin * sig2.sin)
  let (s12, m12) := lengths thirdFlattening sig12 sig1 p1.dn sig2 p2.dn
  if sig12 < 1 || m12 ≥ 0 then
    let negligible := sig12 < 3 * tiny || (sig12 < tol0 && (s12 < 0 || m12 < 0))
    some ⟨(if negligible then 0 else s12) * polar, lam, ⟨0, 1⟩⟩
  else none

/-- The shortest line between two points in canonical position. `supplement` is what the
difference of their longitudes lacks to a half turn. -/
def solve (p1 p2 : Reduced) (onMeridian : Bool) (lam12 : Float) (lam : Arc)
    (supplement : Float) : Solution :=
  match if onMeridian then meridional? p1 p2 lam else none with
  | some solution => solution
  | none =>
    if p1.sin == 0 && supplement ≥ flattening * 180 then
      ⟨equatorial * lam12, ⟨1, 0⟩, ⟨1, 0⟩⟩
    else
      let start := startOf p1 p2 lam12 lam
      match start.short with
      | some (alp2, sig12, dnm) => ⟨sig12 * polar * dnm, start.alp1, alp2⟩
      | none =>
        let (alp1, shot) := Search.run p1 p2 lam allSteps (.initial start.alp1)
        let (s12, _) := lengths shot.eps shot.sig12 shot.sig1 p1.dn shot.sig2 p2.dn
        ⟨s12 * polar, alp1, shot.alp2⟩

def reduced (lat : Float) : Float × Float :=
  let (s, c) := sineCosine lat
  let (s, c) := normalize (s * axisRatio) c
  (s, maxOf tiny c)

/-- The shortest geodesic between two points and the azimuth at which it leaves the first.
Latitudes beyond a pole and infinite longitudes give NaN. -/
def inverse (lat1 lon1 lat2 lon2 : Float) : Bearing :=
  -- The second point lies to the east.
  let (lon12, error) := difference lon1 lon2
  let lonSign := copySign 1 lon12
  let lon12 := lonSign * lon12
  let error := lonSign * error
  let (slam, clam) := sineCosineError lon12 error
  let supplement := (180 - lon12) - error
  let lat1 := roundTiny (latitude lat1)
  let lat2 := roundTiny (latitude lat2)
  -- The first point lies farther from the equator, and in the southern hemisphere.
  let swapped := lat1.abs < lat2.abs || lat2.isNaN
  let (lat1, lat2) := if swapped then (lat2, lat1) else (lat1, lat2)
  let lonSign := if swapped then -lonSign else lonSign
  let latSign := copySign 1 (-lat1)
  let lat1 := lat1 * latSign
  let lat2 := lat2 * latSign
  let (sbet1, cbet1) := reduced lat1
  let (sbet2, cbet2) := reduced lat2
  -- Latitudes that are equal or opposite have to be so in their sines and cosines too.
  let sbet2 := if cbet1 < -sbet1 && cbet2 == cbet1 then copySign sbet1 sbet2 else sbet2
  let cbet2 := if !(cbet1 < -sbet1) && sbet2.abs == -sbet1 then cbet1 else cbet2
  let lam : Arc := ⟨slam, clam⟩
  let solution := solve (.withDn sbet1 cbet1) (.withDn sbet2 cbet2)
    (lat1 == -90 || slam == 0) (radians lon12) lam supplement
  -- The azimuth at the first point as given, with the reflections undone.
  let alp := if swapped then solution.alp2 else solution.alp1
  let swapSign : Float := if swapped then -1 else 1
  ⟨0 + solution.distance,
    direction (alp.sin * (swapSign * lonSign)) (alp.cos * (swapSign * latSign))⟩

def wgs84 : Survey := fun home target => inverse home.lat home.lon target.lat target.lon

end PathTracking.Geodesic
