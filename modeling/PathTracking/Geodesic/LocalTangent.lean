import PathTracking.Geodesic.Angle
import PathTracking.Geometry.Point

/-!
# Local coordinates

East, north and up of a target seen from home: the geodesic distance along its azimuth,
and the difference of the heights. A missing height counts as zero.
-/
namespace PathTracking.Geodesic

/-- Latitude and longitude in degrees, and a height in metres if it is known. -/
structure Place where
  lat : Float
  lon : Float
  alt : Option Float
  deriving Repr

/-- A length in metres, and an azimuth in degrees, clockwise from north. -/
structure Bearing where
  distance : Float
  azimuth : Float

/-- Distance and azimuth from one place to another. -/
abbrev Survey := Place → Place → Bearing

/-- East, north and up, as x, y and z. -/
def localPoint (survey : Survey) (home target : Place) : Except Fault (Point Float) := do
  let bearing := survey home target
  let azimuth := radians bearing.azimuth
  let north := bearing.distance * (← Scalar.cos azimuth)
  let east := bearing.distance * (← Scalar.sin azimuth)
  return ⟨east, north, target.alt.getD 0 - home.alt.getD 0⟩

end PathTracking.Geodesic
