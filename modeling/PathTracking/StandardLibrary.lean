import PathTracking.Geodesic.Inverse
import PathTracking.Library
import PathTracking.Settings.Checked
import PathTracking.Yaml.Document

/-!
# The standard library

What a run on a machine works with: listings and settings in YAML, records checked field by field,
and the earth as the ellipsoid of WGS 84.
-/
namespace PathTracking

def Library.standard : Library where
  readDocument := Yaml.readDocument 480
  validator := .standard
  survey := Geodesic.wgs84
  room := 990

end PathTracking
