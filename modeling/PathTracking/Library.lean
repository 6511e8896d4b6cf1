import PathTracking.Document
import PathTracking.Files
import PathTracking.Geodesic.LocalTangent
import PathTracking.Settings.Schema

/-!
# What a run takes from elsewhere

Listings and settings files are read, records built and the earth surveyed by others. A run works
with whatever they answer.
-/
namespace PathTracking

structure Library where
  /-- The document in a file with the syntax of listings and settings. -/
  readDocument : Bytes → Except ReadFailure Document
  validator : Validator
  survey : Geodesic.Survey
  /-- How deep the arrays and objects of a plan can be nested in one another. -/
  room : Nat

end PathTracking
