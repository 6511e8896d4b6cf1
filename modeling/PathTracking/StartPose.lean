import PathTracking.Geometry.Pose
import PathTracking.LoadError

/-!
# Start poses

A start pose is written as two numbers, or three with the heading in degrees, between
commas.
-/
namespace PathTracking

/-- The numbers between the commas of a text. -/
def numbersIn (text : String) : Except Misfit (List Float) :=
  (text.toList.splitOn ',').mapM Value.numberIn

/-- The pose that a text spells. -/
def Pose.ofText (text : String) : Except LoadError (Pose Float) := do
  match ← (numbersIn text : Except Misfit _) with
  | [x, y] => return { x, y, z := 0, yaw := 0 }
  | [x, y, yaw] => return { x, y, z := 0, yaw }
  | _ => throw (.badPose text)

end PathTracking
