import PathTracking.Follower.Basic

/-!
# The simulated vehicle

Moves along arcs of constant curvature. Commands arrive as speed and yaw rate; the
curvature driven is their ratio, clipped to what the steering allows.
-/
namespace PathTracking

structure Vehicle (α : Type) where
  pose : Pose α
  wheelbase : α
  maxKappa : α
  speed : α
  kappa : α
  deriving DecidableEq, Repr

namespace Vehicle

variable {α : Type} [Scalar α]

def defaultWheelbase : α := 2.7

def defaultMaxSteer : α := 35.0

/-- A vehicle at rest. The steering limit is an angle in degrees. -/
def new (pose : Pose α) (wheelbase maxSteer : α) : Except Fault (Vehicle α) := do
  let maxKappa ← Scalar.div (← Scalar.tan (Scalar.toRadians maxSteer)) wheelbase
  return ⟨pose, wheelbase, maxKappa, 0.0, 0.0⟩

/-- The steering angle in degrees that drives a curvature. -/
def steeringAngle (v : Vehicle α) (kappa : α) : α :=
  Scalar.toDegrees (Scalar.atan (v.wheelbase * kappa))

/-- Limits a curvature to what the steering allows. -/
def clip (v : Vehicle α) (kappa : α) : α :=
  Scalar.max (-v.maxKappa) (Scalar.min v.maxKappa kappa)

/-- A yaw rate at standstill carries no curvature; the last one is kept. -/
def drive (v : Vehicle α) (command : Command α) : Vehicle α :=
  let v := { v with speed := command.speed }
  if command.speed == 0.0 then v
  else
    match Scalar.div command.yawRate command.speed with
    | .ok kappa => { v with kappa := v.clip kappa }
    | .error _ => v

def stop (v : Vehicle α) : Vehicle α := { v with speed := 0.0 }

def obey (v : Vehicle α) : Call α → Vehicle α
  | .drive command => v.drive command
  | .stop => v.stop

/-- Where the vehicle is `dt` seconds later. -/
def poseAfter (v : Vehicle α) (dt : α) : Except Fault (Pose α) := do
  let p := v.pose
  let ds := v.speed * dt
  let th := Scalar.toRadians p.yaw
  if v.kappa == 0.0 then
    let x := p.x + ds * (← Scalar.cos th)
    let y := p.y + ds * (← Scalar.sin th)
    return ⟨x, y, p.z, wrapAngle (Scalar.toDegrees th)⟩
  else
    let th' := th + v.kappa * ds
    let x := p.x + (← Scalar.div ((← Scalar.sin th') - (← Scalar.sin th)) v.kappa)
    let y := p.y - (← Scalar.div ((← Scalar.cos th') - (← Scalar.cos th)) v.kappa)
    return ⟨x, y, p.z, wrapAngle (Scalar.toDegrees th')⟩

/-- Moves on for `dt` seconds with the last command. -/
def step (v : Vehicle α) (dt : α) : Except Fault (Vehicle α) := do
  return { v with pose := ← v.poseAfter dt }

end Vehicle
end PathTracking
