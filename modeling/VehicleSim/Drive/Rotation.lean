import VehicleSim.Drive.Frame

/-!
How a vehicle turns its body for one step. Motor, vertical attraction, deflection and banking each
add to the cached rotational velocity; a result near zero is stopped.
-/

set_option autoImplicit false

namespace VehicleSim.Drive

variable {α : Type} [Scalar α]

def fastestBank : α := 12.0

def addSpin (frame : Quat α) (turn : Vec3 α) (rig : Rig α) : Rig α :=
  let (spin, rig) := rig.rotationalVelocity
  rig.setRotationalVelocity (spin + frame.rotate turn)

def angularMotor (input : StepInput α) (params : Params α) (rig : Rig α) : Params α × Rig α :=
  let (frame, rig) := frame params rig
  let (spin, rig) := rig.rotationalVelocity
  let motor := params.angular.advance input.dt
  let drive := motor.drive (frame.unrotate spin) input.dt
  ({ params with angular := motor }, addSpin frame drive rig)

def verticalAttraction (input : StepInput α) (params : Params α) (rig : Rig α) : Rig α :=
  if input.tuning.enableAngularVerticalAttraction && params.verticalAttractionEnabled then
    let (orientation, rig) := rig.orientation
    let tilt := orientation * params.referenceFrame.inverse
    let (roll, pitch) := tilt.rollPitch
    let pitchError := if params.flags.has .limitRollOnly then 0 else -pitch
    let error : Vec3 α := ⟨-roll, pitchError, 0⟩
    let strength :=
      params.verticalAttractionEfficiency * input.dt / params.verticalAttractionTimescale
    addSpin tilt (error * strength) rig
  else rig

def travel (forward : Vec3 α) : Vec3 α :=
  if Scalar.abs forward.x < 0.001 then ⟨0.001, forward.y, forward.z⟩
  else forward * Scalar.signum forward.x

def noseTurn (moving : Vec3 α) (strength : α) : Vec3 α where
  x := 0
  y := if (0.01 : α) < Scalar.abs moving.z then -Scalar.atan2 moving.z moving.x * strength else 0
  z := if (0.01 : α) < Scalar.abs moving.y then Scalar.atan2 moving.y moving.x * strength else 0

def angularDeflection (input : StepInput α) (params : Params α) (rig : Rig α) : Rig α :=
  if input.tuning.enableAngularDeflection && params.angularDeflectionEfficiency != 0 then
    let (frame, rig) := frame params rig
    let (velocity, rig) := rig.velocity
    let strength :=
      input.dt * params.angularDeflectionEfficiency / params.angularDeflectionTimescale
    addSpin frame (noseTurn (travel (frame.unrotate velocity)) strength) rig
  else rig

def banking (input : StepInput α) (params : Params α) (rig : Rig α) : Rig α :=
  if input.tuning.enableAngularBanking && params.bankingEfficiency != 0
      && params.verticalAttractionEnabled then
    let (frame, rig) := frame params rig
    let (spin, rig) := rig.rotationalVelocity
    let (velocity, rig) := rig.velocity
    let yaw := (frame.unrotate spin).z * params.bankingEfficiency
    let speed := Scalar.abs (frame.unrotate velocity).x
    let mix := params.bankingMix
    let mixed := yaw * (1 - mix) + yaw * mix * speed
    let mixed := Scalar.clampInRange (-fastestBank) mixed fastestBank
    let turn : Vec3 α := ⟨-mixed, 0, 0⟩
    addSpin frame (turn * input.dt / params.bankingTimescale) rig
  else rig

def stopSlowSpin (input : StepInput α) (rig : Rig α) : Rig α :=
  let (spin, rig) := rig.rotationalVelocity
  if spin.approxZero input.tuning.rotationalVelocityEpsilon then rig.setRotationalVelocity 0
  else rig

-- An off-centre motor adds a torque, which is always zero.
def offsetTorque (input : StepInput α) (params : Params α) (rig : Rig α) : Rig α :=
  if params.linearMotorOffset == 0 then rig
  else
    let torque : Vec3 α := Vec3.zeroNaN 0
    rig.addAngularForce (torque * input.mass)

def moveAngular (input : StepInput α) (params : Params α) (rig : Rig α) : Params α × Rig α :=
  let (params, rig) := angularMotor input params rig
  let rig := verticalAttraction input params rig
  let rig := angularDeflection input params rig
  let rig := banking input params rig
  let rig := stopSlowSpin input rig
  (params, offsetTorque input params rig)

end VehicleSim.Drive
