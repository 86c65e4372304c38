import VehicleSim.Drive.Frame

/-!
How a vehicle moves its body for one step. The stages run in a fixed order over the cached state:
motor, ground floor, hover, blocking box, climb limit, gravity, deflection, and last the locked
axes and the speed limits.
-/

set_option autoImplicit false

namespace VehicleSim.Drive

variable {α : Type} [Scalar α]

def hoverBias : α := 0.21728

def hoverLockTolerance : α := 0.2

-- The motor's change is turned into the world twice; a limited motor loses its upward part after the first
-- turn.
def linearMotor (input : StepInput α) (params : Params α) (rig : Rig α) : Params α × Rig α :=
  let (frame, rig) := frame params rig
  let (velocity, rig) := rig.velocity
  let motor := params.linear.advance input.dt
  let drive := frame.rotate (motor.drive (frame.unrotate velocity) input.dt)
  let drive :=
    if params.flags.has .limitMotorUp && 0 < drive.z then { drive with z := 0 } else drive
  ({ params with linear := motor }, rig.setVelocity (velocity + frame.rotate drive))

def groundFloor (rig : Rig α) : Rig α :=
  let (height, rig) := rig.groundHeight
  let (position, rig) := rig.position
  if position.z < height then rig.setPosition { position with z := height + 1 } else rig

-- The height to hover at; of several modes the last one named here counts.
def hoverTarget (params : Params α) (rig : Rig α) : α × Rig α :=
  let target := params.hoverTargetHeight
  let (target, rig) :=
    if params.flags.has .hoverWaterOnly then
      let (level, rig) := rig.waterLevel
      (level + params.hoverHeight, rig)
    else (target, rig)
  let (target, rig) :=
    if params.flags.has .hoverTerrainOnly then
      let (height, rig) := rig.groundHeight
      (height + params.hoverHeight, rig)
    else (target, rig)
  (if params.flags.has .hoverGlobalHeight then params.hoverHeight else target, rig)

def lockHover (target : α) (position : Vec3 α) (rig : Rig α) : Rig α :=
  if hoverLockTolerance < Scalar.abs (position.z - target) then
    rig.setPosition { position with z := target }
  else rig

def springHover (input : StepInput α) (params : Params α) (target : α) (position : Vec3 α)
    (rig : Rig α) : Rig α :=
  let error := target + hoverBias - position.z
  let correction := error / params.hoverTimescale * input.dt * params.hoverEfficiency
  let scale := Scalar.abs (error * 10.0)
  let correction := if scale < 1 then correction * scale else correction
  let rig :=
    if 0 < correction || !params.flags.has .hoverUpOnly then
      rig.setPosition { position with z := position.z + correction }
    else rig
  let (velocity, rig) := rig.velocity
  rig.setVelocity { velocity with z := 0 }

-- Above its target an upward-only hover stays where it is and gives back the buoyancy.
def hover (input : StepInput α) (params : Params α) (rig : Rig α) : Params α × Rig α :=
  if params.hoverEnabled input.tuning.hoverTimescaleCutoff then
    let (target, rig) := hoverTarget params rig
    let (position, rig) := rig.position
    let above := params.flags.has .hoverUpOnly && target < position.z
    let target := if above then position.z else target
    let rig :=
      if above && params.buoyancy != 0 then rig.addForce (input.gravity * input.mass) else rig
    let params := { params with hoverTargetHeight := target }
    if params.flags.has .lockHoverHeight then (params, lockHover target position rig)
    else (params, springHover input params target position rig)
  else (params, rig)

def retreat (reached : Bool) (coordinate moved : α) : α × Bool :=
  if reached then (coordinate - (moved + 1), true) else (coordinate, false)

def advance (reached : Bool) (coordinate moved : α) : α × Bool :=
  if reached then (coordinate + (moved + 1), true) else (coordinate, false)

def blockingBox (input : StepInput α) (params : Params α) (rig : Rig α) : Rig α :=
  let corner := params.blockExit
  if corner == 0 then rig
  else
    let (position, rig) := rig.position
    let moved :=
      match input.lastPosition with
      | some last => position - last
      | none => 0
    let (x, pastX) := retreat (corner.x - 1 ≤ position.x) position.x moved.x
    let (y, pastY) := retreat (corner.y - 1 ≤ position.y) position.y moved.y
    let (z, pastZ) := retreat (corner.z - 1 ≤ position.z) position.z moved.z
    let (x, belowX) := advance (x ≤ 0) x moved.x
    let (y, belowY) := advance (y ≤ 0) y moved.y
    if pastX || pastY || pastZ || belowX || belowY then rig.setPosition ⟨x, y, z⟩ else rig

def limitClimb (params : Params α) (rig : Rig α) : Rig α :=
  if params.flags.has .limitMotorUp then
    let (velocity, rig) := rig.velocity
    if !rig.body.colliding && (0.1 : α) < velocity.z then rig.setVelocity { velocity with z := 0 }
    else rig
  else rig

def applyGravity (input : StepInput α) (params : Params α) (rig : Rig α) : Rig α :=
  let pull := input.vehicleGravity * input.mass
  let pull :=
    if rig.body.colliding && params.kind.onGround then pull * input.tuning.groundGravityFudge
    else pull
  rig.addForce pull

def deflection (params : Params α) (velocity : Vec3 α) (dt : α) : Vec3 α :=
  let share (speed : α) : α :=
    Scalar.sortedClamp 0
      (speed * params.linearDeflectionEfficiency / params.linearDeflectionTimescale) speed
  let y := share velocity.y
  let x := 0 + Scalar.abs y
  let (x, z) :=
    if params.flags.has .noDeflectionUp then (x, 0)
    else
      let z := share velocity.z
      (x + Scalar.abs z, z)
  ⟨x * dt, -(y * dt), -(z * dt)⟩

def deflect (input : StepInput α) (params : Params α) (rig : Rig α) : Rig α :=
  if input.tuning.enableLinearDeflection then
    let (frame, rig) := frame params rig
    let (velocity, rig) := rig.velocity
    let change := frame.rotate (deflection params (frame.unrotate velocity) input.dt)
    let change :=
      if input.tuning.linearDeflectionNotCollidingNoZ && !rig.body.colliding then
        { change with z := 0 }
      else change
    rig.setVelocity (velocity + change)
  else rig

def lockAxes (params : Params α) (velocity : Vec3 α) : Vec3 α where
  x := if params.flags.has .noX then 0 else velocity.x
  y := if params.flags.has .noY then 0 else velocity.y
  z := if params.flags.has .noZ then 0 else velocity.z

def clampSpeed (tuning : Tuning α) (rig : Rig α) : Rig α :=
  let (velocity, rig) := rig.velocity
  let most := tuning.maxLinearVelocity
  let least := tuning.minLinearVelocity
  let square := velocity.normSquared
  if most * most < square then rig.setVelocity (velocity / Scalar.sqrt square * most)
  else if square < least * least then rig.setVelocity 0
  else rig

def lockAndClamp (input : StepInput α) (params : Params α) (rig : Rig α) : Rig α :=
  let rig :=
    if params.flags.hasAny Flags.lockedAxes then
      let (velocity, rig) := rig.velocity
      rig.setVelocity (lockAxes params velocity)
    else rig
  clampSpeed input.tuning rig

def moveLinear (input : StepInput α) (params : Params α) (rig : Rig α) : Params α × Rig α :=
  let (params, rig) := linearMotor input params rig
  let rig := groundFloor rig
  let (params, rig) := hover input params rig
  let rig := blockingBox input params rig
  let rig := limitClimb params rig
  let rig := applyGravity input params rig
  let rig := deflect input params rig
  (params, lockAndClamp input params rig)

end VehicleSim.Drive
