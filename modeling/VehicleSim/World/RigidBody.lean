import VehicleSim.Body.View
import VehicleSim.Schedule
import VehicleSim.Space.Box
import VehicleSim.World.Inertia

/-!
The rigid body of an object, and how it takes the writes of a vehicle. A write that changes nothing
is ignored, and most of those that do wake the body.
-/

set_option autoImplicit false

namespace VehicleSim

inductive Obstacle where
  | ground
  | object (id : ObjectId)
deriving DecidableEq

structure Motion (α : Type) where
  position : Vec3 α
  orientation : Quat α
  velocity : Vec3 α
  rotationalVelocity : Vec3 α
  sleeping : Bool
  restTime : α
  contacts : List Obstacle

structure RigidBody (α : Type) where
  motion : Motion α
  half : Vec3 α
  -- Of the box alone.
  boxInertia : Inertia α
  -- What a vehicle has added, if one has.
  extraInertia : Option (Inertia α)
  -- Of the whole body, as of the last weighing.
  inertia : Inertia α
  force : Vec3 α
  torque : Vec3 α
  linearDamping : α
  angularDamping : α
  gravityScale : α
  friction : α
  restitution : α
  collisionEvents : Bool

namespace Motion

variable {α : Type} [Scalar α]

def atRest (position : Vec3 α) : Motion α where
  position
  orientation := .identity
  velocity := 0
  rotationalVelocity := 0
  sleeping := false
  restTime := 0
  contacts := []

def wake (motion : Motion α) : Motion α := { motion with sleeping := false, restTime := 0 }

def setPosition (motion : Motion α) (value : Vec3 α) : Motion α :=
  if motion.position == value then motion else { motion.wake with position := value }

def setOrientation (motion : Motion α) (value : Quat α) : Motion α :=
  if motion.orientation.sameRotation value then motion
  else { motion.wake with orientation := value }

def setVelocity (motion : Motion α) (value : Vec3 α) : Motion α :=
  if motion.velocity == value then motion else { motion.wake with velocity := value }

def setRotationalVelocity (motion : Motion α) (value : Vec3 α) : Motion α :=
  if motion.rotationalVelocity == value then motion
  else { motion.wake with rotationalVelocity := value }

end Motion

namespace RigidBody

variable {α : Type} [Scalar α]

def mass (body : RigidBody α) : α := body.inertia.mass

def shape (body : RigidBody α) : Box α := ⟨body.motion.position, body.half⟩

def box (position half : Vec3 α) (mass : α) : RigidBody α where
  motion := .atRest position
  half
  boxInertia := .box half mass
  extraInertia := none
  inertia := .box half mass
  force := 0
  torque := 0
  linearDamping := 0
  angularDamping := 0
  gravityScale := 1
  friction := 0.5
  restitution := 0
  collisionEvents := false

def limitSpin (most : α) (spin : Vec3 α) : Vec3 α :=
  if most * most < spin.normSquared then spin / spin.norm * most else spin

def addForce (body : RigidBody α) (force : Vec3 α) : RigidBody α :=
  if force == 0 then body
  else { body with motion := body.motion.wake, force := body.force + force }

def addTorque (body : RigidBody α) (torque : Vec3 α) : RigidBody α :=
  if torque == 0 then body
  else { body with motion := body.motion.wake, torque := body.torque + torque }

def addImpulse (body : RigidBody α) (impulse : Vec3 α) : RigidBody α :=
  if impulse == 0 then body
  else
    let velocity := body.motion.velocity + impulse * body.inertia.inverseMass
    { body with motion := { body.motion.wake with velocity } }

-- A change of the engine's gravity wakes the body and does not restart its rest.
def setGravityScale (body : RigidBody α) (scale : α) : RigidBody α :=
  if body.gravityScale == scale then body
  else { body with motion := { body.motion with sleeping := false }, gravityScale := scale }

-- Inertia is only ever added, by a factor of all that the body had when it was last weighed.
def setInertiaFactor (body : RigidBody α) (factor : Vec3 α) : RigidBody α :=
  let growth := factor.map fun f => Scalar.max (f - 1) 0
  let extra := Inertia.ofPrincipal 0 (body.inertia.principal.componentMul growth)
  if body.extraInertia == some extra then body
  else { body with motion := body.motion.wake, extraInertia := some extra }

def weigh (body : RigidBody α) : RigidBody α :=
  match body.extraInertia with
  | none => { body with inertia := body.boxInertia }
  | some extra => { body with inertia := extra.join body.boxInertia }

def write (fastestSpin : α) (body : RigidBody α) : BodyWrite α → RigidBody α
  | .position value => { body with motion := body.motion.setPosition value }
  | .orientation value => { body with motion := body.motion.setOrientation value }
  | .velocity value => { body with motion := body.motion.setVelocity value }
  | .rotationalVelocity value =>
      { body with motion := body.motion.setRotationalVelocity (limitSpin fastestSpin value) }
  | .force value => body.addForce value
  | .impulse value => body.addImpulse value
  | .angularForce value => body.addTorque value
  -- In full this adds to the spin what the world's inverse inertia makes of the impulse, and wakes the body. It is left
  -- out: no stage of a step makes a rotational impulse.
  | .rotationalImpulse _ => body
  | .friction value => { body with friction := value }
  | .restitution value => { body with restitution := value }
  | .damping linear angular => { body with linearDamping := linear, angularDamping := angular }
  | .inertiaFactor value => body.setInertiaFactor value
  | .engineGravity enabled => body.setGravityScale (if enabled then 1 else 0)
  | .addCollisionFlag => { body with collisionEvents := true }
  | .removeCollisionFlag => { body with collisionEvents := false }
  | .pushUpdate => body

def clearForces (body : RigidBody α) : RigidBody α := { body with force := 0, torque := 0 }

end RigidBody

namespace BodyView

variable {α : Type} [Scalar α]

def ofRigidBody (gravity : Vec3 α) (colliding : Bool) : Option (RigidBody α) → BodyView α
  | some body =>
      { position := body.motion.position
        orientation := body.motion.orientation
        velocity := body.motion.velocity
        rotationalVelocity := body.motion.rotationalVelocity
        mass := body.mass
        gravity
        colliding
        physical := true
        enabled := true }
  | none =>
      { position := 0
        orientation := .identity
        velocity := 0
        rotationalVelocity := 0
        mass := 0
        gravity
        colliding
        physical := false
        enabled := false }

end BodyView

end VehicleSim
