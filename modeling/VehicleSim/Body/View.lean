import VehicleSim.Space.Quat

/-!
The body a vehicle drives: what the vehicle can read of it, and what it can do to it.
-/

set_option autoImplicit false

namespace VehicleSim

structure BodyView (α : Type) where
  position : Vec3 α
  orientation : Quat α
  velocity : Vec3 α
  rotationalVelocity : Vec3 α
  mass : α
  -- World gravity on the body, before any share the vehicle takes off.
  gravity : Vec3 α
  colliding : Bool
  physical : Bool
  enabled : Bool

inductive BodyWrite (α : Type) where
  | position (value : Vec3 α)
  | orientation (value : Quat α)
  | velocity (value : Vec3 α)
  | rotationalVelocity (value : Vec3 α)
  | force (value : Vec3 α)
  | impulse (value : Vec3 α)
  | angularForce (value : Vec3 α)
  | rotationalImpulse (value : Vec3 α)
  | friction (value : α)
  | restitution (value : α)
  | damping (linear angular : α)
  | inertiaFactor (value : Vec3 α)
  | engineGravity (enabled : Bool)
  | addCollisionFlag
  | removeCollisionFlag
  | pushUpdate

namespace BodyView

variable {α : Type}

def physicallyActive (body : BodyView α) : Bool := body.physical && body.enabled

def store (body : BodyView α) : BodyWrite α → BodyView α
  | .position value => { body with position := value }
  | .orientation value => { body with orientation := value }
  | .velocity value => { body with velocity := value }
  | .rotationalVelocity value => { body with rotationalVelocity := value }
  | _ => body

end BodyView

end VehicleSim
