import VehicleSim.Space.Vec3

/-!
Settings of the host that hold for every vehicle in the world.
-/

set_option autoImplicit false

namespace VehicleSim

structure Tuning (α : Type) where
  maxLinearVelocity : α
  minLinearVelocity : α
  maxAngularVelocity : α
  linearDamping : α
  angularDamping : α
  friction : α
  restitution : α
  inertiaFactor : Vec3 α
  -- Share of gravity that a ground vehicle keeps while it touches something.
  groundGravityFudge : α
  enableLinearDeflection : Bool
  linearDeflectionNotCollidingNoZ : Bool
  enableAngularVerticalAttraction : Bool
  enableAngularDeflection : Bool
  enableAngularBanking : Bool
  -- Hover timescales from here on switch hovering off.
  hoverTimescaleCutoff : α
  verticalAttractionCutoff : α
  rotationalVelocityEpsilon : α

namespace Tuning

variable {α : Type} [Scalar α]

def initial : Tuning α where
  maxLinearVelocity := 1000.0
  minLinearVelocity := 0.001
  maxAngularVelocity := 12.0
  linearDamping := 0
  angularDamping := 0.95
  friction := 0
  restitution := 0
  inertiaFactor := ⟨1, 1, 1⟩
  groundGravityFudge := 0.2
  enableLinearDeflection := true
  linearDeflectionNotCollidingNoZ := true
  enableAngularVerticalAttraction := true
  enableAngularDeflection := true
  enableAngularBanking := true
  hoverTimescaleCutoff := 300.0
  verticalAttractionCutoff := 500.0
  rotationalVelocityEpsilon := 0.0001

end Tuning

end VehicleSim
