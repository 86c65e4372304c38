import VehicleSim.Space.Vec3

/-!
A motor drives a velocity toward a direction that decays to zero, and slows it by friction.
-/

set_option autoImplicit false

namespace VehicleSim

namespace Timescale

variable {α : Type} [Scalar α]

-- A friction timescale that stands for no friction.
def infinite : α := 12345.6

-- Timescales divide, so no setter stores a smaller one.
def least : α := 0.01

def longestDecay : α := 120.0

end Timescale

structure Motor (α : Type) where
  -- Direction asked for by a script and not yet taken up.
  requested : Option (Vec3 α)
  decaying : Vec3 α
  timescale : α
  decayTimescale : α
  frictionTimescale : Vec3 α
deriving BEq

namespace Motor

variable {α : Type} [Scalar α]

def initial : Motor α where
  requested := none
  decaying := 0
  timescale := 1
  decayTimescale := 1
  frictionTimescale := Vec3.all Timescale.infinite

def request (motor : Motor α) (direction : Vec3 α) : Motor α :=
  { motor with requested := some direction }

def advance (motor : Motor α) (dt : α) : Motor α :=
  let decaying :=
    match motor.requested with
    | some direction => direction
    | none => motor.decaying - motor.decaying * dt / motor.decayTimescale
  { motor with requested := none, decaying }

def frictionFactor (timescale : Vec3 α) (dt : α) : Vec3 α :=
  if timescale == Vec3.all Timescale.infinite then 0
  else timescale.map (fun t => if t == Timescale.infinite then 0 else 1 / t) * dt

def drive (motor : Motor α) (current : Vec3 α) (dt : α) : Vec3 α :=
  (motor.decaying - current) * dt / motor.timescale
    - current.componentMul (frictionFactor motor.frictionTimescale dt)

end Motor

end VehicleSim
