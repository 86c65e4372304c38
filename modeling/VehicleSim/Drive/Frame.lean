import VehicleSim.Body.Rig
import VehicleSim.Vehicle.Params
import VehicleSim.Vehicle.Tuning

/-!
What the stages of a step share: the step's own inputs, and the frame the vehicle moves in.
-/

set_option autoImplicit false

namespace VehicleSim

structure StepInput (α : Type) where
  dt : α
  tuning : Tuning α
  mass : α
  gravity : Vec3 α
  vehicleGravity : Vec3 α
  lastPosition : Option (Vec3 α)

namespace Drive

variable {α : Type} [Scalar α]

def frame (params : Params α) (rig : Rig α) : Quat α × Rig α :=
  let (orientation, rig) := rig.orientation
  (orientation * params.referenceFrame, rig)

end Drive

end VehicleSim
