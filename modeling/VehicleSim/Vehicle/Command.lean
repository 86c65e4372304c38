import VehicleSim.Space.Quat
import VehicleSim.Vehicle.Kind

/-!
A scripting call against one object's vehicle. Parameters are still numbers here: an unknown one is
accepted and has no effect.
-/

set_option autoImplicit false

namespace VehicleSim

inductive Command (α : Type) where
  | setType (kind : Kind)
  | setFloat (param : Int) (value : α)
  | setVector (param : Int) (value : Vec3 α)
  | setRotation (param : Int) (value : Quat α)
  | setFlags (mask : Int) (remove : Bool)

end VehicleSim
