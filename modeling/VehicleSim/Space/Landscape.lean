/-!
Heights of the ground and of the water above each point of the plane.
-/

set_option autoImplicit false

namespace VehicleSim

structure Landscape (α : Type) where
  groundAt : α → α → α
  waterAt : α → α → α

end VehicleSim
