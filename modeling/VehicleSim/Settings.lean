import VehicleSim.Terrain
import VehicleSim.Vehicle.Tuning

/-!
Settings of the server. Every one has a default.
-/

set_option autoImplicit false

namespace VehicleSim

structure Settings (α : Type) where
  bindAddress : String
  ticksPerSecond : UInt32
  gravity : Vec3 α
  terrain : TerrainSettings α
  vehicle : Tuning α

namespace Settings

variable {α : Type} [Scalar α]

def initial : Settings α where
  bindAddress := "0.0.0.0:9001"
  ticksPerSecond := 60
  gravity := ⟨0, 0, -9.80665⟩
  terrain := .initial
  vehicle := .initial

def stepSeconds (settings : Settings α) : α :=
  1 / Scalar.ofNat (Nat.max settings.ticksPerSecond.toNat 1)

end Settings

end VehicleSim
