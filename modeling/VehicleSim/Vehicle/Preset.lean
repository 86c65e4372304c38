import VehicleSim.Space.Vec3
import VehicleSim.Vehicle.Flags
import VehicleSim.Vehicle.Kind

/-!
What choosing a vehicle type stores: one bundle of raw parameter values per type, and the flags it
clears and then sets. The values do not pass through the setters, so a bundle may hold one that a
script could not set.
-/

set_option autoImplicit false

namespace VehicleSim

structure Preset (α : Type) where
  linearMotorTimescale : α
  linearMotorDecayTimescale : α
  linearFrictionTimescale : Vec3 α
  angularMotorTimescale : α
  angularMotorDecayTimescale : α
  angularFrictionTimescale : Vec3 α
  hoverHeight : α
  hoverEfficiency : α
  hoverTimescale : α
  buoyancy : α
  linearDeflectionEfficiency : α
  linearDeflectionTimescale : α
  angularDeflectionEfficiency : α
  angularDeflectionTimescale : α
  verticalAttractionEfficiency : α
  verticalAttractionTimescale : α
  bankingEfficiency : α
  bankingMix : α
  bankingTimescale : α
  cleared : List Flag
  raised : List Flag

namespace Preset

variable {α : Type} [Scalar α]

def none : Preset α where
  linearMotorTimescale := 1000.0
  linearMotorDecayTimescale := 120.0
  linearFrictionTimescale := ⟨1000.0, 1000.0, 1000.0⟩
  angularMotorTimescale := 1000.0
  angularMotorDecayTimescale := 120.0
  angularFrictionTimescale := ⟨1000.0, 1000.0, 1000.0⟩
  hoverHeight := 0
  hoverEfficiency := 0
  hoverTimescale := 310.0
  buoyancy := 0
  linearDeflectionEfficiency := 1
  linearDeflectionTimescale := 1
  angularDeflectionEfficiency := 0
  angularDeflectionTimescale := 1000.0
  verticalAttractionEfficiency := 0
  verticalAttractionTimescale := 1000.0
  bankingEfficiency := 0
  bankingMix := 1
  bankingTimescale := 1000.0
  cleared := Flag.all
  raised := []

def sled : Preset α where
  linearMotorTimescale := 1000.0
  linearMotorDecayTimescale := 120.0
  linearFrictionTimescale := ⟨30.0, 1, 1000.0⟩
  angularMotorTimescale := 1000.0
  angularMotorDecayTimescale := 120.0
  angularFrictionTimescale := ⟨1000.0, 1000.0, 1000.0⟩
  hoverHeight := 0
  hoverEfficiency := 10.0
  hoverTimescale := 10.0
  buoyancy := 0
  linearDeflectionEfficiency := 1
  linearDeflectionTimescale := 1
  angularDeflectionEfficiency := 0
  angularDeflectionTimescale := 10.0
  verticalAttractionEfficiency := 1
  verticalAttractionTimescale := 1000.0
  bankingEfficiency := 0
  bankingMix := 1
  bankingTimescale := 10.0
  cleared := [.hoverWaterOnly, .hoverTerrainOnly, .hoverGlobalHeight, .hoverUpOnly]
  raised := [.noDeflectionUp, .limitRollOnly, .limitMotorUp]

def car : Preset α where
  linearMotorTimescale := 1
  linearMotorDecayTimescale := 60.0
  linearFrictionTimescale := ⟨100.0, 2.0, 1000.0⟩
  angularMotorTimescale := 1
  angularMotorDecayTimescale := 0.8
  angularFrictionTimescale := ⟨1000.0, 1000.0, 1000.0⟩
  hoverHeight := 0
  hoverEfficiency := 0
  hoverTimescale := 1000.0
  buoyancy := 0
  linearDeflectionEfficiency := 1
  linearDeflectionTimescale := 2.0
  angularDeflectionEfficiency := 0
  angularDeflectionTimescale := 10.0
  verticalAttractionEfficiency := 1
  verticalAttractionTimescale := 10.0
  bankingEfficiency := -0.2
  bankingMix := 1
  bankingTimescale := 1
  cleared := [.hoverWaterOnly, .hoverTerrainOnly, .hoverGlobalHeight]
  raised := [.noDeflectionUp, .limitRollOnly, .limitMotorUp, .hoverUpOnly]

def boat : Preset α where
  linearMotorTimescale := 5.0
  linearMotorDecayTimescale := 60.0
  linearFrictionTimescale := ⟨10.0, 3.0, 2.0⟩
  angularMotorTimescale := 4.0
  angularMotorDecayTimescale := 4.0
  angularFrictionTimescale := ⟨10.0, 10.0, 10.0⟩
  hoverHeight := 0
  hoverEfficiency := 0.5
  hoverTimescale := 2.0
  buoyancy := 1
  linearDeflectionEfficiency := 0.5
  linearDeflectionTimescale := 3.0
  angularDeflectionEfficiency := 0.5
  angularDeflectionTimescale := 5.0
  verticalAttractionEfficiency := 0.5
  verticalAttractionTimescale := 5.0
  bankingEfficiency := -0.3
  bankingMix := 0.8
  bankingTimescale := 1
  cleared := [.hoverTerrainOnly, .hoverGlobalHeight, .limitRollOnly]
  raised := [.noDeflectionUp, .limitMotorUp, .hoverWaterOnly, .hoverUpOnly]

def airplane : Preset α where
  linearMotorTimescale := 2.0
  linearMotorDecayTimescale := 60.0
  linearFrictionTimescale := ⟨200.0, 10.0, 5.0⟩
  angularMotorTimescale := 4.0
  angularMotorDecayTimescale := 8.0
  angularFrictionTimescale := ⟨20.0, 20.0, 20.0⟩
  hoverHeight := 0
  hoverEfficiency := 0.5
  hoverTimescale := 1000.0
  buoyancy := 0
  linearDeflectionEfficiency := 0.5
  linearDeflectionTimescale := 0.5
  angularDeflectionEfficiency := 1
  angularDeflectionTimescale := 2.0
  verticalAttractionEfficiency := 0.9
  verticalAttractionTimescale := 2.0
  bankingEfficiency := 1
  bankingMix := 0.7
  bankingTimescale := 2.0
  cleared :=
    [.hoverWaterOnly, .hoverTerrainOnly, .hoverGlobalHeight, .hoverUpOnly, .noDeflectionUp,
      .limitMotorUp]
  raised := [.limitRollOnly]

def balloon : Preset α where
  linearMotorTimescale := 5.0
  linearMotorDecayTimescale := 60.0
  linearFrictionTimescale := ⟨5.0, 5.0, 5.0⟩
  angularMotorTimescale := 6.0
  angularMotorDecayTimescale := 10.0
  angularFrictionTimescale := ⟨10.0, 10.0, 10.0⟩
  hoverHeight := 5.0
  hoverEfficiency := 0.8
  hoverTimescale := 10.0
  buoyancy := 1
  linearDeflectionEfficiency := 0
  linearDeflectionTimescale := 5.0
  angularDeflectionEfficiency := 0
  angularDeflectionTimescale := 5.0
  verticalAttractionEfficiency := 1
  verticalAttractionTimescale := 1000.0
  bankingEfficiency := 0
  bankingMix := 0.7
  bankingTimescale := 5.0
  cleared :=
    [.hoverWaterOnly, .hoverTerrainOnly, .hoverUpOnly, .limitRollOnly, .noDeflectionUp,
      .hoverGlobalHeight, .limitMotorUp]
  raised := []

def ofKind : Kind → Preset α
  | .none => none
  | .sled => sled
  | .car => car
  | .boat => boat
  | .airplane => airplane
  | .balloon => balloon

-- The flags after the preset: a flag both cleared and raised is raised.
def applyFlags (preset : Preset α) (flags : Flags) : Flags :=
  (flags.remove (Flags.ofList preset.cleared)).add (Flags.ofList preset.raised)

end Preset

end VehicleSim
