import VehicleSim.Space.Quat
import VehicleSim.Vehicle.Motor
import VehicleSim.Vehicle.Param
import VehicleSim.Vehicle.Preset

/-!
Everything a script can set on a vehicle. Setters never fail: a value out of range is clamped, and
a parameter that a setter does not know is left alone.
-/

set_option autoImplicit false

namespace VehicleSim

structure Params (α : Type) where
  kind : Kind
  flags : Flags
  linear : Motor α
  angular : Motor α
  linearMotorOffset : Vec3 α
  blockExit : Vec3 α
  referenceFrame : Quat α
  rollFrame : Option (Quat α)
  linearDeflectionEfficiency : α
  linearDeflectionTimescale : α
  angularDeflectionEfficiency : α
  angularDeflectionTimescale : α
  bankingEfficiency : α
  bankingMix : α
  bankingTimescale : α
  hoverHeight : α
  hoverEfficiency : α
  hoverTimescale : α
  hoverTargetHeight : α
  -- From -1, twice the gravity, to 1, none.
  buoyancy : α
  verticalAttractionEfficiency : α
  verticalAttractionTimescale : α
  verticalAttractionCutoff : α

namespace Params

variable {α : Type} [Scalar α]

def initial : Params α where
  kind := .none
  flags := .empty
  linear := .initial
  angular := .initial
  linearMotorOffset := 0
  blockExit := 0
  referenceFrame := .identity
  rollFrame := none
  linearDeflectionEfficiency := 0
  linearDeflectionTimescale := 1
  angularDeflectionEfficiency := 0
  angularDeflectionTimescale := 1
  bankingEfficiency := 0
  bankingMix := 0
  bankingTimescale := 1
  hoverHeight := 0
  hoverEfficiency := 0
  hoverTimescale := 310.0
  hoverTargetHeight := 0
  buoyancy := 0
  verticalAttractionEfficiency := 1
  verticalAttractionTimescale := 510.0
  verticalAttractionCutoff := 500.0

def fastestTurn : α := 12.56

def atLeastTimescale (value : α) : α := Scalar.max value Timescale.least

def decayRange (value : α) : α :=
  Scalar.clampInRange Timescale.least value Timescale.longestDecay

def unitRange (value : α) : α := Scalar.clampInRange 0 value 1

def signedUnitRange (value : α) : α := Scalar.clampInRange (-1) value 1

def setVector (params : Params α) (param : Param) (value : Vec3 α) : Params α :=
  match param with
  | .angularFrictionTimescale =>
      { params with
        angular := { params.angular with frictionTimescale := value.map atLeastTimescale } }
  | .angularMotorDirection =>
      { params with
        angular := params.angular.request
          (value.map fun c => Scalar.clampInRange (-fastestTurn) c fastestTurn) }
  | .linearFrictionTimescale =>
      { params with
        linear := { params.linear with frictionTimescale := value.map atLeastTimescale } }
  | .linearMotorDirection => { params with linear := params.linear.request value }
  | .linearMotorOffset => { params with linearMotorOffset := value }
  | .blockExit => { params with blockExit := value }
  | _ => params

def setFloat (params : Params α) (param : Param) (value : α) : Params α :=
  match param with
  | .angularDeflectionEfficiency => { params with angularDeflectionEfficiency := unitRange value }
  | .angularDeflectionTimescale =>
      { params with angularDeflectionTimescale := atLeastTimescale value }
  | .angularMotorDecayTimescale =>
      { params with angular := { params.angular with decayTimescale := decayRange value } }
  | .angularMotorTimescale =>
      { params with angular := { params.angular with timescale := atLeastTimescale value } }
  | .bankingEfficiency => { params with bankingEfficiency := signedUnitRange value }
  | .bankingMix => { params with bankingMix := atLeastTimescale value }
  | .bankingTimescale => { params with bankingTimescale := atLeastTimescale value }
  | .buoyancy => { params with buoyancy := signedUnitRange value }
  | .hoverEfficiency => { params with hoverEfficiency := unitRange value }
  | .hoverHeight => { params with hoverHeight := value }
  | .hoverTimescale => { params with hoverTimescale := atLeastTimescale value }
  | .linearDeflectionEfficiency => { params with linearDeflectionEfficiency := unitRange value }
  | .linearDeflectionTimescale =>
      { params with linearDeflectionTimescale := atLeastTimescale value }
  | .linearMotorDecayTimescale =>
      { params with linear := { params.linear with decayTimescale := decayRange value } }
  | .linearMotorTimescale =>
      { params with linear := { params.linear with timescale := atLeastTimescale value } }
  | .verticalAttractionEfficiency =>
      { params with verticalAttractionEfficiency := Scalar.clampInRange 0.1 value 1 }
  | .verticalAttractionTimescale =>
      { params with verticalAttractionTimescale := atLeastTimescale value }
  | .angularFrictionTimescale | .angularMotorDirection | .linearFrictionTimescale
  | .linearMotorDirection | .linearMotorOffset => params.setVector param (Vec3.all value)
  | .referenceFrame | .rollFrame | .blockExit => params

def setRotation (params : Params α) (param : Param) (value : Quat α) : Params α :=
  match param with
  | .referenceFrame => { params with referenceFrame := value }
  | .rollFrame => { params with rollFrame := some value }
  | _ => params

-- A mask of -1 clears every flag; any other adds or removes the flags it names.
def setFlags (params : Params α) (mask : Int) (remove : Bool) : Params α :=
  let flags :=
    if mask = -1 then Flags.empty
    else if remove then params.flags.remove (Flags.ofMask mask)
    else params.flags.add (Flags.ofMask mask)
  { params with flags }

def applyPreset (params : Params α) (kind : Kind) : Params α :=
  let preset : Preset α := Preset.ofKind kind
  { params with
    kind
    flags := preset.applyFlags params.flags
    linear :=
      { requested := some 0
        decaying := 0
        timescale := preset.linearMotorTimescale
        decayTimescale := preset.linearMotorDecayTimescale
        frictionTimescale := preset.linearFrictionTimescale }
    angular :=
      { requested := some 0
        decaying := 0
        timescale := preset.angularMotorTimescale
        decayTimescale := preset.angularMotorDecayTimescale
        frictionTimescale := preset.angularFrictionTimescale }
    referenceFrame := .identity
    linearDeflectionEfficiency := preset.linearDeflectionEfficiency
    linearDeflectionTimescale := preset.linearDeflectionTimescale
    angularDeflectionEfficiency := preset.angularDeflectionEfficiency
    angularDeflectionTimescale := preset.angularDeflectionTimescale
    bankingEfficiency := preset.bankingEfficiency
    bankingMix := preset.bankingMix
    bankingTimescale := preset.bankingTimescale
    hoverHeight := preset.hoverHeight
    hoverEfficiency := preset.hoverEfficiency
    hoverTimescale := preset.hoverTimescale
    buoyancy := preset.buoyancy
    verticalAttractionEfficiency := preset.verticalAttractionEfficiency
    verticalAttractionTimescale := preset.verticalAttractionTimescale }

def hoverEnabled (params : Params α) (cutoff : α) : Bool :=
  params.flags.hasAny Flags.hoverModes && 0 < params.hoverHeight && params.hoverTimescale < cutoff

def vehicleGravity (params : Params α) (gravity : Vec3 α) : Vec3 α :=
  gravity * (1 - params.buoyancy)

def verticalAttractionEnabled (params : Params α) : Bool :=
  params.verticalAttractionTimescale < params.verticalAttractionCutoff

end Params

end VehicleSim
