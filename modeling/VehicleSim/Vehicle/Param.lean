/-!
The parameters a script can set on a vehicle, and the numbers it names them by.
-/

set_option autoImplicit false

namespace VehicleSim

inductive Param where
  | linearFrictionTimescale
  | angularFrictionTimescale
  | linearMotorDirection
  | angularMotorDirection
  | linearMotorOffset
  | hoverHeight
  | hoverEfficiency
  | hoverTimescale
  | buoyancy
  | linearDeflectionEfficiency
  | linearDeflectionTimescale
  | linearMotorTimescale
  | linearMotorDecayTimescale
  | angularDeflectionEfficiency
  | angularDeflectionTimescale
  | angularMotorTimescale
  | angularMotorDecayTimescale
  | verticalAttractionEfficiency
  | verticalAttractionTimescale
  | bankingEfficiency
  | bankingMix
  | bankingTimescale
  | referenceFrame
  | rollFrame
  | blockExit
deriving DecidableEq, Repr

namespace Param

def all : List Param :=
  [linearFrictionTimescale, angularFrictionTimescale, linearMotorDirection, angularMotorDirection,
    linearMotorOffset, hoverHeight, hoverEfficiency, hoverTimescale, buoyancy,
    linearDeflectionEfficiency, linearDeflectionTimescale, linearMotorTimescale,
    linearMotorDecayTimescale, angularDeflectionEfficiency, angularDeflectionTimescale,
    angularMotorTimescale, angularMotorDecayTimescale, verticalAttractionEfficiency,
    verticalAttractionTimescale, bankingEfficiency, bankingMix, bankingTimescale, referenceFrame,
    rollFrame, blockExit]

def code : Param → Int
  | linearFrictionTimescale => 16
  | angularFrictionTimescale => 17
  | linearMotorDirection => 18
  | angularMotorDirection => 19
  | linearMotorOffset => 20
  | hoverHeight => 24
  | hoverEfficiency => 25
  | hoverTimescale => 26
  | buoyancy => 27
  | linearDeflectionEfficiency => 28
  | linearDeflectionTimescale => 29
  | linearMotorTimescale => 30
  | linearMotorDecayTimescale => 31
  | angularDeflectionEfficiency => 32
  | angularDeflectionTimescale => 33
  | angularMotorTimescale => 34
  | angularMotorDecayTimescale => 35
  | verticalAttractionEfficiency => 36
  | verticalAttractionTimescale => 37
  | bankingEfficiency => 38
  | bankingMix => 39
  | bankingTimescale => 40
  | referenceFrame => 44
  | rollFrame => 45
  | blockExit => 47

def ofCode? (code : Int) : Option Param := all.find? (·.code = code)

end Param

end VehicleSim
