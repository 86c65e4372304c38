import VehicleSim.Number.Binary32

/-!
Number tokens of JSON texts, digit by digit, and the values they stand for. A token keeps its
spelling, since `1`, `1.0` and `1e0` are not accepted in the same places.
-/

set_option autoImplicit false

namespace VehicleSim

abbrev Digit := Fin 10

structure Numeral where
  negative : Bool
  whole : List Digit
  fraction : Option (List Digit)
  -- Whether the exponent is negative, and its digits.
  exponent : Option (Bool × List Digit)
deriving DecidableEq

namespace Numeral

def natOfDigits (digits : List Digit) : Nat :=
  digits.foldl (fun value digit => 10 * value + digit.val) 0

-- The value of a token without point and exponent; `-0` does not count as a whole number.
def toInt? (numeral : Numeral) : Option Int :=
  match numeral.fraction, numeral.exponent with
  | none, none =>
      let magnitude := natOfDigits numeral.whole
      if !numeral.negative then some magnitude
      else if magnitude = 0 then none
      else some (-magnitude)
  | _, _ => none

def takeDigits : Nat → List Digit → Nat × List Digit
  | significand, [] => (significand, [])
  | significand, digit :: rest =>
      if 10 * significand + digit.val < UInt64.size then
        takeDigits (10 * significand + digit.val) rest
      else (significand, digit :: rest)

-- Significand and power of ten: digits before the point that do not fit scale the number, and digits after it
-- that do not fit are dropped.
def scientific (numeral : Numeral) : Nat × Int :=
  let fraction := numeral.fraction.getD []
  let (significand, wholeLeft) := takeDigits 0 numeral.whole
  let (significand, fractionLeft) := takeDigits significand fraction
  let taken := fraction.length - fractionLeft.length
  let shift :=
    match numeral.exponent with
    | some (true, digits) => -(natOfDigits digits : Int)
    | some (false, digits) => natOfDigits digits
    | none => 0
  (significand, (wholeLeft.length : Int) - taken + shift)

def powerOfTen (exponent : Nat) : Float := Float.ofScientific 1 false exponent

def scaleDown (value : Float) (exponent : Nat) : Float :=
  if exponent ≤ 308 then value / powerOfTen exponent
  else if exponent ≤ 616 then value / powerOfTen 308 / powerOfTen (exponent - 308)
  else 0

def scaleUp? (value : Float) (exponent : Nat) : Option Float :=
  if value == 0 then some value
  else if 308 < exponent then none
  else
    let scaled := value * powerOfTen exponent
    if scaled.isInf then none else some scaled

def toBinary64? (numeral : Numeral) : Option Float :=
  let (significand, exponent) := numeral.scientific
  let value := Float.ofNat significand
  let scaled? :=
    if 0 ≤ exponent then scaleUp? value exponent.toNat
    else some (scaleDown value (-exponent).toNat)
  scaled?.map fun scaled => if numeral.negative then -scaled else scaled

def fitsWord (value : Int) : Bool :=
  -0x8000000000000000 ≤ value && value ≤ 0xffffffffffffffff

def binary32OfInt (value : Int) : Float32 :=
  if value < 0 then -Float32.ofNat value.natAbs else Float32.ofNat value.natAbs

def toBinary32? (numeral : Numeral) : Option Float32 :=
  match numeral.toInt? with
  | some value =>
      if fitsWord value then some (binary32OfInt value)
      else numeral.toBinary64?.map Binary32.narrow
  | none => numeral.toBinary64?.map Binary32.narrow

end Numeral

end VehicleSim
