import VehicleSim.Number.Scalar

/-!
Binary32 as a `Scalar`. Conversions between binary64 and binary32 go through the unpacked form, so
that each is one rounding to nearest, ties to even.
-/

set_option autoImplicit false

namespace VehicleSim

namespace Binary32

open Float.Model

-- The nearest number of the format; magnitudes past its last one become infinite when packed.
def fit (format : Format) : UnpackedFloat → UnpackedFloat
  | .finite sign mantissa exponent _ => UnpackedFloat.round format sign mantissa exponent
  | other => other

def widen (x : Float32) : Float :=
  let value := UnpackedFloat.unpack .binary32 x.toBits.toBitVec
  Float.ofBits ⟨UnpackedFloat.pack .binary64 (fit .binary64 value)⟩

def narrow (x : Float) : Float32 :=
  let value := UnpackedFloat.unpack .binary64 x.toBits.toBitVec
  Float32.ofBits ⟨UnpackedFloat.pack .binary32 (fit .binary32 value)⟩

def nan : Float32 := Float32.ofBits 0x7fc00000
def infinity : Float32 := Float32.ofBits 0x7f800000

def smallestNormal : Float32 := Float32.ofBits 0x00800000

def signum (x : Float32) : Float32 :=
  if x.isNaN then nan else if x.toBits.toBitVec.msb then -1 else 1

def flush (x : Float32) : Float32 := if x.abs < smallestNormal then x * 0 else x

end Binary32

instance : Scalar Float32 where
  zero := 0
  one := 1
  add := Float32.add
  sub := Float32.sub
  mul := Float32.mul
  div := Float32.div
  neg := Float32.neg
  lt a b := a < b
  le a b := a ≤ b
  beq := Float32.beq
  ofScientific := Float32.ofScientific
  decideLt a b := inferInstanceAs (Decidable (a < b))
  decideLe a b := inferInstanceAs (Decidable (a ≤ b))
  sqrt := Float32.sqrt
  abs := Float32.abs
  signum := Binary32.signum
  isNaN := Float32.isNaN
  isFinite := Float32.isFinite
  floorNat x := x.toUInt64.toNat
  ofNat := Float32.ofNat
  atan2 y x := Binary32.narrow (Float.atan2 (Binary32.widen y) (Binary32.widen x))
  asin x := Binary32.narrow (Float.asin (Binary32.widen x))
  cos x := Binary32.narrow (Float.cos (Binary32.widen x))
  halfPi := Float32.ofBits 0x3fc90fdb
  infinity := Binary32.infinity
  flush := Binary32.flush

end VehicleSim
