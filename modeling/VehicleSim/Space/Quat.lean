import VehicleSim.Space.Vec3

/-!
Quaternions as rotations. Nothing here keeps them of unit length: `normalized?` is the one place
that normalises.
-/

set_option autoImplicit false

namespace VehicleSim

structure Quat (α : Type) where
  x : α
  y : α
  z : α
  w : α
deriving BEq, DecidableEq

namespace Quat

variable {α : Type} [Scalar α]

def identity : Quat α := ⟨0, 0, 0, 1⟩

def normSquared (q : Quat α) : α := (q.x * q.x + q.z * q.z) + (q.y * q.y + q.w * q.w)

def neg (q : Quat α) : Quat α := ⟨-q.x, -q.y, -q.z, -q.w⟩

def inverse (q : Quat α) : Quat α := ⟨-q.x, -q.y, -q.z, q.w⟩

instance : Mul (Quat α) where
  mul a b :=
    { x := a.w * b.x + a.x * b.w + a.y * b.z - a.z * b.y
      y := a.w * b.y - a.x * b.z + a.y * b.w + a.z * b.x
      z := a.w * b.z + a.x * b.y - a.y * b.x + a.z * b.w
      w := a.w * b.w - a.x * b.x - a.y * b.y - a.z * b.z }

def rotate (q : Quat α) (v : Vec3 α) : Vec3 α :=
  let axis : Vec3 α := ⟨q.x, q.y, q.z⟩
  let t := axis.cross v * (2.0 : α)
  t * q.w + axis.cross t + v

def unrotate (q : Quat α) (v : Vec3 α) : Vec3 α := q.inverse.rotate v

-- Opposite quaternions are the same rotation.
def sameRotation (a b : Quat α) : Bool := a == b || a == b.neg

def normalized? (q : Quat α) : Option (Quat α) :=
  let least : α := 1e-6
  let square := q.normSquared
  if least * least < square then
    let length := Scalar.sqrt square
    some ⟨q.x / length, q.y / length, q.z / length, q.w / length⟩
  else none

def normalized (q : Quat α) : Quat α := q.normalized?.getD identity

-- Roll and pitch of the rotation, read off its matrix; near the poles yaw counts as roll.
def rollPitch (q : Quat α) : α × α :=
  let twice (a b : α) : α := a * b * (2.0 : α)
  let m01 := twice q.x q.y - twice q.w q.z
  let m02 := twice q.w q.y + twice q.x q.z
  let m20 := twice q.x q.z - twice q.w q.y
  let m21 := twice q.w q.x + twice q.y q.z
  let m22 := q.w * q.w - q.x * q.x - q.y * q.y + q.z * q.z
  if Scalar.abs m20 < 1 then
    let pitch := -Scalar.asin m20
    let c := Scalar.cos pitch
    (Scalar.atan2 (m21 / c) (m22 / c), pitch)
  else if m20 ≤ -1 then
    (Scalar.atan2 m01 m02, Scalar.halfPi)
  else
    (-Scalar.atan2 m01 (-m02), -Scalar.halfPi)

end Quat

end VehicleSim
