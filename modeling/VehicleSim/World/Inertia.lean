import VehicleSim.Space.Vec3

/-!
The resistance of a body to forces and torques. It is kept in the form the solver multiplies by, as
inverses, and its mass and principal inertia are read back from there.
-/

set_option autoImplicit false

namespace VehicleSim

structure Inertia (α : Type) where
  inverseMass : α
  inverseRoots : Vec3 α
deriving BEq, DecidableEq

namespace Inertia

variable {α : Type} [Scalar α]

-- The inverse that takes zero to zero.
def inverse (value : α) : α := if value == 0 then 0 else 1 / value

def ofPrincipal (mass : α) (principal : Vec3 α) : Inertia α where
  inverseMass := inverse mass
  inverseRoots := principal.map fun moment => inverse (Scalar.sqrt moment)

def mass (inertia : Inertia α) : α := inverse inertia.inverseMass

def principal (inertia : Inertia α) : Vec3 α :=
  inertia.inverseRoots.map fun root => inverse (root * root)

def boxVolume (half : Vec3 α) : α := half.x * half.y * half.z * 8.0

def boxMoments (half : Vec3 α) : Vec3 α :=
  let square (side : α) : α := side * side / 3.0
  ⟨square half.y + square half.z, square half.x + square half.z, square half.x + square half.y⟩

-- A box of even density. One that is too thin for its volume to be told from nothing weighs less than `mass`.
def box (half : Vec3 α) (mass : α) : Inertia α :=
  let density := mass / Scalar.max ((8.0 : α) * half.x * half.y * half.z) 1.1920929e-7
  let mass := boxVolume half * density
  ofPrincipal mass (boxMoments half * mass)

def isZero (inertia : Inertia α) : Bool := inertia == ⟨0, 0⟩

-- Each moment by way of its ratio to the largest one; a negative one counts as zero.
def balance (moments : Vec3 α) : Vec3 α :=
  let largest := Scalar.max (Scalar.max (Scalar.abs moments.x) (Scalar.abs moments.y))
    (Scalar.abs moments.z)
  let balanced := if largest == 0 then moments else moments / largest * largest
  balanced.map fun moment => Scalar.max moment 0

def join (first second : Inertia α) : Inertia α :=
  if first.isZero then second
  else if second.isZero then first
  else
    ofPrincipal (first.mass + second.mass) (balance (first.principal + second.principal))

end Inertia

end VehicleSim
