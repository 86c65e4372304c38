import VehicleSim.Number.Scalar

/-!
Vectors in space, z up. Operations are per component; sums of products go left to right.
-/

set_option autoImplicit false

namespace VehicleSim

structure Vec3 (α : Type) where
  x : α
  y : α
  z : α
deriving BEq, DecidableEq

namespace Vec3

variable {α : Type} [Scalar α]

instance : Zero (Vec3 α) := ⟨⟨0, 0, 0⟩⟩
instance : Add (Vec3 α) := ⟨fun v w => ⟨v.x + w.x, v.y + w.y, v.z + w.z⟩⟩
instance : Sub (Vec3 α) := ⟨fun v w => ⟨v.x - w.x, v.y - w.y, v.z - w.z⟩⟩
instance : HMul (Vec3 α) α (Vec3 α) := ⟨fun v s => ⟨v.x * s, v.y * s, v.z * s⟩⟩
instance : HDiv (Vec3 α) α (Vec3 α) := ⟨fun v s => ⟨v.x / s, v.y / s, v.z / s⟩⟩

def map (f : α → α) (v : Vec3 α) : Vec3 α := ⟨f v.x, f v.y, f v.z⟩

def all (s : α) : Vec3 α := ⟨s, s, s⟩

def componentMul (v w : Vec3 α) : Vec3 α := ⟨v.x * w.x, v.y * w.y, v.z * w.z⟩

def dot (v w : Vec3 α) : α := v.x * w.x + v.y * w.y + v.z * w.z

def normSquared (v : Vec3 α) : α := v.dot v

def norm (v : Vec3 α) : α := Scalar.sqrt v.normSquared

def cross (v w : Vec3 α) : Vec3 α :=
  ⟨v.y * w.z - v.z * w.y, v.z * w.x - v.x * w.z, v.x * w.y - v.y * w.x⟩

def isFinite (v : Vec3 α) : Bool :=
  Scalar.isFinite v.x && Scalar.isFinite v.y && Scalar.isFinite v.z

def any (p : α → Bool) (v : Vec3 α) : Bool := p v.x || p v.y || p v.z

def zeroNaN (v : Vec3 α) : Vec3 α := v.map fun c => if Scalar.isNaN c then 0 else c

def approxZero (v : Vec3 α) (tolerance : α) : Bool := v.norm ≤ tolerance

theorem beq_iff (v w : Vec3 α) :
    (v == w) = true ↔ (v.x == w.x) = true ∧ (v.y == w.y) = true ∧ (v.z == w.z) = true := by
  change (v.x == w.x && (v.y == w.y && v.z == w.z)) = true ↔ _
  rw [Bool.and_eq_true, Bool.and_eq_true]

end Vec3

end VehicleSim
