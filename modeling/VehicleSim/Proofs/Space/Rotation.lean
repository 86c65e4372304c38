import Mathlib.Tactic.LinearCombination
import Mathlib.Tactic.Linarith
import VehicleSim.Proofs.Number.Exact
import VehicleSim.Proofs.Space.Axes
import VehicleSim.Space.Quat

/-!
Rotations in exact arithmetic. Turning one of two vectors shows in their product like turning the other one back. Only a
quaternion of length one turns back what it has turned.
-/

set_option autoImplicit false

namespace VehicleSim

namespace Vec3

variable (v w : Vec3 ℝ)

def upward : Vec3 ℝ := ⟨0, 0, 1⟩

theorem dot_upward : v.dot upward = v.z := by simp [dot, upward]

theorem sub_dot (other : Vec3 ℝ) : (v - w).dot other = v.dot other - w.dot other := by
  simp only [dot, sub_x, sub_y, sub_z]
  ring

theorem add_dot (other : Vec3 ℝ) : (v + w).dot other = v.dot other + w.dot other := by
  simp only [dot, add_x, add_y, add_z]
  ring

theorem dot_comm : v.dot w = w.dot v := by
  simp only [dot]
  ring

theorem z_le_one (length : v.dot v = 1) : v.z ≤ 1 := by
  simp only [dot] at length
  nlinarith [mul_self_nonneg v.x, mul_self_nonneg v.y]

theorem eq_upward (length : v.dot v = 1) (high : 1 ≤ v.z) : v = upward := by
  have z : v.z = 1 := le_antisymm (v.z_le_one length) high
  simp only [dot, z] at length
  have x : v.x = 0 := mul_self_eq_zero.mp (by linarith [mul_self_nonneg v.x, mul_self_nonneg v.y])
  have y : v.y = 0 := mul_self_eq_zero.mp (by linarith [mul_self_nonneg v.x, mul_self_nonneg v.y])
  exact Vec3.ext x y z

end Vec3

namespace Quat

def Unit (q : Quat ℝ) : Prop := q.normSquared = 1

variable (p q : Quat ℝ) (v w : Vec3 ℝ)

theorem unit_identity : (identity : Quat ℝ).Unit := by simp [Unit, identity, normSquared]

theorem mul_identity : q * identity = q := by
  change Quat.mk _ _ _ _ = _
  simp [identity]

theorem norm_squared_mul : (p * q).normSquared = p.normSquared * q.normSquared := by
  change normSquared (Quat.mk _ _ _ _) = _
  simp only [normSquared]
  ring

theorem unit_mul (first : p.Unit) (second : q.Unit) : (p * q).Unit := by
  rw [Unit, norm_squared_mul, first, second, one_mul]

theorem unit_inverse (unit : q.Unit) : q.inverse.Unit := by
  simp only [Unit, normSquared, inverse] at unit ⊢
  linear_combination unit

theorem rotate_eq :
    q.rotate v =
      let axis : Vec3 ℝ := ⟨q.x, q.y, q.z⟩
      axis.cross v * (2 * q.w) + axis.cross (axis.cross v) * (2 : ℝ) + v := by
  have two : (2.0 : ℝ) = 2 := by norm_num
  ext <;> simp only [rotate, Vec3.cross, Vec3.add_x, Vec3.add_y, Vec3.add_z, Vec3.scale_x, Vec3.scale_y,
    Vec3.scale_z, two] <;> ring

theorem rotate_dot : (q.rotate v).dot w = v.dot (q.unrotate w) := by
  simp only [unrotate, rotate_eq, inverse, Vec3.dot, Vec3.cross, Vec3.add_x, Vec3.add_y, Vec3.add_z, Vec3.scale_x,
    Vec3.scale_y, Vec3.scale_z]
  ring

theorem inverse_inverse : q.inverse.inverse = q := by simp only [inverse, neg_neg]

theorem rotate_unrotate_eq :
    q.rotate (q.unrotate v) =
      let axis : Vec3 ℝ := ⟨q.x, q.y, q.z⟩
      v - axis.cross (axis.cross v) * (4 * (q.normSquared - 1)) := by
  simp only [unrotate, rotate_eq, inverse, normSquared]
  ext <;> simp only [Vec3.cross, Vec3.add_x, Vec3.add_y, Vec3.add_z, Vec3.sub_x, Vec3.sub_y, Vec3.sub_z, Vec3.scale_x,
    Vec3.scale_y, Vec3.scale_z] <;> ring

theorem unrotate_zero : q.unrotate 0 = 0 := by
  ext <;> simp [unrotate, rotate_eq, Vec3.cross]

theorem rotate_add : q.rotate (v + w) = q.rotate v + q.rotate w := by
  simp only [rotate_eq]
  ext <;> simp only [Vec3.cross, Vec3.add_x, Vec3.add_y, Vec3.add_z, Vec3.scale_x, Vec3.scale_y, Vec3.scale_z] <;> ring

theorem mul_eq :
    p * q =
      ⟨p.w * q.x + p.x * q.w + p.y * q.z - p.z * q.y, p.w * q.y - p.x * q.z + p.y * q.w + p.z * q.x,
        p.w * q.z + p.x * q.y - p.y * q.x + p.z * q.w, p.w * q.w - p.x * q.x - p.y * q.y - p.z * q.z⟩ := rfl

theorem rotate_mul_eq :
    (p * q).rotate v =
      p.rotate (q.rotate v) + (v - q.rotate v) * (1 - p.normSquared) + (v - p.rotate v) * (1 - q.normSquared) := by
  simp only [mul_eq, rotate_eq, normSquared]
  ext <;> simp only [Vec3.cross, Vec3.add_x, Vec3.add_y, Vec3.add_z, Vec3.sub_x, Vec3.sub_y, Vec3.sub_z, Vec3.scale_x,
    Vec3.scale_y, Vec3.scale_z] <;> ring

theorem inverse_mul : (p * q).inverse = q.inverse * p.inverse := by
  simp only [mul_eq, inverse, Quat.mk.injEq]
  refine ⟨?_, ?_, ?_, ?_⟩ <;> ring

theorem rotate_mul (first : p.Unit) (second : q.Unit) : (p * q).rotate v = p.rotate (q.rotate v) := by
  rw [rotate_mul_eq, first, second]
  ext <;> simp

theorem unrotate_mul (first : p.Unit) (second : q.Unit) : (p * q).unrotate v = q.unrotate (p.unrotate v) := by
  rw [unrotate, inverse_mul, rotate_mul _ _ v (q.unit_inverse second) (p.unit_inverse first), unrotate, unrotate]

variable (unit : q.Unit)

include unit

theorem rotate_unrotate : q.rotate (q.unrotate v) = v := by
  rw [rotate_unrotate_eq, unit]
  ext <;> simp

theorem unrotate_rotate : q.unrotate (q.rotate v) = v := by
  have back := q.inverse.rotate_unrotate v (q.unit_inverse unit)
  rwa [unrotate, inverse_inverse] at back

theorem dot_rotate : (q.rotate v).dot (q.rotate w) = v.dot w := by
  rw [rotate_dot, unrotate_rotate q w unit]

theorem dot_unrotate : (q.unrotate v).dot (q.unrotate w) = v.dot w :=
  q.inverse.dot_rotate v w (q.unit_inverse unit)

end Quat

end VehicleSim
