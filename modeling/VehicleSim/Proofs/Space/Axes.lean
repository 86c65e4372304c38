import Mathlib.Tactic.Ext
import VehicleSim.Space.Vec3

/-!
Vectors axis by axis.
-/

set_option autoImplicit false

namespace VehicleSim.Vec3

attribute [ext] Vec3

variable {α : Type} [Scalar α] (v w : Vec3 α) (s : α)

@[simp] theorem zero_x : (0 : Vec3 α).x = 0 := rfl

@[simp] theorem zero_y : (0 : Vec3 α).y = 0 := rfl

@[simp] theorem zero_z : (0 : Vec3 α).z = 0 := rfl

@[simp] theorem add_x : (v + w).x = v.x + w.x := rfl

@[simp] theorem add_y : (v + w).y = v.y + w.y := rfl

@[simp] theorem add_z : (v + w).z = v.z + w.z := rfl

@[simp] theorem sub_x : (v - w).x = v.x - w.x := rfl

@[simp] theorem sub_y : (v - w).y = v.y - w.y := rfl

@[simp] theorem sub_z : (v - w).z = v.z - w.z := rfl

@[simp] theorem scale_x : (v * s).x = v.x * s := rfl

@[simp] theorem scale_y : (v * s).y = v.y * s := rfl

@[simp] theorem scale_z : (v * s).z = v.z * s := rfl

@[simp] theorem divide_x : (v / s).x = v.x / s := rfl

@[simp] theorem divide_y : (v / s).y = v.y / s := rfl

@[simp] theorem divide_z : (v / s).z = v.z / s := rfl

end VehicleSim.Vec3
