import VehicleSim.Proofs.Drive.ClimbLimit
import VehicleSim.Proofs.Space.Rotation

/-!
Going to the vehicle's frame and back to the world, in exact arithmetic. Both ways are turns, each undoes the other, and
a vehicle's frame is its reference frame carried along by its orientation.
-/

set_option autoImplicit false

namespace VehicleSim

namespace Quat

variable (q : Quat ℝ) (v : Vec3 ℝ) (unit : q.Unit)

include unit

theorem norm_rotate : (q.rotate v).norm = v.norm := by
  rw [Vec3.norm, Vec3.normSquared, dot_rotate q v v unit, Vec3.norm, Vec3.normSquared]

theorem norm_unrotate : (q.unrotate v).norm = v.norm := q.inverse.norm_rotate v (q.unit_inverse unit)

end Quat

/-- Turned by quaternions of length one, vectors come back as they were, and keep their lengths and the products between
them. A turn by the product of two is a turn by the second and then one by the first; so from the frame of a vehicle to
the world it is the reference frame that turns first, and the orientation afterwards. -/
theorem frame_conversions_turn (outer inner : Quat ℝ) (outerUnit : outer.Unit) (innerUnit : inner.Unit) :
    (∀ v, inner.rotate (inner.unrotate v) = v ∧ inner.unrotate (inner.rotate v) = v) ∧
      (∀ v w, (inner.rotate v).dot (inner.rotate w) = v.dot w ∧ (inner.unrotate v).dot (inner.unrotate w) = v.dot w) ∧
      (∀ v, (inner.rotate v).norm = v.norm ∧ (inner.unrotate v).norm = v.norm) ∧
      (outer * inner).Unit ∧
      (∀ v, (outer * inner).rotate v = outer.rotate (inner.rotate v) ∧
        (outer * inner).unrotate v = inner.unrotate (outer.unrotate v)) ∧
      ∀ (params : Params ℝ) (rig : Rig ℝ), rig.orientation.1 = outer → params.referenceFrame = inner →
        ∀ v, (Drive.frame params rig).1.rotate v = outer.rotate (inner.rotate v) ∧
          (Drive.frame params rig).1.unrotate v = inner.unrotate (outer.unrotate v) := by
  have composed (v : Vec3 ℝ) : (outer * inner).rotate v = outer.rotate (inner.rotate v) ∧
      (outer * inner).unrotate v = inner.unrotate (outer.unrotate v) :=
    ⟨Quat.rotate_mul outer inner v outerUnit innerUnit, Quat.unrotate_mul outer inner v outerUnit innerUnit⟩
  refine ⟨fun v => ⟨?_, ?_⟩, fun v w => ⟨?_, ?_⟩, fun v => ⟨?_, ?_⟩, ?_, composed, ?_⟩
  · exact inner.rotate_unrotate v innerUnit
  · exact inner.unrotate_rotate v innerUnit
  · exact inner.dot_rotate v w innerUnit
  · exact inner.dot_unrotate v w innerUnit
  · exact inner.norm_rotate v innerUnit
  · exact inner.norm_unrotate v innerUnit
  · exact Quat.unit_mul outer inner outerUnit innerUnit
  · rintro params rig rfl rfl v
    exact composed v

theorem tipped_frame_turns :
    let reference : Quat ℝ := ⟨0.6, 0, 0, 0.8⟩
    let params : Params ℝ := { Params.initial with referenceFrame := reference }
    tiltedRig.orientation.1.Unit ∧ reference.Unit ∧
      (Drive.frame params tiltedRig).1.rotate ⟨0, 1, 0⟩ = ⟨0.96, 0, 0.28⟩ := by
  intro reference params
  have unit : reference.Unit := by norm_num [Quat.Unit, Quat.normSquared, reference]
  have tipped : reference.rotate ⟨0, 1, 0⟩ = ⟨0, 0.28, 0.96⟩ := by
    rw [Quat.rotate_eq]
    ext <;> norm_num [Vec3.cross, reference]
  obtain ⟨_, _, _, _, _, frame⟩ := frame_conversions_turn tiltedRig.orientation.1 reference tilted_unit unit
  have turned := (frame params tiltedRig rfl rfl ⟨0, 1, 0⟩).1
  rw [tipped] at turned
  exact ⟨tilted_unit, unit, turned.trans (tilted_rotate _)⟩

end VehicleSim
