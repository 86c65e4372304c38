import VehicleSim.Proofs.Drive.Script

/-!
What a stage leaves alone. Nothing but a write of a field changes the value that the vehicle goes by, and until the
flush nothing at all changes the body.
-/

set_option autoImplicit false

namespace VehicleSim

variable {α : Type} {rig after : Rig α} {script : Script}

namespace Rig

theorem value_kept (field : StateField) (slot : after.cache.slot field = rig.cache.slot field)
    (body : after.body = rig.body) : (after.read field).1 = (rig.read field).1 := by
  rw [read_value, read_value, slot, body]

theorem read_twice (rig : Rig α) (other field : StateField) :
    ((rig.read other).2.read field).1 = (rig.read field).1 := by
  by_cases same : field = other
  · subst same
    rw [read_value, read_value, slot_read_same, body_read, Known.read_fetch]
  · exact value_kept field (rig.slot_read_other other field same) (rig.body_read other)

variable [Scalar α]

theorem body_access (rig : Rig α) (access : Access α) (use : Use) (made : access.use? = some use) :
    (rig.access access).body = rig.body := by
  cases access with
  | read field => exact rig.body_read field
  | set field value => exact rig.body_set field value
  | add field term => exact rig.body_add field term
  | height surface => exact (rig.same_state_height surface).body.trans (rig.body_read .position)
  | flush => cases made

theorem value_access (rig : Rig α) (access : Access α) (use : Use) (made : access.use? = some use) (field : StateField)
    (unset : use ≠ .set field) : ((rig.access access).read field).1 = (rig.read field).1 := by
  cases access with
  | read other => exact rig.read_twice other field
  | set other value =>
      cases made
      have differs : field ≠ other := fun same => unset (congrArg Use.set same.symm)
      exact value_kept field (rig.slot_set_other other field value differs) (rig.body_set other value)
  | add other term => exact value_kept field (rig.slot_add other term field) (rig.body_add other term)
  | height surface =>
      have seen := rig.same_state_height surface
      exact (value_kept field (seen.slot field) seen.body).trans (rig.read_twice .position field)
  | flush => cases made

end Rig

variable [Scalar α]

namespace Performs

theorem body_kept (performs : Performs rig script after) : after.body = rig.body := by
  obtain ⟨accesses, follows, run⟩ := performs
  subst run
  induction follows generalizing rig with
  | done => rfl
  | take cue access script accesses same rest ih => exact ih.trans (rig.body_access access cue.use same)
  | skip use script accesses rest ih => exact ih

theorem value_kept (performs : Performs rig script after) (field : StateField)
    (unset : ∀ cue ∈ script, cue.use ≠ .set field) : (after.read field).1 = (rig.read field).1 := by
  obtain ⟨accesses, follows, run⟩ := performs
  subst run
  induction follows generalizing rig with
  | done => rfl
  | take cue access script accesses same rest ih =>
      rw [List.forall_mem_cons] at unset
      exact (ih unset.2).trans (rig.value_access access cue.use same field unset.1)
  | skip use script accesses rest ih => exact ih (List.forall_mem_cons.mp unset).2

end Performs

namespace Drive

variable (rig : Rig α) (input : StepInput α) (params : Params α)

theorem apply_gravity_velocity : (applyGravity input params rig).velocity.1 = rig.velocity.1 :=
  (Drive.apply_gravity_performs rig input params).value_kept .velocity (by decide)

theorem move_angular_velocity : (moveAngular input params rig).2.velocity.1 = rig.velocity.1 :=
  (Drive.move_angular_performs rig input params).value_kept .velocity
    (by cases params.linearMotorOffset != 0 <;> decide)

theorem limit_rotation_velocity : (limitRotation params rig).velocity.1 = rig.velocity.1 :=
  (Drive.limit_rotation_performs rig params).value_kept .velocity (by decide)

end Drive

end VehicleSim
