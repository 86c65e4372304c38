import VehicleSim.Proofs.Vehicle.Runs

/-!
The parameters that a vehicle can have. What every way of setting them keeps, and every step, holds after all runs.
-/

set_option autoImplicit false

namespace VehicleSim

variable {α : Type} [Scalar α]

namespace Params

def Reached (params : Params α) : Prop :=
  ∃ id tuning actions, params = ((Vehicle.create id tuning).run actions).params

-- No script, no preset and no step takes it away. A step only winds the motors on and aims the hover.
structure Kept (holds : Params α → Prop) : Prop where
  created : ∀ id tuning, holds (Vehicle.create id tuning).params
  preset : ∀ params kind, holds params → holds (params.applyPreset kind)
  float : ∀ params param value, holds params → holds (params.setFloat param value)
  vector : ∀ params param value, holds params → holds (params.setVector param value)
  rotation : ∀ params param value, holds params → holds (params.setRotation param value)
  flags : ∀ params mask remove, holds params → holds (params.setFlags mask remove)
  advanced : ∀ params dt target, holds params → holds
    { params with
      linear := params.linear.advance dt
      angular := params.angular.advance dt
      hoverTargetHeight := target }

variable {holds : Params α → Prop} (kept : Kept holds)

include kept

theorem Kept.act (vehicle : Vehicle α) (action : VehicleAction α) (before : holds vehicle.params) :
    holds (vehicle.act action).1.params := by
  cases action with
  | setType kind schedule =>
      by_cases enabled : vehicle.enabled = true
      · simp only [Vehicle.act, Vehicle.set_type_vehicle vehicle kind schedule enabled]
        exact kept.preset vehicle.params kind before
      · simpa only [Vehicle.act, Vehicle.setType, if_neg enabled] using before
  | setFloat param value => exact kept.float vehicle.params param value before
  | setVector param value => exact kept.vector vehicle.params param value before
  | setRotation param value => exact kept.rotation vehicle.params param value before
  | setFlags mask remove => exact kept.flags vehicle.params mask remove before
  | configure body =>
      obtain ⟨mass, gravity, pull, configured⟩ := vehicle.configure_vehicle body
      simp only [Vehicle.act, configured]
      exact before
  | step body landscape dt =>
      change holds (vehicle.step body landscape dt).1.params
      rw [Vehicle.step_params]
      split
      · obtain ⟨target, moved⟩ := move_params (vehicle.stepInput dt) vehicle.params
          (Rig.bind vehicle.known body landscape).forget
        rw [moved]
        exact kept.advanced vehicle.params _ target before
      · exact before

theorem Kept.run (vehicle : Vehicle α) (actions : List (VehicleAction α)) (before : holds vehicle.params) :
    holds (vehicle.run actions).params := by
  induction actions generalizing vehicle with
  | nil => exact before
  | cons action rest ih => exact ih (vehicle.act action).1 (kept.act vehicle action before)

theorem Kept.reached (params : Params α) (reached : params.Reached) : holds params := by
  obtain ⟨id, tuning, actions, rfl⟩ := reached
  exact kept.run (Vehicle.create id tuning) actions (kept.created id tuning)

end Params

end VehicleSim
