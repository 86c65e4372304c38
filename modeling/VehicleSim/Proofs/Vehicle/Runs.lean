import VehicleSim.Proofs.Vehicle.Conduct

/-!
Everything that is done to a vehicle while its object lives, one action after another, and what each action
writes to the body. Scripts and the world come and go between actions, so bodies, landscapes and schedules are
whatever they are at the time.
-/

set_option autoImplicit false

namespace VehicleSim

inductive VehicleAction (α : Type) where
  | setType (kind : Kind) (schedule : Schedule)
  | setFloat (param : Param) (value : α)
  | setVector (param : Param) (value : Vec3 α)
  | setRotation (param : Param) (value : Quat α)
  | setFlags (mask : Int) (remove : Bool)
  | configure (body : BodyView α)
  | step (body : BodyView α) (landscape : Landscape α) (dt : α)

namespace Vehicle

variable {α : Type} [Scalar α]

def act (vehicle : Vehicle α) : VehicleAction α → Vehicle α × List (BodyWrite α)
  | .setType kind schedule => ((vehicle.setType kind schedule).1, [])
  | .setFloat param value => (vehicle.setFloat param value, [])
  | .setVector param value => (vehicle.setVector param value, [])
  | .setRotation param value => (vehicle.setRotation param value, [])
  | .setFlags mask remove => (vehicle.setFlags mask remove, [])
  | .configure body => vehicle.configure body
  | .step body landscape dt =>
      let (after, rig) := vehicle.step body landscape dt
      (after, rig.traffic.writes)

def run (vehicle : Vehicle α) (actions : List (VehicleAction α)) : Vehicle α :=
  actions.foldl (fun vehicle action => (vehicle.act action).1) vehicle

theorem run_then (vehicle : Vehicle α) (actions : List (VehicleAction α)) (action : VehicleAction α) :
    vehicle.run (actions ++ [action]) = ((vehicle.run actions).act action).1 := List.foldl_append

theorem enabled_act (vehicle : Vehicle α) (action : VehicleAction α) (enabled : vehicle.enabled = true) :
    (vehicle.act action).1.enabled = true := by
  cases action with
  | setType kind schedule => simpa only [act, set_type_vehicle vehicle kind schedule enabled] using enabled
  | configure body =>
      obtain ⟨mass, gravity, pull, configured⟩ := vehicle.configure_vehicle body
      simpa only [act, configured] using enabled
  | step body landscape dt =>
      obtain ⟨linear, angular, target, known, last, stepped⟩ := vehicle.step_vehicle body landscape dt
      exact (congrArg Vehicle.enabled stepped).trans enabled
  | _ => exact enabled

theorem enabled_run (vehicle : Vehicle α) (actions : List (VehicleAction α)) (enabled : vehicle.enabled = true) :
    (vehicle.run actions).enabled = true := by
  induction actions generalizing vehicle with
  | nil => exact enabled
  | cons action rest ih => exact ih (vehicle.act action).1 (vehicle.enabled_act action enabled)

def told (vehicle : Vehicle α) : List (VehicleAction α) → List (List (BodyWrite α))
  | [] => []
  | action :: rest => (vehicle.act action).2 :: (vehicle.act action).1.told rest

end Vehicle

end VehicleSim
