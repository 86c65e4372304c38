import VehicleSim.Vehicle.Actuator

/-!
What commands, refreshes and steps leave alone in a vehicle, and what a change of type asks of the
schedule.
-/

set_option autoImplicit false

namespace VehicleSim

def Command.kind? {α : Type} : Command α → Option Kind
  | .setType kind => some kind
  | _ => none

variable {α : Type} [Scalar α]

theorem move_linear_params (input : StepInput α) (params : Params α) (rig : Rig α) :
    ∃ target, (Drive.moveLinear input params rig).1 =
      { params with linear := params.linear.advance input.dt, hoverTargetHeight := target } := by
  refine ⟨(Drive.moveLinear input params rig).1.hoverTargetHeight, ?_⟩
  unfold Drive.moveLinear Drive.hover
  dsimp only
  split
  · split <;> rfl
  · rfl

theorem move_params (input : StepInput α) (params : Params α) (rig : Rig α) :
    ∃ target, (Vehicle.move input params rig).1 =
      { params with
        linear := params.linear.advance input.dt
        angular := params.angular.advance input.dt
        hoverTargetHeight := target } := by
  obtain ⟨target, moved⟩ := move_linear_params input params rig
  refine ⟨target, ?_⟩
  change { (Drive.moveLinear input params rig).1 with
    angular := (Drive.moveLinear input params rig).1.angular.advance input.dt } = _
  rw [moved]

namespace Vehicle

theorem step_params (vehicle : Vehicle α) (body : BodyView α) (landscape : Landscape α) (dt : α) :
    (vehicle.step body landscape dt).1.params =
      if vehicle.isActive body then
        (move (vehicle.stepInput dt) vehicle.params (Rig.bind vehicle.known body landscape).forget).1
      else vehicle.params := by
  by_cases active : vehicle.isActive body = true
  · simp only [step, if_pos active]
  · simp only [step, if_neg active]

theorem step_vehicle (vehicle : Vehicle α) (body : BodyView α) (landscape : Landscape α) (dt : α) :
    ∃ linear angular target known last, (vehicle.step body landscape dt).1 =
      { vehicle with
        params :=
          { vehicle.params with linear := linear, angular := angular, hoverTargetHeight := target }
        known := known
        lastPosition := last } := by
  obtain ⟨target, moved⟩ :=
    move_params (vehicle.stepInput dt) vehicle.params (Rig.bind vehicle.known body landscape).forget
  cases active : vehicle.isActive body
  · refine ⟨vehicle.params.linear, vehicle.params.angular, vehicle.params.hoverTargetHeight,
      vehicle.known, vehicle.lastPosition, ?_⟩
    simp only [step, active]
    rfl
  · refine ⟨vehicle.params.linear.advance (vehicle.stepInput dt).dt,
      vehicle.params.angular.advance (vehicle.stepInput dt).dt, target, (vehicle.step body landscape dt).1.known,
      (vehicle.step body landscape dt).1.lastPosition, ?_⟩
    simp only [step, active, if_true, moved]

theorem configure_vehicle (vehicle : Vehicle α) (body : BodyView α) :
    ∃ mass gravity vehicleGravity, (vehicle.configure body).1 =
      { vehicle with mass := mass, gravity := gravity, vehicleGravity := vehicleGravity } := by
  unfold configure
  split
  · exact ⟨_, _, _, rfl⟩
  · split <;> exact ⟨_, _, _, rfl⟩

omit [Scalar α] in
theorem register_vehicle (vehicle : Vehicle α) (schedule : Schedule) :
    (vehicle.register schedule).1 = { vehicle with registered := true } := by
  unfold register
  split
  · rename_i known
    rw [← known]
  · rfl

omit [Scalar α] in
theorem unregister_vehicle (vehicle : Vehicle α) (schedule : Schedule) :
    (vehicle.unregister schedule).1 = { vehicle with registered := false } := by
  unfold unregister
  split
  · rfl
  · rename_i unknown
    rw [← Bool.not_eq_true _ |>.mp unknown]

theorem set_type_vehicle (vehicle : Vehicle α) (kind : Kind) (schedule : Schedule)
    (enabled : vehicle.enabled = true) :
    (vehicle.setType kind schedule).1 =
      { vehicle with params := vehicle.params.applyPreset kind, registered := kind != .none } := by
  rw [setType, if_pos enabled]
  by_cases off : kind = .none
  · subst off
    simp only [if_pos, unregister_vehicle]
    rfl
  · simp only [if_neg off, register_vehicle]
    rw [show (kind != .none) = true by simpa using off]

def hookRequest? (vehicle : Vehicle α) (kind : Kind) : Option HookChange :=
  if kind = .none then if vehicle.registered then some (.unsubscribe vehicle.id) else none
  else if vehicle.registered then none
  else some (.subscribe vehicle.id)

theorem set_type_schedule (vehicle : Vehicle α) (kind : Kind) (schedule : Schedule)
    (enabled : vehicle.enabled = true) :
    (vehicle.setType kind schedule).2 =
      { schedule with pending := schedule.pending ++ (vehicle.hookRequest? kind).toList }.defer
        vehicle.id .refreshVehicle := by
  rw [setType, if_pos enabled]
  cases known : vehicle.registered <;> by_cases off : kind = .none <;>
    simp [hookRequest?, register, unregister, refresh, Schedule.subscribe, Schedule.unsubscribe,
      known, off]

theorem set_vector_kind (params : Params α) (param : Param) (value : Vec3 α) :
    (params.setVector param value).kind = params.kind := by
  cases param <;> rfl

theorem set_float_kind (params : Params α) (param : Param) (value : α) :
    (params.setFloat param value).kind = params.kind := by
  cases param <;> rfl

omit [Scalar α] in
theorem set_rotation_kind (params : Params α) (param : Param) (value : Quat α) :
    (params.setRotation param value).kind = params.kind := by
  cases param <;> rfl

theorem set_vector_flags (params : Params α) (param : Param) (value : Vec3 α) :
    (params.setVector param value).flags = params.flags := by
  cases param <;> rfl

theorem set_float_flags (params : Params α) (param : Param) (value : α) :
    (params.setFloat param value).flags = params.flags := by
  cases param <;> rfl

omit [Scalar α] in
theorem set_rotation_flags (params : Params α) (param : Param) (value : Quat α) :
    (params.setRotation param value).flags = params.flags := by
  cases param <;> rfl

def Buoyed (vehicle : Vehicle α) : Prop := vehicle.vehicleGravity = vehicle.params.vehicleGravity vehicle.gravity

theorem set_vector_buoyancy (params : Params α) (param : Param) (value : Vec3 α) :
    (params.setVector param value).buoyancy = params.buoyancy := by
  cases param <;> rfl

theorem set_float_buoyancy (params : Params α) (param : Param) (value : α) (other : param ≠ .buoyancy) :
    (params.setFloat param value).buoyancy = params.buoyancy := by
  cases param <;> first | exact absurd rfl other | rfl

omit [Scalar α] in
theorem set_rotation_buoyancy (params : Params α) (param : Param) (value : Quat α) :
    (params.setRotation param value).buoyancy = params.buoyancy := by
  cases param <;> rfl

theorem buoyed_with (vehicle : Vehicle α) (params : Params α) (buoyed : vehicle.Buoyed)
    (same : params.buoyancy = vehicle.params.buoyancy) :
    vehicle.vehicleGravity = params.vehicleGravity vehicle.gravity := by
  rw [buoyed, Params.vehicleGravity, Params.vehicleGravity, same]

theorem set_float_pull (vehicle : Vehicle α) (param : Param) (value : α) (buoyed : vehicle.Buoyed) :
    (vehicle.setFloat param value).Buoyed := by
  by_cases floats : param = .buoyancy
  · simp only [Buoyed, setFloat, floats, if_true]
  · simp only [Buoyed, setFloat, if_neg floats]
    exact buoyed_with vehicle _ buoyed (set_float_buoyancy vehicle.params param value floats)

theorem obey_setting (vehicle : Vehicle α) (command : Command α) (schedule : Schedule)
    (setting : command.kind? = none) :
    ∃ params pull, params.kind = vehicle.params.kind ∧
      (vehicle.Buoyed → pull = params.vehicleGravity vehicle.gravity) ∧
      vehicle.obey command schedule =
        ({ vehicle with params := params, vehicleGravity := pull }, schedule) := by
  cases command with
  | setType kind => cases setting
  | setFloat code value =>
      cases named : Param.ofCode? code with
      | none => exact ⟨vehicle.params, vehicle.vehicleGravity, rfl, fun buoyed => buoyed, by simp only [obey, named]⟩
      | some param =>
          exact ⟨_, _, set_float_kind vehicle.params param value, set_float_pull vehicle param value,
            by simp only [obey, named, setFloat]⟩
  | setVector code value =>
      cases named : Param.ofCode? code with
      | none => exact ⟨vehicle.params, vehicle.vehicleGravity, rfl, fun buoyed => buoyed, by simp only [obey, named]⟩
      | some param =>
          exact ⟨_, _, set_vector_kind vehicle.params param value,
            fun buoyed => buoyed_with vehicle _ buoyed (set_vector_buoyancy vehicle.params param value),
            by simp only [obey, named, setVector]⟩
  | setRotation code value =>
      cases named : Param.ofCode? code with
      | none => exact ⟨vehicle.params, vehicle.vehicleGravity, rfl, fun buoyed => buoyed, by simp only [obey, named]⟩
      | some param =>
          exact ⟨_, _, set_rotation_kind vehicle.params param value.normalized,
            fun buoyed => buoyed_with vehicle _ buoyed (set_rotation_buoyancy vehicle.params param _),
            by simp only [obey, named, setRotation]⟩
  | setFlags mask remove =>
      exact ⟨vehicle.params.setFlags mask remove, vehicle.vehicleGravity, rfl, fun buoyed => buoyed, rfl⟩

theorem obey_ignores_schedule (vehicle : Vehicle α) (command : Command α) (schedule other : Schedule) :
    (vehicle.obey command schedule).1 = (vehicle.obey command other).1 := by
  cases command with
  | setType kind =>
      cases enabled : vehicle.enabled
      · simp [obey, setType, enabled]
      · simp only [obey, set_type_vehicle vehicle kind _ enabled]
  | setFloat code value => cases named : Param.ofCode? code <;> simp only [obey, named]
  | setVector code value => cases named : Param.ofCode? code <;> simp only [obey, named]
  | setRotation code value => cases named : Param.ofCode? code <;> simp only [obey, named]
  | setFlags mask remove => rfl

end Vehicle

end VehicleSim
