import VehicleSim.Proofs.Vehicle.FinalVelocity

/-!
How fast a vehicle with a limited motor climbs while it touches nothing, in exact arithmetic. The limit is set in the
middle of a move. Of the stages after it, gravity leaves the velocity, deflection turns nothing upward, and the last
stage only takes away.
-/

set_option autoImplicit false

namespace VehicleSim

namespace Drive

variable (input : StepInput ℝ) (params : Params ℝ) (rig : Rig ℝ)

theorem limit_climb_z (limit : params.flags.has .limitMotorUp = true) (free : rig.body.colliding = false) :
    (limitClimb params rig).velocity.1.z ≤ 0.1 := by
  have apart : rig.velocity.2.body.colliding = false := free
  rw [limitClimb, if_pos limit]
  simp only [apart, Bool.not_false, Bool.true_and, decide_eq_true_eq]
  by_cases climbs : 0.1 < rig.velocity.1.z
  · rw [if_pos climbs]
    change (0 : ℝ) ≤ 0.1
    norm_num
  · rw [if_neg climbs]
    have kept : rig.velocity.2.velocity.1 = rig.velocity.1 := rig.read_twice .velocity .velocity
    rw [kept]
    exact not_lt.mp climbs

theorem deflect_level (free : rig.body.colliding = false)
    (level : input.tuning.enableLinearDeflection = false ∨ input.tuning.linearDeflectionNotCollidingNoZ = true) :
    (deflect input params rig).velocity.1.z = rig.velocity.1.z := by
  unfold deflect
  cases deflects : input.tuning.enableLinearDeflection with
  | false => rfl
  | true =>
      have flat : input.tuning.linearDeflectionNotCollidingNoZ = true := by simpa [deflects] using level
      have apart : rig.orientation.2.velocity.2.body.colliding = false := free
      simp only [frame, flat, apart, if_true, Bool.not_false, Bool.true_and]
      change rig.orientation.2.velocity.1.z + 0 = _
      rw [add_zero]
      exact congrArg Vec3.z (rig.read_twice .orientation .velocity)

theorem lock_axes_z (velocity : Vec3 ℝ) (high : ℝ) (positive : 0 ≤ high) (slow : velocity.z ≤ high) :
    (lockAxes params velocity).z ≤ high := by
  by_cases locked : params.flags.has .noZ = true
  · rwa [lockAxes, if_pos locked]
  · rwa [lockAxes, if_neg locked]

theorem clamped_z (tuning : Tuning ℝ) (velocity : Vec3 ℝ) (high : ℝ) (limited : 0 ≤ tuning.maxLinearVelocity)
    (positive : 0 ≤ high) (slow : velocity.z ≤ high) : (clamped tuning velocity).z ≤ high := by
  obtain ⟨share, few, most, scaled⟩ := clamped_share tuning velocity limited
  calc
    (clamped tuning velocity).z = velocity.z * share := congrArg Vec3.z scaled
    _ ≤ high * share := mul_le_mul_of_nonneg_right slow few
    _ ≤ high := mul_le_of_le_one_right positive most

theorem before_limits_z (limit : params.flags.has .limitMotorUp = true) (free : rig.body.colliding = false)
    (level : input.tuning.enableLinearDeflection = false ∨ input.tuning.linearDeflectionNotCollidingNoZ = true) :
    (beforeLimits input params rig).velocity.1.z ≤ 0.1 := by
  let moved := linearMotor input params rig
  let hovered := hover input moved.1 (groundFloor moved.2)
  let boxed := blockingBox input hovered.1 hovered.2
  let held := limitClimb hovered.1 boxed
  let pulled := applyGravity input hovered.1 held
  obtain ⟨target, settled⟩ := move_linear_params input params rig
  have limited : hovered.1.flags.has .limitMotorUp = true := (congrArg (·.flags.has .limitMotorUp) settled).trans limit
  have hovering := ((Drive.linear_motor_performs rig input params).append (Drive.ground_floor_performs _)).append
    (Drive.hover_performs _ input moved.1)
  have boxedBody : boxed.body = rig.body :=
    (hovering.append (Drive.blocking_box_performs _ input hovered.1)).body_kept
  have pulledBody : pulled.body = boxed.body :=
    ((Drive.limit_climb_performs boxed hovered.1).append (Drive.apply_gravity_performs _ input hovered.1)).body_kept
  calc
    (deflect input hovered.1 pulled).velocity.1.z = pulled.velocity.1.z :=
      deflect_level input hovered.1 pulled (by rw [pulledBody, boxedBody, free]) level
    _ = held.velocity.1.z := congrArg Vec3.z (apply_gravity_velocity held input hovered.1)
    _ ≤ 0.1 := limit_climb_z hovered.1 boxed limited (by rw [boxedBody, free])

end Drive

/-- A vehicle whose motor is limited climbs no faster than a tenth of a unit in a second, as long as it touches nothing
and deflection does not turn it upward: not at the end of a move, and so not with the velocity that a step writes. -/
theorem limited_vehicle_climb (vehicle : Vehicle ℝ) (body : BodyView ℝ)
    (limit : vehicle.params.flags.has .limitMotorUp = true) (free : body.colliding = false)
    (positive : 0 ≤ vehicle.tuning.maxLinearVelocity)
    (level : vehicle.tuning.enableLinearDeflection = false ∨ vehicle.tuning.linearDeflectionNotCollidingNoZ = true) :
    (∀ (input : StepInput ℝ) (rig : Rig ℝ), input.tuning = vehicle.tuning → rig.body = body →
      (Drive.moveLinear input vehicle.params rig).2.velocity.1.z ≤ 0.1) ∧
      ∀ landscape dt, vehicle.isActive body = true →
        ∃ position orientation velocity force spin torque,
          (vehicle.step body landscape dt).2.traffic.writes =
            Vehicle.stepWrites position orientation velocity force spin torque ∧
          (vehicle.step body landscape dt).2.body.velocity = velocity ∧ velocity.z ≤ 0.1 := by
  have tenth : (0 : ℝ) ≤ 0.1 := by norm_num
  have moved (input : StepInput ℝ) (rig : Rig ℝ) (tuned : input.tuning = vehicle.tuning) (bound : rig.body = body) :
      (Drive.moveLinear input vehicle.params rig).2.velocity.1.z ≤ 0.1 := by
    rw [Drive.move_linear_velocity, tuned]
    apply Drive.clamped_z _ _ _ positive tenth
    apply Drive.lock_axes_z _ _ _ tenth
    exact Drive.before_limits_z input vehicle.params rig limit (bound ▸ free) (tuned ▸ level)
  refine ⟨moved, ?_⟩
  intro landscape dt active
  obtain ⟨left, position, orientation, force, spin, torque, writes⟩ := vehicle.step_velocity body landscape dt active
  exact ⟨position, orientation, _, force, spin, torque, writes, left, moved _ _ rfl rfl⟩

theorem thrown_boat_climb :
    let stepped := (newBoat.step thrownUp ⟨fun _ _ => 0, fun _ _ => 0⟩ 0.1).2
    newBoat.params.flags.has .limitMotorUp = true ∧ thrownUp.colliding = false ∧
      0 ≤ newBoat.tuning.maxLinearVelocity ∧ newBoat.tuning.enableLinearDeflection = true ∧
      newBoat.tuning.linearDeflectionNotCollidingNoZ = true ∧ thrownUp.velocity.z = 5.0 ∧
      stepped.body.velocity.z ≤ 0.1 := by
  have limit : newBoat.params.flags.has .limitMotorUp = true := by decide
  have most : newBoat.tuning.maxLinearVelocity = 1000.0 := rfl
  have positive : 0 ≤ newBoat.tuning.maxLinearVelocity := by norm_num [most]
  obtain ⟨_, _, _, _, _, _, -, left, slow⟩ := (limited_vehicle_climb newBoat thrownUp limit rfl positive (Or.inr rfl)).2
    ⟨fun _ _ => 0, fun _ _ => 0⟩ 0.1 rfl
  exact ⟨limit, rfl, positive, rfl, rfl, rfl, left ▸ slow⟩

end VehicleSim
