import VehicleSim.Vehicle.Actuator

/-!
What is left over from an earlier step and does not count in the next one. Scrubbing a rig replaces the values that
its cache has kept by fixed ones; it can be done before or after any stage, and the stage does the same. The height
hovered at is chosen anew, and the last position is asked for only at a block exit.
-/

set_option autoImplicit false

namespace VehicleSim

namespace Known

variable {β : Type}

def scrub (blank : β) (known : Known β) : Known β :=
  if known.fetched || known.changed then known else unread blank

theorem fetched_scrub (blank : β) (known : Known β) : (known.scrub blank).fetched = known.fetched := by
  cases fetched : known.fetched <;> cases changed : known.changed <;> simp [scrub, unread, fetched, changed]

theorem read_scrub (blank held : β) (known : Known β) : (known.scrub blank).read held = known.read held := by
  cases fetched : known.fetched <;> cases changed : known.changed <;> simp [scrub, unread, read, fetched, changed]

theorem fetch_scrub (blank held : β) (known : Known β) :
    (known.scrub blank).fetch held = (known.fetch held).scrub blank := by
  cases fetched : known.fetched <;> cases changed : known.changed <;>
    simp [scrub, unread, fetch, fetched, changed]

theorem change_scrub (blank : β) (known : Known β) : (known.scrub blank).change? = known.change? := by
  cases fetched : known.fetched <;> cases changed : known.changed <;>
    simp [scrub, unread, change?, fetched, changed]

theorem changed_scrub (blank : β) (known : Known β) : (known.scrub blank).changed = known.changed := by
  cases fetched : known.fetched <;> cases changed : known.changed <;> simp [scrub, unread, fetched, changed]

theorem scrub_forget (blank : β) (known : Known β) : known.forget.scrub blank = unread blank := rfl

end Known

variable {α : Type} [Scalar α]

namespace Cache

def scrub (cache : Cache α) : Cache α :=
  { cache with
    position := cache.position.scrub 0
    orientation := cache.orientation.scrub .identity
    velocity := cache.velocity.scrub 0
    rotationalVelocity := cache.rotationalVelocity.scrub 0 }

theorem scrub_forget (cache : Cache α) : cache.forget.scrub = fresh := rfl

theorem changes_scrub (cache : Cache α) : cache.scrub.changes = cache.changes := by
  simp only [changes, scrub, Known.change_scrub]

theorem has_changes_scrub (cache : Cache α) : cache.scrub.hasChanges = cache.hasChanges := by
  simp only [hasChanges, scrub, Known.changed_scrub]

end Cache

namespace Rig

def scrub (rig : Rig α) : Rig α := { rig with cache := rig.cache.scrub }

variable (rig : Rig α)

theorem position_scrub : rig.scrub.position = (rig.position.1, rig.position.2.scrub) := by
  simp only [position, scrub, Cache.scrub, noteRead, Known.read_scrub, Known.fetch_scrub, Known.fetched_scrub]

theorem orientation_scrub : rig.scrub.orientation = (rig.orientation.1, rig.orientation.2.scrub) := by
  simp only [orientation, scrub, Cache.scrub, noteRead, Known.read_scrub, Known.fetch_scrub, Known.fetched_scrub]

theorem velocity_scrub : rig.scrub.velocity = (rig.velocity.1, rig.velocity.2.scrub) := by
  simp only [velocity, scrub, Cache.scrub, noteRead, Known.read_scrub, Known.fetch_scrub, Known.fetched_scrub]

theorem rotational_velocity_scrub :
    rig.scrub.rotationalVelocity = (rig.rotationalVelocity.1, rig.rotationalVelocity.2.scrub) := by
  simp only [rotationalVelocity, scrub, Cache.scrub, noteRead, Known.read_scrub, Known.fetch_scrub,
    Known.fetched_scrub]

theorem set_position_scrub (value : Vec3 α) : rig.scrub.setPosition value = (rig.setPosition value).scrub := rfl

theorem set_orientation_scrub (value : Quat α) :
    rig.scrub.setOrientation value = (rig.setOrientation value).scrub := rfl

theorem set_velocity_scrub (value : Vec3 α) : rig.scrub.setVelocity value = (rig.setVelocity value).scrub := rfl

theorem set_rotational_velocity_scrub (value : Vec3 α) :
    rig.scrub.setRotationalVelocity value = (rig.setRotationalVelocity value).scrub := rfl

theorem add_force_scrub (term : Vec3 α) : rig.scrub.addForce term = (rig.addForce term).scrub := rfl

theorem add_angular_force_scrub (term : Vec3 α) :
    rig.scrub.addAngularForce term = (rig.addAngularForce term).scrub := rfl

theorem ground_height_scrub : rig.scrub.groundHeight = (rig.groundHeight.1, rig.groundHeight.2.scrub) := by
  have memo : rig.position.2.scrub.cache.ground = rig.position.2.cache.ground := rfl
  simp only [groundHeight, position_scrub, memo]
  cases HeightMemo.known? rig.position.2.cache.ground rig.position.1 <;> rfl

theorem water_level_scrub : rig.scrub.waterLevel = (rig.waterLevel.1, rig.waterLevel.2.scrub) := by
  have memo : rig.position.2.scrub.cache.water = rig.position.2.cache.water := rfl
  simp only [waterLevel, position_scrub, memo]
  cases HeightMemo.known? rig.position.2.cache.water rig.position.1 <;> rfl

theorem flush_scrub : rig.scrub.flush.2.traffic = rig.flush.2.traffic := by
  simp only [flush, scrub, Cache.has_changes_scrub, Cache.changes_scrub]
  split <;> rfl

end Rig

namespace Drive

variable (input : StepInput α) (params : Params α) (rig : Rig α)

open Rig

theorem linear_motor_scrub : linearMotor input params rig.scrub =
    ((linearMotor input params rig).1, (linearMotor input params rig).2.scrub) := by
  simp only [linearMotor, frame, orientation_scrub, velocity_scrub, set_velocity_scrub]
  rfl

theorem ground_floor_scrub : groundFloor rig.scrub = (groundFloor rig).scrub := by
  simp only [groundFloor, ground_height_scrub, position_scrub, set_position_scrub, apply_ite Rig.scrub]

theorem hover_target_scrub : hoverTarget params rig.scrub =
    ((hoverTarget params rig).1, (hoverTarget params rig).2.scrub) := by
  unfold hoverTarget
  cases params.flags.has .hoverWaterOnly <;> cases params.flags.has .hoverTerrainOnly <;>
    simp only [if_true, Bool.false_eq_true, if_false, ground_height_scrub, water_level_scrub]

theorem lock_hover_scrub (target : α) (position : Vec3 α) :
    lockHover target position rig.scrub = (lockHover target position rig).scrub := by
  simp only [lockHover, set_position_scrub, apply_ite Rig.scrub]

theorem spring_hover_scrub (target : α) (position : Vec3 α) :
    springHover input params target position rig.scrub = (springHover input params target position rig).scrub := by
  simp only [springHover, set_position_scrub, ← apply_ite Rig.scrub, velocity_scrub, set_velocity_scrub]

theorem hover_scrub : hover input params rig.scrub =
    ((hover input params rig).1, (hover input params rig).2.scrub) := by
  unfold hover
  split
  · simp only [hover_target_scrub, position_scrub, add_force_scrub, ← apply_ite Rig.scrub, lock_hover_scrub,
      spring_hover_scrub]
    split <;> rfl
  · rfl

theorem blocking_box_scrub : blockingBox input params rig.scrub = (blockingBox input params rig).scrub := by
  simp only [blockingBox, position_scrub, set_position_scrub, apply_ite Rig.scrub]

theorem limit_climb_scrub : limitClimb params rig.scrub = (limitClimb params rig).scrub := by
  simp only [limitClimb, velocity_scrub, set_velocity_scrub, apply_ite Rig.scrub]
  rfl

theorem apply_gravity_scrub : applyGravity input params rig.scrub = (applyGravity input params rig).scrub := rfl

theorem deflect_scrub : deflect input params rig.scrub = (deflect input params rig).scrub := by
  simp only [deflect, frame, orientation_scrub, velocity_scrub, set_velocity_scrub, apply_ite Rig.scrub]
  rfl

theorem clamp_speed_scrub (tuning : Tuning α) : clampSpeed tuning rig.scrub = (clampSpeed tuning rig).scrub := by
  simp only [clampSpeed, velocity_scrub, set_velocity_scrub, apply_ite Rig.scrub]

theorem lock_and_clamp_scrub : lockAndClamp input params rig.scrub = (lockAndClamp input params rig).scrub := by
  simp only [lockAndClamp, velocity_scrub, set_velocity_scrub, ← apply_ite Rig.scrub, clamp_speed_scrub]

theorem move_linear_scrub : moveLinear input params rig.scrub =
    ((moveLinear input params rig).1, (moveLinear input params rig).2.scrub) := by
  simp only [moveLinear, linear_motor_scrub, ground_floor_scrub, hover_scrub, blocking_box_scrub,
    limit_climb_scrub, apply_gravity_scrub, deflect_scrub, lock_and_clamp_scrub]

theorem add_spin_scrub (frame : Quat α) (turn : Vec3 α) :
    addSpin frame turn rig.scrub = (addSpin frame turn rig).scrub := by
  simp only [addSpin, rotational_velocity_scrub, set_rotational_velocity_scrub]

theorem angular_motor_scrub : angularMotor input params rig.scrub =
    ((angularMotor input params rig).1, (angularMotor input params rig).2.scrub) := by
  simp only [angularMotor, frame, orientation_scrub, rotational_velocity_scrub, add_spin_scrub]

theorem vertical_attraction_scrub :
    verticalAttraction input params rig.scrub = (verticalAttraction input params rig).scrub := by
  simp only [verticalAttraction, orientation_scrub, add_spin_scrub, apply_ite Rig.scrub]

theorem angular_deflection_scrub :
    angularDeflection input params rig.scrub = (angularDeflection input params rig).scrub := by
  simp only [angularDeflection, frame, orientation_scrub, velocity_scrub, add_spin_scrub, apply_ite Rig.scrub]

theorem banking_scrub : banking input params rig.scrub = (banking input params rig).scrub := by
  simp only [banking, frame, orientation_scrub, rotational_velocity_scrub, velocity_scrub, add_spin_scrub,
    apply_ite Rig.scrub]

theorem stop_slow_spin_scrub : stopSlowSpin input rig.scrub = (stopSlowSpin input rig).scrub := by
  simp only [stopSlowSpin, rotational_velocity_scrub, set_rotational_velocity_scrub, apply_ite Rig.scrub]

theorem offset_torque_scrub : offsetTorque input params rig.scrub = (offsetTorque input params rig).scrub := by
  simp only [offsetTorque, add_angular_force_scrub, apply_ite Rig.scrub]

theorem move_angular_scrub : moveAngular input params rig.scrub =
    ((moveAngular input params rig).1, (moveAngular input params rig).2.scrub) := by
  simp only [moveAngular, angular_motor_scrub, vertical_attraction_scrub, angular_deflection_scrub, banking_scrub,
    stop_slow_spin_scrub, offset_torque_scrub]

theorem limit_rotation_scrub : limitRotation params rig.scrub = (limitRotation params rig).scrub := by
  simp only [limitRotation, orientation_scrub, set_orientation_scrub, apply_ite Rig.scrub]

end Drive

theorem move_scrub (input : StepInput α) (params : Params α) (rig : Rig α) :
    Vehicle.move input params rig.scrub =
      ((Vehicle.move input params rig).1, (Vehicle.move input params rig).2.scrub) := by
  simp only [Vehicle.move, Drive.move_linear_scrub, Drive.move_angular_scrub, Drive.limit_rotation_scrub]

def Params.aimed (params : Params α) (height : α) : Params α := { params with hoverTargetHeight := height }

theorem Flags.hover_modes_iff (flags : Flags) :
    flags.hasAny Flags.hoverModes = true ↔
      flags.has .hoverWaterOnly = true ∨ flags.has .hoverTerrainOnly = true ∨ flags.has .hoverGlobalHeight = true := by
  simp [hasAny, hoverModes]

theorem Params.hover_mode (params : Params α) (cutoff : α) (enabled : params.hoverEnabled cutoff = true) :
    params.flags.hasAny Flags.hoverModes = true := by
  simp only [hoverEnabled, Bool.and_eq_true] at enabled
  exact enabled.1.1

theorem hover_target_aimed (params : Params α) (rig : Rig α) (height : α)
    (mode : params.flags.hasAny Flags.hoverModes = true) :
    Drive.hoverTarget (params.aimed height) rig = Drive.hoverTarget params rig := by
  unfold Drive.hoverTarget Params.aimed
  rcases params.flags.hover_modes_iff.mp mode with water | terrain | level
  · simp only [water, if_true]
  · simp only [terrain, if_true]
    cases params.flags.has .hoverWaterOnly <;> rfl
  · simp only [level, if_true]
    cases params.flags.has .hoverWaterOnly <;> cases params.flags.has .hoverTerrainOnly <;> rfl

theorem hover_aimed (input : StepInput α) (params : Params α) (rig : Rig α) (height : α) :
    ∃ next, Drive.hover input (params.aimed height) rig =
      ((Drive.hover input params rig).1.aimed next, (Drive.hover input params rig).2) := by
  have sameMode : (params.aimed height).hoverEnabled input.tuning.hoverTimescaleCutoff =
      params.hoverEnabled input.tuning.hoverTimescaleCutoff := rfl
  cases enabled : params.hoverEnabled input.tuning.hoverTimescaleCutoff with
  | true =>
      have mode := params.hover_mode input.tuning.hoverTimescaleCutoff enabled
      refine ⟨(Drive.hover input params rig).1.hoverTargetHeight, ?_⟩
      change _ = Drive.hover input params rig
      simp only [Drive.hover, sameMode, enabled, if_true, hover_target_aimed params rig height mode]
      rfl
  | false =>
      refine ⟨height, ?_⟩
      simp only [Drive.hover, sameMode, enabled]
      rfl

theorem move_linear_aimed (input : StepInput α) (params : Params α) (rig : Rig α) (height : α) :
    ∃ next, Drive.moveLinear input (params.aimed height) rig =
      ((Drive.moveLinear input params rig).1.aimed next, (Drive.moveLinear input params rig).2) := by
  obtain ⟨next, hovered⟩ := hover_aimed input (Drive.linearMotor input params rig).1
    (Drive.groundFloor (Drive.linearMotor input params rig).2) height
  have driven : Drive.linearMotor input (params.aimed height) rig =
      ((Drive.linearMotor input params rig).1.aimed height, (Drive.linearMotor input params rig).2) := rfl
  have blocked (params : Params α) (rig : Rig α) :
      Drive.blockingBox input (params.aimed next) rig = Drive.blockingBox input params rig := rfl
  have limited (params : Params α) (rig : Rig α) :
      Drive.limitClimb (params.aimed next) rig = Drive.limitClimb params rig := rfl
  have pulled (params : Params α) (rig : Rig α) :
      Drive.applyGravity input (params.aimed next) rig = Drive.applyGravity input params rig := rfl
  have deflected (params : Params α) (rig : Rig α) :
      Drive.deflect input (params.aimed next) rig = Drive.deflect input params rig := rfl
  have clamped (params : Params α) (rig : Rig α) :
      Drive.lockAndClamp input (params.aimed next) rig = Drive.lockAndClamp input params rig := rfl
  refine ⟨next, ?_⟩
  simp only [Drive.moveLinear, driven, hovered, blocked, limited, pulled, deflected, clamped]

theorem move_angular_aimed (input : StepInput α) (params : Params α) (rig : Rig α) (height : α) :
    Drive.moveAngular input (params.aimed height) rig =
      ((Drive.moveAngular input params rig).1.aimed height, (Drive.moveAngular input params rig).2) := by
  have turned : Drive.angularMotor input (params.aimed height) rig =
      ((Drive.angularMotor input params rig).1.aimed height, (Drive.angularMotor input params rig).2) := rfl
  have attracted (params : Params α) (rig : Rig α) :
      Drive.verticalAttraction input (params.aimed height) rig = Drive.verticalAttraction input params rig := rfl
  have deflected (params : Params α) (rig : Rig α) :
      Drive.angularDeflection input (params.aimed height) rig = Drive.angularDeflection input params rig := rfl
  have banked (params : Params α) (rig : Rig α) :
      Drive.banking input (params.aimed height) rig = Drive.banking input params rig := rfl
  have offset (params : Params α) (rig : Rig α) :
      Drive.offsetTorque input (params.aimed height) rig = Drive.offsetTorque input params rig := rfl
  simp only [Drive.moveAngular, turned, attracted, deflected, banked, offset]

theorem move_aimed (input : StepInput α) (params : Params α) (rig : Rig α) (height : α) :
    ∃ next, Vehicle.move input (params.aimed height) rig =
      ((Vehicle.move input params rig).1.aimed next, (Vehicle.move input params rig).2) := by
  obtain ⟨next, moved⟩ := move_linear_aimed input params rig height
  have limited (params : Params α) (rig : Rig α) :
      Drive.limitRotation (params.aimed next) rig = Drive.limitRotation params rig := rfl
  refine ⟨next, ?_⟩
  simp only [Vehicle.move, moved, move_angular_aimed, limited]

def StepInput.movedFrom (input : StepInput α) (last : Option (Vec3 α)) : StepInput α := { input with lastPosition := last }

theorem hover_block_exit (input : StepInput α) (params : Params α) (rig : Rig α) :
    (Drive.hover input params rig).1.blockExit = params.blockExit := by
  unfold Drive.hover
  split
  · dsimp only
    split <;> rfl
  · rfl

theorem blocking_box_unblocked (input : StepInput α) (params : Params α) (rig : Rig α)
    (unblocked : (params.blockExit == 0) = true) : Drive.blockingBox input params rig = rig := by
  simp only [Drive.blockingBox, unblocked, if_true]

theorem move_unblocked (input : StepInput α) (params : Params α) (rig : Rig α) (last : Option (Vec3 α))
    (unblocked : (params.blockExit == 0) = true) :
    Vehicle.move (input.movedFrom last) params rig = Vehicle.move input params rig := by
  have driven : Drive.linearMotor (input.movedFrom last) params rig = Drive.linearMotor input params rig := rfl
  have hovered (params : Params α) (rig : Rig α) :
      Drive.hover (input.movedFrom last) params rig = Drive.hover input params rig := rfl
  have pulled (params : Params α) (rig : Rig α) :
      Drive.applyGravity (input.movedFrom last) params rig = Drive.applyGravity input params rig := rfl
  have deflected (params : Params α) (rig : Rig α) :
      Drive.deflect (input.movedFrom last) params rig = Drive.deflect input params rig := rfl
  have clamped (params : Params α) (rig : Rig α) :
      Drive.lockAndClamp (input.movedFrom last) params rig = Drive.lockAndClamp input params rig := rfl
  have turned (params : Params α) (rig : Rig α) :
      Drive.moveAngular (input.movedFrom last) params rig = Drive.moveAngular input params rig := rfl
  have still (rig other : Rig α) :
      ((Drive.hover input (Drive.linearMotor input params other).1 rig).1.blockExit == 0) = true := by
    rw [hover_block_exit]
    exact unblocked
  simp only [Vehicle.move, Drive.moveLinear, driven, hovered, pulled, deflected, clamped, turned,
    blocking_box_unblocked _ _ _ (still _ _)]

end VehicleSim
