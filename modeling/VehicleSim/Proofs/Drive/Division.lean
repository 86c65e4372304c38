import Mathlib.Logic.Basic
import VehicleSim.Proofs.Vehicle.Conduct

/-!
What a step divides by: the timescales of the vehicle, two, square roots and cosines, and nothing else. So a
division that is right for these makes the same step, whatever it gives for other divisors.
-/

set_option autoImplicit false

namespace VehicleSim

variable {α : Type}

def Motor.divisors (motor : Motor α) : List α :=
  [motor.timescale, motor.decayTimescale, motor.frictionTimescale.x, motor.frictionTimescale.y,
    motor.frictionTimescale.z]

def Params.divisors (params : Params α) : List α :=
  params.linear.divisors ++ params.angular.divisors ++
    [params.hoverTimescale, params.linearDeflectionTimescale, params.verticalAttractionTimescale,
      params.angularDeflectionTimescale, params.bankingTimescale]

variable [scalar : Scalar α]

@[reducible]
def dividing (div : α → α → α) : Scalar α := { scalar with div := div }

def RightFor (div : α → α → α) (divisor : α) : Prop := ∀ x, div x divisor = x / divisor

-- Roots are divided by where they are above some bound, and cosines where they are those of a slope that is not steep.
structure RightBesides (div : α → α → α) : Prop where
  two : RightFor div 2.0
  root : ∀ bound square : α, bound * bound < square → RightFor div (Scalar.sqrt square)
  cosine : ∀ sine : α, Scalar.abs sine < 1 → RightFor div (Scalar.cos (-Scalar.asin sine))

variable {div : α → α → α}

theorem divided {divisor : α} (right : RightFor div divisor) (x : α) :
    @HDiv.hDiv α α α (@instHDiv α (dividing div).toDiv) x divisor = x / divisor := right x

theorem vec_divided {divisor : α} (right : RightFor div divisor) (v : Vec3 α) :
    @HDiv.hDiv (Vec3 α) α (Vec3 α) (@Vec3.instHDiv α (dividing div)) v divisor = v / divisor := by
  change (⟨div v.x divisor, div v.y divisor, div v.z divisor⟩ : Vec3 α) = _
  rw [right, right, right]
  rfl

theorem quat_divided {divisor : α} (right : RightFor div divisor) (q : Quat α) :
    (⟨div q.x divisor, div q.y divisor, div q.z divisor, div q.w divisor⟩ : Quat α) =
      ⟨q.x / divisor, q.y / divisor, q.z / divisor, q.w / divisor⟩ := by
  rw [right, right, right, right]

namespace Motor

variable (motor : Motor α) (dt : α)

theorem advance_divided (right : RightFor div motor.decayTimescale) :
    @advance α (dividing div) motor dt = motor.advance dt := by
  have decayed := vec_divided right (motor.decaying * dt)
  unfold advance
  cases motor.requested with
  | some direction => rfl
  | none => exact congrArg (fun lost => { motor with requested := none, decaying := motor.decaying - lost }) decayed

theorem friction_divided (timescale : Vec3 α) (x : RightFor div timescale.x) (y : RightFor div timescale.y)
    (z : RightFor div timescale.z) :
    @frictionFactor α (dividing div) timescale dt = frictionFactor timescale dt := by
  have shares : (timescale.map fun t => if t == Timescale.infinite then 0 else div 1 t) =
      timescale.map fun t => if t == Timescale.infinite then 0 else 1 / t := by
    rw [Vec3.map, x, y, z]
    rfl
  exact congrArg (fun shares : Vec3 α => if timescale == Vec3.all Timescale.infinite then 0 else shares * dt) shares

theorem drive_divided (current : Vec3 α) (right : ∀ divisor ∈ motor.divisors, RightFor div divisor) :
    @drive α (dividing div) motor current dt = motor.drive current dt := by
  have driven := vec_divided (right motor.timescale (by simp [divisors])) ((motor.decaying - current) * dt)
  have slowed := friction_divided dt motor.frictionTimescale (right _ (by simp [divisors]))
    (right _ (by simp [divisors])) (right _ (by simp [divisors]))
  exact congrArg₂ (fun driven factor : Vec3 α => driven - current.componentMul factor) driven slowed

end Motor

theorem rotate_divided : @Quat.rotate α (dividing div) = Quat.rotate := rfl

theorem unrotate_divided : @Quat.unrotate α (dividing div) = Quat.unrotate := rfl

theorem frame_divided : @Drive.frame α (dividing div) = Drive.frame := rfl

theorem sorted_clamp_divided : @Scalar.sortedClamp α (dividing div) = Scalar.sortedClamp := rfl

theorem add_spin_divided : @Drive.addSpin α (dividing div) = Drive.addSpin := rfl

theorem roll_pitch_divided (q : Quat α)
    (right : ∀ sine : α, Scalar.abs sine < 1 → RightFor div (Scalar.cos (-Scalar.asin sine))) :
    @Quat.rollPitch α (dividing div) q = q.rollPitch := by
  unfold Quat.rollPitch
  apply ite_congr rfl
  · intro gentle
    have scaled := right _ gentle
    exact congrArg₂ (fun y x => (Scalar.atan2 y x, -Scalar.asin _)) (scaled _) (scaled _)
  · intro steep
    rfl

theorem normalized_divided (q : Quat α)
    (right : ∀ bound square : α, bound * bound < square → RightFor div (Scalar.sqrt square)) :
    @Quat.normalized α (dividing div) q = q.normalized := by
  have same : @Quat.normalized? α (dividing div) q = q.normalized? := by
    unfold Quat.normalized?
    apply ite_congr rfl
    · intro long
      exact congrArg some (quat_divided (right _ _ long) q)
    · intro short
      rfl
  exact congrArg (·.getD .identity) same

namespace Drive

variable (input : StepInput α) (params : Params α) (rig : Rig α)

theorem linear_motor_divided (right : ∀ divisor ∈ params.linear.divisors, RightFor div divisor) :
    @linearMotor α (dividing div) input params rig = linearMotor input params rig := by
  have advanced := params.linear.advance_divided input.dt (right _ (by simp [Motor.divisors]))
  have driven := fun current => (params.linear.advance input.dt).drive_divided input.dt current right
  unfold linearMotor
  simp only [advanced, driven, frame_divided, rotate_divided, unrotate_divided]

theorem hover_target_divided : @hoverTarget α (dividing div) = hoverTarget := rfl

theorem lock_hover_divided : @lockHover α (dividing div) = lockHover := rfl

theorem spring_hover_divided (target : α) (position : Vec3 α) (right : RightFor div params.hoverTimescale) :
    @springHover α (dividing div) input params target position rig = springHover input params target position rig := by
  unfold springHover
  simp only [divided right]
  rfl

theorem deflection_divided (velocity : Vec3 α) (dt : α) (right : RightFor div params.linearDeflectionTimescale) :
    @deflection α (dividing div) params velocity dt = deflection params velocity dt := by
  unfold deflection
  simp only [divided right, sorted_clamp_divided]
  rfl

theorem hover_divided (right : RightFor div params.hoverTimescale) :
    @hover α (dividing div) input params rig = hover input params rig := by
  have sprung := fun aim target position rig =>
    spring_hover_divided input { params with hoverTargetHeight := aim } rig target position right
  unfold hover
  simp only [sprung, hover_target_divided, lock_hover_divided]
  rfl

theorem deflect_divided (right : RightFor div params.linearDeflectionTimescale) :
    @deflect α (dividing div) input params rig = deflect input params rig := by
  have deflected := fun velocity => deflection_divided params velocity input.dt right
  unfold deflect
  simp only [frame_divided, unrotate_divided, rotate_divided, deflected]

theorem clamp_speed_divided
    (right : ∀ bound square : α, bound * bound < square → RightFor div (Scalar.sqrt square)) :
    @clampSpeed α (dividing div) input.tuning rig = clampSpeed input.tuning rig := by
  unfold clampSpeed
  apply ite_congr rfl
  · intro fast
    have scaled := vec_divided (right _ _ fast) rig.velocity.1
    exact congrArg (fun velocity => rig.velocity.2.setVelocity (velocity * input.tuning.maxLinearVelocity)) scaled
  · intro slow
    rfl

theorem vertical_attraction_divided (right : RightFor div params.verticalAttractionTimescale)
    (cosine : ∀ sine : α, Scalar.abs sine < 1 → RightFor div (Scalar.cos (-Scalar.asin sine))) :
    @verticalAttraction α (dividing div) input params rig = verticalAttraction input params rig := by
  unfold verticalAttraction
  simp only [divided right, roll_pitch_divided _ cosine, add_spin_divided]
  rfl

theorem angular_deflection_divided (right : RightFor div params.angularDeflectionTimescale) :
    @angularDeflection α (dividing div) input params rig = angularDeflection input params rig := by
  unfold angularDeflection
  simp only [divided right, frame_divided, unrotate_divided, add_spin_divided]
  rfl

theorem banking_divided (right : RightFor div params.bankingTimescale) :
    @banking α (dividing div) input params rig = banking input params rig := by
  unfold banking
  simp only [vec_divided right, frame_divided, unrotate_divided, add_spin_divided]
  rfl

theorem within_roll_divided (component bound : α) (right : RightFor div 2.0) :
    @withinRoll α (dividing div) component bound = withinRoll component bound := by
  have half := divided right bound
  unfold withinRoll
  simp only [half]

theorem limit_rotation_divided (two : RightFor div 2.0)
    (root : ∀ bound square : α, bound * bound < square → RightFor div (Scalar.sqrt square)) :
    @limitRotation α (dividing div) params rig = limitRotation params rig := by
  have rolled := fun component bound => within_roll_divided component bound two
  have scaled := fun q => normalized_divided q root
  unfold limitRotation
  simp only [rolled, scaled]
  rfl

theorem angular_motor_divided (right : ∀ divisor ∈ params.angular.divisors, RightFor div divisor) :
    @angularMotor α (dividing div) input params rig = angularMotor input params rig := by
  have advanced := params.angular.advance_divided input.dt (right _ (by simp [Motor.divisors]))
  have driven := fun current => (params.angular.advance input.dt).drive_divided input.dt current right
  unfold angularMotor
  simp only [advanced, driven, frame_divided, unrotate_divided, add_spin_divided]

theorem lock_and_clamp_divided
    (root : ∀ bound square : α, bound * bound < square → RightFor div (Scalar.sqrt square)) :
    @lockAndClamp α (dividing div) input params rig = lockAndClamp input params rig := by
  have clamped := fun rig => clamp_speed_divided input rig root
  unfold lockAndClamp
  simp only [clamped]
  rfl

theorem ground_floor_divided : @groundFloor α (dividing div) = groundFloor := rfl

theorem blocking_box_divided : @blockingBox α (dividing div) = blockingBox := rfl

theorem limit_climb_divided : @limitClimb α (dividing div) = limitClimb := rfl

theorem apply_gravity_divided : @applyGravity α (dividing div) = applyGravity := rfl

theorem stop_slow_spin_divided : @stopSlowSpin α (dividing div) = stopSlowSpin := rfl

theorem offset_torque_divided : @offsetTorque α (dividing div) = offsetTorque := rfl

theorem divisors_move_linear : (moveLinear input params rig).1.divisors = params.divisors := by
  obtain ⟨target, moved⟩ := move_linear_params input params rig
  rw [moved]
  rfl

theorem move_linear_stages :
    moveLinear input params rig =
      let moved := linearMotor input params rig
      let hovered := hover input moved.1 (groundFloor moved.2)
      let held := limitClimb hovered.1 (blockingBox input hovered.1 hovered.2)
      (hovered.1, lockAndClamp input hovered.1 (deflect input hovered.1 (applyGravity input hovered.1 held))) := rfl

theorem move_linear_divided (right : ∀ divisor ∈ params.divisors, RightFor div divisor) (besides : RightBesides div) :
    @moveLinear α (dividing div) input params rig = moveLinear input params rig := by
  have driven := linear_motor_divided input params rig fun divisor member =>
    right divisor (by simp [Params.divisors, member])
  have raised := hover_divided input (linearMotor input params rig).1 (groundFloor (linearMotor input params rig).2)
    (right params.hoverTimescale (by simp [Params.divisors]))
  have deflected : ∀ rig', @deflect α (dividing div) input (moveLinear input params rig).1 rig' =
      deflect input (moveLinear input params rig).1 rig' := fun rig' =>
    deflect_divided input _ rig' (right _ (divisors_move_linear input params rig ▸ by simp [Params.divisors]))
  rw [@move_linear_stages α (dividing div), move_linear_stages]
  rw [move_linear_stages] at deflected
  dsimp only at deflected ⊢
  rw [driven, ground_floor_divided, raised, blocking_box_divided, limit_climb_divided, apply_gravity_divided, deflected,
    lock_and_clamp_divided]
  exact besides.root

theorem move_angular_stages :
    moveAngular input params rig =
      let turned := angularMotor input params rig
      let upright := verticalAttraction input turned.1 turned.2
      let deflected := angularDeflection input turned.1 upright
      let banked := stopSlowSpin input (banking input turned.1 deflected)
      (turned.1, offsetTorque input turned.1 banked) := rfl

theorem move_angular_divided (right : ∀ divisor ∈ params.divisors, RightFor div divisor) (besides : RightBesides div) :
    @moveAngular α (dividing div) input params rig = moveAngular input params rig := by
  have driven := angular_motor_divided input params rig fun divisor member =>
    right divisor (by simp [Params.divisors, member])
  rw [@move_angular_stages α (dividing div), move_angular_stages]
  dsimp only
  rw [driven, vertical_attraction_divided input (angularMotor input params rig).1, angular_deflection_divided,
    banking_divided, stop_slow_spin_divided, offset_torque_divided]
  · exact right params.bankingTimescale (by simp [Params.divisors])
  · exact right params.angularDeflectionTimescale (by simp [Params.divisors])
  · exact right params.verticalAttractionTimescale (by simp [Params.divisors])
  · exact besides.cosine

end Drive

namespace Vehicle

theorem move_stages (input : StepInput α) (params : Params α) (rig : Rig α) :
    move input params rig =
      let moved := Drive.moveLinear input params rig
      let turned := Drive.moveAngular input moved.1 moved.2
      (turned.1, Drive.limitRotation turned.1 turned.2) := rfl

theorem move_divided (input : StepInput α) (params : Params α) (rig : Rig α)
    (right : ∀ divisor ∈ params.divisors, RightFor div divisor) (besides : RightBesides div) :
    @move α (dividing div) input params rig = move input params rig := by
  have turned := Drive.move_angular_divided input (Drive.moveLinear input params rig).1
    (Drive.moveLinear input params rig).2 (Drive.divisors_move_linear input params rig ▸ right) besides
  rw [@move_stages α (dividing div), move_stages]
  dsimp only
  rw [Drive.move_linear_divided input params rig right besides, turned,
    Drive.limit_rotation_divided _ _ besides.two besides.root]

theorem forget_divided : @Rig.forget α (dividing div) = Rig.forget := rfl

theorem step_divided (vehicle : Vehicle α) (body : BodyView α) (landscape : Landscape α) (dt : α)
    (right : ∀ divisor ∈ vehicle.params.divisors, RightFor div divisor) (besides : RightBesides div) :
    @step α (dividing div) vehicle body landscape dt = vehicle.step body landscape dt := by
  have moved := move_divided (vehicle.stepInput dt) vehicle.params (Rig.bind vehicle.known body landscape).forget
    right besides
  unfold step
  simp only [forget_divided, moved]
  rfl

end Vehicle

end VehicleSim
