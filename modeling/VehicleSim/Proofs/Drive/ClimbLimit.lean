import VehicleSim.Proofs.Space.Rotation
import VehicleSim.Drive.Translation
import VehicleSim.Proofs.Body.Survey

/-!
What the limit on climbing keeps a motor from, in exact arithmetic. The motor's change is cut off at the horizon after
one turn by the vehicle's frame, and then it is turned by the frame once more. So it is along the vertical of the frame
that the motor never climbs.
-/

set_option autoImplicit false

namespace VehicleSim

namespace Drive

noncomputable def attitude (params : Params ℝ) (rig : Rig ℝ) : Quat ℝ := rig.orientation.1 * params.referenceFrame

-- The change that a limited motor makes, between the two turns.
noncomputable def limited (change : Vec3 ℝ) : Vec3 ℝ := if 0 < change.z then { change with z := 0 } else change

theorem limited_z (change : Vec3 ℝ) : (limited change).z ≤ 0 := by
  by_cases climbs : 0 < change.z
  · rw [limited, if_pos climbs]
  · rw [limited, if_neg climbs]
    exact not_lt.mp climbs

theorem linear_motor_velocity (input : StepInput ℝ) (params : Params ℝ) (rig : Rig ℝ)
    (limit : params.flags.has .limitMotorUp = true) :
    let frame := attitude params rig
    (linearMotor input params rig).2.velocity.1 =
      rig.velocity.1 + frame.rotate (limited (frame.rotate
        ((params.linear.advance input.dt).drive (frame.unrotate rig.velocity.1) input.dt))) := by
  intro frame
  let change := frame.rotate ((params.linear.advance input.dt).drive (frame.unrotate rig.velocity.1) input.dt)
  have stage : (linearMotor input params rig).2.velocity.1 = rig.velocity.1 +
      frame.rotate (if params.flags.has .limitMotorUp && 0 < change.z then { change with z := 0 } else change) := rfl
  rw [stage]
  simp only [limit, Bool.true_and, decide_eq_true_eq]
  rfl

theorem linear_motor_along_up (input : StepInput ℝ) (params : Params ℝ) (rig : Rig ℝ)
    (limit : params.flags.has .limitMotorUp = true) (unit : (attitude params rig).Unit) :
    let up := (attitude params rig).rotate Vec3.upward
    (linearMotor input params rig).2.velocity.1.dot up ≤ rig.velocity.1.dot up := by
  intro up
  rw [linear_motor_velocity input params rig limit, Vec3.add_dot, Quat.dot_rotate _ _ _ unit, Vec3.dot_upward]
  exact add_le_of_nonpos_right (limited_z _)

noncomputable def velocityAfter (input : StepInput ℝ) (params : Params ℝ) (rig : Rig ℝ) (motor : Motor ℝ)
    (velocity : Vec3 ℝ) (dt : ℝ) : Vec3 ℝ :=
  (linearMotor { input with dt } { params with linear := motor } (rig.setVelocity velocity)).2.velocity.1

noncomputable def eager (change : Vec3 ℝ) : Motor ℝ := Motor.initial.request change

theorem eager_drive (change : Vec3 ℝ) : ((eager change).advance 1).drive 0 1 = change := by
  ext <;> simp [eager, Motor.request, Motor.advance, Motor.drive, Motor.initial, Vec3.componentMul]

variable (input : StepInput ℝ) (params : Params ℝ) (rig : Rig ℝ) (limit : params.flags.has .limitMotorUp = true)
  (unit : (attitude params rig).Unit)

include limit unit

theorem velocity_after_along_up (motor : Motor ℝ) (velocity : Vec3 ℝ) (dt : ℝ) :
    let up := (attitude params rig).rotate Vec3.upward
    (velocityAfter input params rig motor velocity dt).dot up ≤ velocity.dot up :=
  linear_motor_along_up { input with dt } { params with linear := motor } (rig.setVelocity velocity) limit unit

theorem velocity_after_eager (change : Vec3 ℝ) (level : change.z ≤ 0) :
    let frame := attitude params rig
    velocityAfter input params rig (eager (frame.unrotate change)) 0 1 = frame.rotate change := by
  intro frame
  have turned : velocityAfter input params rig (eager (frame.unrotate change)) 0 1 =
      0 + frame.rotate (limited (frame.rotate
        (((eager (frame.unrotate change)).advance 1).drive (frame.unrotate 0) 1))) :=
    linear_motor_velocity { input with dt := 1 } { params with linear := _ } (rig.setVelocity 0) limit
  rw [turned, Quat.unrotate_zero, eager_drive, frame.rotate_unrotate change unit, limited, if_neg (not_lt.mpr level)]
  ext <;> simp

end Drive

/-- A limited motor never adds to the velocity along the vertical of the vehicle's own frame. In an attitude that leaves
the vertical of the world where it is, that is the climb; in every other attitude there is a motor that makes the
vehicle climb. -/
theorem limited_motor_climbs_iff_tilted (input : StepInput ℝ) (params : Params ℝ) (rig : Rig ℝ)
    (limit : params.flags.has .limitMotorUp = true) (orientation : rig.orientation.1.Unit)
    (reference : params.referenceFrame.Unit) :
    let up := (Drive.attitude params rig).rotate Vec3.upward
    (Drive.linearMotor input params rig).2.velocity.1.dot up ≤ rig.velocity.1.dot up ∧
      ((∀ motor velocity dt, 0 ≤ dt → (Drive.velocityAfter input params rig motor velocity dt).z ≤ velocity.z) ↔
        up = Vec3.upward) := by
  intro up
  let frame := Drive.attitude params rig
  have unit : frame.Unit := Quat.unit_mul _ _ orientation reference
  refine ⟨Drive.linear_motor_along_up input params rig limit unit, ?_, ?_⟩
  · intro never
    let back := frame.unrotate Vec3.upward
    have length : back.dot back = 1 := by
      rw [Quat.dot_unrotate _ _ _ unit, Vec3.dot_upward]
      rfl
    -- The change points from the vertical to where the second turn brings it up from.
    have level : (back - Vec3.upward).z ≤ 0 := sub_nonpos.mpr (Vec3.z_le_one back length)
    have climb : (frame.rotate (back - Vec3.upward)).z = 1 - back.z := by
      rw [← Vec3.dot_upward, Quat.rotate_dot, Vec3.sub_dot, length, Vec3.dot_comm, Vec3.dot_upward]
    have stays := never (Drive.eager (frame.unrotate (back - Vec3.upward))) 0 1 zero_le_one
    rw [Drive.velocity_after_eager input params rig limit unit _ level, climb, Vec3.zero_z, sub_nonpos] at stays
    have upright : back = Vec3.upward := Vec3.eq_upward back length stays
    calc
      up = frame.rotate back := congrArg frame.rotate upright.symm
      _ = Vec3.upward := Quat.rotate_unrotate _ _ unit
  · intro upright motor velocity dt _
    have along : (Drive.velocityAfter input params rig motor velocity dt).dot up ≤ velocity.dot up :=
      Drive.velocity_after_along_up input params rig limit unit motor velocity dt
    rwa [upright, Vec3.dot_upward, Vec3.dot_upward] at along

noncomputable def tiltedRig : Rig ℝ :=
  let body := { BodyView.restingAt (0 : Vec3 ℝ) with orientation := ⟨0.5, 0.5, 0.5, 0.5⟩ }
  Rig.bind Cache.fresh body ⟨fun _ _ => 0, fun _ _ => 0⟩

noncomputable def forwardParams : Params ℝ :=
  (Params.initial.setFlags 64 false).setVector .linearMotorDirection ⟨10.0, 0, 0⟩

noncomputable def tenthInput : StepInput ℝ where
  dt := 0.1
  tuning := Tuning.initial
  mass := 1
  gravity := 0
  vehicleGravity := 0
  lastPosition := none

theorem forward_limited : forwardParams.flags.has .limitMotorUp = true := by decide

theorem tilted_unit : tiltedRig.orientation.1.Unit := by
  change Quat.Unit ⟨0.5, 0.5, 0.5, 0.5⟩
  norm_num [Quat.Unit, Quat.normSquared]

theorem tilted_attitude : Drive.attitude forwardParams tiltedRig = ⟨0.5, 0.5, 0.5, 0.5⟩ := Quat.mul_identity _

theorem tilted_rotate (v : Vec3 ℝ) : (Quat.mk (0.5 : ℝ) 0.5 0.5 0.5).rotate v = ⟨v.z, v.x, v.y⟩ := by
  rw [Quat.rotate_eq]
  ext <;> simp only [Vec3.cross, Vec3.add_x, Vec3.add_y, Vec3.add_z, Vec3.scale_x, Vec3.scale_y, Vec3.scale_z] <;>
    norm_num <;> ring

theorem forward_drive : (forwardParams.linear.advance tenthInput.dt).drive 0 tenthInput.dt = ⟨1, 0, 0⟩ := by
  change (Vec3.mk (10.0 : ℝ) 0 0 - 0) * (0.1 : ℝ) / (1 : ℝ) - Vec3.componentMul 0 _ = _
  ext <;> norm_num [Vec3.componentMul]

theorem tilted_motor_keeps_along :
    forwardParams.flags.has .limitMotorUp = true ∧ tiltedRig.orientation.1.Unit ∧ forwardParams.referenceFrame.Unit ∧
      (Drive.linearMotor tenthInput forwardParams tiltedRig).2.velocity.1.dot ⟨1, 0, 0⟩ ≤
        tiltedRig.velocity.1.dot ⟨1, 0, 0⟩ := by
  have reference : forwardParams.referenceFrame.Unit := Quat.unit_identity
  have along := (limited_motor_climbs_iff_tilted tenthInput forwardParams tiltedRig forward_limited tilted_unit
    reference).1
  rw [tilted_attitude, tilted_rotate] at along
  exact ⟨forward_limited, tilted_unit, reference, along⟩

-- Asked for ten along its own x, it climbs by one in a tenth of a second.
theorem tilted_motor_climbs :
    forwardParams.flags.has .limitMotorUp = true ∧ tiltedRig.orientation.1.Unit ∧ forwardParams.referenceFrame.Unit ∧
      0 ≤ tenthInput.dt ∧ tiltedRig.velocity.1.z = 0 ∧
      (Drive.linearMotor tenthInput forwardParams tiltedRig).2.velocity.1.z = 1 := by
  have forward : 0 ≤ tenthInput.dt := by norm_num [tenthInput]
  have rest : tiltedRig.velocity.1 = 0 := rfl
  refine ⟨forward_limited, tilted_unit, Quat.unit_identity, forward, congrArg Vec3.z rest, ?_⟩
  rw [Drive.linear_motor_velocity tenthInput forwardParams tiltedRig forward_limited, tilted_attitude, rest,
    Quat.unrotate_zero, forward_drive, tilted_rotate, tilted_rotate]
  simp [Drive.limited]

end VehicleSim
