import VehicleSim.Proofs.Drive.SpeedLimit
import VehicleSim.Proofs.Body.Survey
import VehicleSim.Proofs.Drive.Steady
import VehicleSim.Proofs.Vehicle.Runs
import VehicleSim.Proofs.Vehicle.Traffic

/-!
The velocity that an active step writes. The stages that turn the vehicle and the flush leave it as the move has made
it, and the last thing that a move does is to lock the axes and to limit the speed.
-/

set_option autoImplicit false

namespace VehicleSim

section

variable {α : Type} [Scalar α]

theorem Rig.flush_body (rig : Rig α) (unwritten : rig.traffic.writes = []) :
    rig.flush.2.body = rig.flush.2.traffic.writes.foldl BodyView.store rig.body := by
  cases changed : rig.cache.hasChanges with
  | false =>
      rw [rig.flush_unchanged changed, unwritten]
      rfl
  | true =>
      rw [rig.flush_changed changed]
      change _ = (rig.traffic.writes ++ _).foldl BodyView.store rig.body
      rw [unwritten, List.nil_append]

namespace Drive

def beforeLimits (input : StepInput α) (params : Params α) (rig : Rig α) : Rig α :=
  let moved := linearMotor input params rig
  let hovered := hover input moved.1 (groundFloor moved.2)
  let held := limitClimb hovered.1 (blockingBox input hovered.1 hovered.2)
  deflect input hovered.1 (applyGravity input hovered.1 held)

theorem move_linear_velocity (input : StepInput α) (params : Params α) (rig : Rig α) :
    (moveLinear input params rig).2.velocity.1 =
      clamped input.tuning (lockAxes params (beforeLimits input params rig).velocity.1) := by
  have last : (moveLinear input params rig).2 =
      lockAndClamp input (moveLinear input params rig).1 (beforeLimits input params rig) := rfl
  obtain ⟨target, moved⟩ := move_linear_params input params rig
  rw [last, lock_and_clamp_velocity, moved]
  rfl

end Drive

namespace Vehicle

variable (vehicle : Vehicle α) (body : BodyView α) (landscape : Landscape α) (dt : α)

theorem step_body :
    (vehicle.step body landscape dt).2.body =
      (vehicle.step body landscape dt).2.traffic.writes.foldl BodyView.store body := by
  cases active : vehicle.isActive body with
  | false =>
      simp only [step, active]
      rfl
  | true =>
      obtain ⟨accesses, follows, flushed, -, -⟩ := vehicle.step_performs body landscape dt active
      have start : Performs (Rig.bind vehicle.known body landscape).forget _ _ := ⟨accesses, follows, rfl⟩
      have unwritten := (Rig.bind vehicle.known body landscape).forget.writes_run accesses follows.is_flush_false
      rw [flushed, Rig.flush_body _ unwritten, start.body_kept]
      rfl

theorem step_leaves (active : vehicle.isActive body = true) (field : StateField) :
    let rig := (Rig.bind vehicle.known body landscape).forget
    (vehicle.step body landscape dt).2.body.get field =
      ((move (vehicle.stepInput dt) vehicle.params rig).2.read field).1 := by
  intro rig
  let last := (move (vehicle.stepInput dt) vehicle.params rig).2.position.2
  have stepped : (vehicle.step body landscape dt).2 = last.flush.2 := by
    simp only [step, active, if_true]
    rfl
  have placed : Performs (move (vehicle.stepInput dt) vehicle.params rig).2 [.always (.read .position)] last :=
    .cons_read .position .nil
  obtain ⟨accesses, follows, run⟩ := (Vehicle.move_performs rig (vehicle.stepInput dt) vehicle.params).append placed
  have mirrors : Mirrors (Rig.bind vehicle.known body landscape) accesses last := run ▸ mirrors_run _ accesses
  have changed : last.cache.hasChanges = true := run ▸ script_run_changed _ _ accesses follows
  rw [stepped, last.flush_changed changed]
  exact (mirrors.first_flush follows.since_flush field).trans (Rig.read_twice _ .position field)

theorem step_velocity (active : vehicle.isActive body = true) :
    let rig := (Rig.bind vehicle.known body landscape).forget
    let velocity := (Drive.moveLinear (vehicle.stepInput dt) vehicle.params rig).2.velocity.1
    (vehicle.step body landscape dt).2.body.velocity = velocity ∧
      ∃ position orientation force spin torque,
        (vehicle.step body landscape dt).2.traffic.writes =
          stepWrites position orientation velocity force spin torque := by
  intro rig velocity
  let moved := Drive.moveLinear (vehicle.stepInput dt) vehicle.params rig
  let turned := Drive.moveAngular (vehicle.stepInput dt) moved.1 moved.2
  have left : (vehicle.step body landscape dt).2.body.velocity = velocity :=
    calc
      (vehicle.step body landscape dt).2.body.velocity = (Drive.limitRotation turned.1 turned.2).velocity.1 :=
        vehicle.step_leaves body landscape dt active .velocity
      _ = turned.2.velocity.1 := Drive.limit_rotation_velocity _ _
      _ = velocity := Drive.move_angular_velocity _ _ _
  obtain ⟨position, orientation, written, force, spin, torque, writes, -⟩ :=
    vehicle.active_step_writes body landscape dt active
  have stored : (vehicle.step body landscape dt).2.body.velocity = written := by
    rw [step_body, writes]
    cases position <;> cases orientation <;> cases torque <;> rfl
  refine ⟨left, position, orientation, force, spin, torque, ?_⟩
  rw [writes, ← left, stored]

end Vehicle

end

/-- An active step writes the velocity with which the last stage of the move finds the vehicle, without the axes that
are locked and with a length that is allowed. It is the same where its length was allowed, of the longest length where
it was too long, and nothing where it was too short. -/
theorem written_velocity_limited (vehicle : Vehicle ℝ) (body : BodyView ℝ) (landscape : Landscape ℝ) (dt : ℝ)
    (active : vehicle.isActive body = true) (positive : 0 ≤ vehicle.tuning.minLinearVelocity)
    (ordered : vehicle.tuning.minLinearVelocity ≤ vehicle.tuning.maxLinearVelocity) :
    let least := vehicle.tuning.minLinearVelocity
    let most := vehicle.tuning.maxLinearVelocity
    let flags := vehicle.params.flags
    let rig := (Rig.bind vehicle.known body landscape).forget
    let entering := (Drive.beforeLimits (vehicle.stepInput dt) vehicle.params rig).velocity.1
    let locked := Drive.lockAxes vehicle.params entering
    let stepped := (vehicle.step body landscape dt).2
    ∃ position orientation velocity force spin torque,
      stepped.traffic.writes = Vehicle.stepWrites position orientation velocity force spin torque ∧
      stepped.body.velocity = velocity ∧
      (flags.has .noX = true → velocity.x = 0) ∧
      (flags.has .noY = true → velocity.y = 0) ∧
      (flags.has .noZ = true → velocity.z = 0) ∧
      (velocity = 0 ∨ least ≤ velocity.norm ∧ velocity.norm ≤ most) ∧
      (∃ share : ℝ, 0 ≤ share ∧ velocity = locked * share) ∧
      (least ≤ locked.norm → locked.norm ≤ most → velocity = locked) ∧
      (most < locked.norm → velocity.norm = most) ∧
      (locked.norm < least → velocity = 0) := by
  intro least most flags rig entering locked stepped
  let velocity := Drive.clamped vehicle.tuning locked
  have nonneg : 0 ≤ most := positive.trans ordered
  obtain ⟨left, position, orientation, force, spin, torque, writes⟩ := vehicle.step_velocity body landscape dt active
  have made : (Drive.moveLinear (vehicle.stepInput dt) vehicle.params rig).2.velocity.1 = velocity :=
    Drive.move_linear_velocity _ _ _
  rw [made] at left writes
  obtain ⟨share, few, -, scaled⟩ := Drive.clamped_share vehicle.tuning locked nonneg
  have fast := Drive.clamped_norm_fast vehicle.tuning locked nonneg
  have slow := Drive.clamped_slow vehicle.tuning locked ordered
  have within := Drive.clamped_within vehicle.tuning locked positive
  obtain ⟨noX, noY, noZ⟩ := Drive.lock_axes_share vehicle.params entering share
  rw [← show velocity = locked * share from scaled] at noX noY noZ
  refine ⟨position, orientation, velocity, force, spin, torque, writes, left, noX, noY, noZ, ?_, ⟨share, few, scaled⟩,
    within, fast, slow⟩
  by_cases long : most < locked.norm
  · exact Or.inr ⟨(fast long).symm ▸ ordered, (fast long).le⟩
  · by_cases short : locked.norm < least
    · exact Or.inl (slow short)
    · have same : velocity = locked := within (not_lt.mp short) (not_lt.mp long)
      exact Or.inr (same ▸ ⟨not_lt.mp short, not_lt.mp long⟩)

noncomputable def newBoat : Vehicle ℝ := (Vehicle.create 7 Tuning.initial).run [.setType .boat .empty]

noncomputable def levelBoat : Vehicle ℝ := newBoat.setFlags 4096 false

noncomputable def thrownUp : BodyView ℝ := { BodyView.restingAt 0 with velocity := ⟨3.0, 0, 5.0⟩ }

theorem level_boat_stays_level :
    let stepped := (levelBoat.step thrownUp ⟨fun _ _ => 0, fun _ _ => 0⟩ 0.1).2
    levelBoat.isActive thrownUp = true ∧ 0 ≤ levelBoat.tuning.minLinearVelocity ∧
      levelBoat.tuning.minLinearVelocity ≤ levelBoat.tuning.maxLinearVelocity ∧
      levelBoat.params.flags.has .noZ = true ∧ thrownUp.velocity.z = 5.0 ∧
      stepped.body.velocity.z = 0 ∧ (stepped.body.velocity = 0 ∨ stepped.body.velocity.norm ≤ 1000.0) := by
  intro stepped
  have active : levelBoat.isActive thrownUp = true := rfl
  have least : levelBoat.tuning.minLinearVelocity = 0.001 := rfl
  have most : levelBoat.tuning.maxLinearVelocity = 1000.0 := rfl
  have positive : 0 ≤ levelBoat.tuning.minLinearVelocity := by norm_num [least]
  have ordered : levelBoat.tuning.minLinearVelocity ≤ levelBoat.tuning.maxLinearVelocity := by norm_num [least, most]
  have locked : levelBoat.params.flags.has .noZ = true := by decide
  obtain ⟨_, _, velocity, _, _, _, -, left, -, -, level, length, -⟩ := written_velocity_limited levelBoat thrownUp
    ⟨fun _ _ => 0, fun _ _ => 0⟩ 0.1 active positive ordered
  refine ⟨active, positive, ordered, locked, rfl, left ▸ level locked, ?_⟩
  rw [left]
  exact length.imp id And.right

end VehicleSim
