import Mathlib.Data.Sign.Basic
import VehicleSim.Proofs.Drive.Deflection
import VehicleSim.Proofs.Vehicle.Settling

/-!
Which way deflection turns the nose, in exact arithmetic. The direction that the nose is turned to always points
forward: a vehicle that goes backward is steered by the mirror of its velocity, and one that hardly goes either way by
what it does sideways. So the angles are below a quarter turn, and each has the sign of what it turns to.
-/

set_option autoImplicit false

namespace VehicleSim

namespace Exact

theorem angle_ahead (y x : ℝ) (ahead : 0 < x) :
    SignType.sign (Scalar.atan2 y x) = SignType.sign y ∧ |Scalar.atan2 y x| < Real.pi / 2 := by
  change SignType.sign (Complex.arg ⟨x, y⟩) = SignType.sign y ∧ |Complex.arg ⟨x, y⟩| < Real.pi / 2
  refine ⟨?_, Complex.abs_arg_lt_pi_div_two_iff.mpr (Or.inl ahead)⟩
  rcases lt_trichotomy y 0 with right | level | left
  · rw [sign_neg right, sign_neg (Complex.arg_neg_iff.mpr right)]
  · rw [level, sign_zero, Complex.arg_eq_zero_iff.mpr ⟨ahead.le, rfl⟩, sign_zero]
  · have nonnegative : 0 ≤ Complex.arg ⟨x, y⟩ := Complex.arg_nonneg_iff.mpr left.le
    have turned : Complex.arg ⟨x, y⟩ ≠ 0 := fun zero => left.ne' (Complex.arg_eq_zero_iff.mp zero).2
    rw [sign_pos left, sign_pos (nonnegative.lt_of_ne turned.symm)]

end Exact

theorem Quat.rotate_scale (q : Quat ℝ) (v : Vec3 ℝ) (s : ℝ) : q.rotate (v * s) = q.rotate v * s := by
  simp only [rotate_eq]
  ext <;> simp only [Vec3.cross, Vec3.add_x, Vec3.add_y, Vec3.add_z, Vec3.scale_x, Vec3.scale_y, Vec3.scale_z] <;> ring

namespace Drive

theorem travel_fast (forward : Vec3 ℝ) (fast : 0.001 ≤ |forward.x|) :
    travel forward = forward * (if forward.x < 0 then (-1 : ℝ) else 1) := if_neg (not_lt.mpr fast)

theorem moves_of_fast (forward : Vec3 ℝ) (fast : 0.001 ≤ |forward.x|) : forward.x ≠ 0 := by
  intro still
  norm_num [still] at fast

theorem travel_ahead (forward : Vec3 ℝ) : 0 < (travel forward).x := by
  rcases lt_or_ge |forward.x| 0.001 with slow | fast
  · have replaced : travel forward = ⟨0.001, forward.y, forward.z⟩ := if_pos slow
    rw [replaced]
    norm_num
  · rw [travel_fast forward fast, Vec3.scale_x]
    rcases (moves_of_fast forward fast).lt_or_gt with backward | onward
    · rw [if_pos backward]
      linarith
    · rwa [if_neg onward.not_gt, mul_one]

theorem travel_mirrored (forward : Vec3 ℝ) (fast : 0.001 ≤ |forward.x|) :
    travel (forward * (-1 : ℝ)) = travel forward := by
  have opposite : (if forward.x * -1 < 0 then (-1 : ℝ) else 1) = -(if forward.x < 0 then -1 else 1) := by
    rcases (moves_of_fast forward fast).lt_or_gt with backward | onward
    · rw [if_pos backward, if_neg (by linarith), neg_neg]
    · rw [if_neg onward.not_gt, if_pos (by linarith)]
  have turned : 0.001 ≤ |(forward * (-1 : ℝ)).x| := by rwa [Vec3.scale_x, mul_neg_one, abs_neg]
  rw [travel_fast _ turned, travel_fast forward fast, Vec3.scale_x, opposite]
  ext <;> simp only [Vec3.scale_x, Vec3.scale_y, Vec3.scale_z] <;> ring

def TurnsToward (part turn most : ℝ) : Prop :=
  (|part| ≤ 0.01 → turn = 0) ∧ (0.01 < |part| → SignType.sign turn = SignType.sign part ∧ |turn| < most)

theorem angle_turns (part ahead strength : ℝ) (onward : 0 < ahead) (strong : 0 < strength) :
    TurnsToward part (if (0.01 : ℝ) < |part| then Scalar.atan2 part ahead * strength else 0)
      (Real.pi / 2 * strength) := by
  obtain ⟨side, quarter⟩ := Exact.angle_ahead part ahead onward
  refine ⟨fun small => if_neg (not_lt.mpr small), fun large => ?_⟩
  rw [if_pos large, sign_mul, sign_pos strong, mul_one, abs_mul, abs_of_pos strong]
  exact ⟨side, mul_lt_mul_of_pos_right quarter strong⟩

theorem TurnsToward.opposite {part turn most : ℝ} (turns : TurnsToward part turn most) :
    TurnsToward (-part) (-turn) most := by
  rw [TurnsToward, abs_neg, abs_neg, Left.sign_neg, Left.sign_neg]
  exact ⟨fun small => neg_eq_zero.mpr (turns.1 small), fun large => ((turns.2 large).imp_left (congrArg (- ·)))⟩

theorem nose_turns (moving : Vec3 ℝ) (strength : ℝ) (onward : 0 < moving.x) (strong : 0 < strength) :
    let turn := noseTurn moving strength
    turn.x = 0 ∧ TurnsToward (-moving.z) turn.y (Real.pi / 2 * strength) ∧
      TurnsToward moving.y turn.z (Real.pi / 2 * strength) := by
  intro turn
  have pitch : turn.y = -(if (0.01 : ℝ) < |moving.z| then Scalar.atan2 moving.z moving.x * strength else 0) := by
    change (if (0.01 : ℝ) < |moving.z| then -Scalar.atan2 moving.z moving.x * strength else 0) = _
    rw [apply_ite Neg.neg, neg_zero, neg_mul]
  refine ⟨rfl, ?_, angle_turns moving.y moving.x strength onward strong⟩
  rw [pitch]
  exact (angle_turns moving.z moving.x strength onward strong).opposite

variable (input : StepInput ℝ) (params : Params ℝ) (rig : Rig ℝ)

noncomputable def addedSpin : Vec3 ℝ :=
  (angularDeflection input params rig).rotationalVelocity.1 - rig.rotationalVelocity.1

theorem added_spin_eq (enabled : input.tuning.enableAngularDeflection = true)
    (efficient : params.angularDeflectionEfficiency ≠ 0) :
    let frame := attitude params rig
    addedSpin input params rig = frame.rotate (noseTurn (travel (frame.unrotate rig.velocity.1))
      (input.dt * params.angularDeflectionEfficiency / params.angularDeflectionTimescale)) := by
  intro frame
  have seen : rig.orientation.2.velocity.1 = rig.velocity.1 := rig.read_twice .orientation .velocity
  have spinning : rig.orientation.2.velocity.2.rotationalVelocity.1 = rig.rotationalVelocity.1 :=
    ((rig.read .orientation).2.read_twice .velocity .rotationalVelocity).trans
      (rig.read_twice .orientation .rotationalVelocity)
  have on : (input.tuning.enableAngularDeflection && params.angularDeflectionEfficiency != 0) = true := by
    rw [enabled, Bool.true_and]
    exact bne_iff_ne.mpr efficient
  let turn := frame.rotate (noseTurn (travel (frame.unrotate rig.orientation.2.velocity.1))
    (input.dt * params.angularDeflectionEfficiency / params.angularDeflectionTimescale))
  have stage : (angularDeflection input params rig).rotationalVelocity.1 =
      rig.orientation.2.velocity.2.rotationalVelocity.1 + turn := by
    rw [angularDeflection, if_pos on]
    rfl
  have added : addedSpin input params rig = turn := by
    rw [addedSpin, stage, spinning]
    ext <;> simp
  rw [added, ← seen]

end Drive

namespace Params

theorem deflection_timescale_kept : Kept fun params : Params ℝ => 0 < params.angularDeflectionTimescale where
  created id tuning := one_pos
  preset params kind _ := by
    cases kind <;> norm_num [applyPreset, Preset.ofKind, Preset.none, Preset.sled, Preset.car, Preset.boat,
      Preset.airplane, Preset.balloon]
  float params param value positive := by
    cases param with
    | angularDeflectionTimescale => exact lt_of_lt_of_le (by norm_num) (stored_timescale value)
    | _ => exact positive
  vector params param value positive := by cases param <;> exact positive
  rotation params param value positive := by cases param <;> exact positive
  flags _ _ _ positive := positive
  advanced _ _ _ positive := positive

end Params

/-- Deflection steers a vehicle that goes backward like one that goes forward along the mirrored velocity, and the turn
that it adds is to the side, and to the height, of the direction of travel, by less than a quarter turn's share. -/
theorem nose_turns_to_travel (input : StepInput ℝ) (params : Params ℝ) (rig : Rig ℝ)
    (enabled : input.tuning.enableAngularDeflection = true) (unit : (Drive.attitude params rig).Unit)
    (forward : 0 < input.dt) (efficiency : 0 < params.angularDeflectionEfficiency)
    (timescale : params.Reached ∨ 0 < params.angularDeflectionTimescale) :
    let frame := Drive.attitude params rig
    let ahead := frame.unrotate rig.velocity.1
    let direction := Drive.travel ahead
    let turn := frame.unrotate (Drive.addedSpin input params rig)
    let most := Real.pi / 2 * input.dt * params.angularDeflectionEfficiency / params.angularDeflectionTimescale
    (0.001 ≤ |ahead.x| → ∀ mirrored : Rig ℝ, mirrored.orientation.1 = rig.orientation.1 →
      mirrored.velocity.1 = rig.velocity.1 * (-1 : ℝ) →
        Drive.addedSpin input params mirrored = Drive.addedSpin input params rig) ∧
      Drive.TurnsToward direction.y turn.z most ∧ Drive.TurnsToward (-direction.z) turn.y most ∧ turn.x = 0 := by
  intro frame ahead direction turn most
  have efficient : params.angularDeflectionEfficiency ≠ 0 := efficiency.ne'
  have positive : 0 < params.angularDeflectionTimescale :=
    timescale.elim (Params.deflection_timescale_kept.reached params) id
  have added := Drive.added_spin_eq input params rig enabled efficient
  constructor
  · intro fast mirrored oriented negated
    have same : Drive.attitude params mirrored = frame := congrArg (· * params.referenceFrame) oriented
    have turned : frame.unrotate (rig.velocity.1 * (-1 : ℝ)) = ahead * (-1 : ℝ) := Quat.rotate_scale _ _ _
    rw [Drive.added_spin_eq input params mirrored enabled efficient, added, same, negated, turned,
      Drive.travel_mirrored ahead fast]
  · let strength := input.dt * params.angularDeflectionEfficiency / params.angularDeflectionTimescale
    have strong : 0 < strength := div_pos (mul_pos forward efficiency) positive
    have share : most = Real.pi / 2 * strength := by
      simp only [most, strength]
      ring
    have back : turn = Drive.noseTurn direction strength :=
      (congrArg frame.unrotate added).trans (frame.unrotate_rotate _ unit)
    obtain ⟨roll, pitch, yaw⟩ := Drive.nose_turns direction strength (Drive.travel_ahead ahead) strong
    rw [share, back]
    exact ⟨yaw, pitch, roll⟩

noncomputable def keenParams : Params ℝ :=
  ((Vehicle.create 1 Tuning.initial).run [.setFloat .angularDeflectionEfficiency 1]).params

theorem keen_efficiency : keenParams.angularDeflectionEfficiency = 1 := by
  change Params.unitRange (1 : ℝ) = 1
  rw [Params.unitRange, Exact.clamp_eq, min_self, max_eq_right zero_le_one]

theorem sliding_nose :
    let turn := (Quat.mk (0.5 : ℝ) 0.5 0.5 0.5).unrotate (Drive.addedSpin tenthInput keenParams slidingRig)
    let mirrored := slidingRig.setVelocity (slidingRig.velocity.1 * (-1 : ℝ))
    tenthInput.tuning.enableAngularDeflection = true ∧ (Drive.attitude keenParams slidingRig).Unit ∧
      0 < tenthInput.dt ∧ 0 < keenParams.angularDeflectionEfficiency ∧ keenParams.Reached ∧
      (Quat.mk (0.5 : ℝ) 0.5 0.5 0.5).unrotate slidingRig.velocity.1 = ⟨-3.0, -2.0, 1⟩ ∧
      Drive.addedSpin tenthInput keenParams mirrored = Drive.addedSpin tenthInput keenParams slidingRig ∧
      SignType.sign turn.z = 1 ∧ SignType.sign turn.y = 1 ∧ turn.x = 0 := by
  intro turn mirrored
  have attitude : Drive.attitude keenParams slidingRig = ⟨0.5, 0.5, 0.5, 0.5⟩ := Quat.mul_identity _
  have unit : (Drive.attitude keenParams slidingRig).Unit := attitude ▸ tilted_unit
  have forward : 0 < tenthInput.dt := by norm_num [tenthInput]
  have efficiency : 0 < keenParams.angularDeflectionEfficiency := keen_efficiency ▸ one_pos
  have reached : keenParams.Reached := ⟨1, Tuning.initial, _, rfl⟩
  have ahead : (Quat.mk (0.5 : ℝ) 0.5 0.5 0.5).unrotate slidingRig.velocity.1 = ⟨-3.0, -2.0, 1⟩ :=
    tilted_unrotate ⟨1, -3.0, -2.0⟩
  have fast : 0.001 ≤ |(Vec3.mk (-3.0 : ℝ) (-2.0) 1).x| := by norm_num
  have direction : Drive.travel (Vec3.mk (-3.0 : ℝ) (-2.0) 1) = ⟨3, 2, -1⟩ := by
    rw [Drive.travel_fast _ fast]
    ext <;> norm_num
  obtain ⟨same, yaw, pitch, roll⟩ :=
    nose_turns_to_travel tenthInput keenParams slidingRig rfl unit forward efficiency (Or.inl reached)
  rw [attitude, ahead] at same
  rw [attitude, ahead, direction] at yaw pitch
  rw [attitude] at roll
  have left : SignType.sign turn.z = 1 := (yaw.2 (by norm_num)).1.trans (sign_pos (by norm_num))
  have down : SignType.sign turn.y = 1 := (pitch.2 (by norm_num)).1.trans (sign_pos (by norm_num))
  exact ⟨rfl, unit, forward, efficiency, reached, ahead, same fast mirrored rfl rfl, left, down, roll⟩

end VehicleSim
