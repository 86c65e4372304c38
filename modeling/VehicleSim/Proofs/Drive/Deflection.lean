import Mathlib.Order.Interval.Set.UnorderedInterval
import VehicleSim.Proofs.Drive.ClimbLimit
import VehicleSim.Proofs.Drive.Steady

/-!
What deflection makes of a velocity, in exact arithmetic. In the vehicle's frame it takes a share off the sideways and
the vertical speed, and gives as much forward speed for it.
-/

set_option autoImplicit false

namespace VehicleSim

namespace Drive

theorem sorted_clamp_share (speed share : ℝ) (positive : 0 ≤ share) :
    Scalar.sortedClamp 0 (speed * share) speed = speed * min share 1 := by
  by_cases backward : speed < 0
  · have falls : speed * share ≤ 0 := mul_nonpos_of_nonpos_of_nonneg backward.le positive
    rw [Scalar.sortedClamp, if_pos backward, Exact.clamp_eq, min_eq_left falls]
    by_cases part : share ≤ 1
    · rw [min_eq_left part, max_eq_right (by nlinarith)]
    · rw [min_eq_right (not_le.mp part).le, max_eq_left (by nlinarith), mul_one]
  · have ahead : 0 ≤ speed := not_lt.mp backward
    rw [Scalar.sortedClamp, if_neg backward, Exact.clamp_eq]
    by_cases part : share ≤ 1
    · rw [min_eq_left part, min_eq_left (mul_le_of_le_one_right ahead part), max_eq_right (mul_nonneg ahead positive)]
    · have whole : 1 ≤ share := (not_le.mp part).le
      rw [min_eq_right whole, min_eq_right (le_mul_of_one_le_right ahead whole), max_eq_right ahead, mul_one]

variable (params : Params ℝ)

noncomputable def sidewaysShare : ℝ := min (params.linearDeflectionEfficiency / params.linearDeflectionTimescale) 1

noncomputable def upwardShare : ℝ := if params.flags.has .noDeflectionUp then 0 else sidewaysShare params

theorem sideways_share_unit (efficiency : 0 ≤ params.linearDeflectionEfficiency)
    (timescale : 0 < params.linearDeflectionTimescale) : 0 ≤ sidewaysShare params ∧ sidewaysShare params ≤ 1 :=
  ⟨le_min (div_nonneg efficiency timescale.le) zero_le_one, min_le_right _ _⟩

theorem upward_share_unit (efficiency : 0 ≤ params.linearDeflectionEfficiency)
    (timescale : 0 < params.linearDeflectionTimescale) : 0 ≤ upwardShare params ∧ upwardShare params ≤ 1 := by
  by_cases level : params.flags.has .noDeflectionUp = true
  · rw [upwardShare, if_pos level]
    exact ⟨le_refl 0, zero_le_one⟩
  · rw [upwardShare, if_neg level]
    exact sideways_share_unit params efficiency timescale

theorem deflection_eq (velocity : Vec3 ℝ) (dt : ℝ) (efficiency : 0 ≤ params.linearDeflectionEfficiency)
    (timescale : 0 < params.linearDeflectionTimescale) :
    let sideways := sidewaysShare params * dt
    let upward := upwardShare params * dt
    deflection params velocity dt =
      ⟨|velocity.y| * sideways + |velocity.z| * upward, -(velocity.y * sideways), -(velocity.z * upward)⟩ := by
  intro sideways upward
  have share (speed : ℝ) : Scalar.sortedClamp 0
      (speed * params.linearDeflectionEfficiency / params.linearDeflectionTimescale) speed =
        speed * sidewaysShare params := by
    rw [mul_div_assoc, sorted_clamp_share _ _ (div_nonneg efficiency timescale.le)]
    rfl
  have size (speed : ℝ) : Scalar.abs (speed * sidewaysShare params) = |speed| * sidewaysShare params := by
    change |speed * sidewaysShare params| = _
    rw [abs_mul, abs_of_nonneg (sideways_share_unit params efficiency timescale).1]
  by_cases level : params.flags.has .noDeflectionUp = true
  · have still : upward = 0 := by
      rw [show upward = upwardShare params * dt from rfl, upwardShare, if_pos level, zero_mul]
    simp only [deflection, share, size, level, if_true, still]
    ext <;> simp [sideways, mul_assoc]
  · have same : upward = sideways := by rw [show upward = upwardShare params * dt from rfl, upwardShare, if_neg level]
    simp only [deflection, share, size, level, same]
    ext <;> simp [sideways] <;> ring

theorem deflect_velocity (input : StepInput ℝ) (rig : Rig ℝ) (enabled : input.tuning.enableLinearDeflection = true)
    (whole : rig.body.colliding = true ∨ input.tuning.linearDeflectionNotCollidingNoZ = false) :
    let frame := attitude params rig
    (deflect input params rig).velocity.1 =
      rig.velocity.1 + frame.rotate (deflection params (frame.unrotate rig.velocity.1) input.dt) := by
  have uncut : (input.tuning.linearDeflectionNotCollidingNoZ && !rig.body.colliding) = false := by
    rcases whole with colliding | off
    · rw [colliding, Bool.not_true, Bool.and_false]
    · rw [off, Bool.false_and]
  have seen : rig.orientation.2.velocity.1 = rig.velocity.1 := rig.read_twice .orientation .velocity
  have apart : rig.orientation.2.velocity.2.body = rig.body := rfl
  intro frame
  simp only [deflect, enabled, if_true, Drive.frame, apart, uncut, seen, Bool.false_eq_true, if_false]
  rfl

theorem kept_between (speed share : ℝ) (positive : 0 ≤ share) (part : share ≤ 1) :
    speed - speed * share ∈ Set.uIcc 0 speed := by
  rcases le_total 0 speed with ahead | backward
  · exact Set.mem_uIcc_of_le (by nlinarith) (by nlinarith)
  · exact Set.mem_uIcc_of_ge (by nlinarith) (by nlinarith)

theorem kept_size (speed share : ℝ) (part : share ≤ 1) : |speed - speed * share| = |speed| - |speed| * share := by
  calc
    |speed - speed * share| = |speed * (1 - share)| := by ring_nf
    _ = |speed| * (1 - share) := by rw [abs_mul, abs_of_nonneg (sub_nonneg.mpr part)]
    _ = |speed| - |speed| * share := by ring

end Drive

/-- Deflection trades sideways and vertical speed for as much forward speed. In the vehicle's frame a sideways or
vertical speed keeps its direction and gets no larger, the vertical one is left alone if the vehicle does not deflect
upward, and what the forward speed gains is what the other two lose. -/
theorem deflection_trades_speed (input : StepInput ℝ) (params : Params ℝ) (rig : Rig ℝ)
    (enabled : input.tuning.enableLinearDeflection = true) (unit : (Drive.attitude params rig).Unit)
    (forward : 0 ≤ input.dt) (short : input.dt ≤ 1) (efficiency : 0 ≤ params.linearDeflectionEfficiency)
    (timescale : 0 < params.linearDeflectionTimescale)
    (whole : rig.body.colliding = true ∨ input.tuning.linearDeflectionNotCollidingNoZ = false) :
    let frame := Drive.attitude params rig
    let before := frame.unrotate rig.velocity.1
    let after := frame.unrotate (Drive.deflect input params rig).velocity.1
    after.y ∈ Set.uIcc 0 before.y ∧ after.z ∈ Set.uIcc 0 before.z ∧
      (params.flags.has .noDeflectionUp = true → after.z = before.z) ∧
      after.x + |after.y| + |after.z| = before.x + |before.y| + |before.z| ∧
      before.x ≤ after.x ∧ |after.x| + |after.y| + |after.z| ≤ |before.x| + |before.y| + |before.z| := by
  intro frame before after
  let sideways := Drive.sidewaysShare params * input.dt
  let upward := Drive.upwardShare params * input.dt
  obtain ⟨few, many⟩ := Drive.sideways_share_unit params efficiency timescale
  obtain ⟨low, high⟩ := Drive.upward_share_unit params efficiency timescale
  have sidewaysPositive : 0 ≤ sideways := mul_nonneg few forward
  have upwardPositive : 0 ≤ upward := mul_nonneg low forward
  have sidewaysPart : sideways ≤ 1 := mul_le_one₀ many forward short
  have upwardPart : upward ≤ 1 := mul_le_one₀ high forward short
  have changed : after = before + Drive.deflection params before input.dt := by
    have turned := Drive.deflect_velocity params input rig enabled whole
    calc
      after = frame.unrotate (rig.velocity.1 + frame.rotate (Drive.deflection params before input.dt)) :=
        congrArg frame.unrotate turned
      _ = before + frame.unrotate (frame.rotate (Drive.deflection params before input.dt)) :=
        Quat.rotate_add _ _ _
      _ = before + Drive.deflection params before input.dt := by rw [Quat.unrotate_rotate _ _ unit]
  rw [Drive.deflection_eq params before input.dt efficiency timescale] at changed
  have x : after.x = before.x + (|before.y| * sideways + |before.z| * upward) := congrArg Vec3.x changed
  have y : after.y = before.y - before.y * sideways := (congrArg Vec3.y changed).trans (sub_eq_add_neg _ _).symm
  have z : after.z = before.z - before.z * upward := (congrArg Vec3.z changed).trans (sub_eq_add_neg _ _).symm
  have gained : 0 ≤ |before.y| * sideways + |before.z| * upward :=
    add_nonneg (mul_nonneg (abs_nonneg _) sidewaysPositive) (mul_nonneg (abs_nonneg _) upwardPositive)
  have ySize : |after.y| = |before.y| - |before.y| * sideways := y ▸ Drive.kept_size before.y sideways sidewaysPart
  have zSize : |after.z| = |before.z| - |before.z| * upward := z ▸ Drive.kept_size before.z upward upwardPart
  refine ⟨y ▸ Drive.kept_between before.y sideways sidewaysPositive sidewaysPart,
    z ▸ Drive.kept_between before.z upward upwardPositive upwardPart, ?_, by linarith, by linarith, ?_⟩
  · intro level
    have still : upward = 0 := by
      rw [show upward = Drive.upwardShare params * input.dt from rfl, Drive.upwardShare, if_pos level, zero_mul]
    rw [z, still, mul_zero, sub_zero]
  · have larger : |after.x| ≤ |before.x| + (|before.y| * sideways + |before.z| * upward) := by
      rw [x]
      exact (abs_add_le _ _).trans_eq (by rw [abs_of_nonneg gained])
    linarith

noncomputable def slidingRig : Rig ℝ :=
  let body := { tiltedRig.body with velocity := ⟨1, -3.0, -2.0⟩, colliding := true }
  Rig.bind Cache.fresh body tiltedRig.landscape

noncomputable def keeledParams : Params ℝ :=
  { Params.initial with linearDeflectionEfficiency := 0.5, linearDeflectionTimescale := 2.0 }

theorem tilted_unrotate (v : Vec3 ℝ) : (Quat.mk (0.5 : ℝ) 0.5 0.5 0.5).unrotate v = ⟨v.y, v.z, v.x⟩ := by
  have unit : (Quat.mk (0.5 : ℝ) 0.5 0.5 0.5).Unit := tilted_unit
  calc
    (Quat.mk (0.5 : ℝ) 0.5 0.5 0.5).unrotate v =
        (Quat.mk (0.5 : ℝ) 0.5 0.5 0.5).unrotate ((Quat.mk (0.5 : ℝ) 0.5 0.5 0.5).rotate ⟨v.y, v.z, v.x⟩) := by
      rw [tilted_rotate]
    _ = ⟨v.y, v.z, v.x⟩ := Quat.unrotate_rotate _ _ unit

theorem sliding_trade :
    let after := (Quat.mk (0.5 : ℝ) 0.5 0.5 0.5).unrotate (Drive.deflect tenthInput keeledParams slidingRig).velocity.1
    tenthInput.tuning.enableLinearDeflection = true ∧ (Drive.attitude keeledParams slidingRig).Unit ∧
      0 ≤ tenthInput.dt ∧ tenthInput.dt ≤ 1 ∧ 0 ≤ keeledParams.linearDeflectionEfficiency ∧
      0 < keeledParams.linearDeflectionTimescale ∧ slidingRig.body.colliding = true ∧
      (Quat.mk (0.5 : ℝ) 0.5 0.5 0.5).unrotate slidingRig.velocity.1 = ⟨-3.0, -2.0, 1⟩ ∧
      after.y ∈ Set.uIcc 0 (-2.0) ∧ after.z ∈ Set.uIcc 0 1 ∧ after.x + |after.y| + |after.z| = 0 := by
  intro after
  have attitude : Drive.attitude keeledParams slidingRig = ⟨0.5, 0.5, 0.5, 0.5⟩ := Quat.mul_identity _
  have unit : (Drive.attitude keeledParams slidingRig).Unit := attitude ▸ tilted_unit
  have seen : slidingRig.velocity.1 = ⟨1, -3.0, -2.0⟩ := rfl
  have dt : tenthInput.dt = 0.1 := rfl
  have forward : 0 ≤ tenthInput.dt := by norm_num [dt]
  have short : tenthInput.dt ≤ 1 := by norm_num [dt]
  have efficiency : 0 ≤ keeledParams.linearDeflectionEfficiency := by norm_num [keeledParams]
  have timescale : 0 < keeledParams.linearDeflectionTimescale := by norm_num [keeledParams]
  obtain ⟨y, z, -, traded, -⟩ := deflection_trades_speed tenthInput keeledParams slidingRig rfl unit forward short
    efficiency timescale (Or.inl rfl)
  have before : (Quat.mk (0.5 : ℝ) 0.5 0.5 0.5).unrotate slidingRig.velocity.1 = ⟨-3.0, -2.0, 1⟩ := by
    rw [seen, tilted_unrotate]
  rw [attitude, before] at y z traded
  refine ⟨rfl, unit, forward, short, efficiency, timescale, rfl, before, y, z, traded.trans ?_⟩
  norm_num

end VehicleSim
