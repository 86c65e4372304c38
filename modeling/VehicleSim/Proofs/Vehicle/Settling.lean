import Mathlib.Tactic.Linarith
import VehicleSim.Proofs.Number.Exact
import VehicleSim.Proofs.Space.Axes
import VehicleSim.Proofs.Vehicle.Reached
import VehicleSim.Settings

/-!
How steps of one length wear down what a motor drives at and what it slows, in exact arithmetic. A step takes off a share
of each component. More than the whole turns the component round, and more than twice the whole makes it larger than it
was; the shortest timescales that are stored set the longest step that never does.
-/

set_option autoImplicit false

namespace VehicleSim

namespace Vec3

def Within (before after : Vec3 ℝ) : Prop := |after.x| ≤ |before.x| ∧ |after.y| ≤ |before.y| ∧ |after.z| ≤ |before.z|

theorem share_within_iff (share : ℝ) (positive : 0 ≤ share) :
    (∀ component : ℝ, |component - component * share| ≤ |component|) ↔ share ≤ 2 := by
  constructor
  · intro within
    have one := within 1
    rw [one_mul, abs_one, abs_le] at one
    linarith
  · intro small component
    have kept : |1 - share| ≤ 1 := abs_le.mpr ⟨by linarith, by linarith⟩
    calc
      |component - component * share| = |component| * |1 - share| := by rw [← abs_mul]; congr 1; ring
      _ ≤ |component| * 1 := mul_le_mul_of_nonneg_left kept (abs_nonneg component)
      _ = |component| := mul_one _

theorem shares_within_iff (share : Vec3 ℝ) (x : 0 ≤ share.x) (y : 0 ≤ share.y) (z : 0 ≤ share.z) :
    (∀ v : Vec3 ℝ, v.Within (v - v.componentMul share)) ↔ share.x ≤ 2 ∧ share.y ≤ 2 ∧ share.z ≤ 2 := by
  rw [← share_within_iff share.x x, ← share_within_iff share.y y, ← share_within_iff share.z z]
  constructor
  · intro within
    exact ⟨fun c => (within ⟨c, 0, 0⟩).1, fun c => (within ⟨0, c, 0⟩).2.1, fun c => (within ⟨0, 0, c⟩).2.2⟩
  · rintro ⟨first, second, third⟩ v
    exact ⟨first v.x, second v.y, third v.z⟩

end Vec3

namespace Motor

-- With nothing asked for, the direction driven at gets no longer on any axis.
def Relaxes (motor : Motor ℝ) (dt : ℝ) : Prop :=
  ∀ direction : Vec3 ℝ, direction.Within ({ motor with requested := none, decaying := direction }.advance dt).decaying

-- With no direction to drive at, the velocity gets no faster on any axis.
def Slows (motor : Motor ℝ) (dt : ℝ) : Prop :=
  ∀ velocity : Vec3 ℝ, velocity.Within
    (velocity + ({ motor with requested := none, decaying := 0 }.advance dt).drive velocity dt)

structure Tuned (motor : Motor ℝ) : Prop where
  timescale : 0.01 ≤ motor.timescale
  decayTimescale : 0.01 ≤ motor.decayTimescale
  frictionX : 0.01 ≤ motor.frictionTimescale.x
  frictionY : 0.01 ≤ motor.frictionTimescale.y
  frictionZ : 0.01 ≤ motor.frictionTimescale.z

noncomputable def frictionShare (timescale dt : ℝ) : ℝ := if timescale = Timescale.infinite then 0 else dt / timescale

theorem friction_factor_eq (timescale : Vec3 ℝ) (dt : ℝ) :
    frictionFactor timescale dt =
      ⟨frictionShare timescale.x dt, frictionShare timescale.y dt, frictionShare timescale.z dt⟩ := by
  have axis (t : ℝ) : (if (t == Timescale.infinite) = true then 0 else 1 / t) * dt = frictionShare t dt := by
    by_cases none : t = Timescale.infinite
    · simp [frictionShare, none]
    · simp [frictionShare, none, div_eq_inv_mul]
  by_cases none : (timescale == Vec3.all Timescale.infinite) = true
  · obtain ⟨x, y, z⟩ := (Vec3.beq_iff _ _).mp none
    rw [frictionFactor, if_pos none]
    have unworn (t : ℝ) (infinite : (t == Timescale.infinite) = true) : 0 = frictionShare t dt := by
      rw [← axis, if_pos infinite, zero_mul]
    exact Vec3.ext (unworn _ x) (unworn _ y) (unworn _ z)
  · rw [frictionFactor, if_neg none]
    exact Vec3.ext (axis _) (axis _) (axis _)

theorem friction_share_nonneg (timescale dt : ℝ) (positive : 0 < timescale) (forward : 0 ≤ dt) :
    0 ≤ frictionShare timescale dt := by
  by_cases none : timescale = Timescale.infinite
  · simp [frictionShare, none]
  · simp [frictionShare, none, div_nonneg forward positive.le]

theorem relaxed_eq (motor : Motor ℝ) (direction : Vec3 ℝ) (dt : ℝ) :
    ({ motor with requested := none, decaying := direction }.advance dt).decaying =
      direction - direction.componentMul (Vec3.all (dt / motor.decayTimescale)) := by
  have axis (component : ℝ) : component - component * dt / motor.decayTimescale =
      component - component * (dt / motor.decayTimescale) := by rw [mul_div_assoc]
  exact Vec3.ext (axis direction.x) (axis direction.y) (axis direction.z)

noncomputable def restShare (motor : Motor ℝ) (dt : ℝ) : Vec3 ℝ :=
  motor.frictionTimescale.map fun timescale => dt / motor.timescale + frictionShare timescale dt

theorem slowed_eq (motor : Motor ℝ) (velocity : Vec3 ℝ) (dt : ℝ) :
    velocity + ({ motor with requested := none, decaying := 0 }.advance dt).drive velocity dt =
      velocity - velocity.componentMul (motor.restShare dt) := by
  have rest : ({ motor with requested := none, decaying := 0 }.advance dt).decaying = 0 := by
    rw [relaxed_eq]
    ext <;> simp [Vec3.componentMul]
  rw [drive, rest]
  change velocity + ((0 - velocity) * dt / motor.timescale -
    velocity.componentMul (frictionFactor motor.frictionTimescale dt)) = _
  rw [friction_factor_eq]
  ext <;> simp [Vec3.componentMul, restShare, Vec3.map] <;> ring

theorem relaxes_iff (motor : Motor ℝ) (dt : ℝ) (tuned : motor.Tuned) (forward : 0 ≤ dt) :
    motor.Relaxes dt ↔ dt ≤ 2 * motor.decayTimescale := by
  have positive : 0 < motor.decayTimescale := by linarith [tuned.decayTimescale]
  have share : 0 ≤ dt / motor.decayTimescale := div_nonneg forward positive.le
  simp only [Relaxes, relaxed_eq]
  rw [Vec3.shares_within_iff (Vec3.all (dt / motor.decayTimescale)) share share share, ← div_le_iff₀ positive]
  simp [Vec3.all]

theorem slows_iff (motor : Motor ℝ) (dt : ℝ) (tuned : motor.Tuned) (forward : 0 ≤ dt) :
    motor.Slows dt ↔
      (motor.restShare dt).x ≤ 2 ∧ (motor.restShare dt).y ≤ 2 ∧ (motor.restShare dt).z ≤ 2 := by
  have positive : 0 < motor.timescale := by linarith [tuned.timescale]
  have axis (timescale : ℝ) (long : 0.01 ≤ timescale) : 0 ≤ dt / motor.timescale + frictionShare timescale dt :=
    add_nonneg (div_nonneg forward positive.le) (friction_share_nonneg timescale dt (by linarith) forward)
  simp only [Slows, slowed_eq]
  exact Vec3.shares_within_iff (motor.restShare dt) (axis _ tuned.frictionX) (axis _ tuned.frictionY)
    (axis _ tuned.frictionZ)

end Motor

structure Params.Tuned (params : Params ℝ) : Prop where
  linear : params.linear.Tuned
  angular : params.angular.Tuned

namespace Params

theorem stored_timescale (value : ℝ) : 0.01 ≤ atLeastTimescale value := by
  rw [atLeastTimescale, Exact.max_eq]
  exact le_max_right value 0.01

theorem stored_decay (value : ℝ) : 0.01 ≤ decayRange value := by
  rw [decayRange, Exact.clamp_eq]
  exact le_max_left 0.01 _

theorem timescale_tuned (motor : Motor ℝ) (value : ℝ) (tuned : motor.Tuned) :
    Motor.Tuned { motor with timescale := atLeastTimescale value } := { tuned with timescale := stored_timescale value }

theorem decay_tuned (motor : Motor ℝ) (value : ℝ) (tuned : motor.Tuned) :
    Motor.Tuned { motor with decayTimescale := decayRange value } := { tuned with decayTimescale := stored_decay value }

theorem friction_tuned (motor : Motor ℝ) (value : Vec3 ℝ) (tuned : motor.Tuned) :
    Motor.Tuned { motor with frictionTimescale := value.map atLeastTimescale } :=
  { tuned with
    frictionX := stored_timescale value.x
    frictionY := stored_timescale value.y
    frictionZ := stored_timescale value.z }

theorem set_vector_tuned (params : Params ℝ) (param : Param) (value : Vec3 ℝ) (tuned : params.Tuned) :
    (params.setVector param value).Tuned := by
  cases param with
  | angularFrictionTimescale => exact ⟨tuned.linear, friction_tuned params.angular value tuned.angular⟩
  | linearFrictionTimescale => exact ⟨friction_tuned params.linear value tuned.linear, tuned.angular⟩
  | angularMotorDirection => exact ⟨tuned.linear, { tuned.angular with }⟩
  | linearMotorDirection => exact ⟨{ tuned.linear with }, tuned.angular⟩
  | _ => exact ⟨tuned.linear, tuned.angular⟩

theorem set_float_tuned (params : Params ℝ) (param : Param) (value : ℝ) (tuned : params.Tuned) :
    (params.setFloat param value).Tuned := by
  cases param with
  | angularMotorDecayTimescale => exact ⟨tuned.linear, decay_tuned params.angular value tuned.angular⟩
  | angularMotorTimescale => exact ⟨tuned.linear, timescale_tuned params.angular value tuned.angular⟩
  | linearMotorDecayTimescale => exact ⟨decay_tuned params.linear value tuned.linear, tuned.angular⟩
  | linearMotorTimescale => exact ⟨timescale_tuned params.linear value tuned.linear, tuned.angular⟩
  | angularFrictionTimescale => exact set_vector_tuned params .angularFrictionTimescale (Vec3.all value) tuned
  | angularMotorDirection => exact set_vector_tuned params .angularMotorDirection (Vec3.all value) tuned
  | linearFrictionTimescale => exact set_vector_tuned params .linearFrictionTimescale (Vec3.all value) tuned
  | linearMotorDirection => exact set_vector_tuned params .linearMotorDirection (Vec3.all value) tuned
  | _ => exact ⟨tuned.linear, tuned.angular⟩

theorem set_rotation_tuned (params : Params ℝ) (param : Param) (value : Quat ℝ) (tuned : params.Tuned) :
    (params.setRotation param value).Tuned := by
  cases param <;> exact ⟨tuned.linear, tuned.angular⟩

theorem apply_preset_tuned (params : Params ℝ) (kind : Kind) : (params.applyPreset kind).Tuned := by
  cases kind <;> refine ⟨⟨?_, ?_, ?_, ?_, ?_⟩, ⟨?_, ?_, ?_, ?_, ?_⟩⟩ <;>
    norm_num [applyPreset, Preset.ofKind, Preset.none, Preset.sled, Preset.car, Preset.boat, Preset.airplane,
      Preset.balloon]

theorem tuned_kept : Kept Params.Tuned where
  created id tuning := by
    have initial : (Motor.initial : Motor ℝ).Tuned := by
      refine ⟨?_, ?_, ?_, ?_, ?_⟩ <;> norm_num [Motor.initial, Vec3.all, Timescale.infinite]
    exact ⟨initial, initial⟩
  preset params kind _ := apply_preset_tuned params kind
  float := set_float_tuned
  vector := set_vector_tuned
  rotation := set_rotation_tuned
  flags _ _ _ tuned := ⟨tuned.linear, tuned.angular⟩
  advanced _ _ _ tuned := ⟨{ tuned.linear with }, { tuned.angular with }⟩

end Params

namespace Vehicle

noncomputable def touchiest : List (VehicleAction ℝ) :=
  [.setFloat .linearMotorTimescale 0, .setFloat .linearMotorDecayTimescale 0, .setFloat .linearFrictionTimescale 0]

theorem touchiest_linear (id : ObjectId) (tuning : Tuning ℝ) :
    ((create id tuning).run touchiest).params.linear =
      { requested := none, decaying := 0, timescale := 0.01, decayTimescale := 0.01,
        frictionTimescale := ⟨0.01, 0.01, 0.01⟩ } := by
  have short : Params.atLeastTimescale (0 : ℝ) = 0.01 := by
    rw [Params.atLeastTimescale, Exact.max_eq]
    exact max_eq_right (by norm_num [Timescale.least])
  have brief : Params.decayRange (0 : ℝ) = 0.01 := by
    rw [Params.decayRange, Exact.clamp_eq]
    norm_num [Timescale.least, Timescale.longestDecay]
  change Motor.mk none 0 (Params.atLeastTimescale 0) (Params.decayRange 0)
    ((Vec3.all (0 : ℝ)).map Params.atLeastTimescale) = _
  rw [brief, Vec3.map]
  simp only [Vec3.all, short]

end Vehicle

theorem step_seconds_positive (settings : Settings ℝ) : 0 ≤ settings.stepSeconds := by
  change (0 : ℝ) ≤ 1 / (Nat.max settings.ticksPerSecond.toNat 1 : ℕ)
  positivity

theorem step_seconds_le_iff (settings : Settings ℝ) (rate : ℕ) (quick : 2 ≤ rate) :
    settings.stepSeconds ≤ 1 / (rate : ℝ) ↔ rate ≤ settings.ticksPerSecond.toNat := by
  have some : (0 : ℝ) < rate := by exact_mod_cast (by omega : 0 < rate)
  have ticking : (0 : ℝ) < (Nat.max settings.ticksPerSecond.toNat 1 : ℕ) := by
    exact_mod_cast Nat.lt_of_lt_of_le Nat.one_pos (Nat.le_max_right _ _)
  change 1 / ((Nat.max settings.ticksPerSecond.toNat 1 : ℕ) : ℝ) ≤ 1 / (rate : ℝ) ↔ _
  rw [one_div_le_one_div ticking some, Nat.cast_le]
  change rate ≤ max settings.ticksPerSecond.toNat 1 ↔ _
  omega

def Motor.Reached (motor : Motor ℝ) : Prop :=
  ∃ id tuning actions, motor ∈ [((Vehicle.create id tuning).run actions).params.linear,
    ((Vehicle.create id tuning).run actions).params.angular]

theorem reached_tuned (motor : Motor ℝ) (reached : motor.Reached) : motor.Tuned := by
  obtain ⟨id, tuning, actions, member⟩ := reached
  have tuned := Params.tuned_kept.reached _ ⟨id, tuning, actions, rfl⟩
  simp only [List.mem_cons, List.not_mem_nil, or_false] at member
  rcases member with rfl | rfl
  · exact tuned.linear
  · exact tuned.angular

noncomputable def touchyMotor : Motor ℝ := ((Vehicle.create 1 Tuning.initial).run Vehicle.touchiest).params.linear

theorem touchy_reached : touchyMotor.Reached := ⟨1, Tuning.initial, Vehicle.touchiest, List.mem_cons_self⟩

theorem touchy_rest_share (dt : ℝ) : touchyMotor.restShare dt = Vec3.all (200 * dt) := by
  have worn : Motor.frictionShare 0.01 dt = dt / 0.01 := if_neg (by norm_num [Timescale.infinite])
  rw [touchyMotor, Vehicle.touchiest_linear, Motor.restShare]
  ext <;> simp only [Vec3.map, Vec3.all, worn] <;> ring

theorem axis_share_le (motor : Motor ℝ) (timescale dt : ℝ) (tuned : motor.Tuned) (long : 0.01 ≤ timescale)
    (forward : 0 ≤ dt) : dt / motor.timescale + Motor.frictionShare timescale dt ≤ 200 * dt := by
  have pull : dt / motor.timescale ≤ dt / 0.01 := div_le_div_of_nonneg_left forward (by norm_num) tuned.timescale
  have wear : Motor.frictionShare timescale dt ≤ dt / 0.01 := by
    by_cases none : timescale = Timescale.infinite
    · rw [Motor.frictionShare, if_pos none]
      exact div_nonneg forward (by norm_num)
    · rw [Motor.frictionShare, if_neg none]
      exact div_le_div_of_nonneg_left forward (by norm_num) long
  calc
    dt / motor.timescale + Motor.frictionShare timescale dt ≤ dt / 0.01 + dt / 0.01 := add_le_add pull wear
    _ = 200 * dt := by ring

/-- At which tick rates the motors settle, whatever scripts and presets store in them. A step of `dt` never lengthens the
direction that a motor decays if `dt` is at most twice the decay timescale, and never speeds up what the motor slows if
the shares of the pull and of friction come to at most two on each axis. So all motors relax from fifty ticks a second
on, and all slow from a hundred on; at every lower rate there is one that does not. -/
theorem motors_settle_iff (settings : Settings ℝ) :
    let dt := settings.stepSeconds
    (∀ motor : Motor ℝ, motor.Reached →
      (motor.Relaxes dt ↔ dt ≤ 2 * motor.decayTimescale) ∧
        (motor.Slows dt ↔ (motor.restShare dt).x ≤ 2 ∧ (motor.restShare dt).y ≤ 2 ∧ (motor.restShare dt).z ≤ 2)) ∧
      ((∀ motor : Motor ℝ, motor.Reached → motor.Relaxes dt) ↔ 50 ≤ settings.ticksPerSecond.toNat) ∧
      ((∀ motor : Motor ℝ, motor.Reached → motor.Slows dt) ↔ 100 ≤ settings.ticksPerSecond.toNat) := by
  intro dt
  have forward : 0 ≤ dt := step_seconds_positive settings
  have relaxes (motor : Motor ℝ) (reached : motor.Reached) := motor.relaxes_iff dt (reached_tuned motor reached) forward
  have slows (motor : Motor ℝ) (reached : motor.Reached) := motor.slows_iff dt (reached_tuned motor reached) forward
  refine ⟨fun motor reached => ⟨relaxes motor reached, slows motor reached⟩, ?_, ?_⟩
  · rw [← step_seconds_le_iff settings 50 (by norm_num)]
    constructor
    · intro all
      have touchy := (relaxes touchyMotor touchy_reached).mp (all touchyMotor touchy_reached)
      rw [touchyMotor, Vehicle.touchiest_linear] at touchy
      norm_num at touchy ⊢
      linarith
    · intro quick motor reached
      refine (relaxes motor reached).mpr ?_
      have long := (reached_tuned motor reached).decayTimescale
      norm_num at quick long
      linarith
  · rw [← step_seconds_le_iff settings 100 (by norm_num)]
    constructor
    · intro all
      have touchy := (slows touchyMotor touchy_reached).mp (all touchyMotor touchy_reached)
      rw [touchy_rest_share] at touchy
      have least : 200 * dt ≤ 2 := touchy.1
      norm_num
      linarith
    · intro quick motor reached
      have tuned := reached_tuned motor reached
      have small : 200 * dt ≤ 2 := by
        norm_num at quick
        linarith
      exact (slows motor reached).mpr ⟨(axis_share_le motor _ dt tuned tuned.frictionX forward).trans small,
        (axis_share_le motor _ dt tuned tuned.frictionY forward).trans small,
        (axis_share_le motor _ dt tuned tuned.frictionZ forward).trans small⟩

noncomputable def ticking (rate : UInt32) : Settings ℝ := { Settings.initial with ticksPerSecond := rate }

theorem touchy_motor_settles_at_hundred :
    touchyMotor.Reached ∧ touchyMotor.Relaxes (ticking 100).stepSeconds ∧
      touchyMotor.Slows (ticking 100).stepSeconds := by
  obtain ⟨-, relaxes, slows⟩ := motors_settle_iff (ticking 100)
  exact ⟨touchy_reached, relaxes.mpr (by decide) touchyMotor touchy_reached,
    slows.mpr (by decide) touchyMotor touchy_reached⟩

-- Eight along x becomes -792 in one step of a second, and sixty ticks are too few to slow every velocity.
theorem slow_ticks_blow_up :
    touchyMotor.Reached ∧
      ({ touchyMotor with requested := none, decaying := ⟨8, 0, 0⟩ }.advance (ticking 1).stepSeconds).decaying.x = -792 ∧
      ¬ touchyMotor.Relaxes (ticking 1).stepSeconds ∧
      ¬ touchyMotor.Slows (Settings.initial : Settings ℝ).stepSeconds := by
  have second : (ticking 1).stepSeconds = 1 := by
    change 1 / (((1 : ℕ) : ℝ)) = 1
    norm_num
  have frame : (Settings.initial : Settings ℝ).stepSeconds = 1 / 60 := by
    change 1 / (((60 : ℕ) : ℝ)) = 1 / 60
    norm_num
  have tuned := reached_tuned touchyMotor touchy_reached
  have brief : touchyMotor.decayTimescale = 0.01 := by rw [touchyMotor, Vehicle.touchiest_linear]
  have grown : ({ touchyMotor with requested := none, decaying := ⟨8, 0, 0⟩ }.advance
      (ticking 1).stepSeconds).decaying.x = -792 := by
    rw [Motor.relaxed_eq, second, brief]
    norm_num [Vec3.componentMul, Vec3.all]
  refine ⟨touchy_reached, grown, ?_, ?_⟩
  · intro relaxes
    have within := (relaxes ⟨8, 0, 0⟩).1
    rw [grown] at within
    norm_num at within
  · rw [touchyMotor.slows_iff _ tuned (step_seconds_positive _), touchy_rest_share, frame]
    norm_num [Vec3.all]

end VehicleSim
