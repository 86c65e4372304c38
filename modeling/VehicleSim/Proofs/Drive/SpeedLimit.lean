import Mathlib.Tactic.FieldSimp
import Mathlib.Tactic.Linarith
import VehicleSim.Proofs.Number.Exact
import VehicleSim.Proofs.Space.Axes
import VehicleSim.Drive.Translation

/-!
The last stage of a move: locked axes, and then the limits on the speed. In exact arithmetic the limits keep the
direction of a velocity and choose among three lengths: the longest that is allowed, its own, and none at all.
-/

set_option autoImplicit false

namespace VehicleSim

namespace Drive

section

variable {α : Type} [Scalar α]

def clamped (tuning : Tuning α) (velocity : Vec3 α) : Vec3 α :=
  let square := velocity.normSquared
  if tuning.maxLinearVelocity * tuning.maxLinearVelocity < square then
    velocity / Scalar.sqrt square * tuning.maxLinearVelocity
  else if square < tuning.minLinearVelocity * tuning.minLinearVelocity then 0
  else velocity

theorem clamp_speed_velocity (tuning : Tuning α) (rig : Rig α) :
    (clampSpeed tuning rig).velocity.1 = clamped tuning rig.velocity.1 := by
  let square := rig.velocity.1.normSquared
  unfold clampSpeed clamped
  by_cases fast : tuning.maxLinearVelocity * tuning.maxLinearVelocity < square
  · simp only [square, fast, if_true]
    rfl
  · by_cases slow : square < tuning.minLinearVelocity * tuning.minLinearVelocity
    · simp only [square, fast, slow, if_false, if_true]
      rfl
    · simp only [square, fast, slow, if_false]
      exact Known.read_fetch _ _ _

theorem lock_axes_free (params : Params α) (velocity : Vec3 α)
    (free : params.flags.hasAny Flags.lockedAxes = false) : lockAxes params velocity = velocity := by
  simp only [Flags.hasAny, Flags.lockedAxes, List.any_cons, List.any_nil, Bool.or_false, Bool.or_eq_false_iff] at free
  simp [lockAxes, free.1, free.2.1, free.2.2]

theorem lock_and_clamp_velocity (input : StepInput α) (params : Params α) (rig : Rig α) :
    (lockAndClamp input params rig).velocity.1 = clamped input.tuning (lockAxes params rig.velocity.1) := by
  unfold lockAndClamp
  cases free : params.flags.hasAny Flags.lockedAxes with
  | true => exact clamp_speed_velocity _ _
  | false =>
      rw [lock_axes_free params rig.velocity.1 free]
      exact clamp_speed_velocity _ _

end

end Drive

namespace Vec3

variable (v : Vec3 ℝ)

theorem norm_squared_nonneg : 0 ≤ v.normSquared :=
  add_nonneg (add_nonneg (mul_self_nonneg v.x) (mul_self_nonneg v.y)) (mul_self_nonneg v.z)

theorem norm_nonneg : 0 ≤ v.norm := Real.sqrt_nonneg v.normSquared

theorem norm_mul_self : v.norm * v.norm = v.normSquared := Real.mul_self_sqrt v.norm_squared_nonneg

theorem norm_scale (share : ℝ) (positive : 0 ≤ share) : (v * share).norm = v.norm * share := by
  have square : (v * share).normSquared = v.normSquared * (share * share) := by
    simp only [normSquared, dot, scale_x, scale_y, scale_z]
    ring
  calc
    (v * share).norm = Real.sqrt (v.normSquared * (share * share)) := congrArg Real.sqrt square
    _ = v.norm * share := by rw [Real.sqrt_mul v.norm_squared_nonneg, Real.sqrt_mul_self positive]; rfl

end Vec3

namespace Drive

theorem lock_axes_share (params : Params ℝ) (velocity : Vec3 ℝ) (share : ℝ) :
    let after := lockAxes params velocity * share
    (params.flags.has .noX = true → after.x = 0) ∧ (params.flags.has .noY = true → after.y = 0) ∧
      (params.flags.has .noZ = true → after.z = 0) := by
  refine ⟨?_, ?_, ?_⟩
  · intro noX
    rw [Vec3.scale_x, lockAxes, if_pos noX, zero_mul]
  · intro noY
    rw [Vec3.scale_y, lockAxes, if_pos noY, zero_mul]
  · intro noZ
    rw [Vec3.scale_z, lockAxes, if_pos noZ, zero_mul]

variable (tuning : Tuning ℝ) (velocity : Vec3 ℝ)

theorem clamped_fast (positive : 0 ≤ tuning.maxLinearVelocity) (fast : tuning.maxLinearVelocity < velocity.norm) :
    clamped tuning velocity = velocity * (tuning.maxLinearVelocity / velocity.norm) := by
  have square : tuning.maxLinearVelocity * tuning.maxLinearVelocity < velocity.normSquared :=
    velocity.norm_mul_self ▸ mul_self_lt_mul_self positive fast
  have length : Scalar.sqrt velocity.normSquared = velocity.norm := rfl
  rw [clamped, if_pos square, length]
  ext <;> simp only [Vec3.scale_x, Vec3.scale_y, Vec3.scale_z, Vec3.divide_x, Vec3.divide_y, Vec3.divide_z] <;> ring

theorem clamped_slow (ordered : tuning.minLinearVelocity ≤ tuning.maxLinearVelocity)
    (slow : velocity.norm < tuning.minLinearVelocity) : clamped tuning velocity = 0 := by
  have short : velocity.normSquared < tuning.minLinearVelocity * tuning.minLinearVelocity :=
    velocity.norm_mul_self ▸ mul_self_lt_mul_self velocity.norm_nonneg slow
  have long : ¬ tuning.maxLinearVelocity * tuning.maxLinearVelocity < velocity.normSquared :=
    not_lt.mpr (velocity.norm_mul_self ▸ mul_self_le_mul_self velocity.norm_nonneg (slow.le.trans ordered))
  rw [clamped, if_neg long, if_pos short]

theorem clamped_within (positive : 0 ≤ tuning.minLinearVelocity) (long : tuning.minLinearVelocity ≤ velocity.norm)
    (short : velocity.norm ≤ tuning.maxLinearVelocity) : clamped tuning velocity = velocity := by
  have fast : ¬ tuning.maxLinearVelocity * tuning.maxLinearVelocity < velocity.normSquared :=
    not_lt.mpr (velocity.norm_mul_self ▸ mul_self_le_mul_self velocity.norm_nonneg short)
  have slow : ¬ velocity.normSquared < tuning.minLinearVelocity * tuning.minLinearVelocity :=
    not_lt.mpr (velocity.norm_mul_self ▸ mul_self_le_mul_self positive long)
  rw [clamped, if_neg fast, if_neg slow]

theorem clamped_share (positive : 0 ≤ tuning.maxLinearVelocity) :
    ∃ share : ℝ, 0 ≤ share ∧ share ≤ 1 ∧ clamped tuning velocity = velocity * share := by
  by_cases fast : tuning.maxLinearVelocity < velocity.norm
  · exact ⟨tuning.maxLinearVelocity / velocity.norm, div_nonneg positive velocity.norm_nonneg,
      div_le_one_of_le₀ fast.le velocity.norm_nonneg, clamped_fast tuning velocity positive fast⟩
  · have square : ¬ tuning.maxLinearVelocity * tuning.maxLinearVelocity < velocity.normSquared :=
      not_lt.mpr (velocity.norm_mul_self ▸ mul_self_le_mul_self velocity.norm_nonneg (not_lt.mp fast))
    by_cases slow : velocity.normSquared < tuning.minLinearVelocity * tuning.minLinearVelocity
    · refine ⟨0, le_refl 0, zero_le_one, ?_⟩
      rw [clamped, if_neg square, if_pos slow]
      ext <;> simp
    · refine ⟨1, zero_le_one, le_refl 1, ?_⟩
      rw [clamped, if_neg square, if_neg slow]
      ext <;> simp

theorem clamped_norm_fast (positive : 0 ≤ tuning.maxLinearVelocity) (fast : tuning.maxLinearVelocity < velocity.norm) :
    (clamped tuning velocity).norm = tuning.maxLinearVelocity := by
  have length : velocity.norm ≠ 0 := (positive.trans_lt fast).ne'
  rw [clamped_fast tuning velocity positive fast, Vec3.norm_scale _ _ (div_nonneg positive velocity.norm_nonneg)]
  field_simp

end Drive

end VehicleSim
