import VehicleSim.Proofs.Number.Packing
import VehicleSim.Proofs.Number.Rounding

/-!
Powers of two around a number of binary32. A magnitude lies below two to its total exponent, and not below half of that.
Rounding takes it no further than into the next such interval, unless it is too small for the format.
-/

set_option autoImplicit false

namespace VehicleSim.Binary32

open Float.Model Float.Model.UnpackedFloat

theorem log2_shift (number places : Nat) (positive : 0 < number) : (number <<< places).log2 = number.log2 + places := by
  rw [Nat.shiftLeft_eq, Nat.log2_eq_iff (Nat.mul_ne_zero positive.ne' (Nat.two_pow_pos places).ne')]
  constructor
  · rw [Nat.pow_add]
    exact Nat.mul_le_mul_right _ (Nat.log2_self_le positive.ne')
  · rw [Nat.add_right_comm, Nat.pow_add]
    exact Nat.mul_lt_mul_of_pos_right Nat.lt_log2_self (Nat.two_pow_pos places)

theorem log2_cut (number places : Nat) : (number / 2 ^ places).log2 = number.log2 - places := by
  rw [Nat.log2_eq_log_two, Nat.log2_eq_log_two, Nat.log_div_base_pow]

theorem cut_positive (number places : Nat) (positive : 0 < number) :
    0 < number / 2 ^ places ↔ places ≤ number.log2 := by
  rw [Nat.div_pos_iff, Nat.le_log2 positive.ne']
  exact and_iff_right (Nat.two_pow_pos places)

theorem log2_mul (first second : Nat) (positive : 0 < first) (also : 0 < second) :
    first.log2 + second.log2 ≤ (first * second).log2 ∧ (first * second).log2 ≤ first.log2 + second.log2 + 1 := by
  have some : first * second ≠ 0 := Nat.mul_ne_zero positive.ne' also.ne'
  constructor
  · rw [Nat.le_log2 some, Nat.pow_add]
    exact Nat.mul_le_mul (Nat.log2_self_le positive.ne') (Nat.log2_self_le also.ne')
  · rw [← Nat.lt_add_one_iff, Nat.log2_lt some]
    calc
      first * second < 2 ^ (first.log2 + 1) * 2 ^ (second.log2 + 1) :=
        Nat.mul_lt_mul_of_lt_of_lt Nat.lt_log2_self Nat.lt_log2_self
      _ = 2 ^ (first.log2 + second.log2 + 1 + 1) := by rw [← Nat.pow_add]; congr 1; omega

theorem log2_div (number divisor : Nat) (positive : 0 < divisor) (some : 0 < number / divisor) :
    (number / divisor).log2 + divisor.log2 ≤ number.log2 ∧
      number.log2 ≤ (number / divisor).log2 + divisor.log2 + 1 := by
  have whole : number ≠ 0 := fun none => by simp [none] at some
  constructor
  · rw [Nat.le_log2 whole, Nat.pow_add]
    calc
      2 ^ (number / divisor).log2 * 2 ^ divisor.log2 ≤ number / divisor * divisor :=
        Nat.mul_le_mul (Nat.log2_self_le some.ne') (Nat.log2_self_le positive.ne')
      _ ≤ number := Nat.div_mul_le_self number divisor
  · rw [← Nat.lt_add_one_iff, Nat.log2_lt whole]
    calc
      number < divisor * (number / divisor + 1) := Nat.lt_mul_div_succ number positive
      _ ≤ 2 ^ (divisor.log2 + 1) * 2 ^ ((number / divisor).log2 + 1) :=
        Nat.mul_le_mul Nat.lt_log2_self.le Nat.lt_log2_self
      _ = 2 ^ ((number / divisor).log2 + divisor.log2 + 1 + 1) := by rw [← Nat.pow_add]; congr 1; omega

theorem log2_sqrt (number : Nat) (positive : 0 < number) : (Nat.sqrt number).log2 = number.log2 / 2 := by
  rw [Nat.log2_eq_iff (Nat.sqrt_pos.mpr positive).ne']
  constructor
  · rw [Nat.le_sqrt, ← Nat.pow_add]
    exact (Nat.pow_le_pow_right Nat.two_pos (by omega)).trans (Nat.log2_self_le positive.ne')
  · rw [Nat.sqrt_lt, ← Nat.pow_add]
    exact Nat.lt_log2_self.trans_le (Nat.pow_le_pow_right Nat.two_pos (by omega))

theorem log2_add (first second bits : Nat) (positive : 0 < first) (short : first.log2 ≤ bits)
    (also : second < 2 ^ (bits + 1)) : (first + second).log2 ≤ bits + 1 := by
  rw [← Nat.lt_add_one_iff, Nat.log2_lt (by omega), Nat.pow_succ]
  have below := (Nat.log2_lt positive.ne').mp (Nat.lt_add_one_iff.mpr short)
  omega

theorem shifted_mantissa (extended : ExtendedMantissa) (places : Nat) :
    (extended >>> places).mantissa = extended.mantissa / 2 ^ places := by
  induction places with
  | zero => exact (Nat.div_one _).symm
  | succ places ih =>
      change (extended >>> places).mantissa / 2 = _
      rw [ih, Nat.div_div_eq_div_mul, Nat.pow_succ]

theorem rounded_bounds (extended : ExtendedMantissa) :
    extended.mantissa ≤ extended.roundedMantissa ∧ extended.roundedMantissa ≤ extended.mantissa + 1 := by
  obtain ⟨mantissa, roundBit, stickyBit⟩ := extended
  cases roundBit <;> cases stickyBit <;>
    simp only [ExtendedMantissa.roundedMantissa, ExtendedMantissa.accuracy, Accuracy.roundToNearestEven] <;> omega

theorem rounded_length (extended : ExtendedMantissa) (some : 0 < extended.mantissa) :
    extended.mantissa.log2 ≤ extended.roundedMantissa.log2 ∧
      extended.roundedMantissa.log2 ≤ extended.mantissa.log2 + 1 := by
  obtain ⟨lower, upper⟩ := rounded_bounds extended
  have rounded : extended.roundedMantissa ≠ 0 := by omega
  constructor
  · exact (Nat.le_log2 rounded).mpr ((Nat.log2_self_le some.ne').trans lower)
  · rw [← Nat.lt_add_one_iff, Nat.log2_lt rounded, Nat.pow_succ]
    have below : extended.mantissa < 2 ^ (extended.mantissa.log2 + 1) := Nat.lt_log2_self
    omega

theorem extended_mantissa (mantissa : Nat) (accuracy : Accuracy) :
    (ExtendedMantissa.ofMantissaAndAccuracy mantissa accuracy).mantissa = mantissa := by
  unfold ExtendedMantissa.ofMantissaAndAccuracy
  split <;> rfl

def gridExponent (total : Int) : Int := max (total - 24) (-149)

theorem target_grid (total : Int) : Format.binary32.targetExponent total = gridExponent total := rfl

theorem shift_to_grid (mantissa : Nat) (exponent : Int) (accuracy : Accuracy) (grid : Int)
    (target : gridExponent (totalExponent mantissa exponent) = grid) (enough : exponent ≤ grid) :
    ∃ (places : Nat) (extended : ExtendedMantissa),
      shiftToTargetExponent .binary32 mantissa exponent accuracy = (extended, grid) ∧
        (places : Int) = grid - exponent ∧ extended.mantissa = mantissa / 2 ^ places := by
  have moved : exponent + ((grid - exponent).toNat : Int) = grid := by omega
  refine ⟨(grid - exponent).toNat,
    ExtendedMantissa.ofMantissaAndAccuracy mantissa accuracy >>> (grid - exponent).toNat, ?_, by omega, ?_⟩
  · rw [shiftToTargetExponent, target_grid, target, shiftToExponent]
    exact Prod.ext rfl moved
  · rw [shifted_mantissa, extended_mantissa]

theorem round_to_zero (sign : Sign) (mantissa : Nat) (exponent : Int) (accuracy : Accuracy)
    (extended : ExtendedMantissa) (target : Int)
    (shifted : shiftToTargetExponent .binary32 mantissa exponent accuracy = (extended, target))
    (none : extended.roundedMantissa = 0) :
    roundWithAccuracy .binary32 sign mantissa exponent accuracy = .zero sign := by
  have nothing : (shiftToTargetExponent .binary32 0 target .exact).1.mantissa = 0 := by
    rw [shiftToTargetExponent, shiftToExponent, shifted_mantissa, extended_mantissa, Nat.zero_div]
  simp only [roundWithAccuracy, shifted, none, nothing, dif_pos]

theorem fitted_total (mantissa : Nat) (exponent : Int) (bounded : mantissa ≤ 2 ^ 24) :
    totalExponent (fitted mantissa exponent).mantissa (fitted mantissa exponent).exponent =
      totalExponent mantissa exponent := by
  by_cases fits : mantissa < 2 ^ 24
  · rw [fitted, if_pos fits]
  · obtain rfl : mantissa = 2 ^ 24 := by omega
    rw [fitted, if_neg (Nat.lt_irrefl _)]
    simp only [totalExponent, Nat.log2_two_pow]
    omega

theorem fitted_grid (mantissa : Nat) (exponent : Int) (positive : 0 < mantissa) (least : -149 ≤ exponent)
    (full : 2 ^ 23 ≤ mantissa ∨ exponent = -149) : (fitted mantissa exponent).OnGrid := by
  by_cases fits : mantissa < 2 ^ 24
  · rw [fitted, if_pos fits]
    exact ⟨positive, fits, least, full⟩
  · rw [fitted, if_neg fits]
    exact ⟨Nat.two_pow_pos 23, by dsimp only; omega, by dsimp only; omega, Or.inl (Nat.le_refl _)⟩

theorem round_scale (sign : Sign) (mantissa : Nat) (exponent : Int) (accuracy : Accuracy) (total : Int)
    (whole : totalExponent mantissa exponent = total) (enough : exponent ≤ gridExponent total) :
    (roundWithAccuracy .binary32 sign mantissa exponent accuracy = .zero sign ∧ total ≤ -148) ∨
      ∃ (result : Magnitude) (proof : 0 < result.mantissa),
        roundWithAccuracy .binary32 sign mantissa exponent accuracy =
          .finite sign result.mantissa result.exponent proof ∧
        result.OnGrid ∧ totalExponent result.mantissa result.exponent ≤ max (total + 1) (-148) ∧
        (-147 ≤ total → total ≤ totalExponent result.mantissa result.exponent) := by
  obtain ⟨grid, target⟩ : ∃ grid, gridExponent total = grid := ⟨_, rfl⟩
  rw [target] at enough
  obtain ⟨places, extended, shifted, moved, cut⟩ :=
    shift_to_grid mantissa exponent accuracy grid (whole ▸ target) enough
  obtain ⟨lower, upper⟩ := rounded_bounds extended
  have bits : extended.mantissa.log2 = mantissa.log2 - places := by rw [cut, log2_cut]
  rw [totalExponent] at whole
  rw [gridExponent] at target
  have short : extended.mantissa < 2 ^ 24 := by
    by_cases none : extended.mantissa = 0
    · omega
    · exact (Nat.log2_lt none).mp (by omega)
  have positive (large : -147 ≤ total) : 0 < mantissa := by
    refine Nat.pos_of_ne_zero fun none => ?_
    have least : mantissa.log2 = 0 := by rw [none, Nat.log2_zero]
    omega
  have kept (large : -147 ≤ total) : 0 < extended.mantissa := by
    rw [cut, cut_positive mantissa places (positive large)]
    omega
  have full : 2 ^ 23 ≤ extended.mantissa ∨ grid = -149 := by
    by_cases large : -125 < total
    · left
      rw [← Nat.le_log2 (kept (by omega)).ne']
      omega
    · right
      omega
  by_cases none : extended.roundedMantissa = 0
  · refine Or.inl ⟨round_to_zero sign mantissa exponent accuracy extended grid shifted none, ?_⟩
    by_contra large
    have some := kept (by omega)
    omega
  · right
    obtain ⟨proof, rounded⟩ := round_target sign mantissa exponent accuracy extended grid shifted (by omega) (by omega)
      (by omega)
    refine ⟨_, proof, rounded, fitted_grid _ _ (by omega) (by omega) (by omega), ?_, ?_⟩
    · rw [fitted_total _ _ (by omega), totalExponent]
      by_cases cutOff : extended.mantissa = 0
      · have one : extended.roundedMantissa = 1 := by omega
        have least : (1 : Nat).log2 = 0 := rfl
        rw [one]
        omega
      · have longer := (rounded_length extended (Nat.pos_of_ne_zero cutOff)).2
        have some : 0 < mantissa := Nat.pos_of_ne_zero fun nothing => cutOff (by rw [cut, nothing, Nat.zero_div])
        have room : places ≤ mantissa.log2 :=
          (cut_positive mantissa places some).mp (cut ▸ Nat.pos_of_ne_zero cutOff)
        omega
    · intro large
      rw [fitted_total _ _ (by omega), totalExponent]
      have longer := (rounded_length extended (kept large)).1
      omega

end VehicleSim.Binary32
