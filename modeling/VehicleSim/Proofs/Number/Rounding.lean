import VehicleSim.Number.Binary32
import VehicleSim.Proofs.Number.Grid

/-!
Rounding in binary32: what the two residual bits of a mantissa know of the fraction they were cut from,
and where the rounded fraction comes to lie.
-/

set_option autoImplicit false

namespace VehicleSim.Binary32

open Float.Model Float.Model.UnpackedFloat

-- The mantissa is the whole part of the fraction, and the bits tell how the rest compares to one half.
def Fits (extended : ExtendedMantissa) (numerator denominator : Nat) : Prop :=
  match extended.roundBit, extended.stickyBit with
  | false, false => numerator = extended.mantissa * denominator
  | false, true => extended.mantissa * denominator < numerator ∧
      2 * numerator < (2 * extended.mantissa + 1) * denominator
  | true, false => 2 * numerator = (2 * extended.mantissa + 1) * denominator
  | true, true => (2 * extended.mantissa + 1) * denominator < 2 * numerator ∧
      numerator < (extended.mantissa + 1) * denominator

theorem fits_fraction (numerator denominator : Nat) (positive : 0 < denominator) :
    Fits (.ofMantissaAndAccuracy (numerator / denominator)
      (accuracyOfFraction (numerator % denominator) denominator)) numerator denominator := by
  have whole := Nat.div_add_mod' numerator denominator
  have less := Nat.mod_lt numerator positive
  unfold accuracyOfFraction
  split
  · simp only [ExtendedMantissa.ofMantissaAndAccuracy, Fits]
    omega
  · cases order : compare (2 * (numerator % denominator)) denominator with
    | lt =>
        rw [Nat.compare_eq_lt] at order
        simp only [ExtendedMantissa.ofMantissaAndAccuracy, Fits]
        rw [Nat.add_mul, Nat.mul_assoc]
        omega
    | eq =>
        rw [Nat.compare_eq_eq] at order
        simp only [ExtendedMantissa.ofMantissaAndAccuracy, Fits]
        rw [Nat.add_mul, Nat.mul_assoc]
        omega
    | gt =>
        rw [Nat.compare_eq_gt] at order
        simp only [ExtendedMantissa.ofMantissaAndAccuracy, Fits]
        rw [Nat.add_mul, Nat.add_mul, Nat.mul_assoc]
        omega

theorem fits_shift_one (extended : ExtendedMantissa) (numerator denominator : Nat) (positive : 0 < denominator)
    (fits : Fits extended numerator denominator) : Fits extended.shiftRightOne numerator (2 * denominator) := by
  obtain ⟨mantissa, roundBit, stickyBit⟩ := extended
  rcases Nat.mod_two_eq_zero_or_one mantissa with even | odd
  · obtain ⟨half, rfl⟩ : ∃ half, mantissa = 2 * half := ⟨mantissa / 2, by omega⟩
    cases roundBit <;> cases stickyBit <;> simp [Fits, ExtendedMantissa.shiftRightOne] at fits ⊢ <;>
      first | linarith | constructor <;> linarith
  · obtain ⟨half, rfl⟩ : ∃ half, mantissa = 2 * half + 1 := ⟨mantissa / 2, by omega⟩
    have cut : (2 * half + 1) / 2 = half := by omega
    cases roundBit <;> cases stickyBit <;> simp [Fits, ExtendedMantissa.shiftRightOne, cut, odd] at fits ⊢ <;>
      first | linarith | constructor <;> linarith

theorem fits_rounded (extended : ExtendedMantissa) (numerator denominator : Nat)
    (fits : Fits extended numerator denominator) :
    2 * (extended.roundedMantissa * denominator) ≤ 2 * numerator + denominator ∧
      2 * numerator ≤ 2 * (extended.roundedMantissa * denominator) + denominator ∧
      extended.mantissa ≤ extended.roundedMantissa ∧ extended.roundedMantissa ≤ extended.mantissa + 1 := by
  obtain ⟨mantissa, roundBit, stickyBit⟩ := extended
  have parity := Nat.mod_two_eq_zero_or_one mantissa
  cases roundBit <;> cases stickyBit <;>
    simp only [Fits, ExtendedMantissa.roundedMantissa, ExtendedMantissa.accuracy,
      Accuracy.roundToNearestEven] at fits ⊢
  · refine ⟨?_, ?_, ?_, ?_⟩ <;> linarith
  · refine ⟨?_, ?_, ?_, ?_⟩ <;> linarith
  · rcases parity with even | odd
    · rw [even]
      refine ⟨?_, ?_, ?_, ?_⟩ <;> linarith
    · rw [odd]
      refine ⟨?_, ?_, ?_, ?_⟩ <;> linarith
  · refine ⟨?_, ?_, ?_, ?_⟩ <;> linarith

theorem target_short (mantissa : Nat) (exponent : Int) (accuracy : Accuracy) (positive : 0 < mantissa)
    (short : mantissa < 2 ^ 24) (least : -149 ≤ exponent) :
    shiftToTargetExponent .binary32 mantissa exponent accuracy =
      (.ofMantissaAndAccuracy mantissa accuracy, exponent) := by
  have bits : mantissa.log2 < 24 := (Nat.log2_lt (Nat.ne_of_gt positive)).mpr short
  have none : (Format.binary32.targetExponent (totalExponent mantissa exponent) - exponent).toNat = 0 := by
    simp only [Format.targetExponent, totalExponent, Format.mantissaBits, Format.minExponent]
    omega
  simp only [shiftToTargetExponent, shiftToExponent, none]
  exact Prod.ext rfl (by simp)

theorem target_full (exponent : Int) (accuracy : Accuracy) (least : -149 ≤ exponent) :
    shiftToTargetExponent .binary32 (2 ^ 24) exponent accuracy =
      ((ExtendedMantissa.ofMantissaAndAccuracy (2 ^ 24) accuracy).shiftRightOne, exponent + 1) := by
  have bits : (2 ^ 24).log2 = 24 := Nat.log2_two_pow
  have one : (Format.binary32.targetExponent (totalExponent (2 ^ 24) exponent) - exponent).toNat = 1 := by
    simp only [Format.targetExponent, totalExponent, Format.mantissaBits, Format.minExponent, bits]
    omega
  simp only [shiftToTargetExponent, shiftToExponent, one]
  exact Prod.ext rfl (by simp)

def fitted (mantissa : Nat) (exponent : Int) : Magnitude :=
  if mantissa < 2 ^ 24 then ⟨mantissa, exponent⟩ else ⟨2 ^ 23, exponent + 1⟩

theorem target_fitted (mantissa : Nat) (exponent : Int) (positive : 0 < mantissa) (bounded : mantissa ≤ 2 ^ 24)
    (least : -149 ≤ exponent) :
    (shiftToTargetExponent .binary32 mantissa exponent .exact).1.mantissa = (fitted mantissa exponent).mantissa ∧
      (shiftToTargetExponent .binary32 mantissa exponent .exact).2 = (fitted mantissa exponent).exponent := by
  rcases Nat.lt_or_eq_of_le bounded with short | long
  · rw [target_short mantissa exponent .exact positive short least, fitted, if_pos short]
    exact ⟨rfl, rfl⟩
  · subst long
    rw [target_full exponent .exact least, fitted, if_neg (Nat.lt_irrefl _)]
    exact ⟨rfl, rfl⟩

theorem round_target (sign : Sign) (mantissa : Nat) (exponent : Int) (accuracy : Accuracy)
    (extended : ExtendedMantissa) (target : Int)
    (shifted : shiftToTargetExponent .binary32 mantissa exponent accuracy = (extended, target))
    (positive : 0 < extended.roundedMantissa) (bounded : extended.roundedMantissa ≤ 2 ^ 24)
    (least : -149 ≤ target) :
    ∃ proof, roundWithAccuracy .binary32 sign mantissa exponent accuracy =
      .finite sign (fitted extended.roundedMantissa target).mantissa
        (fitted extended.roundedMantissa target).exponent proof := by
  obtain ⟨mantissas, exponents⟩ := target_fitted extended.roundedMantissa target positive bounded least
  have some : 0 < (fitted extended.roundedMantissa target).mantissa := by
    unfold fitted
    split <;> simp only [positive, Nat.two_pow_pos]
  refine ⟨some, ?_⟩
  simp only [roundWithAccuracy, shifted, mantissas, exponents]
  rw [dif_neg (Nat.ne_of_gt some)]

theorem round_fits (sign : Sign) (whole : Nat) (exponent : Int) (accuracy : Accuracy) (numerator denominator : Nat)
    (fits : Fits (.ofMantissaAndAccuracy whole accuracy) numerator denominator) (some : 0 < denominator)
    (positive : 0 < whole) (bounded : whole ≤ 2 ^ 24) (least : -149 ≤ exponent)
    (full : 2 ^ 23 ≤ whole ∨ exponent = -149) :
    ∃ (result : Magnitude) (proof : 0 < result.mantissa), roundWithAccuracy .binary32 sign whole exponent accuracy =
        .finite sign result.mantissa result.exponent proof ∧
      result.OnGrid ∧ ∃ shift ≤ 1, result.exponent = exponent + (shift : Nat) ∧
        2 * (denominator * (result.mantissa * 2 ^ shift)) ≤ 2 * numerator + denominator * 2 ^ shift ∧
        2 * numerator ≤ 2 * (denominator * (result.mantissa * 2 ^ shift)) + denominator * 2 ^ shift := by
  have sameMantissa : (ExtendedMantissa.ofMantissaAndAccuracy whole accuracy).mantissa = whole := by
    unfold ExtendedMantissa.ofMantissaAndAccuracy
    split <;> rfl
  rcases Nat.lt_or_eq_of_le bounded with short | long
  · obtain ⟨notAbove, notBelow, lower, upper⟩ := fits_rounded _ numerator denominator fits
    rw [sameMantissa] at lower upper
    obtain ⟨proof, rounded⟩ := round_target sign whole exponent accuracy _ exponent
      (target_short whole exponent accuracy positive short least) (by omega) (by omega) least
    refine ⟨_, proof, rounded, ?_⟩
    generalize (ExtendedMantissa.ofMantissaAndAccuracy whole accuracy).roundedMantissa = mantissa at *
    unfold fitted
    by_cases fit : mantissa < 2 ^ 24
    · rw [if_pos fit]
      refine ⟨⟨by dsimp only; omega, fit, least, full.imp_left fun high => Nat.le_trans high lower⟩, 0,
        Nat.zero_le 1, (Int.add_zero exponent).symm, ?_, ?_⟩ <;> linarith
    · rw [if_neg fit]
      obtain rfl : mantissa = 2 ^ 24 := by omega
      refine ⟨⟨Nat.two_pow_pos 23, by dsimp only; omega, by dsimp only; omega, Or.inl (Nat.le_refl _)⟩, 1, Nat.le_refl 1, rfl,
        ?_, ?_⟩ <;> linarith
  · subst long
    have halved := fits_shift_one _ numerator denominator some fits
    obtain ⟨notAbove, notBelow, lower, upper⟩ := fits_rounded _ numerator (2 * denominator) halved
    have half : (ExtendedMantissa.ofMantissaAndAccuracy (2 ^ 24) accuracy).shiftRightOne.mantissa = 2 ^ 23 := by
      rw [ExtendedMantissa.shiftRightOne, sameMantissa]
      rfl
    rw [half] at lower upper
    obtain ⟨proof, rounded⟩ := round_target sign (2 ^ 24) exponent accuracy _ (exponent + 1)
      (target_full exponent accuracy least) (by omega) (by omega) (by omega)
    refine ⟨_, proof, rounded, ?_⟩
    generalize (ExtendedMantissa.ofMantissaAndAccuracy (2 ^ 24) accuracy).shiftRightOne.roundedMantissa =
      mantissa at *
    have fit : mantissa < 2 ^ 24 := by omega
    rw [fitted, if_pos fit]
    refine ⟨⟨by dsimp only; omega, fit, by dsimp only; omega, Or.inl lower⟩, 1, Nat.le_refl 1, rfl, ?_, ?_⟩ <;>
      linarith

end VehicleSim.Binary32
