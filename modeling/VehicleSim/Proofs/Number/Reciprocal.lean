import VehicleSim.Proofs.Number.Packing
import VehicleSim.Proofs.Number.Rounding
import VehicleSim.World.Inertia

/-!
One over a number of binary32, and one over that again, on the unpacked form and through the bits.
-/

set_option autoImplicit false

namespace VehicleSim.Binary32

open Float.Model (Format UnpackedFloat totalExponent)
open Float.Model.UnpackedFloat

theorem div_core_one (mantissa : Nat) (exponent : Int) (highest : exponent ≤ 104) :
    ∃ k : Nat, ∃ target : Int,
      target = max (-24 - (mantissa.log2 : Int) - exponent) (-149) ∧ (k : Int) = -exponent - target ∧
        divCore .binary32 (2 ^ 23) (-23) mantissa exponent =
          (2 ^ k / mantissa, target, accuracyOfFraction (2 ^ k % mantissa) mantissa) := by
  have bits : (2 ^ 23).log2 = 23 := Nat.log2_two_pow
  have target : min (-23 - exponent) (Format.binary32.targetExponent
      (totalExponent (2 ^ 23) (-23) - totalExponent mantissa exponent)) =
        max (-24 - (mantissa.log2 : Int) - exponent) (-149) := by
    simp only [Format.targetExponent, totalExponent, Format.mantissaBits, Format.minExponent, bits]
    omega
  refine ⟨23 + (-23 - exponent - max (-24 - (mantissa.log2 : Int) - exponent) (-149)).toNat, _, rfl, by omega, ?_⟩
  simp only [divCore, target, Nat.shiftLeft_eq, ← Nat.pow_add]

theorem one_div_finite (sign : Sign) (value : Magnitude) (grid : value.OnGrid) (highest : value.exponent ≤ 104)
    (one : 0 < 2 ^ 23) :
    ∃ (result : Magnitude) (proof : 0 < result.mantissa),
      UnpackedFloat.div .binary32 (.finite .positive (2 ^ 23) (-23) one)
          (.finite sign value.mantissa value.exponent grid.positive) =
        .finite sign result.mantissa result.exponent proof ∧
      result.OnGrid ∧ IsReciprocal value result := by
  obtain ⟨mantissa, exponent⟩ := value
  have positive := grid.positive
  have short := grid.short
  have least := grid.least
  dsimp only at positive short least highest
  obtain ⟨k, target, chosen, sum, quotient⟩ := div_core_one mantissa exponent highest
  have lower : 2 ^ mantissa.log2 ≤ mantissa := Nat.log2_self_le (Nat.ne_of_gt positive)
  have upper : mantissa < 2 ^ (mantissa.log2 + 1) := Nat.lt_log2_self
  have bits : mantissa.log2 < 24 := (Nat.log2_lt (Nat.ne_of_gt positive)).mpr short
  have bounded : 2 ^ k / mantissa ≤ 2 ^ 24 := by
    apply Nat.div_le_of_le_mul
    calc 2 ^ k ≤ 2 ^ (mantissa.log2 + 24) := Nat.pow_le_pow_right Nat.two_pos (by omega)
      _ = 2 ^ mantissa.log2 * 2 ^ 24 := Nat.pow_add 2 _ _
      _ ≤ mantissa * 2 ^ 24 := Nat.mul_le_mul_right _ lower
  have some : 0 < 2 ^ k / mantissa := by
    apply Nat.div_pos _ positive
    calc mantissa ≤ 2 ^ (mantissa.log2 + 1) := Nat.le_of_lt upper
      _ ≤ 2 ^ k := Nat.pow_le_pow_right Nat.two_pos (by omega)
  have full : 2 ^ 23 ≤ 2 ^ k / mantissa ∨ target = -149 := by
    rcases Int.lt_or_le (-149) target with above | lowest
    · left
      rw [Nat.le_div_iff_mul_le positive]
      calc 2 ^ 23 * mantissa ≤ 2 ^ 23 * 2 ^ (mantissa.log2 + 1) := Nat.mul_le_mul_left _ (Nat.le_of_lt upper)
        _ = 2 ^ (23 + (mantissa.log2 + 1)) := (Nat.pow_add 2 _ _).symm
        _ ≤ 2 ^ k := Nat.pow_le_pow_right Nat.two_pos (by omega)
    · right
      omega
  obtain ⟨result, proof, rounded, onGrid, shift, small, moved, notAbove, notBelow⟩ :=
    round_fits (.positive / sign) (2 ^ k / mantissa) target (accuracyOfFraction (2 ^ k % mantissa) mantissa) (2 ^ k)
      mantissa (fits_fraction (2 ^ k) mantissa positive) positive some bounded (by omega) full
  have sameSign : Sign.positive / sign = sign := by cases sign <;> rfl
  rw [sameSign] at rounded
  refine ⟨result, proof, ?_, onGrid, k - shift, ?_, ?_⟩
  · simp only [UnpackedFloat.div, quotient, sameSign, rounded]
  · dsimp only
    omega
  · obtain ⟨rest, rfl⟩ : ∃ rest, k = rest + shift := ⟨k - shift, by omega⟩
    rw [Nat.add_sub_cancel]
    rw [Nat.pow_add] at notAbove notBelow
    have unit : 0 < 2 ^ shift := Nat.two_pow_pos shift
    dsimp only
    constructor
    · apply Nat.le_of_mul_le_mul_right _ unit
      linarith
    · apply Nat.le_of_mul_le_mul_right _ unit
      linarith

def parts (x : Float32) : UnpackedFloat := x.toModel.unpack

theorem parts_packed (x : Float32) : Packed (parts x) := unpack_packed x.toModel.toBits.toBitVec

theorem parts_zero : parts 0 = .zero .positive := rfl

theorem parts_one : parts 1 = .finite .positive (2 ^ 23) (-23) (Nat.two_pow_pos 23) := rfl

theorem parts_add (x y : Float32) :
    parts (x + y) = unpack .binary32 (pack .binary32 (UnpackedFloat.add .binary32 (parts x) (parts y))) := rfl

theorem beq_parts (x y : Float32) : (x == y) = (parts x).beq (parts y) := rfl

def invert : UnpackedFloat → UnpackedFloat
  | .notANumber => .notANumber
  | .zero _ => .zero .positive
  | .infinity sign => .zero sign
  | value => unpack .binary32 (pack .binary32 (UnpackedFloat.div .binary32 (parts 1) value))

theorem parts_inverse (x : Float32) : parts (Inertia.inverse x) = invert (parts x) := by
  have unfolded : parts (Inertia.inverse x) =
      if (parts x).beq (.zero .positive) then .zero .positive
      else unpack .binary32 (pack .binary32 (UnpackedFloat.div .binary32 (parts 1) (parts x))) := by
    change parts (if x == 0 then 0 else 1 / x) = _
    rw [beq_parts, parts_zero]
    split <;> rfl
  rw [unfolded]
  cases parts x with
  | notANumber => exact unpack_nan
  | zero sign => rfl
  | infinity sign => cases sign <;> rfl
  | finite sign mantissa exponent positive => cases sign <;> rfl

theorem invert_finite (sign : Sign) (value : Magnitude) (grid : value.OnGrid) (highest : value.exponent ≤ 104) :
    ∃ (result : Magnitude) (proof : 0 < result.mantissa), result.OnGrid ∧ IsReciprocal value result ∧
      invert (.finite sign value.mantissa value.exponent grid.positive) =
        if result.exponent ≤ 104 then .finite sign result.mantissa result.exponent proof else .infinity sign := by
  obtain ⟨result, proof, quotient, onGrid, near⟩ := one_div_finite sign value grid highest (Nat.two_pow_pos 23)
  refine ⟨result, proof, onGrid, near, ?_⟩
  simp only [invert, parts_one, quotient]
  split
  · rename_i fits
    exact unpack_pack_finite sign result onGrid fits
  · rename_i past
    exact unpack_pack_overflow sign result.mantissa result.exponent proof (by omega)

theorem invert_rests (value : UnpackedFloat) (packed : Packed value) (mantissa : Nat) (exponent : Int) (sign : Sign)
    (positive : 0 < mantissa) (finite : invert (invert value) = .finite sign mantissa exponent positive) :
    invert (invert (invert (invert value))) = invert (invert value) := by
  cases value with
  | notANumber => cases finite
  | zero sign => cases finite
  | infinity sign => cases finite
  | finite valueSign valueMantissa valueExponent valuePositive =>
      obtain ⟨valueGrid, valueHighest⟩ := packed
      obtain ⟨inverse, inversePositive, inverseGrid, near, first⟩ :=
        invert_finite valueSign ⟨valueMantissa, valueExponent⟩ valueGrid valueHighest
      dsimp only at first
      by_cases inverseHighest : inverse.exponent ≤ 104
      · rw [if_pos inverseHighest] at first
        obtain ⟨back, backPositive, backGrid, nearBack, second⟩ :=
          invert_finite valueSign inverse inverseGrid inverseHighest
        by_cases backHighest : back.exponent ≤ 104
        · rw [if_pos backHighest] at second
          obtain ⟨again, againPositive, againGrid, nearAgain, third⟩ :=
            invert_finite valueSign back backGrid backHighest
          rcases reciprocal_returns ⟨valueMantissa, valueExponent⟩ inverse back again valueGrid inverseGrid backGrid
            againGrid near nearBack nearAgain with rfl | rfl
          · rw [first, second, first, second]
          · rw [if_pos inverseHighest] at third
            rw [first, second, third, second]
        · rw [if_neg backHighest] at second
          rw [first, second] at finite
          cases finite
      · rw [if_neg inverseHighest] at first
        rw [first] at finite
        cases finite

-- Equal as numbers are; what is not a number counts as one.
def SameNumber (x y : Float32) : Prop := x == y ∨ x.isNaN ∧ y.isNaN

instance (x y : Float32) : Decidable (SameNumber x y) := inferInstanceAs (Decidable (x == y ∨ x.isNaN ∧ y.isNaN))

theorem isnan_parts (x : Float32) : x.isNaN = (parts x).isNaN := rfl

theorem isinf_parts (x : Float32) : x.isInf = (parts x).isInf := rfl

theorem same_number_of_parts (x y : Float32) (same : parts x = parts y) : SameNumber x y := by
  rw [SameNumber, beq_parts, isnan_parts, isnan_parts, same]
  cases parts y with
  | notANumber => exact Or.inr ⟨rfl, rfl⟩
  | zero sign => exact Or.inl rfl
  | infinity sign => exact Or.inl (by cases sign <;> rfl)
  | finite sign mantissa exponent positive =>
      refine Or.inl ?_
      cases sign <;> simp [UnpackedFloat.beq, UnpackedFloat.compare]

theorem compare_swap (first second : UnpackedFloat) : first.compare second = (second.compare first).map .swap := by
  have swapped (exponent otherExponent : Int) (mantissa other : Nat) :
      ((compare exponent otherExponent).then (compare mantissa other)).swap =
        (compare otherExponent exponent).then (compare other mantissa) := by
    rw [Ordering.swap_then, Int.compare_swap, Nat.compare_swap]
  rcases first with s | _ | s | ⟨s, m, e, p⟩ <;> rcases second with t | _ | t | ⟨t, n, f, q⟩ <;>
    first
    | cases s <;> cases t <;> first | rfl | simp only [UnpackedFloat.compare, Option.map_some, swapped]
    | cases s <;> rfl
    | cases t <;> rfl
    | rfl

theorem same_number_symm (x y : Float32) (same : SameNumber x y) : SameNumber y x := by
  refine same.imp (fun equal => ?_) And.symm
  rw [beq_parts, UnpackedFloat.beq, beq_iff_eq] at equal ⊢
  rw [compare_swap, equal]
  rfl

theorem inverse_rests (mass : Float32) (bounded : (Inertia.inverse (Inertia.inverse mass)).isInf = false) :
    SameNumber (Inertia.inverse (Inertia.inverse mass))
      (Inertia.inverse (Inertia.inverse (0 + Inertia.inverse (Inertia.inverse mass)))) := by
  have weighed : parts (Inertia.inverse (Inertia.inverse mass)) = invert (invert (parts mass)) := by
    rw [parts_inverse, parts_inverse]
  have packed := parts_packed (Inertia.inverse (Inertia.inverse mass))
  have rests := invert_rests (parts mass) (parts_packed mass)
  rw [isinf_parts] at bounded
  rw [← weighed] at rests
  generalize Inertia.inverse (Inertia.inverse mass) = value at *
  have again : parts (Inertia.inverse (Inertia.inverse (0 + value))) =
      invert (invert (unpack .binary32 (pack .binary32 (UnpackedFloat.add .binary32 (.zero .positive) (parts value))))) := by
    rw [parts_inverse, parts_inverse, parts_add, parts_zero]
  cases read : parts value with
  | notANumber =>
      rw [read] at again
      exact same_number_of_parts _ _ (read.trans again.symm)
  | zero sign =>
      rw [read] at again
      refine Or.inl ?_
      rw [beq_parts, read, again]
      cases sign <;> rfl
  | infinity sign =>
      rw [read] at bounded
      cases bounded
  | finite sign mantissa exponent positive =>
      rw [read] at again packed
      have sum : UnpackedFloat.add .binary32 (.zero .positive) (.finite sign mantissa exponent positive) =
          .finite sign mantissa exponent positive := rfl
      rw [sum, unpack_pack _ packed, ← read, rests mantissa exponent sign positive read] at again
      exact same_number_of_parts _ _ again.symm

theorem inverse_of_infinite (value : Float32) (infinite : value.isInf = true) :
    Inertia.inverse (Inertia.inverse (0 + value)) = 0 := by
  rw [isinf_parts] at infinite
  have none : (Inertia.inverse (0 + value) == 0) = true := by
    rw [beq_parts, parts_zero, parts_inverse, parts_add, parts_zero]
    cases read : parts value with
    | infinity sign => cases sign <;> rfl
    | _ =>
        rw [read] at infinite
        cases infinite
  exact if_pos none

end VehicleSim.Binary32
