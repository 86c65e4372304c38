import VehicleSim.Json.Numeral
import VehicleSim.Proofs.Number.Scale

/-!
Whole numbers of 64 bits in binary64. Each has a value there: an exponent grows by no more than the bits of a product, and
the largest one of the format is far away.
-/

set_option autoImplicit false

namespace VehicleSim.Binary64

open Float.Model Float.Model.UnpackedFloat

inductive Below (most : Int) : UnpackedFloat → Prop where
  | zero (sign : Sign) : Below most (.zero sign)
  | finite (sign : Sign) (mantissa : Nat) (exponent : Int) (positive : 0 < mantissa) (bounded : exponent ≤ most) :
      Below most (.finite sign mantissa exponent positive)

def Short : UnpackedFloat → Prop
  | .finite _ mantissa _ _ => mantissa < 2 ^ 53
  | _ => True

theorem not_infinite (value : UnpackedFloat) (most : Int) (below : Below most value) : value.isInf = false := by
  cases below <;> rfl

theorem below_mono (value : UnpackedFloat) (most more : Int) (below : Below most value) (le : most ≤ more) :
    Below more value := by
  cases below with
  | zero sign => exact .zero sign
  | finite sign mantissa exponent positive bounded => exact .finite sign mantissa exponent positive (bounded.trans le)

theorem unpack_short (bits : BitVec 64) : Short (UnpackedFloat.unpack .binary64 bits) := by
  have mantissaShort := (@unpackMantissa .binary64 bits).isLt
  unfold UnpackedFloat.unpack
  dsimp only at *
  split
  · split <;> trivial
  · split
    · split
      · trivial
      · exact mantissaShort.trans (by decide)
    · exact (1#1 ++ @unpackMantissa .binary64 bits).isLt

theorem shifted_exponent (mantissa : Nat) (exponent : Int) (accuracy : Accuracy) :
    (shiftToTargetExponent .binary64 mantissa exponent accuracy).2 =
      max exponent (max ((mantissa.log2 : Int) + 1 + exponent - 53) (-1074)) := by
  change exponent + ((max ((mantissa.log2 : Int) + 1 + exponent - 53) (-1074) - exponent).toNat : Int) = _
  omega

theorem shifted_least (mantissa : Nat) (exponent : Int) (accuracy : Accuracy) :
    (shiftToTargetExponent .binary64 mantissa exponent accuracy).1.mantissa ≤ mantissa := by
  rw [shiftToTargetExponent, shiftToExponent, Binary32.shifted_mantissa, Binary32.extended_mantissa]
  exact Nat.div_le_self _ _

theorem log2_short (mantissa bits : Nat) (short : mantissa < 2 ^ bits) : mantissa.log2 ≤ bits := by
  by_cases none : mantissa = 0
  · rw [none, Nat.log2_zero]
    exact Nat.zero_le bits
  · exact ((Nat.log2_lt none).mpr short).le

theorem round_below (sign : Sign) (mantissa : Nat) (exponent : Int) (accuracy : Accuracy) (bits : Nat)
    (short : mantissa < 2 ^ bits) :
    Below (max exponent (-1074) + 2 * bits) (roundWithAccuracy .binary64 sign mantissa exponent accuracy) := by
  have least := shifted_least mantissa exponent accuracy
  have moved := shifted_exponent mantissa exponent accuracy
  unfold roundWithAccuracy
  obtain ⟨⟨extended, grid⟩, shifted⟩ : ∃ pair, shiftToTargetExponent .binary64 mantissa exponent accuracy = pair :=
    ⟨_, rfl⟩
  rw [shifted] at least moved ⊢
  dsimp only at *
  have carried : extended.roundedMantissa < 2 ^ (bits + 1) := by
    have carry := (Binary32.rounded_bounds extended).2
    rw [Nat.pow_succ]
    omega
  have again := shifted_exponent extended.roundedMantissa grid .exact
  have length := log2_short mantissa bits short
  have lengthCarried := log2_short _ _ carried
  split
  · exact .zero sign
  · refine .finite _ _ _ _ ?_
    omega

theorem components_below (sign : Sign) (exponent : BitVec 11) (mantissa : BitVec 52) (most : Int)
    (notLast : exponent.toNat < 2047) (least : -1074 ≤ most) (bounded : (exponent.toNat : Int) - 1075 ≤ most) :
    Below most (UnpackedFloat.unpack .binary64 (packComponents .binary64 sign exponent mantissa)) := by
  have known : exponent ≠ -1#11 := fun last => by
    have full : exponent.toNat = 2047 := congrArg BitVec.toNat last
    omega
  simp only [UnpackedFloat.unpack, unpackMantissa_packComponents, unpackExponent_packComponents]
  rw [if_neg known]
  split
  · rename_i none
    split
    · exact .zero _
    · subst none
      exact .finite _ _ _ _ least
  · exact .finite _ _ _ _ bounded

theorem unpacked_below (value : UnpackedFloat) (most : Int) (below : Below most value) (least : -1074 ≤ most)
    (highest : most ≤ 971) : Below most (UnpackedFloat.unpack .binary64 (pack .binary64 value)) := by
  cases below with
  | zero sign => cases sign <;> exact .zero _
  | finite sign mantissa exponent positive below =>
      obtain ⟨biased, shifted⟩ : ∃ biased, (exponent + (1023 : Nat) + (52 : Nat)).toNat = biased := ⟨_, rfl⟩
      have kept (bits : Nat) (short : bits ≤ biased) : (BitVec.ofNat 11 bits).toNat = bits := by
        rw [BitVec.toNat_ofNat, Nat.mod_eq_of_lt (by omega)]
      change Below most (UnpackedFloat.unpack .binary64
        (if 2 ^ 11 ≤ (exponent + (1023 : Nat) + (52 : Nat)).toNat + 1 then _ else if mantissa.log2 + 1 = 53 then
          packComponents .binary64 sign (BitVec.ofNat 11 (exponent + (1023 : Nat) + (52 : Nat)).toNat) _
        else packComponents .binary64 sign (BitVec.ofNat 11 0) _))
      rw [if_neg (by omega), shifted]
      split
      · exact components_below _ _ _ _ (by rw [kept _ (Nat.le_refl _)]; omega) least (by rw [kept _ (Nat.le_refl _)]; omega)
      · exact components_below _ _ _ _ (by decide) least (by rw [kept _ (Nat.zero_le _)]; omega)

theorem product_below (first second : UnpackedFloat) (most other : Int) (below : Below most first) (short : Short first)
    (belowOther : Below other second) (shortOther : Short second) :
    Below (max (most + other) (-1074) + 212) (UnpackedFloat.mul .binary64 first second) := by
  cases below with
  | zero sign => cases belowOther <;> exact .zero _
  | finite sign mantissa exponent positive bounded =>
      cases belowOther with
      | zero signOther => exact .zero _
      | finite signOther mantissaOther exponentOther positiveOther boundedOther =>
          have product : mantissa * mantissaOther < 2 ^ 53 * 2 ^ 53 := Nat.mul_lt_mul_of_lt_of_lt short shortOther
          refine below_mono _ _ _ (round_below _ _ _ _ 106 ?_) ?_
          · rwa [← Nat.pow_add] at product
          · omega

def parts (x : Float) : UnpackedFloat := x.toModel.unpack

theorem parts_short (x : Float) : Short (parts x) := unpack_short x.toModel.toBits.toBitVec

theorem parts_mul (x y : Float) :
    parts (x * y) = UnpackedFloat.unpack .binary64 (pack .binary64 (UnpackedFloat.mul .binary64 (parts x) (parts y))) := rfl

theorem mul_below (x y : Float) (most other : Int) (below : Below most (parts x)) (belowOther : Below other (parts y))
    (highest : most + other ≤ 758) : Below (max (most + other) (-1074) + 212) (parts (x * y)) := by
  rw [parts_mul]
  refine unpacked_below _ _ ?_ (by omega) (by omega)
  exact product_below _ _ _ _ below (parts_short x) belowOther (parts_short y)

theorem shift_short (number bits places : Nat) (short : number < 2 ^ bits) : number <<< places < 2 ^ (bits + places) := by
  rw [Nat.shiftLeft_eq, Nat.pow_add]
  exact Nat.mul_lt_mul_of_pos_right short (Nat.two_pow_pos places)

theorem word_rounded (number : Nat) (word : number < 2 ^ 64) :
    Below 233 (UnpackedFloat.ofNat .binary64 number) := by
  unfold UnpackedFloat.ofNat UnpackedFloat.ofInt UnpackedFloat.normalize
  split
  · rename_i negative
    have low := Int.compare_eq_lt.mp negative
    omega
  · exact .zero _
  · rw [Int.toNat_natCast]
    obtain ⟨target, aimed⟩ : ∃ target, max ((number.log2 : Int) + 1 + 0 - 53) (-1074) = target := ⟨_, rfl⟩
    change Below 233 (roundWithAccuracy .binary64 .positive
      (number <<< (0 - max ((number.log2 : Int) + 1 + 0 - 53) (-1074)).toNat)
      (0 - ((0 - max ((number.log2 : Int) + 1 + 0 - 53) (-1074)).toNat : Int)) .exact)
    rw [aimed]
    have wide : number <<< (0 - target).toNat < 2 ^ 116 :=
      (shift_short number 64 _ word).trans_le (Nat.pow_le_pow_right Nat.two_pos (by omega))
    exact below_mono _ _ _ (round_below _ _ _ _ 116 wide) (by omega)

theorem scientific_rounded (number : Nat) (word : number < 2 ^ 64) :
    Below 182 (UnpackedFloat.ofScientific .binary64 number 0) := by
  unfold UnpackedFloat.ofScientific
  split
  · exact .zero _
  · rw [if_neg (by decide), if_neg (by simp), if_pos (Int.le_refl 0)]
    simp only [UnpackedFloat.mul]
    refine below_mono _ _ _ (round_below _ _ _ _ 117 ?_) ?_
    · rw [Int.toNat_zero, Nat.pow_zero, Nat.mul_one]
      exact shift_short number 64 53 word
    · simp only [Format.mantissaBits]
      omega

theorem parts_one : parts (Numeral.powerOfTen 0) = .finite .positive (2 ^ 52) (-52) (Nat.two_pow_pos 52) := rfl

theorem times_one_below (x : Float) (most : Int) (below : Below most (parts x)) (least : -1022 ≤ most)
    (highest : most ≤ 810) : Below (most + 160) (parts (x * Numeral.powerOfTen 0)) := by
  have one : Below (-52) (parts (Numeral.powerOfTen 0)) := parts_one ▸ .finite _ _ _ _ (Int.le_refl _)
  exact below_mono _ _ _ (mul_below x (Numeral.powerOfTen 0) most (-52) below one (by omega)) (by omega)

theorem word_below (number : Nat) (word : number < 2 ^ 64) : Below 393 (parts (Float.ofNat number)) := by
  change Below 393 (parts (Float.ofScientific number false 0))
  unfold Float.ofScientific
  split
  · have rounded : Below 233 (parts number.toUInt64.toFloat) := by
      refine unpacked_below _ _ ?_ (by decide) (by decide)
      change Below 233 (UnpackedFloat.ofNat .binary64 (number % 2 ^ 64))
      exact word_rounded _ (Nat.mod_lt _ (Nat.two_pow_pos 64))
    exact times_one_below _ 233 rounded (by decide) (by decide)
  · exact below_mono _ 182 _ (unpacked_below _ _ (scientific_rounded number word) (by decide) (by decide)) (by decide)

end VehicleSim.Binary64

namespace VehicleSim.Numeral

theorem fold_least (digits : List Digit) (value : Nat) :
    value ≤ digits.foldl (fun value digit => 10 * value + digit.val) value := by
  induction digits generalizing value with
  | nil => exact Nat.le_refl value
  | cons digit rest ih =>
      have more := ih (10 * value + digit.val)
      rw [List.foldl_cons]
      omega

theorem take_digits (digits : List Digit) (value : Nat)
    (word : digits.foldl (fun value digit => 10 * value + digit.val) value < UInt64.size) :
    takeDigits value digits = (digits.foldl (fun value digit => 10 * value + digit.val) value, []) := by
  induction digits generalizing value with
  | nil => rfl
  | cons digit rest ih =>
      rw [List.foldl_cons] at word ⊢
      have least := fold_least rest (10 * value + digit.val)
      rw [takeDigits, if_pos (by omega)]
      exact ih _ word

theorem whole_number (numeral : Numeral) (value : Int) (whole : numeral.toInt? = some value) :
    numeral.fraction = none ∧ numeral.exponent = none ∧ natOfDigits numeral.whole = value.natAbs := by
  unfold toInt? at whole
  split at whole
  · rename_i fraction exponent
    refine ⟨fraction, exponent, ?_⟩
    dsimp only at whole
    split at whole
    · cases whole
      rfl
    · split at whole
      · cases whole
      · cases whole
        omega
  · cases whole

theorem word_scientific (numeral : Numeral) (value : Int) (whole : numeral.toInt? = some value)
    (word : fitsWord value = true) : numeral.scientific = (value.natAbs, 0) := by
  obtain ⟨fraction, exponent, digits⟩ := whole_number numeral value whole
  have small : value.natAbs < UInt64.size := by
    simp only [fitsWord, Bool.and_eq_true, decide_eq_true_eq] at word
    change value.natAbs < 2 ^ 64
    omega
  rw [natOfDigits] at digits
  rw [scientific, fraction, exponent, take_digits numeral.whole 0 (digits ▸ small), digits]
  rfl

/-- A whole number that a word can hold has a value in binary64. -/
theorem word_has_value (numeral : Numeral) (value : Int) (whole : numeral.toInt? = some value)
    (word : fitsWord value = true) : numeral.toBinary64?.isSome = true := by
  have small : value.natAbs < 2 ^ 64 := by
    simp only [fitsWord, Bool.and_eq_true, decide_eq_true_eq] at word
    omega
  have finite : (Float.ofNat value.natAbs * powerOfTen 0).isInf = false :=
    Binary64.not_infinite _ _
      (Binary64.times_one_below _ 393 (Binary64.word_below value.natAbs small) (by decide) (by decide))
  rw [toBinary64?, word_scientific numeral value whole word]
  dsimp only
  rw [if_pos (Int.le_refl 0), Option.isSome_map, scaleUp?]
  split
  · rfl
  · rw [if_neg (by decide), Int.toNat_zero]
    simp [finite]

theorem binary32_has_value (numeral : Numeral) (value : Float32) (read : numeral.toBinary32? = some value) :
    numeral.toBinary64?.isSome = true := by
  have narrowed (found : numeral.toBinary64?.map Binary32.narrow = some value) : numeral.toBinary64?.isSome = true := by
    rw [← Option.isSome_map (f := Binary32.narrow), found]
    rfl
  unfold toBinary32? at read
  split at read
  · rename_i whole integral
    split at read
    · rename_i word
      exact word_has_value numeral whole integral word
    · exact narrowed read
  · exact narrowed read

end VehicleSim.Numeral
