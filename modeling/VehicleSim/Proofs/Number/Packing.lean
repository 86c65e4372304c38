import VehicleSim.Proofs.Number.Grid

/-!
The bits of a binary32 number and back. What the bits hold lies on the grid, with an exponent of at most
104, and only that is kept.
-/

set_option autoImplicit false

namespace VehicleSim.Binary32

open Float.Model (Format UnpackedFloat)
open Float.Model.UnpackedFloat

def Packed : UnpackedFloat → Prop
  | .finite _ mantissa exponent _ => (⟨mantissa, exponent⟩ : Magnitude).OnGrid ∧ exponent ≤ 104
  | _ => True

theorem append_implicit (mantissa : BitVec 23) : (1#1 ++ mantissa).toNat = 2 ^ 23 + mantissa.toNat := by
  rw [BitVec.toNat_append, ← Nat.shiftLeft_add_eq_or_of_lt mantissa.isLt]
  rfl

theorem unpack_packed (bits : BitVec 32) : Packed (unpack .binary32 bits) := by
  have mantissaShort := (@unpackMantissa .binary32 bits).isLt
  have exponentShort := (@unpackExponent .binary32 bits).isLt
  have whole := append_implicit (@unpackMantissa .binary32 bits)
  have bias : Format.binary32.exponentBias = 127 := rfl
  unfold unpack
  dsimp only at *
  split
  · split <;> trivial
  · rename_i notLast
    have most : (@unpackExponent .binary32 bits).toNat ≠ 255 := fun last => notLast (BitVec.eq_of_toNat_eq last)
    split
    · rename_i zero
      have none : (@unpackExponent .binary32 bits).toNat = 0 := congrArg BitVec.toNat zero
      split
      · trivial
      · rename_i some
        have positive : (@unpackMantissa .binary32 bits).toNat ≠ 0 := fun none => some (BitVec.eq_of_toNat_eq none)
        refine ⟨⟨Nat.pos_of_ne_zero positive, ?_, ?_, Or.inr ?_⟩, ?_⟩ <;> simp only [none, bias] <;> omega
    · rename_i notZero
      have some : (@unpackExponent .binary32 bits).toNat ≠ 0 := fun none => notZero (BitVec.eq_of_toNat_eq none)
      refine ⟨⟨?_, ?_, ?_, Or.inl ?_⟩, ?_⟩ <;> simp only [bias, whole] <;> omega

theorem unpack_sign_components (spec : Format) (sign : Sign) (exponent : BitVec spec.exponentBits)
    (mantissa : BitVec spec.mantissaBitsWithoutImplicit) :
    unpackSign (packComponents spec sign exponent mantissa) = sign.toBitVec := by
  ext i inside
  obtain rfl : i = 0 := by omega
  simp [unpackSign, packComponents, BitVec.getLsbD_append, BitVec.getElem_append]

theorem sign_back (sign : Sign) : Sign.ofBitVec sign.toBitVec = sign := by
  cases sign <;> rfl

theorem finite_congr {sign : Sign} {mantissa other : Nat} {exponent otherExponent : Int} {positive : 0 < mantissa}
    {otherPositive : 0 < other} (mantissas : mantissa = other) (exponents : exponent = otherExponent) :
    UnpackedFloat.finite sign mantissa exponent positive = .finite sign other otherExponent otherPositive := by
  subst mantissas exponents
  rfl

theorem unpack_infinity (sign : Sign) : unpack .binary32 (packedInfinity .binary32 sign) = .infinity sign := by
  cases sign <;> rfl

theorem unpack_zero (sign : Sign) : unpack .binary32 (packedZero .binary32 sign) = .zero sign := by
  cases sign <;> rfl

theorem unpack_nan : unpack .binary32 (packedNaN .binary32) = .notANumber := rfl

theorem unpack_normal (sign : Sign) (exponent : BitVec 8) (mantissa : BitVec 23) (some : exponent ≠ 0#8)
    (notLast : exponent ≠ -1#8) :
    ∃ proof, unpack .binary32 (packComponents .binary32 sign exponent mantissa) =
      .finite sign (2 ^ 23 + mantissa.toNat) (exponent.toNat - 150) proof := by
  refine ⟨by omega, ?_⟩
  simp only [unpack, unpackMantissa_packComponents, unpackExponent_packComponents, unpack_sign_components, sign_back]
  rw [if_neg notLast, if_neg some]
  exact finite_congr (append_implicit mantissa) rfl

theorem unpack_subnormal (sign : Sign) (mantissa : BitVec 23) (positive : 0 < mantissa.toNat) :
    unpack .binary32 (packComponents .binary32 sign 0#8 mantissa) =
      .finite sign mantissa.toNat (-149) positive := by
  have some : mantissa ≠ 0#23 := fun none => by
    rw [none] at positive
    exact absurd positive (Nat.lt_irrefl 0)
  simp only [unpack, unpackMantissa_packComponents, unpackExponent_packComponents, unpack_sign_components, sign_back]
  rw [if_neg (by decide), if_pos trivial, dif_neg some]
  rfl

theorem unpack_pack_finite (sign : Sign) (value : Magnitude) (grid : value.OnGrid) (highest : value.exponent ≤ 104) :
    unpack .binary32 (pack .binary32 (.finite sign value.mantissa value.exponent grid.positive)) =
      .finite sign value.mantissa value.exponent grid.positive := by
  obtain ⟨mantissa, exponent⟩ := value
  have positive := grid.positive
  have short := grid.short
  have least := grid.least
  have notZero := Nat.ne_of_gt positive
  dsimp only at positive short least highest notZero
  change unpack .binary32 (if 2 ^ 8 ≤ (exponent + (127 : Nat) + (23 : Nat)).toNat + 1 then _
    else if mantissa.log2 + 1 = 24 then _ else _) = .finite sign mantissa exponent positive
  rw [if_neg (by omega)]
  by_cases full : 2 ^ 23 ≤ mantissa
  · have bits : mantissa.log2 + 1 = 24 := by
      have lower := (Nat.le_log2 notZero).mpr full
      have upper := (Nat.log2_lt notZero).mpr short
      omega
    rw [if_pos bits]
    obtain ⟨biased, shifted⟩ : ∃ biased, (exponent + (127 : Nat) + (23 : Nat)).toNat = biased := ⟨_, rfl⟩
    have same : (BitVec.ofNat 8 biased).toNat = biased := by
      rw [BitVec.toNat_ofNat, Nat.mod_eq_of_lt (by omega)]
    have some : BitVec.ofNat 8 biased ≠ 0#8 := fun zero => by
      have none : biased = 0 := same.symm.trans (congrArg BitVec.toNat zero)
      omega
    have notLast : BitVec.ofNat 8 biased ≠ -1#8 := fun last => by
      have most : biased = 255 := same.symm.trans (congrArg BitVec.toNat last)
      omega
    obtain ⟨proof, unpacked⟩ := unpack_normal sign (BitVec.ofNat 8 biased) (BitVec.ofNat 23 mantissa) some notLast
    subst shifted
    refine unpacked.trans (finite_congr ?_ ?_)
    · rw [BitVec.toNat_ofNat]
      omega
    · rw [same]
      omega
  · have bits : ¬ mantissa.log2 + 1 = 24 := by
      have upper := (Nat.log2_lt notZero).mpr (Nat.lt_of_not_le full)
      omega
    rw [if_neg bits]
    have same : (BitVec.ofNat 23 mantissa).toNat = mantissa := by
      rw [BitVec.toNat_ofNat, Nat.mod_eq_of_lt (by omega)]
    have tiny : exponent = -149 := grid.full.resolve_left full
    exact (unpack_subnormal sign (BitVec.ofNat 23 mantissa) (by rwa [same])).trans (finite_congr same tiny.symm)

theorem unpack_pack (value : UnpackedFloat) (packed : Packed value) : unpack .binary32 (pack .binary32 value) = value := by
  cases value with
  | infinity sign => exact unpack_infinity sign
  | notANumber => exact unpack_nan
  | zero sign => exact unpack_zero sign
  | finite sign mantissa exponent positive =>
      exact unpack_pack_finite sign ⟨mantissa, exponent⟩ packed.1 packed.2

theorem unpack_pack_overflow (sign : Sign) (mantissa : Nat) (exponent : Int) (positive : 0 < mantissa)
    (past : 104 < exponent) :
    unpack .binary32 (pack .binary32 (.finite sign mantissa exponent positive)) = .infinity sign := by
  change unpack .binary32 (if 2 ^ 8 ≤ (exponent + (127 : Nat) + (23 : Nat)).toNat + 1 then _ else _) = _
  rw [if_pos (by omega)]
  exact unpack_infinity sign

end VehicleSim.Binary32
