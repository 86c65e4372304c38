import VehicleSim.Proofs.Number.Magnitude

/-!
Which binary32 numbers are equal: each to itself, and the two zeros to each other. What is not a number is equal to
nothing.
-/

set_option autoImplicit false

namespace VehicleSim.Binary32

open Float.Model (Format UnpackedFloat)
open Float.Model.UnpackedFloat

def Holds (bits : BitVec 32) : UnpackedFloat → Prop
  | .notANumber => @unpackExponent .binary32 bits = -1#8 ∧ @unpackMantissa .binary32 bits ≠ 0#23
  | .infinity sign =>
      Sign.ofBitVec (@unpackSign .binary32 bits) = sign ∧
        @unpackExponent .binary32 bits = -1#8 ∧ @unpackMantissa .binary32 bits = 0#23
  | .zero sign =>
      Sign.ofBitVec (@unpackSign .binary32 bits) = sign ∧
        @unpackExponent .binary32 bits = 0#8 ∧ @unpackMantissa .binary32 bits = 0#23
  | .finite sign mantissa exponent _ =>
      Sign.ofBitVec (@unpackSign .binary32 bits) = sign ∧
        (@unpackExponent .binary32 bits = 0#8 ∧
            (@unpackMantissa .binary32 bits).toNat = mantissa ∨
          2 ^ 23 + (@unpackMantissa .binary32 bits).toNat = mantissa ∧
            ((@unpackExponent .binary32 bits).toNat : Int) - 150 = exponent)

theorem unpack_holds (bits : BitVec 32) : Holds bits (unpack .binary32 bits) := by
  have whole := append_implicit (@unpackMantissa .binary32 bits)
  unfold unpack
  dsimp only
  split
  · rename_i last
    split
    · rename_i none
      exact ⟨rfl, last, none⟩
    · rename_i some
      exact ⟨last, some⟩
  · split
    · rename_i zero
      split
      · rename_i none
        exact ⟨rfl, zero, none⟩
      · exact ⟨rfl, Or.inl ⟨zero, rfl⟩⟩
    · exact ⟨rfl, Or.inr ⟨whole.symm, rfl⟩⟩

theorem components_back (bits : BitVec 32) :
    packComponents .binary32 (Sign.ofBitVec (@unpackSign .binary32 bits)) (@unpackExponent .binary32 bits)
      (@unpackMantissa .binary32 bits) = bits := by
  have sign : ∀ bit : BitVec 1, (Sign.ofBitVec bit).toBitVec = bit := by decide
  simp only [packComponents, sign, unpackSign, unpackExponent, unpackMantissa, BitVec.extractLsb]
  ext i inside
  grind

theorem bits_of_fields (bits other : BitVec 32)
    (sign : Sign.ofBitVec (@unpackSign .binary32 bits) = Sign.ofBitVec (@unpackSign .binary32 other))
    (exponent : @unpackExponent .binary32 bits = @unpackExponent .binary32 other)
    (mantissa : @unpackMantissa .binary32 bits = @unpackMantissa .binary32 other) : bits = other := by
  have back := components_back bits
  rw [sign, exponent, mantissa] at back
  exact back.symm.trans (components_back other)

theorem bits_of_unpack (bits other : BitVec 32) (valid : Format.binary32.Valid bits)
    (otherValid : Format.binary32.Valid other) (same : unpack .binary32 bits = unpack .binary32 other) :
    bits = other := by
  have holds := unpack_holds bits
  have otherHolds := unpack_holds other
  rw [same] at holds
  cases number : unpack .binary32 other with
  | notANumber =>
      rw [number] at holds otherHolds
      exact (valid.eq_packedNaN holds.1 holds.2).trans (otherValid.eq_packedNaN otherHolds.1 otherHolds.2).symm
  | infinity sign =>
      rw [number] at holds otherHolds
      obtain ⟨signed, last, none⟩ := holds
      obtain ⟨otherSigned, otherLast, otherNone⟩ := otherHolds
      exact bits_of_fields bits other (signed.trans otherSigned.symm) (last.trans otherLast.symm)
        (none.trans otherNone.symm)
  | zero sign =>
      rw [number] at holds otherHolds
      obtain ⟨signed, last, none⟩ := holds
      obtain ⟨otherSigned, otherLast, otherNone⟩ := otherHolds
      exact bits_of_fields bits other (signed.trans otherSigned.symm) (last.trans otherLast.symm)
        (none.trans otherNone.symm)
  | finite sign mantissa exponent positive =>
      rw [number] at holds otherHolds
      have short := (@unpackMantissa .binary32 bits).isLt
      have otherShort := (@unpackMantissa .binary32 other).isLt
      change _ < 2 ^ 23 at short otherShort
      obtain ⟨signed, fields⟩ := holds
      obtain ⟨otherSigned, otherFields⟩ := otherHolds
      refine bits_of_fields bits other (signed.trans otherSigned.symm) ?_ ?_
      · rcases fields with ⟨zero, small⟩ | ⟨large, biased⟩ <;>
          rcases otherFields with ⟨otherZero, otherSmall⟩ | ⟨otherLarge, otherBiased⟩
        · exact zero.trans otherZero.symm
        · omega
        · omega
        · exact BitVec.eq_of_toNat_eq (by omega)
      · rcases fields with ⟨zero, small⟩ | ⟨large, biased⟩ <;>
          rcases otherFields with ⟨otherZero, otherSmall⟩ | ⟨otherLarge, otherBiased⟩ <;>
          exact BitVec.eq_of_toNat_eq (by omega)

theorem parts_injective (x y : Float32) (same : parts x = parts y) : x = y := by
  obtain ⟨⟨bits, valid⟩⟩ := x
  obtain ⟨⟨other, otherValid⟩⟩ := y
  have equal : bits.toBitVec = other.toBitVec := bits_of_unpack _ _ valid otherValid same
  obtain rfl : bits = other := UInt32.toBitVec_inj.mp equal
  rfl

def Zero (x : Float32) : Prop := x = 0 ∨ x = -0

theorem zero_of_parts (x : Float32) (sign : Sign) (zero : parts x = .zero sign) : Zero x := by
  cases sign with
  | positive => exact Or.inl (parts_injective x 0 zero)
  | negative => exact Or.inr (parts_injective x (-0) zero)

theorem magnitude_of_equal {exponent otherExponent : Int} {mantissa other : Nat}
    (equal : (compare exponent otherExponent).then (compare mantissa other) = .eq) :
    mantissa = other ∧ exponent = otherExponent := by
  obtain ⟨exponents, mantissas⟩ := Ordering.then_eq_eq.mp equal
  exact ⟨compare_eq_iff_eq.mp mantissas, compare_eq_iff_eq.mp exponents⟩

theorem parts_of_equal (first second : UnpackedFloat) (equal : first.compare second = some .eq) :
    first = second ∨ ∃ sign other, first = .zero sign ∧ second = .zero other := by
  rcases first with s | _ | s | ⟨s, m, e, p⟩ <;> rcases second with t | _ | t | ⟨t, n, f, q⟩ <;>
    first
    | exact Or.inr ⟨_, _, rfl, rfl⟩
    | cases s <;> cases t <;> first | exact Or.inl rfl | cases equal | skip
    | cases equal
  -- What is left are two finite numbers of one sign.
  · have swapped := Option.some.inj equal
    obtain ⟨mantissas, exponents⟩ := magnitude_of_equal (Ordering.swap_eq_eq.mp swapped)
    exact Or.inl (finite_congr mantissas exponents)
  · obtain ⟨mantissas, exponents⟩ := magnitude_of_equal (Option.some.inj equal)
    exact Or.inl (finite_congr mantissas exponents)

theorem same_of_equal (x y : Float32) (equal : (x == y) = true) : x = y ∨ Zero x ∧ Zero y := by
  rw [beq_parts, UnpackedFloat.beq, beq_iff_eq] at equal
  rcases parts_of_equal _ _ equal with same | ⟨sign, other, first, second⟩
  · exact Or.inl (parts_injective x y same)
  · exact Or.inr ⟨zero_of_parts x sign first, zero_of_parts y other second⟩

theorem equal_zeros (x y : Float32) (first : Zero x) (second : Zero y) : (x == y) = true := by
  rcases first with rfl | rfl <;> rcases second with rfl | rfl <;> rfl

theorem equal_trans (x y z : Float32) (first : (x == y) = true) (second : (y == z) = true) : (x == z) = true := by
  rcases same_of_equal x y first with rfl | ⟨zero, -⟩
  · exact second
  · rcases same_of_equal y z second with rfl | ⟨-, other⟩
    · exact first
    · exact equal_zeros x z zero other

end VehicleSim.Binary32
