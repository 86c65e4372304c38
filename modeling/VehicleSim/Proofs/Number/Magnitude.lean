import VehicleSim.Proofs.Number.Order

/-!
How far a binary32 number is from zero. Equal numbers are equally far from it, and adding a number to zero gives
that number.
-/

set_option autoImplicit false

namespace VehicleSim.Binary32

open Float.Model (UnpackedFloat)
open Float.Model.UnpackedFloat

def Bounded (most value : Float32) : Prop := value.isFinite = true ∧ value.abs ≤ most

instance (most value : Float32) : Decidable (Bounded most value) :=
  inferInstanceAs (Decidable (value.isFinite = true ∧ value.abs ≤ most))

theorem isfinite_parts (x : Float32) : x.isFinite = (parts x).isFinite := rfl

theorem packed_abs (value : UnpackedFloat) (packed : Packed value) : Packed value.abs := by
  cases value with
  | finite sign mantissa exponent positive => exact packed
  | _ => trivial

theorem parts_abs (x : Float32) : parts x.abs = (parts x).abs := unpack_pack _ (packed_abs _ (parts_packed x))

theorem abs_number (x : Float32) (finite : x.isFinite = true) : x.abs.isNaN = false := by
  rw [isfinite_parts] at finite
  rw [isnan_parts, parts_abs]
  cases read : parts x with
  | notANumber =>
      rw [read] at finite
      cases finite
  | _ => rfl

theorem not_le_of_lt (x y : Float32) (lt : x < y) : ¬ y ≤ x := by
  rw [lt_parts, UnpackedFloat.lt, beq_iff_eq] at lt
  rw [le_parts, UnpackedFloat.le, compare_swap, lt]
  decide

theorem bounded_iff (most value : Float32) (number : most.isNaN = false) :
    Bounded most value ↔ value.isFinite = true ∧ ¬ most < value.abs := by
  refine and_congr_right fun finite => ⟨fun near far => not_le_of_lt most value.abs far near, ?_⟩
  exact le_of_not_lt value.abs most (abs_number value finite) number

theorem abs_of_equal (first second : UnpackedFloat) (same : first.compare second = some .eq) :
    first.abs = second.abs := by
  cases first with
  | notANumber => cases same
  | infinity s =>
      cases second with
      | infinity t => rfl
      | _ => cases s <;> cases same
  | zero s =>
      cases second with
      | zero t => rfl
      | notANumber => cases same
      | infinity t | finite t => cases t <;> cases same
  | finite s m e positive =>
      cases second with
      | notANumber => cases same
      | infinity t => cases s <;> cases t <;> cases same
      | zero t => cases s <;> cases same
      | finite t n f alsoPositive =>
          have equal (exact : (compare e f).then (compare m n) = .eq) : e = f ∧ m = n := by
            rw [Ordering.then_eq_eq] at exact
            exact ⟨Int.compare_eq_eq.mp exact.1, Nat.compare_eq_eq.mp exact.2⟩
          have both : e = f ∧ m = n := by
            cases s <;> cases t
            · exact equal (Ordering.swap_eq_eq.mp (Option.some.inj same))
            · cases same
            · cases same
            · exact equal (Option.some.inj same)
          obtain ⟨rfl, rfl⟩ := both
          rfl

theorem is_finite_abs (value : UnpackedFloat) : value.abs.isFinite = value.isFinite := by
  cases value <;> rfl

theorem bounded_of_beq (most x y : Float32) (same : (x == y) = true) (bounded : Bounded most y) : Bounded most x := by
  rw [beq_parts, UnpackedFloat.beq, beq_iff_eq] at same
  have far := abs_of_equal _ _ same
  have finite : (parts x).isFinite = (parts y).isFinite := by
    rw [← is_finite_abs, far, is_finite_abs]
  refine ⟨finite.trans bounded.1, ?_⟩
  have near := bounded.2
  rw [le_parts, parts_abs] at near ⊢
  rwa [far]

theorem zero_add_same (x : Float32) : SameNumber (0 + x) x := by
  have packed := parts_packed x
  have sum : parts (0 + x) =
      unpack .binary32 (pack .binary32 (UnpackedFloat.add .binary32 (.zero .positive) (parts x))) := by
    rw [parts_add, parts_zero]
  cases read : parts x with
  | zero sign =>
      rw [read] at sum
      refine Or.inl ?_
      rw [beq_parts, read, sum]
      cases sign <;> rfl
  | _ =>
      rw [read] at sum packed
      have kept := sum.trans (unpack_pack _ packed)
      exact same_number_of_parts _ _ (kept.trans read.symm)

end VehicleSim.Binary32
