import Mathlib.Analysis.SpecialFunctions.Complex.Arg
import Mathlib.Analysis.SpecialFunctions.Trigonometric.Inverse
import VehicleSim.Number.Scalar

/-!
Exact arithmetic: the real numbers as a `Scalar`. Nothing is rounded, everything is a number and nothing is too
large or too small, so what holds here of a definition is what its formulas say.
-/

set_option autoImplicit false

namespace VehicleSim

noncomputable instance : Scalar ℝ where
  toZero := inferInstance
  toOne := inferInstance
  toAdd := inferInstance
  toSub := inferInstance
  toMul := inferInstance
  toDiv := inferInstance
  toNeg := inferInstance
  toLT := inferInstance
  toLE := inferInstance
  toBEq := instBEqOfDecidableEq
  toOfScientific := inferInstance
  decideLt := inferInstance
  decideLe := inferInstance
  sqrt := Real.sqrt
  abs x := |x|
  signum x := if x < 0 then -1 else 1
  isNaN _ := false
  isFinite _ := true
  floorNat x := min ⌊x⌋₊ (UInt64.size - 1)
  ofNat n := n
  atan2 y x := Complex.arg ⟨x, y⟩
  asin := Real.arcsin
  cos := Real.cos
  halfPi := Real.pi / 2
  -- No real number is infinite; nothing exact reaches it.
  infinity := 0
  flush := id

namespace Exact

theorem max_eq (a b : ℝ) : Scalar.max a b = max a b := by
  change (if false = true then b else if a < b then b else a) = max a b
  by_cases less : a < b
  · simp [less, less.le]
  · simp [less, not_lt.mp less]

theorem min_eq (a b : ℝ) : Scalar.min a b = min a b := by
  change (if false = true then b else if b < a then b else a) = min a b
  by_cases less : b < a
  · simp [less, less.le]
  · simp [less, not_lt.mp less]

theorem clamp_eq (low value high : ℝ) : Scalar.clampInRange low value high = max low (min value high) := by
  rw [Scalar.clampInRange, max_eq, min_eq]

theorem hold_eq (value low high : ℝ) (ordered : low ≤ high) :
    Scalar.clamp value low high = max low (min value high) := by
  change (if high < (if value < low then low else value) then high else if value < low then low else value) = _
  by_cases below : value < low
  · rw [if_pos below, if_neg (not_lt.mpr ordered), min_eq_left (below.le.trans ordered), max_eq_left below.le]
  · rw [if_neg below]
    have above : low ≤ value := not_lt.mp below
    by_cases past : high < value
    · rw [if_pos past, min_eq_right past.le, max_eq_right ordered]
    · rw [if_neg past, min_eq_left (not_lt.mp past), max_eq_right above]

end Exact

end VehicleSim
