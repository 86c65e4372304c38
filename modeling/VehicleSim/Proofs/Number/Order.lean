import VehicleSim.Proofs.Number.Reciprocal

/-!
The order of binary32 numbers. What is not a number compares with nothing; numbers are in a total order, and so
the bounds of a clamp hold whatever is clamped.
-/

set_option autoImplicit false

namespace VehicleSim.Binary32

open Float.Model (UnpackedFloat)

theorem le_parts (x y : Float32) : x ≤ y ↔ (parts x).le (parts y) = true := by
  change decide (x.toModel ≤ y.toModel) = true ↔ _
  rw [decide_eq_true_iff]
  rfl

theorem lt_parts (x y : Float32) : x < y ↔ (parts x).lt (parts y) = true := by
  change decide (x.toModel < y.toModel) = true ↔ _
  rw [decide_eq_true_iff]
  rfl

theorem compare_numbers (first second : UnpackedFloat) (number : first.isNaN = false) (other : second.isNaN = false) :
    ∃ order, first.compare second = some order := by
  rcases first with s | _ | s | ⟨s, m, e, p⟩ <;> rcases second with t | _ | t | ⟨t, n, f, q⟩ <;>
    first
    | (cases number; done)
    | (cases other; done)
    | cases s <;> cases t <;> exact ⟨_, rfl⟩

theorem numbers_of_le (x y : Float32) (le : x ≤ y) : x.isNaN = false ∧ y.isNaN = false := by
  rw [le_parts] at le
  rw [isnan_parts, isnan_parts]
  cases first : parts x with
  | notANumber =>
      rw [first] at le
      cases le
  | _ =>
      cases second : parts y with
      | notANumber =>
          rw [first, second] at le
          cases le
      | _ => exact ⟨rfl, rfl⟩

theorem le_of_lt (x y : Float32) (lt : x < y) : x ≤ y := by
  rw [lt_parts, UnpackedFloat.lt, beq_iff_eq] at lt
  rw [le_parts, UnpackedFloat.le, lt]
  rfl

theorem le_of_not_lt (x y : Float32) (number : x.isNaN = false) (other : y.isNaN = false) (least : ¬ y < x) :
    x ≤ y := by
  obtain ⟨order, compared⟩ := compare_numbers (parts x) (parts y) number other
  rw [lt_parts, UnpackedFloat.lt, beq_iff_eq, compare_swap, compared] at least
  rw [le_parts, UnpackedFloat.le, compared]
  cases order with
  | gt => exact absurd rfl least
  | _ => rfl

theorem not_lt_self (x : Float32) : ¬ x < x := by
  rw [lt_parts, UnpackedFloat.lt, beq_iff_eq]
  intro lt
  have swapped := compare_swap (parts x) (parts x)
  rw [lt] at swapped
  cases swapped

theorem le_self (x : Float32) (number : x.isNaN = false) : x ≤ x := le_of_not_lt x x number number (not_lt_self x)

theorem equal_self (x : Float32) (number : x.isNaN = false) : (x == x) = true := by
  rcases same_number_of_parts x x rfl with same | ⟨none, -⟩
  · exact same
  · rw [number] at none
    cases none

theorem positive_of_le (low x : Float32) (positive : 0 < low) (le : low ≤ x) : 0 < x := by
  rw [lt_parts, parts_zero] at positive ⊢
  rw [le_parts] at le
  generalize parts low = least at positive le
  generalize parts x = value at le ⊢
  rcases least with s | _ | s | ⟨s, m, e, p⟩ <;> rcases value with t | _ | t | ⟨t, n, f, q⟩ <;>
    first
    | cases positive
    | cases le
    | cases s <;> cases t <;> first | rfl | (cases le; done) | cases positive

def AtLeast (low value : Float32) : Prop := low ≤ value ∧ value.isNaN = false

def Within (low high value : Float32) : Prop := low ≤ value ∧ value ≤ high ∧ value.isNaN = false

instance (low value : Float32) : Decidable (AtLeast low value) :=
  inferInstanceAs (Decidable (low ≤ value ∧ value.isNaN = false))

instance (low high value : Float32) : Decidable (Within low high value) :=
  inferInstanceAs (Decidable (low ≤ value ∧ value ≤ high ∧ value.isNaN = false))

theorem max_at_least (value low : Float32) (number : low.isNaN = false) : AtLeast low (Scalar.max value low) := by
  change AtLeast low (if value.isNaN then low else if value < low then low else value)
  cases notNumber : value.isNaN with
  | true => exact ⟨le_self low number, number⟩
  | false =>
      rw [if_neg Bool.false_ne_true]
      split
      · exact ⟨le_self low number, number⟩
      · rename_i least
        exact ⟨le_of_not_lt low value number notNumber least, notNumber⟩

theorem min_at_most (value high : Float32) (number : high.isNaN = false) : Scalar.min value high ≤ high := by
  change (if value.isNaN then high else if high < value then high else value) ≤ high
  cases notNumber : value.isNaN with
  | true => exact le_self high number
  | false =>
      rw [if_neg Bool.false_ne_true]
      split
      · exact le_self high number
      · rename_i most
        exact le_of_not_lt value high notNumber number most

theorem clamp_within (low value high : Float32) (ordered : low ≤ high) :
    Within low high (Scalar.clampInRange low value high) := by
  obtain ⟨number, other⟩ := numbers_of_le low high ordered
  have below := min_at_most value high other
  unfold Scalar.clampInRange
  generalize Scalar.min value high = capped at below
  change Within low high (if low.isNaN then capped else if low < capped then capped else low)
  rw [number, if_neg Bool.false_ne_true]
  split
  · rename_i above
    exact ⟨le_of_lt low capped above, below, (numbers_of_le capped high below).1⟩
  · exact ⟨le_self low number, ordered, number⟩

end VehicleSim.Binary32
