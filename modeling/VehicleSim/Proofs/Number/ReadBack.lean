import Mathlib.Algebra.Order.Field.Power
import Mathlib.Tactic.Positivity
import Mathlib.Tactic.Ring
import VehicleSim.Number.Shortest
import VehicleSim.Proofs.Number.Grid

/-!
The shortest decimal of a number lies between the halfways to the neighbours of the number, and it does so for no other
number of the format.
-/

set_option autoImplicit false

namespace VehicleSim

def Decimal.value (decimal : Decimal) : ℚ := decimal.digits * 10 ^ decimal.exponent

namespace Magnitude

variable (value : Magnitude)

def lower : Nat := 4 * value.mantissa - if value.firstOfBinade then 1 else 2

def upper : Nat := 4 * value.mantissa + 2

-- A decimal in this place is rounded to the number. A decimal that is halfway is rounded to an even mantissa.
def ReadsBack (place : ℚ) : Prop :=
  if value.mantissa % 2 = 0 then
    value.lower * 2 ^ value.exponent ≤ 4 * place ∧ 4 * place ≤ value.upper * 2 ^ value.exponent
  else
    value.lower * 2 ^ value.exponent < 4 * place ∧ 4 * place < value.upper * 2 ^ value.exponent

theorem reads_back_within (place : ℚ) (back : value.ReadsBack place) :
    value.lower * 2 ^ value.exponent ≤ 4 * place ∧ 4 * place ≤ value.upper * 2 ^ value.exponent := by
  unfold ReadsBack at back
  split at back
  · exact back
  · exact ⟨back.1.le, back.2.le⟩

theorem zpow_split (base : ℚ) (positive : 0 < base) (power : Int) :
    base ^ power * base ^ (-power).toNat = base ^ power.toNat := by
  rw [← zpow_natCast, ← zpow_natCast, ← zpow_add₀ positive.ne']
  congr 1
  omega

theorem scaled (count decimal : Nat) (binary exponent : Int) :
    ∃ factor : ℚ, 0 < factor ∧
      (count * 2 ^ binary : ℚ) * factor = ((count * (2 ^ binary.toNat * 10 ^ (-exponent).toNat) : Nat) : ℚ) ∧
      (4 * (decimal * 10 ^ exponent) : ℚ) * factor =
        ((decimal * (4 * 2 ^ (-binary).toNat * 10 ^ exponent.toNat) : Nat) : ℚ) := by
  have twos := zpow_split 2 (by norm_num) binary
  have tens := zpow_split 10 (by norm_num) exponent
  refine ⟨2 ^ (-binary).toNat * 10 ^ (-exponent).toNat, by positivity, ?_, ?_⟩
  · push_cast
    rw [← twos]
    ring
  · push_cast
    rw [← tens]
    ring

theorem scaled_le (count decimal : Nat) (binary exponent : Int) :
    (count * 2 ^ binary : ℚ) ≤ 4 * (decimal * 10 ^ exponent) ↔
      count * (2 ^ binary.toNat * 10 ^ (-exponent).toNat) ≤
        decimal * (4 * 2 ^ (-binary).toNat * 10 ^ exponent.toNat) := by
  obtain ⟨factor, positive, first, second⟩ := scaled count decimal binary exponent
  rw [← mul_le_mul_iff_left₀ positive, first, second, Nat.cast_le]

theorem scaled_ge (count decimal : Nat) (binary exponent : Int) :
    (4 * (decimal * 10 ^ exponent) : ℚ) ≤ count * 2 ^ binary ↔
      decimal * (4 * 2 ^ (-binary).toNat * 10 ^ exponent.toNat) ≤
        count * (2 ^ binary.toNat * 10 ^ (-exponent).toNat) := by
  obtain ⟨factor, positive, first, second⟩ := scaled count decimal binary exponent
  rw [← mul_le_mul_iff_left₀ positive, first, second, Nat.cast_le]

theorem grid_found (exponent : Int) (decimal : Decimal) (found : value.onGrid? exponent = some decimal) :
    0 < decimal.digits ∧ value.ReadsBack decimal.value := by
  unfold onGrid? at found
  obtain ⟨digits, first, rfl⟩ := Option.map_eq_some_iff.mp found
  have inside := List.find?_some first
  rw [Bool.and_eq_true, decide_eq_true_eq] at inside
  refine ⟨Nat.pos_of_ne_zero inside.1, ?_⟩
  have inside := inside.2
  unfold ReadsBack Decimal.value
  dsimp only at inside ⊢
  split at inside
  · rename_i even
    rw [Bool.and_eq_true, decide_eq_true_eq, decide_eq_true_eq] at inside
    rw [if_pos even]
    exact ⟨(scaled_le _ _ _ _).mpr inside.1, (scaled_ge _ _ _ _).mpr inside.2⟩
  · rename_i odd
    rw [Bool.and_eq_true, decide_eq_true_eq, decide_eq_true_eq] at inside
    rw [if_neg odd, ← not_le, ← not_le, scaled_ge, scaled_le, not_le, not_le]
    exact inside

-- A grid that is finer than a quarter of a step has a decimal near every number, just below it if need be.
theorem fine_grid (exponent : Int) (positive : 0 < value.mantissa)
    (fine : 4 * 2 ^ (-value.exponent).toNat * 10 ^ exponent.toNat < 2 ^ value.exponent.toNat * 10 ^ (-exponent).toNat) :
    (value.onGrid? exponent).isSome := by
  unfold onGrid?
  rw [Option.isSome_map, List.find?_isSome]
  dsimp only
  generalize scaleEq : Nat.pow 2 value.exponent.toNat * Nat.pow 10 (-exponent).toNat = scale
  generalize unitEq : 4 * Nat.pow 2 (-value.exponent).toNat * Nat.pow 10 exponent.toNat = unit
  have finer : unit < scale := by
    rw [← scaleEq, ← unitEq]
    exact fine
  have unitPositive : 0 < unit := by
    rw [← unitEq]
    exact Nat.mul_pos (Nat.mul_pos (by decide) (Nat.pow_pos (by decide))) (Nat.pow_pos (by decide))
  have below := Nat.div_add_mod (4 * value.mantissa * scale) unit
  have gap := Nat.mod_lt (4 * value.mantissa * scale) unitPositive
  generalize 4 * value.mantissa * scale / unit = decimal at below
  rw [Nat.mul_comm unit] at below
  have whole : 4 * scale ≤ 4 * value.mantissa * scale := Nat.mul_le_mul_right scale (by omega)
  have some : decimal ≠ 0 := by
    rintro rfl
    omega
  have lowered : (4 * value.mantissa - 1) * scale = 4 * value.mantissa * scale - scale := by
    rw [Nat.sub_mul, Nat.one_mul]
  have raised : (4 * value.mantissa + 2) * scale = 4 * value.mantissa * scale + 2 * scale := Nat.add_mul _ _ _
  have least : (4 * value.mantissa - if value.firstOfBinade then 1 else 2) * scale ≤ (4 * value.mantissa - 1) * scale := by
    apply Nat.mul_le_mul_right
    split <;> omega
  have within : (4 * value.mantissa - if value.firstOfBinade then 1 else 2) * scale < decimal * unit ∧
      decimal * unit < (4 * value.mantissa + 2) * scale := by omega
  refine ⟨decimal, ?_, ?_⟩
  · split <;> simp
  · rw [Bool.and_eq_true, decide_eq_true_eq]
    refine ⟨some, ?_⟩
    split <;> rw [Bool.and_eq_true, decide_eq_true_eq, decide_eq_true_eq]
    · exact ⟨within.1.le, within.2.le⟩
    · exact within

structure Stored : Prop where
  grid : (⟨value.mantissa, value.exponent⟩ : Binary32.Magnitude).OnGrid
  binade : value.firstOfBinade = (value.mantissa = 0x800000 && -149 < value.exponent)

theorem shortest_reads_back (stored : value.Stored) :
    0 < value.shortest.digits ∧ value.ReadsBack value.shortest.value := by
  have least : -149 ≤ value.exponent := stored.grid.least
  have finest : (value.onGrid? (39 - (85 : Nat))).isSome := by
    refine value.fine_grid _ stored.grid.positive ?_
    change 4 * 2 ^ (-value.exponent).toNat * 10 ^ 0 < 2 ^ value.exponent.toNat * 10 ^ 46
    calc 4 * 2 ^ (-value.exponent).toNat * 10 ^ 0 = 4 * 2 ^ (-value.exponent).toNat := Nat.mul_one _
      _ ≤ 4 * 2 ^ 149 := Nat.mul_le_mul_left 4 (Nat.pow_le_pow_right Nat.two_pos (by omega))
      _ < 10 ^ 46 := by decide
      _ ≤ 2 ^ value.exponent.toNat * 10 ^ 46 := Nat.le_mul_of_pos_left _ (Nat.two_pow_pos _)
  have found : ((List.range 86).findSome? fun (below : Nat) => value.onGrid? (39 - below)).isSome :=
    List.findSome?_isSome_iff.mpr ⟨85, by simp, finest⟩
  obtain ⟨decimal, first⟩ := Option.isSome_iff_exists.mp found
  obtain ⟨below, -, chosen⟩ := List.exists_of_findSome?_eq_some first
  rw [shortest, first, Option.getD_some]
  exact value.grid_found _ _ chosen

-- The next number up begins where this one ends, and only one of the two has an even mantissa.
theorem stored_apart (first second : Magnitude) (stored : first.Stored) (also : second.Stored) (steps : Nat)
    (apart : second.exponent = first.exponent + steps)
    (less : first.exponent = second.exponent → first.mantissa < second.mantissa) :
    first.upper ≤ second.lower * 2 ^ steps ∧
      (first.mantissa % 2 = 0 → second.mantissa % 2 = 0 → first.upper < second.lower * 2 ^ steps) := by
  have short : first.mantissa < 2 ^ 24 := stored.grid.short
  have least : -149 ≤ first.exponent := stored.grid.least
  have full : 2 ^ 23 ≤ second.mantissa ∨ second.exponent = -149 := also.grid.full
  unfold upper
  cases steps with
  | zero =>
      have same := less (by omega)
      rw [Nat.pow_zero, Nat.mul_one, lower]
      split <;> omega
  | succ steps =>
      have low : 2 ^ 25 - 1 ≤ second.lower := by
        rw [lower, also.binade]
        split <;> rename_i next <;> simp only [Bool.and_eq_true, decide_eq_true_eq] at next <;> omega
      have doubled : second.lower * 2 ≤ second.lower * 2 ^ (steps + 1) := by
        rw [Nat.pow_succ']
        exact Nat.mul_le_mul_left _ (Nat.le_mul_of_pos_right 2 (Nat.two_pow_pos steps))
      omega

theorem reads_back_one_way (first second : Magnitude) (stored : first.Stored) (also : second.Stored) (place : ℚ)
    (back : first.ReadsBack place) (again : second.ReadsBack place) (steps : Nat)
    (apart : second.exponent = first.exponent + steps)
    (less : first.exponent = second.exponent → first.mantissa < second.mantissa) : False := by
  obtain ⟨above, strictly⟩ := stored_apart first second stored also steps apart less
  have positive : (0 : ℚ) < 2 ^ first.exponent := by positivity
  have stepped : (2 : ℚ) ^ second.exponent = 2 ^ steps * 2 ^ first.exponent := by
    rw [apart, zpow_add₀ (by norm_num), zpow_natCast, mul_comm]
  have carried : (second.lower : ℚ) * 2 ^ second.exponent = ((second.lower * 2 ^ steps : Nat) : ℚ) * 2 ^ first.exponent := by
    rw [stepped]
    push_cast
    ring
  have low := second.reads_back_within place again
  have high := first.reads_back_within place back
  rw [carried] at low
  have reached : second.lower * 2 ^ steps ≤ first.upper :=
    Nat.cast_le.mp ((mul_le_mul_iff_left₀ positive).mp (low.1.trans high.2))
  have met : second.lower * 2 ^ steps = first.upper := Nat.le_antisymm reached above
  have halfway : 4 * place = first.upper * 2 ^ first.exponent := le_antisymm high.2 (met ▸ low.1)
  have even : first.mantissa % 2 = 0 := by
    by_contra odd
    rw [ReadsBack, if_neg odd] at back
    exact absurd halfway back.2.ne
  have alsoEven : second.mantissa % 2 = 0 := by
    by_contra odd
    rw [ReadsBack, if_neg odd, carried, met] at again
    exact absurd halfway again.1.ne'
  exact absurd met (strictly even alsoEven).ne'

theorem reads_back_unique (first second : Magnitude) (stored : first.Stored) (also : second.Stored) (place : ℚ)
    (back : first.ReadsBack place) (again : second.ReadsBack place) :
    first.mantissa = second.mantissa ∧ first.exponent = second.exponent := by
  have forth := reads_back_one_way first second stored also place back again
  have turned := reads_back_one_way second first also stored place again back
  rcases lt_trichotomy first.exponent second.exponent with below | same | above
  · obtain ⟨steps, apart⟩ := Int.le.dest below.le
    exact (forth steps apart.symm (by omega)).elim
  · rcases lt_trichotomy first.mantissa second.mantissa with less | equal | more
    · exact (forth 0 (by omega) fun _ => less).elim
    · exact ⟨equal, same⟩
    · exact (turned 0 (by omega) fun _ => more).elim
  · obtain ⟨steps, apart⟩ := Int.le.dest above.le
    exact (turned steps apart.symm (by omega)).elim

theorem zero_not_back (stored : value.Stored) : ¬ value.ReadsBack 0 := by
  intro back
  have positive : 0 < value.mantissa := stored.grid.positive
  have low := (value.reads_back_within 0 back).1
  have some : 0 < value.lower := by
    rw [lower]
    split <;> omega
  have above : (0 : ℚ) < value.lower * 2 ^ value.exponent := mul_pos (Nat.cast_pos.mpr some) (by positivity)
  rw [mul_zero] at low
  exact absurd above (not_lt.mpr low)

end Magnitude

end VehicleSim
