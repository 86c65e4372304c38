import Mathlib

/-!
Reciprocals on the grid of binary32 magnitudes, in integers. A magnitude is a mantissa below `2 ^ 24` and
an exponent; a reciprocal is off by at most half a unit of its own exponent.
-/

set_option autoImplicit false

namespace VehicleSim.Binary32

structure Magnitude where
  mantissa : Nat
  exponent : Int
deriving DecidableEq

-- A mantissa has its full length, or the exponent is the least one.
structure Magnitude.OnGrid (value : Magnitude) : Prop where
  positive : 0 < value.mantissa
  short : value.mantissa < 2 ^ 24
  least : -149 ≤ value.exponent
  full : 2 ^ 23 ≤ value.mantissa ∨ value.exponent = -149

structure Nearest (source target power : Nat) : Prop where
  notAbove : 2 * (source * target) ≤ 2 * power + source
  notBelow : 2 * power ≤ 2 * (source * target) + source

-- `inverse` is one over `value`, up to half a unit.
def IsReciprocal (value inverse : Magnitude) : Prop :=
  ∃ k : Nat, (k : Int) = -(value.exponent + inverse.exponent) ∧ Nearest value.mantissa inverse.mantissa (2 ^ k)

theorem exact_at_boundary (source k : Nat) (positive : 0 < source) (short : source < 2 ^ 24)
    (near : Nearest source (2 ^ 23) (2 ^ k)) : 2 ^ k = 2 ^ 23 * source := by
  obtain ⟨notAbove, notBelow⟩ := near
  have large : 23 ≤ k := by
    by_contra small
    have bound : 2 ^ k ≤ 2 ^ 22 := Nat.pow_le_pow_right (by omega) (by omega)
    omega
  obtain ⟨rest, rfl⟩ := Nat.exists_eq_add_of_le large
  rw [Nat.pow_add] at notAbove notBelow ⊢
  have same : 2 ^ rest = source := by omega
  rw [same]

-- Two mantissas at different exponents are never both near one reciprocal: even where the exponent changes
-- there is a full unit of the smaller one between them, and the larger one is exact.
theorem nearest_same_exponent (source upper lower k d : Nat) (positive : 0 < source) (short : source < 2 ^ 24)
    (full : 2 ^ 23 ≤ upper) (lowerShort : lower < 2 ^ 24) (near : Nearest source upper (2 ^ k))
    (alsoNear : Nearest source lower (2 ^ (k + d + 1))) : False := by
  have scale : 2 ^ (k + d + 1) = 2 ^ k * 2 ^ (d + 1) := by rw [Nat.add_assoc, Nat.pow_add]
  rw [scale] at alsoNear
  have scaled : 2 * (source * upper) * 2 ^ (d + 1) ≤ (2 * 2 ^ k + source) * 2 ^ (d + 1) :=
    Nat.mul_le_mul_right _ near.notAbove
  have apart : source * (2 * upper * 2 ^ (d + 1)) ≤ source * (2 * lower + 1 + 2 ^ (d + 1)) := by
    have below := alsoNear.notBelow
    linarith
  have close : 2 * upper * 2 ^ (d + 1) ≤ 2 * lower + 1 + 2 ^ (d + 1) := Nat.le_of_mul_le_mul_left apart positive
  cases d with
  | succ d =>
      have large : 2 ^ 2 ≤ 2 ^ (d + 1 + 1) := Nat.pow_le_pow_right Nat.two_pos (by omega)
      nlinarith
  | zero =>
      have boundary : upper = 2 ^ 23 := by omega
      have last : lower = 2 ^ 24 - 1 := by omega
      subst boundary
      have exact := exact_at_boundary source k positive short near
      have below := alsoNear.notBelow
      rw [exact, last] at below
      omega

theorem reciprocal_same_exponent (value first second : Magnitude) (source : value.OnGrid) (firstGrid : first.OnGrid)
    (secondGrid : second.OnGrid) (near : IsReciprocal value first) (alsoNear : IsReciprocal value second) :
    first.exponent = second.exponent := by
  have never : ∀ upper lower : Magnitude, upper.OnGrid → lower.OnGrid → IsReciprocal value upper →
      IsReciprocal value lower → ¬ lower.exponent < upper.exponent := by
    rintro upper lower upperGrid lowerGrid ⟨k, kSum, nearUpper⟩ ⟨l, lSum, nearLower⟩ apart
    have full : 2 ^ 23 ≤ upper.mantissa := upperGrid.full.resolve_right fun least => by
      have bound := lowerGrid.least
      omega
    obtain ⟨d, rfl⟩ : ∃ d, l = k + d + 1 := ⟨l - k - 1, by omega⟩
    exact nearest_same_exponent value.mantissa upper.mantissa lower.mantissa k d source.positive source.short full
      lowerGrid.short nearUpper nearLower
  have notBelow := never first second firstGrid secondGrid near alsoNear
  have notAbove := never second first secondGrid firstGrid alsoNear near
  omega

def IsSharpReciprocal (value inverse : Magnitude) : Prop :=
  ∃ k : Nat, (k : Int) = -(value.exponent + inverse.exponent) ∧
    2 * (value.mantissa * inverse.mantissa) < 2 * 2 ^ k + value.mantissa ∧
    2 * 2 ^ k < 2 * (value.mantissa * inverse.mantissa) + value.mantissa

theorem sharp_is_reciprocal (value inverse : Magnitude) (sharp : IsSharpReciprocal value inverse) :
    IsReciprocal value inverse := by
  obtain ⟨k, sum, above, below⟩ := sharp
  exact ⟨k, sum, Nat.le_of_lt above, Nat.le_of_lt below⟩

theorem sharp_reciprocal_unique (value first second : Magnitude) (source : value.OnGrid) (firstGrid : first.OnGrid)
    (secondGrid : second.OnGrid) (sharp : IsSharpReciprocal value first) (near : IsReciprocal value second) :
    second = first := by
  have same := reciprocal_same_exponent value first second source firstGrid secondGrid
    (sharp_is_reciprocal value first sharp) near
  obtain ⟨k, kSum, above, below⟩ := sharp
  obtain ⟨l, lSum, notAbove, notBelow⟩ := near
  obtain rfl : l = k := by omega
  have mantissas : second.mantissa = first.mantissa := by
    have positive := source.positive
    rcases Nat.lt_trichotomy second.mantissa first.mantissa with less | equal | more
    · have step : value.mantissa * (second.mantissa + 1) ≤ value.mantissa * first.mantissa :=
        Nat.mul_le_mul_left _ less
      rw [Nat.mul_succ] at step
      omega
    · exact equal
    · have step : value.mantissa * (first.mantissa + 1) ≤ value.mantissa * second.mantissa :=
        Nat.mul_le_mul_left _ more
      rw [Nat.mul_succ] at step
      omega
  obtain ⟨mantissa, exponent⟩ := second
  obtain ⟨otherMantissa, otherExponent⟩ := first
  simp only at mantissas same
  rw [mantissas, same]

theorem power_odd_factor (odd k : Nat) (factor : (2 * odd + 1) ∣ 2 ^ k) : odd = 0 := by
  obtain ⟨i, _, power⟩ := (Nat.dvd_prime_pow Nat.prime_two).mp factor
  cases i with
  | zero => omega
  | succ i =>
      rw [Nat.pow_succ] at power
      omega

-- A reciprocal of a shorter mantissa can be turned back: its error is then less than half a unit of the
-- value it came from.
theorem reciprocal_back (value inverse : Magnitude) (valueGrid : value.OnGrid)
    (near : IsReciprocal value inverse) (shorter : value.mantissa ≤ inverse.mantissa) :
    IsSharpReciprocal inverse value := by
  obtain ⟨k, sum, notAbove, notBelow⟩ := near
  have positive := valueGrid.positive
  refine ⟨k, by omega, ?_⟩
  rw [Nat.mul_comm inverse.mantissa]
  rcases Nat.lt_or_eq_of_le shorter with less | equal
  · omega
  · rw [← equal] at notAbove notBelow ⊢
    -- A tie would make a power of two of two neighbours, one of them odd.
    have notTieAbove : 2 * (value.mantissa * value.mantissa) ≠ 2 * 2 ^ k + value.mantissa := by
      intro tie
      obtain ⟨less, grows⟩ : ∃ less, value.mantissa = less + 1 := ⟨value.mantissa - 1, by omega⟩
      have product : (2 * less + 1) * (less + 1) = 2 ^ (k + 1) := by
        rw [grows] at tie
        rw [Nat.pow_succ]
        linarith
      have one := power_odd_factor less (k + 1) ⟨less + 1, product.symm⟩
      rw [one, Nat.pow_succ] at product
      omega
    have notTieBelow : 2 * 2 ^ k ≠ 2 * (value.mantissa * value.mantissa) + value.mantissa := by
      intro tie
      have product : (2 * value.mantissa + 1) * value.mantissa = 2 ^ (k + 1) := by
        rw [Nat.pow_succ]
        linarith
      have none := power_odd_factor value.mantissa (k + 1) ⟨value.mantissa, product.symm⟩
      omega
    omega

theorem no_tiny_reciprocal (value inverse : Magnitude) (near : IsReciprocal value inverse)
    (valueShort : value.mantissa < 2 ^ 24) (inverseShort : inverse.mantissa < 2 ^ 24)
    (valueTiny : value.exponent = -149) (inverseTiny : inverse.exponent = -149) : False := by
  obtain ⟨k, sum, _, notBelow⟩ := near
  have power : k = 298 := by omega
  have product : value.mantissa * inverse.mantissa ≤ 2 ^ 24 * 2 ^ 24 :=
    Nat.mul_le_mul (Nat.le_of_lt valueShort) (Nat.le_of_lt inverseShort)
  rw [power] at notBelow
  omega

theorem mantissa_not_twice_shorter (value inverse back : Magnitude) (valueGrid : value.OnGrid)
    (inverseGrid : inverse.OnGrid) (backGrid : back.OnGrid) (near : IsReciprocal value inverse)
    (nearBack : IsReciprocal inverse back) (first : inverse.mantissa < value.mantissa)
    (second : back.mantissa < inverse.mantissa) : False := by
  have full : 2 ^ 23 ≤ inverse.mantissa := by
    rcases inverseGrid.full with full | tiny
    · exact full
    · rcases backGrid.full with backFull | backTiny
      · omega
      · exact (no_tiny_reciprocal inverse back nearBack inverseGrid.short backGrid.short tiny backTiny).elim
  obtain ⟨k, kSum, notAbove, notBelow⟩ := near
  obtain ⟨l, lSum, backNotAbove, backNotBelow⟩ := nearBack
  have valueShort := valueGrid.short
  have positive := backGrid.positive
  rw [Nat.mul_comm value.mantissa] at notAbove notBelow
  rcases Nat.lt_trichotomy k l with smaller | equal | larger
  · -- The way back ends at a smaller exponent, where it would need a longer mantissa.
    obtain ⟨d, rfl⟩ : ∃ d, l = k + d + 1 := ⟨l - k - 1, by omega⟩
    have scale : 2 ^ (k + d + 1) = 2 ^ k * 2 ^ (d + 1) := by rw [Nat.add_assoc, Nat.pow_add]
    rw [scale] at backNotAbove backNotBelow
    have doubled : 2 ≤ 2 ^ (d + 1) := by
      rw [Nat.pow_succ]
      have one := Nat.one_le_two_pow (n := d)
      omega
    have scaled : 2 * (inverse.mantissa * value.mantissa) * 2 ^ (d + 1) ≤ (2 * 2 ^ k + value.mantissa) * 2 ^ (d + 1) :=
      Nat.mul_le_mul_right _ notAbove
    have error : value.mantissa * 2 ^ (d + 1) ≤ (2 * inverse.mantissa - 1) * 2 ^ (d + 1) :=
      Nat.mul_le_mul_right _ (by omega)
    have spread : inverse.mantissa * (2 * value.mantissa * 2 ^ (d + 1)) <
        inverse.mantissa * (2 * back.mantissa + 1 + 2 * 2 ^ (d + 1)) := by
      have lost : (2 * inverse.mantissa - 1) * 2 ^ (d + 1) + 2 ^ (d + 1) = 2 * inverse.mantissa * 2 ^ (d + 1) := by
        rw [← Nat.succ_mul]
        congr 1
        omega
      linarith
    have close := Nat.lt_of_mul_lt_mul_left spread
    have gap : (back.mantissa + 2) * 2 ^ (d + 1) ≤ value.mantissa * 2 ^ (d + 1) :=
      Nat.mul_le_mul_right _ (by omega)
    nlinarith
  · subst equal
    obtain ⟨rest, split⟩ : ∃ rest, value.mantissa = back.mantissa + 2 + rest :=
      ⟨value.mantissa - back.mantissa - 2, by omega⟩
    rw [split] at notAbove
    nlinarith
  · -- The way back ends at a larger exponent, on its first mantissa, so the reciprocal is exact.
    obtain ⟨d, rfl⟩ : ∃ d, k = l + d + 1 := ⟨k - l - 1, by omega⟩
    have scale : 2 ^ (l + d + 1) = 2 ^ l * 2 ^ (d + 1) := by rw [Nat.add_assoc, Nat.pow_add]
    rw [scale] at notAbove notBelow
    have backFull : 2 ^ 23 ≤ back.mantissa := backGrid.full.resolve_right fun tiny => by
      have least := valueGrid.least
      omega
    have scaled : 2 * (inverse.mantissa * back.mantissa) * 2 ^ (d + 1) ≤ (2 * 2 ^ l + inverse.mantissa) * 2 ^ (d + 1) :=
      Nat.mul_le_mul_right _ backNotAbove
    have spread : inverse.mantissa * (2 * back.mantissa * 2 ^ (d + 1)) <
        inverse.mantissa * (2 * value.mantissa + 2 + 2 ^ (d + 1)) := by linarith
    have close := Nat.lt_of_mul_lt_mul_left spread
    cases d with
    | succ d =>
        have large : 2 ^ 2 ≤ 2 ^ (d + 1 + 1) := Nat.pow_le_pow_right Nat.two_pos (by omega)
        nlinarith
    | zero =>
        have boundary : back.mantissa = 2 ^ 23 := by omega
        have exact := exact_at_boundary inverse.mantissa l inverseGrid.positive inverseGrid.short
          (boundary ▸ ⟨backNotAbove, backNotBelow⟩)
        obtain ⟨i, _, power⟩ := (Nat.dvd_prime_pow Nat.prime_two).mp ⟨2 ^ 23, exact.trans (Nat.mul_comm _ _)⟩
        have above : 23 < i := (Nat.pow_lt_pow_iff_right Nat.one_lt_two).mp (by omega)
        have below : i < 24 := (Nat.pow_lt_pow_iff_right Nat.one_lt_two).mp (power ▸ inverseGrid.short)
        omega

theorem reciprocal_returns (value inverse back again : Magnitude) (valueGrid : value.OnGrid)
    (inverseGrid : inverse.OnGrid) (backGrid : back.OnGrid) (againGrid : again.OnGrid)
    (near : IsReciprocal value inverse) (nearBack : IsReciprocal inverse back)
    (nearAgain : IsReciprocal back again) : back = value ∨ again = inverse := by
  rcases Nat.lt_or_ge inverse.mantissa value.mantissa with longer | shorter
  · right
    have shorter : inverse.mantissa ≤ back.mantissa := Nat.le_of_not_lt fun second =>
      mantissa_not_twice_shorter value inverse back valueGrid inverseGrid backGrid near nearBack longer second
    exact sharp_reciprocal_unique back inverse again backGrid inverseGrid againGrid
      (reciprocal_back inverse back inverseGrid nearBack shorter) nearAgain
  · left
    exact sharp_reciprocal_unique inverse value back inverseGrid valueGrid backGrid
      (reciprocal_back value inverse valueGrid near shorter) nearBack

end VehicleSim.Binary32
