import VehicleSim.Proofs.Number.Magnitude
import VehicleSim.Proofs.Number.Scale

/-!
Binary32 numbers between powers of two, through the operations. Each operation takes numbers of known extent to a
number of known extent, as long as the format reaches that far; what does not fit it is infinite or zero.
-/

set_option autoImplicit false

namespace VehicleSim.Binary32

open Float.Model Float.Model.UnpackedFloat

def Below (high : Int) : UnpackedFloat → Prop
  | .finite _ mantissa exponent _ => totalExponent mantissa exponent ≤ high
  | .zero _ => True
  | _ => False

def Above (low : Int) : UnpackedFloat → Prop
  | .finite _ mantissa exponent _ => low < totalExponent mantissa exponent
  | .infinity _ => True
  | _ => False

instance (high : Int) (value : UnpackedFloat) : Decidable (Below high value) :=
  match value with
  | .finite _ mantissa exponent _ => inferInstanceAs (Decidable (totalExponent mantissa exponent ≤ high))
  | .zero _ => .isTrue trivial
  | .infinity _ => .isFalse id
  | .notANumber => .isFalse id

instance (low : Int) (value : UnpackedFloat) : Decidable (Above low value) :=
  match value with
  | .finite _ mantissa exponent _ => inferInstanceAs (Decidable (low < totalExponent mantissa exponent))
  | .infinity _ => .isTrue trivial
  | .zero _ => .isFalse id
  | .notANumber => .isFalse id

def Nonnegative : UnpackedFloat → Prop
  | .finite .positive _ _ _ => True
  | .zero .positive => True
  | .infinity .positive => True
  | _ => False

instance (value : UnpackedFloat) : Decidable (Nonnegative value) :=
  match value with
  | .finite .positive _ _ _ => .isTrue trivial
  | .zero .positive => .isTrue trivial
  | .infinity .positive => .isTrue trivial
  | .finite .negative _ _ _ => .isFalse id
  | .zero .negative => .isFalse id
  | .infinity .negative => .isFalse id
  | .notANumber => .isFalse id

def stored (value : UnpackedFloat) : UnpackedFloat := unpack .binary32 (pack .binary32 value)

theorem parts_mul (x y : Float32) : parts (x * y) = stored (UnpackedFloat.mul .binary32 (parts x) (parts y)) := rfl

theorem parts_sum (x y : Float32) : parts (x + y) = stored (UnpackedFloat.add .binary32 (parts x) (parts y)) := rfl

theorem parts_div (x y : Float32) : parts (x / y) = stored (UnpackedFloat.div .binary32 (parts x) (parts y)) := rfl

theorem parts_sqrt (x : Float32) : parts x.sqrt = stored (UnpackedFloat.sqrt .binary32 (parts x)) := rfl

namespace Magnitude

def total (value : Magnitude) : Int := totalExponent value.mantissa value.exponent

theorem OnGrid.bits {value : Magnitude} (grid : value.OnGrid) :
    value.mantissa.log2 ≤ 23 ∧ (value.mantissa.log2 = 23 ∨ value.exponent = -149) := by
  have most : value.mantissa.log2 < 24 := (Nat.log2_lt grid.positive.ne').mpr grid.short
  refine ⟨by omega, grid.full.imp_left fun full => ?_⟩
  have least := (Nat.le_log2 grid.positive.ne').mpr full
  omega

end Magnitude

-- A value that has come of rounding a magnitude with this total exponent.
structure Rounds (sign : Sign) (total : Int) (value : UnpackedFloat) : Prop where
  below : ∀ high, total < high → -148 ≤ high → high ≤ 128 → Below high value
  above : ∀ low, low < total → -148 ≤ low → Above low value
  positive : sign = .positive → Nonnegative value

theorem round_stored (sign : Sign) (mantissa : Nat) (exponent : Int) (accuracy : Accuracy) (total : Int)
    (whole : totalExponent mantissa exponent = total) (enough : exponent ≤ gridExponent total) :
    Rounds sign total (stored (roundWithAccuracy .binary32 sign mantissa exponent accuracy)) := by
  rcases round_scale sign mantissa exponent accuracy total whole enough with
    ⟨rounded, small⟩ | ⟨result, proof, rounded, grid, near, kept⟩
  · have same : stored (.zero sign) = .zero sign := unpack_zero sign
    rw [rounded, same]
    refine ⟨fun _ _ _ _ => trivial, fun low less least => by omega, ?_⟩
    rintro rfl
    trivial
  · rw [rounded, stored]
    by_cases fits : result.exponent ≤ 104
    · rw [unpack_pack_finite sign result grid fits]
      refine ⟨fun high less least _ => ?_, fun low less least => ?_, ?_⟩
      · change totalExponent result.mantissa result.exponent ≤ high
        omega
      · change low < totalExponent result.mantissa result.exponent
        omega
      · rintro rfl
        trivial
    · rw [unpack_pack_overflow sign result.mantissa result.exponent proof (by omega)]
      refine ⟨fun high less least most => ?_, fun _ _ _ => trivial, ?_⟩
      · obtain ⟨_, bits⟩ := grid.bits
        rw [totalExponent] at near
        omega
      · rintro rfl
        trivial

theorem mul_rounds (sign other : Sign) (first second : Magnitude) (grid : first.OnGrid) (also : second.OnGrid) :
    ∃ total, first.total + second.total - 1 ≤ total ∧ total ≤ first.total + second.total ∧
      Rounds (sign * other) total (stored (UnpackedFloat.mul .binary32
        (.finite sign first.mantissa first.exponent grid.positive)
        (.finite other second.mantissa second.exponent also.positive))) := by
  obtain ⟨shorter, longer⟩ := log2_mul first.mantissa second.mantissa grid.positive also.positive
  obtain ⟨_, bits⟩ := grid.bits
  obtain ⟨_, otherBits⟩ := also.bits
  refine ⟨totalExponent (first.mantissa * second.mantissa) (first.exponent + second.exponent), ?_, ?_,
    round_stored _ _ _ _ _ rfl ?_⟩
  · simp only [Magnitude.total, totalExponent]
    omega
  · simp only [Magnitude.total, totalExponent]
    omega
  · rw [gridExponent, totalExponent]
    omega

theorem round_any (sign : Sign) (mantissa : Nat) (exponent : Int) (positive : 0 < mantissa) :
    Rounds sign (totalExponent mantissa exponent) (stored (UnpackedFloat.round .binary32 sign mantissa exponent)) := by
  have grid : Format.binary32.targetExponent (totalExponent mantissa exponent) =
      gridExponent (totalExponent mantissa exponent) := rfl
  simp only [UnpackedFloat.round, decreaseExponent, grid]
  apply round_stored
  · rw [totalExponent, totalExponent, log2_shift mantissa _ positive]
    omega
  · omega

theorem normalize_positive (mantissa : Nat) (exponent : Int) (sign : Sign) (positive : 0 < mantissa) :
    UnpackedFloat.normalize .binary32 mantissa exponent sign =
      UnpackedFloat.round .binary32 .positive mantissa exponent := by
  have above : compare (mantissa : Int) 0 = .gt := Int.compare_eq_gt.mpr (by omega)
  rw [UnpackedFloat.normalize, above]
  rfl

theorem add_rounds (first second : Magnitude) (grid : first.OnGrid) (also : second.OnGrid) (most : Int)
    (below : first.total ≤ most) (alsoBelow : second.total ≤ most) :
    ∃ total, total ≤ most + 1 ∧
      Rounds .positive total (stored (UnpackedFloat.add .binary32
        (.finite .positive first.mantissa first.exponent grid.positive)
        (.finite .positive second.mantissa second.exponent also.positive))) := by
  obtain ⟨least, smaller⟩ : ∃ least, min first.exponent second.exponent = least := ⟨_, rfl⟩
  obtain ⟨places, moved⟩ : ∃ places, (first.exponent - least).toNat = places := ⟨_, rfl⟩
  obtain ⟨others, otherMoved⟩ : ∃ others, (second.exponent - least).toNat = others := ⟨_, rfl⟩
  obtain ⟨bits, room⟩ : ∃ bits, (most - 1 - least).toNat = bits := ⟨_, rfl⟩
  have length := log2_shift first.mantissa places grid.positive
  have otherLength := log2_shift second.mantissa others also.positive
  rw [Magnitude.total, totalExponent] at below alsoBelow
  have some : 0 < first.mantissa <<< places := Nat.shiftLeft_pos_iff.mpr grid.positive
  have otherSome : 0 < second.mantissa <<< others := Nat.shiftLeft_pos_iff.mpr also.positive
  have short := log2_add (first.mantissa <<< places) (second.mantissa <<< others) bits some (by omega)
    ((Nat.log2_lt otherSome.ne').mp (by omega))
  have positive : 0 < first.mantissa <<< places + second.mantissa <<< others := Nat.add_pos_left some _
  have sum : UnpackedFloat.add .binary32 (.finite .positive first.mantissa first.exponent grid.positive)
      (.finite .positive second.mantissa second.exponent also.positive) =
        UnpackedFloat.round .binary32 .positive (first.mantissa <<< places + second.mantissa <<< others) least := by
    rw [← normalize_positive _ least .positive positive, ← moved, ← otherMoved, ← smaller]
    rfl
  refine ⟨_, ?_, sum ▸ round_any .positive _ least positive⟩
  rw [totalExponent]
  omega

theorem sqrt_rounds (value : Magnitude) (grid : value.OnGrid) :
    Rounds .positive ((value.total + 1) / 2) (stored (UnpackedFloat.sqrt .binary32
      (.finite .positive value.mantissa value.exponent grid.positive))) := by
  obtain ⟨target, chosen⟩ : ∃ target, min (value.exponent / 2) (gridExponent ((value.total + 1) / 2)) = target :=
    ⟨_, rfl⟩
  obtain ⟨places, moved⟩ : ∃ places, (value.exponent - 2 * target).toNat = places := ⟨_, rfl⟩
  have root := log2_sqrt (value.mantissa <<< places) (Nat.shiftLeft_pos_iff.mpr grid.positive)
  rw [log2_shift _ _ grid.positive] at root
  have whole : totalExponent (Nat.sqrt (value.mantissa <<< places)) target = (value.total + 1) / 2 := by
    rw [totalExponent, Magnitude.total, totalExponent, root]
    omega
  subst moved
  subst chosen
  exact round_stored .positive _ _ _ _ whole (min_le_right _ _)

theorem div_rounds (sign other : Sign) (first second : Magnitude) (grid : first.OnGrid) (also : second.OnGrid) :
    ∃ total, total ≤ max (first.total - second.total + 1) (-148) ∧
      (-147 ≤ first.total - second.total → first.total - second.total ≤ total) ∧
      Rounds (sign / other) total (stored (UnpackedFloat.div .binary32
        (.finite sign first.mantissa first.exponent grid.positive)
        (.finite other second.mantissa second.exponent also.positive))) := by
  obtain ⟨target, chosen⟩ : ∃ target, min (first.exponent - second.exponent)
      (gridExponent (first.total - second.total)) = target := ⟨_, rfl⟩
  obtain ⟨places, moved⟩ : ∃ places, (first.exponent - second.exponent - target).toNat = places := ⟨_, rfl⟩
  have length := log2_shift first.mantissa places grid.positive
  have quotient : totalExponent (first.mantissa <<< places / second.mantissa) target ≤
        max (first.total - second.total + 1) (-148) ∧
      (-147 ≤ first.total - second.total →
        first.total - second.total ≤ totalExponent (first.mantissa <<< places / second.mantissa) target) ∧
      target ≤ gridExponent (totalExponent (first.mantissa <<< places / second.mantissa) target) := by
    simp only [Magnitude.total, totalExponent, gridExponent] at chosen ⊢
    by_cases none : first.mantissa <<< places / second.mantissa = 0
    · -- The divisor is the longer one, so the target is the least exponent of the grid.
      have below := (Nat.div_eq_zero_iff_lt also.positive).mp none
      have less : (first.mantissa <<< places).log2 ≤ second.mantissa.log2 :=
        (Nat.le_log2 also.positive.ne').mpr
          ((Nat.log2_self_le (Nat.shiftLeft_pos_iff.mpr grid.positive).ne').trans below.le)
      rw [none, Nat.log2_zero]
      omega
    · obtain ⟨shorter, longer⟩ := log2_div (first.mantissa <<< places) second.mantissa also.positive
        (Nat.pos_of_ne_zero none)
      omega
  subst moved
  subst chosen
  exact ⟨_, quotient.1, quotient.2.1, round_stored _ _ _ _ _ rfl quotient.2.2⟩

variable {low high least most : Int}

theorem below_or_above (x : Float32) (number : x.isNaN = false) (bound : Int) :
    Below bound (parts x) ∨ Above bound (parts x) := by
  rw [isnan_parts] at number
  cases read : parts x with
  | notANumber =>
      rw [read] at number
      cases number
  | infinity sign => exact Or.inr trivial
  | zero sign => exact Or.inl trivial
  | finite sign mantissa exponent positive => exact le_or_gt (totalExponent mantissa exponent) bound

theorem below_finite (value : UnpackedFloat) (below : Below high value) : value.isFinite = true := by
  cases value with
  | infinity sign => cases below
  | notANumber => cases below
  | _ => rfl

theorem below_above (value : UnpackedFloat) (below : Below high value) (above : Above low value) : low < high := by
  cases value with
  | finite sign mantissa exponent positive => exact Int.lt_of_lt_of_le above below
  | zero sign => cases above
  | _ => cases below

theorem above_nonzero (x : Float32) (above : Above low (parts x)) : (x == 0) = false := by
  rw [beq_parts, parts_zero]
  cases read : parts x with
  | infinity sign => cases sign <;> rfl
  | finite sign mantissa exponent positive => cases sign <;> rfl
  | _ =>
      rw [read] at above
      cases above

theorem above_format (x : Float32) (above : Above 128 (parts x)) : (parts x).isInf = true := by
  have packed := parts_packed x
  cases read : parts x with
  | infinity sign => rfl
  | finite sign mantissa exponent positive =>
      rw [read] at above packed
      obtain ⟨grid, highest⟩ := packed
      have short := grid.bits.1
      simp only [Above, totalExponent] at above
      dsimp only at short
      omega
  | _ =>
      rw [read] at above
      cases above

theorem number_of_square (x : Float32) (number : (x * x).isNaN = false) : x.isNaN = false := by
  rw [isnan_parts, parts_mul] at number
  rw [isnan_parts]
  cases read : parts x with
  | notANumber =>
      rw [read] at number
      cases number
  | _ => rfl

theorem numbers_of_sum (x y : Float32) (number : (x + y).isNaN = false) : x.isNaN = false ∧ y.isNaN = false := by
  have left (other : UnpackedFloat) : stored (UnpackedFloat.add .binary32 .notANumber other) = .notANumber := by
    cases other <;> exact unpack_nan
  have right (other : UnpackedFloat) : stored (UnpackedFloat.add .binary32 other .notANumber) = .notANumber := by
    cases other <;> exact unpack_nan
  rw [isnan_parts, parts_sum] at number
  rw [isnan_parts, isnan_parts]
  cases first : parts x with
  | notANumber =>
      rw [first, left] at number
      cases number
  | _ =>
      cases second : parts y with
      | notANumber =>
          rw [second, right] at number
          cases number
      | _ => exact ⟨rfl, rfl⟩

theorem square_nonnegative (x : Float32) (number : x.isNaN = false) : Nonnegative (parts (x * x)) := by
  have packed := parts_packed x
  rw [isnan_parts] at number
  rw [parts_mul]
  cases read : parts x with
  | notANumber =>
      rw [read] at number
      cases number
  | infinity sign => cases sign <;> trivial
  | zero sign => cases sign <;> trivial
  | finite sign mantissa exponent positive =>
      rw [read] at packed
      obtain ⟨total, -, -, rounds⟩ := mul_rounds sign sign ⟨mantissa, exponent⟩ ⟨mantissa, exponent⟩ packed.1 packed.1
      exact rounds.positive (by cases sign <;> rfl)

theorem square_below (x : Float32) (below : Below high (parts x)) (small : -149 ≤ 2 * high) (large : 2 * high < 128) :
    Below (2 * high + 1) (parts (x * x)) := by
  have packed := parts_packed x
  rw [parts_mul]
  cases read : parts x with
  | notANumber =>
      rw [read] at below
      cases below
  | infinity sign =>
      rw [read] at below
      cases below
  | zero sign => cases sign <;> trivial
  | finite sign mantissa exponent positive =>
      rw [read] at packed below
      obtain ⟨total, -, short, rounds⟩ :=
        mul_rounds sign sign ⟨mantissa, exponent⟩ ⟨mantissa, exponent⟩ packed.1 packed.1
      have bound : totalExponent mantissa exponent ≤ high := below
      simp only [Magnitude.total] at short
      exact rounds.below (2 * high + 1) (by omega) (by omega) (by omega)

theorem square_above (x : Float32) (above : Above low (parts x)) (large : -148 ≤ 2 * low) :
    Above (2 * low) (parts (x * x)) := by
  have packed := parts_packed x
  rw [parts_mul]
  cases read : parts x with
  | notANumber =>
      rw [read] at above
      cases above
  | infinity sign => cases sign <;> trivial
  | zero sign =>
      rw [read] at above
      cases above
  | finite sign mantissa exponent positive =>
      rw [read] at packed above
      obtain ⟨total, long, -, rounds⟩ :=
        mul_rounds sign sign ⟨mantissa, exponent⟩ ⟨mantissa, exponent⟩ packed.1 packed.1
      have bound : low < totalExponent mantissa exponent := above
      simp only [Magnitude.total] at long
      exact rounds.above (2 * low) (by omega) large

theorem nonnegative_cases (value : UnpackedFloat) (positive : Nonnegative value) :
    value = .zero .positive ∨ value = .infinity .positive ∨
      ∃ mantissa exponent some, value = .finite .positive mantissa exponent some := by
  cases value with
  | notANumber => cases positive
  | infinity sign =>
      cases sign with
      | negative => cases positive
      | positive => exact Or.inr (Or.inl rfl)
  | zero sign =>
      cases sign with
      | negative => cases positive
      | positive => exact Or.inl rfl
  | finite sign mantissa exponent some =>
      cases sign with
      | negative => cases positive
      | positive => exact Or.inr (Or.inr ⟨mantissa, exponent, some, rfl⟩)

theorem below_format (x : Float32) (positive : Nonnegative (parts x)) (bounded : x.isInf = false) :
    Below 128 (parts x) := by
  have number : x.isNaN = false := by
    rw [isnan_parts]
    rcases nonnegative_cases (parts x) positive with read | read | ⟨mantissa, exponent, some, read⟩ <;>
      rw [read] <;> rfl
  refine (below_or_above x number 128).resolve_right fun above => ?_
  rw [isinf_parts, above_format x above] at bounded
  cases bounded

theorem below_wider (value : UnpackedFloat) (below : Below low value) (less : low ≤ high) : Below high value := by
  cases value with
  | finite sign mantissa exponent positive => exact Int.le_trans below less
  | zero sign => trivial
  | _ => cases below

structure SumExtent (first second sum : UnpackedFloat) : Prop where
  positive : Nonnegative sum
  infinite : first.isInf ∨ second.isInf → sum.isInf
  below : ∀ high, Below high first → Below high second → -150 ≤ high → high ≤ 126 → Below (high + 2) sum

theorem sum_extent (x y : Float32) (positive : Nonnegative (parts x)) (also : Nonnegative (parts y)) :
    SumExtent (parts x) (parts y) (parts (x + y)) := by
  have packed := parts_packed x
  have otherPacked := parts_packed y
  rw [parts_sum]
  generalize parts x = first at *
  generalize parts y = second at *
  rcases nonnegative_cases first positive with rfl | rfl | ⟨mantissa, exponent, some, rfl⟩
  · -- Zero adds nothing.
    have same : stored (UnpackedFloat.add .binary32 (.zero .positive) second) = second := by
      rcases nonnegative_cases second also with rfl | rfl | ⟨mantissa, exponent, some, rfl⟩ <;>
        exact unpack_pack _ otherPacked
    rw [same]
    refine ⟨also, fun infinite => infinite.resolve_left (by simp [UnpackedFloat.isInf]), fun high _ below _ _ => ?_⟩
    exact below_wider second below (by omega)
  · have same : stored (UnpackedFloat.add .binary32 (.infinity .positive) second) = .infinity .positive := by
      rcases nonnegative_cases second also with rfl | rfl | ⟨mantissa, exponent, some, rfl⟩ <;>
        exact unpack_infinity .positive
    rw [same]
    exact ⟨trivial, fun _ => rfl, fun high below _ _ _ => below.elim⟩
  · rcases nonnegative_cases second also with rfl | rfl | ⟨other, otherExponent, otherSome, rfl⟩
    · have same : stored (UnpackedFloat.add .binary32 (.finite .positive mantissa exponent some) (.zero .positive)) =
          .finite .positive mantissa exponent some := unpack_pack _ packed
      rw [same]
      refine ⟨trivial, fun infinite => by simp [UnpackedFloat.isInf] at infinite, fun high below _ _ _ => ?_⟩
      exact below_wider (.finite .positive mantissa exponent some) below (by omega)
    · have same : stored (UnpackedFloat.add .binary32 (.finite .positive mantissa exponent some)
          (.infinity .positive)) = .infinity .positive := unpack_infinity .positive
      rw [same]
      exact ⟨trivial, fun _ => rfl, fun high _ below _ _ => below.elim⟩
    · have rounds := add_rounds ⟨mantissa, exponent⟩ ⟨other, otherExponent⟩ packed.1 otherPacked.1
      obtain ⟨_, -, started⟩ := rounds _ (le_max_left _ _) (le_max_right _ _)
      refine ⟨started.positive rfl, fun infinite => by simp [UnpackedFloat.isInf] at infinite,
        fun high below otherBelow small large => ?_⟩
      obtain ⟨total, short, near⟩ := rounds high below otherBelow
      exact near.below (high + 2) (by omega) (by omega) (by omega)

theorem above_of_lt (x y : Float32) (positive : Nonnegative (parts x)) (above : Above low (parts x)) (less : x < y) :
    Above low (parts y) := by
  have packed := parts_packed x
  have otherPacked := parts_packed y
  rw [lt_parts, UnpackedFloat.lt, beq_iff_eq] at less
  rcases nonnegative_cases (parts x) positive with read | read | ⟨mantissa, exponent, some, read⟩
  · rw [read] at above
    cases above
  · rw [read] at less
    cases second : parts y with
    | infinity sign => exact trivial
    | _ =>
        rw [second] at less
        cases less
  · rw [read] at above less packed
    cases second : parts y with
    | infinity sign => exact trivial
    | notANumber =>
        rw [second] at less
        cases less
    | zero sign =>
        rw [second] at less
        cases less
    | finite sign other otherExponent otherSome =>
        rw [second] at less otherPacked
        cases sign with
        | negative => cases less
        | positive =>
            have order := Option.some.inj less
            have bits := packed.1.bits
            have otherBits := otherPacked.1.bits
            have least := packed.1.least
            have far : low < totalExponent mantissa exponent := above
            change low < totalExponent other otherExponent
            rw [totalExponent] at far ⊢
            rw [Ordering.then_eq_lt] at order
            dsimp only at bits otherBits least
            rcases order with higher | ⟨same, longer⟩
            · have raised := Int.compare_eq_lt.mp higher
              omega
            · have equal := Int.compare_eq_eq.mp same
              have grows := Nat.compare_eq_lt.mp longer
              have length : mantissa.log2 ≤ other.log2 :=
                (Nat.le_log2 otherSome.ne').mpr ((Nat.log2_self_le some.ne').trans grows.le)
              omega

theorem lt_of_infinite (x y : Float32) (finite : Below high (parts x)) (positive : Nonnegative (parts y))
    (infinite : (parts y).isInf = true) : x < y := by
  rw [lt_parts, UnpackedFloat.lt, beq_iff_eq]
  rcases nonnegative_cases (parts y) positive with read | read | ⟨mantissa, exponent, some, read⟩
  · rw [read] at infinite
    cases infinite
  · rw [read]
    cases first : parts x with
    | finite sign mantissa exponent some => cases sign <;> rfl
    | zero sign => cases sign <;> rfl
    | _ =>
        rw [first] at finite
        cases finite
  · rw [read] at infinite
    cases infinite

theorem root_below (x : Float32) (positive : Nonnegative (parts x)) (below : Below (2 * high) (parts x))
    (small : -149 ≤ high) (large : high < 128) : Below (high + 1) (parts x.sqrt) := by
  have packed := parts_packed x
  rw [parts_sqrt]
  rcases nonnegative_cases (parts x) positive with read | read | ⟨mantissa, exponent, some, read⟩ <;>
    rw [read] at below packed ⊢
  · trivial
  · cases below
  · have bound : totalExponent mantissa exponent ≤ 2 * high := below
    have rounds := sqrt_rounds ⟨mantissa, exponent⟩ packed.1
    simp only [Magnitude.total] at rounds
    exact rounds.below (high + 1) (by omega) (by omega) (by omega)

theorem root_above (x : Float32) (positive : Nonnegative (parts x)) (above : Above (2 * low) (parts x))
    (large : -148 ≤ low) : Above low (parts x.sqrt) := by
  have packed := parts_packed x
  rw [parts_sqrt]
  rcases nonnegative_cases (parts x) positive with read | read | ⟨mantissa, exponent, some, read⟩ <;>
    rw [read] at above packed ⊢
  · cases above
  · trivial
  · have bound : 2 * low < totalExponent mantissa exponent := above
    have rounds := sqrt_rounds ⟨mantissa, exponent⟩ packed.1
    simp only [Magnitude.total] at rounds
    exact rounds.above low (by omega) large

theorem root_infinite (x : Float32) (positive : Nonnegative (parts x)) (infinite : (parts x).isInf = true) :
    (parts x.sqrt).isInf = true := by
  rw [parts_sqrt]
  rcases nonnegative_cases (parts x) positive with read | read | ⟨mantissa, exponent, some, read⟩ <;>
    rw [read] at infinite ⊢
  · cases infinite
  · rfl
  · cases infinite

theorem quotient_extent (x y : Float32) (finite : Below high (parts x)) (below : Below most (parts y))
    (above : Above least (parts y)) :
    (-148 ≤ high - least → high - least < 128 → Below (high - least + 1) (parts (x / y))) ∧
      ∀ low, Above low (parts x) → -147 ≤ low - most → Above (low - most) (parts (x / y)) := by
  have packed := parts_packed x
  have otherPacked := parts_packed y
  rw [parts_div]
  generalize parts x = first at *
  cases second : parts y with
  | finite other otherMantissa otherExponent otherSome =>
      rw [second] at below above otherPacked
      have short : totalExponent otherMantissa otherExponent ≤ most := below
      have long : least < totalExponent otherMantissa otherExponent := above
      cases first with
      | finite sign mantissa exponent some =>
          have bound : totalExponent mantissa exponent ≤ high := finite
          obtain ⟨total, least, kept, rounds⟩ :=
            div_rounds sign other ⟨mantissa, exponent⟩ ⟨otherMantissa, otherExponent⟩ packed.1 otherPacked.1
          simp only [Magnitude.total] at least kept
          refine ⟨fun small large => rounds.below _ (by omega) (by omega) (by omega), fun low away large => ?_⟩
          have far : low < totalExponent mantissa exponent := away
          exact rounds.above (low - most) (by omega) (by omega)
      | zero sign =>
          have same : stored (UnpackedFloat.div .binary32 (.zero sign)
              (.finite other otherMantissa otherExponent otherSome)) = .zero (sign / other) := unpack_zero _
          rw [same]
          exact ⟨fun _ _ => trivial, fun low away _ => away.elim⟩
      | _ => cases finite
  | zero sign =>
      rw [second] at above
      cases above
  | _ =>
      rw [second] at below
      cases below

theorem quotient_infinite (x y : Float32) (infinite : (parts y).isInf = true) :
    (parts (x / y)).isFinite = true → (x / y == 0) = true := by
  intro finite
  rw [beq_parts, parts_zero]
  rw [parts_div] at finite ⊢
  cases second : parts y with
  | infinity other =>
      rw [second] at finite
      cases first : parts x with
      | finite sign mantissa exponent some =>
          have same : stored (UnpackedFloat.div .binary32 (.finite sign mantissa exponent some) (.infinity other)) =
              .zero (sign / other) := unpack_zero _
          rw [same]
          rfl
      | zero sign =>
          have same : stored (UnpackedFloat.div .binary32 (.zero sign) (.infinity other)) = .zero (sign / other) :=
            unpack_zero _
          rw [same]
          rfl
      | infinity sign =>
          have nothing : stored (UnpackedFloat.div .binary32 (.infinity sign) (.infinity other)) = .notANumber :=
            unpack_nan
          rw [first, nothing] at finite
          cases finite
      | notANumber =>
          have nothing : stored (UnpackedFloat.div .binary32 .notANumber (.infinity other)) = .notANumber := unpack_nan
          rw [first, nothing] at finite
          cases finite
  | _ =>
      rw [second] at infinite
      cases infinite

end VehicleSim.Binary32
