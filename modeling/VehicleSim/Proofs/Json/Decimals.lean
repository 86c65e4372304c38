import VehicleSim.Proofs.Json.Writing
import VehicleSim.Proofs.Number.Equal
import VehicleSim.Proofs.Number.ReadBack

/-!
The text of a binary32 number is a number token of JSON. Wherever its point is, the token says what the decimal says that
it was made from, and it is the token of no other number.
-/

set_option autoImplicit false

namespace VehicleSim

namespace Numeral

def shift : Option (Bool × List Digit) → Int
  | none => 0
  | some (negative, digits) => if negative then -natOfDigits digits else natOfDigits digits

def magnitude (numeral : Numeral) : ℚ :=
  let fraction := numeral.fraction.getD []
  natOfDigits (numeral.whole ++ fraction) * 10 ^ (shift numeral.exponent - fraction.length)

theorem nat_of_digits_zeros (digits : List Digit) (count : Nat) :
    natOfDigits (digits ++ List.replicate count 0) = natOfDigits digits * 10 ^ count := by
  induction count with
  | zero => rw [List.replicate_zero, List.append_nil, Nat.pow_zero, Nat.mul_one]
  | succ count ih =>
      rw [List.replicate_succ', ← List.append_assoc, Json.nat_of_digits_append, ih, Nat.pow_succ]
      change 10 * _ + 0 = _
      ring

theorem nat_of_zeros_digits (digits : List Digit) (count : Nat) :
    natOfDigits (List.replicate count 0 ++ digits) = natOfDigits digits := by
  induction count with
  | zero => rfl
  | succ count ih => exact ih

end Numeral

namespace Json

open Numeral

theorem whole_chars (digits : List Digit) (chars : List Char) (spells : SpellsWhole digits chars) :
    ∃ first rest, digits = first :: rest ∧ chars = (first :: rest).map digitChar := by
  cases spells with
  | zero => exact ⟨0, [], rfl, rfl⟩
  | digits first rest leading => exact ⟨first, rest, rfl, rfl⟩

theorem exponent_spells (power : Int) :
    ∃ parts, SpellsExponent (some parts) ('e' :: (toString power).toList) ∧ shift (some parts) = power := by
  have signed (negative : Bool) (sign : List Char) (signs : SpellsSign negative sign) (number : Nat) :
      ∃ digits, SpellsExponent (some (negative, digits)) ('e' :: (sign ++ (Nat.repr number).toList)) ∧
        natOfDigits digits = number := by
    obtain ⟨digits, spells, value⟩ := whole_spells number
    obtain ⟨first, rest, rfl, chars⟩ := whole_chars _ _ spells
    rw [chars]
    exact ⟨first :: rest, .digits 'e' negative sign first rest (Or.inl rfl) signs, value⟩
  cases power with
  | ofNat number =>
      obtain ⟨digits, spells, value⟩ := signed Bool.false [] .none number
      refine ⟨(Bool.false, digits), spells, ?_⟩
      rw [shift, if_neg Bool.false_ne_true, value]
      rfl
  | negSucc number =>
      obtain ⟨digits, spells, value⟩ := signed Bool.true ['-'] .minus (number + 1)
      refine ⟨(Bool.true, digits), ?_, ?_⟩
      · have written : (toString (Int.negSucc number)).toList = '-' :: (Nat.repr (number + 1)).toList := by
          change ("-" ++ Nat.repr (number + 1)).toList = _
          rw [String.toList_append]
          rfl
        rw [written]
        exact spells
      · rw [shift, if_pos rfl, value]
        rfl

-- A decimal with this layout may be written with this token, with a sign in front of both or of neither.
def Lays (decimal : Decimal) (chars : List Char) : Prop :=
  ∀ negative, ∃ numeral, SpellsNumber numeral ((if negative then ['-'] else []) ++ chars) ∧
    numeral.negative = negative ∧ numeral.magnitude = decimal.value

variable (decimal : Decimal) (first : Digit) (rest : List Digit)

theorem lays_whole (value : natOfDigits (first :: rest) = decimal.digits) (leading : first ≠ 0)
    (whole : 0 ≤ decimal.exponent) :
    Lays decimal ((first :: rest).map digitChar ++ List.replicate decimal.exponent.toNat '0' ++ ['.', '0']) := by
  intro negative
  have zeros : List.replicate decimal.exponent.toNat '0' = (List.replicate decimal.exponent.toNat 0).map digitChar := by
    rw [List.map_replicate]
    rfl
  refine ⟨⟨negative, first :: (rest ++ List.replicate decimal.exponent.toNat 0), some [0], none⟩, ?_, rfl, ?_⟩
  · have spells := SpellsNumber.parts negative _ _ _ _ _ _ (.digits first
      (rest ++ List.replicate decimal.exponent.toNat 0) leading) (.digits 0 []) .none
    rw [List.append_nil, ← List.cons_append, List.map_append, ← zeros] at spells
    exact spells
  · have placed : natOfDigits (first :: (rest ++ List.replicate decimal.exponent.toNat 0) ++ [0]) =
        decimal.digits * 10 ^ decimal.exponent.toNat * 10 := by
      rw [nat_of_digits_append, ← List.cons_append, nat_of_digits_zeros, value]
      exact Nat.mul_comm _ _
    have power : (10 : ℚ) ^ decimal.exponent = 10 ^ decimal.exponent.toNat := by
      conv => lhs; rw [← Int.toNat_of_nonneg whole]
      exact zpow_natCast _ _
    rw [magnitude, Decimal.value, power]
    simp only [Option.getD_some, placed, shift]
    push_cast
    rw [zero_sub, mul_assoc]
    norm_num

theorem lays_point (value : natOfDigits (first :: rest) = decimal.digits) (leading : first ≠ 0)
    (place : Nat) (inside : place + 1 < (first :: rest).length)
    (placed : (place + 1 : Int) = (first :: rest).length + decimal.exponent) :
    Lays decimal (((first :: rest).map digitChar).take (place + 1) ++
      '.' :: ((first :: rest).map digitChar).drop (place + 1)) := by
  intro negative
  rw [List.length_cons, Nat.add_lt_add_iff_right] at inside
  obtain ⟨next, more, dropped⟩ := List.exists_cons_of_length_pos (l := rest.drop place) (by
    rw [List.length_drop]
    omega)
  refine ⟨⟨negative, first :: rest.take place, some (next :: more), none⟩, ?_, rfl, ?_⟩
  · have spells := SpellsNumber.parts negative _ _ _ _ _ _ (.digits first (rest.take place) leading)
      (.digits next more) .none
    rw [List.append_nil, ← dropped, List.map_drop, List.map_cons, List.map_take] at spells
    rw [← dropped]
    exact spells
  · have length : (next :: more).length = rest.length - place := by rw [← dropped, List.length_drop]
    have all : first :: rest.take place ++ (next :: more) = first :: rest := by
      rw [← dropped, List.cons_append, List.take_append_drop]
    have power : -((next :: more).length : Int) = decimal.exponent := by
      rw [List.length_cons] at placed
      omega
    rw [magnitude, Decimal.value]
    simp only [Option.getD_some, all, value, shift, zero_sub, power]

theorem lays_small (value : natOfDigits (first :: rest) = decimal.digits) (zeros : Nat)
    (placed : -(zeros : Int) = (first :: rest).length + decimal.exponent) :
    Lays decimal ('0' :: '.' :: (List.replicate zeros '0' ++ (first :: rest).map digitChar)) := by
  intro negative
  obtain ⟨next, more, same⟩ := List.exists_cons_of_ne_nil
    (l := List.replicate zeros (0 : Digit) ++ first :: rest) (by simp)
  refine ⟨⟨negative, [0], some (List.replicate zeros 0 ++ first :: rest), none⟩, ?_, rfl, ?_⟩
  · have spells := SpellsNumber.parts negative _ _ _ _ _ _ .zero (.digits next more) .none
    rw [List.append_nil, ← same, List.map_append, List.map_replicate] at spells
    exact spells
  · have all : natOfDigits ([0] ++ (List.replicate zeros 0 ++ first :: rest)) = decimal.digits := by
      rw [← value, ← nat_of_zeros_digits (first :: rest) (zeros + 1)]
      rfl
    have power : -((List.replicate zeros (0 : Digit) ++ first :: rest).length : Int) = decimal.exponent := by
      rw [List.length_append, List.length_replicate]
      omega
    rw [magnitude, Decimal.value]
    simp only [Option.getD_some, all, shift, zero_sub, power]

theorem lays_scientific (value : natOfDigits (first :: rest) = decimal.digits) (leading : first ≠ 0)
    (fraction : Option (List Digit)) (chars : List Char) (digits : fraction.getD [] = rest)
    (fractions : SpellsFraction fraction chars) :
    Lays decimal (digitChar first ::
      (chars ++ 'e' :: (toString ((first :: rest).length + decimal.exponent - 1)).toList)) := by
  intro negative
  obtain ⟨parts, exponents, power⟩ := exponent_spells ((first :: rest).length + decimal.exponent - 1)
  refine ⟨⟨negative, [first], fraction, some parts⟩, ?_, rfl, ?_⟩
  · exact SpellsNumber.parts negative _ _ _ _ _ _ (.digits first [] leading) fractions exponents
  · have shifted : shift (some parts) - rest.length = decimal.exponent := by
      rw [power, List.length_cons]
      omega
    rw [magnitude, Decimal.value]
    simp only [digits, shifted, List.singleton_append, value]

theorem layout_lays (positive : 0 < decimal.digits) : Lays decimal decimal.layout.toList := by
  obtain ⟨first, rest, digits, value, leading⟩ := positive_digits decimal.digits positive
  have written : (Nat.repr decimal.digits).toList = (first :: rest).map digitChar := by
    rw [Nat.repr, String.toList_ofList, digits]
  unfold Decimal.layout
  simp only [written, List.length_map, Bool.and_eq_true, decide_eq_true_eq]
  split
  · rename_i whole
    rw [String.toList_append, String.toList_ofList]
    exact lays_whole decimal first rest value leading whole.1
  split
  · rename_i fine inside
    simp only [String.toList_append, String.toList_ofList]
    obtain ⟨place, after⟩ := Int.eq_ofNat_of_zero_le (a := (first :: rest).length + decimal.exponent - 1) (by omega)
    have point : ((first :: rest).length + decimal.exponent).toNat = place + 1 := by omega
    rw [point, List.append_assoc]
    exact lays_point decimal first rest value leading place (by omega) (by omega)
  split
  · rename_i small
    simp only [String.toList_append, String.toList_ofList]
    refine lays_small decimal first rest value (-((first :: rest).length + decimal.exponent)).toNat ?_
    omega
  cases rest with
  | nil =>
      simp only [List.map_cons, List.map_nil, String.toList_append, String.toList_ofList]
      exact lays_scientific decimal first [] value leading none [] rfl .none
  | cons next more =>
      simp only [List.map_cons, String.toList_append, String.toList_ofList, List.append_assoc]
      exact lays_scientific decimal first _ value leading (some (next :: more)) _ rfl (.digits next more)

end Json

namespace Binary32

open Float.Model (UnpackedFloat)
open Float.Model.UnpackedFloat

def isNegative : Sign → Bool
  | .positive => false
  | .negative => true

def scanned (mantissa : Nat) (exponent : Int) : VehicleSim.Magnitude :=
  ⟨mantissa, exponent, mantissa = 0x800000 && -149 < exponent⟩

def Shows (numeral : Numeral) : UnpackedFloat → Prop
  | .finite sign mantissa exponent _ =>
      numeral.negative = isNegative sign ∧ (scanned mantissa exponent).ReadsBack numeral.magnitude
  | .zero sign => numeral.negative = isNegative sign ∧ numeral.magnitude = 0
  | _ => False

theorem scanned_stored (x : Float32) (sign : Sign) (mantissa : Nat) (exponent : Int) (positive : 0 < mantissa)
    (read : parts x = .finite sign mantissa exponent positive) : (scanned mantissa exponent).Stored := by
  have packed := parts_packed x
  rw [read] at packed
  exact ⟨packed.1, rfl⟩

theorem finite_text (x : Float32) (sign : Sign) (mantissa : Nat) (exponent : Int) (positive : 0 < mantissa)
    (read : parts x = .finite sign mantissa exponent positive) :
    ∃ text, decimalText? x = some text ∧
      text.toList = (if isNegative sign then ['-'] else []) ++ (scanned mantissa exponent).shortest.layout.toList := by
  change unpack .binary32 x.toBits.toBitVec = _ at read
  unfold decimalText? scanned
  rw [read]
  refine ⟨_, rfl, ?_⟩
  cases sign with
  | positive => rw [isNegative, if_neg Bool.false_ne_true, List.nil_append]
  | negative =>
      rw [isNegative, if_pos rfl]
      exact String.toList_append

theorem zero_text (x : Float32) (sign : Sign) (read : parts x = .zero sign) :
    ∃ text, decimalText? x = some text ∧
      text.toList = (if isNegative sign then ['-'] else []) ++ ['0', '.', '0'] := by
  change unpack .binary32 x.toBits.toBitVec = _ at read
  unfold decimalText?
  rw [read]
  cases sign <;> exact ⟨_, rfl, rfl⟩

/-- A finite number is written as a token that reads back as it. -/
theorem decimal_text_shows (x : Float32) (finite : x.isFinite = true) :
    ∃ text numeral, decimalText? x = some text ∧ Json.SpellsNumber numeral text.toList ∧ Shows numeral (parts x) := by
  rw [isfinite_parts] at finite
  cases read : parts x with
  | notANumber | infinity => simp [read, UnpackedFloat.isFinite] at finite
  | zero sign =>
      obtain ⟨text, written, chars⟩ := zero_text x sign read
      refine ⟨text, ⟨isNegative sign, [0], some [0], none⟩, written, ?_, rfl, ?_⟩
      · rw [chars]
        exact .parts (isNegative sign) _ _ _ _ _ _ .zero (.digits 0 []) .none
      · simp [Numeral.magnitude, Numeral.natOfDigits]
  | finite sign mantissa exponent positive =>
      obtain ⟨text, written, chars⟩ := finite_text x sign mantissa exponent positive read
      obtain ⟨some, back⟩ := (scanned mantissa exponent).shortest_reads_back
        (scanned_stored x sign mantissa exponent positive read)
      obtain ⟨numeral, spells, signed, value⟩ := Json.layout_lays _ some (isNegative sign)
      exact ⟨text, numeral, written, chars ▸ spells, signed, value ▸ back⟩

theorem decimal_text_none (x : Float32) (infinite : x.isFinite = false) : decimalText? x = none := by
  rw [isfinite_parts] at infinite
  unfold decimalText?
  cases read : parts x with
  | notANumber | infinity =>
      change unpack .binary32 x.toBits.toBitVec = _ at read
      rw [read]
  | zero | finite => simp [read, UnpackedFloat.isFinite] at infinite

theorem is_negative_injective (sign other : Sign) (same : isNegative sign = isNegative other) : sign = other := by
  cases sign <;> cases other <;> first | rfl | cases same

/-- No token reads back as two numbers. -/
theorem shows_unique (numeral : Numeral) (x y : Float32) (shows : Shows numeral (parts x))
    (again : Shows numeral (parts y)) : x = y := by
  apply parts_injective
  cases read : parts x with
  | notANumber | infinity =>
      rw [read] at shows
      exact shows.elim
  | zero sign =>
      cases alsoRead : parts y with
      | notANumber | infinity =>
          rw [alsoRead] at again
          exact again.elim
      | zero other =>
          rw [read] at shows
          rw [alsoRead] at again
          rw [is_negative_injective sign other (shows.1.symm.trans again.1)]
      | finite other mantissa exponent positive =>
          rw [read] at shows
          rw [alsoRead] at again
          have stored := scanned_stored y other mantissa exponent positive alsoRead
          exact absurd (shows.2 ▸ again.2) ((scanned mantissa exponent).zero_not_back stored)
  | finite sign mantissa exponent positive =>
      have stored := scanned_stored x sign mantissa exponent positive read
      cases alsoRead : parts y with
      | notANumber | infinity =>
          rw [alsoRead] at again
          exact again.elim
      | zero other =>
          rw [read] at shows
          rw [alsoRead] at again
          exact absurd (again.2 ▸ shows.2) ((scanned mantissa exponent).zero_not_back stored)
      | finite other count power some =>
          rw [read] at shows
          rw [alsoRead] at again
          have also := scanned_stored y other count power some alsoRead
          obtain ⟨mantissas, exponents⟩ :=
            VehicleSim.Magnitude.reads_back_unique _ _ stored also _ shows.2 again.2
          rw [is_negative_injective sign other (shows.1.symm.trans again.1)]
          exact finite_congr mantissas exponents

end Binary32

end VehicleSim
