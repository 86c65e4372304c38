import VehicleSim.Json.Quoted
import VehicleSim.Proofs.Json.Grammar

/-!
What is written is JSON: a quoted string spells the string, and the digits of a natural number spell the number.
-/

set_option autoImplicit false

namespace VehicleSim.Json

theorem hex_digit_back : ∀ digit < 16, hexDigit? (hexChar digit) = some digit := by decide

theorem lettered_char (letter c : Char) (units : List TextUnit) (chars : List Char) (spells : SpellsUnits units chars)
    (escaped : TextScan.escaped? letter = some c) (quoted : quoteChar c = ['\\', letter]) :
    ∃ unit, SpellsUnits (unit :: units) (quoteChar c ++ chars) ∧
      joined (unit :: units) = (joined units).map (c :: ·) := by
  rw [quoted]
  exact ⟨.char c, .escape letter c units chars escaped spells, rfl⟩

theorem quoted_char (c : Char) (units : List TextUnit) (chars : List Char) (spells : SpellsUnits units chars) :
    ∃ unit, SpellsUnits (unit :: units) (quoteChar c ++ chars) ∧
      joined (unit :: units) = (joined units).map (c :: ·) := by
  by_cases quote : c = '"'
  · subst quote
    exact lettered_char '"' _ units chars spells rfl rfl
  by_cases backslash : c = '\\'
  · subst backslash
    exact lettered_char '\\' _ units chars spells rfl rfl
  by_cases backspace : c = '\x08'
  · subst backspace
    exact lettered_char 'b' _ units chars spells rfl rfl
  by_cases page : c = '\x0c'
  · subst page
    exact lettered_char 'f' _ units chars spells rfl rfl
  by_cases line : c = '\n'
  · subst line
    exact lettered_char 'n' _ units chars spells rfl rfl
  by_cases back : c = '\r'
  · subst back
    exact lettered_char 'r' _ units chars spells rfl rfl
  by_cases tab : c = '\t'
  · subst tab
    exact lettered_char 't' _ units chars spells rfl rfl
  simp only [quoteChar, quote, backslash, backspace, page, line, back, tab, if_false]
  by_cases control : c.toNat < 0x20
  · rw [if_pos control]
    have high := hex_digit_back (c.toNat / 16) (by omega)
    have low := hex_digit_back (c.toNat % 16) (by omega)
    have code : 16 * (16 * (16 * 0 + 0) + c.toNat / 16) + c.toNat % 16 = c.toNat := by omega
    have coded := SpellsUnits.code '0' '0' _ _ 0 0 _ _ units chars rfl rfl high low spells
    rw [code] at coded
    refine ⟨.code c.toNat, coded, ?_⟩
    have leading : isLeading c.toNat = Bool.false := by
      rw [isLeading, decide_eq_false (by omega), Bool.false_and]
    have trailing : isTrailing c.toNat = Bool.false := by
      rw [isTrailing, decide_eq_false (by omega), Bool.false_and]
    rw [joined_single _ _ leading, trailing, if_neg Bool.false_ne_true, Char.ofNat_toNat]
  · rw [if_neg control]
    exact ⟨.char c, .plain c units chars (Nat.le_of_not_lt control) quote backslash spells, rfl⟩

theorem quoted_chars (chars : List Char) :
    ∃ units, SpellsUnits units (chars.flatMap quoteChar) ∧ joined units = some chars := by
  induction chars with
  | nil => exact ⟨[], .done, rfl⟩
  | cons c chars ih =>
      obtain ⟨units, spells, joins⟩ := ih
      obtain ⟨unit, more, joinsMore⟩ := quoted_char c units _ spells
      refine ⟨unit :: units, more, ?_⟩
      rw [joinsMore, joins, Option.map_some]

theorem quote_spells (text : String) : SpellsText (some text) (quote text).toList := by
  obtain ⟨units, spells, joins⟩ := quoted_chars text.toList
  have quoted := SpellsText.quoted units _ spells
  rw [joins, Option.map_some, String.ofList_toList] at quoted
  rw [quote, String.toList_ofList, List.append_assoc]
  exact quoted

theorem nat_of_digits_append (digits : List Digit) (digit : Digit) :
    Numeral.natOfDigits (digits ++ [digit]) = 10 * Numeral.natOfDigits digits + digit.val := by
  rw [Numeral.natOfDigits, List.foldl_append]
  rfl

theorem positive_digits (number : Nat) (positive : 0 < number) :
    ∃ first rest, Nat.toDigits 10 number = (first :: rest).map digitChar ∧
      Numeral.natOfDigits (first :: rest) = number ∧ first ≠ 0 := by
  induction number using Nat.strongRecOn with
  | ind number ih =>
      by_cases single : number < 10
      · refine ⟨⟨number, single⟩, [], Nat.toDigits_of_lt_base single, ?_, ?_⟩
        · exact Nat.zero_add number
        · exact fun zero => Nat.ne_of_gt positive (congrArg Fin.val zero)
      · obtain ⟨first, rest, digits, value, leading⟩ := ih (number / 10) (by omega) (by omega)
        refine ⟨first, rest ++ [Fin.ofNat 10 number], ?_, ?_, leading⟩
        · have last : Nat.toDigits 10 (number % 10) = [digitChar (Fin.ofNat 10 number)] :=
            Nat.toDigits_of_lt_base (Nat.mod_lt number (by decide))
          have split := Nat.toDigits_append_toDigits (b := 10) (n := number / 10) (d := number % 10) (by decide)
            (by omega) (Nat.mod_lt number (by decide))
          rw [Nat.div_add_mod, last, digits] at split
          rw [← split, ← List.cons_append, List.map_append]
          rfl
        · rw [← List.cons_append, nat_of_digits_append, value]
          exact Nat.div_add_mod number 10

theorem whole_spells (number : Nat) :
    ∃ digits, SpellsWhole digits (Nat.repr number).toList ∧ Numeral.natOfDigits digits = number := by
  rw [Nat.repr, String.toList_ofList]
  by_cases zero : number = 0
  · subst zero
    exact ⟨[0], .zero, rfl⟩
  · obtain ⟨first, rest, digits, value, leading⟩ := positive_digits number (Nat.pos_of_ne_zero zero)
    exact ⟨first :: rest, digits ▸ .digits first rest leading, value⟩

end VehicleSim.Json
