import VehicleSim.Json.Reader

/-!
The grammar of JSON: which texts spell a value. Blanks may stand around every value and every key, a number is spelled
digit by digit, and a string in units, of which two may make one character. What the rules ask of a value is settled
apart from how it is spelled.
-/

set_option autoImplicit false

namespace VehicleSim.Json

def Blank (chars : List Char) : Prop := ∀ c ∈ chars, isBlank c = true

theorem blank_nil : Blank [] := List.forall_mem_nil _

def digitChar (digit : Digit) : Char := Nat.digitChar digit

inductive SpellsWhole : List Digit → List Char → Prop where
  | zero : SpellsWhole [0] ['0']
  | digits (first : Digit) (rest : List Digit) (leading : first ≠ 0) :
      SpellsWhole (first :: rest) ((first :: rest).map digitChar)

inductive SpellsFraction : Option (List Digit) → List Char → Prop where
  | none : SpellsFraction none []
  | digits (first : Digit) (rest : List Digit) :
      SpellsFraction (some (first :: rest)) ('.' :: (first :: rest).map digitChar)

inductive SpellsSign : Bool → List Char → Prop where
  | none : SpellsSign false []
  | plus : SpellsSign false ['+']
  | minus : SpellsSign true ['-']

inductive SpellsExponent : Option (Bool × List Digit) → List Char → Prop where
  | none : SpellsExponent none []
  | digits (mark : Char) (negative : Bool) (sign : List Char) (first : Digit) (rest : List Digit)
      (marks : mark = 'e' ∨ mark = 'E') (signs : SpellsSign negative sign) :
      SpellsExponent (some (negative, first :: rest)) (mark :: sign ++ (first :: rest).map digitChar)

inductive SpellsNumber : Numeral → List Char → Prop where
  | parts (negative : Bool) (digits : List Digit) (decimals : Option (List Digit)) (power : Option (Bool × List Digit))
      (whole fraction exponent : List Char) (wholes : SpellsWhole digits whole)
      (fractions : SpellsFraction decimals fraction) (exponents : SpellsExponent power exponent) :
      SpellsNumber ⟨negative, digits, decimals, power⟩
        ((if negative then ['-'] else []) ++ (whole ++ (fraction ++ exponent)))

inductive TextUnit where
  | char (c : Char)
  | code (unit : Nat)

def isLeading (unit : Nat) : Bool := 0xD800 ≤ unit && unit ≤ 0xDBFF

def isTrailing (unit : Nat) : Bool := 0xDC00 ≤ unit && unit ≤ 0xDFFF

def pairChar (leading trailing : Nat) : Char :=
  Char.ofNat (0x10000 + (leading - 0xD800) * 0x400 + (trailing - 0xDC00))

def joined : List TextUnit → Option (List Char)
  | [] => some []
  | .char c :: rest => (joined rest).map (c :: ·)
  | .code unit :: rest =>
      if isLeading unit then
        match rest with
        | .code other :: rest => if isTrailing other then (joined rest).map (pairChar unit other :: ·) else none
        | _ => none
      else if isTrailing unit then none
      else (joined rest).map (Char.ofNat unit :: ·)

theorem joined_pair (unit other : Nat) (rest : List TextUnit) (leading : isLeading unit = true) :
    joined (.code unit :: .code other :: rest) =
      if isTrailing other then (joined rest).map (pairChar unit other :: ·) else none := by
  simp only [joined, leading, if_true]

theorem joined_unpaired (unit : Nat) (c : Char) (rest : List TextUnit) (leading : isLeading unit = true) :
    joined (.code unit :: .char c :: rest) = none := by
  simp only [joined, leading, if_true]

theorem joined_single (unit : Nat) (rest : List TextUnit) (single : isLeading unit = false) :
    joined (.code unit :: rest) = if isTrailing unit then none else (joined rest).map (Char.ofNat unit :: ·) := by
  cases rest with
  | nil => simp only [joined, single, Bool.false_eq_true, if_false]
  | cons other rest => cases other <;> simp only [joined, single, Bool.false_eq_true, if_false]

inductive SpellsUnits : List TextUnit → List Char → Prop where
  | done : SpellsUnits [] []
  | plain (c : Char) (units : List TextUnit) (chars : List Char) (printed : 0x20 ≤ c.toNat) (quote : c ≠ '"')
      (backslash : c ≠ '\\') (rest : SpellsUnits units chars) : SpellsUnits (.char c :: units) (c :: chars)
  | escape (letter c : Char) (units : List TextUnit) (chars : List Char) (short : TextScan.escaped? letter = some c)
      (rest : SpellsUnits units chars) : SpellsUnits (.char c :: units) ('\\' :: letter :: chars)
  | code (a b c d : Char) (i j k l : Nat) (units : List TextUnit) (chars : List Char) (first : hexDigit? a = some i)
      (second : hexDigit? b = some j) (third : hexDigit? c = some k) (fourth : hexDigit? d = some l)
      (rest : SpellsUnits units chars) :
      SpellsUnits (.code (16 * (16 * (16 * i + j) + k) + l) :: units) ('\\' :: 'u' :: a :: b :: c :: d :: chars)

inductive SpellsText : Option String → List Char → Prop where
  | quoted (units : List TextUnit) (chars : List Char) (spells : SpellsUnits units chars) :
      SpellsText ((joined units).map String.ofList) ('"' :: (chars ++ ['"']))

def isPlain (c : Char) : Bool := 0x20 ≤ c.toNat && c != '"' && c != '\\'

theorem plain_units (chars : List Char) (plain : chars.all isPlain = Bool.true) :
    SpellsUnits (chars.map .char) chars ∧ joined (chars.map .char) = some chars := by
  induction chars with
  | nil => exact ⟨.done, rfl⟩
  | cons c chars ih =>
      rw [List.all_cons, Bool.and_eq_true] at plain
      obtain ⟨spells, joins⟩ := ih plain.2
      obtain ⟨⟨printed, quote⟩, backslash⟩ : (0x20 ≤ c.toNat ∧ c ≠ '"') ∧ c ≠ '\\' := by simpa [isPlain] using plain.1
      refine ⟨.plain c _ chars printed quote backslash spells, ?_⟩
      rw [List.map_cons, joined, joins]
      rfl

theorem plain_text (chars : List Char) (plain : chars.all isPlain = Bool.true) :
    SpellsText (some (String.ofList chars)) ('"' :: (chars ++ ['"'])) := by
  obtain ⟨spells, joins⟩ := plain_units chars plain
  have quoted := SpellsText.quoted _ chars spells
  rwa [joins] at quoted

inductive Part where
  | value (json : Json)
  | padded (json : Json)
  | items (items : List Json)
  | member (key : Option String) (json : Json)
  | members (members : List (Option String × Json))

-- Items and members, one at least, stand between the brackets of their container.
inductive Spells : Part → List Char → Prop where
  | null : Spells (.value .null) ['n', 'u', 'l', 'l']
  | true : Spells (.value (.bool true)) ['t', 'r', 'u', 'e']
  | false : Spells (.value (.bool false)) ['f', 'a', 'l', 's', 'e']
  | number (numeral : Numeral) (chars : List Char) (spells : SpellsNumber numeral chars) :
      Spells (.value (.number numeral)) chars
  | text (text : Option String) (chars : List Char) (spells : SpellsText text chars) :
      Spells (.value (.text text)) chars
  | emptyArray (blank : List Char) (blanks : Blank blank) : Spells (.value (.array [])) ('[' :: (blank ++ [']']))
  | array (items : List Json) (chars : List Char) (inside : Spells (.items items) chars) :
      Spells (.value (.array items)) ('[' :: (chars ++ [']']))
  | emptyObject (blank : List Char) (blanks : Blank blank) : Spells (.value (.object [])) ('{' :: (blank ++ ['}']))
  | object (members : List (Option String × Json)) (chars : List Char) (inside : Spells (.members members) chars) :
      Spells (.value (.object members)) ('{' :: (chars ++ ['}']))
  | padded (json : Json) (before chars after : List Char) (blank : Blank before) (value : Spells (.value json) chars)
      (blankAfter : Blank after) : Spells (.padded json) (before ++ (chars ++ after))
  | lastItem (json : Json) (chars : List Char) (item : Spells (.padded json) chars) : Spells (.items [json]) chars
  | nextItem (json : Json) (items : List Json) (chars more : List Char) (item : Spells (.padded json) chars)
      (rest : Spells (.items items) more) : Spells (.items (json :: items)) (chars ++ ',' :: more)
  | member (key : Option String) (json : Json) (before name after chars : List Char) (blank : Blank before)
      (names : SpellsText key name) (blankAfter : Blank after) (value : Spells (.padded json) chars) :
      Spells (.member key json) (before ++ (name ++ (after ++ ':' :: chars)))
  | lastMember (key : Option String) (json : Json) (chars : List Char) (member : Spells (.member key json) chars) :
      Spells (.members [(key, json)]) chars
  | nextMember (key : Option String) (json : Json) (members : List (Option String × Json)) (chars more : List Char)
      (member : Spells (.member key json) chars) (rest : Spells (.members members) more) :
      Spells (.members ((key, json) :: members)) (chars ++ ',' :: more)

theorem spells_bare (json : Json) (chars : List Char) (value : Spells (.value json) chars) :
    Spells (.padded json) chars := by
  simpa using Spells.padded json [] chars [] blank_nil value blank_nil

theorem plain_value (name : List Char) (plain : name.all isPlain = Bool.true) :
    Spells (.padded (.text (some (String.ofList name)))) ('"' :: (name ++ ['"'])) :=
  spells_bare _ _ (.text _ _ (plain_text name plain))

theorem plain_member (name : List Char) (plain : name.all isPlain = Bool.true) (json : Json) (chars : List Char)
    (value : Spells (.padded json) chars) :
    Spells (.member (some (String.ofList name)) json) ('"' :: (name ++ '"' :: ':' :: chars)) := by
  simpa using Spells.member (some (String.ofList name)) json [] _ [] chars blank_nil (plain_text name plain) blank_nil value

def Text (json : Json) (text : String) : Prop := Spells (.padded json) text.toList

theorem text_of_chars (json : Json) (chars : List Char) (spelled : Spells (.padded json) chars) :
    Text json (String.ofList chars) := by
  rwa [Text, String.toList_ofList]

def Rules.opens (rules : Rules) (depth : Nat) : Bool :=
  match rules.depth with
  | some most => depth < most
  | none => Bool.true

mutual
def fits (rules : Rules) (depth : Nat) : Json → Bool
  | .number numeral => !rules.checked || numeral.toBinary64?.isSome
  | .text value => !rules.checked || value.isSome
  | .array items => rules.opens depth && itemsFit rules (depth + 1) items
  | .object members => rules.opens depth && membersFit rules (depth + 1) members
  | _ => Bool.true
def itemsFit (rules : Rules) (depth : Nat) : List Json → Bool
  | [] => Bool.true
  | json :: rest => fits rules depth json && itemsFit rules depth rest
def membersFit (rules : Rules) (depth : Nat) : List (Option String × Json) → Bool
  | [] => Bool.true
  | (key, json) :: rest =>
      (!rules.checked || key.isSome) && fits rules depth json && membersFit rules depth rest
end

mutual
theorem fits_unchecked (depth : Nat) : ∀ json, fits .unchecked depth json = Bool.true
  | .null | .bool _ => by simp only [fits]
  | .number _ | .text _ => by rw [fits]; rfl
  | .array items => by rw [fits, items_fit_unchecked (depth + 1) items]; rfl
  | .object members => by rw [fits, members_fit_unchecked (depth + 1) members]; rfl
theorem items_fit_unchecked (depth : Nat) : ∀ items, itemsFit .unchecked depth items = Bool.true
  | [] => rfl
  | json :: rest => by rw [itemsFit, fits_unchecked depth json, items_fit_unchecked depth rest]; rfl
theorem members_fit_unchecked (depth : Nat) : ∀ members, membersFit .unchecked depth members = Bool.true
  | [] => rfl
  | (_, json) :: rest => by rw [membersFit, fits_unchecked depth json, members_fit_unchecked depth rest]; rfl
end

end VehicleSim.Json
