import VehicleSim.Json.Value

/-!
Reading JSON texts, one character at a time, with the open containers on a stack. Two sets of rules
exist: a checked text may not nest too deep, and its numbers and strings must all have a value; an
unchecked text need only be well formed.
-/

set_option autoImplicit false

namespace VehicleSim.Json

structure Rules where
  depth : Option Nat
  -- Numbers must be in the range of binary64 and surrogates must be paired.
  checked : Bool

namespace Rules

def unchecked : Rules := ⟨none, false⟩

def strict : Rules := ⟨some 127, true⟩

end Rules

inductive NumberStage where
  | firstDigit
  | afterZero
  | whole
  | firstFraction
  | fraction
  | exponentSign
  | firstExponent
  | exponent
deriving DecidableEq

namespace NumberStage

def complete : NumberStage → Bool
  | afterZero | whole | fraction | exponent => true
  | firstDigit | firstFraction | exponentSign | firstExponent => false

end NumberStage

inductive EscapeStage where
  | none
  | started
  | unit (count : Nat) (value : Nat)

structure TextScan where
  chars : List Char
  -- A leading surrogate that waits for its other half.
  high : Option Nat
  proper : Bool
  escape : EscapeStage

inductive Frame where
  | item (items : List Json)
  | member (members : List (Option String × Json)) (key : Option String)

inductive TextUse where
  | value
  | key (members : List (Option String × Json))

inductive Mode where
  | value
  | firstItem
  | afterItem (items : List Json)
  | firstKey
  | nextKey (members : List (Option String × Json))
  | colon (members : List (Option String × Json)) (key : Option String)
  | afterMember (members : List (Option String × Json))
  | text (use : TextUse) (scan : TextScan)
  | number (numeral : Numeral) (stage : NumberStage)
  | word (rest : List Char) (value : Json)
  | finished (value : Json)

structure Reader where
  frames : List Frame
  mode : Mode

def isBlank (c : Char) : Bool := c = ' ' || c = '\t' || c = '\n' || c = '\r'

def digit? (c : Char) : Option Digit :=
  if '0' ≤ c && c ≤ '9' then some (Fin.ofNat 10 (c.toNat - '0'.toNat)) else none

def hexDigit? (c : Char) : Option Nat :=
  if '0' ≤ c && c ≤ '9' then some (c.toNat - '0'.toNat)
  else if 'a' ≤ c && c ≤ 'f' then some (c.toNat - 'a'.toNat + 10)
  else if 'A' ≤ c && c ≤ 'F' then some (c.toNat - 'A'.toNat + 10)
  else none

def noDigits (negative : Bool) : Numeral := ⟨negative, [], none, none⟩

def stepNumber (numeral : Numeral) (stage : NumberStage) (c : Char) :
    Option (Numeral × NumberStage) :=
  let addWhole (digit : Digit) : Numeral := { numeral with whole := numeral.whole ++ [digit] }
  let addFraction (digit : Digit) : Numeral :=
    { numeral with fraction := some (numeral.fraction.getD [] ++ [digit]) }
  let addExponent (digit : Digit) : Numeral :=
    let (negative, digits) := numeral.exponent.getD (false, [])
    { numeral with exponent := some (negative, digits ++ [digit]) }
  let startFraction := ({ numeral with fraction := some [] }, NumberStage.firstFraction)
  let startExponent := ({ numeral with exponent := some (false, []) }, NumberStage.exponentSign)
  let isMark := c = 'e' || c = 'E'
  match stage, digit? c with
  | .firstDigit, some digit => some (addWhole digit, if digit = 0 then .afterZero else .whole)
  | .whole, some digit => some (addWhole digit, .whole)
  | .firstFraction, some digit | .fraction, some digit => some (addFraction digit, .fraction)
  | .exponentSign, some digit | .firstExponent, some digit | .exponent, some digit =>
      some (addExponent digit, .exponent)
  | .afterZero, none | .whole, none =>
      if c = '.' then some startFraction else if isMark then some startExponent else none
  | .fraction, none => if isMark then some startExponent else none
  | .exponentSign, none =>
      if c = '+' then some (numeral, .firstExponent)
      else if c = '-' then some ({ numeral with exponent := some (true, []) }, .firstExponent)
      else none
  | _, _ => none

namespace TextScan

def start : TextScan := ⟨[], none, true, .none⟩

def push (scan : TextScan) (c : Char) : TextScan where
  chars := c :: scan.chars
  high := none
  proper := scan.proper && scan.high.isNone
  escape := .none

def pushUnit (scan : TextScan) (unit : Nat) : TextScan :=
  let leading := 0xD800 ≤ unit && unit ≤ 0xDBFF
  let trailing := 0xDC00 ≤ unit && unit ≤ 0xDFFF
  match scan.high with
  | some high =>
      if trailing then
        { scan with
          chars := Char.ofNat (0x10000 + (high - 0xD800) * 0x400 + (unit - 0xDC00)) :: scan.chars
          high := none
          escape := .none }
      else { scan with high := none, proper := false, escape := .none }
  | none =>
      if leading then { scan with high := some unit, escape := .none }
      else if trailing then { scan with proper := false, escape := .none }
      else { scan with chars := Char.ofNat unit :: scan.chars, escape := .none }

def escaped? : Char → Option Char
  | '"' => some '"'
  | '\\' => some '\\'
  | '/' => some '/'
  | 'b' => some '\x08'
  | 'f' => some '\x0c'
  | 'n' => some '\n'
  | 'r' => some '\r'
  | 't' => some '\t'
  | _ => none

def step (scan : TextScan) (c : Char) : Option TextScan :=
  match scan.escape with
  | .none =>
      if c = '\\' then some { scan with escape := .started }
      else if c.toNat < 0x20 then none
      else some (scan.push c)
  | .started =>
      if c = 'u' then some { scan with escape := .unit 0 0 } else (escaped? c).map scan.push
  | .unit count value => do
      let digit ← hexDigit? c
      let value := 16 * value + digit
      return if count = 3 then scan.pushUnit value
        else { scan with escape := .unit (count + 1) value }

def closes (scan : TextScan) (c : Char) : Bool :=
  match scan.escape with
  | .none => c = '"'
  | _ => false

def result (scan : TextScan) : Option String :=
  if scan.proper && scan.high.isNone then some (String.ofList scan.chars.reverse) else none

end TextScan

namespace Reader

variable (rules : Rules)

def start : Reader := ⟨[], .value⟩

def complete (frames : List Frame) (value : Json) : Reader :=
  match frames with
  | [] => ⟨[], .finished value⟩
  | .item items :: rest => ⟨rest, .afterItem (value :: items)⟩
  | .member members key :: rest => ⟨rest, .afterMember ((key, value) :: members)⟩

def completeNumber (frames : List Frame) (numeral : Numeral) : Option Reader :=
  if rules.checked && numeral.toBinary64?.isNone then none
  else some (complete frames (.number numeral))

def completeText (frames : List Frame) (use : TextUse) (text : Option String) : Option Reader :=
  if rules.checked && text.isNone then none
  else
    match use with
    | .value => some (complete frames (.text text))
    | .key members => some ⟨frames, .colon members text⟩

def mayOpen (frames : List Frame) : Bool :=
  match rules.depth with
  | some depth => frames.length < depth
  | none => true

def startValue (frames : List Frame) (c : Char) : Option Reader :=
  if c = '{' then if mayOpen rules frames then some ⟨frames, .firstKey⟩ else none
  else if c = '[' then if mayOpen rules frames then some ⟨frames, .firstItem⟩ else none
  else if c = '"' then some ⟨frames, .text .value .start⟩
  else if c = 't' then some ⟨frames, .word ['r', 'u', 'e'] (.bool true)⟩
  else if c = 'f' then some ⟨frames, .word ['a', 'l', 's', 'e'] (.bool false)⟩
  else if c = 'n' then some ⟨frames, .word ['u', 'l', 'l'] .null⟩
  else if c = '-' then some ⟨frames, .number (noDigits true) .firstDigit⟩
  else
    (stepNumber (noDigits false) .firstDigit c).map fun next => ⟨frames, .number next.1 next.2⟩

def stepBetween (frames : List Frame) (mode : Mode) (c : Char) : Option Reader :=
  if isBlank c then some ⟨frames, mode⟩
  else
    match mode with
    | .value => startValue rules frames c
    | .firstItem =>
        if c = ']' then some (complete frames (.array []))
        else startValue rules (.item [] :: frames) c
    | .afterItem items =>
        if c = ',' then some ⟨.item items :: frames, .value⟩
        else if c = ']' then some (complete frames (.array items.reverse))
        else none
    | .firstKey =>
        if c = '"' then some ⟨frames, .text (.key []) .start⟩
        else if c = '}' then some (complete frames (.object []))
        else none
    | .nextKey members =>
        if c = '"' then some ⟨frames, .text (.key members) .start⟩ else none
    | .colon members key => if c = ':' then some ⟨.member members key :: frames, .value⟩ else none
    | .afterMember members =>
        if c = ',' then some ⟨frames, .nextKey members⟩
        else if c = '}' then some (complete frames (.object members.reverse))
        else none
    | _ => none

def step (reader : Reader) (c : Char) : Option Reader :=
  match reader.mode with
  | .text use scan =>
      if scan.closes c then completeText rules reader.frames use scan.result
      else (scan.step c).map fun scan => ⟨reader.frames, .text use scan⟩
  | .word [] _ => none
  | .word [last] value => if c = last then some (complete reader.frames value) else none
  | .word (next :: rest) value =>
      if c = next then some ⟨reader.frames, .word rest value⟩ else none
  | .number numeral stage =>
      match stepNumber numeral stage c with
      | some (numeral, stage) => some ⟨reader.frames, .number numeral stage⟩
      | none =>
          if stage.complete then do
            let reader ← completeNumber rules reader.frames numeral
            stepBetween rules reader.frames reader.mode c
          else none
  | mode => stepBetween rules reader.frames mode c

def finish (reader : Reader) : Option Json :=
  match reader.mode with
  | .finished value => some value
  | .number numeral stage =>
      if stage.complete then
        match completeNumber rules reader.frames numeral with
        | some ⟨_, .finished value⟩ => some value
        | _ => none
      else none
  | _ => none

end Reader

def read? (rules : Rules) (text : String) : Option Json := do
  let reader ← text.toList.foldlM (Reader.step rules) Reader.start
  reader.finish rules

end VehicleSim.Json
