import VehicleSim.Proofs.Json.Grammar

/-!
Reading strings and numbers. A string is read unit by unit up to its quote, with at most one surrogate that waits for its
other half; a number is read digit by digit and only complete once something follows that does not belong to it.
-/

set_option autoImplicit false

namespace VehicleSim.Json

variable (rules : Rules)

def readFrom (reader : Reader) (chars : List Char) : Option Json :=
  chars.foldlM (Reader.step rules) reader >>= Reader.finish rules

theorem read_from_start (text : String) : read? rules text = readFrom rules Reader.start text.toList := rfl

theorem read_from_cons (reader : Reader) (c : Char) (chars : List Char) :
    readFrom rules reader (c :: chars) = (reader.step rules c).bind (readFrom rules · chars) := by
  rw [readFrom, List.foldlM_cons]
  cases reader.step rules c <;> rfl

theorem read_from_step {reader next : Reader} {c : Char} (chars : List Char) (stepped : reader.step rules c = some next) :
    readFrom rules reader (c :: chars) = readFrom rules next chars := by
  rw [read_from_cons, stepped, Option.bind_some]

def Mode.waits : Mode → Bool
  | .text .. | .number .. | .word .. => Bool.false
  | _ => Bool.true

theorem step_waiting (frames : List Frame) (mode : Mode) (waits : mode.waits = Bool.true) (c : Char) :
    Reader.step rules ⟨frames, mode⟩ c = Reader.stepBetween rules frames mode c := by
  cases mode <;> first | rfl | cases waits

theorem read_blank (frames : List Frame) (mode : Mode) (waits : mode.waits = Bool.true) (blank rest : List Char)
    (blanks : Blank blank) : readFrom rules ⟨frames, mode⟩ (blank ++ rest) = readFrom rules ⟨frames, mode⟩ rest := by
  induction blank with
  | nil => rfl
  | cons c blank ih =>
      rw [Blank, List.forall_mem_cons] at blanks
      have stays : Reader.step rules ⟨frames, mode⟩ c = some ⟨frames, mode⟩ := by
        rw [step_waiting rules frames mode waits]
        unfold Reader.stepBetween
        rw [if_pos blanks.1]
      rw [List.cons_append, read_from_step rules _ stays]
      exact ih blanks.2

theorem complete_waits (frames : List Frame) (json : Json) : (Reader.complete frames json).mode.waits = Bool.true := by
  cases frames with
  | nil => rfl
  | cons frame rest => cases frame <;> rfl

namespace TextScan

def take (scan : TextScan) : TextUnit → TextScan
  | .char c => scan.push c
  | .code unit => scan.pushUnit unit

theorem take_escape (scan : TextScan) (unit : TextUnit) : (scan.take unit).escape = .none := by
  cases unit with
  | char c => rfl
  | code unit =>
      rw [take, pushUnit]
      split <;> repeat (first | rfl | split)

theorem take_any_escape (scan : TextScan) (unit : TextUnit) (escape : EscapeStage) :
    TextScan.take { scan with escape } unit = scan.take unit := by
  cases unit with
  | char c => rfl
  | code unit =>
      rw [take, take, pushUnit, pushUnit]

def pending (scan : TextScan) : List TextUnit :=
  match scan.high with
  | some unit => [.code unit]
  | none => []

def Leads (scan : TextScan) : Prop := ∀ unit ∈ scan.high, isLeading unit = Bool.true

theorem push_unit_waiting (scan : TextScan) (unit other : Nat) (high : scan.high = some unit) :
    scan.pushUnit other =
      if isTrailing other then
        { scan with chars := pairChar unit other :: scan.chars, high := none, escape := .none }
      else { scan with high := none, proper := Bool.false, escape := .none } := by
  rw [pushUnit, high]
  rfl

theorem push_unit_alone (scan : TextScan) (unit : Nat) (high : scan.high = none) :
    scan.pushUnit unit =
      if isLeading unit then { scan with high := some unit, escape := .none }
      else if isTrailing unit then { scan with proper := Bool.false, escape := .none }
      else { scan with chars := Char.ofNat unit :: scan.chars, escape := .none } := by
  rw [pushUnit, high]
  rfl

theorem improper_take (scan : TextScan) (units : List TextUnit) (improper : scan.proper = Bool.false) :
    (units.foldl take scan).result = none := by
  induction units generalizing scan with
  | nil => rw [List.foldl_nil, result, improper, Bool.false_and, if_neg Bool.false_ne_true]
  | cons unit rest ih =>
      refine ih _ ?_
      cases unit with
      | char c => rw [take, push, improper, Bool.false_and]
      | code unit =>
          rw [take]
          cases high : scan.high with
          | none =>
              rw [push_unit_alone scan unit high]
              repeat (first | assumption | rfl | split)
          | some waiting =>
              rw [push_unit_waiting scan waiting unit high]
              repeat (first | assumption | rfl | split)

def withRest (chars : List Char) (rest : Option (List Char)) : Option String :=
  rest.map fun more => String.ofList (chars.reverse ++ more)

theorem with_rest_cons (c : Char) (chars : List Char) (rest : Option (List Char)) :
    withRest (c :: chars) rest = withRest chars (rest.map (c :: ·)) := by
  cases rest with
  | none => rfl
  | some more => simp only [withRest, Option.map_some, List.reverse_cons, List.append_assoc, List.singleton_append]

theorem result_take (scan : TextScan) (units : List TextUnit) (leads : scan.Leads) (proper : scan.proper = Bool.true) :
    (units.foldl take scan).result = withRest scan.chars (joined (scan.pending ++ units)) := by
  induction units generalizing scan with
  | nil =>
      rw [List.foldl_nil, List.append_nil, result, pending, proper, Bool.true_and]
      cases high : scan.high with
      | none => simp only [joined, withRest, Option.isNone_none, if_true, Option.map_some, List.append_nil]
      | some unit => simp only [joined, leads unit high, withRest, Option.isNone_some, if_true]; rfl
  | cons other rest ih =>
      rw [List.foldl_cons]
      cases high : scan.high with
      | none =>
          have waiting : scan.pending ++ other :: rest = other :: rest := by rw [pending, high, List.nil_append]
          rw [waiting]
          cases other with
          | char c =>
              have pushed : scan.take (.char c) = ⟨c :: scan.chars, none, Bool.true, .none⟩ := by
                rw [take, push, proper, high]
                rfl
              rw [pushed, ih _ (by simp [Leads]) rfl, with_rest_cons]
              rfl
          | code other =>
              rw [take, push_unit_alone scan other high]
              cases leading : isLeading other with
              | true =>
                  rw [if_pos rfl]
                  exact ih _ (by simpa [Leads] using leading) proper
              | false =>
                  rw [if_neg Bool.false_ne_true, joined_single other rest leading]
                  split
                  · exact improper_take _ rest rfl
                  · let next : TextScan := { scan with chars := Char.ofNat other :: scan.chars, escape := .none }
                    have alone : next.pending = [] := by rw [pending, high]
                    rw [← with_rest_cons]
                    refine (ih next (by simp [Leads, next, high]) proper).trans ?_
                    rw [alone, List.nil_append]
      | some unit =>
          have leading := leads unit high
          have waiting : scan.pending ++ other :: rest = .code unit :: other :: rest := by
            rw [pending, high, List.singleton_append]
          rw [waiting]
          cases other with
          | char c =>
              have pushed : (scan.take (.char c)).proper = Bool.false := by
                rw [take, push, high, Option.isNone_some, Bool.and_false]
              rw [joined_unpaired unit c rest leading]
              exact improper_take _ rest pushed
          | code other =>
              rw [take, push_unit_waiting scan unit other high, joined_pair unit other rest leading]
              split
              · rw [← with_rest_cons]
                exact ih _ (by simp [Leads]) proper
              · exact improper_take _ rest rfl

theorem result_start (units : List TextUnit) :
    (units.foldl take start).result = (joined units).map String.ofList := result_take start units (by simp [Leads, start]) rfl

end TextScan

namespace TextScan

variable (scan : TextScan)

def within (escape : EscapeStage) : TextScan := { scan with escape }

theorem closes_within (escape : EscapeStage) (c : Char) (escaping : escape ≠ .none) :
    (scan.within escape).closes c = Bool.false := by
  cases escape with
  | none => contradiction
  | started | unit count value => rfl

theorem step_backslash (between : scan.escape = .none) :
    scan.closes '\\' = Bool.false ∧ scan.step '\\' = some (scan.within .started) := by
  rw [closes, step, between]
  exact ⟨rfl, rfl⟩

theorem step_letter (letter c : Char) (short : escaped? letter = some c) :
    (scan.within .started).step letter = some (scan.push c) := by
  have lettered : letter ≠ 'u' := fun same => by rw [same] at short; cases short
  change (if letter = 'u' then _ else (escaped? letter).map _) = _
  rw [if_neg lettered, short]
  rfl

theorem step_digit (count value digit : Nat) (c : Char) (read : hexDigit? c = some digit) (more : count ≠ 3) :
    (scan.within (.unit count value)).step c = some (scan.within (.unit (count + 1) (16 * value + digit))) := by
  change (hexDigit? c).bind _ = _
  rw [read, Option.bind_some]
  dsimp only
  rw [if_neg more]
  rfl

theorem last_digit (value digit : Nat) (c : Char) (read : hexDigit? c = some digit) :
    (scan.within (.unit 3 value)).step c = some (scan.pushUnit (16 * value + digit)) := by
  change (hexDigit? c).bind _ = _
  rw [read, Option.bind_some]
  exact congrArg some (take_any_escape scan (.code _) _)

end TextScan

theorem read_text (frames : List Frame) (use : TextUse) {scan next : TextScan} {c : Char} (chars : List Char)
    (inside : scan.closes c = Bool.false) (stepped : scan.step c = some next) :
    readFrom rules ⟨frames, .text use scan⟩ (c :: chars) = readFrom rules ⟨frames, .text use next⟩ chars := by
  refine read_from_step rules chars ?_
  simp only [Reader.step, inside, stepped, Bool.false_eq_true, if_false, Option.map_some]

theorem read_units (frames : List Frame) (use : TextUse) (units : List TextUnit) (chars rest : List Char)
    (spells : SpellsUnits units chars) (scan : TextScan) (between : scan.escape = .none) :
    readFrom rules ⟨frames, .text use scan⟩ (chars ++ '"' :: rest) =
      (Reader.completeText rules frames use (units.foldl TextScan.take scan).result).bind (readFrom rules · rest) := by
  induction spells generalizing scan with
  | done =>
      have closes : scan.closes '"' = Bool.true := by rw [TextScan.closes, between]; rfl
      rw [List.nil_append, read_from_cons]
      simp only [Reader.step, closes, if_true, List.foldl_nil]
  | plain c units chars printed quote backslash spells ih =>
      have inside : scan.closes c = Bool.false := by
        rw [TextScan.closes, between]
        exact decide_eq_false quote
      have stepped : scan.step c = some (scan.push c) := by
        rw [TextScan.step, between]
        simp only [backslash, Nat.not_lt.mpr printed, if_false]
      rw [List.cons_append, read_text rules frames use _ inside stepped]
      exact ih _ rfl
  | escape letter c units chars short spells ih =>
      obtain ⟨inside, started⟩ := scan.step_backslash between
      have escaping := scan.closes_within .started letter (by simp)
      rw [List.cons_append, read_text rules frames use _ inside started, List.cons_append,
        read_text rules frames use _ escaping (scan.step_letter letter c short)]
      exact ih _ rfl
  | code a b c d i j k l units chars first second third fourth spells ih =>
      obtain ⟨inside, started⟩ := scan.step_backslash between
      have escaping := scan.closes_within .started 'u' (by simp)
      have opened : (scan.within .started).step 'u' = some (scan.within (.unit 0 0)) := rfl
      have digit (count value : Nat) (c : Char) : (scan.within (.unit count value)).closes c = Bool.false := rfl
      simp only [List.cons_append]
      rw [read_text rules frames use _ inside started, read_text rules frames use _ escaping opened,
        read_text rules frames use _ (digit _ _ a) (scan.step_digit 0 0 i a first (by decide)),
        read_text rules frames use _ (digit _ _ b) (scan.step_digit 1 _ j b second (by decide)),
        read_text rules frames use _ (digit _ _ c) (scan.step_digit 2 _ k c third (by decide)),
        read_text rules frames use _ (digit _ _ d) (scan.last_digit _ l d fourth)]
      refine (ih _ (scan.take_escape (.code _))).trans ?_
      rw [Nat.mul_zero, Nat.zero_add]
      rfl

theorem read_string (frames : List Frame) (use : TextUse) (text : Option String) (chars rest : List Char)
    (spells : SpellsText text chars) (reader : Reader)
    (opens : reader.step rules '"' = some ⟨frames, .text use .start⟩) :
    readFrom rules reader (chars ++ rest) = (Reader.completeText rules frames use text).bind (readFrom rules · rest) := by
  obtain ⟨units, chars, spells⟩ := spells
  rw [List.cons_append, List.append_assoc, read_from_step rules _ opens, List.singleton_append,
    read_units rules frames use units chars rest spells .start rfl, TextScan.result_start]

theorem digit_back : ∀ digit : Digit, digit? (digitChar digit) = some digit := by decide

theorem digit_starts : ∀ digit : Digit,
    isBlank (digitChar digit) = Bool.false ∧ digitChar digit ∉ ['{', '[', '"', 't', 'f', 'n', '-'] := by decide

theorem read_number_step (frames : List Frame) {numeral next : Numeral} {stage after : NumberStage} {c : Char}
    (chars : List Char) (stepped : stepNumber numeral stage c = some (next, after)) :
    readFrom rules ⟨frames, .number numeral stage⟩ (c :: chars) = readFrom rules ⟨frames, .number next after⟩ chars := by
  refine read_from_step rules chars ?_
  simp only [Reader.step, stepped]

theorem read_digits (frames : List Frame) (stage : NumberStage) (put : List Digit → Numeral)
    (adds : ∀ digits digit, stepNumber (put digits) stage (digitChar digit) = some (put (digits ++ [digit]), stage))
    (before digits : List Digit) (rest : List Char) :
    readFrom rules ⟨frames, .number (put before) stage⟩ (digits.map digitChar ++ rest) =
      readFrom rules ⟨frames, .number (put (before ++ digits)) stage⟩ rest := by
  induction digits generalizing before with
  | nil => rw [List.map_nil, List.nil_append, List.append_nil]
  | cons digit digits ih =>
      rw [List.map_cons, List.cons_append, read_number_step rules frames _ (adds before digit), ih, List.append_assoc]
      rfl

theorem step_first_digit (numeral : Numeral) (digit : Digit) :
    stepNumber numeral .firstDigit (digitChar digit) =
      some ({ numeral with whole := numeral.whole ++ [digit] }, if digit = 0 then .afterZero else .whole) := by
  simp only [stepNumber, digit_back]

theorem step_exponent_digit (numeral : Numeral) (stage : NumberStage) (digit : Digit) (negative : Bool)
    (digits : List Digit) (exponent : numeral.exponent = some (negative, digits))
    (stages : stage = .exponentSign ∨ stage = .firstExponent ∨ stage = .exponent) :
    stepNumber numeral stage (digitChar digit) =
      some ({ numeral with exponent := some (negative, digits ++ [digit]) }, .exponent) := by
  rcases stages with rfl | rfl | rfl <;> simp only [stepNumber, digit_back, exponent, Option.getD_some]

theorem read_first_digit (frames : List Frame) (negative : Bool) (digit : Digit) (rest : List Char) :
    readFrom rules ⟨frames, .value⟩ ((if negative then ['-'] else []) ++ digitChar digit :: rest) =
      readFrom rules ⟨frames, .number ⟨negative, [digit], none, none⟩ (if digit = 0 then .afterZero else .whole)⟩
        rest := by
  cases negative with
  | true =>
      have started : Reader.step rules ⟨frames, .value⟩ '-' = some ⟨frames, .number (noDigits Bool.true) .firstDigit⟩ :=
        rfl
      rw [if_pos rfl, List.singleton_append, read_from_step rules _ started,
        read_number_step rules frames _ (step_first_digit _ digit)]
      rfl
  | false =>
      obtain ⟨blank, other⟩ := digit_starts digit
      simp only [List.mem_cons, List.not_mem_nil, or_false, not_or] at other
      obtain ⟨brace, bracket, quote, t, f, n, minus⟩ := other
      have started : Reader.step rules ⟨frames, .value⟩ (digitChar digit) = some ⟨frames,
          .number ⟨Bool.false, [digit], none, none⟩ (if digit = 0 then .afterZero else .whole)⟩ := by
        rw [step_waiting rules frames .value rfl]
        simp only [Reader.stepBetween, blank, Reader.startValue, brace, bracket, quote, t, f, n, minus, step_first_digit,
          Bool.false_eq_true, if_false, Option.map_some]
        rfl
      rw [if_neg Bool.false_ne_true, List.nil_append, read_from_step rules _ started]

theorem read_whole (frames : List Frame) (negative : Bool) (digits : List Digit) (chars : List Char)
    (spells : SpellsWhole digits chars) : ∃ stage, (stage = .afterZero ∨ stage = .whole) ∧ ∀ rest,
      readFrom rules ⟨frames, .value⟩ ((if negative then ['-'] else []) ++ (chars ++ rest)) =
        readFrom rules ⟨frames, .number ⟨negative, digits, none, none⟩ stage⟩ rest := by
  cases spells with
  | zero => exact ⟨.afterZero, Or.inl rfl, fun rest => read_first_digit rules frames negative 0 rest⟩
  | digits first digits leading =>
      refine ⟨.whole, Or.inr rfl, fun rest => ?_⟩
      rw [List.map_cons, List.cons_append, read_first_digit, if_neg leading]
      refine read_digits rules frames .whole (fun digits => ⟨negative, digits, none, none⟩) ?_ [first] digits rest
      intro digits digit
      simp only [stepNumber, digit_back]

theorem read_fraction (frames : List Frame) (negative : Bool) (whole : List Digit) (stage : NumberStage)
    (stages : stage = .afterZero ∨ stage = .whole) (fraction : Option (List Digit)) (chars : List Char)
    (spells : SpellsFraction fraction chars) : ∃ after, (after = .afterZero ∨ after = .whole ∨ after = .fraction) ∧
      ∀ rest, readFrom rules ⟨frames, .number ⟨negative, whole, none, none⟩ stage⟩ (chars ++ rest) =
        readFrom rules ⟨frames, .number ⟨negative, whole, fraction, none⟩ after⟩ rest := by
  cases spells with
  | none => exact ⟨stage, stages.imp_right Or.inl, fun rest => rfl⟩
  | digits first digits =>
      refine ⟨.fraction, Or.inr (Or.inr rfl), fun rest => ?_⟩
      have point : stepNumber ⟨negative, whole, none, none⟩ stage '.' =
          some (⟨negative, whole, some [], none⟩, .firstFraction) := by
        rcases stages with rfl | rfl <;> rfl
      have started : stepNumber ⟨negative, whole, some [], none⟩ .firstFraction (digitChar first) =
          some (⟨negative, whole, some [first], none⟩, .fraction) := by
        simp only [stepNumber, digit_back]
        rfl
      rw [List.map_cons, List.cons_append, List.cons_append, read_number_step rules frames _ point,
        read_number_step rules frames _ started]
      refine read_digits rules frames .fraction (fun digits => ⟨negative, whole, some digits, none⟩) ?_ [first] digits rest
      intro digits digit
      simp only [stepNumber, digit_back]
      rfl

theorem read_exponent (frames : List Frame) (negative : Bool) (whole : List Digit) (fraction : Option (List Digit))
    (stage : NumberStage) (stages : stage = .afterZero ∨ stage = .whole ∨ stage = .fraction)
    (exponent : Option (Bool × List Digit)) (chars : List Char) (spells : SpellsExponent exponent chars) :
    ∃ after, NumberStage.complete after = Bool.true ∧
      ∀ rest, readFrom rules ⟨frames, .number ⟨negative, whole, fraction, none⟩ stage⟩ (chars ++ rest) =
        readFrom rules ⟨frames, .number ⟨negative, whole, fraction, exponent⟩ after⟩ rest := by
  cases spells with
  | none => exact ⟨stage, by rcases stages with rfl | rfl | rfl <;> rfl, fun rest => rfl⟩
  | digits mark down sign first digits marks signs =>
      refine ⟨.exponent, rfl, fun rest => ?_⟩
      have marked : stepNumber ⟨negative, whole, fraction, none⟩ stage mark =
          some (⟨negative, whole, fraction, some (Bool.false, [])⟩, .exponentSign) := by
        rcases stages with rfl | rfl | rfl <;> rcases marks with rfl | rfl <;> rfl
      have started (at_ : NumberStage) (stages : at_ = .exponentSign ∨ at_ = .firstExponent ∨ at_ = .exponent)
          (chars : List Char) :
          readFrom rules ⟨frames, .number ⟨negative, whole, fraction, some (down, [])⟩ at_⟩
              (digitChar first :: (digits.map digitChar ++ chars)) =
            readFrom rules ⟨frames, .number ⟨negative, whole, fraction, some (down, first :: digits)⟩ .exponent⟩ chars := by
        rw [read_number_step rules frames _ (step_exponent_digit _ at_ first down [] rfl stages)]
        refine read_digits rules frames .exponent (fun digits => ⟨negative, whole, fraction, some (down, digits)⟩) ?_ [first]
          digits chars
        intro digits digit
        exact step_exponent_digit _ .exponent digit down digits rfl (Or.inr (Or.inr rfl))
      rw [List.cons_append, List.cons_append, read_number_step rules frames _ marked, List.append_assoc]
      cases signs with
      | none => exact started .exponentSign (Or.inl rfl) rest
      | plus =>
          rw [List.singleton_append, read_number_step rules frames _ (by rfl)]
          exact started .firstExponent (Or.inr (Or.inl rfl)) rest
      | minus =>
          rw [List.singleton_append, read_number_step rules frames _ (by rfl)]
          exact started .firstExponent (Or.inr (Or.inl rfl)) rest

theorem read_numeral (frames : List Frame) (numeral : Numeral) (chars : List Char) (spells : SpellsNumber numeral chars) :
    ∃ stage, NumberStage.complete stage = Bool.true ∧ ∀ rest, readFrom rules ⟨frames, .value⟩ (chars ++ rest) =
      readFrom rules ⟨frames, .number numeral stage⟩ rest := by
  obtain ⟨negative, digits, decimals, power, whole, fraction, exponent, wholes, fractions, exponents⟩ := spells
  obtain ⟨first, firsts, readWhole⟩ := read_whole rules frames negative digits whole wholes
  obtain ⟨second, seconds, readFraction⟩ :=
    read_fraction rules frames negative digits first firsts decimals fraction fractions
  obtain ⟨last, complete, readExponent⟩ :=
    read_exponent rules frames negative digits decimals second seconds power exponent exponents
  refine ⟨last, complete, fun rest => ?_⟩
  simp only [List.append_assoc]
  rw [readWhole, readFraction, readExponent]

-- A number is over only once something else follows, or the text ends.
def ends (c : Char) : Bool := isBlank c || c = ',' || c = ']' || c = '}'

def Ended (rest : List Char) : Prop := ∀ c ∈ rest.head?, ends c = Bool.true

theorem ended_cons (c : Char) (rest : List Char) (end_ : ends c = Bool.true) : Ended (c :: rest) := by
  intro other first
  cases first
  exact end_

theorem ended_blank (blank rest : List Char) (blanks : Blank blank) (ended : Ended rest) : Ended (blank ++ rest) := by
  cases blank with
  | nil => exact ended
  | cons c more =>
      refine ended_cons c _ ?_
      rw [ends, blanks c List.mem_cons_self]
      rfl

theorem number_ended (numeral : Numeral) (stage : NumberStage) (c : Char) (end_ : ends c = Bool.true)
    (complete : stage.complete = Bool.true) : stepNumber numeral stage c = none := by
  have other : digit? c = none ∧ c ≠ '.' ∧ c ≠ 'e' ∧ c ≠ 'E' := by
    simp only [ends, isBlank, Bool.or_eq_true, decide_eq_true_eq] at end_
    rcases end_ with (((((rfl | rfl) | rfl) | rfl) | rfl) | rfl) | rfl <;> decide
  obtain ⟨digit, point, small, large⟩ := other
  cases stage <;> first | exact absurd complete (by decide) | simp [stepNumber, digit, point, small, large]

theorem complete_number (frames : List Frame) (numeral : Numeral) (depth : Nat) :
    Reader.completeNumber rules frames numeral =
      if fits rules depth (.number numeral) then some (Reader.complete frames (.number numeral)) else none := by
  rw [Reader.completeNumber, fits]
  cases rules.checked <;> cases numeral.toBinary64? <;> rfl

theorem read_number_end (frames : List Frame) (numeral : Numeral) (stage : NumberStage)
    (complete : stage.complete = Bool.true) (depth : Nat) (rest : List Char) (ended : Ended rest) :
    readFrom rules ⟨frames, .number numeral stage⟩ rest =
      if fits rules depth (.number numeral) then readFrom rules (Reader.complete frames (.number numeral)) rest
      else none := by
  have completed := complete_number rules frames numeral depth
  cases rest with
  | nil =>
      have finishes (reader : Reader) : readFrom rules reader [] = Reader.finish rules reader := rfl
      rw [finishes, finishes]
      cases fit : fits rules depth (.number numeral) with
      | false => simp [Reader.finish, complete, completed, fit]
      | true =>
          simp only [Reader.finish, complete, completed, fit, if_true]
          cases frames with
          | nil => rfl
          | cons frame rest => cases frame <;> rfl
  | cons c rest =>
      have stuck := number_ended numeral stage c (ended c rfl) complete
      have step : Reader.step rules ⟨frames, .number numeral stage⟩ c =
          (Reader.completeNumber rules frames numeral).bind fun reader =>
            Reader.stepBetween rules reader.frames reader.mode c := by
        simp only [Reader.step, stuck, complete, if_true]
        rfl
      have next := step_waiting rules (Reader.complete frames (.number numeral)).frames _
        (complete_waits frames (.number numeral)) c
      rw [read_from_cons, read_from_cons, step, completed]
      split
      · rw [Option.bind_some, ← next]
      · rfl

end VehicleSim.Json
