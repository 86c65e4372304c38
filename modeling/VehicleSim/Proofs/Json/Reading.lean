import VehicleSim.Proofs.Json.Tokens

/-!
Reading what the grammar spells. From any open containers, a spelled value is read to its end and then stands complete
in the innermost one, if it fits under so many, and otherwise the text is turned down.
-/

set_option autoImplicit false

namespace VehicleSim.Json

variable (rules : Rules)

-- How a part is read from the place where it is expected.
def Part.Reads : Part → List Char → Prop
  | .value json, chars | .padded json, chars => ∀ frames rest, Ended rest →
      readFrom rules ⟨frames, .value⟩ (chars ++ rest) =
        if fits rules frames.length json then readFrom rules (Reader.complete frames json) rest else none
  | .items list, chars => ∀ frames before rest,
      readFrom rules ⟨.item before :: frames, .value⟩ (chars ++ ']' :: rest) =
        if itemsFit rules (frames.length + 1) list then
          readFrom rules (Reader.complete frames (.array (before.reverse ++ list))) rest
        else none
  | .member key json, chars => ∀ frames before rest, Ended rest →
      readFrom rules ⟨frames, .nextKey before⟩ (chars ++ rest) =
        if membersFit rules (frames.length + 1) [(key, json)] then
          readFrom rules ⟨frames, .afterMember ((key, json) :: before)⟩ rest
        else none
  | .members list, chars => ∀ frames before rest,
      readFrom rules ⟨frames, .nextKey before⟩ (chars ++ '}' :: rest) =
        if membersFit rules (frames.length + 1) list then
          readFrom rules (Reader.complete frames (.object (before.reverse ++ list))) rest
        else none

def Part.Begins : Part → List Char → Prop
  | .value _, chars => ∃ c more, chars = c :: more ∧ isBlank c = Bool.false ∧ c ≠ ']'
  | .padded _, chars | .items _, chars =>
      ∃ blank c more, chars = blank ++ c :: more ∧ Blank blank ∧ isBlank c = Bool.false ∧ c ≠ ']'
  | .member _ _, chars | .members _, chars => ∃ blank more, chars = blank ++ '"' :: more ∧ Blank blank

theorem number_begins (numeral : Numeral) (chars : List Char) (spells : SpellsNumber numeral chars) :
    ∃ c more, chars = c :: more ∧ isBlank c = Bool.false ∧ c ≠ ']' := by
  have starts : ∀ digit : Digit, isBlank (digitChar digit) = Bool.false ∧ digitChar digit ≠ ']' := by decide
  obtain ⟨negative, digits, decimals, power, whole, fraction, exponent, wholes, -, -⟩ := spells
  cases negative with
  | true => exact ⟨'-', _, rfl, by decide, by decide⟩
  | false =>
      cases wholes with
      | zero => exact ⟨'0', _, rfl, by decide, by decide⟩
      | digits first rest leading => exact ⟨digitChar first, _, rfl, starts first⟩

theorem begins (part : Part) (chars : List Char) (spells : Spells part chars) : part.Begins chars := by
  induction spells with
  | number numeral chars spells => exact number_begins numeral chars spells
  | text text chars spells =>
      obtain ⟨units, chars, -⟩ := spells
      exact ⟨'"', _, rfl, by decide, by decide⟩
  | padded json before chars after blank value blankAfter ih =>
      obtain ⟨c, more, rfl, other⟩ := ih
      exact ⟨before, c, more ++ after, rfl, blank, other⟩
  | lastItem json chars item ih => exact ih
  | nextItem json items chars more item rest ih =>
      obtain ⟨blank, c, tail, rfl, blanks, other⟩ := ih
      exact ⟨blank, c, tail ++ ',' :: more, by rw [List.append_assoc]; rfl, blanks, other⟩
  | member key json before name after chars blank names blankAfter value ih =>
      obtain ⟨units, name, -⟩ := names
      exact ⟨before, _, rfl, blank⟩
  | lastMember key json chars member ih => exact ih
  | nextMember key json members chars more member rest ih =>
      obtain ⟨blank, tail, rfl, blanks⟩ := ih
      exact ⟨blank, tail ++ ',' :: more, by rw [List.append_assoc]; rfl, blanks⟩
  | _ => exact ⟨_, _, rfl, by decide, by decide⟩

theorem both_fit (first second : Bool) (found : Option Json) :
    (if first then if second then found else none else none) = if first && second then found else none := by
  cases first <;> rfl

theorem read_word (frames : List Frame) (json : Json) (c : Char) (word rest : List Char) :
    readFrom rules ⟨frames, .word (c :: word) json⟩ (c :: word ++ rest) =
      readFrom rules (Reader.complete frames json) rest := by
  induction word generalizing c with
  | nil =>
      have last : Reader.step rules ⟨frames, .word [c] json⟩ c = some (Reader.complete frames json) := if_pos rfl
      exact read_from_step rules rest last
  | cons next word ih =>
      have more : Reader.step rules ⟨frames, .word (c :: next :: word) json⟩ c =
          some ⟨frames, .word (next :: word) json⟩ := if_pos rfl
      exact (read_from_step rules _ more).trans (ih next)

theorem complete_text (frames : List Frame) (use : TextUse) (text : Option String) :
    Reader.completeText rules frames use text =
      if !rules.checked || text.isSome then
        match use with
        | .value => some (Reader.complete frames (.text text))
        | .key members => some ⟨frames, .colon members text⟩
      else none := by
  unfold Reader.completeText
  cases rules.checked <;> cases text <;> rfl

theorem read_bracket (frames : List Frame) (rest : List Char) :
    readFrom rules ⟨frames, .value⟩ ('[' :: rest) =
      if rules.opens frames.length then readFrom rules ⟨frames, .firstItem⟩ rest else none := by
  have step : Reader.step rules ⟨frames, .value⟩ '[' = if rules.opens frames.length then some ⟨frames, .firstItem⟩ else none :=
    rfl
  rw [read_from_cons, step]
  cases rules.opens frames.length <;> rfl

theorem read_brace (frames : List Frame) (rest : List Char) :
    readFrom rules ⟨frames, .value⟩ ('{' :: rest) =
      if rules.opens frames.length then readFrom rules ⟨frames, .firstKey⟩ rest else none := by
  have step : Reader.step rules ⟨frames, .value⟩ '{' = if rules.opens frames.length then some ⟨frames, .firstKey⟩ else none :=
    rfl
  rw [read_from_cons, step]
  cases rules.opens frames.length <;> rfl

theorem read_first_item (frames : List Frame) (items : List Json) (chars rest : List Char)
    (spells : Spells (.items items) chars) :
    readFrom rules ⟨frames, .firstItem⟩ (chars ++ rest) = readFrom rules ⟨.item [] :: frames, .value⟩ (chars ++ rest) := by
  obtain ⟨blank, c, more, rfl, blanks, other, bracket⟩ := begins _ _ spells
  have same : Reader.step rules ⟨frames, .firstItem⟩ c = Reader.step rules ⟨.item [] :: frames, .value⟩ c := by
    rw [step_waiting rules frames .firstItem rfl, step_waiting rules _ .value rfl]
    simp only [Reader.stepBetween, other, bracket, Bool.false_eq_true, if_false]
  rw [List.append_assoc, read_blank rules frames .firstItem rfl blank _ blanks,
    read_blank rules _ .value rfl blank _ blanks, List.cons_append, read_from_cons, read_from_cons, same]

theorem read_first_key (frames : List Frame) (members : List (Option String × Json)) (chars rest : List Char)
    (spells : Spells (.members members) chars) :
    readFrom rules ⟨frames, .firstKey⟩ (chars ++ rest) = readFrom rules ⟨frames, .nextKey []⟩ (chars ++ rest) := by
  obtain ⟨blank, more, rfl, blanks⟩ := begins _ _ spells
  have same : Reader.step rules ⟨frames, .firstKey⟩ '"' = Reader.step rules ⟨frames, .nextKey []⟩ '"' := rfl
  rw [List.append_assoc, read_blank rules frames .firstKey rfl blank _ blanks,
    read_blank rules _ (.nextKey []) rfl blank _ blanks, List.cons_append, read_from_cons, read_from_cons, same]

theorem reads_padded (json : Json) (before chars after : List Char) (blank : Blank before) (blankAfter : Blank after)
    (value : Part.Reads rules (.value json) chars) : Part.Reads rules (.padded json) (before ++ (chars ++ after)) := by
  intro frames rest ended
  rw [List.append_assoc, read_blank rules frames .value rfl before _ blank, List.append_assoc,
    value frames (after ++ rest) (ended_blank after rest blankAfter ended)]
  split
  · exact read_blank rules _ _ (complete_waits frames json) after rest blankAfter
  · rfl

theorem reads_member (key : Option String) (json : Json) (before name after chars : List Char) (blank : Blank before)
    (names : SpellsText key name) (blankAfter : Blank after) (value : Part.Reads rules (.padded json) chars) :
    Part.Reads rules (.member key json) (before ++ (name ++ (after ++ ':' :: chars))) := by
  intro frames done rest ended
  have colon : Reader.step rules ⟨frames, .colon done key⟩ ':' = some ⟨.member done key :: frames, .value⟩ := rfl
  simp only [List.append_assoc, List.cons_append]
  rw [read_blank rules frames (.nextKey done) rfl before _ blank,
    read_string rules frames (.key done) key name _ names ⟨frames, .nextKey done⟩ rfl, complete_text, membersFit, membersFit,
    Bool.and_true, ← both_fit]
  split
  · rw [Option.bind_some, read_blank rules frames (.colon done key) rfl after _ blankAfter,
      read_from_step rules _ colon, value _ rest ended]
    rfl
  · rfl

theorem reads_items (json : Json) (items : List Json) (chars more : List Char)
    (item : Part.Reads rules (.padded json) chars) (rest : Part.Reads rules (.items items) more) :
    Part.Reads rules (.items (json :: items)) (chars ++ ',' :: more) := by
  intro frames before tail
  have comma : Reader.step rules ⟨frames, .afterItem (json :: before)⟩ ',' =
      some ⟨.item (json :: before) :: frames, .value⟩ := rfl
  have done : Reader.complete (.item before :: frames) json = ⟨frames, .afterItem (json :: before)⟩ := rfl
  rw [List.append_assoc, List.cons_append, item _ _ (ended_cons ',' _ rfl), itemsFit, ← both_fit, done,
    read_from_step rules _ comma, rest frames (json :: before) tail, List.reverse_cons, List.append_assoc]
  rfl

theorem reads_members (key : Option String) (json : Json) (members : List (Option String × Json)) (chars more : List Char)
    (member : Part.Reads rules (.member key json) chars) (rest : Part.Reads rules (.members members) more) :
    Part.Reads rules (.members ((key, json) :: members)) (chars ++ ',' :: more) := by
  intro frames before tail
  have comma : Reader.step rules ⟨frames, .afterMember ((key, json) :: before)⟩ ',' =
      some ⟨frames, .nextKey ((key, json) :: before)⟩ := rfl
  rw [List.append_assoc, List.cons_append, member frames before _ (ended_cons ',' _ rfl), read_from_step rules _ comma,
    rest frames ((key, json) :: before) tail, both_fit, List.reverse_cons, List.append_assoc]
  simp only [membersFit, Bool.and_true]
  rfl

/-- A text that spells a part is read as this part, wherever it is expected, if the part fits there. -/
theorem reads (part : Part) (chars : List Char) (spells : Spells part chars) : part.Reads rules chars := by
  induction spells with
  | null => exact fun frames rest _ => read_word rules frames .null 'n' ['u', 'l', 'l'] rest
  | true => exact fun frames rest _ => read_word rules frames (.bool Bool.true) 't' ['r', 'u', 'e'] rest
  | false => exact fun frames rest _ => read_word rules frames (.bool Bool.false) 'f' ['a', 'l', 's', 'e'] rest
  | number numeral chars spells =>
      intro frames rest ended
      obtain ⟨stage, complete, read⟩ := read_numeral rules frames numeral chars spells
      rw [read, read_number_end rules frames numeral stage complete frames.length rest ended]
  | text text chars spells =>
      intro frames rest _
      rw [read_string rules frames .value text chars rest spells ⟨frames, .value⟩ rfl, complete_text, fits]
      split <;> rfl
  | emptyArray blank blanks =>
      intro frames rest _
      have close : Reader.step rules ⟨frames, .firstItem⟩ ']' = some (Reader.complete frames (.array [])) := rfl
      rw [List.cons_append, read_bracket, List.append_assoc, read_blank rules frames .firstItem rfl blank _ blanks,
        List.singleton_append, read_from_step rules _ close, fits, itemsFit, Bool.and_true]
  | array items chars inside ih =>
      intro frames rest _
      rw [List.cons_append, read_bracket, List.append_assoc, List.singleton_append,
        read_first_item rules frames items chars _ inside, ih frames [] rest, both_fit, fits]
      rfl
  | emptyObject blank blanks =>
      intro frames rest _
      have close : Reader.step rules ⟨frames, .firstKey⟩ '}' = some (Reader.complete frames (.object [])) := rfl
      rw [List.cons_append, read_brace, List.append_assoc, read_blank rules frames .firstKey rfl blank _ blanks,
        List.singleton_append, read_from_step rules _ close, fits, membersFit, Bool.and_true]
  | object members chars inside ih =>
      intro frames rest _
      rw [List.cons_append, read_brace, List.append_assoc, List.singleton_append,
        read_first_key rules frames members chars _ inside, ih frames [] rest, both_fit, fits]
      rfl
  | padded json before chars after blank value blankAfter ih =>
      exact reads_padded rules json before chars after blank blankAfter ih
  | lastItem json chars item ih =>
      intro frames before rest
      have close : Reader.step rules ⟨frames, .afterItem (json :: before)⟩ ']' =
          some (Reader.complete frames (.array (json :: before).reverse)) := rfl
      have done : Reader.complete (.item before :: frames) json = ⟨frames, .afterItem (json :: before)⟩ := rfl
      rw [ih _ _ (ended_cons ']' rest rfl), done, read_from_step rules _ close, List.reverse_cons, itemsFit, itemsFit,
        Bool.and_true]
      rfl
  | nextItem json items chars more item rest ih ihRest => exact reads_items rules json items chars more ih ihRest
  | member key json before name after chars blank names blankAfter value ih =>
      exact reads_member rules key json before name after chars blank names blankAfter ih
  | lastMember key json chars member ih =>
      intro frames before rest
      have close : Reader.step rules ⟨frames, .afterMember ((key, json) :: before)⟩ '}' =
          some (Reader.complete frames (.object ((key, json) :: before).reverse)) := rfl
      rw [ih frames before _ (ended_cons '}' rest rfl), read_from_step rules _ close, List.reverse_cons]
  | nextMember key json members chars more member rest ih ihRest =>
      exact reads_members rules key json members chars more ih ihRest

/-- A text of a value is read as this value, if the rules allow it, and otherwise it is turned down. -/
theorem read_spelled (json : Json) (text : String) (spelled : Text json text) :
    read? rules text = if fits rules 0 json then some json else none := by
  have read := reads rules _ _ spelled [] [] (by simp [Ended])
  rw [List.append_nil] at read
  exact (read_from_start rules text).trans read

end VehicleSim.Json
