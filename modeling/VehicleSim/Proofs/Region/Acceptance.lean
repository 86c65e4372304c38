import VehicleSim.Proofs.Region.Decoding

/-!
Which texts of objects are accepted. Every type has its fields, each with the values it admits; an object is refused
when it says too little, too much or something else under the name of one of them, and what it says under other names
only has to fit.
-/

set_option autoImplicit false

namespace VehicleSim.Message

open Json (Members MeansInt32 MeansFloat MeansVector MeansRotation)

inductive Shape where
  | kind
  | kindCode
  | whole
  | float
  | vector
  | rotation
  | flag

namespace Shape

def Admits : Shape → Json → Prop
  | kind, json => ∃ named, Kind.Named json named
  | kindCode, json => ∃ coded : Kind, MeansInt32 json coded.code
  | whole, json => ∃ value, MeansInt32 json value
  | float, json => ∃ value, MeansFloat json value
  | vector, json => ∃ value, MeansVector json value
  | rotation, json => ∃ value, MeansRotation json value
  | flag, json => ∃ value, json = .bool value

end Shape

structure Field where
  name : String
  shape : Shape
  required : Bool

def fieldsOf? : String → Option (List Field)
  | "ping" => some []
  | "vehicle_type" => some [⟨"value", .kind, true⟩]
  | "vehicle_type_code" => some [⟨"value", .kindCode, true⟩]
  | "vehicle_float" => some [⟨"param", .whole, true⟩, ⟨"value", .float, true⟩]
  | "vehicle_vector" => some [⟨"param", .whole, true⟩, ⟨"value", .vector, true⟩]
  | "vehicle_rotation" => some [⟨"param", .whole, true⟩, ⟨"value", .rotation, true⟩]
  | "vehicle_flags" => some [⟨"mask", .whole, true⟩, ⟨"remove", .flag, false⟩]
  | _ => none

def Field.Given (field : Field) (members : Members) : Prop :=
  (∃ json, members.under field.name = [json] ∧ field.shape.Admits json) ∨
    members.under field.name = [] ∧ field.required = false

def Typed (members : Members) (tag : String) (fields : List Field) : Prop :=
  members.under "type" = [.text (some tag)] ∧ fieldsOf? tag = some fields

theorem given_value (members : Members) (field : Field) (json : Json) (once : members.under field.name = [json])
    (admits : field.shape.Admits json) : field.Given members := Or.inl ⟨json, once, admits⟩

theorem given_of_means (members : Members) (message : Message) (means : Means members message) :
    ∃ tag fields, Typed members tag fields ∧ ∀ field ∈ fields, field.Given members := by
  have one (first : Field) (given : first.Given members) : ∀ field ∈ [first], field.Given members :=
    List.forall_mem_singleton.mpr given
  have two (first second : Field) (given : first.Given members) (also : second.Given members) :
      ∀ field ∈ [first, second], field.Given members := List.forall_mem_cons.mpr ⟨given, one second also⟩
  cases means with
  | ping type => exact ⟨"ping", [], ⟨type, rfl⟩, List.forall_mem_nil _⟩
  | kind json kind type once named =>
      exact ⟨"vehicle_type", _, ⟨type, rfl⟩, one _ (given_value _ _ json once ⟨kind, named⟩)⟩
  | kindCode json kind type once coded =>
      exact ⟨"vehicle_type_code", _, ⟨type, rfl⟩, one _ (given_value _ _ json once ⟨kind, coded⟩)⟩
  | float code json param amount type codes once coded means =>
      exact ⟨"vehicle_float", _, ⟨type, rfl⟩,
        two _ _ (given_value _ _ code codes ⟨param, coded⟩) (given_value _ _ json once ⟨amount, means⟩)⟩
  | vector code json param vector type codes once coded means =>
      exact ⟨"vehicle_vector", _, ⟨type, rfl⟩,
        two _ _ (given_value _ _ code codes ⟨param, coded⟩) (given_value _ _ json once ⟨vector, means⟩)⟩
  | rotation code json param rotation type codes once coded means =>
      exact ⟨"vehicle_rotation", _, ⟨type, rfl⟩,
        two _ _ (given_value _ _ code codes ⟨param, coded⟩) (given_value _ _ json once ⟨rotation, means⟩)⟩
  | flags code mask remove type masks removes coded =>
      exact ⟨"vehicle_flags", _, ⟨type, rfl⟩,
        two _ _ (given_value _ _ code masks ⟨mask, coded⟩) (given_value _ _ _ removes ⟨remove, rfl⟩)⟩
  | addFlags code mask type masks left coded =>
      exact ⟨"vehicle_flags", _, ⟨type, rfl⟩, two _ _ (given_value _ _ code masks ⟨mask, coded⟩) (Or.inr ⟨left, rfl⟩)⟩

theorem means_of_given (members : Members) (tag : String) (fields : List Field) (typed : Typed members tag fields)
    (given : ∀ field ∈ fields, field.Given members) : ∃ message, Means members message := by
  obtain ⟨type, known⟩ := typed
  have one (field : Field) (asked : field ∈ fields) (required : field.required = true) :
      ∃ json, members.under field.name = [json] ∧ field.shape.Admits json := by
    refine (given field asked).resolve_right fun left => ?_
    rw [required] at left
    exact absurd left.2 (by decide)
  unfold fieldsOf? at known
  split at known <;> cases known
  · exact ⟨_, .ping type⟩
  · obtain ⟨json, once, kind, named⟩ := one ⟨"value", .kind, true⟩ (by simp) rfl
    exact ⟨_, .kind json kind type once named⟩
  · obtain ⟨json, once, kind, coded⟩ := one ⟨"value", .kindCode, true⟩ (by simp) rfl
    exact ⟨_, .kindCode json kind type once coded⟩
  · obtain ⟨code, codes, param, coded⟩ := one ⟨"param", .whole, true⟩ (by simp) rfl
    obtain ⟨json, once, amount, means⟩ := one ⟨"value", .float, true⟩ (by simp) rfl
    exact ⟨_, .float code json param amount type codes once coded means⟩
  · obtain ⟨code, codes, param, coded⟩ := one ⟨"param", .whole, true⟩ (by simp) rfl
    obtain ⟨json, once, vector, means⟩ := one ⟨"value", .vector, true⟩ (by simp) rfl
    exact ⟨_, .vector code json param vector type codes once coded means⟩
  · obtain ⟨code, codes, param, coded⟩ := one ⟨"param", .whole, true⟩ (by simp) rfl
    obtain ⟨json, once, rotation, means⟩ := one ⟨"value", .rotation, true⟩ (by simp) rfl
    exact ⟨_, .rotation code json param rotation type codes once coded means⟩
  · obtain ⟨code, masks, mask, coded⟩ := one ⟨"mask", .whole, true⟩ (by simp) rfl
    obtain ⟨json, removes, remove, rfl⟩ | ⟨left, -⟩ := given ⟨"remove", .flag, false⟩ (by simp)
    · exact ⟨_, .flags code mask remove type masks removes coded⟩
    · exact ⟨_, .addFlags code mask type masks left coded⟩

inductive Flawed (members : Members) : Prop where
  | untyped (none : members.under "type" = [])
  | retyped (many : 1 < (members.under "type").length)
  | wordless (json : Json) (type : json ∈ members.under "type") (wrong : ∀ tag, json ≠ .text (some tag))
  | unknown (tag : String) (type : .text (some tag) ∈ members.under "type") (unknown : fieldsOf? tag = none)
  | missing (tag : String) (fields : List Field) (field : Field) (typed : Typed members tag fields) (asked : field ∈ fields)
      (required : field.required = true) (none : members.under field.name = [])
  | repeated (tag : String) (fields : List Field) (field : Field) (typed : Typed members tag fields)
      (asked : field ∈ fields) (many : 1 < (members.under field.name).length)
  | wrong (tag : String) (fields : List Field) (field : Field) (json : Json) (typed : Typed members tag fields)
      (asked : field ∈ fields) (said : json ∈ members.under field.name) (wrong : ¬ field.shape.Admits json)

theorem typed_once (members : Members) (tag other : String) (fields others : List Field)
    (typed : Typed members tag fields) (also : Typed members other others) : fields = others := by
  have same : tag = other := by simpa using typed.1.symm.trans also.1
  subst same
  exact Option.some.inj (typed.2.symm.trans also.2)

theorem not_given_of_flawed (members : Members) (flawed : Flawed members) (tag : String) (fields : List Field)
    (typed : Typed members tag fields) : ¬ ∀ field ∈ fields, field.Given members := by
  intro given
  have ⟨type, known⟩ := typed
  cases flawed with
  | untyped none => simp [none] at type
  | retyped many => simp [type] at many
  | wordless json listed wrong =>
      rw [type, List.mem_singleton] at listed
      exact wrong tag listed
  | unknown other listed unknown =>
      rw [type, List.mem_singleton] at listed
      cases listed
      rw [unknown] at known
      cases known
  | missing other others field also asked required none =>
      rw [← typed_once members tag other fields others typed also] at asked
      obtain ⟨json, once, -⟩ | ⟨-, optional⟩ := given field asked
      · simp [none] at once
      · simp [required] at optional
  | repeated other others field also asked many =>
      rw [← typed_once members tag other fields others typed also] at asked
      obtain ⟨json, once, -⟩ | ⟨left, -⟩ := given field asked
      · simp [once] at many
      · simp [left] at many
  | wrong other others field json also asked said wrong =>
      rw [← typed_once members tag other fields others typed also] at asked
      obtain ⟨admitted, once, admits⟩ | ⟨left, -⟩ := given field asked
      · rw [once, List.mem_singleton] at said
        exact wrong (said ▸ admits)
      · simp [left] at said

theorem given_of_sound (members : Members) (sound : ¬ Flawed members) (tag : String) (fields : List Field)
    (typed : Typed members tag fields) (field : Field) (asked : field ∈ fields) : field.Given members := by
  rcases found : members.under field.name with _ | ⟨json, _ | ⟨other, rest⟩⟩
  · refine Or.inr ⟨found, ?_⟩
    by_contra required
    exact sound (.missing tag fields field typed asked (by simpa using required) found)
  · refine Or.inl ⟨json, found, ?_⟩
    by_contra wrong
    exact sound (.wrong tag fields field json typed asked (by simp [found]) wrong)
  · exact absurd (.repeated tag fields field typed asked (by simp [found])) sound

/-- An object is a message exactly when nothing is wrong with it. -/
theorem means_iff (members : Members) : (∃ message, Means members message) ↔ ¬ Flawed members := by
  constructor
  · rintro ⟨message, means⟩ flawed
    obtain ⟨tag, fields, typed, given⟩ := given_of_means members message means
    exact not_given_of_flawed members flawed tag fields typed given
  · intro sound
    rcases type : members.under "type" with _ | ⟨json, _ | ⟨other, rest⟩⟩
    · exact absurd (.untyped type) sound
    · by_cases word : ∃ tag, json = .text (some tag)
      · obtain ⟨tag, rfl⟩ := word
        cases known : fieldsOf? tag with
        | none => exact absurd (.unknown tag (by simp [type]) known) sound
        | some fields =>
            have typed : Typed members tag fields := ⟨type, known⟩
            exact means_of_given members tag fields typed (given_of_sound members sound tag fields typed)
      · exact absurd (.wordless json (by simp [type]) fun tag same => word ⟨tag, same⟩) sound
    · exact absurd (.retyped (by simp [type])) sound

theorem object_fits_iff (members : Members) :
    Json.fits .strict 0 (.object members) = true ↔
      members.Proper ∧ ∀ member ∈ members, Json.fits .strict 1 member.2 = true := by
  change Json.membersFit .strict 1 members = true ↔ _
  rw [Json.members_fit_iff, Members.Proper, ← forall₂_and]
  simp [Json.Rules.strict]

theorem of_text_tagged (text tag : String) (json fields : Json) (read : Json.read? .strict text = some json)
    (tagged : tagged? json = some (tag, fields)) : ofText text = ofFields tag fields := by
  rw [ofText, read, Option.bind_eq_bind, Option.bind_some, tagged]

theorem of_text_untagged (text : String) (json : Json) (read : Json.read? .strict text = some json)
    (untagged : tagged? json = none) : ofText text = .error .malformed := by
  rw [ofText, read, Option.bind_eq_bind, Option.bind_some, untagged]

/-- What is read of the text of an object. -/
theorem of_text_iff (members : Members) (text : String) (spelled : Json.Text (.object members) text) (message : Message) :
    ofText text = .ok message ↔ Json.fits .strict 0 (.object members) = true ∧ Means members message := by
  have read := Json.read_spelled .strict (.object members) text spelled
  by_cases fit : Json.fits .strict 0 (.object members) = true
  · rw [if_pos fit] at read
    rw [and_iff_right fit]
    have proper := ((object_fits_iff members).mp fit).1
    constructor
    · intro ok
      cases tagged : tagged? (.object members) with
      | none =>
          rw [of_text_untagged text _ read tagged] at ok
          cases ok
      | some found =>
          obtain ⟨type, same⟩ := (tagged_iff members found.1 found.2).mp tagged
          rw [of_text_tagged text found.1 _ found.2 read tagged, same] at ok
          exact means_of_fields members found.1 message type ok
    · intro means
      obtain ⟨tag, fields, ⟨type, -⟩, -⟩ := given_of_means members message means
      rw [of_text_tagged text tag _ _ read ((tagged_iff members tag _).mpr ⟨type, rfl⟩)]
      exact fields_of_means members proper tag message type means
  · rw [if_neg fit] at read
    rw [ofText, read]
    exact iff_of_false (by simp) (fun both => fit both.1)

theorem admitted_fits (shape : Shape) (json : Json) (admitted : shape.Admits json) : Json.fits .strict 1 json = true := by
  cases shape with
  | kind => obtain ⟨kind, rfl | rfl | rfl⟩ := admitted <;> rfl
  | kindCode =>
      obtain ⟨kind, coded⟩ := admitted
      exact Json.int32_fits .strict 1 json kind.code coded
  | whole =>
      obtain ⟨value, means⟩ := admitted
      exact Json.int32_fits .strict 1 json value means
  | float =>
      obtain ⟨value, means⟩ := admitted
      exact Json.float_fits .strict 1 json value means
  | vector =>
      obtain ⟨value, means⟩ := admitted
      exact Json.vector_fits .strict 1 json value means rfl
  | rotation =>
      obtain ⟨value, means⟩ := admitted
      exact Json.rotation_fits .strict 1 json value means rfl
  | flag =>
      obtain ⟨value, rfl⟩ := admitted
      rfl

-- A name that is none of those the type of the object asks for.
def Foreign (members : Members) (name : String) : Prop :=
  name ≠ "type" ∧ ∀ tag fields, Typed members tag fields → ∀ field ∈ fields, name ≠ field.name

theorem message_fits (members : Members) (message : Message) (means : Means members message) (proper : members.Proper)
    (foreign : ∀ name json, (some name, json) ∈ members → Foreign members name → Json.fits .strict 1 json = true) :
    Json.fits .strict 0 (.object members) = true := by
  obtain ⟨tag, fields, typed, given⟩ := given_of_means members message means
  refine (object_fits_iff members).mpr ⟨proper, ?_⟩
  rintro ⟨key, json⟩ listed
  obtain ⟨name, rfl⟩ := Option.isSome_iff_exists.mp (proper _ listed)
  have said := (Members.mem_under members name json).mpr listed
  by_cases type : name = "type"
  · rw [type, typed.1, List.mem_singleton] at said
    rw [said]
    rfl
  · by_cases asked : ∃ field ∈ fields, name = field.name
    · obtain ⟨field, asked, rfl⟩ := asked
      obtain ⟨admitted, once, admits⟩ | ⟨left, -⟩ := given field asked
      · rw [once, List.mem_singleton] at said
        exact said ▸ admitted_fits field.shape admitted admits
      · simp [left] at said
    · refine foreign name json listed ⟨type, fun other others also field asks same => asked ⟨field, ?_, same⟩⟩
      rwa [typed_once members tag other fields others typed also]

/-- A text of an object is read as the command that its fields spell, in whatever order they stand and whatever fitting
things the object says under other names; and it is refused if anything is wrong with its type or its fields. -/
theorem command_texts (members : Members) (text : String) (spelled : Json.Text (.object members) text) :
    (∀ command, Means members (.command command) → members.Proper →
      (∀ name json, (some name, json) ∈ members → Foreign members name → Json.fits .strict 1 json = true) →
        ofText text = .ok (.command command)) ∧
      (Flawed members → ∃ error, ofText text = .error error) := by
  constructor
  · intro command means proper foreign
    exact (of_text_iff members text spelled _).mpr ⟨message_fits members _ means proper foreign, means⟩
  · intro flawed
    cases read : ofText text with
    | error error => exact ⟨error, rfl⟩
    | ok message =>
        have means := ((of_text_iff members text spelled message).mp read).2
        exact absurd flawed ((means_iff members).mp ⟨message, means⟩)

theorem flags_text_read :
    ofText "\x7b\"mask\":4, \"x\":null,\"type\":\"vehicle_flags\"\x7d" = .ok (.command (.setFlags 4 false)) ∧
      ∃ error, ofText "\x7b\"type\":\"fly\"\x7d" = .error error := by
  have code : Json.SpellsNumber ⟨false, [4], none, none⟩ ['4'] :=
    .parts false [4] none none ['4'] [] [] (.digits 4 [] (by decide)) .none .none
  have mask := Json.plain_member ['m', 'a', 's', 'k'] rfl _ _ (Json.spells_bare _ _ (.number _ _ code))
  have other := Json.Spells.member (some "x") .null [' '] _ [] _ (by simp [Json.Blank, Json.isBlank])
    (Json.plain_text ['x'] rfl) Json.blank_nil (Json.spells_bare _ _ .null)
  have type := Json.plain_member ['t', 'y', 'p', 'e'] rfl _ _
    (Json.plain_value ['v', 'e', 'h', 'i', 'c', 'l', 'e', '_', 'f', 'l', 'a', 'g', 's'] rfl)
  have unknown := Json.plain_member ['t', 'y', 'p', 'e'] rfl _ _ (Json.plain_value ['f', 'l', 'y'] rfl)
  constructor
  · have object := Json.text_of_chars _ _ (Json.spells_bare _ _
      (.object _ _ (.nextMember _ _ _ _ _ mask (.nextMember _ _ _ _ _ other (.lastMember _ _ _ type)))))
    refine (command_texts _ _ object).1 (.setFlags 4 false) ?_ ?_ ?_
    · exact .addFlags _ 4 rfl rfl rfl ⟨_, rfl, rfl, by decide, by decide⟩
    · simp [Members.Proper]
    · intro name json listed foreign
      simp only [List.mem_cons, Prod.mk.injEq, Option.some.injEq, List.not_mem_nil, or_false] at listed
      obtain ⟨rfl, -⟩ | ⟨-, rfl⟩ | ⟨rfl, -⟩ := listed
      · exact absurd rfl (foreign.2 "vehicle_flags" _ ⟨rfl, rfl⟩ ⟨"mask", .whole, true⟩ (by simp))
      · rfl
      · exact absurd rfl foreign.1
  · have object := Json.text_of_chars _ _ (Json.spells_bare _ _ (.object _ _ (.lastMember _ _ _ unknown)))
    exact (command_texts _ _ object).2 (.unknown "fly" List.mem_cons_self rfl)

-- All that is asked for is there, and the command is refused for a number that nobody asked for.
theorem unfit_stranger_refused :
    let text := "\x7b\"type\":\"vehicle_flags\",\"mask\":4,\"x\":1e999\x7d"
    ∃ members : Members, Json.Text (.object members) text ∧ members.Proper ∧
      Means members (.command (.setFlags 4 false)) ∧ ofText text = .error .malformed := by
  intro text
  have code : Json.SpellsNumber ⟨false, [4], none, none⟩ ['4'] :=
    .parts false [4] none none ['4'] [] [] (.digits 4 [] (by decide)) .none .none
  have huge : Json.SpellsNumber ⟨false, [1], none, some (false, [9, 9, 9])⟩ ['1', 'e', '9', '9', '9'] :=
    .parts false [1] none _ ['1'] [] _ (.digits 1 [] (by decide)) .none
      (.digits 'e' false [] 9 [9, 9] (Or.inl rfl) .none)
  have type := Json.plain_member ['t', 'y', 'p', 'e'] rfl _ _
    (Json.plain_value ['v', 'e', 'h', 'i', 'c', 'l', 'e', '_', 'f', 'l', 'a', 'g', 's'] rfl)
  have mask := Json.plain_member ['m', 'a', 's', 'k'] rfl _ _ (Json.spells_bare _ _ (.number _ _ code))
  have stranger := Json.plain_member ['x'] rfl _ _ (Json.spells_bare _ _ (.number _ _ huge))
  have object := Json.text_of_chars _ _ (Json.spells_bare _ _
    (.object _ _ (.nextMember _ _ _ _ _ type (.nextMember _ _ _ _ _ mask (.lastMember _ _ _ stranger)))))
  refine ⟨_, object, ?_, ?_, ?_⟩
  · simp [Members.Proper]
  · exact .addFlags _ 4 rfl rfl rfl ⟨_, rfl, rfl, by decide, by decide⟩
  · have read := Json.read_spelled .strict _ text object
    rw [if_neg (by decide +kernel)] at read
    rw [ofText, read]
    rfl

end VehicleSim.Message
