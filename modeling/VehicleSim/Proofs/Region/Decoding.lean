import VehicleSim.Proofs.Json.Fields
import VehicleSim.Proofs.Json.Reading
import VehicleSim.Region.Message

/-!
Which objects are messages, and what they say. A message has one type, one value for every field that its type asks
for, and one or none where a field may be left out; whatever else the object says under other names does not matter.
-/

set_option autoImplicit false

namespace VehicleSim

open Json (Members Record MeansInt32 MeansFloat MeansVector MeansRotation)

namespace Kind

theorem of_name_iff (name : String) (kind : Kind) : ofName? name = some kind ↔ name = kind.name := by
  refine ⟨fun found => ?_, fun same => same ▸ kind.of_name_name⟩
  exact (of_decide_eq_true (List.find?_some (p := fun kind : Kind => kind.name = name) found)).symm

theorem of_code_iff (code : Int) (kind : Kind) : ofCode? code = some kind ↔ code = kind.code := by
  refine ⟨fun found => ?_, fun same => same ▸ kind.of_code_code⟩
  exact (of_decide_eq_true (List.find?_some (p := fun kind : Kind => kind.code = code) found)).symm

-- By name, which may stand alone or as the one key of an object with nothing under it.
def Named (json : Json) (kind : Kind) : Prop :=
  json = .text (some kind.name) ∨ json = .object [(some kind.name, .null)] ∨
    json = .object [(some kind.name, .object [])]

theorem of_json_iff (json : Json) (kind : Kind) : ofJson? json = some kind ↔ Named json kind := by
  constructor
  · intro found
    unfold ofJson? at found
    split at found
    · obtain ⟨name, rfl, named⟩ := Option.bind_eq_some_iff.mp found
      exact Or.inl (by rw [(of_name_iff name kind).mp named])
    · obtain ⟨name, rfl, named⟩ := Option.bind_eq_some_iff.mp found
      exact Or.inr (Or.inl (by rw [(of_name_iff name kind).mp named]))
    · obtain ⟨name, rfl, named⟩ := Option.bind_eq_some_iff.mp found
      exact Or.inr (Or.inr (by rw [(of_name_iff name kind).mp named]))
    · cases found
  · rintro (rfl | rfl | rfl) <;> exact kind.of_name_name

end Kind

namespace Message

variable {β : Type}

theorem value_field_iff (read : Json → Option β) (members : Members) (value : β) :
    (Record.ofMembers? ["value"] members).bind (·.required "value" read) = some value ↔
      members.Proper ∧ ∃ json, members.under "value" = [json] ∧ read json = some value := by
  constructor
  · intro found
    obtain ⟨record, made, required⟩ := Option.bind_eq_some_iff.mp found
    exact ⟨((Record.of_members_iff _ _).mp ⟨record, made⟩).1,
      (Record.required_iff made "value" (by simp) read value).mp required⟩
  · rintro ⟨proper, json, once, means⟩
    obtain ⟨record, made⟩ := (Record.of_members_iff ["value"] members).mpr ⟨proper, by simp [once]⟩
    exact Option.bind_eq_some_iff.mpr
      ⟨record, made, (Record.required_iff made "value" (by simp) read value).mpr ⟨json, once, means⟩⟩

theorem type_command_iff (members : Members) (command : Command Float32) :
    typeCommand? (.object members) = some command ↔
      members.Proper ∧ ∃ kind, command = .setType kind ∧
        ∃ json, members.under "value" = [json] ∧ Kind.ofJson? json = some kind := by
  constructor
  · intro found
    obtain ⟨record, made, rest⟩ := Option.bind_eq_some_iff.mp found
    obtain ⟨kind, named, same⟩ := Option.bind_eq_some_iff.mp rest
    cases same
    exact ⟨((Record.of_members_iff _ _).mp ⟨record, made⟩).1, kind, rfl,
      (Record.required_iff made "value" (by simp) Kind.ofJson? kind).mp named⟩
  · rintro ⟨proper, kind, rfl, given⟩
    obtain ⟨record, made, named⟩ :=
      Option.bind_eq_some_iff.mp ((value_field_iff Kind.ofJson? members kind).mpr ⟨proper, given⟩)
    exact Option.bind_eq_some_iff.mpr ⟨record, made, Option.bind_eq_some_iff.mpr ⟨kind, named, rfl⟩⟩

theorem param_fields_iff (read : Json → Option β) (members : Members) (param : Int) (value : β) :
    paramFields? read (.object members) = some (param, value) ↔
      members.Proper ∧ (∃ json, members.under "param" = [json] ∧ json.toInt32? = some param) ∧
        ∃ json, members.under "value" = [json] ∧ read json = some value := by
  constructor
  · intro found
    obtain ⟨record, made, rest⟩ := Option.bind_eq_some_iff.mp found
    obtain ⟨code, params, rest⟩ := Option.bind_eq_some_iff.mp rest
    obtain ⟨given, values, same⟩ := Option.bind_eq_some_iff.mp rest
    cases same
    exact ⟨((Record.of_members_iff _ _).mp ⟨record, made⟩).1,
      (Record.required_iff made "param" (by simp) Json.toInt32? param).mp params,
      (Record.required_iff made "value" (by simp) read value).mp values⟩
  · rintro ⟨proper, params, values⟩
    have once : ∀ name ∈ ["param", "value"], (members.under name).length ≤ 1 := by
      obtain ⟨code, param, -⟩ := params
      obtain ⟨given, value, -⟩ := values
      simp [param, value]
    obtain ⟨record, made⟩ := (Record.of_members_iff ["param", "value"] members).mpr ⟨proper, once⟩
    refine Option.bind_eq_some_iff.mpr ⟨record, made, Option.bind_eq_some_iff.mpr ⟨param, ?_, ?_⟩⟩
    · exact (Record.required_iff made "param" (by simp) Json.toInt32? param).mpr params
    · refine Option.bind_eq_some_iff.mpr ⟨value, ?_, rfl⟩
      exact (Record.required_iff made "value" (by simp) read value).mpr values

theorem flags_command_iff (members : Members) (command : Command Float32) :
    flagsCommand? (.object members) = some command ↔
      members.Proper ∧ ∃ mask remove, command = .setFlags mask remove ∧
        (∃ json, members.under "mask" = [json] ∧ json.toInt32? = some mask) ∧
        (members.under "remove" = [] ∧ remove = false ∨
          ∃ json, members.under "remove" = [json] ∧ json.toBool? = some remove) := by
  constructor
  · intro found
    obtain ⟨record, made, rest⟩ := Option.bind_eq_some_iff.mp found
    obtain ⟨mask, masks, rest⟩ := Option.bind_eq_some_iff.mp rest
    obtain ⟨remove, removes, same⟩ := Option.bind_eq_some_iff.mp rest
    cases same
    exact ⟨((Record.of_members_iff _ _).mp ⟨record, made⟩).1, mask, remove, rfl,
      (Record.required_iff made "mask" (by simp) Json.toInt32? mask).mp masks,
      (Record.optional_iff made "remove" (by simp) Json.toBool? false remove).mp removes⟩
  · rintro ⟨proper, mask, remove, rfl, masks, removes⟩
    have once : ∀ name ∈ ["mask", "remove"], (members.under name).length ≤ 1 := by
      obtain ⟨code, mask, -⟩ := masks
      rcases removes with ⟨none, -⟩ | ⟨given, remove, -⟩
      · simp [mask, none]
      · simp [mask, remove]
    obtain ⟨record, made⟩ := (Record.of_members_iff ["mask", "remove"] members).mpr ⟨proper, once⟩
    refine Option.bind_eq_some_iff.mpr ⟨record, made, Option.bind_eq_some_iff.mpr ⟨mask, ?_, ?_⟩⟩
    · exact (Record.required_iff made "mask" (by simp) Json.toInt32? mask).mpr masks
    · refine Option.bind_eq_some_iff.mpr ⟨remove, ?_, rfl⟩
      exact (Record.optional_iff made "remove" (by simp) Json.toBool? false remove).mpr removes

def untyped (members : Members) : Members := members.filter fun member => !isTag member

theorem is_tag_iff (member : Option String × Json) : isTag member = true ↔ member.1 = some "type" := beq_iff_eq

theorem under_untyped (members : Members) (name : String) (other : name ≠ "type") :
    (untyped members).under name = members.under name := by
  rw [untyped, Members.under, List.filterMap_filter, Members.under]
  congr 1
  funext member
  by_cases same : member.1 = some name
  · have plain : isTag member = false := by
      rw [← Bool.not_eq_true, is_tag_iff, same, Option.some.injEq]
      exact other
    simp [plain]
  · simp [same]

theorem proper_untyped (members : Members) (proper : members.Proper) : (untyped members).Proper :=
  fun member listed => proper member (List.mem_filter.mp listed).1

theorem under_type (members : Members) :
    members.filter isTag = (members.under "type").map fun json => (some "type", json) := by
  induction members with
  | nil => rfl
  | cons member members ih =>
      obtain ⟨key, json⟩ := member
      rw [Members.under] at ih ⊢
      by_cases tag : key = some "type"
      · have typed : isTag (key, json) = true := (is_tag_iff _).mpr tag
        subst tag
        rw [List.filter_cons_of_pos typed, ih]
        rfl
      · have plain : ¬ isTag (key, json) = true := fun typed => tag ((is_tag_iff _).mp typed)
        rw [List.filter_cons_of_neg plain, ih, List.filterMap_cons, if_neg tag]

theorem tagged_iff (members : Members) (tag : String) (fields : Json) :
    tagged? (.object members) = some (tag, fields) ↔
      members.under "type" = [.text (some tag)] ∧ fields = .object (untyped members) := by
  rw [tagged?, under_type]
  rcases members.under "type" with _ | ⟨json, _ | ⟨other, rest⟩⟩
  · exact iff_of_false (by simp) (by simp)
  · cases json with
    | text name =>
        cases name with
        | none => exact iff_of_false (by simp) (by simp)
        | some name => simp [untyped, eq_comm]
    | _ => exact iff_of_false (by simp) (by simp)
  · exact iff_of_false (by simp) (by simp)

inductive Means (members : Members) : Message → Prop where
  | ping (type : members.under "type" = [.text (some "ping")]) : Means members .ping
  | kind (json : Json) (kind : Kind) (type : members.under "type" = [.text (some "vehicle_type")])
      (value : members.under "value" = [json]) (named : Kind.Named json kind) : Means members (.command (.setType kind))
  | kindCode (json : Json) (kind : Kind) (type : members.under "type" = [.text (some "vehicle_type_code")])
      (value : members.under "value" = [json]) (coded : MeansInt32 json kind.code) : Means members (.command (.setType kind))
  | float (code json : Json) (param : Int) (amount : Float32)
      (type : members.under "type" = [.text (some "vehicle_float")]) (codes : members.under "param" = [code])
      (value : members.under "value" = [json]) (coded : MeansInt32 code param) (means : MeansFloat json amount) :
      Means members (.command (.setFloat param amount))
  | vector (code json : Json) (param : Int) (vector : Vec3 Float32)
      (type : members.under "type" = [.text (some "vehicle_vector")]) (codes : members.under "param" = [code])
      (value : members.under "value" = [json]) (coded : MeansInt32 code param) (means : MeansVector json vector) :
      Means members (.command (.setVector param vector))
  | rotation (code json : Json) (param : Int) (rotation : Quat Float32)
      (type : members.under "type" = [.text (some "vehicle_rotation")]) (codes : members.under "param" = [code])
      (value : members.under "value" = [json]) (coded : MeansInt32 code param) (means : MeansRotation json rotation) :
      Means members (.command (.setRotation param rotation))
  | flags (code : Json) (mask : Int) (remove : Bool) (type : members.under "type" = [.text (some "vehicle_flags")])
      (masks : members.under "mask" = [code]) (removes : members.under "remove" = [.bool remove])
      (coded : MeansInt32 code mask) : Means members (.command (.setFlags mask remove))
  | addFlags (code : Json) (mask : Int) (type : members.under "type" = [.text (some "vehicle_flags")])
      (masks : members.under "mask" = [code]) (left : members.under "remove" = []) (coded : MeansInt32 code mask) :
      Means members (.command (.setFlags mask false))

theorem or_malformed_iff (found : Option Message) (message : Message) :
    orMalformed found = .ok message ↔ found = some message := by
  cases found <;> simp [orMalformed]

theorem of_type_code (fields : Json) (code : Int) (found : typeCode? fields = some code) :
    ofFields "vehicle_type_code" fields = ofType? code := by
  simp only [ofFields, found]

theorem param_command_iff (read : Json → Option β) (Denotes : Json → β → Prop)
    (reads : ∀ json value, read json = some value ↔ Denotes json value) (make : Int → β → Command Float32)
    (members : Members) (message : Message) :
    orMalformed ((paramFields? read (.object (untyped members))).map fun found => command (make found.1 found.2)) =
        .ok message ↔
      (untyped members).Proper ∧ ∃ code json param value, members.under "param" = [code] ∧
        members.under "value" = [json] ∧ MeansInt32 code param ∧ Denotes json value ∧ message = .command (make param value) := by
  rw [or_malformed_iff, Option.map_eq_some_iff]
  constructor
  · rintro ⟨⟨param, value⟩, found, rfl⟩
    obtain ⟨proper, ⟨code, codes, coded⟩, json, once, means⟩ := (param_fields_iff read _ param value).mp found
    rw [under_untyped members "param" (by decide)] at codes
    rw [under_untyped members "value" (by decide)] at once
    exact ⟨proper, code, json, param, value, codes, once, (Json.int32_iff code param).mp coded,
      (reads json value).mp means, rfl⟩
  · rintro ⟨proper, code, json, param, value, codes, once, coded, means, rfl⟩
    rw [← under_untyped members "param" (by decide)] at codes
    rw [← under_untyped members "value" (by decide)] at once
    exact ⟨(param, value), (param_fields_iff read _ param value).mpr
      ⟨proper, ⟨code, codes, (Json.int32_iff code param).mpr coded⟩, json, once, (reads json value).mpr means⟩, rfl⟩

theorem means_of_fields (members : Members) (tag : String) (message : Message)
    (type : members.under "type" = [.text (some tag)])
    (read : ofFields tag (.object (untyped members)) = .ok message) : Means members message := by
  have value := under_untyped members "value" (by decide)
  have masked := under_untyped members "mask" (by decide)
  have removed := under_untyped members "remove" (by decide)
  unfold ofFields at read
  split at read
  · cases (or_malformed_iff _ _).mp read
    exact .ping type
  · obtain ⟨command, typed, rfl⟩ := Option.map_eq_some_iff.mp ((or_malformed_iff _ _).mp read)
    obtain ⟨-, kind, rfl, json, once, named⟩ := (type_command_iff _ command).mp typed
    exact .kind json kind type (value ▸ once) ((Kind.of_json_iff json kind).mp named)
  · split at read
    · rename_i code coded
      obtain ⟨-, json, once, means⟩ := (value_field_iff Json.toInt32? (untyped members) code).mp coded
      unfold ofType? at read
      split at read
      · rename_i kind known
        cases read
        rw [(Kind.of_code_iff code kind).mp known] at means
        exact .kindCode json kind type (value ▸ once) ((Json.int32_iff json kind.code).mp means)
      · cases read
    · cases read
  · obtain ⟨-, code, json, param, amount, codes, once, coded, means, rfl⟩ :=
      (param_command_iff _ _ Json.float_iff .setFloat members message).mp read
    exact .float code json param amount type codes once coded means
  · obtain ⟨-, code, json, param, vector, codes, once, coded, means, rfl⟩ :=
      (param_command_iff _ _ Json.vector_iff .setVector members message).mp read
    exact .vector code json param vector type codes once coded means
  · obtain ⟨-, code, json, param, rotation, codes, once, coded, means, rfl⟩ :=
      (param_command_iff _ _ Json.rotation_iff .setRotation members message).mp read
    exact .rotation code json param rotation type codes once coded means
  · obtain ⟨command, found, rfl⟩ := Option.map_eq_some_iff.mp ((or_malformed_iff _ _).mp read)
    obtain ⟨-, mask, remove, rfl, ⟨json, masks, coded⟩, removes⟩ := (flags_command_iff _ command).mp found
    rcases removes with ⟨left, rfl⟩ | ⟨given, removes, means⟩
    · exact .addFlags json mask type (masked ▸ masks) (removed ▸ left) ((Json.int32_iff json mask).mp coded)
    · cases (Json.bool_iff given remove).mp means
      exact .flags json mask remove type (masked ▸ masks) (removed ▸ removes) ((Json.int32_iff json mask).mp coded)
  · cases read

theorem fields_of_means (members : Members) (proper : members.Proper) (tag : String) (message : Message)
    (type : members.under "type" = [.text (some tag)]) (meant : Means members message) :
    ofFields tag (.object (untyped members)) = .ok message := by
  have same {other : String} (also : members.under "type" = [.text (some other)]) : tag = other := by
    simpa using type.symm.trans also
  have rest := proper_untyped members proper
  have value := under_untyped members "value" (by decide)
  have masked := under_untyped members "mask" (by decide)
  have removed := under_untyped members "remove" (by decide)
  cases meant with
  | ping also =>
      obtain rfl := same also
      rfl
  | kind json kind also once named =>
      obtain rfl := same also
      refine (or_malformed_iff _ _).mpr (Option.map_eq_some_iff.mpr ⟨.setType kind, ?_, rfl⟩)
      exact (type_command_iff _ _).mpr ⟨rest, kind, rfl, json, value.trans once, (Kind.of_json_iff json kind).mpr named⟩
  | kindCode json kind also once coded =>
      obtain rfl := same also
      have found := (value_field_iff Json.toInt32? (untyped members) kind.code).mpr
        ⟨rest, json, value.trans once, (Json.int32_iff json kind.code).mpr coded⟩
      rw [of_type_code (.object (untyped members)) kind.code found, ofType?, kind.of_code_code]
  | float code json param amount also codes once coded means =>
      obtain rfl := same also
      exact (param_command_iff _ _ Json.float_iff .setFloat members _).mpr
        ⟨rest, code, json, param, amount, codes, once, coded, means, rfl⟩
  | vector code json param vector also codes once coded means =>
      obtain rfl := same also
      exact (param_command_iff _ _ Json.vector_iff .setVector members _).mpr
        ⟨rest, code, json, param, vector, codes, once, coded, means, rfl⟩
  | rotation code json param rotation also codes once coded means =>
      obtain rfl := same also
      exact (param_command_iff _ _ Json.rotation_iff .setRotation members _).mpr
        ⟨rest, code, json, param, rotation, codes, once, coded, means, rfl⟩
  | flags code mask remove also masks removes coded =>
      obtain rfl := same also
      refine (or_malformed_iff _ _).mpr (Option.map_eq_some_iff.mpr ⟨.setFlags mask remove, ?_, rfl⟩)
      exact (flags_command_iff _ _).mpr ⟨rest, mask, remove, rfl,
        ⟨code, masked.trans masks, (Json.int32_iff code mask).mpr coded⟩,
        Or.inr ⟨_, removed.trans removes, rfl⟩⟩
  | addFlags code mask also masks left coded =>
      obtain rfl := same also
      refine (or_malformed_iff _ _).mpr (Option.map_eq_some_iff.mpr ⟨.setFlags mask false, ?_, rfl⟩)
      exact (flags_command_iff _ _).mpr ⟨rest, mask, false, rfl,
        ⟨code, masked.trans masks, (Json.int32_iff code mask).mpr coded⟩, Or.inl ⟨removed.trans left, rfl⟩⟩

end Message

end VehicleSim
