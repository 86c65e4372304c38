import VehicleSim.Proofs.Json.Fields

/-!
Objects that are laid over a default. A level is a record with its keys: what an object says under a key replaces what
is there by default, and a key of a level may hold an object of another level. What is told of one level here holds
through all of them.
-/

set_option autoImplicit false

namespace VehicleSim.Json

variable {β σ : Type}

structure Schema (β : Type) where
  read : Json → Option β
  Denotes : Json → β → Prop
  Admits : Json → Prop
  Flawed : Json → Prop
  Alike : Json → Json → Prop
  denoted : ∀ json value, Denotes json value → read json = some value
  admitted : ∀ json, Admits json → ∃ value, Denotes json value
  refused : ∀ json, Flawed json → read json = none
  same : ∀ json, Alike json json
  alike : ∀ json other, Alike json other → read json = read other

namespace Schema

def leaf (read : Json → Option β) (Means : Json → β → Prop)
    (means : ∀ json value, read json = some value ↔ Means json value) : Schema β where
  read
  Denotes := Means
  Admits json := ∃ value, Means json value
  Flawed json := ∀ value, ¬ Means json value
  Alike json other := json = other
  denoted json value := (means json value).mpr
  admitted _ admits := admits
  refused json flawed :=
    Option.eq_none_iff_forall_ne_some.mpr fun value read => flawed value ((means json value).mp read)
  same _ := rfl
  alike _ _ same := congrArg read same

theorem read_present (read : Json → Option β) (json : Json) (present : json ≠ .null) :
    toOption? read json = (read json).map some := by
  cases json with
  | null => exact absurd rfl present
  | _ => rfl

def nullable (schema : Schema β) : Schema (Option β) where
  read := toOption? schema.read
  Denotes json value :=
    json = .null ∧ value = none ∨ json ≠ .null ∧ ∃ inner, value = some inner ∧ schema.Denotes json inner
  Admits json := json = .null ∨ json ≠ .null ∧ schema.Admits json
  Flawed json := json ≠ .null ∧ schema.Flawed json
  Alike json other := json = other ∨ json ≠ .null ∧ other ≠ .null ∧ schema.Alike json other
  denoted := by
    rintro json value (⟨rfl, rfl⟩ | ⟨present, inner, rfl, denotes⟩)
    · rfl
    · rw [read_present _ _ present, schema.denoted json inner denotes, Option.map_some]
  admitted := by
    rintro json (rfl | ⟨present, admits⟩)
    · exact ⟨none, Or.inl ⟨rfl, rfl⟩⟩
    · obtain ⟨inner, denotes⟩ := schema.admitted json admits
      exact ⟨some inner, Or.inr ⟨present, inner, rfl, denotes⟩⟩
  refused := by
    rintro json ⟨present, flawed⟩
    rw [read_present _ _ present, schema.refused json flawed, Option.map_none]
  same _ := Or.inl rfl
  alike := by
    rintro json other (rfl | ⟨present, also, alike⟩)
    · rfl
    · rw [read_present _ _ present, read_present _ _ also, schema.alike json other alike]

end Schema

structure Key (σ : Type) where
  name : String
  Value : Type
  schema : Schema Value
  get : σ → Value

namespace Key

def take (key : Key σ) (usual : Option σ) (record : Record) : Option key.Value :=
  match usual with
  | some usual => record.optional key.name key.schema.read (key.get usual)
  | none => record.required key.name key.schema.read

def said (key : Key σ) (members : Members) : List (Option key.Value) := (members.under key.name).map key.schema.read

def Yields (key : Key σ) (usual : Option σ) (said : List (Option key.Value)) (value : key.Value) : Prop :=
  said = [] ∧ (∃ other, usual = some other ∧ value = key.get other) ∨ said = [some value]

def Given (key : Key σ) (usual : Option σ) (members : Members) (value : key.Value) : Prop :=
  members.under key.name = [] ∧ (∃ other, usual = some other ∧ value = key.get other) ∨
    ∃ json, members.under key.name = [json] ∧ key.schema.Denotes json value

theorem said_cons (key : Key σ) (member : Option String × Json) (members : Members) :
    key.said (member :: members) =
      if member.1 = some key.name then key.schema.read member.2 :: key.said members else key.said members := by
  by_cases own : member.1 = some key.name <;> simp [said, Members.under, own]

theorem take_iff (key : Key σ) (usual : Option σ) {names : List String} {members : Members} {record : Record}
    (made : Record.ofMembers? names members = some record) (known : key.name ∈ names) (value : key.Value) :
    key.take usual record = some value ↔ key.Yields usual (key.said members) value := by
  have once : key.said members = [some value] ↔
      ∃ json, members.under key.name = [json] ∧ key.schema.read json = some value := by
    rw [said, List.map_eq_singleton_iff]
  rw [Yields, once, said, List.map_eq_nil_iff]
  cases usual with
  | none =>
      simp only [take, Record.required_iff made key.name known, reduceCtorEq, false_and, exists_false, and_false,
        false_or]
  | some usual => simp only [take, Record.optional_iff made key.name known, Option.some.injEq, exists_eq_left']

theorem given_yields (key : Key σ) (usual : Option σ) (members : Members) (value : key.Value)
    (given : key.Given usual members value) : key.Yields usual (key.said members) value := by
  obtain ⟨left, default⟩ | ⟨json, once, denotes⟩ := given
  · exact Or.inl ⟨by rw [said, left, List.map_nil], default⟩
  · exact Or.inr (by rw [said, once, List.map_singleton, key.schema.denoted json value denotes])

theorem yields_perm (key : Key σ) (usual : Option σ) (said other : List (Option key.Value)) (shuffled : said.Perm other)
    (value : key.Value) : key.Yields usual said value ↔ key.Yields usual other value := by
  have empty : said = [] ↔ other = [] :=
    ⟨fun same => (same ▸ shuffled).nil_eq.symm, fun same => (same ▸ shuffled).eq_nil⟩
  have single : said = [some value] ↔ other = [some value] :=
    ⟨fun same => List.perm_singleton.mp (same ▸ shuffled).symm, fun same => List.perm_singleton.mp (same ▸ shuffled)⟩
  rw [Yields, Yields, empty, single]

end Key

structure Level (σ : Type) where
  keys : List (Key σ)
  usual : Option σ
  ofJson? : Json → Option σ
  reads : ∀ members made, ofJson? (.object members) = some made ↔
    ∃ record, Record.ofMembers? (keys.map Key.name) members = some record ∧
      ∀ key ∈ keys, key.take usual record = some (key.get made)
  -- Whatever values the keys have, some record has them all.
  whole : ∀ P : (key : Key σ) → key.Value → Prop, (∀ key ∈ keys, ∃ value, P key value) →
    ∃ made, ∀ key ∈ keys, P key (key.get made)

namespace Level

variable (level : Level σ)

-- The record is the usual one, with the values that are given under the keys in their places.
structure Overlaid (members : Members) (made : σ) : Prop where
  proper : members.Proper
  given : ∀ key ∈ level.keys, key.Given level.usual members (key.get made)

structure Fits (members : Members) : Prop where
  proper : members.Proper
  given : ∀ key ∈ level.keys, members.under key.name = [] ∧ level.usual.isSome = Bool.true ∨
    ∃ json, members.under key.name = [json] ∧ key.schema.Admits json

inductive Flawed (members : Members) : Prop where
  | repeated (key : Key σ) (known : key ∈ level.keys) (many : 1 < (members.under key.name).length)
  | missing (key : Key σ) (known : key ∈ level.keys) (required : level.usual = none)
      (left : members.under key.name = [])
  | wrong (key : Key σ) (known : key ∈ level.keys) (json : Json) (said : json ∈ members.under key.name)
      (flawed : key.schema.Flawed json)

def known (members : Members) : Members := members.filter fun member => member.1.any (· ∈ level.keys.map Key.name)

def SameMember (member other : Option String × Json) : Prop :=
  member.1 = other.1 ∧ ∀ key ∈ level.keys, member.1 = some key.name → key.schema.Alike member.2 other.2

structure Alike (members others : Members) : Prop where
  proper : members.Proper
  otherProper : others.Proper
  shuffled : ∃ middle, (level.known members).Perm middle ∧ List.Forall₂ level.SameMember middle (level.known others)

theorem reads_said (members : Members) (made : σ) :
    level.ofJson? (.object members) = some made ↔
      members.Proper ∧ ∀ key ∈ level.keys, key.Yields level.usual (key.said members) (key.get made) := by
  have named : ∀ key ∈ level.keys, key.name ∈ level.keys.map Key.name := fun key known => List.mem_map_of_mem known
  rw [level.reads]
  constructor
  · rintro ⟨record, found, takes⟩
    refine ⟨((Record.of_members_iff _ _).mp ⟨record, found⟩).1, fun key known => ?_⟩
    exact (key.take_iff level.usual found (named key known) _).mp (takes key known)
  · rintro ⟨proper, yields⟩
    have once : ∀ name ∈ level.keys.map Key.name, (members.under name).length ≤ 1 := by
      intro name member
      obtain ⟨key, known, rfl⟩ := List.mem_map.mp member
      have counted : (key.said members).length = (members.under key.name).length := List.length_map _
      rcases yields key known with ⟨empty, -⟩ | single
      · rw [← counted, empty]
        exact Nat.zero_le 1
      · rw [← counted, single]
        exact Nat.le_refl 1
    obtain ⟨record, found⟩ := (Record.of_members_iff _ _).mpr ⟨proper, once⟩
    exact ⟨record, found, fun key known => (key.take_iff level.usual found (named key known) _).mpr (yields key known)⟩

theorem reads_overlaid (members : Members) (made : σ) (overlaid : level.Overlaid members made) :
    level.ofJson? (.object members) = some made :=
  (level.reads_said members made).mpr
    ⟨overlaid.proper, fun key known => key.given_yields _ members _ (overlaid.given key known)⟩

theorem overlaid_of_fits (members : Members) (fits : level.Fits members) : ∃ made, level.Overlaid members made := by
  have values : ∀ key ∈ level.keys, ∃ value, key.Given level.usual members value := by
    intro key known
    obtain ⟨left, present⟩ | ⟨json, once, admits⟩ := fits.given key known
    · obtain ⟨usual, same⟩ := Option.isSome_iff_exists.mp present
      exact ⟨key.get usual, Or.inl ⟨left, usual, same, rfl⟩⟩
    · obtain ⟨value, denotes⟩ := key.schema.admitted json admits
      exact ⟨value, Or.inr ⟨json, once, denotes⟩⟩
  obtain ⟨made, given⟩ := level.whole (fun key value => key.Given level.usual members value) values
  exact ⟨made, fits.proper, given⟩

theorem flawed_refused (members : Members) (flawed : level.Flawed members) :
    level.ofJson? (.object members) = none := by
  refine Option.eq_none_iff_forall_ne_some.mpr fun made read => ?_
  have yields := ((level.reads_said members made).mp read).2
  cases flawed with
  | repeated key known many =>
      have counted : (key.said members).length = (members.under key.name).length := List.length_map _
      rcases yields key known with ⟨empty, -⟩ | single
      · simp [← counted, empty] at many
      · simp [← counted, single] at many
  | missing key known required left =>
      rcases yields key known with ⟨-, other, default, -⟩ | single
      · rw [required] at default
        cases default
      · rw [Key.said, left] at single
        cases single
  | wrong key known json said flawed =>
      have unread : none ∈ key.said members := List.mem_map.mpr ⟨json, said, key.schema.refused json flawed⟩
      rcases yields key known with ⟨empty, -⟩ | single
      · simp [empty] at unread
      · simp [single] at unread

theorem said_known (members : Members) (key : Key σ) (asked : key ∈ level.keys) :
    key.said (level.known members) = key.said members := by
  have named : key.name ∈ level.keys.map Key.name := List.mem_map_of_mem asked
  have kept : (level.known members).under key.name = members.under key.name := by
    rw [known, Members.under, List.filterMap_filter, Members.under]
    congr 1
    funext member
    by_cases same : member.1 = some key.name
    · rw [same, Option.any_some, decide_eq_true named, if_pos rfl]
    · rw [if_neg same, ite_self]
  rw [Key.said, kept, Key.said]

theorem said_same (members others : Members) (same : List.Forall₂ level.SameMember members others) (key : Key σ)
    (asked : key ∈ level.keys) : key.said members = key.said others := by
  induction same with
  | nil => rfl
  | cons first _ ih =>
      obtain ⟨names, alike⟩ := first
      rw [Key.said_cons, Key.said_cons, ih, ← names]
      split
      · rename_i own
        rw [key.schema.alike _ _ (alike key asked own)]
      · rfl

theorem same_members (members : Members) : List.Forall₂ level.SameMember members members :=
  List.forall₂_same.mpr fun member _ => ⟨rfl, fun key _ _ => key.schema.same member.2⟩

theorem said_alike (members others : Members) (alike : level.Alike members others) (key : Key σ)
    (asked : key ∈ level.keys) : (key.said members).Perm (key.said others) := by
  obtain ⟨middle, shuffled, same⟩ := alike.shuffled
  have moved : (key.said (level.known members)).Perm (key.said middle) := (shuffled.filterMap _).map _
  rwa [level.said_same middle _ same key asked, level.said_known members key asked,
    level.said_known others key asked] at moved

theorem alike_reads (members others : Members) (alike : level.Alike members others) :
    level.ofJson? (.object members) = level.ofJson? (.object others) := by
  refine Option.ext fun made => ?_
  rw [reads_said, reads_said]
  refine and_congr (iff_of_true alike.proper alike.otherProper) (forall₂_congr fun key asked => ?_)
  exact key.yields_perm _ _ _ (level.said_alike members others alike key asked) _

def schema : Schema σ where
  read := level.ofJson?
  Denotes json value := ∃ members, json = .object members ∧ level.Overlaid members value
  Admits json := ∃ members, json = .object members ∧ level.Fits members
  Flawed json := ∃ members, json = .object members ∧ level.Flawed members
  Alike json other := json = other ∨
    ∃ members others, json = .object members ∧ other = .object others ∧ level.Alike members others
  denoted := by
    rintro json value ⟨members, rfl, overlaid⟩
    exact level.reads_overlaid members value overlaid
  admitted := by
    rintro json ⟨members, rfl, fits⟩
    obtain ⟨made, overlaid⟩ := level.overlaid_of_fits members fits
    exact ⟨made, members, rfl, overlaid⟩
  refused := by
    rintro json ⟨members, rfl, flawed⟩
    exact level.flawed_refused members flawed
  same _ := Or.inl rfl
  alike := by
    rintro json other (rfl | ⟨members, others, rfl, rfl, alike⟩)
    · rfl
    · exact level.alike_reads members others alike

end Level

end VehicleSim.Json
