import Mathlib.Data.List.Forall2
import Mathlib.Data.List.Nodup
import VehicleSim.Json.Record
import VehicleSim.Proofs.Json.Grammar
import VehicleSim.Proofs.Number.Word

/-!
What an object says under a name, whatever else it says and in whatever order. A record can be made of it when it says
no more than one thing under each name of the record.
-/

set_option autoImplicit false

namespace VehicleSim.Json

abbrev Members := List (Option String × Json)

def Members.under (members : Members) (name : String) : List Json :=
  members.filterMap fun member => if member.1 = some name then some member.2 else none

def Members.Proper (members : Members) : Prop := ∀ member ∈ members, member.1.isSome = Bool.true

namespace Members

theorem mem_under (members : Members) (name : String) (json : Json) :
    json ∈ members.under name ↔ (some name, json) ∈ members := by
  simp only [under, List.mem_filterMap, Option.ite_none_right_eq_some, Option.some.injEq]
  constructor
  · rintro ⟨⟨key, value⟩, member, rfl, rfl⟩
    exact member
  · exact fun member => ⟨(some name, json), member, rfl, rfl⟩

end Members

namespace Record

def under (record : Record) (name : String) : List Json :=
  record.filterMap fun field => if field.1 = name then some field.2 else none

theorem named_iff (members : Members) (record : Record) :
    named? members = some record ↔ members = record.map fun field => (some field.1, field.2) := by
  induction members generalizing record with
  | nil =>
      cases record with
      | nil => exact iff_of_true rfl rfl
      | cons field rest => exact iff_of_false (by simp [named?]) (by simp)
  | cons member members ih =>
      obtain ⟨key, json⟩ := member
      have step : named? ((key, json) :: members) =
          (key.map fun name => (name, json)).bind fun field => (named? members).map (field :: ·) := by
        rw [named?, List.mapM_cons]
        cases key with
        | none => rfl
        | some name =>
            change (named? members).bind _ = (named? members).map _
            cases named? members <;> rfl
      rw [step]
      cases key with
      | none => exact iff_of_false (by simp) (by cases record <;> simp)
      | some name =>
          rw [Option.map_some, Option.bind_some, Option.map_eq_some_iff]
          constructor
          · rintro ⟨rest, found, rfl⟩
            rw [List.map_cons, (ih rest).mp found]
          · intro same
            cases record with
            | nil => cases same
            | cons field rest =>
                obtain ⟨head, tail⟩ := List.cons_eq_cons.mp same
                cases head
                exact ⟨rest, (ih rest).mpr tail, rfl⟩

theorem under_named (record : Record) (name : String) :
    Members.under (record.map fun field => (some field.1, field.2)) name = record.under name := by
  simp only [under, Members.under, List.filterMap_map, Function.comp_def, Option.some.injEq]

theorem count_names (record : Record) (name : String) :
    (record.map Prod.fst).count name = (record.under name).length := by
  induction record with
  | nil => rfl
  | cons field rest ih =>
      by_cases same : field.1 = name
      · simp [under, same] at ih ⊢
        exact ih
      · simp [under, same] at ih ⊢
        exact ih

theorem under_known (record : Record) (names : List String) (name : String) (known : name ∈ names) :
    under (record.filter fun field => field.1 ∈ names) name = record.under name := by
  rw [under, List.filterMap_filter, under]
  congr 1
  funext field
  by_cases same : field.1 = name
  · simp [same, known]
  · simp [same]

theorem under_unknown (record : Record) (names : List String) (name : String) (unknown : name ∉ names) :
    under (record.filter fun field => field.1 ∈ names) name = [] := by
  rw [under, List.filterMap_eq_nil_iff]
  intro field member
  rw [if_neg]
  rintro rfl
  exact unknown (of_decide_eq_true (List.mem_filter.mp member).2)

theorem under_cons (record : Record) (key name : String) (json : Json) :
    under ((key, json) :: record) name = if key = name then json :: record.under name else record.under name := by
  by_cases same : key = name <;> simp [under, same]

theorem lookup_under (record : Record) (distinct : (record.map Prod.fst).Nodup) (name : String) :
    record.under name = (record.lookup name).toList := by
  induction record with
  | nil => rfl
  | cons field rest ih =>
      obtain ⟨key, json⟩ := field
      rw [List.map_cons, List.nodup_cons] at distinct
      rw [under_cons]
      by_cases same : key = name
      · subst same
        have none : under rest key = [] := by
          rw [← List.length_eq_zero_iff, ← count_names, List.count_eq_zero]
          exact distinct.1
        rw [if_pos rfl, none, List.lookup_cons_self]
        rfl
      · have other : (name == key) = false := beq_eq_false_iff_ne.mpr (Ne.symm same)
        rw [if_neg same, ih distinct.2, List.lookup_cons, other]

theorem named_proper (members : Members) : (∃ record, named? members = some record) ↔ members.Proper := by
  constructor
  · rintro ⟨record, found⟩ member listed
    rw [(named_iff members record).mp found] at listed
    obtain ⟨field, -, rfl⟩ := List.mem_map.mp listed
    rfl
  · intro proper
    induction members with
    | nil => exact ⟨[], rfl⟩
    | cons member members ih =>
        obtain ⟨key, json⟩ := member
        obtain ⟨first, others⟩ := List.forall_mem_cons.mp proper
        obtain ⟨name, rfl⟩ := Option.isSome_iff_exists.mp first
        obtain ⟨record, found⟩ := ih others
        refine ⟨(name, json) :: record, (named_iff _ _).mpr ?_⟩
        rw [(named_iff members record).mp found]
        rfl

theorem of_members_named (names : List String) (members : Members) (record : Record)
    (named : named? members = some record) :
    ofMembers? names members =
      let known := record.filter fun field => field.1 ∈ names
      if (known.map Prod.fst).Nodup then some known else none := by
  rw [ofMembers?, named]
  rfl

theorem distinct_iff (names : List String) (record : Record) :
    ((record.filter fun field => field.1 ∈ names).map Prod.fst).Nodup ↔
      ∀ name ∈ names, (record.under name).length ≤ 1 := by
  rw [List.nodup_iff_count_le_one]
  constructor
  · intro once name known
    rw [← under_known record names name known, ← count_names]
    exact once name
  · intro once name
    rw [count_names]
    by_cases known : name ∈ names
    · rw [under_known record names name known]
      exact once name known
    · rw [under_unknown record names name known]
      exact Nat.zero_le 1

/-- A record is made of an object whose names are all proper, and which uses each name of the record once at most. -/
theorem of_members_iff (names : List String) (members : Members) :
    (∃ record, ofMembers? names members = some record) ↔
      members.Proper ∧ ∀ name ∈ names, (members.under name).length ≤ 1 := by
  rw [← named_proper]
  constructor
  · rintro ⟨made, found⟩
    obtain ⟨record, named, -⟩ := Option.bind_eq_some_iff.mp found
    rw [of_members_named names members record named] at found
    dsimp only at found
    split at found
    · rename_i distinct
      refine ⟨⟨record, named⟩, fun name known => ?_⟩
      rw [(named_iff members record).mp named, under_named]
      exact (distinct_iff names record).mp distinct name known
    · cases found
  · rintro ⟨⟨record, named⟩, once⟩
    rw [of_members_named names members record named, if_pos]
    · exact ⟨_, rfl⟩
    · refine (distinct_iff names record).mpr fun name known => ?_
      rw [← under_named, ← (named_iff members record).mp named]
      exact once name known

theorem lookup_of_members (names : List String) (members : Members) (made : Record)
    (found : ofMembers? names members = some made) (name : String) (known : name ∈ names) :
    members.under name = (made.lookup name).toList := by
  obtain ⟨record, named, -⟩ := Option.bind_eq_some_iff.mp found
  rw [of_members_named names members record named] at found
  dsimp only at found
  split at found
  · rename_i distinct
    cases found
    rw [(named_iff members record).mp named, under_named, ← under_known record names name known]
    exact lookup_under _ distinct name
  · cases found

variable {β : Type} {names : List String} {members : Members} {record : Record}

theorem required_iff (made : ofMembers? names members = some record) (name : String) (known : name ∈ names)
    (read : Json → Option β) (value : β) :
    record.required name read = some value ↔ ∃ json, members.under name = [json] ∧ read json = some value := by
  rw [lookup_of_members names members record made name known, required]
  cases record.lookup name with
  | none => exact iff_of_false (by simp) (by simp)
  | some json => simp

theorem optional_iff (made : ofMembers? names members = some record) (name : String) (known : name ∈ names)
    (read : Json → Option β) (initial value : β) :
    record.optional name read initial = some value ↔
      members.under name = [] ∧ value = initial ∨ ∃ json, members.under name = [json] ∧ read json = some value := by
  rw [lookup_of_members names members record made name known, optional]
  cases record.lookup name with
  | none => simp [eq_comm]
  | some json => simp

end Record

def MeansInt32 (json : Json) (value : Int) : Prop :=
  ∃ numeral, json = .number numeral ∧ numeral.toInt? = some value ∧ -0x80000000 ≤ value ∧ value ≤ 0x7fffffff

def MeansFloat (json : Json) (value : Float32) : Prop :=
  ∃ numeral, json = .number numeral ∧ numeral.toBinary32? = some value

def MeansWord32 (json : Json) (value : UInt32) : Prop :=
  ∃ numeral, json = .number numeral ∧ numeral.toInt? = some (value.toNat : Int)

def MeansWord64 (json : Json) (value : UInt64) : Prop :=
  ∃ numeral, json = .number numeral ∧ numeral.toInt? = some (value.toNat : Int)

def MeansFloats (json : Json) (values : List Float32) : Prop :=
  ∃ items, json = .array items ∧ List.Forall₂ MeansFloat items values

def MeansVector (json : Json) (value : Vec3 Float32) : Prop :=
  ∃ x y z, json = .array [x, y, z] ∧ MeansFloat x value.x ∧ MeansFloat y value.y ∧ MeansFloat z value.z

def MeansRotation (json : Json) (value : Quat Float32) : Prop :=
  ∃ x y z w, json = .array [x, y, z, w] ∧ MeansFloat x value.x ∧ MeansFloat y value.y ∧ MeansFloat z value.z ∧
    MeansFloat w value.w

theorem int32_iff (json : Json) (value : Int) : json.toInt32? = some value ↔ MeansInt32 json value := by
  cases json with
  | number numeral =>
      simp only [toInt32?, toIntIn?, Option.filter_eq_some_iff, MeansInt32, number.injEq, exists_eq_left',
        Bool.and_eq_true, decide_eq_true_eq]
  | _ => exact iff_of_false (by simp [toInt32?, toIntIn?]) (by simp [MeansInt32])

theorem float_iff (json : Json) (value : Float32) : json.toBinary32? = some value ↔ MeansFloat json value := by
  cases json with
  | number numeral => simp only [toBinary32?, MeansFloat, number.injEq, exists_eq_left']
  | _ => exact iff_of_false (by simp [toBinary32?]) (by simp [MeansFloat])

theorem bool_iff (json : Json) (value : Bool) : json.toBool? = some value ↔ json = .bool value := by
  cases json <;> simp [toBool?]

theorem text_iff (json : Json) (value : String) : json.toText? = some value ↔ json = .text (some value) := by
  cases json <;> simp [toText?]

theorem word32_iff (json : Json) (value : UInt32) : json.toWord32? = some value ↔ MeansWord32 json value := by
  cases json with
  | number numeral =>
      simp only [toWord32?, toIntIn?, Option.map_eq_some_iff, Option.filter_eq_some_iff, MeansWord32, number.injEq,
        exists_eq_left', Bool.and_eq_true, decide_eq_true_eq]
      constructor
      · rintro ⟨whole, ⟨read, low, high⟩, rfl⟩
        have short : whole.toNat < 4294967296 := by omega
        rw [read, UInt32.toNat_ofNat_of_lt' short, Int.toNat_of_nonneg low]
      · intro read
        have short := value.toNat_lt
        exact ⟨value.toNat, ⟨read, by omega, by omega⟩, UInt32.ofNat_toNat⟩
  | _ => exact iff_of_false (by simp [toWord32?, toIntIn?]) (by simp [MeansWord32])

theorem word64_iff (json : Json) (value : UInt64) : json.toWord64? = some value ↔ MeansWord64 json value := by
  cases json with
  | number numeral =>
      simp only [toWord64?, toIntIn?, Option.map_eq_some_iff, Option.filter_eq_some_iff, MeansWord64, number.injEq,
        exists_eq_left', Bool.and_eq_true, decide_eq_true_eq]
      constructor
      · rintro ⟨whole, ⟨read, low, high⟩, rfl⟩
        have short : whole.toNat < 18446744073709551616 := by omega
        rw [read, UInt64.toNat_ofNat_of_lt' short, Int.toNat_of_nonneg low]
      · intro read
        have short := value.toNat_lt
        exact ⟨value.toNat, ⟨read, by omega, by omega⟩, UInt64.ofNat_toNat⟩
  | _ => exact iff_of_false (by simp [toWord64?, toIntIn?]) (by simp [MeansWord64])

theorem map_read_cons {β : Type} (read : Json → Option β) (item : Json) (items : List Json) :
    (item :: items).mapM read = (read item).bind fun value => (items.mapM read).map (value :: ·) := by
  rw [List.mapM_cons]
  cases read item with
  | none => rfl
  | some value =>
      change (items.mapM read).bind _ = (items.mapM read).map _
      cases items.mapM read <;> rfl

theorem map_read_iff {β : Type} (read : Json → Option β) (items : List Json) (values : List β) :
    items.mapM read = some values ↔ items.map read = values.map some := by
  induction items generalizing values with
  | nil => cases values <;> simp
  | cons item items ih =>
      rw [map_read_cons, List.map_cons]
      cases values with
      | nil => exact iff_of_false (by cases read item <;> simp) (by simp)
      | cons value values =>
          rw [List.map_cons, List.cons_eq_cons, ← ih]
          cases read item with
          | none => exact iff_of_false (by simp) (by simp)
          | some found => cases items.mapM read <;> simp

theorem floats_iff (json : Json) (values : List Float32) :
    json.toList? toBinary32? = some values ↔ MeansFloats json values := by
  cases json with
  | array items =>
      simp only [toList?, map_read_iff, MeansFloats, array.injEq, exists_eq_left']
      rw [← List.forall₂_eq_eq_eq, List.forall₂_map_left_iff, List.forall₂_map_right_iff]
      simp only [float_iff]
  | _ => exact iff_of_false (by simp [toList?]) (by simp [MeansFloats])

theorem vector_iff (json : Json) (value : Vec3 Float32) : toVec3? json = some value ↔ MeansVector json value := by
  have made : toVec3? json = some value ↔ json.toList? toBinary32? = some [value.x, value.y, value.z] := by
    constructor
    · intro found
      obtain ⟨values, read, made⟩ := Option.bind_eq_some_iff.mp found
      split at made
      · cases made
        exact read
      · cases made
    · exact fun read => Option.bind_eq_some_iff.mpr ⟨_, read, rfl⟩
  rw [made, floats_iff]
  constructor
  · rintro ⟨items, rfl, means⟩
    obtain - | ⟨x, - | ⟨y, - | ⟨z, ⟨⟩⟩⟩⟩ := means
    exact ⟨_, _, _, rfl, x, y, z⟩
  · rintro ⟨x, y, z, rfl, first, second, third⟩
    exact ⟨_, rfl, .cons first (.cons second (.cons third .nil))⟩

theorem rotation_iff (json : Json) (value : Quat Float32) : toQuat? json = some value ↔ MeansRotation json value := by
  have made : toQuat? json = some value ↔ json.toList? toBinary32? = some [value.x, value.y, value.z, value.w] := by
    constructor
    · intro found
      obtain ⟨values, read, made⟩ := Option.bind_eq_some_iff.mp found
      split at made
      · cases made
        exact read
      · cases made
    · exact fun read => Option.bind_eq_some_iff.mpr ⟨_, read, rfl⟩
  rw [made, floats_iff]
  constructor
  · rintro ⟨items, rfl, means⟩
    obtain - | ⟨x, - | ⟨y, - | ⟨z, - | ⟨w, ⟨⟩⟩⟩⟩⟩ := means
    exact ⟨_, _, _, _, rfl, x, y, z, w⟩
  · rintro ⟨x, y, z, w, rfl, first, second, third, fourth⟩
    exact ⟨_, rfl, .cons first (.cons second (.cons third (.cons fourth .nil)))⟩

section Fitting

variable (rules : Rules) (depth : Nat)

theorem number_fits (numeral : Numeral) (value : numeral.toBinary64?.isSome = Bool.true) :
    fits rules depth (.number numeral) = Bool.true := by
  rw [fits, value, Bool.or_true]

theorem int32_fits (json : Json) (value : Int) (means : MeansInt32 json value) : fits rules depth json = Bool.true := by
  obtain ⟨numeral, rfl, whole, low, high⟩ := means
  refine number_fits rules depth numeral (numeral.word_has_value value whole ?_)
  simp only [Numeral.fitsWord, Bool.and_eq_true, decide_eq_true_eq]
  omega

theorem float_fits (json : Json) (value : Float32) (means : MeansFloat json value) :
    fits rules depth json = Bool.true := by
  obtain ⟨numeral, rfl, read⟩ := means
  exact number_fits rules depth numeral (numeral.binary32_has_value value read)

theorem vector_fits (json : Json) (value : Vec3 Float32) (means : MeansVector json value)
    (opens : rules.opens depth = Bool.true) : fits rules depth json = Bool.true := by
  obtain ⟨x, y, z, rfl, first, second, third⟩ := means
  simp only [fits, itemsFit, opens, float_fits rules (depth + 1) _ _ first, float_fits rules (depth + 1) _ _ second,
    float_fits rules (depth + 1) _ _ third, Bool.and_true]

theorem rotation_fits (json : Json) (value : Quat Float32) (means : MeansRotation json value)
    (opens : rules.opens depth = Bool.true) : fits rules depth json = Bool.true := by
  obtain ⟨x, y, z, w, rfl, first, second, third, fourth⟩ := means
  simp only [fits, itemsFit, opens, float_fits rules (depth + 1) _ _ first, float_fits rules (depth + 1) _ _ second,
    float_fits rules (depth + 1) _ _ third, float_fits rules (depth + 1) _ _ fourth, Bool.and_true]

theorem members_fit_iff (members : Members) :
    membersFit rules depth members = Bool.true ↔
      ∀ member ∈ members, (rules.checked = Bool.true → member.1.isSome = Bool.true) ∧
        fits rules depth member.2 = Bool.true := by
  induction members with
  | nil => simp [membersFit]
  | cons member members ih =>
      obtain ⟨key, json⟩ := member
      rw [membersFit, Bool.and_eq_true, Bool.and_eq_true, ih, List.forall_mem_cons, Bool.or_eq_true]
      cases rules.checked <;> simp

end Fitting

end VehicleSim.Json
