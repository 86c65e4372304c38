import Mathlib.Data.List.DropRight
import Mathlib.Data.List.Induction
import VehicleSim.Proofs.Body.Access

/-!
The cache against a body that is read and written directly: what every read gives, how often the body is
asked, and what every flush writes, all told from the list of uses alone.
-/

set_option autoImplicit false

namespace VehicleSim

variable {α : Type}

namespace Access

def sets? (field : StateField) : Access α → Option (field.Value α)
  | .set other value => if same : other = field then some (same ▸ value) else none
  | _ => none

def adds? (field : SumField) : Access α → Option (Vec3 α)
  | .add other term => if other = field then some term else none
  | _ => none

def asks (field : StateField) : Access α → Bool
  | .read other => other == field
  | .height _ => field == .position
  | _ => false

def touches (field : StateField) (access : Access α) : Bool := access.asks field || (access.sets? field).isSome

def changes : Access α → Bool
  | .set _ _ | .add _ _ => true
  | _ => false

def isFlush : Access α → Bool
  | .flush => true
  | _ => false

def lastSet (field : StateField) (accesses : List (Access α)) : Option (field.Value α) :=
  (accesses.filterMap (sets? field)).getLast?

def sinceFlush (accesses : List (Access α)) : List (Access α) := accesses.rtakeWhile (!·.isFlush)

-- One if the first use of the field asks for its value, none if it sets it.
def fetches (field : StateField) (accesses : List (Access α)) : Nat :=
  if (accesses.find? (touches field)).any (asks field) then 1 else 0

def total [Scalar α] (field : SumField) (accesses : List (Access α)) : Option (Vec3 α) :=
  match accesses.filterMap (adds? field) with
  | [] => none
  | terms => some (terms.foldl (· + ·) 0)

-- What a body that gets just these changes is told, in order.
def writes [Scalar α] (accesses : List (Access α)) : List (BodyWrite α) :=
  [(lastSet .position accesses).map .position,
    (lastSet .orientation accesses).map .orientation,
    (lastSet .velocity accesses).map .velocity,
    (total .force accesses).map .force,
    (total .impulse accesses).map .impulse,
    (lastSet .rotationalVelocity accesses).map .rotationalVelocity,
    (total .rotationalImpulse accesses).map .rotationalImpulse,
    (total .rotationalForce accesses).map .angularForce].filterMap id

theorem sets_same (field : StateField) (value : field.Value α) :
    (Access.set field value).sets? field = some value := by
  simp [sets?]

theorem sets_other (field other : StateField) (value : other.Value α) (differs : other ≠ field) :
    (Access.set other value).sets? field = none := by
  simp [sets?, differs]

theorem last_set_concat (field : StateField) (accesses : List (Access α)) (access : Access α) :
    lastSet field (accesses ++ [access]) = (access.sets? field).or (lastSet field accesses) := by
  rw [lastSet, List.filterMap_append]
  cases set : access.sets? field with
  | none => simp [lastSet, set]
  | some value => simp [set]

theorem since_flush_concat (accesses : List (Access α)) (access : Access α) :
    sinceFlush (accesses ++ [access]) = if access.isFlush then [] else sinceFlush accesses ++ [access] := by
  rw [sinceFlush, List.rtakeWhile_concat]
  cases access.isFlush <;> rfl

theorem touched_concat (field : StateField) (accesses : List (Access α)) (access : Access α) :
    (accesses ++ [access]).any (touches field) = (accesses.any (touches field) || access.touches field) := by
  simp

theorem fetches_touched (field : StateField) (accesses : List (Access α)) (access : Access α)
    (touched : accesses.any (touches field) = true) :
    fetches field (accesses ++ [access]) = fetches field accesses := by
  obtain ⟨first, found⟩ : ∃ first, accesses.find? (touches field) = some first := by
    rw [← Option.isSome_iff_exists, List.find?_isSome]
    exact List.any_eq_true.mp touched
  rw [fetches, fetches, List.find?_append, found, Option.some_or]

theorem fetches_untouched (field : StateField) (accesses : List (Access α))
    (untouched : accesses.any (touches field) = false) : fetches field accesses = 0 := by
  have missing : accesses.find? (touches field) = none := by
    rw [List.find?_eq_none]
    simpa using untouched
  rw [fetches, missing]
  rfl

theorem fetches_first (field : StateField) (accesses : List (Access α)) (access : Access α)
    (untouched : accesses.any (touches field) = false) :
    fetches field (accesses ++ [access]) = if access.asks field then 1 else 0 := by
  have missing : accesses.find? (touches field) = none := by
    rw [List.find?_eq_none]
    simpa using untouched
  rw [fetches, List.find?_append, missing, Option.none_or, List.find?_singleton]
  cases asked : access.asks field <;> cases set : (access.sets? field).isSome <;> simp [touches, asked, set]

theorem fetches_unasked (field : StateField) (accesses : List (Access α)) (access : Access α)
    (unasked : access.asks field = false) : fetches field (accesses ++ [access]) = fetches field accesses := by
  cases touched : accesses.any (touches field) with
  | true => exact fetches_touched field accesses access touched
  | false =>
      rw [fetches_first field accesses access touched, unasked, fetches_untouched field accesses touched]
      rfl

theorem last_set_untouched (field : StateField) (accesses : List (Access α))
    (untouched : accesses.any (touches field) = false) : lastSet field accesses = none := by
  have unset : accesses.filterMap (sets? field) = [] := by
    rw [List.filterMap_eq_nil_iff]
    intro access member
    have quiet := List.any_eq_false.mp untouched access member
    simp only [touches, Bool.or_eq_true, not_or] at quiet
    simpa using quiet.2
  rw [lastSet, unset]
  rfl

theorem last_set_since_flush (field : StateField) (accesses : List (Access α)) (value : field.Value α)
    (recent : lastSet field (sinceFlush accesses) = some value) : lastSet field accesses = some value := by
  obtain ⟨older, split⟩ := List.rtakeWhile_suffix (fun access : Access α => !access.isFlush) accesses
  have last : ((sinceFlush accesses).filterMap (sets? field)).getLast? = some value := recent
  rw [lastSet, ← split, List.filterMap_append, List.getLast?_append]
  change Option.or ((sinceFlush accesses).filterMap (sets? field)).getLast? _ = some value
  rw [last]
  rfl

theorem never_set_since_flush (field : StateField) (accesses : List (Access α))
    (never : lastSet field accesses = none) : lastSet field (sinceFlush accesses) = none := by
  cases recent : lastSet field (sinceFlush accesses) with
  | none => rfl
  | some value =>
      rw [last_set_since_flush field accesses value recent] at never
      cases never

theorem last_set_some_iff (field : StateField) (accesses : List (Access α)) :
    (lastSet field accesses).isSome ↔ ∃ access ∈ accesses, (access.sets? field).isSome := by
  rw [lastSet, List.getLast?_isSome, ← not_iff_not, not_not, List.filterMap_eq_nil_iff]
  simp

variable [Scalar α]

theorem total_concat (field : SumField) (accesses : List (Access α)) (access : Access α) :
    total field (accesses ++ [access]) =
      match access.adds? field with
      | some term => some ((total field accesses).getD 0 + term)
      | none => total field accesses := by
  cases added : access.adds? field with
  | none => simp [total, added]
  | some term =>
      cases terms : accesses.filterMap (adds? field) with
      | nil => simp [total, added, terms]
      | cons first rest => simp [total, added, terms]

theorem total_some_iff (field : SumField) (accesses : List (Access α)) :
    (total field accesses).isSome ↔ ∃ access ∈ accesses, (access.adds? field).isSome := by
  have some : (total field accesses).isSome ↔ accesses.filterMap (adds? field) ≠ [] := by
    rw [total]
    cases accesses.filterMap (adds? field) <;> simp
  rw [some, ← not_iff_not, not_not, List.filterMap_eq_nil_iff]
  simp

omit [Scalar α] in
theorem changes_iff (access : Access α) :
    access.changes = true ↔ (∃ field, (access.sets? field).isSome) ∨ ∃ field, (access.adds? field).isSome := by
  constructor
  · intro changed
    cases access with
    | set field value => exact Or.inl ⟨field, by rw [sets_same]; rfl⟩
    | add field term => exact Or.inr ⟨field, by simp [adds?]⟩
    | _ => cases changed
  · rintro (⟨field, set⟩ | ⟨field, added⟩)
    · cases access with
      | set other value => rfl
      | _ => cases set
    · cases access with
      | add other term => rfl
      | _ => cases added

theorem any_changes_iff (accesses : List (Access α)) :
    accesses.any changes = true ↔
      (∃ field, (lastSet field accesses).isSome) ∨ ∃ field, (total field accesses).isSome := by
  simp only [List.any_eq_true, changes_iff, last_set_some_iff, total_some_iff]
  constructor
  · rintro ⟨access, member, ⟨field, set⟩ | ⟨field, added⟩⟩
    · exact Or.inl ⟨field, access, member, set⟩
    · exact Or.inr ⟨field, access, member, added⟩
  · rintro (⟨field, access, member, set⟩ | ⟨field, access, member, added⟩)
    · exact ⟨access, member, Or.inl ⟨field, set⟩⟩
    · exact ⟨access, member, Or.inr ⟨field, added⟩⟩

end Access

open Access

variable [Scalar α]

structure Mirrors (start : Rig α) (accesses : List (Access α)) (now : Rig α) : Prop where
  fetched : ∀ field, (now.cache.slot field).fetched = accesses.any (touches field)
  value : ∀ field, (now.cache.slot field).fetched = true →
    (now.cache.slot field).value = (lastSet field accesses).getD (start.body.get field)
  change : ∀ field, (now.cache.slot field).change? = lastSet field (sinceFlush accesses)
  held : ∀ field, lastSet field accesses = none → now.body.get field = start.body.get field
  sum : ∀ field, (now.cache.sum field).change? = total field (sinceFlush accesses)
  reads : ∀ field, now.traffic.reads.count field = start.traffic.reads.count field + fetches field accesses

theorem Mirrors.unread {start now : Rig α} {accesses : List (Access α)} (mirrors : Mirrors start accesses now)
    (field : StateField) (fresh : (now.cache.slot field).fetched = false) :
    lastSet field accesses = none ∧ (now.cache.slot field).change? = none := by
  have unset := last_set_untouched field accesses ((mirrors.fetched field).symm.trans fresh)
  exact ⟨unset, (mirrors.change field).trans (never_set_since_flush field accesses unset)⟩

theorem Mirrors.read {start now : Rig α} {accesses : List (Access α)} (mirrors : Mirrors start accesses now)
    (field : StateField) : (now.read field).1 = (lastSet field accesses).getD (start.body.get field) := by
  rw [Rig.read_value, Known.read]
  cases fresh : (now.cache.slot field).fetched with
  | true => exact mirrors.value field fresh
  | false =>
      have unset := (mirrors.unread field fresh).1
      rw [unset]
      exact mirrors.held field unset

theorem mirrors_start (rig : Rig α) : Mirrors rig [] rig.forget := by
  refine ⟨?_, ?_, ?_, ?_, ?_, ?_⟩
  · intro field
    cases field <;> rfl
  · intro field fetched
    cases field <;> cases fetched
  · intro field
    cases field <;> rfl
  · exact fun _ _ => rfl
  · intro field
    cases field <;> rfl
  · exact fun _ => rfl

-- An access that only asks for one field. What it finds is what a direct read would find, so fetching it
-- changes nothing that a later access could notice.
theorem mirrors_ask (start now after : Rig α) (accesses : List (Access α)) (access : Access α) (field : StateField)
    (mirrors : Mirrors start accesses now) (asking : ∀ other, access.asks other = (other == field))
    (unset : ∀ other, access.sets? other = none) (unadded : ∀ other, access.adds? other = none)
    (kept : access.isFlush = false) (same : Rig.SameState (now.read field).2 after) :
    Mirrors start (accesses ++ [access]) after := by
  have recent : sinceFlush (accesses ++ [access]) = sinceFlush accesses ++ [access] := by
    rw [since_flush_concat, kept]
    rfl
  have lastSame : ∀ other (list : List (Access α)), lastSet other (list ++ [access]) = lastSet other list := by
    intro other list
    rw [last_set_concat, unset other, Option.none_or]
  have touched : ∀ other, access.touches other = (other == field) := by
    intro other
    simp [touches, asking other, unset other]
  refine ⟨?_, ?_, ?_, ?_, ?_, ?_⟩
  · intro other
    rw [touched_concat, same.slot, touched]
    by_cases here : other = field
    · subst here
      rw [Rig.slot_read_same, Known.fetched_fetch]
      simp
    · rw [Rig.slot_read_other now field other here, mirrors.fetched other]
      simp [here]
  · intro other fetched
    rw [same.slot] at fetched ⊢
    rw [lastSame]
    by_cases here : other = field
    · subst here
      rw [Rig.slot_read_same, Known.value_fetch, ← Rig.read_value]
      exact mirrors.read other
    · rw [Rig.slot_read_other now field other here] at fetched ⊢
      exact mirrors.value other fetched
  · intro other
    rw [same.slot, recent, lastSame, ← mirrors.change other]
    by_cases here : other = field
    · subst here
      rw [Rig.slot_read_same]
      cases fresh : (now.cache.slot other).fetched with
      | true => rw [Known.fetch, if_pos fresh]
      | false =>
          have settled := (mirrors.unread other fresh).2
          rw [settled, Known.change_fetch _ _ settled]
    · rw [Rig.slot_read_other now field other here]
  · intro other never
    rw [same.body, Rig.body_read]
    rw [lastSame] at never
    exact mirrors.held other never
  · intro other
    rw [same.sum, Rig.sum_read, recent, total_concat, unadded other]
    exact mirrors.sum other
  · intro other
    rw [same.reads, Rig.traffic_read]
    by_cases here : other = field
    · subst here
      cases fresh : (now.cache.slot other).fetched with
      | true =>
          rw [fetches_touched other accesses access ((mirrors.fetched other).symm.trans fresh)]
          exact mirrors.reads other
      | false =>
          have untouched := (mirrors.fetched other).symm.trans fresh
          have before := mirrors.reads other
          rw [fetches_untouched other accesses untouched] at before
          rw [fetches_first other accesses access untouched, asking other]
          simp [Traffic.addRead, before]
    · rw [fetches_unasked other accesses access (by simp [asking other, here]), ← mirrors.reads other]
      cases (now.cache.slot field).fetched with
      | true => rfl
      | false => simp [Traffic.addRead, Ne.symm here]

theorem mirrors_set (start now : Rig α) (accesses : List (Access α)) (field : StateField) (value : field.Value α)
    (mirrors : Mirrors start accesses now) :
    Mirrors start (accesses ++ [.set field value]) (now.set field value) := by
  have recent : sinceFlush (accesses ++ [.set field value]) = sinceFlush accesses ++ [.set field value] :=
    since_flush_concat accesses (.set field value)
  refine ⟨?_, ?_, ?_, ?_, ?_, ?_⟩
  · intro other
    rw [touched_concat]
    by_cases here : other = field
    · subst here
      rw [Rig.slot_set_same, touches, sets_same]
      simp [Known.set]
    · rw [Rig.slot_set_other now field other value here, mirrors.fetched other, touches,
        sets_other other field value (Ne.symm here)]
      simp [asks]
  · intro other fetched
    rw [last_set_concat]
    by_cases here : other = field
    · subst here
      rw [Rig.slot_set_same, sets_same]
      rfl
    · rw [Rig.slot_set_other now field other value here] at fetched ⊢
      rw [sets_other other field value (Ne.symm here), Option.none_or]
      exact mirrors.value other fetched
  · intro other
    rw [recent, last_set_concat]
    by_cases here : other = field
    · subst here
      rw [Rig.slot_set_same, sets_same]
      rfl
    · rw [Rig.slot_set_other now field other value here, sets_other other field value (Ne.symm here),
        Option.none_or]
      exact mirrors.change other
  · intro other never
    rw [last_set_concat, Option.or_eq_none_iff] at never
    rw [Rig.body_set]
    exact mirrors.held other never.2
  · intro other
    rw [Rig.sum_set, recent, total_concat]
    exact mirrors.sum other
  · intro other
    rw [Rig.traffic_set, fetches_unasked other accesses (.set field value) rfl]
    exact mirrors.reads other

theorem mirrors_add (start now : Rig α) (accesses : List (Access α)) (field : SumField) (term : Vec3 α)
    (mirrors : Mirrors start accesses now) :
    Mirrors start (accesses ++ [.add field term]) (now.add field term) := by
  have recent : sinceFlush (accesses ++ [.add field term]) = sinceFlush accesses ++ [.add field term] :=
    since_flush_concat accesses (.add field term)
  refine ⟨?_, ?_, ?_, ?_, ?_, ?_⟩
  · intro other
    rw [Rig.slot_add, touched_concat, mirrors.fetched other]
    simp [touches, asks, sets?]
  · intro other fetched
    rw [Rig.slot_add] at fetched ⊢
    rw [last_set_concat]
    exact mirrors.value other fetched
  · intro other
    rw [Rig.slot_add, recent, last_set_concat]
    exact mirrors.change other
  · intro other never
    rw [last_set_concat] at never
    rw [Rig.body_add]
    exact mirrors.held other never
  · intro other
    rw [recent, total_concat]
    by_cases here : other = field
    · subst here
      rw [Rig.sum_add_same, ← mirrors.sum other, adds?, if_pos rfl]
      cases changed : (now.cache.sum other).changed <;> simp [Accumulator.add, Accumulator.change?, changed]
    · rw [Rig.sum_add_other now field other term here, adds?, if_neg (Ne.symm here)]
      exact mirrors.sum other
  · intro other
    rw [Rig.traffic_add, fetches_unasked other accesses (.add field term) rfl]
    exact mirrors.reads other

theorem Mirrors.writes {start now : Rig α} {accesses : List (Access α)} (mirrors : Mirrors start accesses now) :
    now.cache.changes = Access.writes (sinceFlush accesses) := by
  rw [Access.writes, ← mirrors.change, ← mirrors.change, ← mirrors.change, ← mirrors.change, ← mirrors.sum,
    ← mirrors.sum, ← mirrors.sum, ← mirrors.sum]
  rfl

theorem Mirrors.changed {start now : Rig α} {accesses : List (Access α)} (mirrors : Mirrors start accesses now) :
    now.cache.hasChanges = (sinceFlush accesses).any Access.changes := by
  rw [Bool.eq_iff_iff, Cache.has_changes_iff, any_changes_iff]
  simp only [mirrors.change, mirrors.sum]

theorem Mirrors.first_flush {start now : Rig α} {accesses : List (Access α)} (mirrors : Mirrors start accesses now)
    (unflushed : sinceFlush accesses = accesses) (field : StateField) :
    ((now.cache.changes ++ [BodyWrite.pushUpdate]).foldl BodyView.store now.body).get field = (now.read field).1 := by
  rw [BodyView.get_store_changes, mirrors.change, unflushed, mirrors.read]
  cases set : lastSet field accesses with
  | none => exact mirrors.held field set
  | some value => rfl

theorem mirrors_flush (start now : Rig α) (accesses : List (Access α)) (mirrors : Mirrors start accesses now) :
    Mirrors start (accesses ++ [Access.flush]) now.flush.2 := by
  have recent : sinceFlush (accesses ++ [Access.flush]) = [] := since_flush_concat accesses .flush
  have lastSame : ∀ field, lastSet field (accesses ++ [Access.flush]) = lastSet field accesses :=
    fun field => last_set_concat field accesses .flush
  have touchedSame : ∀ field, (accesses ++ [Access.flush]).any (touches field) = accesses.any (touches field) := by
    intro field
    rw [touched_concat]
    simp [touches, asks, sets?]
  have readsSame : ∀ field, fetches field (accesses ++ [Access.flush]) = fetches field accesses :=
    fun field => fetches_unasked field accesses Access.flush rfl
  cases changed : now.cache.hasChanges with
  | true =>
      rw [Rig.flush_changed now changed]
      refine ⟨?_, ?_, ?_, ?_, ?_, ?_⟩
      · intro field
        rw [Cache.slot_settle, touchedSame]
        exact mirrors.fetched field
      · intro field fetched
        rw [Cache.slot_settle] at fetched ⊢
        rw [lastSame]
        exact mirrors.value field fetched
      · intro field
        rw [Cache.slot_settle, recent]
        rfl
      · intro field never
        rw [lastSame] at never
        rw [BodyView.get_store_changes, mirrors.change field, never_set_since_flush field accesses never]
        exact mirrors.held field never
      · intro field
        rw [Cache.sum_settle, recent, Accumulator.change_settle]
        rfl
      · intro field
        rw [readsSame]
        exact mirrors.reads field
  | false =>
      have settled : ¬ now.cache.hasChanges = true := by simp [changed]
      rw [Cache.has_changes_iff, not_or] at settled
      have quiet : ∀ field, (now.cache.slot field).change? = none :=
        fun field => Option.not_isSome_iff_eq_none.mp fun set => settled.1 ⟨field, set⟩
      have quietSum : ∀ field, (now.cache.sum field).change? = none :=
        fun field => Option.not_isSome_iff_eq_none.mp fun added => settled.2 ⟨field, added⟩
      rw [Rig.flush_unchanged now changed]
      refine ⟨?_, ?_, ?_, ?_, ?_, ?_⟩
      · intro field
        rw [touchedSame]
        exact mirrors.fetched field
      · intro field fetched
        rw [lastSame]
        exact mirrors.value field fetched
      · intro field
        rw [quiet field, recent]
        rfl
      · intro field never
        rw [lastSame] at never
        exact mirrors.held field never
      · intro field
        rw [quietSum field, recent]
        rfl
      · intro field
        rw [readsSame]
        exact mirrors.reads field

theorem mirrors_access (start now : Rig α) (accesses : List (Access α)) (access : Access α)
    (mirrors : Mirrors start accesses now) : Mirrors start (accesses ++ [access]) (now.access access) := by
  cases access with
  | read field =>
      apply mirrors_ask start now _ accesses (.read field) field mirrors
      · exact fun other => Bool.beq_comm
      · exact fun _ => rfl
      · exact fun _ => rfl
      · rfl
      · exact ⟨fun _ => rfl, fun _ => rfl, rfl, rfl, rfl⟩
  | set field value => exact mirrors_set start now accesses field value mirrors
  | add field term => exact mirrors_add start now accesses field term mirrors
  | height surface =>
      apply mirrors_ask start now _ accesses (.height surface) .position mirrors
      · exact fun _ => rfl
      · exact fun _ => rfl
      · exact fun _ => rfl
      · rfl
      · exact Rig.same_state_height now surface
  | flush => exact mirrors_flush start now accesses mirrors

theorem mirrors_run (rig : Rig α) (accesses : List (Access α)) : Mirrors rig accesses (rig.forget.run accesses) := by
  induction accesses using List.reverseRecOn with
  | nil => exact mirrors_start rig
  | append_singleton earlier access ih =>
      rw [Rig.run_concat]
      exact mirrors_access rig _ earlier access ih

theorem writes_unflushed (rig : Rig α) (access : Access α) (kept : access.isFlush = false) :
    (rig.access access).traffic.writes = rig.traffic.writes := by
  have asked : ∀ field, (rig.read field).2.traffic.writes = rig.traffic.writes := by
    intro field
    rw [Rig.traffic_read]
    split <;> rfl
  cases access with
  | read field => exact asked field
  | set field value => exact congrArg Traffic.writes (rig.traffic_set field value)
  | add field term => exact congrArg Traffic.writes (rig.traffic_add field term)
  | height surface => exact (Rig.same_state_height rig surface).writes.trans (asked .position)
  | flush => cases kept

theorem flush_result {start now : Rig α} {accesses : List (Access α)} (mirrors : Mirrors start accesses now) :
    now.flush.1 = (sinceFlush accesses).any changes ∧
      now.flush.2.traffic.writes = now.traffic.writes ++
        (if (sinceFlush accesses).any changes then Access.writes (sinceFlush accesses) ++ [.pushUpdate] else []) ∧
      ((sinceFlush accesses).any changes = false → now.flush.2 = now) := by
  rw [← mirrors.changed]
  cases changed : now.cache.hasChanges with
  | true =>
      rw [Rig.flush_changed now changed, ← mirrors.writes]
      exact ⟨rfl, rfl, fun unchanged => absurd unchanged (by simp)⟩
  | false =>
      rw [Rig.flush_unchanged now changed]
      exact ⟨rfl, by simp, fun _ => rfl⟩

/-- A vehicle cannot tell its cache from the body itself, and the body sees only what has to be written. -/
theorem cache_refines_direct_access (rig : Rig α) (accesses : List (Access α)) :
    let now := rig.forget.run accesses
    let recent := sinceFlush accesses
    (∀ field, (now.read field).1 = (lastSet field accesses).getD (rig.body.get field)) ∧
      (∀ field, lastSet field accesses = none → now.body.get field = rig.body.get field) ∧
      (∀ field, now.traffic.reads.count field = rig.traffic.reads.count field + fetches field accesses) ∧
      (now.flush.1 = recent.any changes ∧
        now.flush.2.traffic.writes = now.traffic.writes ++
          (if recent.any changes then Access.writes recent ++ [.pushUpdate] else []) ∧
        (recent.any changes = false → now.flush.2 = now)) ∧
      ∀ access, access.isFlush = false → (now.access access).traffic.writes = now.traffic.writes := by
  have mirrors := mirrors_run rig accesses
  exact ⟨mirrors.read, mirrors.held, mirrors.reads, flush_result mirrors,
    fun access kept => writes_unflushed _ access kept⟩

end VehicleSim
