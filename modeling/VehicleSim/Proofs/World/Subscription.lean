import Mathlib.Data.List.Induction
import VehicleSim.Proofs.World.History

/-!
Who is stepped: in every tick just the vehicles whose type is set, in the order in which they were last
taken out of the type none.
-/

set_option autoImplicit false

namespace VehicleSim.World

variable {α : Type} [Scalar α]

def Driven (world : World α) (id : ObjectId) : Prop :=
  ∃ object ∈ world.objects, object.id = id ∧ object.vehicle.kind ≠ .none

def Idle (world : World α) (id : ObjectId) : Prop :=
  ∃ object ∈ world.objects, object.id = id ∧ object.vehicle.kind = .none

-- The `moment`-th action of the history took the type of this object from none to another one.
structure LeavesNone (start : World α) (history : List (WorldAction α)) (id : ObjectId) (moment : Nat) : Prop where
  within : moment < history.length
  before : (start.run (history.take moment)).Idle id
  after : (start.run (history.take (moment + 1))).Driven id

def LastLeft (start : World α) (history : List (WorldAction α)) (id : ObjectId) (moment : Nat) : Prop :=
  LeavesNone start history id moment ∧ ∀ later, LeavesNone start history id later → later ≤ moment

def LeftEarlier (start : World α) (history : List (WorldAction α)) (first second : ObjectId) : Prop :=
  ∃ early late, LastLeft start history first early ∧ LastLeft start history second late ∧ early < late

theorem driven_iff (world : World α) (id : ObjectId) :
    world.Driven id ↔ ∃ standing ∈ world.roster, standing.id = id ∧ standing.kind ≠ .none := by
  constructor
  · rintro ⟨object, member, same, set⟩
    exact ⟨object.standing, (mem_roster world _).mpr ⟨object, member, rfl⟩, same, set⟩
  · rintro ⟨standing, member, same, set⟩
    obtain ⟨object, found, rfl⟩ := (mem_roster world standing).mp member
    exact ⟨object, found, same, set⟩

theorem driven_of_roster (world other : World α) (same : other.roster = world.roster) (id : ObjectId) :
    other.Driven id ↔ world.Driven id := by
  rw [driven_iff, driven_iff, same]

theorem driven_found (world : World α) (id : ObjectId) (object : WorldObject α) (distinct : world.Distinct)
    (found : world.object? id = some object) : world.Driven id ↔ object.vehicle.kind ≠ .none := by
  obtain ⟨member, same⟩ := object_found world id object found
  constructor
  · rintro ⟨other, present, equal, set⟩
    rwa [same_of_same_id world distinct other object present member (equal.trans same.symm)] at set
  · exact fun set => ⟨object, member, same, set⟩

theorem idle_not_driven (world : World α) (id : ObjectId) (distinct : world.Distinct) (idle : world.Idle id) :
    ¬ world.Driven id := by
  obtain ⟨object, member, rfl, none⟩ := idle
  have found := object_of_mem world distinct object member
  exact fun driven => (driven_found world object.id object distinct found).mp driven none

-- An action leaves the subscribers alone, takes one out, or puts one at the end.
inductive Shift (world after : World α) : Prop where
  | keep (same : after.schedule.settled = world.schedule.settled)
      (driven : ∀ id, after.Driven id ↔ world.Driven id)
  | drop (gone : ObjectId) (left : after.schedule.settled = world.schedule.settled.filter (· != gone))
      (driven : ∀ id, after.Driven id ↔ world.Driven id ∧ id ≠ gone)
  | enrol (new : ObjectId) (idle : world.Idle new)
      (grown : after.schedule.settled = world.schedule.settled ++ [new])
      (driven : ∀ id, after.Driven id ↔ world.Driven id ∨ id = new)

theorem Shift.members {world after : World α} (shift : Shift world after)
    (members : ∀ id, id ∈ world.schedule.settled ↔ world.Driven id) :
    ∀ id, id ∈ after.schedule.settled ↔ after.Driven id := by
  intro id
  cases shift with
  | keep same driven => rw [same, driven id, members id]
  | drop gone left driven =>
      rw [left, driven id, List.mem_filter, members id]
      simp
  | enrol new idle grown driven => rw [grown, driven id, List.mem_append, List.mem_singleton, members id]

theorem shift_spawn (world : World α) (position half : Vec3 α) (mass : α) :
    Shift world (world.spawnBox position half mass).2 := by
  refine .keep rfl fun id => ?_
  rw [driven_iff, driven_iff, spawn_roster]
  constructor
  · rintro ⟨standing, member, same, set⟩
    rcases List.mem_append.mp member with old | new
    · exact ⟨standing, old, same, set⟩
    · rw [List.mem_singleton.mp new] at set
      exact absurd rfl set
  · rintro ⟨standing, member, same, set⟩
    exact ⟨standing, List.mem_append_left _ member, same, set⟩

theorem shift_remove (world : World α) (gone : ObjectId) (good : world.WellFormed) :
    Shift world (world.removeObject gone).2 := by
  by_cases present : world.Present gone
  · refine .drop gone (remove_settled world gone good present) fun id => ?_
    rw [driven_iff, driven_iff, remove_roster]
    constructor
    · rintro ⟨standing, member, rfl, set⟩
      obtain ⟨old, other⟩ := List.mem_filter.mp member
      exact ⟨⟨standing, old, rfl, set⟩, by simpa using other⟩
    · rintro ⟨⟨standing, member, rfl, set⟩, other⟩
      exact ⟨standing, List.mem_filter.mpr ⟨member, by simpa using other⟩, rfl, set⟩
  · rw [remove_absent world gone present]
    exact .keep rfl fun _ => Iff.rfl

theorem driven_setting (world : World α) (id other : ObjectId) (command : Command α) (good : world.WellFormed)
    (setting : command.kind? = none) : (world.command id command).2.Driven other ↔ world.Driven other := by
  apply driven_of_roster
  rw [command_roster world id command good]
  conv => rhs; rw [← List.map_id world.roster]
  apply List.map_congr_left
  intro standing _
  simp [Standing.obey, setting]

theorem driven_set_type (world : World α) (id other : ObjectId) (kind : Kind) (good : world.WellFormed)
    (present : world.Present id) :
    (world.command id (.setType kind)).2.Driven other ↔
      if other = id then kind ≠ .none else world.Driven other := by
  rw [driven_iff, command_roster world id (.setType kind) good]
  constructor
  · rintro ⟨changed, member, same, set⟩
    obtain ⟨standing, old, rfl⟩ := List.mem_map.mp member
    by_cases here : standing.id = id
    · rw [if_pos here] at same set
      rw [if_pos (same.symm.trans here)]
      exact set
    · rw [if_neg here] at same set
      rw [if_neg fun equal => here (same.trans equal), driven_iff]
      exact ⟨standing, old, same, set⟩
  · intro driven
    by_cases here : other = id
    · obtain ⟨standing, old, same⟩ := present
      rw [if_pos here] at driven
      refine ⟨standing.obey (.setType kind), List.mem_map.mpr ⟨standing, old, if_pos same⟩, ?_, driven⟩
      exact same.trans here.symm
    · rw [if_neg here, driven_iff] at driven
      obtain ⟨standing, old, same, set⟩ := driven
      exact ⟨standing, List.mem_map.mpr ⟨standing, old, if_neg fun equal => here (same.symm.trans equal)⟩, same, set⟩

theorem set_type_settled (world : World α) (id : ObjectId) (kind : Kind) (object : WorldObject α)
    (good : world.WellFormed) (found : world.object? id = some object) :
    (world.command id (.setType kind)).2.schedule.settled =
      (object.vehicle.hookRequest? kind).toList.foldl Schedule.applyChange world.schedule.settled := by
  rw [set_type_found_schedule world id kind object good found, Schedule.settled_defer, Schedule.settled,
    List.foldl_append]
  rfl

-- The vehicle asks for hooks only when its registered flag and its new type disagree, and the flag says
-- whether its old type was set. So the request and the change of type always go together.
theorem shift_set_type (world : World α) (id : ObjectId) (kind : Kind) (good : world.WellFormed)
    (members : ∀ other, other ∈ world.schedule.settled ↔ world.Driven other) :
    Shift world (world.command id (.setType kind)).2 := by
  by_cases present : world.Present id
  · obtain ⟨object, found⟩ := object_present world id present
    obtain ⟨member, same⟩ := object_found world id object found
    have sound := good.sound object.standing ((mem_roster world _).mpr ⟨object, member, rfl⟩)
    have own : object.vehicle.id = id := sound.sameId.trans same
    have flag : object.vehicle.registered = (object.vehicle.kind != .none) := sound.registered
    have settled := set_type_settled world id kind object good found
    have driven := driven_found world id object good.distinct found
    have changed := fun other => driven_set_type world id other kind good present
    by_cases set : object.vehicle.kind = .none
    · have registered : object.vehicle.registered = false := by rw [flag, set]; rfl
      have outside : ¬ world.Driven id := fun inside => driven.mp inside set
      by_cases off : kind = .none
      · refine .keep (by simpa [Vehicle.hookRequest?, off, registered] using settled) fun other => ?_
        rw [changed other]
        by_cases here : other = id
        · rw [if_pos here, here]
          exact ⟨fun on => absurd off on, fun inside => absurd inside outside⟩
        · rw [if_neg here]
      · have unknown : id ∉ world.schedule.settled := fun inside => outside ((members id).mp inside)
        refine .enrol id ⟨object, member, same, set⟩ ?_ fun other => ?_
        · simpa [Vehicle.hookRequest?, off, registered, own, Schedule.applyChange, unknown] using settled
        · rw [changed other]
          by_cases here : other = id
          · simp [here, off]
          · simp [here]
    · have registered : object.vehicle.registered = true := by rw [flag]; simpa using set
      by_cases off : kind = .none
      · refine .drop id ?_ fun other => ?_
        · simpa [Vehicle.hookRequest?, off, registered, own, Schedule.applyChange] using settled
        · rw [changed other]
          by_cases here : other = id
          · simp [here, off]
          · simp [here]
      · refine .keep (by simpa [Vehicle.hookRequest?, off, registered] using settled) fun other => ?_
        rw [changed other]
        by_cases here : other = id
        · rw [if_pos here, here]
          exact ⟨fun _ => driven.mpr set, fun _ => off⟩
        · rw [if_neg here]
  · rw [command_absent world id _ present]
    exact .keep rfl fun _ => Iff.rfl

theorem shift_act (world : World α) (action : WorldAction α) (good : world.WellFormed)
    (members : ∀ id, id ∈ world.schedule.settled ↔ world.Driven id) : Shift world (world.act action) := by
  cases action with
  | spawn position half mass => exact shift_spawn world position half mass
  | remove id => exact shift_remove world id good
  | command id command =>
      cases asked : command.kind? with
      | none =>
          exact .keep (congrArg Schedule.settled (command_setting_schedule world id command good.distinct asked))
            fun other => driven_setting world id other command good asked
      | some kind =>
          cases command with
          | setType named => exact shift_set_type world id named good members
          | _ => cases asked
  | step solver dt =>
      refine .keep ?_ (driven_of_roster world _ (roster_step world solver dt good))
      change (world.stepWith solver dt).schedule.settled = world.schedule.settled
      rw [schedule_step_with world solver dt good]
      rfl

structure Orderly (world : World α) : Prop extends world.WellFormed where
  members : ∀ id, id ∈ world.schedule.settled ↔ world.Driven id

theorem orderly_create (settings : Settings α) (terrain : Terrain α) : (create settings terrain).Orderly where
  toWellFormed := well_formed_create settings terrain
  members := by
    intro id
    refine ⟨fun member => absurd member List.not_mem_nil, ?_⟩
    rintro ⟨_, member, _⟩
    exact absurd member List.not_mem_nil

theorem orderly_act (world : World α) (action : WorldAction α) (good : world.Orderly) : (world.act action).Orderly where
  toWellFormed := well_formed_act world action good.toWellFormed
  members := (shift_act world action good.toWellFormed good.members).members good.members

theorem orderly_run (world : World α) (history : List (WorldAction α)) (good : world.Orderly) :
    (world.run history).Orderly := by
  induction history generalizing world with
  | nil => exact good
  | cons action rest ih => exact ih (world.act action) (orderly_act world action good)

theorem leaves_none_concat (start : World α) (history : List (WorldAction α)) (action : WorldAction α)
    (id : ObjectId) (moment : Nat) (within : moment < history.length) :
    LeavesNone start (history ++ [action]) id moment ↔ LeavesNone start history id moment := by
  have before : (history ++ [action]).take moment = history.take moment :=
    List.take_append_of_le_length (Nat.le_of_lt within)
  have after : (history ++ [action]).take (moment + 1) = history.take (moment + 1) :=
    List.take_append_of_le_length within
  constructor
  · rintro ⟨_, idle, driven⟩
    rw [before] at idle
    rw [after] at driven
    exact ⟨within, idle, driven⟩
  · rintro ⟨_, idle, driven⟩
    refine ⟨?_, ?_, ?_⟩
    · rw [List.length_append]
      exact Nat.lt_add_right _ within
    · rwa [before]
    · rwa [after]

theorem leaves_none_now (start : World α) (history : List (WorldAction α)) (action : WorldAction α) (id : ObjectId) :
    LeavesNone start (history ++ [action]) id history.length ↔
      (start.run history).Idle id ∧ (start.run (history ++ [action])).Driven id := by
  have before : (history ++ [action]).take history.length = history := List.take_left
  have after : (history ++ [action]).take (history.length + 1) = history ++ [action] :=
    List.take_of_length_le (by simp)
  constructor
  · rintro ⟨_, idle, driven⟩
    rw [before] at idle
    rw [after] at driven
    exact ⟨idle, driven⟩
  · rintro ⟨idle, driven⟩
    refine ⟨by simp, ?_, ?_⟩
    · rwa [before]
    · rwa [after]

theorem last_left_stays (start : World α) (history : List (WorldAction α)) (action : WorldAction α)
    (id : ObjectId) (moment : Nat) (last : LastLeft start history id moment)
    (quiet : ¬ ((start.run history).Idle id ∧ (start.run (history ++ [action])).Driven id)) :
    LastLeft start (history ++ [action]) id moment := by
  refine ⟨(leaves_none_concat start history action id moment last.1.within).mpr last.1, ?_⟩
  intro later leaves
  have within : later < history.length + 1 := by simpa using leaves.within
  rcases Nat.lt_succ_iff_lt_or_eq.mp within with earlier | now
  · exact last.2 later ((leaves_none_concat start history action id later earlier).mp leaves)
  · subst now
    exact absurd ((leaves_none_now start history action id).mp leaves) quiet

theorem last_left_now (start : World α) (history : List (WorldAction α)) (action : WorldAction α) (id : ObjectId)
    (idle : (start.run history).Idle id) (driven : (start.run (history ++ [action])).Driven id) :
    LastLeft start (history ++ [action]) id history.length := by
  refine ⟨(leaves_none_now start history action id).mpr ⟨idle, driven⟩, ?_⟩
  intro later leaves
  have within : later < history.length + 1 := by simpa using leaves.within
  exact Nat.lt_succ_iff.mp within

structure Subscribed (start : World α) (history : List (WorldAction α)) : Prop where
  dated : ∀ id ∈ (start.run history).schedule.settled, ∃ moment, LastLeft start history id moment
  ordered : (start.run history).schedule.settled.Pairwise (LeftEarlier start history)

theorem left_earlier_stays (start : World α) (history : List (WorldAction α)) (action : WorldAction α)
    (first second : ObjectId) (earlier : LeftEarlier start history first second)
    (quiet : ∀ id, id = first ∨ id = second →
      ¬ ((start.run history).Idle id ∧ (start.run (history ++ [action])).Driven id)) :
    LeftEarlier start (history ++ [action]) first second := by
  obtain ⟨early, late, left, leftLater, ordered⟩ := earlier
  exact ⟨early, late, last_left_stays start history action first early left (quiet first (Or.inl rfl)),
    last_left_stays start history action second late leftLater (quiet second (Or.inr rfl)), ordered⟩

-- A subscriber had its type set before the action, so the action is not the one that set it: its date
-- stays. Only a new subscriber gets a date, and that is later than all others.
theorem subscribed_act (start : World α) (history : List (WorldAction α)) (action : WorldAction α)
    (good : (start.run history).Orderly) (ready : Subscribed start history) :
    Subscribed start (history ++ [action]) := by
  have shift := shift_act (start.run history) action good.toWellFormed good.members
  rw [← run_concat] at shift
  have quiet : ∀ id ∈ (start.run history).schedule.settled,
      ¬ ((start.run history).Idle id ∧ (start.run (history ++ [action])).Driven id) := by
    intro id member
    have driven := (good.members id).mp member
    exact fun leaves => idle_not_driven (start.run history) id good.distinct leaves.1 driven
  have dated : ∀ id ∈ (start.run history).schedule.settled,
      ∃ moment, LastLeft start (history ++ [action]) id moment := by
    intro id member
    obtain ⟨moment, last⟩ := ready.dated id member
    exact ⟨moment, last_left_stays start history action id moment last (quiet id member)⟩
  have ordered : (start.run history).schedule.settled.Pairwise (LeftEarlier start (history ++ [action])) := by
    refine ready.ordered.imp_of_mem ?_
    rintro first second inside alsoInside earlier
    apply left_earlier_stays start history action first second earlier
    rintro id (rfl | rfl)
    · exact quiet id inside
    · exact quiet id alsoInside
  cases shift with
  | keep same driven =>
      refine ⟨?_, ?_⟩
      · rwa [same]
      · rwa [same]
  | drop gone left driven =>
      refine ⟨?_, ?_⟩
      · intro id member
        rw [left] at member
        exact dated id (List.mem_filter.mp member).1
      · rw [left]
        exact ordered.filter _
  | enrol new idle grown driven =>
      have now := last_left_now start history action new idle ((driven new).mpr (Or.inr rfl))
      refine ⟨?_, ?_⟩
      · intro id member
        rw [grown] at member
        rcases List.mem_append.mp member with old | added
        · exact dated id old
        · rw [List.mem_singleton.mp added]
          exact ⟨history.length, now⟩
      · rw [grown, List.pairwise_append]
        refine ⟨ordered, List.pairwise_singleton _ _, ?_⟩
        intro old member added last
        rw [List.mem_singleton.mp last]
        obtain ⟨moment, left⟩ := ready.dated old member
        exact ⟨moment, history.length, last_left_stays start history action old moment left (quiet old member),
          now, left.1.within⟩

theorem subscribed_run (settings : Settings α) (terrain : Terrain α) (history : List (WorldAction α)) :
    Subscribed (create settings terrain) history := by
  induction history using List.reverseRecOn with
  | nil =>
      exact ⟨fun _ member => absurd member List.not_mem_nil, List.Pairwise.nil⟩
  | append_singleton earlier action ih =>
      exact subscribed_act (create settings terrain) earlier action (orderly_run _ earlier (orderly_create settings terrain)) ih

theorem subscribers_iff_driven (settings : Settings α) (terrain : Terrain α) (history : List (WorldAction α)) (id : ObjectId) :
    id ∈ ((create settings terrain).run history).opened.schedule.preStep ↔
      ((create settings terrain).run history).opened.Driven id := by
  have good := orderly_run (create settings terrain) history (orderly_create settings terrain)
  rw [opened_subscribers _ good.toWellFormed, good.members id]
  exact (driven_of_roster _ _ (roster_opened _ good.distinct good.once) id).symm

theorem steps_driven (settings : Settings α) (terrain : Terrain α) (history : List (WorldAction α)) (dt : α) :
    (stepVehicles dt ((create settings terrain).run history).opened).objects =
      ((create settings terrain).run history).opened.objects.map fun object =>
        if object.vehicle.kind = .none then object
        else ((create settings terrain).run history).opened.stepped dt object := by
  have good := well_formed_run (create settings terrain) history (well_formed_create settings terrain)
  have distinct := opened_distinct _ good
  rw [steps_opened _ dt good, ← opened_subscribers _ good]
  apply List.map_congr_left
  intro object member
  have found := object_of_mem _ distinct object member
  have subscribed := (subscribers_iff_driven settings terrain history object.id).trans
    (driven_found _ object.id object distinct found)
  by_cases set : object.vehicle.kind = .none
  · rw [if_neg fun inside => subscribed.mp inside set, if_pos set]
  · rw [if_pos (subscribed.mpr set), if_neg set]

theorem removed_stays_out (settings : Settings α) (terrain : Terrain α) (before after : List (WorldAction α)) (id : ObjectId)
    (removed : (((create settings terrain).run before).removeObject id).1 = true) :
    id ∉ ((create settings terrain).run (before ++ .remove id :: after)).opened.schedule.preStep ∧
      id ∉ ((create settings terrain).run (before ++ .remove id :: after)).waiting := by
  have earlier := well_formed_run (create settings terrain) before (well_formed_create settings terrain)
  have good := orderly_run (create settings terrain) (before ++ .remove id :: after) (orderly_create settings terrain)
  have present : ((create settings terrain).run before).Present id := by
    by_contra absent
    rw [removeObject, (object_absent _ id).mpr absent] at removed
    cases removed
  have used : id < (((create settings terrain).run before).act (.remove id)).nextId := by
    obtain ⟨standing, member, same⟩ := present
    change id < (((create settings terrain).run before).removeObject id).2.nextId
    rw [remove_next_id, ← same]
    exact earlier.numbered standing member
  have left : ¬ (((create settings terrain).run before).act (.remove id)).Present id := by
    rintro ⟨standing, member, same⟩
    change standing ∈ (((create settings terrain).run before).removeObject id).2.roster at member
    rw [remove_roster] at member
    simp [same] at member
  have absent : ¬ ((create settings terrain).run (before ++ .remove id :: after)).Present id := by
    rw [run, List.foldl_append]
    exact absent_run _ after id (well_formed_act _ _ earlier) used left
  constructor
  · rw [opened_subscribers _ good.toWellFormed, good.members id, driven_iff]
    rintro ⟨standing, member, same, _⟩
    exact absent ⟨standing, member, same⟩
  · exact fun queued => absent (good.waitingPresent id queued)

theorem ids_within_spawns (settings : Settings α) (terrain : Terrain α) (history : List (WorldAction α)) (id : ObjectId)
    (present : ((create settings terrain).run history).Present id) : id ≤ (history.map WorldAction.spawns).sum := by
  have good := well_formed_run (create settings terrain) history (well_formed_create settings terrain)
  obtain ⟨standing, member, rfl⟩ := present
  have below := good.numbered standing member
  rw [next_id_run _ history (well_formed_create settings terrain), Nat.add_comm] at below
  exact Nat.lt_succ_iff.mp below

/-- Whatever happened before, a tick calls the objects that have a type, each once, in the order in which they last left
the type NONE; an object that was removed is not called again. After fewer than `2 ^ 32 - 1` spawns all ids fit in
32 bits, by the last part. -/
theorem every_tick_steps_the_driven (settings : Settings α) (terrain : Terrain α) (history : List (WorldAction α)) :
    let tick := ((create settings terrain).run history).opened
    tick.schedule.preStep = tick.schedule.postStep ∧
      tick.schedule.preStep.Nodup ∧
      (∀ id, id ∈ tick.schedule.preStep ↔ tick.Driven id) ∧
      tick.schedule.preStep.Pairwise (LeftEarlier (create settings terrain) history) ∧
      (∀ dt, (stepVehicles dt tick).objects =
        tick.objects.map fun object =>
          if object.vehicle.kind = .none then object else tick.stepped dt object) ∧
      (∀ before after id, history = before ++ .remove id :: after →
        (((create settings terrain).run before).removeObject id).1 = true →
          id ∉ tick.schedule.preStep ∧ id ∉ ((create settings terrain).run history).waiting) ∧
      ∀ id, tick.Present id → id ≤ (history.map WorldAction.spawns).sum := by
  have good := well_formed_run (create settings terrain) history (well_formed_create settings terrain)
  refine ⟨opened_same_hooks _ good, opened_subscribed_once _ good, subscribers_iff_driven settings terrain history, ?_,
    steps_driven settings terrain history, ?_, ?_⟩
  · rw [opened_subscribers _ good]
    exact (subscribed_run settings terrain history).ordered
  · rintro before after id rfl removed
    exact removed_stays_out settings terrain before after id removed
  · intro id present
    rw [present_iff_id, roster_opened _ good.distinct good.once, ← present_iff_id] at present
    exact ids_within_spawns settings terrain history id present

end VehicleSim.World
