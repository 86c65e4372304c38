import Mathlib.Algebra.GroupWithZero.Nat
import VehicleSim.Proofs.Schedule.Settled
import VehicleSim.Proofs.World.Stages

/-!
Runs of a world, and what holds of it after any run: ids are never used twice, every object is sound,
and what is scheduled is scheduled for objects that are there.
-/

set_option autoImplicit false

namespace VehicleSim

-- What is done to a world from outside. The engine may answer every step in its own way.
inductive WorldAction (α : Type) where
  | spawn (position half : Vec3 α) (mass : α)
  | remove (id : ObjectId)
  | command (id : ObjectId) (command : Command α)
  | step (solver : Solver α) (dt : α)

def WorldAction.spawns {α : Type} : WorldAction α → Nat
  | .spawn .. => 1
  | _ => 0

def Standing.obey {α : Type} (standing : Standing) (command : Command α) : Standing :=
  match command.kind? with
  | some kind => { standing with kind := kind, registered := kind != .none }
  | none => standing

theorem Standing.id_obey {α : Type} (standing : Standing) (command : Command α) :
    (standing.obey command).id = standing.id := by
  unfold Standing.obey
  split <;> rfl

theorem Standing.Sound.obey {α : Type} {standing : Standing} (sound : standing.Sound) (command : Command α) :
    (standing.obey command).Sound := by
  unfold Standing.obey
  split
  · exact ⟨sound.sameId, sound.enabled, sound.embodied, rfl⟩
  · exact sound

variable {α : Type} [Scalar α]

def WorldObject.obey (object : WorldObject α) (command : Command α) : WorldObject α :=
  { object with vehicle := (object.vehicle.obey command .empty).1 }

theorem WorldObject.standing_obey (object : WorldObject α) (command : Command α)
    (sound : object.standing.Sound) : (object.obey command).standing = object.standing.obey command := by
  cases asked : command.kind? with
  | none =>
      obtain ⟨params, pull, sameKind, _, obeyed⟩ := object.vehicle.obey_setting command .empty asked
      simp only [WorldObject.obey, obeyed, Standing.obey, asked, standing, sameKind]
  | some kind =>
      cases command with
      | setType named =>
          cases asked
          simp only [WorldObject.obey, Vehicle.obey, object.vehicle.set_type_vehicle kind .empty sound.enabled]
          rfl
      | _ => cases asked

namespace World

def act (world : World α) : WorldAction α → World α
  | .spawn position half mass => (world.spawnBox position half mass).2
  | .remove id => (world.removeObject id).2
  | .command id command => (world.command id command).2
  | .step solver dt => world.stepWith solver dt

def run (world : World α) (history : List (WorldAction α)) : World α := history.foldl act world

theorem run_concat (world : World α) (history : List (WorldAction α)) (action : WorldAction α) :
    world.run (history ++ [action]) = (world.run history).act action := by
  rw [run, List.foldl_concat]
  rfl

structure WellFormed (world : World α) : Prop where
  distinct : world.Distinct
  numbered : ∀ standing ∈ world.roster, standing.id < world.nextId
  sound : ∀ standing ∈ world.roster, standing.Sound
  once : world.waiting.Nodup
  waitingPresent : ∀ id ∈ world.waiting, world.Present id
  sameHooks : world.schedule.preStep = world.schedule.postStep
  subscribedOnce : world.schedule.settled.Nodup

theorem WellFormed.sound_of_mem {world : World α} (good : world.WellFormed) (object : WorldObject α)
    (member : object ∈ world.objects) : object.standing.Sound :=
  good.sound object.standing ((mem_roster world _).mpr ⟨object, member, rfl⟩)

theorem body_present (world : World α) (good : world.WellFormed) (id : ObjectId) (present : world.Present id) :
    ∃ body, world.body? id = some body := by
  obtain ⟨object, found⟩ := object_present world id present
  have member := (object_found world id object found).1
  obtain ⟨body, embodied⟩ := Option.isSome_iff_exists.mp (good.sound_of_mem object member).embodied
  refine ⟨body, ?_⟩
  rw [body?, found]
  exact embodied

theorem well_formed_create (settings : Settings α) (terrain : Terrain α) : (create settings terrain).WellFormed where
  distinct := List.nodup_nil
  numbered := fun _ member => absurd member List.not_mem_nil
  sound := fun _ member => absurd member List.not_mem_nil
  once := List.nodup_nil
  waitingPresent := fun _ member => absurd member List.not_mem_nil
  sameHooks := rfl
  subscribedOnce := List.nodup_nil

def newcomer (world : World α) : Standing := ⟨world.nextId, world.nextId, .none, false, true, true⟩

theorem spawn_roster (world : World α) (position half : Vec3 α) (mass : α) :
    (world.spawnBox position half mass).2.roster = world.roster ++ [world.newcomer] := by
  simp only [spawnBox, roster, List.map_append, List.map_cons, List.map_nil]
  rfl

theorem well_formed_spawn (world : World α) (position half : Vec3 α) (mass : α) (good : world.WellFormed) :
    (world.spawnBox position half mass).2.WellFormed := by
  have grown := spawn_roster world position half mass
  have member : ∀ standing, standing ∈ (world.spawnBox position half mass).2.roster →
      standing ∈ world.roster ∨ standing = world.newcomer := by
    intro standing found
    rw [grown] at found
    simpa using found
  refine ⟨?_, ?_, ?_, good.once, ?_, good.sameHooks, good.subscribedOnce⟩
  · rw [distinct_iff, grown, List.map_append, List.nodup_append]
    refine ⟨(distinct_iff world).mp good.distinct, by simp, ?_⟩
    intro old present new added same
    obtain ⟨standing, found, rfl⟩ := List.mem_map.mp present
    have fresh : new = world.nextId := by simpa [newcomer] using added
    exact Nat.ne_of_lt (good.numbered standing found) (same.trans fresh)
  · intro standing found
    rcases member standing found with old | new
    · exact Nat.lt_succ_of_lt (good.numbered standing old)
    · subst new
      exact Nat.lt_succ_self world.nextId
  · intro standing found
    rcases member standing found with old | new
    · exact good.sound standing old
    · subst new
      exact ⟨rfl, rfl, rfl, rfl⟩
  · intro id queued
    obtain ⟨standing, found, same⟩ := good.waitingPresent id queued
    exact ⟨standing, by rw [grown]; exact List.mem_append_left _ found, same⟩

theorem remove_absent (world : World α) (id : ObjectId) (absent : ¬ world.Present id) :
    (world.removeObject id).2 = world := by
  rw [removeObject, (object_absent world id).mpr absent]

theorem remove_objects (world : World α) (id : ObjectId) :
    (world.removeObject id).2.objects = world.objects.filter (·.id != id) := by
  unfold removeObject
  split
  · rename_i missing
    refine (List.filter_eq_self.mpr ?_).symm
    intro object member
    have other : object.id ≠ id := fun same =>
      (object_absent world id).mp missing ((present_iff world id).mpr ⟨object, member, same⟩)
    simpa using other
  · rfl

theorem remove_roster (world : World α) (id : ObjectId) :
    (world.removeObject id).2.roster = world.roster.filter (·.id != id) := by
  rw [roster, remove_objects, roster, List.filter_map]
  rfl

theorem remove_schedule (world : World α) (id : ObjectId) (good : world.WellFormed)
    (present : world.Present id) :
    ∃ requests, (∀ change ∈ requests, change = HookChange.unsubscribe id) ∧
      (world.removeObject id).2.schedule =
        { world.schedule with pending := world.schedule.pending ++ requests }.forget id := by
  unfold removeObject
  split
  · rename_i missing
    exact absurd present ((object_absent world id).mp missing)
  · rename_i object found
    obtain ⟨member, same⟩ := object_found world id object found
    have own : object.vehicle.id = id :=
      (good.sound object.standing ((mem_roster world _).mpr ⟨object, member, rfl⟩)).sameId.trans same
    cases registered : object.vehicle.registered
    · refine ⟨[], by simp, ?_⟩
      simp [Vehicle.dispose, Vehicle.unregister, registered]
    · refine ⟨[.unsubscribe id], by simp, ?_⟩
      simp [Vehicle.dispose, Vehicle.unregister, registered, Schedule.unsubscribe, own]

theorem remove_settled (world : World α) (id : ObjectId) (good : world.WellFormed)
    (present : world.Present id) :
    (world.removeObject id).2.schedule.settled = world.schedule.settled.filter (· != id) := by
  obtain ⟨requests, own, removed⟩ := remove_schedule world id good present
  have dropped : requests.filter (fun change => change.id != id) = [] := by
    rw [List.filter_eq_nil_iff]
    intro change asked
    simp [own change asked, HookChange.id]
  rw [removed, Schedule.settled, Schedule.forget]
  simp only [List.filter_append, dropped, List.append_nil]
  exact Schedule.settled_forget world.schedule id

theorem remove_waiting (world : World α) (id : ObjectId) (good : world.WellFormed) (present : world.Present id) :
    (world.removeObject id).2.waiting = world.waiting.filter (· != id) := by
  obtain ⟨requests, _, removed⟩ := remove_schedule world id good present
  rw [waiting, removed, waiting, List.filter_map]
  rfl

theorem remove_same_hooks (world : World α) (id : ObjectId) (good : world.WellFormed)
    (present : world.Present id) :
    (world.removeObject id).2.schedule.preStep = (world.removeObject id).2.schedule.postStep := by
  obtain ⟨requests, _, removed⟩ := remove_schedule world id good present
  rw [removed]
  exact congrArg (List.filter (· != id)) good.sameHooks

theorem remove_next_id (world : World α) (id : ObjectId) : (world.removeObject id).2.nextId = world.nextId := by
  unfold removeObject
  split <;> rfl

theorem well_formed_remove (world : World α) (id : ObjectId) (good : world.WellFormed) :
    (world.removeObject id).2.WellFormed := by
  by_cases present : world.Present id
  · have left := remove_roster world id
    have member : ∀ standing ∈ (world.removeObject id).2.roster, standing ∈ world.roster := by
      intro standing found
      rw [left] at found
      exact (List.mem_filter.mp found).1
    refine ⟨?_, ?_, fun standing found => good.sound standing (member standing found), ?_, ?_,
      remove_same_hooks world id good present, ?_⟩
    · rw [distinct_iff, left]
      exact ((distinct_iff world).mp good.distinct).sublist (List.filter_sublist.map _)
    · intro standing found
      rw [remove_next_id]
      exact good.numbered standing (member standing found)
    · rw [remove_waiting world id good present]
      exact good.once.filter _
    · intro other queued
      rw [remove_waiting world id good present, List.mem_filter] at queued
      obtain ⟨standing, found, same⟩ := good.waitingPresent other queued.1
      refine ⟨standing, ?_, same⟩
      rw [left, List.mem_filter, same]
      exact ⟨found, queued.2⟩
    · rw [remove_settled world id good present]
      exact good.subscribedOnce.filter _
  · rw [remove_absent world id present]
    exact good

theorem command_absent (world : World α) (id : ObjectId) (command : Command α) (absent : ¬ world.Present id) :
    (world.command id command).2 = world := by
  rw [World.command, (object_absent world id).mpr absent]

theorem command_found (world : World α) (id : ObjectId) (command : Command α) (object : WorldObject α)
    (distinct : world.Distinct) (found : world.object? id = some object) :
    (world.command id command).2 =
      { world.modify id (·.obey command) with
        schedule := (object.vehicle.obey command world.schedule).2 } := by
  have replaced := replace_eq_modify world id object (·.obey command) distinct found rfl
  rw [World.command, found, ← replaced]
  dsimp only [WorldObject.obey]
  rw [object.vehicle.obey_ignores_schedule command .empty world.schedule]

theorem command_known (world : World α) (id : ObjectId) (command : Command α) (present : world.Present id) :
    (world.command id command).1 = true := by
  obtain ⟨object, found⟩ := object_present world id present
  rw [World.command, found]

theorem command_objects (world : World α) (id : ObjectId) (command : Command α) (distinct : world.Distinct) :
    (world.command id command).2.objects = (world.modify id (·.obey command)).objects := by
  cases found : world.object? id with
  | none =>
      have absent := (object_absent world id).mp found
      rw [command_absent world id command absent, modify_absent world id _ absent]
  | some object => rw [command_found world id command object distinct found]

theorem command_roster (world : World α) (id : ObjectId) (command : Command α) (good : world.WellFormed) :
    (world.command id command).2.roster =
      world.roster.map fun standing => if standing.id = id then standing.obey command else standing := by
  by_cases present : world.Present id
  · obtain ⟨object, found⟩ := object_present world id present
    rw [command_found world id command object good.distinct found]
    change (world.objects.map _).map WorldObject.standing = _
    rw [roster, List.map_map, List.map_map]
    apply List.map_congr_left
    intro other member
    have sound := good.sound other.standing ((mem_roster world _).mpr ⟨other, member, rfl⟩)
    by_cases here : other.id = id
    · simpa [here, WorldObject.standing] using WorldObject.standing_obey other command sound
    · simp [here, WorldObject.standing]
  · rw [command_absent world id command present]
    conv => lhs; rw [← List.map_id world.roster]
    apply List.map_congr_left
    intro standing found
    exact (if_neg fun same => present ⟨standing, found, same⟩).symm

theorem command_setting_schedule (world : World α) (id : ObjectId) (command : Command α)
    (distinct : world.Distinct) (setting : command.kind? = none) :
    (world.command id command).2.schedule = world.schedule := by
  cases found : world.object? id with
  | none => rw [command_absent world id command ((object_absent world id).mp found)]
  | some object =>
      obtain ⟨params, pull, _, _, obeyed⟩ := object.vehicle.obey_setting command world.schedule setting
      rw [command_found world id command object distinct found, obeyed]

theorem set_type_found_schedule (world : World α) (id : ObjectId) (kind : Kind) (object : WorldObject α)
    (good : world.WellFormed) (found : world.object? id = some object) :
    (world.command id (.setType kind)).2.schedule =
      { world.schedule with
        pending := world.schedule.pending ++ (object.vehicle.hookRequest? kind).toList }.defer
          id .refreshVehicle := by
  obtain ⟨member, same⟩ := object_found world id object found
  have sound := good.sound object.standing ((mem_roster world _).mpr ⟨object, member, rfl⟩)
  rw [command_found world id (.setType kind) object good.distinct found]
  change (object.vehicle.setType kind world.schedule).2 = _
  rw [object.vehicle.set_type_schedule kind world.schedule sound.enabled]
  exact congrArg (Schedule.defer _ · .refreshVehicle) (sound.sameId.trans same)

theorem set_type_waiting (world : World α) (id other : ObjectId) (kind : Kind) (good : world.WellFormed)
    (present : world.Present id) :
    other ∈ (world.command id (.setType kind)).2.waiting ↔ other ∈ world.waiting ∨ other = id := by
  obtain ⟨object, found⟩ := object_present world id present
  have queued := Schedule.mem_defer
    { world.schedule with pending := world.schedule.pending ++ (object.vehicle.hookRequest? kind).toList } id
    .refreshVehicle
  rw [waiting, waiting, set_type_found_schedule world id kind object good found]
  constructor
  · intro member
    obtain ⟨entry, listed, rfl⟩ := List.mem_map.mp member
    rcases (queued entry).mp listed with old | new
    · exact Or.inl (List.mem_map_of_mem old)
    · exact Or.inr (congrArg Prod.fst new)
  · rintro (old | rfl)
    · obtain ⟨entry, listed, rfl⟩ := List.mem_map.mp old
      exact List.mem_map_of_mem ((queued entry).mpr (Or.inl listed))
    · exact List.mem_map_of_mem ((queued (other, .refreshVehicle)).mpr (Or.inr rfl))

theorem command_schedule (world : World α) (id : ObjectId) (command : Command α) (good : world.WellFormed) :
    (world.command id command).2.schedule = world.schedule ∨
      world.Present id ∧ ∃ requests, (world.command id command).2.schedule =
        { world.schedule with pending := world.schedule.pending ++ requests }.defer id .refreshVehicle := by
  by_cases present : world.Present id
  · cases asked : command.kind? with
    | none => exact Or.inl (command_setting_schedule world id command good.distinct asked)
    | some kind =>
        obtain ⟨object, found⟩ := object_present world id present
        cases command with
        | setType named =>
            exact Or.inr ⟨present, _, set_type_found_schedule world id named object good found⟩
        | _ => cases asked
  · rw [command_absent world id command present]
    exact Or.inl rfl

theorem command_next_id (world : World α) (id : ObjectId) (command : Command α) :
    (world.command id command).2.nextId = world.nextId := by
  unfold World.command
  split <;> rfl

theorem command_ids (world : World α) (id : ObjectId) (command : Command α) (good : world.WellFormed) :
    (world.command id command).2.roster.map (·.id) = world.roster.map (·.id) := by
  rw [command_roster world id command good, List.map_map]
  apply List.map_congr_left
  intro standing _
  dsimp only [Function.comp]
  split
  · exact standing.id_obey command
  · rfl

theorem command_present (world : World α) (id other : ObjectId) (command : Command α) (good : world.WellFormed) :
    (world.command id command).2.Present other ↔ world.Present other := by
  rw [present_iff_id, present_iff_id, command_ids world id command good]

theorem well_formed_command (world : World α) (id : ObjectId) (command : Command α) (good : world.WellFormed) :
    (world.command id command).2.WellFormed := by
  have ids := command_ids world id command good
  have mapped := command_roster world id command good
  have standings : ∀ standing ∈ (world.command id command).2.roster,
      ∃ old ∈ world.roster, standing = old ∨ standing = old.obey command := by
    intro standing found
    rw [mapped] at found
    obtain ⟨old, member, rfl⟩ := List.mem_map.mp found
    refine ⟨old, member, ?_⟩
    split
    · exact Or.inr rfl
    · exact Or.inl rfl
  have distinct : (world.command id command).2.Distinct := by
    rw [distinct_iff, ids]
    exact (distinct_iff world).mp good.distinct
  have numbered : ∀ standing ∈ (world.command id command).2.roster,
      standing.id < (world.command id command).2.nextId := by
    intro standing found
    rw [command_next_id]
    obtain ⟨old, member, rfl | rfl⟩ := standings standing found
    · exact good.numbered _ member
    · rw [Standing.id_obey]
      exact good.numbered old member
  have sound : ∀ standing ∈ (world.command id command).2.roster, standing.Sound := by
    intro standing found
    obtain ⟨old, member, rfl | rfl⟩ := standings standing found
    · exact good.sound _ member
    · exact (good.sound old member).obey command
  have present := fun other => (command_present world id other command good).mpr
  rcases command_schedule world id command good with same | ⟨here, requests, asked⟩
  · refine ⟨distinct, numbered, sound, ?_, ?_, ?_, ?_⟩
    · rw [waiting, same]
      exact good.once
    · intro other queued
      rw [waiting, same] at queued
      exact present other (good.waitingPresent other queued)
    · rw [same]
      exact good.sameHooks
    · rw [same]
      exact good.subscribedOnce
  · obtain ⟨pre, post, _⟩ := Schedule.defer_keeps_hooks
      { world.schedule with pending := world.schedule.pending ++ requests } id .refreshVehicle
    refine ⟨distinct, numbered, sound, ?_, ?_, ?_, ?_⟩
    · rw [waiting, asked]
      exact Schedule.nodup_defer _ id .refreshVehicle good.once
    · intro other queued
      rw [waiting, asked] at queued
      obtain ⟨entry, member, rfl⟩ := List.mem_map.mp queued
      rcases (Schedule.mem_defer _ id .refreshVehicle entry).mp member with old | new
      · exact present entry.1 (good.waitingPresent entry.1 (List.mem_map_of_mem old))
      · subst new
        exact present id here
    · rw [asked, pre, post]
      exact good.sameHooks
    · rw [asked, Schedule.settled_defer, Schedule.settled, List.foldl_append]
      exact Schedule.nodup_foldl_apply_change requests _ good.subscribedOnce

theorem opened_distinct (world : World α) (good : world.WellFormed) : world.opened.Distinct :=
  distinct_of_roster world world.opened (roster_opened world good.distinct good.once) good.distinct

theorem opened_subscribers (world : World α) (good : world.WellFormed) :
    world.opened.schedule.preStep = world.schedule.settled := by
  rw [schedule_opened world good.distinct good.once]
  rfl

theorem opened_same_hooks (world : World α) (good : world.WellFormed) :
    world.opened.schedule.preStep = world.opened.schedule.postStep := by
  rw [schedule_opened world good.distinct good.once]
  exact congrArg (world.schedule.pending.foldl Schedule.applyChange) good.sameHooks

theorem opened_subscribed_once (world : World α) (good : world.WellFormed) :
    world.opened.schedule.preStep.Nodup := by
  rw [opened_subscribers world good]
  exact good.subscribedOnce

theorem opened_gravity (world : World α) (good : world.WellFormed) : world.opened.gravity = world.gravity := by
  change world.runDeferred.gravity = world.gravity
  rw [run_deferred world good.distinct good.once]

theorem steps_opened (world : World α) (dt : α) (good : world.WellFormed) :
    stepVehicles dt world.opened =
      { world.opened with
        objects := mapAt world.schedule.settled (world.opened.stepped dt) world.opened.objects
        pushed := world.schedule.settled.filter (world.opened.asks dt) } := by
  have moved := step_vehicles world.opened dt (opened_distinct world good) (opened_subscribed_once world good)
  rwa [opened_subscribers world good] at moved

theorem roster_step (world : World α) (solver : Solver α) (dt : α) (good : world.WellFormed) :
    (world.stepWith solver dt).roster = world.roster :=
  roster_step_with world solver dt good.distinct good.once (opened_subscribed_once world good)

theorem schedule_step_with (world : World α) (solver : Solver α) (dt : α) (good : world.WellFormed) :
    (world.stepWith solver dt).schedule = { world.schedule.applyPending with deferred := [] } := by
  rw [step_with, steps_opened world dt good, finish_schedule, ← schedule_opened world good.distinct good.once]

theorem next_id_step_with (world : World α) (solver : Solver α) (dt : α) (good : world.WellFormed) :
    (world.stepWith solver dt).nextId = world.nextId := by
  rw [step_with, steps_opened world dt good, finish_next_id]
  change world.runDeferred.nextId = world.nextId
  rw [run_deferred world good.distinct good.once]

theorem well_formed_step (world : World α) (solver : Solver α) (dt : α) (good : world.WellFormed) :
    (world.stepWith solver dt).WellFormed := by
  have hooks := schedule_step_with world solver dt good
  have kept := roster_step world solver dt good
  refine ⟨distinct_of_roster world _ kept good.distinct, ?_, ?_, ?_, ?_, ?_, ?_⟩
  · rw [kept, next_id_step_with world solver dt good]
    exact good.numbered
  · rw [kept]
    exact good.sound
  · rw [waiting, hooks]
    exact List.nodup_nil
  · rw [waiting, hooks]
    exact fun _ queued => absurd queued List.not_mem_nil
  · rw [hooks]
    exact congrArg (world.schedule.pending.foldl Schedule.applyChange) good.sameHooks
  · rw [hooks]
    exact good.subscribedOnce

theorem well_formed_act (world : World α) (action : WorldAction α) (good : world.WellFormed) :
    (world.act action).WellFormed := by
  cases action with
  | spawn position half mass => exact well_formed_spawn world position half mass good
  | remove id => exact well_formed_remove world id good
  | command id command => exact well_formed_command world id command good
  | step solver dt => exact well_formed_step world solver dt good

theorem well_formed_run (world : World α) (history : List (WorldAction α)) (good : world.WellFormed) :
    (world.run history).WellFormed := by
  induction history generalizing world with
  | nil => exact good
  | cons action rest ih => exact ih (world.act action) (well_formed_act world action good)

theorem next_id_act (world : World α) (action : WorldAction α) (good : world.WellFormed) :
    (world.act action).nextId = world.nextId + action.spawns := by
  cases action with
  | spawn position half mass => rfl
  | remove id => exact remove_next_id world id
  | command id command => exact command_next_id world id command
  | step solver dt => exact next_id_step_with world solver dt good

theorem gravity_act (world : World α) (action : WorldAction α) (good : world.WellFormed) :
    (world.act action).gravity = world.gravity := by
  cases action with
  | spawn position half mass => rfl
  | remove id =>
      change (world.removeObject id).2.gravity = world.gravity
      unfold removeObject
      split <;> rfl
  | command id command =>
      change (world.command id command).2.gravity = world.gravity
      unfold World.command
      split <;> rfl
  | step solver dt =>
      change (world.stepWith solver dt).gravity = world.gravity
      rw [step_with, steps_opened world dt good, finish_gravity]
      exact opened_gravity world good

theorem gravity_run (world : World α) (history : List (WorldAction α)) (good : world.WellFormed) :
    (world.run history).gravity = world.gravity := by
  induction history generalizing world with
  | nil => rfl
  | cons action rest ih =>
      have later := ih (world.act action) (well_formed_act world action good)
      rwa [gravity_act world action good] at later

theorem next_id_run (world : World α) (history : List (WorldAction α)) (good : world.WellFormed) :
    (world.run history).nextId = world.nextId + (history.map WorldAction.spawns).sum := by
  induction history generalizing world with
  | nil => rfl
  | cons action rest ih =>
      have later := ih (world.act action) (well_formed_act world action good)
      rw [next_id_act world action good, Nat.add_assoc] at later
      rw [List.map_cons, List.sum_cons]
      exact later

theorem absent_act (world : World α) (action : WorldAction α) (id : ObjectId) (good : world.WellFormed)
    (used : id < world.nextId) (absent : ¬ world.Present id) : ¬ (world.act action).Present id := by
  cases action with
  | spawn position half mass =>
      rintro ⟨standing, member, same⟩
      change standing ∈ (world.spawnBox position half mass).2.roster at member
      rw [spawn_roster] at member
      rcases List.mem_append.mp member with old | new
      · exact absent ⟨standing, old, same⟩
      · rw [List.mem_singleton.mp new] at same
        exact Nat.ne_of_lt used same.symm
  | remove other =>
      rintro ⟨standing, member, same⟩
      change standing ∈ (world.removeObject other).2.roster at member
      rw [remove_roster] at member
      exact absent ⟨standing, (List.mem_filter.mp member).1, same⟩
  | command other command => exact fun present => absent ((command_present world other id command good).mp present)
  | step solver dt =>
      have kept := roster_step world solver dt good
      rintro ⟨standing, member, same⟩
      change standing ∈ (world.stepWith solver dt).roster at member
      rw [kept] at member
      exact absent ⟨standing, member, same⟩

theorem absent_run (world : World α) (history : List (WorldAction α)) (id : ObjectId) (good : world.WellFormed)
    (used : id < world.nextId) (absent : ¬ world.Present id) : ¬ (world.run history).Present id := by
  induction history generalizing world with
  | nil => exact absent
  | cons action rest ih =>
      apply ih (world.act action) (well_formed_act world action good)
      · rw [next_id_act world action good]
        exact Nat.lt_of_lt_of_le used (Nat.le_add_right _ _)
      · exact absent_act world action id good used absent

end World

end VehicleSim
