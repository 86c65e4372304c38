import VehicleSim.Proofs.World.Subscription

/-!
The share of one object in a world: all that an action or a tick reads about it. An action takes a share to
the next one by itself; a tick needs the solver's answer for the object's body as well. So what is done to
other objects can reach this one only through the solver.
-/

set_option autoImplicit false

namespace VehicleSim

@[ext]
structure Share (α : Type) [Scalar α] where
  gravity : Vec3 α
  terrain : Terrain α
  tuning : Tuning α
  nextId : ObjectId
  object : Option (WorldObject α)
  waiting : Bool

-- What is seen of one object after a tick.
structure Sight (α : Type) where
  object : Option (WorldObject α)
  subscribed : Bool
  report : Option (Report α)

variable {α : Type} [Scalar α]

def RigidBody.finished (terrain : Terrain α) (driven : Bool) (answer : Option (Motion α)) (body : RigidBody α) :
    RigidBody α :=
  let moved := { body with motion := answer.getD body.motion }
  let cleared := if driven then moved.clearForces else moved
  { cleared with motion := World.returnMotion terrain cleared.motion }

namespace Share

def spawn (id : ObjectId) (position half : Vec3 α) (mass : α) (share : Share α) : Share α :=
  let object : WorldObject α := ⟨share.nextId, .create share.nextId share.tuning, some (.box position half mass)⟩
  { share with
    nextId := share.nextId + 1
    object := share.object.or (if share.nextId = id then some object else none) }

def remove (share : Share α) : Share α := { share with object := none, waiting := false }

def obey (command : Command α) (share : Share α) : Share α :=
  { share with
    object := share.object.map (·.obey command)
    waiting := share.waiting || (share.object.isSome && command.kind?.isSome) }

def refreshed (share : Share α) (object : WorldObject α) : WorldObject α :=
  if share.waiting then object.refresh share.gravity share.tuning.maxAngularVelocity else object

def stepped (share : Share α) (dt : α) (object : WorldObject α) : WorldObject α × Bool :=
  if object.vehicle.kind = .none then (object, false)
  else object.step share.gravity share.terrain.landscape share.tuning.maxAngularVelocity dt

def asked (share : Share α) (dt : α) (object : WorldObject α) : Bool :=
  (share.stepped dt (share.refreshed object)).2

def prepared (share : Share α) (dt : α) (object : WorldObject α) : WorldObject α :=
  let object := (share.stepped dt (share.refreshed object)).1
  { object with body := object.body.map RigidBody.weigh }

def finished (share : Share α) (answer : Option (Motion α)) (object : WorldObject α) : WorldObject α :=
  { object with body := object.body.map (.finished share.terrain (object.vehicle.kind != .none) answer) }

def ticked (share : Share α) (dt : α) (answer : Option (Motion α)) (object : WorldObject α) : WorldObject α :=
  share.finished answer (share.prepared dt object)

def tick (dt : α) (answer : Option (Motion α)) (share : Share α) : Share α :=
  { share with object := share.object.map (share.ticked dt answer), waiting := false }

def report? (share : Share α) (dt : α) (answer : Option (Motion α)) (object : WorldObject α) :
    Option (ObjectId × Report α) :=
  (share.ticked dt answer object).report? share.gravity (if share.asked dt object then [object.id] else [])

def sight (dt : α) (answer : Option (Motion α)) (share : Share α) : Sight α where
  object := (share.tick dt answer).object
  subscribed := share.object.any (·.vehicle.kind != .none)
  report := (share.object.bind (share.report? dt answer)).map (·.2)

def act (id : ObjectId) (answer : Option (Motion α)) (share : Share α) : WorldAction α → Share α
  | .spawn position half mass => share.spawn id position half mass
  | .remove other => if other = id then share.remove else share
  | .command other command => if other = id then share.obey command else share
  | .step _ dt => share.tick dt answer

theorem standing_refreshed (share : Share α) (object : WorldObject α) :
    (share.refreshed object).standing = object.standing := by
  unfold refreshed
  split
  · exact WorldObject.standing_refresh _ _ object
  · rfl

end Share

namespace World

def share (world : World α) (id : ObjectId) : Share α where
  gravity := world.gravity
  terrain := world.terrain
  tuning := world.tuning
  nextId := world.nextId
  object := world.object? id
  waiting := id ∈ world.waiting

def sight (world : World α) (id : ObjectId) : Sight α where
  object := world.object? id
  subscribed := world.schedule.isSubscribed id
  report := world.updates.lookup id

-- What the solver says of this object's body, if the action is a tick.
def answer (world : World α) (id : ObjectId) : WorldAction α → Option (Motion α)
  | .step solver dt => (solver dt world.gravity (world.prepare dt).scene).lookup id
  | _ => none

theorem share_spawn (world : World α) (id : ObjectId) (position half : Vec3 α) (mass : α) :
    (world.spawnBox position half mass).2.share id = (world.share id).spawn id position half mass := by
  ext1
  case object =>
    dsimp only [share, spawnBox, object?, Share.spawn]
    rw [List.find?_append, List.find?_singleton]
    by_cases here : world.nextId = id <;> simp [here]
  all_goals rfl

theorem remove_settings (world : World α) (id : ObjectId) :
    ∃ objects schedule pushed, (world.removeObject id).2 =
      { world with objects := objects, schedule := schedule, pushed := pushed } := by
  unfold removeObject
  split <;> exact ⟨_, _, _, rfl⟩

theorem share_remove (world : World α) (id : ObjectId) (good : world.WellFormed) :
    (world.removeObject id).2.share id = (world.share id).remove := by
  have left : (world.removeObject id).2.object? id = none := by
    rw [object?, remove_objects, List.find?_filter]
    simp
  have queued : id ∉ (world.removeObject id).2.waiting := by
    by_cases present : world.Present id
    · rw [remove_waiting world id good present]
      simp
    · rw [remove_absent world id present]
      exact fun waits => present (good.waitingPresent id waits)
  obtain ⟨objects, schedule, pushed, removed⟩ := remove_settings world id
  rw [removed] at left queued ⊢
  exact Share.ext rfl rfl rfl rfl left (decide_eq_false queued)

theorem share_remove_other (world : World α) (id other : ObjectId) (good : world.WellFormed) (different : other ≠ id) :
    (world.removeObject other).2.share id = world.share id := by
  by_cases present : world.Present other
  · have left : (world.removeObject other).2.object? id = world.object? id := by
      rw [object?, remove_objects, List.find?_filter]
      refine congrArg (List.find? · world.objects) (funext fun object => ?_)
      by_cases here : object.id = id
      · simp [here, Ne.symm different]
      · simp [here]
    have queued : id ∈ (world.removeObject other).2.waiting ↔ id ∈ world.waiting := by
      rw [remove_waiting world other good present]
      simp [Ne.symm different]
    obtain ⟨objects, schedule, pushed, removed⟩ := remove_settings world other
    rw [removed] at left queued ⊢
    exact Share.ext rfl rfl rfl rfl left (decide_eq_decide.mpr queued)
  · rw [remove_absent world other present]

theorem command_waiting (world : World α) (id other : ObjectId) (command : Command α) (good : world.WellFormed)
    (present : world.Present other) :
    id ∈ (world.command other command).2.waiting ↔ id ∈ world.waiting ∨ id = other ∧ command.kind?.isSome := by
  cases asked : command.kind? with
  | none =>
      rw [waiting, command_setting_schedule world other command good.distinct asked, waiting]
      simp
  | some kind =>
      cases command with
      | setType named => simpa using set_type_waiting world other id named good present
      | _ => cases asked

theorem command_settings (world : World α) (id : ObjectId) (command : Command α) :
    ∃ objects schedule, (world.command id command).2 =
      { world with objects := objects, schedule := schedule } := by
  unfold World.command
  split <;> exact ⟨_, _, rfl⟩

theorem command_object (world : World α) (id other : ObjectId) (command : Command α) (distinct : world.Distinct) :
    (world.command other command).2.object? id =
      (world.object? id).map fun object => if id = other then object.obey command else object := by
  rw [object?, command_objects world other command distinct]
  exact object_modify world other id _ fun _ => rfl

theorem share_command (world : World α) (id : ObjectId) (command : Command α) (good : world.WellFormed) :
    (world.command id command).2.share id = (world.share id).obey command := by
  have obeyed : (world.command id command).2.object? id = (world.object? id).map (·.obey command) := by
    rw [command_object world id id command good.distinct]
    simp only [if_true]
  have queued : id ∈ (world.command id command).2.waiting ↔
      id ∈ world.waiting ∨ (world.object? id).isSome ∧ command.kind?.isSome := by
    by_cases present : world.Present id
    · obtain ⟨object, found⟩ := object_present world id present
      rw [command_waiting world id id command good present, found]
      simp
    · rw [command_absent world id command present, (object_absent world id).mpr present]
      simp
  obtain ⟨objects, schedule, commanded⟩ := command_settings world id command
  rw [commanded] at obeyed queued ⊢
  refine Share.ext rfl rfl rfl rfl obeyed ?_
  rw [Bool.eq_iff_iff]
  simpa [Share.obey, share] using queued

theorem share_command_other (world : World α) (id other : ObjectId) (command : Command α) (good : world.WellFormed)
    (different : other ≠ id) : (world.command other command).2.share id = world.share id := by
  by_cases present : world.Present other
  · have kept : (world.command other command).2.object? id = world.object? id := by
      rw [command_object world id other command good.distinct]
      simp [Ne.symm different]
    have queued : id ∈ (world.command other command).2.waiting ↔ id ∈ world.waiting := by
      rw [command_waiting world id other command good present]
      simp [Ne.symm different]
    obtain ⟨objects, schedule, commanded⟩ := command_settings world other command
    rw [commanded] at kept queued ⊢
    exact Share.ext rfl rfl rfl rfl kept (decide_eq_decide.mpr queued)
  · rw [command_absent world other command present]

theorem opened_object (world : World α) (id : ObjectId) (good : world.WellFormed) :
    world.opened.object? id = (world.object? id).map (world.share id).refreshed := by
  rw [opened, run_deferred world good.distinct good.once]
  change (mapAt world.waiting world.refreshed world.objects).find? _ = _
  rw [find_map_at world.waiting world.refreshed world.objects id world.refreshed_keeps]
  refine congrArg (Option.map · (world.object? id)) (funext fun object => ?_)
  by_cases queued : id ∈ world.waiting <;> simp [Share.refreshed, share, queued, refreshed]

theorem opened_settings (world : World α) (good : world.WellFormed) :
    world.opened.gravity = world.gravity ∧ world.opened.terrain = world.terrain ∧
      world.opened.tuning = world.tuning := by
  rw [opened, run_deferred world good.distinct good.once]
  exact ⟨rfl, rfl, rfl⟩

theorem steps_subscribed (world : World α) (id : ObjectId) (object : WorldObject α) (good : world.Orderly)
    (found : world.opened.object? id = some object) :
    id ∈ world.schedule.settled ↔ object.vehicle.kind ≠ .none := by
  have kept := driven_of_roster _ _ (roster_opened world good.distinct good.once) id
  rw [good.members id, ← kept, driven_found world.opened id object (opened_distinct world good.toWellFormed) found]

theorem steps_object (world : World α) (dt : α) (id : ObjectId) (good : world.Orderly) :
    (stepVehicles dt world.opened).object? id =
      (world.opened.object? id).map fun object => ((world.share id).stepped dt object).1 := by
  obtain ⟨gravity, terrain, tuning⟩ := opened_settings world good.toWellFormed
  rw [steps_opened world dt good.toWellFormed]
  change (mapAt world.schedule.settled (world.opened.stepped dt) world.opened.objects).find? _ = _
  rw [find_map_at _ _ _ id (world.opened.stepped_keeps dt)]
  refine Option.map_congr fun object found => ?_
  have subscribed := steps_subscribed world id object good found
  by_cases idle : object.vehicle.kind = .none
  · simp [Share.stepped, idle, subscribed]
  · simp [Share.stepped, idle, subscribed, stepped, share, gravity, terrain, tuning]

theorem steps_pushed (world : World α) (dt : α) (id : ObjectId) (good : world.Orderly) :
    id ∈ (stepVehicles dt world.opened).pushed ↔
      (world.object? id).any ((world.share id).asked dt) = true := by
  have here := opened_object world id good.toWellFormed
  obtain ⟨gravity, terrain, tuning⟩ := opened_settings world good.toWellFormed
  rw [steps_opened world dt good.toWellFormed]
  change id ∈ world.schedule.settled.filter (world.opened.asks dt) ↔ _
  rw [List.mem_filter, asks, here, gravity, terrain, tuning]
  cases found : world.object? id with
  | none => simp
  | some object =>
      rw [found] at here
      have subscribed := steps_subscribed world id _ good here
      simp only [Option.map_some, Option.any_some, Share.asked, Share.stepped, subscribed]
      by_cases idle : ((world.share id).refreshed object).vehicle.kind = .none
      · simp [idle]
      · simp only [idle, ne_eq, not_false_eq_true, true_and, if_false]
        exact Iff.rfl

theorem prepare_object (world : World α) (dt : α) (id : ObjectId) (good : world.Orderly) :
    (world.prepare dt).object? id = (world.object? id).map ((world.share id).prepared dt) := by
  change ((stepVehicles dt world.opened).objects.map _).find? _ = _
  rw [find_map]
  · change ((stepVehicles dt world.opened).object? id).map _ = _
    rw [steps_object world dt id good, opened_object world id good.toWellFormed, Option.map_map, Option.map_map]
    rfl
  · exact fun _ => rfl

theorem finish_object (world : World α) (solver : Solver α) (dt : α) (id : ObjectId) :
    (world.finish solver dt).object? id = (world.weigh.object? id).map fun object =>
      { object with
        body := object.body.map (.finished world.terrain (id ∈ world.schedule.preStep)
          ((solver dt world.gravity world.weigh.scene).lookup id)) } := by
  change (((world.weigh.objects.map _).map _).map _).find? _ = _
  rw [find_map, find_map, find_map]
  · rw [Option.map_map, Option.map_map]
    refine Option.map_congr fun object found => ?_
    dsimp only [Function.comp]
    rw [id_of_found _ id object found]
    by_cases subscribed : id ∈ world.schedule.preStep
    · have cleared : id ∈ (solve solver dt world.weigh).schedule.preStep := subscribed
      rw [if_pos cleared, decide_eq_true subscribed]
      cases object.body <;> rfl
    · have left : id ∉ (solve solver dt world.weigh).schedule.preStep := subscribed
      rw [if_neg left, decide_eq_false subscribed]
      cases object.body <;> rfl
  · exact fun _ => rfl
  · intro object
    split <;> rfl
  · exact fun _ => rfl

theorem prepare_roster (world : World α) (dt : α) (good : world.WellFormed) :
    (world.prepare dt).roster = world.roster := by
  have weighed : (world.prepare dt).roster = (stepVehicles dt world.opened).roster :=
    roster_map _ _ (keeps_standing_body fun _ => RigidBody.weigh)
  rw [weighed, steps_opened world dt good, ← roster_opened world good.distinct good.once]
  exact roster_map_at world.opened _ (world.opened.stepped dt) (world.opened.stepped_keeps dt)

theorem prepare_settings (world : World α) (dt : α) (good : world.WellFormed) :
    (world.prepare dt).gravity = world.gravity ∧ (world.prepare dt).terrain = world.terrain ∧
      (world.prepare dt).tuning = world.tuning ∧ (world.prepare dt).schedule.preStep = world.schedule.settled := by
  obtain ⟨gravity, terrain, tuning⟩ := opened_settings world good
  have subscribers := opened_subscribers world good
  change (stepVehicles dt world.opened).gravity = _ ∧ (stepVehicles dt world.opened).terrain = _ ∧
    (stepVehicles dt world.opened).tuning = _ ∧ (stepVehicles dt world.opened).schedule.preStep = _
  rw [steps_opened world dt good]
  exact ⟨gravity, terrain, tuning, subscribers⟩

theorem step_settings (world : World α) (solver : Solver α) (dt : α) (good : world.WellFormed) :
    (world.stepWith solver dt).gravity = world.gravity ∧ (world.stepWith solver dt).terrain = world.terrain ∧
      (world.stepWith solver dt).tuning = world.tuning := by
  rw [step_with, finish_gravity, finish_terrain, finish_tuning, steps_opened world dt good]
  exact opened_settings world good

theorem driven_iff_object (world : World α) (id : ObjectId) (distinct : world.Distinct) :
    world.Driven id ↔ (world.object? id).any (·.vehicle.kind != .none) = true := by
  cases found : world.object? id with
  | none =>
      refine ⟨?_, fun absurdity => by simp at absurdity⟩
      rintro ⟨object, member, same, _⟩
      exact absurd ((present_iff world id).mpr ⟨object, member, same⟩) ((object_absent world id).mp found)
  | some object => simp [driven_found world id object distinct found]

theorem step_object_ticked (world : World α) (solver : Solver α) (dt : α) (id : ObjectId) (good : world.Orderly) :
    (world.stepWith solver dt).object? id =
      (world.object? id).map ((world.share id).ticked dt (world.answer id (.step solver dt))) := by
  obtain ⟨gravity, terrain, _, subscribers⟩ := prepare_settings world dt good.toWellFormed
  have prepared := prepare_object world dt id good
  have kept := prepare_roster world dt good.toWellFormed
  have distinct := distinct_of_roster world _ kept good.distinct
  have finished := finish_object (stepVehicles dt world.opened) solver dt id
  change (world.stepWith solver dt).object? id = ((world.prepare dt).object? id).map fun object =>
    { object with body := object.body.map (.finished (world.prepare dt).terrain
      (id ∈ (world.prepare dt).schedule.preStep)
      ((solver dt (world.prepare dt).gravity (world.prepare dt).scene).lookup id)) } at finished
  have driven : ∀ object, (world.prepare dt).object? id = some object →
      decide (id ∈ world.schedule.settled) = (object.vehicle.kind != .none) := by
    intro object found
    rw [Bool.eq_iff_iff, decide_eq_true_iff, good.members id, ← driven_of_roster _ _ kept id,
      driven_found _ id object distinct found, bne_iff_ne]
  rw [finished, gravity, terrain, subscribers]
  calc _ = ((world.prepare dt).object? id).map ((world.share id).finished (world.answer id (.step solver dt))) :=
        Option.map_congr fun object found => by rw [driven object found]; rfl
    _ = _ := by rw [prepared, Option.map_map]; rfl

theorem share_step (world : World α) (solver : Solver α) (dt : α) (id : ObjectId) (good : world.Orderly) :
    (world.stepWith solver dt).share id = (world.share id).tick dt (world.answer id (.step solver dt)) := by
  obtain ⟨gravity, terrain, tuning⟩ := step_settings world solver dt good.toWellFormed
  refine Share.ext gravity terrain tuning (next_id_step_with world solver dt good.toWellFormed)
    (step_object_ticked world solver dt id good) (decide_eq_false ?_)
  rw [waiting, schedule_step_with world solver dt good.toWellFormed]
  exact List.not_mem_nil

theorem share_act (world : World α) (id : ObjectId) (action : WorldAction α) (good : world.Orderly) :
    (world.act action).share id = (world.share id).act id (world.answer id action) action := by
  cases action with
  | spawn position half mass => exact share_spawn world id position half mass
  | remove other =>
      by_cases here : other = id
      · subst here
        rw [Share.act, if_pos rfl]
        exact share_remove world other good.toWellFormed
      · rw [Share.act, if_neg here]
        exact share_remove_other world id other good.toWellFormed here
  | command other command =>
      by_cases here : other = id
      · subst here
        rw [Share.act, if_pos rfl]
        exact share_command world other command good.toWellFormed
      · rw [Share.act, if_neg here]
        exact share_command_other world id other command good.toWellFormed here
  | step solver dt => exact share_step world solver dt id good

omit [Scalar α] in
theorem lookup_filter_map {β : Type} (entry : WorldObject α → Option (ObjectId × β))
    (keyed : ∀ object pair, entry object = some pair → pair.1 = object.id) (objects : List (WorldObject α))
    (distinct : (objects.map (·.id)).Nodup) (id : ObjectId) :
    (objects.filterMap entry).lookup id = ((objects.find? (·.id == id)).bind entry).map (·.2) := by
  induction objects with
  | nil => rfl
  | cons object rest ih =>
      rw [List.map_cons, List.nodup_cons] at distinct
      have later := ih distinct.2
      by_cases here : object.id = id
      · have missing : rest.find? (·.id == id) = none := by
          rw [List.find?_eq_none]
          intro other member same
          exact distinct.1 (List.mem_map.mpr ⟨other, member, (by simpa using same : other.id = id).trans here.symm⟩)
        rw [missing] at later
        rw [List.find?_cons_of_pos (by simpa using here), Option.bind_some]
        cases given : entry object with
        | none => rw [List.filterMap_cons_none given, later]; rfl
        | some pair =>
            obtain ⟨key, value⟩ := pair
            have same : key = id := (keyed object (key, value) given).trans here
            rw [List.filterMap_cons_some given, same, List.lookup_cons_self]
            rfl
      · rw [List.find?_cons_of_neg (by simpa using here), ← later]
        cases given : entry object with
        | none => rw [List.filterMap_cons_none given]
        | some pair =>
            obtain ⟨key, value⟩ := pair
            have different : id ≠ key := fun same => here ((keyed object (key, value) given).symm.trans same.symm)
            rw [List.filterMap_cons_some given, List.lookup_cons, beq_false_of_ne different]

theorem report_keyed (gravity : Vec3 α) (pushed : List ObjectId) (object : WorldObject α)
    (entry : ObjectId × Report α) (given : object.report? gravity pushed = some entry) : entry.1 = object.id := by
  unfold WorldObject.report? at given
  split at given
  · cases given
  · dsimp only at given
    split at given
    · cases given
    · cases given
      rfl

theorem report_congr (gravity : Vec3 α) (pushed others : List ObjectId) (object : WorldObject α)
    (same : object.id ∈ pushed ↔ object.id ∈ others) :
    object.report? gravity pushed = object.report? gravity others := by
  simp only [WorldObject.report?, same]

theorem sight_step (world : World α) (solver : Solver α) (dt : α) (id : ObjectId) (good : world.Orderly) :
    (world.stepWith solver dt).sight id = (world.share id).sight dt (world.answer id (.step solver dt)) := by
  have ticked := step_object_ticked world solver dt id good
  have subscribed : (world.stepWith solver dt).schedule.isSubscribed id =
      (world.object? id).any (·.vehicle.kind != .none) := by
    rw [Bool.eq_iff_iff, ← driven_iff_object world id good.distinct, ← good.members id, Schedule.isSubscribed,
      schedule_step_with world solver dt good.toWellFormed, decide_eq_true_iff]
    rfl
  have reported : (world.stepWith solver dt).updates.lookup id =
      ((world.object? id).bind ((world.share id).report? dt (world.answer id (.step solver dt)))).map (·.2) := by
    have distinct := (well_formed_step world solver dt good.toWellFormed).distinct
    have pushed := steps_pushed world dt id good
    have sameGravity : (stepVehicles dt world.opened).gravity = world.gravity :=
      (prepare_settings world dt good.toWellFormed).1
    rw [step_with, finish_updates, ← step_with, lookup_filter_map _ (report_keyed _ _) _ distinct, sameGravity]
    change (((world.stepWith solver dt).object? id).bind _).map _ = _
    rw [ticked]
    cases found : world.object? id with
    | none => rfl
    | some object =>
        rw [found] at pushed ticked
        have sameId := (object_found world id object found).2
        have keptId := (object_found _ id _ ticked).2
        have listed : ((world.share id).ticked dt (world.answer id (.step solver dt)) object).id ∈
            (stepVehicles dt world.opened).pushed ↔
              ((world.share id).ticked dt (world.answer id (.step solver dt)) object).id ∈
                if (world.share id).asked dt object then [object.id] else [] := by
          rw [keptId, pushed, sameId]
          cases asked : (world.share id).asked dt object <;> simp [asked]
        exact congrArg (Option.map (·.2)) (report_congr world.gravity _ _ _ listed)
  simp only [sight, Share.sight, ticked, subscribed, reported]
  rfl

end World

end VehicleSim
