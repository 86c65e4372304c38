import VehicleSim.Proofs.Vehicle.Traffic
import VehicleSim.Proofs.World.Share

/-!
What a tick reports. Every vehicle that is stepped asks for a report, so all objects with a type are in the list,
and of the others those whose bodies are awake.
-/

set_option autoImplicit false

namespace VehicleSim

variable {α : Type}

def RigidBody.report (body : RigidBody α) : Report α where
  position := body.motion.position
  orientation := body.motion.orientation
  velocity := body.motion.velocity
  rotationalVelocity := body.motion.rotationalVelocity

variable [Scalar α]

namespace WorldObject

theorem active_embodied (object : WorldObject α) (gravity : Vec3 α) (body : RigidBody α)
    (present : object.body = some body) (enabled : object.vehicle.enabled = true) :
    object.vehicle.isActive (object.view gravity) = (object.vehicle.kind != .none) := by
  simp [Vehicle.isActive, enabled, view, present, BodyView.ofRigidBody, BodyView.physicallyActive]

theorem step_asks (object : WorldObject α) (gravity : Vec3 α) (landscape : Landscape α) (fastestSpin dt : α)
    (active : object.vehicle.isActive (object.view gravity) = true) :
    (object.step gravity landscape fastestSpin dt).2 = true := by
  obtain ⟨position, orientation, velocity, force, spin, torque, written, _⟩ :=
    object.vehicle.active_step_writes (object.view gravity) landscape dt active
  change asksForReport (object.vehicle.step (object.view gravity) landscape dt).2.traffic.writes = true
  rw [written, asksForReport, Vehicle.stepWrites, List.any_append, Bool.or_eq_true]
  exact Or.inr rfl

theorem report_some_iff (object : WorldObject α) (gravity : Vec3 α) (pushed : List ObjectId)
    (entry : ObjectId × Report α) :
    object.report? gravity pushed = some entry ↔ ∃ body, object.body = some body ∧
      (object.id ∈ pushed ∨ body.motion.sleeping = false) ∧
        entry = (object.id, object.vehicle.editReport (object.view gravity) body.report) := by
  cases present : object.body with
  | none => simp [report?, present]
  | some body =>
      have reported : object.report? gravity pushed =
          if body.motion.sleeping && object.id ∉ pushed then none
          else some (object.id, object.vehicle.editReport (object.view gravity) body.report) := by
        rw [report?, present]
        rfl
      rw [reported]
      simp only [Option.some.injEq, exists_eq_left', @eq_comm _ entry]
      cases asleep : body.motion.sleeping <;> by_cases asked : object.id ∈ pushed <;> simp [asked]

theorem edit_report_sound (object : WorldObject α) (gravity : Vec3 α) (body : RigidBody α)
    (present : object.body = some body) (enabled : object.vehicle.enabled = true) :
    object.vehicle.editReport (object.view gravity) body.report =
      ⟨body.motion.position, body.motion.orientation, body.motion.velocity,
        if object.vehicle.kind = .none then body.motion.rotationalVelocity else 0⟩ := by
  rw [Vehicle.editReport, object.active_embodied gravity body present enabled]
  by_cases idle : object.vehicle.kind = .none <;> simp [idle, RigidBody.report]

end WorldObject

namespace World

theorem asked_sound (share : Share α) (dt : α) (object : WorldObject α) (sound : object.standing.Sound) :
    share.asked dt object = (object.vehicle.kind != .none) := by
  have kept := share.standing_refreshed object
  have kind : (share.refreshed object).vehicle.kind = object.vehicle.kind := congrArg Standing.kind kept
  rw [← kept] at sound
  obtain ⟨body, present⟩ := Option.isSome_iff_exists.mp sound.embodied
  rw [Share.asked, Share.stepped, kind]
  by_cases idle : object.vehicle.kind = .none
  · rw [if_pos idle, idle]
    rfl
  · have active := (share.refreshed object).active_embodied share.gravity body present sound.enabled
    rw [if_neg idle, (share.refreshed object).step_asks _ _ _ _ (by rw [active, kind]; simpa using idle)]
    simpa using idle

theorem pushed_step (world : World α) (solver : Solver α) (dt : α) (id : ObjectId) (good : world.Orderly) :
    id ∈ (world.stepWith solver dt).pushed ↔ (world.stepWith solver dt).Driven id := by
  rw [step_with, pushed_finish, steps_pushed world dt id good, ← step_with,
    driven_of_roster world _ (roster_step world solver dt good.toWellFormed), driven_iff_object world id good.distinct]
  cases found : world.object? id with
  | none => rfl
  | some object =>
      have member := (object_found world id object found).1
      have sound := good.sound_of_mem object member
      rw [Option.any_some, Option.any_some, asked_sound _ dt object sound]

def Ascending (world : World α) : Prop := (world.roster.map (·.id)).Pairwise (· < ·)

theorem ascending_act (world : World α) (action : WorldAction α) (good : world.WellFormed)
    (ascending : world.Ascending) : (world.act action).Ascending := by
  cases action with
  | spawn position half mass =>
      change ((world.spawnBox position half mass).2.roster.map (·.id)).Pairwise (· < ·)
      rw [spawn_roster, List.map_append, List.pairwise_append]
      refine ⟨ascending, List.pairwise_singleton _ _, ?_⟩
      intro old present new added
      obtain ⟨standing, member, rfl⟩ := List.mem_map.mp present
      rw [List.mem_singleton.mp added]
      exact good.numbered standing member
  | remove id =>
      change ((world.removeObject id).2.roster.map (·.id)).Pairwise (· < ·)
      rw [remove_roster]
      exact List.Pairwise.sublist (List.filter_sublist.map _) ascending
  | command id command =>
      change ((world.command id command).2.roster.map (·.id)).Pairwise (· < ·)
      rw [command_ids world id command good]
      exact ascending
  | step solver dt =>
      change ((world.stepWith solver dt).roster.map (·.id)).Pairwise (· < ·)
      rw [roster_step world solver dt good]
      exact ascending

theorem ascending_run (world : World α) (history : List (WorldAction α)) (good : world.WellFormed)
    (ascending : world.Ascending) : (world.run history).Ascending := by
  induction history generalizing world with
  | nil => exact ascending
  | cons action rest ih =>
      exact ih (world.act action) (well_formed_act world action good) (ascending_act world action good ascending)

omit [Scalar α] in
theorem keys_sublist {β : Type} (entry : WorldObject α → Option (ObjectId × β))
    (keyed : ∀ object pair, entry object = some pair → pair.1 = object.id) (objects : List (WorldObject α)) :
    ((objects.filterMap entry).map (·.1)).Sublist (objects.map (·.id)) := by
  induction objects with
  | nil => exact List.Sublist.slnil
  | cons object rest ih =>
      cases given : entry object with
      | none =>
          rw [List.filterMap_cons_none given, List.map_cons]
          exact ih.cons _
      | some pair =>
          rw [List.filterMap_cons_some given, List.map_cons, List.map_cons, keyed object pair given]
          exact ih.cons_cons _

theorem own_entry (world : World α) {β : Type} (entry : WorldObject α → Option (ObjectId × β))
    (keyed : ∀ object pair, entry object = some pair → pair.1 = object.id) (distinct : world.Distinct)
    (object : WorldObject α) (member : object ∈ world.objects) (value : β) :
    (object.id, value) ∈ world.objects.filterMap entry ↔ entry object = some (object.id, value) := by
  rw [List.mem_filterMap]
  constructor
  · rintro ⟨other, inside, given⟩
    have same := keyed other _ given
    obtain rfl := same_of_same_id world distinct object other member inside same
    exact given
  · exact fun given => ⟨object, member, given⟩

theorem updates_step (world : World α) (solver : Solver α) (dt : α) :
    (world.stepWith solver dt).updates =
      (world.stepWith solver dt).objects.filterMap
        (WorldObject.report? (stepVehicles dt world.opened).gravity (world.stepWith solver dt).pushed) := by
  rw [step_with, finish_updates, pushed_finish]

/-- After a tick the list of reports goes through the objects in the order of their ids. It has every object with a
type, and of the others those that are awake; it says of each what its body does, and that no vehicle spins. Ids are in order as long as their counter has not run
out, for fewer than `2 ^ 32 - 1` spawns. -/
theorem reports_follow_the_bodies (settings : Settings α) (terrain : Terrain α) (history : List (WorldAction α))
    (solver : Solver α) (dt : α) :
    let after := ((create settings terrain).run history).stepWith solver dt
    (after.updates.map (·.1)).Pairwise (· < ·) ∧
      (∀ entry ∈ after.updates, after.Present entry.1) ∧
      ∀ object ∈ after.objects, ∃ body, object.body = some body ∧
        ∀ report, (object.id, report) ∈ after.updates ↔
          (object.vehicle.kind ≠ .none ∨ body.motion.sleeping = false) ∧
            report = ⟨body.motion.position, body.motion.orientation, body.motion.velocity,
              if object.vehicle.kind = .none then body.motion.rotationalVelocity else 0⟩ := by
  have good := orderly_run (create settings terrain) history (orderly_create settings terrain)
  have earlier := ascending_run (create settings terrain) history (well_formed_create settings terrain) List.Pairwise.nil
  have ascending : (((create settings terrain).run history).stepWith solver dt).Ascending :=
    ascending_act _ (.step solver dt) good.toWellFormed earlier
  have after : (((create settings terrain).run history).stepWith solver dt).Orderly := orderly_act _ (.step solver dt) good
  have listed := updates_step ((create settings terrain).run history) solver dt
  have pushed := fun id => pushed_step ((create settings terrain).run history) solver dt id good
  generalize ((create settings terrain).run history).stepWith solver dt = world at *
  generalize (stepVehicles dt ((create settings terrain).run history).opened).gravity = gravity at listed
  have ordered := keys_sublist _ (report_keyed gravity world.pushed) world.objects
  rw [← listed] at ordered
  have ids : world.objects.map (·.id) = world.roster.map (·.id) := by
    rw [roster, List.map_map]
    rfl
  refine ⟨List.Pairwise.sublist ordered (ids ▸ ascending), ?_, ?_⟩
  · intro entry member
    rw [present_iff_id, ← ids]
    exact ordered.subset (List.mem_map_of_mem member)
  · intro object member
    have sound := after.sound_of_mem object member
    obtain ⟨body, present⟩ := Option.isSome_iff_exists.mp sound.embodied
    have found := object_of_mem world after.distinct object member
    have driven := (pushed object.id).trans (driven_found world object.id object after.distinct found)
    refine ⟨body, present, fun report => ?_⟩
    rw [listed, own_entry world _ (report_keyed gravity world.pushed) after.distinct object member,
      object.report_some_iff, present]
    simp only [Option.some.injEq, exists_eq_left', driven, object.edit_report_sound gravity body present sound.enabled,
      Prod.mk.injEq, true_and]

end World

end VehicleSim
