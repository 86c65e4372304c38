import VehicleSim.Proofs.World.Roster

/-!
What each stage of a tick does to the objects. A stage that goes through a list of ids changes every
object on the list once, in whatever order the list has, as long as no id is on it twice.
-/

set_option autoImplicit false

namespace VehicleSim

variable {α : Type} [Scalar α]

namespace WorldObject

theorem standing_write (fastestSpin : α) (object : WorldObject α) (writes : List (BodyWrite α)) :
    (object.write fastestSpin writes).standing = object.standing := by
  simp only [write, standing, Option.isSome_map]

theorem configure_idle (object : WorldObject α) (gravity : Vec3 α) (body : RigidBody α) (present : object.body = some body)
    (idle : object.vehicle.kind = .none) :
    object.vehicle.configure (object.view gravity) =
      (object.vehicle, [.removeCollisionFlag, .engineGravity true]) := by
  simp [Vehicle.configure, Vehicle.isActive, idle, view, present, BodyView.ofRigidBody]

theorem configure_driven (object : WorldObject α) (gravity : Vec3 α) (body : RigidBody α) (present : object.body = some body)
    (enabled : object.vehicle.enabled = true) (driven : object.vehicle.kind ≠ .none) :
    object.vehicle.configure (object.view gravity) =
      ({ object.vehicle with
          mass := body.mass
          gravity := gravity
          vehicleGravity := object.vehicle.params.vehicleGravity gravity },
        Vehicle.activeProperties object.vehicle.tuning) := by
  simp [Vehicle.configure, Vehicle.isActive, enabled, driven, view, present, BodyView.ofRigidBody,
    BodyView.physicallyActive]

theorem refresh_present (object : WorldObject α) (gravity : Vec3 α) (fastestSpin : α) (body : RigidBody α)
    (present : object.body = some body) :
    object.refresh gravity fastestSpin =
      { object with
        vehicle := (object.vehicle.configure (object.view gravity)).1
        body := some ((object.vehicle.configure (object.view gravity)).2.foldl (RigidBody.write fastestSpin) body) } := by
  change { object with
    vehicle := (object.vehicle.configure (object.view gravity)).1
    body := object.body.map _ } = _
  rw [present]
  rfl

theorem step_present (object : WorldObject α) (gravity : Vec3 α) (landscape : Landscape α) (fastestSpin dt : α)
    (body : RigidBody α) (present : object.body = some body) :
    (object.step gravity landscape fastestSpin dt).1 =
      { object with
        vehicle := (object.vehicle.step (object.view gravity) landscape dt).1
        body := some ((object.vehicle.step (object.view gravity) landscape dt).2.traffic.writes.foldl
          (RigidBody.write fastestSpin) body) } := by
  change { object with
    vehicle := (object.vehicle.step (object.view gravity) landscape dt).1
    body := object.body.map _ } = _
  rw [present]
  rfl

theorem standing_refresh (gravity : Vec3 α) (fastestSpin : α) :
    World.KeepsStanding (WorldObject.refresh gravity fastestSpin) := by
  intro object
  obtain ⟨mass, pull, vehiclePull, configured⟩ := object.vehicle.configure_vehicle (object.view gravity)
  change ({ object with vehicle := (object.vehicle.configure (object.view gravity)).1 }.write fastestSpin
    (object.vehicle.configure (object.view gravity)).2).standing = object.standing
  rw [standing_write, configured]
  rfl

theorem standing_step (gravity : Vec3 α) (landscape : Landscape α) (fastestSpin dt : α) :
    World.KeepsStanding fun object => (object.step gravity landscape fastestSpin dt).1 := by
  intro object
  obtain ⟨linear, angular, target, known, last, stepped⟩ :=
    object.vehicle.step_vehicle (object.view gravity) landscape dt
  change ({ object with vehicle := (object.vehicle.step (object.view gravity) landscape dt).1 }.write
    fastestSpin (object.vehicle.step (object.view gravity) landscape dt).2.traffic.writes).standing =
      object.standing
  rw [standing_write, stepped]
  rfl

end WorldObject

namespace World

def refreshed (world : World α) : WorldObject α → WorldObject α :=
  WorldObject.refresh world.gravity world.tuning.maxAngularVelocity

def stepped (world : World α) (dt : α) (object : WorldObject α) : WorldObject α :=
  (object.step world.gravity world.terrain.landscape world.tuning.maxAngularVelocity dt).1

theorem refreshed_keeps (world : World α) : KeepsStanding world.refreshed :=
  WorldObject.standing_refresh world.gravity world.tuning.maxAngularVelocity

theorem stepped_keeps (world : World α) (dt : α) : KeepsStanding (world.stepped dt) :=
  WorldObject.standing_step world.gravity world.terrain.landscape world.tuning.maxAngularVelocity dt

theorem refresh_eq_modify (world : World α) (id : ObjectId) (distinct : world.Distinct) :
    world.refresh id = world.modify id world.refreshed := by
  unfold refresh
  split
  · rename_i missing
    exact (modify_absent world id _ ((object_absent world id).mp missing)).symm
  · rename_i object found
    exact replace_eq_modify world id object world.refreshed distinct found
      (world.refreshed_keeps.id object)

theorem foldl_refresh (world : World α) (ids : List ObjectId) (distinct : world.Distinct) (fresh : ids.Nodup) :
    ids.foldl refresh world = { world with objects := mapAt ids world.refreshed world.objects } := by
  induction ids generalizing world with
  | nil => simp [mapAt]
  | cons id rest ih =>
      obtain ⟨notLater, later⟩ := List.nodup_cons.mp fresh
      have kept := roster_modify world id world.refreshed world.refreshed_keeps
      rw [List.foldl_cons, refresh_eq_modify world id distinct,
        ih _ (distinct_of_roster world _ kept distinct) later]
      change { world with objects := mapAt rest world.refreshed (world.modify id world.refreshed).objects } = _
      rw [modify, map_at_cons id rest world.refreshed world.objects notLater world.refreshed_keeps]

def waiting (world : World α) : List ObjectId := world.schedule.deferred.map (·.1)

theorem run_deferred (world : World α) (distinct : world.Distinct) (once : world.waiting.Nodup) :
    world.runDeferred =
      { world with
        schedule := { world.schedule with deferred := [] }
        objects := mapAt world.waiting world.refreshed world.objects } := by
  change world.waiting.foldl refresh { world with schedule := { world.schedule with deferred := [] } } = _
  exact foldl_refresh { world with schedule := { world.schedule with deferred := [] } } world.waiting distinct once

def asks (world : World α) (dt : α) (id : ObjectId) : Bool :=
  (world.object? id).any fun object =>
    (object.step world.gravity world.terrain.landscape world.tuning.maxAngularVelocity dt).2

theorem step_object (world : World α) (dt : α) (id : ObjectId) (distinct : world.Distinct) :
    stepObject dt world id =
      { world.modify id (world.stepped dt) with pushed := world.pushed ++ [id].filter (world.asks dt) } := by
  unfold stepObject
  split
  · rename_i missing
    have silent : world.asks dt id = false := by rw [asks, missing]; rfl
    rw [modify_absent world id _ ((object_absent world id).mp missing), List.filter_singleton, silent]
    simp
  · rename_i object found
    have replaced := replace_eq_modify world id object (world.stepped dt) distinct found
      ((world.stepped_keeps dt).id object)
    have asked : world.asks dt id = (object.step world.gravity world.terrain.landscape
        world.tuning.maxAngularVelocity dt).2 := by
      rw [asks, found]
      rfl
    change (if (object.step world.gravity world.terrain.landscape world.tuning.maxAngularVelocity dt).2
      then { world.replace (world.stepped dt object) with
        pushed := (world.replace (world.stepped dt object)).pushed ++ [id] }
      else world.replace (world.stepped dt object)) = _
    rw [replaced, List.filter_singleton, asked]
    cases (object.step world.gravity world.terrain.landscape world.tuning.maxAngularVelocity dt).2
    · simp [modify]
    · rfl

theorem asks_step_object (world : World α) (dt : α) (id other : ObjectId) (distinct : world.Distinct)
    (different : other ≠ id) : (stepObject dt world id).asks dt other = world.asks dt other := by
  have untouched : (world.modify id (world.stepped dt)).object? other = world.object? other := by
    rw [object_modify world id other _ (world.stepped_keeps dt).id]
    simp [different]
  rw [step_object world dt id distinct]
  change ((world.modify id (world.stepped dt)).object? other).any _ = _
  rw [untouched]
  rfl

theorem foldl_step_object (world : World α) (dt : α) (ids : List ObjectId) (distinct : world.Distinct)
    (fresh : ids.Nodup) :
    ids.foldl (stepObject dt) world =
      { world with
        objects := mapAt ids (world.stepped dt) world.objects
        pushed := world.pushed ++ ids.filter (world.asks dt) } := by
  induction ids generalizing world with
  | nil => simp [mapAt]
  | cons id rest ih =>
      obtain ⟨notLater, later⟩ := List.nodup_cons.mp fresh
      have here := step_object world dt id distinct
      have kept : (stepObject dt world id).roster = world.roster := by
        rw [here]
        exact roster_modify world id (world.stepped dt) (world.stepped_keeps dt)
      have asked : rest.filter ((stepObject dt world id).asks dt) = rest.filter (world.asks dt) :=
        List.filter_congr fun other inside =>
          asks_step_object world dt id other distinct fun same => notLater (same ▸ inside)
      rw [List.foldl_cons, ih (stepObject dt world id) (distinct_of_roster world _ kept distinct) later, asked, here]
      change { world with
        objects := mapAt rest (world.stepped dt) (world.modify id (world.stepped dt)).objects
        pushed := world.pushed ++ [id].filter (world.asks dt) ++ rest.filter (world.asks dt) } = _
      rw [modify, map_at_cons id rest (world.stepped dt) world.objects notLater (world.stepped_keeps dt),
        List.append_assoc, ← List.filter_append]
      rfl

theorem step_vehicles (world : World α) (dt : α) (distinct : world.Distinct)
    (once : world.schedule.preStep.Nodup) :
    stepVehicles dt world =
      { world with
        objects := mapAt world.schedule.preStep (world.stepped dt) world.objects
        pushed := world.schedule.preStep.filter (world.asks dt) } :=
  foldl_step_object { world with pushed := [] } dt world.schedule.preStep distinct once

def finish (solver : Solver α) (dt : α) (world : World α) : World α :=
  (solve solver dt world.weigh).clearForces.returnRunaways.reportUpdates

-- The world of a tick between the hook changes and the vehicles' steps.
def opened (world : World α) : World α := world.runDeferred.applyHooks

theorem step_with (world : World α) (solver : Solver α) (dt : α) :
    world.stepWith solver dt = (stepVehicles dt world.opened).finish solver dt := rfl

theorem finish_schedule (world : World α) (solver : Solver α) (dt : α) :
    (world.finish solver dt).schedule = world.schedule := rfl

theorem finish_next_id (world : World α) (solver : Solver α) (dt : α) :
    (world.finish solver dt).nextId = world.nextId := rfl

theorem finish_gravity (world : World α) (solver : Solver α) (dt : α) :
    (world.finish solver dt).gravity = world.gravity := rfl

theorem finish_terrain (world : World α) (solver : Solver α) (dt : α) :
    (world.finish solver dt).terrain = world.terrain := rfl

theorem finish_tuning (world : World α) (solver : Solver α) (dt : α) :
    (world.finish solver dt).tuning = world.tuning := rfl

theorem pushed_finish (world : World α) (solver : Solver α) (dt : α) :
    (world.finish solver dt).pushed = world.pushed := rfl

theorem finish_updates (world : World α) (solver : Solver α) (dt : α) :
    (world.finish solver dt).updates =
      (world.finish solver dt).objects.filterMap (WorldObject.report? world.gravity world.pushed) := rfl

theorem roster_clear_forces (world : World α) : world.clearForces.roster = world.roster := by
  apply roster_map
  intro object
  dsimp only
  split
  · exact keeps_standing_body (fun _ => RigidBody.clearForces) object
  · rfl

theorem roster_finish (world : World α) (solver : Solver α) (dt : α) :
    (world.finish solver dt).roster = world.roster := by
  have weighed : world.weigh.roster = world.roster :=
    roster_map world _ (keeps_standing_body fun _ => RigidBody.weigh)
  have solved : (solve solver dt world.weigh).roster = world.weigh.roster :=
    roster_map world.weigh _ (keeps_standing_body fun object body =>
      { body with motion :=
        ((solver dt world.weigh.gravity world.weigh.scene).lookup object.id).getD body.motion })
  have returned : (solve solver dt world.weigh).clearForces.returnRunaways.roster =
      (solve solver dt world.weigh).clearForces.roster :=
    roster_map (solve solver dt world.weigh).clearForces _ (keeps_standing_body fun _ body =>
      { body with motion := returnMotion (solve solver dt world.weigh).clearForces.terrain body.motion })
  change (solve solver dt world.weigh).clearForces.returnRunaways.roster = world.roster
  rw [returned, roster_clear_forces, solved, weighed]

theorem roster_opened (world : World α) (distinct : world.Distinct) (once : world.waiting.Nodup) :
    world.opened.roster = world.roster := by
  rw [opened, run_deferred world distinct once]
  exact roster_map_at world world.waiting world.refreshed world.refreshed_keeps

theorem schedule_opened (world : World α) (distinct : world.Distinct) (once : world.waiting.Nodup) :
    world.opened.schedule = { world.schedule.applyPending with deferred := [] } := by
  rw [opened, run_deferred world distinct once]
  rfl

theorem roster_step_with (world : World α) (solver : Solver α) (dt : α) (distinct : world.Distinct)
    (once : world.waiting.Nodup) (subscribed : world.opened.schedule.preStep.Nodup) :
    (world.stepWith solver dt).roster = world.roster := by
  have kept := roster_opened world distinct once
  have moved := step_vehicles world.opened dt (distinct_of_roster world _ kept distinct) subscribed
  rw [step_with, roster_finish, moved, ← kept]
  exact roster_map_at world.opened _ (world.opened.stepped dt) (world.opened.stepped_keeps dt)

end World

end VehicleSim
