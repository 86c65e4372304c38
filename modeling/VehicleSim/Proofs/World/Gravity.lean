import VehicleSim.Proofs.Body.Burden
import VehicleSim.Proofs.World.History

/-!
Who pulls a body down. Between two ticks an object is in balance or waits to be refreshed; once the
refreshes of a tick have run, all objects are in balance.
-/

set_option autoImplicit false

namespace VehicleSim

-- A vehicle of some type pulls its body by itself; one of no type leaves it to the engine.
structure Balanced (gravity : Vec3 Float32) (vehicle : Vehicle Float32) (burden : Burden Float32) : Prop where
  driven : vehicle.kind ≠ .none → burden.gravityScale = 0 ∧ burden.collisionEvents = true ∧
    MassReading burden.boxInertia vehicle.mass ∧ vehicle.gravity = gravity ∧ vehicle.Buoyed
  idle : vehicle.kind = .none → burden.gravityScale = 1 ∧ burden.collisionEvents = false

def Carried (gravity : Vec3 Float32) (waiting : List ObjectId) (object : WorldObject Float32) : Prop :=
  ∃ body, object.body = some body ∧ Weighed body.burden ∧
    (object.id ∈ waiting ∨ Balanced gravity object.vehicle body.burden)

namespace WorldObject

variable {gravity : Vec3 Float32} {waiting : List ObjectId} (object : WorldObject Float32)

theorem carried_waiting (other : List ObjectId) (carried : Carried gravity waiting object)
    (kept : object.id ∈ waiting → object.id ∈ other) : Carried gravity other object := by
  obtain ⟨body, present, weighed, balance⟩ := carried
  exact ⟨body, present, weighed, balance.imp_left kept⟩

theorem carried_refresh (fastestSpin : Float32) (enabled : object.vehicle.enabled = true)
    (carried : Carried gravity waiting object) : Carried gravity [] (object.refresh gravity fastestSpin) := by
  obtain ⟨body, present, weighed, _⟩ := carried
  rw [object.refresh_present gravity fastestSpin body present]
  by_cases idle : object.vehicle.kind = .none
  · have handed := burden_deactivate fastestSpin body weighed
    rw [object.configure_idle gravity body present idle]
    refine ⟨_, rfl, ?_, Or.inr ⟨fun driven => absurd idle driven, fun _ => ?_⟩⟩
    · rw [handed]
      exact ⟨weighed.boxed, weighed.weightless, weighed.reading, Or.inr rfl⟩
    · rw [handed]
      exact ⟨rfl, rfl⟩
  · obtain ⟨added, weightless, taken⟩ := burden_activate fastestSpin object.vehicle.tuning body weighed
    rw [object.configure_driven gravity body present enabled idle]
    refine ⟨_, rfl, ?_, Or.inr ⟨fun _ => ?_, fun none => absurd none idle⟩⟩
    · rw [taken]
      exact ⟨weighed.boxed, weightless, weighed.reading, Or.inl rfl⟩
    · rw [taken]
      exact ⟨rfl, rfl, weighed.reading, rfl, rfl⟩

theorem carried_step (landscape : Landscape Float32) (fastestSpin dt : Float32)
    (carried : Carried gravity waiting object) :
    Carried gravity waiting (object.step gravity landscape fastestSpin dt).1 := by
  obtain ⟨body, present, weighed, balance⟩ := carried
  obtain ⟨linear, angular, target, known, last, stepped⟩ :=
    object.vehicle.step_vehicle (object.view gravity) landscape dt
  have same := body.burden_writes fastestSpin (object.vehicle.step (object.view gravity) landscape dt).2.traffic.writes
    (step_writes_move object.vehicle (object.view gravity) landscape dt)
  rw [object.step_present gravity landscape fastestSpin dt body present]
  refine ⟨_, rfl, ?_, ?_⟩
  · rw [same]
    exact weighed
  · rw [same, stepped]
    exact balance.imp_right fun balanced => ⟨balanced.driven, balanced.idle⟩

theorem carried_setting (command : Command Float32) (setting : command.kind? = none)
    (carried : Carried gravity waiting object) : Carried gravity waiting (object.obey command) := by
  obtain ⟨body, present, weighed, balance⟩ := carried
  obtain ⟨params, pull, sameKind, buoyed, obeyed⟩ := object.vehicle.obey_setting command .empty setting
  refine ⟨body, present, weighed, balance.imp_right fun balanced => ?_⟩
  rw [obey, obeyed]
  refine ⟨fun driven => ?_, fun idle => balanced.idle (sameKind.symm.trans idle)⟩
  obtain ⟨scale, colliding, reading, sameGravity, even⟩ :=
    balanced.driven fun idle => driven (sameKind.trans idle)
  exact ⟨scale, colliding, reading, sameGravity, buoyed even⟩

theorem carried_body (change : RigidBody Float32 → RigidBody Float32)
    (keeps : ∀ body, (change body).burden = body.burden) (carried : Carried gravity waiting object) :
    Carried gravity waiting { object with body := object.body.map change } := by
  obtain ⟨body, present, weighed, balance⟩ := carried
  refine ⟨change body, congrArg (Option.map change) present, ?_, ?_⟩
  · rwa [keeps]
  · rwa [keeps]

theorem carried_weigh (carried : Carried gravity waiting object) :
    Carried gravity waiting { object with body := object.body.map RigidBody.weigh } := by
  obtain ⟨body, present, weighed, balance⟩ := carried
  refine ⟨body.weigh, congrArg (Option.map RigidBody.weigh) present, weighed_weigh body weighed,
    balance.imp_right fun balanced => ?_⟩
  unfold RigidBody.weigh
  split <;> exact ⟨balanced.driven, balanced.idle⟩

end WorldObject

namespace World

def AllCarried (world : World Float32) : Prop :=
  ∀ object ∈ world.objects, Carried world.gravity world.waiting object

theorem carried_map_at (gravity : Vec3 Float32) (waiting : List ObjectId) (ids : List ObjectId)
    (change : WorldObject Float32 → WorldObject Float32) (objects : List (WorldObject Float32))
    (keeps : ∀ object, Carried gravity waiting object → Carried gravity waiting (change object))
    (carried : ∀ object ∈ objects, Carried gravity waiting object) :
    ∀ object ∈ mapAt ids change objects, Carried gravity waiting object := by
  intro object member
  obtain ⟨old, found, rfl⟩ := List.mem_map.mp member
  split
  · exact keeps old (carried old found)
  · exact carried old found

theorem all_carried_spawn (world : World Float32) (position half : Vec3 Float32) (mass : Float32)
    (carried : world.AllCarried) : (world.spawnBox position half mass).2.AllCarried := by
  intro object member
  rcases List.mem_append.mp member with old | new
  · exact carried object old
  · rw [List.mem_singleton.mp new]
    exact ⟨_, rfl, weighed_box position half mass, Or.inr ⟨fun driven => absurd rfl driven, fun _ => ⟨rfl, rfl⟩⟩⟩

theorem all_carried_remove (world : World Float32) (id : ObjectId) (good : world.WellFormed)
    (carried : world.AllCarried) : (world.removeObject id).2.AllCarried := by
  by_cases present : world.Present id
  · intro object member
    rw [remove_objects] at member
    obtain ⟨found, other⟩ := List.mem_filter.mp member
    have sameGravity : (world.removeObject id).2.gravity = world.gravity := gravity_act world (.remove id) good
    rw [sameGravity, remove_waiting world id good present]
    exact object.carried_waiting _ (carried object found) fun queued => List.mem_filter.mpr ⟨queued, other⟩
  · rw [remove_absent world id present]
    exact carried

theorem all_carried_command (world : World Float32) (id : ObjectId) (command : Command Float32)
    (good : world.WellFormed) (carried : world.AllCarried) : (world.command id command).2.AllCarried := by
  by_cases present : world.Present id
  · intro object member
    have sameGravity : (world.command id command).2.gravity = world.gravity :=
      gravity_act world (.command id command) good
    rw [sameGravity]
    rw [command_objects world id command good.distinct] at member
    obtain ⟨old, found, rfl⟩ := List.mem_map.mp member
    cases asked : command.kind? with
    | none =>
        have sameWaiting : (world.command id command).2.waiting = world.waiting := by
          rw [waiting, command_setting_schedule world id command good.distinct asked]
          rfl
        rw [sameWaiting]
        split
        · exact old.carried_setting command asked (carried old found)
        · exact carried old found
    | some kind =>
        cases command with
        | setType named =>
            have queued := fun other => (set_type_waiting world id other named good present).mpr
            split
            · rename_i here
              -- The balance is lost here, but the object now waits for a refresh.
              obtain ⟨body, held, weighed, _⟩ := carried old found
              exact ⟨body, held, weighed, Or.inl (queued old.id (Or.inr here))⟩
            · exact old.carried_waiting _ (carried old found) fun before => queued old.id (Or.inl before)
        | _ => cases asked
  · rw [command_absent world id command present]
    exact carried

theorem enabled_of_mem (world : World Float32) (good : world.WellFormed) (object : WorldObject Float32)
    (member : object ∈ world.objects) : object.vehicle.enabled = true :=
  (good.sound object.standing ((mem_roster world _).mpr ⟨object, member, rfl⟩)).enabled

theorem carried_opened (world : World Float32) (good : world.WellFormed) (carried : world.AllCarried) :
    ∀ object ∈ world.opened.objects, Carried world.gravity [] object := by
  have objects : world.opened.objects = mapAt world.waiting world.refreshed world.objects := by
    rw [opened, run_deferred world good.distinct good.once]
    rfl
  rw [objects]
  intro object member
  obtain ⟨old, found, rfl⟩ := List.mem_map.mp member
  split
  · exact old.carried_refresh _ (enabled_of_mem world good old found) (carried old found)
  · rename_i awake
    exact old.carried_waiting _ (carried old found) fun queued => absurd queued awake

theorem carried_finish (world : World Float32) (solver : Solver Float32) (dt : Float32) (gravity : Vec3 Float32)
    (waiting : List ObjectId) (carried : ∀ object ∈ world.objects, Carried gravity waiting object) :
    ∀ object ∈ (world.finish solver dt).objects, Carried gravity waiting object := by
  intro object member
  obtain ⟨cleared, inCleared, rfl⟩ := List.mem_map.mp member
  refine cleared.carried_body _ (fun _ => rfl) ?_
  obtain ⟨solved, inSolved, rfl⟩ := List.mem_map.mp inCleared
  obtain ⟨weighed, inWeighed, rfl⟩ := List.mem_map.mp inSolved
  obtain ⟨old, found, rfl⟩ := List.mem_map.mp inWeighed
  have settled := WorldObject.carried_body _ (fun body =>
    { body with motion := ((solver dt world.weigh.gravity world.weigh.scene).lookup old.id).getD body.motion })
    (fun _ => rfl) (old.carried_weigh (carried old found))
  split
  · exact WorldObject.carried_body _ RigidBody.clearForces (fun _ => rfl) settled
  · exact settled

theorem all_carried_step (world : World Float32) (solver : Solver Float32) (dt : Float32) (good : world.WellFormed)
    (carried : world.AllCarried) : (world.stepWith solver dt).AllCarried := by
  have sameGravity : (world.stepWith solver dt).gravity = world.gravity := gravity_act world (.step solver dt) good
  have nobodyWaits : (world.stepWith solver dt).waiting = [] := by
    rw [waiting, schedule_step_with world solver dt good]
    rfl
  intro object member
  rw [sameGravity, nobodyWaits]
  rw [step_with, steps_opened world dt good] at member
  refine carried_finish _ solver dt world.gravity [] ?_ object member
  refine carried_map_at _ _ _ _ _ (fun old before => ?_) (carried_opened world good carried)
  rw [← opened_gravity world good] at before ⊢
  exact old.carried_step _ _ _ before

theorem all_carried_act (world : World Float32) (action : WorldAction Float32) (good : world.WellFormed)
    (carried : world.AllCarried) : (world.act action).AllCarried := by
  cases action with
  | spawn position half mass => exact all_carried_spawn world position half mass carried
  | remove id => exact all_carried_remove world id good carried
  | command id command => exact all_carried_command world id command good carried
  | step solver dt => exact all_carried_step world solver dt good carried

theorem all_carried_run (world : World Float32) (history : List (WorldAction Float32)) (good : world.WellFormed)
    (carried : world.AllCarried) : (world.run history).AllCarried := by
  induction history generalizing world with
  | nil => exact carried
  | cons action rest ih =>
      exact ih (world.act action) (well_formed_act world action good) (all_carried_act world action good carried)

theorem opened_balanced (settings : Settings Float32) (terrain : Terrain Float32) (history : List (WorldAction Float32))
    (object : WorldObject Float32) (member : object ∈ ((create settings terrain).run history).opened.objects) :
    ∃ body, object.body = some body ∧ Weighed body.burden ∧ Balanced settings.gravity object.vehicle body.burden := by
  have none : (create settings terrain).AllCarried := fun _ member => absurd member List.not_mem_nil
  have good := well_formed_run (create settings terrain) history (well_formed_create settings terrain)
  have carried := all_carried_run (create settings terrain) history (well_formed_create settings terrain) none
  obtain ⟨body, present, weighed, balance⟩ := carried_opened _ good carried object member
  rw [gravity_run _ history (well_formed_create settings terrain)] at balance
  exact ⟨body, present, weighed, balance.resolve_left List.not_mem_nil⟩

/-- In every tick, once the refreshes have run, each body is pulled down by its vehicle or by the engine and
never by both. The mass that the vehicle goes by is the body's, but for a box too heavy for the engine to
read its mass back. Fewer than `2 ^ 32 - 1` objects are spawned. -/
theorem gravity_has_one_owner (settings : Settings Float32) (terrain : Terrain Float32)
    (history : List (WorldAction Float32)) (object : WorldObject Float32)
    (member : object ∈ ((create settings terrain).run history).opened.objects) :
    ∃ body, object.body = some body ∧
      if object.vehicle.kind = .none then body.gravityScale = 1 ∧ body.collisionEvents = false
      else
        body.gravityScale = 0 ∧ body.collisionEvents = true ∧
          (if body.boxInertia.mass.isInf then
            (object.vehicle.mass = body.boxInertia.mass ∨ object.vehicle.mass = 0) ∧
              (body.mass = body.boxInertia.mass ∨ body.mass = 0)
          else Binary32.SameNumber object.vehicle.mass body.mass) ∧
          object.vehicle.gravity = settings.gravity ∧
          object.vehicle.vehicleGravity = settings.gravity * (1 - object.vehicle.params.buoyancy) := by
  obtain ⟨body, present, weighed, balanced⟩ := opened_balanced settings terrain history object member
  refine ⟨body, present, ?_⟩
  split
  · rename_i idle
    exact balanced.idle idle
  · rename_i driven
    obtain ⟨scale, colliding, reading, sameGravity, buoyed⟩ := balanced.driven driven
    refine ⟨scale, colliding, ?_, sameGravity, ?_⟩
    · split
      · rename_i infinite
        have none := Binary32.inverse_of_infinite body.boxInertia.mass infinite
        exact ⟨reading.imp_right fun read => read.trans none, weighed.reading.imp_right fun read => read.trans none⟩
      · rename_i bounded
        exact mass_readings_agree body.boxInertia weighed.boxed (Bool.eq_false_iff.mpr bounded) _ _ reading
          weighed.reading
    · rw [buoyed, sameGravity]
      rfl

theorem car_mass_is_known :
    ∃ object ∈ ((create (Settings.initial : Settings Float32) (.flat 21.0 20.0)).run
        [.spawn ⟨0, 0, 100⟩ ⟨1, 1, 1⟩ 8, .command 1 (.setType .car)]).opened.objects,
      object.vehicle.kind = .car ∧ ∃ body, object.body = some body ∧
        Binary32.SameNumber object.vehicle.mass body.mass := by
  have listed : (Kind.car, some false) ∈ ((create (Settings.initial : Settings Float32) (.flat 21.0 20.0)).run
      [.spawn ⟨0, 0, 100⟩ ⟨1, 1, 1⟩ 8, .command 1 (.setType .car)]).opened.objects.map fun object =>
        (object.vehicle.kind, object.body.map fun body => body.boxInertia.mass.isInf) := by decide +kernel
  obtain ⟨object, member, read⟩ := List.mem_map.mp listed
  obtain ⟨kind, bounded⟩ := Prod.mk.inj read
  obtain ⟨body, present, owned⟩ := gravity_has_one_owner Settings.initial (.flat 21.0 20.0)
    [.spawn ⟨0, 0, 100⟩ ⟨1, 1, 1⟩ 8, .command 1 (.setType .car)] object member
  rw [present] at bounded
  rw [kind, if_neg (by decide)] at owned
  obtain ⟨_, _, mass, _⟩ := owned
  rw [if_neg (Bool.eq_false_iff.mp (Option.some.inj bounded))] at mass
  exact ⟨object, member, kind, body, present, mass⟩

def heaviestSled : World Float32 :=
  let tuning : Tuning Float32 := { Tuning.initial with inertiaFactor := ⟨2, 1, 1⟩ }
  (create { Settings.initial with vehicle := tuning } (.flat 21.0 20.0)).run
    [.spawn ⟨0, 0, 100⟩ ⟨1, 1, 1⟩ (Float32.ofBits 0x7f7fffff), .command 1 (.setType .sled),
      .step (fun _ _ _ => []) 0]

-- The mass is read back as infinite at first, and as zero once the inertia has been added.
theorem heaviest_sled_mass_differs :
    ¬ ∀ object ∈ heaviestSled.opened.objects, object.vehicle.kind ≠ .none → ∀ body, object.body = some body →
      Binary32.SameNumber object.vehicle.mass body.mass := by
  intro same
  have masses : (heaviestSled.opened.objects.map fun object =>
      (object.vehicle.kind, object.vehicle.mass, object.body.map RigidBody.mass)) =
        [(.sled, Binary32.infinity, some 0)] := by decide +kernel
  have listed : (Kind.sled, Binary32.infinity, some (0 : Float32)) ∈ heaviestSled.opened.objects.map fun object =>
      (object.vehicle.kind, object.vehicle.mass, object.body.map RigidBody.mass) :=
    masses ▸ List.mem_cons_self
  obtain ⟨object, member, read⟩ := List.mem_map.mp listed
  obtain ⟨kind, mass, weight⟩ : object.vehicle.kind = .sled ∧ object.vehicle.mass = Binary32.infinity ∧
      object.body.map RigidBody.mass = some 0 := by simpa using read
  obtain ⟨body, present, none⟩ := Option.map_eq_some_iff.mp weight
  have equal := same object member (by rw [kind]; decide) body present
  rw [mass, none] at equal
  exact absurd equal (by decide +kernel)

end World

end VehicleSim
