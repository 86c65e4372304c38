import VehicleSim.Number.Binary32
import VehicleSim.Proofs.World.Independence
import VehicleSim.Proofs.World.Share

/-!
Vehicles do not get in each other's way. Two runs that differ only in the commands to other objects show the
same of an object after every tick, as long as it touches no other object. The subscribers of a tick may step in
any order.
-/

set_option autoImplicit false

namespace VehicleSim

-- The same actions at the same places, but for the commands to other objects.
inductive DifferElsewhere {α : Type} (id : ObjectId) : List (WorldAction α) → List (WorldAction α) → Prop where
  | nil : DifferElsewhere id [] []
  | both {first second : List (WorldAction α)} (action : WorldAction α) (rest : DifferElsewhere id first second) :
      DifferElsewhere id (action :: first) (action :: second)
  | left {first second : List (WorldAction α)} (other : ObjectId) (command : Command α) (different : other ≠ id)
      (rest : DifferElsewhere id first second) : DifferElsewhere id (.command other command :: first) second
  | right {first second : List (WorldAction α)} (other : ObjectId) (command : Command α) (different : other ≠ id)
      (rest : DifferElsewhere id first second) : DifferElsewhere id first (.command other command :: second)

def WorldAction.isStep {α : Type} : WorldAction α → Bool
  | .step .. => true
  | _ => false

variable {α : Type} [Scalar α]

namespace World

def ticks (world : World α) : List (WorldAction α) → List (World α)
  | [] => []
  | action :: rest =>
      let after := world.act action
      if action.isStep then after :: after.ticks rest else after.ticks rest

-- If this action is a tick, the solver finds and leaves the object's body clear of the others.
def KeepsApart (world : World α) (id : ObjectId) : WorldAction α → Prop
  | .step solver dt => solver.KeepsApart dt world.gravity (world.prepare dt).scene id
  | _ => True

def StaysApart (id : ObjectId) (world : World α) : List (WorldAction α) → Prop
  | [] => True
  | action :: rest => world.KeepsApart id action ∧ StaysApart id (world.act action) rest

instance (world : World α) (id : ObjectId) (action : WorldAction α) : Decidable (world.KeepsApart id action) :=
  match action with
  | .step solver dt => inferInstanceAs (Decidable (solver.KeepsApart dt world.gravity (world.prepare dt).scene id))
  | .spawn .. | .remove _ | .command .. => inferInstanceAs (Decidable True)

instance decidableStaysApart (id : ObjectId) (world : World α) :
    (history : List (WorldAction α)) → Decidable (world.StaysApart id history)
  | [] => inferInstanceAs (Decidable True)
  | action :: rest =>
      have := decidableStaysApart id (world.act action) rest
      inferInstanceAs (Decidable (world.KeepsApart id action ∧ (world.act action).StaysApart id rest))

theorem scene_body (world : World α) (id : ObjectId) (distinct : world.Distinct) :
    world.scene.bodies.lookup id = (world.object? id).bind (·.body) := by
  change (world.objects.filterMap fun object => object.body.map fun body => (object.id, body)).lookup id = _
  rw [lookup_filter_map _ _ _ distinct]
  · change ((world.object? id).bind _).map _ = _
    rw [Option.map_bind]
    refine congrArg (Option.bind _) (funext fun object => ?_)
    rw [Function.comp, Option.map_map]
    exact Option.map_id'
  · intro object pair given
    obtain ⟨body, _, rfl⟩ := Option.map_eq_some_iff.mp given
    rfl

theorem scene_distinct (world : World α) (distinct : world.Distinct) : (world.scene.bodies.map (·.1)).Nodup := by
  have ids : world.scene.bodies.map (·.1) = (world.objects.filter (·.body.isSome)).map (·.id) := by
    change (world.objects.filterMap fun object => object.body.map fun body => (object.id, body)).map (·.1) = _
    induction world.objects with
    | nil => rfl
    | cons object rest ih =>
        cases held : object.body <;> simp [held, ih]
  rw [ids]
  exact distinct.sublist (List.filter_sublist.map _)

theorem prepare_scene (world other : World α) (id : ObjectId) (dt : α) (good : world.Orderly) (otherGood : other.Orderly)
    (same : world.share id = other.share id) : (world.prepare dt).scene.Alike (other.prepare dt).scene id := by
  have distinct := distinct_of_roster world _ (prepare_roster world dt good.toWellFormed) good.distinct
  have otherDistinct := distinct_of_roster other _ (prepare_roster other dt otherGood.toWellFormed) otherGood.distinct
  obtain ⟨_, terrain, _⟩ := prepare_settings world dt good.toWellFormed
  obtain ⟨_, otherTerrain, _⟩ := prepare_settings other dt otherGood.toWellFormed
  refine ⟨scene_distinct _ distinct, scene_distinct _ otherDistinct, ?_, ?_⟩
  · have sameTerrain : world.terrain = other.terrain := congrArg Share.terrain same
    change (world.prepare dt).ground = (other.prepare dt).ground
    rw [ground, ground, terrain, otherTerrain, sameTerrain]
  · have sameObject : world.object? id = other.object? id := congrArg Share.object same
    rw [scene_body _ id distinct, scene_body _ id otherDistinct, prepare_object world dt id good,
      prepare_object other dt id otherGood, same, sameObject]

theorem answers_agree (world other : World α) (id : ObjectId) (action : WorldAction α) (good : world.Orderly)
    (otherGood : other.Orderly) (same : world.share id = other.share id)
    (independent : ∀ solver dt, action = .step solver dt → solver.Independent) (apart : world.KeepsApart id action)
    (otherApart : other.KeepsApart id action) : world.answer id action = other.answer id action := by
  cases action with
  | step solver dt =>
      have sameGravity : world.gravity = other.gravity := congrArg Share.gravity same
      dsimp only [KeepsApart] at apart otherApart
      rw [answer, answer, sameGravity]
      rw [sameGravity] at apart
      exact independent solver dt rfl dt other.gravity _ _ id (prepare_scene world other id dt good otherGood same)
        apart otherApart
  | _ => rfl

theorem shares_agree (world other : World α) (id : ObjectId) (action : WorldAction α) (good : world.Orderly)
    (otherGood : other.Orderly) (same : world.share id = other.share id)
    (answers : world.answer id action = other.answer id action) :
    (world.act action).share id = (other.act action).share id := by
  rw [share_act world id action good, share_act other id action otherGood, same, answers]

theorem sights_agree (world other : World α) (id : ObjectId) (action : WorldAction α) (good : world.Orderly)
    (otherGood : other.Orderly) (same : world.share id = other.share id)
    (answers : world.answer id action = other.answer id action) (tick : action.isStep = true) :
    (world.act action).sight id = (other.act action).sight id := by
  cases action with
  | step solver dt =>
      change (world.stepWith solver dt).sight id = (other.stepWith solver dt).sight id
      rw [sight_step world solver dt id good, sight_step other solver dt id otherGood, same, answers]
  | _ => cases tick

theorem runs_agree {first second : List (WorldAction α)} {id : ObjectId} (differ : DifferElsewhere id first second)
    (world other : World α) (good : world.Orderly) (otherGood : other.Orderly)
    (same : world.share id = other.share id)
    (independent : ∀ solver dt, WorldAction.step solver dt ∈ first → solver.Independent)
    (apart : world.StaysApart id first) (otherApart : other.StaysApart id second) :
    (world.ticks first).map (·.sight id) = (other.ticks second).map (·.sight id) := by
  induction differ generalizing world other with
  | nil => rfl
  | both action rest ih =>
      have answers := answers_agree world other id action good otherGood same
        (fun solver dt now => independent solver dt (now ▸ List.mem_cons_self)) apart.1 otherApart.1
      have shares := shares_agree world other id action good otherGood same answers
      have later := ih (world.act action) (other.act action) (orderly_act world action good)
        (orderly_act other action otherGood) shares
        (fun solver dt member => independent solver dt (List.mem_cons_of_mem _ member)) apart.2 otherApart.2
      rw [ticks, ticks]
      cases tick : action.isStep
      · exact later
      · have now := sights_agree world other id action good otherGood same answers tick
        simp [now, later]
  | left stranger command different rest ih =>
      have kept := share_command_other world id stranger command good.toWellFormed different
      exact ih (world.act (.command stranger command)) other (orderly_act world _ good) otherGood (kept.trans same)
        (fun solver dt member => independent solver dt (List.mem_cons_of_mem _ member)) apart.2 otherApart
  | right stranger command different rest ih =>
      have kept := share_command_other other id stranger command otherGood.toWellFormed different
      exact ih world (other.act (.command stranger command)) good (orderly_act other _ otherGood)
        (same.trans kept.symm) independent apart otherApart.2

def stepInOrder (order : List ObjectId) (solver : Solver α) (dt : α) (world : World α) : World α :=
  (order.foldl (stepObject dt) { world.opened with pushed := [] }).finish solver dt

theorem finish_pushed (world : World α) (solver : Solver α) (dt : α) (pushed : List ObjectId)
    (same : ∀ id, id ∈ pushed ↔ id ∈ world.pushed) :
    { world with pushed := pushed }.finish solver dt = { world.finish solver dt with pushed := pushed } := by
  have reports : (world.finish solver dt).objects.filterMap (WorldObject.report? world.gravity pushed) =
      (world.finish solver dt).objects.filterMap (WorldObject.report? world.gravity world.pushed) :=
    List.filterMap_congr fun object _ => report_congr world.gravity _ _ object (same object.id)
  change { world.finish solver dt with
    pushed := pushed
    updates := (world.finish solver dt).objects.filterMap (WorldObject.report? world.gravity pushed) } = _
  rw [reports]
  rfl

omit [Scalar α] in
theorem map_at_perm (order ids : List ObjectId) (change : WorldObject α → WorldObject α)
    (objects : List (WorldObject α)) (same : order.Perm ids) : mapAt order change objects = mapAt ids change objects := by
  simp only [mapAt, same.mem_iff]

theorem step_in_order (world : World α) (solver : Solver α) (dt : α) (order : List ObjectId) (good : world.Orderly)
    (same : order.Perm world.opened.schedule.preStep) :
    ∃ pushed, pushed.Perm (world.stepWith solver dt).pushed ∧
      world.stepInOrder order solver dt = { world.stepWith solver dt with pushed := pushed } := by
  have distinct := opened_distinct world good.toWellFormed
  have once := opened_subscribed_once world good.toWellFormed
  have steps := step_vehicles world.opened dt distinct once
  have reordered : order.foldl (stepObject dt) { world.opened with pushed := [] } =
      { stepVehicles dt world.opened with pushed := order.filter (world.opened.asks dt) } := by
    rw [steps, ← map_at_perm order _ _ _ same]
    exact foldl_step_object { world.opened with pushed := [] } dt order distinct (same.nodup_iff.mpr once)
  have asked : (order.filter (world.opened.asks dt)).Perm (stepVehicles dt world.opened).pushed := by
    rw [steps]
    exact same.filter _
  refine ⟨order.filter (world.opened.asks dt), ?_, ?_⟩
  · rw [step_with, pushed_finish]
    exact asked
  · rw [stepInOrder, reordered, step_with]
    exact finish_pushed (stepVehicles dt world.opened) solver dt _ fun _ => asked.mem_iff

/-- What is done to other vehicles does not show in this one, after any tick of a run in which its body stays clear of
theirs. The subscribers of a tick can step in any order, whether or not bodies touch. Each run spawns fewer than
`2 ^ 32 - 1` objects. -/
theorem vehicles_do_not_interfere (settings : Settings α) (terrain : Terrain α) (id : ObjectId)
    (first second : List (WorldAction α)) (differ : DifferElsewhere id first second)
    (independent : ∀ solver dt, WorldAction.step solver dt ∈ first → solver.Independent)
    (apart : (create settings terrain).StaysApart id first)
    (alsoApart : (create settings terrain).StaysApart id second) :
    ((create settings terrain).ticks first).map (·.sight id) = ((create settings terrain).ticks second).map (·.sight id) ∧
      ∀ (history : List (WorldAction α)) (solver : Solver α) (dt : α) (order : List ObjectId),
        let world := (create settings terrain).run history
        order.Perm world.opened.schedule.preStep →
          ∃ pushed, pushed.Perm (world.stepWith solver dt).pushed ∧
            world.stepInOrder order solver dt = { world.stepWith solver dt with pushed := pushed } := by
  have good := orderly_create settings terrain
  refine ⟨runs_agree differ _ _ good good rfl independent apart alsoApart, ?_⟩
  intro history solver dt order world same
  exact step_in_order world solver dt order (orderly_run (create settings terrain) history good) same

def besideSled : List (WorldAction Float32) :=
  [.spawn ⟨0, 0, 100⟩ ⟨1, 1, 1⟩ 8, .spawn ⟨50, 0, 100⟩ ⟨1, 1, 1⟩ 8, .command 1 (.setType .sled),
    .command 2 (.setType .balloon), .step FreeFlight.solve 0.1, .step FreeFlight.solve 0.1]

def besideLateSled : List (WorldAction Float32) :=
  [.spawn ⟨0, 0, 100⟩ ⟨1, 1, 1⟩ 8, .spawn ⟨50, 0, 100⟩ ⟨1, 1, 1⟩ 8, .command 2 (.setType .balloon),
    .step FreeFlight.solve 0.1, .command 1 (.setType .sled), .command 1 (.setVector 18 ⟨20, 0, 0⟩),
    .step FreeFlight.solve 0.1]

theorem beside_differ : DifferElsewhere 2 besideSled besideLateSled :=
  .both _ <| .both _ <| .left 1 _ (by decide) <| .both _ <| .both _ <| .right 1 _ (by decide) <|
    .right 1 _ (by decide) <| .both _ .nil

theorem balloon_beside_sleds :
    let start := create (Settings.initial : Settings Float32) (.flat 21.0 20.0)
    let world := start.run besideSled
    (start.ticks besideSled).map (·.sight 2) = (start.ticks besideLateSled).map (·.sight 2) ∧
      ∃ pushed, pushed.Perm (world.stepWith FreeFlight.solve 0.1).pushed ∧
        world.stepInOrder [2, 1] FreeFlight.solve 0.1 = { world.stepWith FreeFlight.solve 0.1 with pushed := pushed } := by
  have free : ∀ solver dt, WorldAction.step solver dt ∈ besideSled → solver.Independent := by
    intro solver dt member
    have only : solver = FreeFlight.solve := by simp [besideSled] at member; exact member.1
    rw [only]
    exact FreeFlight.free_flight_independent
  obtain ⟨alike, anyOrder⟩ := vehicles_do_not_interfere Settings.initial (.flat 21.0 20.0) 2 besideSled
    besideLateSled beside_differ free (by decide +kernel) (by decide +kernel)
  exact ⟨alike, anyOrder besideSled FreeFlight.solve 0.1 [2, 1] (by decide +kernel)⟩

end World

end VehicleSim
