import VehicleSim.Proofs.Number.Magnitude
import VehicleSim.Proofs.World.Reports

/-!
How long forces last. Between two ticks nothing pushes a body, and in a tick the solver gets each body with what
its vehicle has added in that tick and nothing else.
-/

set_option autoImplicit false

namespace VehicleSim

variable {α : Type} [Scalar α]

-- The engine ignores a term of zero.
def Vec3.grow (sum term : Vec3 α) : Vec3 α := if term == 0 then sum else sum + term

structure Push (α : Type) where
  force : Vec3 α
  torque : Vec3 α

namespace Push

def none : Push α := ⟨0, 0⟩

def take (push : Push α) : BodyWrite α → Push α
  | .force value => { push with force := push.force.grow value }
  | .angularForce value => { push with torque := push.torque.grow value }
  | _ => push

end Push

namespace BodyWrite

def force? : BodyWrite α → Option (Vec3 α)
  | .force value => some value
  | _ => none

def torque? : BodyWrite α → Option (Vec3 α)
  | .angularForce value => some value
  | _ => none

end BodyWrite

namespace RigidBody

def push (body : RigidBody α) : Push α := ⟨body.force, body.torque⟩

theorem push_write (fastestSpin : α) (body : RigidBody α) (write : BodyWrite α) :
    (body.write fastestSpin write).push = body.push.take write := by
  cases write with
  | force value =>
      change (body.addForce value).push = { body.push with force := body.push.force.grow value }
      unfold addForce Vec3.grow
      split <;> rfl
  | angularForce value =>
      change (body.addTorque value).push = { body.push with torque := body.push.torque.grow value }
      unfold addTorque Vec3.grow
      split <;> rfl
  | impulse value =>
      change (body.addImpulse value).push = body.push
      unfold addImpulse
      split <;> rfl
  | inertiaFactor value =>
      change (body.setInertiaFactor value).push = body.push
      unfold setInertiaFactor
      dsimp only
      split <;> rfl
  | engineGravity enabled =>
      change (body.setGravityScale (if enabled then 1 else 0)).push = body.push
      generalize (if enabled then 1 else 0 : α) = scale
      unfold setGravityScale
      split <;> rfl
  | _ => rfl

theorem push_writes (fastestSpin : α) (body : RigidBody α) (writes : List (BodyWrite α)) :
    (writes.foldl (RigidBody.write fastestSpin) body).push = writes.foldl Push.take body.push := by
  induction writes generalizing body with
  | nil => rfl
  | cons write rest ih => rw [List.foldl_cons, List.foldl_cons, ih, push_write]

theorem push_weigh (body : RigidBody α) : body.weigh.push = body.push := by
  unfold weigh
  split <;> rfl

theorem push_finished (terrain : Terrain α) (driven : Bool) (answer : Option (Motion α)) (body : RigidBody α) :
    (body.finished terrain driven answer).push = if driven then .none else body.push := by
  cases driven <;> rfl

end RigidBody

namespace WorldObject

def Unpushed (object : WorldObject α) : Prop := ∃ body, object.body = some body ∧ body.push = .none

theorem unpushed_refresh (object : WorldObject α) (gravity : Vec3 α) (fastestSpin : α) (unpushed : object.Unpushed) :
    (object.refresh gravity fastestSpin).Unpushed := by
  obtain ⟨body, present, push⟩ := unpushed
  rw [object.refresh_present gravity fastestSpin body present]
  refine ⟨_, rfl, ?_⟩
  rw [RigidBody.push_writes, push]
  unfold Vehicle.configure
  split
  · rfl
  · split <;> rfl

end WorldObject

namespace Share

theorem unpushed_refreshed (share : Share α) (object : WorldObject α) (unpushed : object.Unpushed) :
    (share.refreshed object).Unpushed := by
  unfold refreshed
  split
  · exact object.unpushed_refresh _ _ unpushed
  · exact unpushed

theorem unpushed_finished (share : Share α) (answer : Option (Motion α)) (object : WorldObject α)
    (body : RigidBody α) (present : object.body = some body)
    (idle : object.vehicle.kind = .none → body.push = .none) : (share.finished answer object).Unpushed := by
  refine ⟨_, congrArg (Option.map _) present, ?_⟩
  rw [RigidBody.push_finished]
  split
  · rfl
  · rename_i other
    exact idle (by simpa using other)

theorem prepared_idle (share : Share α) (dt : α) (object : WorldObject α) (body : RigidBody α)
    (present : (share.refreshed object).body = some body) (idle : (share.refreshed object).vehicle.kind = .none) :
    share.prepared dt object = { share.refreshed object with body := some body.weigh } := by
  rw [prepared, stepped, if_pos idle, present]
  rfl

theorem prepared_driven (share : Share α) (dt : α) (object : WorldObject α) (body : RigidBody α)
    (present : (share.refreshed object).body = some body) (driven : (share.refreshed object).vehicle.kind ≠ .none) :
    let (vehicle, rig) := (share.refreshed object).vehicle.step ((share.refreshed object).view share.gravity)
      share.terrain.landscape dt
    share.prepared dt object = { share.refreshed object with
      vehicle := vehicle
      body := some (rig.traffic.writes.foldl (RigidBody.write share.tuning.maxAngularVelocity) body).weigh } := by
  rw [prepared, stepped, if_neg driven, (share.refreshed object).step_present _ _ _ dt body present]
  rfl

theorem unpushed_ticked (share : Share α) (dt : α) (answer : Option (Motion α)) (object : WorldObject α)
    (unpushed : object.Unpushed) : (share.ticked dt answer object).Unpushed := by
  obtain ⟨body, present, push⟩ := share.unpushed_refreshed object unpushed
  by_cases idle : (share.refreshed object).vehicle.kind = .none
  · rw [ticked, share.prepared_idle dt object body present idle]
    exact share.unpushed_finished answer _ body.weigh rfl fun _ => body.push_weigh.trans push
  · have kept := WorldObject.standing_step share.gravity share.terrain.landscape share.tuning.maxAngularVelocity dt
      (share.refreshed object)
    have driven : ((share.refreshed object).vehicle.step ((share.refreshed object).view share.gravity)
        share.terrain.landscape dt).1.kind ≠ .none := fun none => idle ((congrArg Standing.kind kept).symm.trans none)
    rw [ticked, share.prepared_driven dt object body present idle]
    exact share.unpushed_finished answer _ _ rfl fun none => absurd none driven

theorem unpushed_act (share : Share α) (id : ObjectId) (answer : Option (Motion α)) (action : WorldAction α)
    (unpushed : ∀ object ∈ share.object, object.Unpushed) :
    ∀ object ∈ (share.act id answer action).object, object.Unpushed := by
  intro object given
  cases action with
  | spawn position half mass =>
      rcases Option.or_eq_some_iff.mp given with old | ⟨_, new⟩
      · exact unpushed object old
      · split at new
        · cases new
          exact ⟨_, rfl, rfl⟩
        · cases new
  | remove other =>
      rw [act] at given
      split at given
      · cases given
      · exact unpushed object given
  | command other command =>
      rw [act] at given
      split at given
      · obtain ⟨old, found, rfl⟩ := Option.map_eq_some_iff.mp given
        exact unpushed old found
      · exact unpushed object given
  | step solver dt =>
      obtain ⟨old, found, rfl⟩ := Option.map_eq_some_iff.mp given
      exact share.unpushed_ticked dt answer old (unpushed old found)

end Share

namespace World

def Unpushed (world : World α) : Prop := ∀ object ∈ world.objects, object.Unpushed

theorem unpushed_iff_shares (world : World α) (distinct : world.Distinct) :
    world.Unpushed ↔ ∀ id, ∀ object ∈ (world.share id).object, object.Unpushed := by
  constructor
  · intro unpushed id object found
    exact unpushed object (object_found world id object found).1
  · intro unpushed object member
    exact unpushed object.id object (object_of_mem world distinct object member)

theorem unpushed_act (world : World α) (action : WorldAction α) (good : world.Orderly) (unpushed : world.Unpushed) :
    (world.act action).Unpushed := by
  rw [unpushed_iff_shares _ (well_formed_act world action good.toWellFormed).distinct]
  intro id
  rw [share_act world id action good]
  exact Share.unpushed_act _ id _ action ((unpushed_iff_shares world good.distinct).mp unpushed id)

theorem unpushed_run (world : World α) (history : List (WorldAction α)) (good : world.Orderly)
    (unpushed : world.Unpushed) : (world.run history).Unpushed := by
  induction history generalizing world with
  | nil => exact unpushed
  | cons action rest ih =>
      exact ih (world.act action) (orderly_act world action good) (unpushed_act world action good unpushed)

theorem scene_lookup (world : World α) (id : ObjectId) (distinct : world.Distinct) :
    world.scene.bodies.lookup id = world.body? id := by
  have keyed : ∀ (object : WorldObject α) (entry : ObjectId × RigidBody α),
      (object.body.map fun body => (object.id, body)) = some entry → entry.1 = object.id := by
    intro object entry given
    obtain ⟨body, _, rfl⟩ := Option.map_eq_some_iff.mp given
    rfl
  change (world.objects.filterMap fun object => object.body.map fun body => (object.id, body)).lookup id = _
  rw [lookup_filter_map _ keyed world.objects distinct id]
  change ((world.object? id).bind _).map _ = (world.object? id).bind _
  cases world.object? id with
  | none => rfl
  | some object =>
      rw [Option.bind_some, Option.bind_some]
      cases object.body <;> rfl

end World

def Vec3.Same (v w : Vec3 Float32) : Prop :=
  Binary32.SameNumber v.x w.x ∧ Binary32.SameNumber v.y w.y ∧ Binary32.SameNumber v.z w.z

theorem Vec3.grow_zero (term : Vec3 Float32) : ((0 : Vec3 Float32).grow term).Same term := by
  unfold grow
  split
  · rename_i zero
    obtain ⟨x, y, z⟩ := (Vec3.beq_iff term 0).mp zero
    exact ⟨Binary32.same_number_symm _ _ (Or.inl x), Binary32.same_number_symm _ _ (Or.inl y),
      Binary32.same_number_symm _ _ (Or.inl z)⟩
  · exact ⟨Binary32.zero_add_same term.x, Binary32.zero_add_same term.y, Binary32.zero_add_same term.z⟩

-- One force is among the writes and at most one torque, and the push is of these.
def PushedOnce (writes : List (BodyWrite Float32)) (push : Push Float32) : Prop :=
  ∃ (force : Vec3 Float32) (torque : Option (Vec3 Float32)),
    writes.filterMap BodyWrite.force? = [force] ∧ writes.filterMap BodyWrite.torque? = torque.toList ∧
      push.force.Same force ∧ push.torque.Same (torque.getD 0)

theorem step_pushes_once (vehicle : Vehicle Float32) (body : BodyView Float32) (landscape : Landscape Float32)
    (dt : Float32) (active : vehicle.isActive body = true) :
    let writes := (vehicle.step body landscape dt).2.traffic.writes
    PushedOnce writes (writes.foldl Push.take .none) := by
  obtain ⟨position, orientation, velocity, force, spin, torque, written, _⟩ :=
    vehicle.active_step_writes body landscape dt active
  dsimp only
  rw [written]
  have taken : (Vehicle.stepWrites position orientation velocity force spin torque).foldl Push.take .none =
      ⟨(0 : Vec3 Float32).grow force, (0 : Vec3 Float32).grow (torque.getD 0)⟩ := by
    cases position <;> cases orientation <;> cases torque <;> rfl
  refine ⟨force, torque, ?_, ?_, ?_, ?_⟩
  · cases position <;> cases orientation <;> cases torque <;> rfl
  · cases position <;> cases orientation <;> cases torque <;> rfl
  · rw [taken]
    exact Vec3.grow_zero force
  · rw [taken]
    exact Vec3.grow_zero (torque.getD 0)

namespace Share

theorem prepared_push (share : Share Float32) (dt : Float32) (object : WorldObject Float32)
    (enabled : (share.refreshed object).vehicle.enabled = true) (unpushed : object.Unpushed) :
    ∃ body, (share.prepared dt object).body = some body ∧
      if (share.refreshed object).vehicle.kind = .none then body.push = .none
      else
        PushedOnce ((share.refreshed object).vehicle.step ((share.refreshed object).view share.gravity)
          share.terrain.landscape dt).2.traffic.writes body.push := by
  obtain ⟨body, present, push⟩ := share.unpushed_refreshed object unpushed
  split
  · rename_i idle
    rw [share.prepared_idle dt object body present idle]
    exact ⟨_, rfl, body.push_weigh.trans push⟩
  · rename_i driven
    have active : (share.refreshed object).vehicle.isActive ((share.refreshed object).view share.gravity) = true := by
      rw [(share.refreshed object).active_embodied share.gravity body present enabled]
      simpa using driven
    have once := step_pushes_once _ _ share.terrain.landscape dt active
    rw [share.prepared_driven dt object body present driven]
    refine ⟨_, rfl, ?_⟩
    rw [RigidBody.push_weigh, RigidBody.push_writes, push]
    exact once

end Share

namespace World

/-- Between two ticks nothing pushes a body. In a tick the solver gets each body with the one force, and the torque if
there is one, that its vehicle's step has flushed in this tick; it gets a body that has no type unpushed. Fewer than
`2 ^ 32 - 1` objects are spawned. -/
theorem forces_last_one_tick (settings : Settings Float32) (terrain : Terrain Float32)
    (history : List (WorldAction Float32)) (solver : Solver Float32) (dt : Float32) :
    let world := (create settings terrain).run history
    world.Unpushed ∧ (world.stepWith solver dt).Unpushed ∧
      ∀ id, world.Present id → ∃ object body, world.opened.object? id = some object ∧
        (world.prepare dt).scene.bodies.lookup id = some body ∧
        if object.vehicle.kind = .none then body.push = .none
        else
          PushedOnce (object.vehicle.step (object.view world.gravity) world.terrain.landscape dt).2.traffic.writes
            body.push := by
  have none : (create settings terrain).Unpushed := fun _ member => absurd member List.not_mem_nil
  have good := orderly_run (create settings terrain) history (orderly_create settings terrain)
  have unpushed := unpushed_run (create settings terrain) history (orderly_create settings terrain) none
  generalize (create settings terrain).run history = world at *
  refine ⟨unpushed, unpushed_act world (.step solver dt) good unpushed, ?_⟩
  intro id present
  obtain ⟨object, found⟩ := object_present world id present
  have member := (object_found world id object found).1
  have opened := opened_object world id good.toWellFormed
  have prepared := prepare_object world dt id good
  have distinct := distinct_of_roster world _ (prepare_roster world dt good.toWellFormed) good.distinct
  have enabled : ((world.share id).refreshed object).vehicle.enabled = true :=
    (congrArg Standing.enabled ((world.share id).standing_refreshed object)).trans
      (good.sound_of_mem object member).enabled
  obtain ⟨body, embodied, pushed⟩ := (world.share id).prepared_push dt object enabled (unpushed object member)
  rw [found] at opened prepared
  refine ⟨_, body, opened, ?_, pushed⟩
  rw [scene_lookup _ id distinct, body?, prepared]
  exact embodied

end World

end VehicleSim
