import VehicleSim.Proofs.Vehicle.Traffic
import VehicleSim.Proofs.Number.Reciprocal
import VehicleSim.World.Tick

/-!
What a body weighs and who pulls it down. A vehicle changes that when it is configured and at no other
time: the writes of a step only move and push.
-/

set_option autoImplicit false

namespace VehicleSim

def BodyWrite.moves {α : Type} : BodyWrite α → Bool
  | .friction _ | .restitution _ | .damping .. | .inertiaFactor _ | .engineGravity _ | .addCollisionFlag
  | .removeCollisionFlag => false
  | _ => true

structure Burden (α : Type) where
  boxInertia : Inertia α
  extraInertia : Option (Inertia α)
  inertia : Inertia α
  gravityScale : α
  collisionEvents : Bool

def RigidBody.burden {α : Type} (body : RigidBody α) : Burden α where
  boxInertia := body.boxInertia
  extraInertia := body.extraInertia
  inertia := body.inertia
  gravityScale := body.gravityScale
  collisionEvents := body.collisionEvents

theorem changes_move {α : Type} (cache : Cache α) (write : BodyWrite α) (member : write ∈ cache.changes) :
    write.moves = true := by
  have mapped {β : Type} (change : Option β) (kind : β → BodyWrite α) (moves : ∀ value, (kind value).moves = true) :
      ∀ found ∈ change.map kind, found.moves = true := by
    rintro found same
    obtain ⟨value, _, rfl⟩ := Option.map_eq_some_iff.mp same
    exact moves value
  obtain ⟨change, listed, same⟩ := List.mem_filterMap.mp member
  subst same
  simp only [List.mem_cons, List.not_mem_nil, or_false] at listed
  rcases listed with found | found | found | found | found | found | found | found <;>
    exact mapped _ _ (fun _ => rfl) write found.symm

variable {α : Type} [Scalar α]

theorem step_writes_move (vehicle : Vehicle α) (body : BodyView α) (landscape : Landscape α) (dt : α) :
    ∀ write ∈ (vehicle.step body landscape dt).2.traffic.writes, write.moves = true := by
  intro write member
  rcases vehicle.step_writes body landscape dt with quiet | ⟨cache, flushed⟩
  · rw [quiet] at member
    cases member
  · rw [flushed] at member
    rcases List.mem_append.mp member with change | push
    · exact changes_move cache write change
    · rw [List.mem_singleton.mp push]
      rfl

namespace RigidBody

theorem burden_write (fastestSpin : α) (body : RigidBody α) (write : BodyWrite α) (moves : write.moves = true) :
    (body.write fastestSpin write).burden = body.burden := by
  cases write with
  | force value =>
      change (body.addForce value).burden = _
      unfold addForce
      split <;> rfl
  | impulse value =>
      change (body.addImpulse value).burden = _
      unfold addImpulse
      split <;> rfl
  | angularForce value =>
      change (body.addTorque value).burden = _
      unfold addTorque
      split <;> rfl
  | friction | restitution | damping | inertiaFactor | engineGravity | addCollisionFlag | removeCollisionFlag =>
      cases moves
  | _ => rfl

theorem burden_writes (fastestSpin : α) (body : RigidBody α) (writes : List (BodyWrite α))
    (moves : ∀ write ∈ writes, write.moves = true) :
    (writes.foldl (RigidBody.write fastestSpin) body).burden = body.burden := by
  induction writes generalizing body with
  | nil => rfl
  | cons write rest ih =>
      rw [List.foldl_cons, ih _ fun later member => moves later (List.mem_cons_of_mem _ member)]
      exact burden_write fastestSpin body write (moves write List.mem_cons_self)

end RigidBody

-- The mass as the engine reads it back: of the box alone, or of the box with something weightless added.
def MassReading (box : Inertia Float32) (mass : Float32) : Prop :=
  mass = box.mass ∨ mass = Inertia.inverse (Inertia.inverse (0 + box.mass))

structure Weighed (burden : Burden Float32) : Prop where
  boxed : ∃ mass, burden.boxInertia.inverseMass = Inertia.inverse mass
  weightless : ∀ extra ∈ burden.extraInertia, extra.inverseMass = 0
  reading : MassReading burden.boxInertia burden.inertia.mass
  scale : burden.gravityScale = 0 ∨ burden.gravityScale = 1

theorem mass_readings_agree (box : Inertia Float32) (boxed : ∃ mass, box.inverseMass = Inertia.inverse mass)
    (bounded : box.mass.isInf = false) (first second : Float32) (read : MassReading box first)
    (again : MassReading box second) : Binary32.SameNumber first second := by
  obtain ⟨mass, given⟩ := boxed
  have back : box.mass = Inertia.inverse (Inertia.inverse mass) := congrArg Inertia.inverse given
  have rests := Binary32.inverse_rests mass (back ▸ bounded)
  rw [← back] at rests
  rcases read with rfl | rfl <;> rcases again with rfl | rfl
  · exact Binary32.same_number_of_parts _ _ rfl
  · exact rests
  · exact Binary32.same_number_symm _ _ rests
  · exact Binary32.same_number_of_parts _ _ rfl

theorem weighed_box (position half : Vec3 Float32) (mass : Float32) : Weighed (RigidBody.box position half mass).burden where
  boxed := ⟨_, rfl⟩
  weightless := nofun
  reading := Or.inl rfl
  scale := Or.inr rfl

theorem mass_join (extra box : Inertia Float32) (weightless : extra.inverseMass = 0) :
    MassReading box (extra.join box).mass := by
  have none : extra.mass = 0 := by
    rw [Inertia.mass, weightless]
    rfl
  unfold Inertia.join
  split
  · exact Or.inl rfl
  · split
    · rename_i zero
      have both : (box.inverseMass == 0 && box.inverseRoots == 0) = true := zero
      have boxNone : box.mass = 0 := if_pos (Bool.and_eq_true_iff.mp both).1
      exact Or.inl (none.trans boxNone.symm)
    · right
      change Inertia.inverse (Inertia.inverse (extra.mass + box.mass)) = _
      rw [none]

theorem weighed_weigh (body : RigidBody Float32) (weighed : Weighed body.burden) : Weighed body.weigh.burden := by
  unfold RigidBody.weigh
  split
  · exact ⟨weighed.boxed, weighed.weightless, Or.inl rfl, weighed.scale⟩
  · rename_i extra added
    exact ⟨weighed.boxed, weighed.weightless, mass_join extra body.boxInertia (weighed.weightless extra added),
      weighed.scale⟩

theorem burden_inertia_factor (body : RigidBody Float32) (factor : Vec3 Float32)
    (weightless : ∀ extra ∈ body.extraInertia, extra.inverseMass = 0) :
    ∃ added, (∀ extra ∈ added, extra.inverseMass = 0) ∧
      (body.setInertiaFactor factor).burden = { body.burden with extraInertia := added } := by
  unfold RigidBody.setInertiaFactor
  dsimp only
  split
  · exact ⟨body.extraInertia, weightless, rfl⟩
  · refine ⟨_, ?_, rfl⟩
    intro extra same
    cases same
    rfl

theorem burden_gravity_scale (body : RigidBody Float32) (scale : Float32)
    (before : body.gravityScale = 0 ∨ body.gravityScale = 1) (asked : scale = 0 ∨ scale = 1) :
    (body.setGravityScale scale).burden = { body.burden with gravityScale := scale } := by
  unfold RigidBody.setGravityScale
  split
  · rename_i same
    have equal : body.gravityScale = scale := by
      rcases before with off | on <;> rcases asked with rfl | rfl
      · exact off
      · rw [off] at same
        have wrong : false = true := same
        cases wrong
      · rw [on] at same
        have wrong : false = true := same
        cases wrong
      · exact on
    rw [← equal]
    rfl
  · rfl

theorem burden_activate (fastestSpin : Float32) (tuning : Tuning Float32) (body : RigidBody Float32)
    (weighed : Weighed body.burden) :
    ∃ added, (∀ extra ∈ added, extra.inverseMass = 0) ∧
      ((Vehicle.activeProperties tuning).foldl (RigidBody.write fastestSpin) body).burden =
        { body.burden with extraInertia := added, gravityScale := 0, collisionEvents := true } := by
  let settled : RigidBody Float32 :=
    { body with
      friction := tuning.friction
      restitution := tuning.restitution
      linearDamping := tuning.linearDamping
      angularDamping := tuning.angularDamping }
  obtain ⟨added, weightless, grown⟩ := burden_inertia_factor settled tuning.inertiaFactor weighed.weightless
  have scale : (settled.setInertiaFactor tuning.inertiaFactor).gravityScale = body.gravityScale :=
    congrArg Burden.gravityScale grown
  refine ⟨added, weightless, ?_⟩
  change ({ settled.setInertiaFactor tuning.inertiaFactor with collisionEvents := true }.setGravityScale 0).burden = _
  rw [burden_gravity_scale _ 0 (scale ▸ weighed.scale) (Or.inl rfl)]
  change { (settled.setInertiaFactor tuning.inertiaFactor).burden with gravityScale := 0, collisionEvents := true } = _
  rw [grown]
  rfl

theorem burden_deactivate (fastestSpin : Float32) (body : RigidBody Float32) (weighed : Weighed body.burden) :
    ([BodyWrite.removeCollisionFlag, .engineGravity true].foldl (RigidBody.write fastestSpin) body).burden =
      { body.burden with gravityScale := 1, collisionEvents := false } :=
  burden_gravity_scale { body with collisionEvents := false } 1 weighed.scale (Or.inr rfl)

end VehicleSim
