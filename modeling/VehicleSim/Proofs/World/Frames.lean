import Mathlib.Data.Set.Defs
import VehicleSim.Proofs.Space.Normal
import VehicleSim.Proofs.World.History

/-!
The rotations that vehicles hold, a reference frame each and a roll frame if one is set. All come from commands, and
from nothing else: a tick reads them and a type puts the identity in their place.
-/

set_option autoImplicit false

namespace VehicleSim

def Params.rotations {α : Type} (params : Params α) : List (Quat α) :=
  params.referenceFrame :: params.rollFrame.toList

def WorldObject.rotations {α : Type} (object : WorldObject α) : List (Quat α) := object.vehicle.params.rotations

-- The four numbers of an action that sets a rotation, as they were sent.
def WorldAction.sent? {α : Type} : WorldAction α → Option (Quat α)
  | .command _ (.setRotation _ value) => some value
  | _ => none

variable {α : Type} [Scalar α]

namespace Params

theorem rotations_set_float (params : Params α) (param : Param) (value : α) :
    (params.setFloat param value).rotations = params.rotations := by
  cases param <;> rfl

theorem rotations_set_vector (params : Params α) (param : Param) (value : Vec3 α) :
    (params.setVector param value).rotations = params.rotations := by
  cases param <;> rfl

omit [Scalar α] in
theorem rotations_set_rotation (params : Params α) (param : Param) (value rotation : Quat α)
    (stored : rotation ∈ (params.setRotation param value).rotations) :
    rotation ∈ params.rotations ∨ rotation = value := by
  cases param
  case referenceFrame => exact (List.mem_cons.mp stored).symm.imp_left (List.mem_cons_of_mem _)
  case rollFrame =>
    rcases List.mem_cons.mp stored with frame | roll
    · exact Or.inl (List.mem_cons.mpr (Or.inl frame))
    · exact Or.inr (List.mem_singleton.mp roll)
  all_goals exact Or.inl stored

theorem rotations_apply_preset (params : Params α) (kind : Kind) (rotation : Quat α)
    (stored : rotation ∈ (params.applyPreset kind).rotations) :
    rotation ∈ params.rotations ∨ rotation = .identity :=
  (List.mem_cons.mp stored).symm.imp_left (List.mem_cons_of_mem _)

end Params

theorem Vehicle.rotations_obey (vehicle : Vehicle α) (command : Command α) (schedule : Schedule)
    (enabled : vehicle.enabled = true) (rotation : Quat α)
    (stored : rotation ∈ (vehicle.obey command schedule).1.params.rotations) :
    rotation ∈ vehicle.params.rotations ∨ rotation = .identity ∨
      ∃ code value, command = .setRotation code value ∧ rotation = value.normalized := by
  cases command with
  | setType kind =>
      simp only [obey, vehicle.set_type_vehicle kind schedule enabled] at stored
      exact (vehicle.params.rotations_apply_preset kind rotation stored).imp_right Or.inl
  | setFloat code value =>
      cases named : Param.ofCode? code <;> simp only [obey, named] at stored
      · exact Or.inl stored
      · rename_i param
        exact Or.inl (vehicle.params.rotations_set_float param value ▸ stored)
  | setVector code value =>
      cases named : Param.ofCode? code <;> simp only [obey, named] at stored
      · exact Or.inl stored
      · rename_i param
        exact Or.inl (vehicle.params.rotations_set_vector param value ▸ stored)
  | setRotation code value =>
      cases named : Param.ofCode? code <;> simp only [obey, named] at stored
      · exact Or.inl stored
      · rename_i param
        have set := vehicle.params.rotations_set_rotation param value.normalized rotation stored
        exact set.imp_right fun same => Or.inr ⟨code, value, rfl, same⟩
  | setFlags mask remove => exact Or.inl stored

namespace WorldObject

theorem rotations_refresh (gravity : Vec3 α) (fastestSpin : α) (object : WorldObject α) :
    (object.refresh gravity fastestSpin).rotations = object.rotations := by
  obtain ⟨mass, pull, vehiclePull, configured⟩ := object.vehicle.configure_vehicle (object.view gravity)
  change (object.vehicle.configure (object.view gravity)).1.params.rotations = object.rotations
  rw [configured]
  rfl

theorem rotations_step (gravity : Vec3 α) (landscape : Landscape α) (fastestSpin dt : α) (object : WorldObject α) :
    (object.step gravity landscape fastestSpin dt).1.rotations = object.rotations := by
  obtain ⟨linear, angular, target, known, last, stepped⟩ :=
    object.vehicle.step_vehicle (object.view gravity) landscape dt
  change (object.vehicle.step (object.view gravity) landscape dt).1.params.rotations = object.rotations
  rw [stepped]
  rfl

end WorldObject

namespace World

def rotations (world : World α) : List (Quat α) := world.objects.flatMap WorldObject.rotations

def sent (history : List (WorldAction α)) : List (Quat α) := history.filterMap WorldAction.sent?

omit [Scalar α] in
theorem rotations_map (objects : List (WorldObject α)) (change : WorldObject α → WorldObject α)
    (keeps : ∀ object, (change object).rotations = object.rotations) :
    (objects.map change).flatMap WorldObject.rotations = objects.flatMap WorldObject.rotations := by
  rw [List.flatMap_map]
  exact congrArg (List.flatMap · objects) (funext keeps)

omit [Scalar α] in
theorem rotations_map_at (ids : List ObjectId) (objects : List (WorldObject α))
    (change : WorldObject α → WorldObject α) (keeps : ∀ object, (change object).rotations = object.rotations) :
    (mapAt ids change objects).flatMap WorldObject.rotations = objects.flatMap WorldObject.rotations := by
  refine rotations_map objects _ fun object => ?_
  split
  · exact keeps object
  · rfl

theorem rotations_opened (world : World α) (good : world.WellFormed) : world.opened.rotations = world.rotations := by
  rw [opened, run_deferred world good.distinct good.once]
  exact rotations_map_at world.waiting world.objects world.refreshed
    (WorldObject.rotations_refresh world.gravity world.tuning.maxAngularVelocity)

theorem rotations_finish (world : World α) (solver : Solver α) (dt : α) :
    (world.finish solver dt).rotations = world.rotations := by
  have cleared : (solve solver dt world.weigh).clearForces.rotations = (solve solver dt world.weigh).rotations := by
    refine rotations_map (solve solver dt world.weigh).objects _ fun object => ?_
    split <;> rfl
  calc (world.finish solver dt).rotations
      = (solve solver dt world.weigh).clearForces.rotations :=
        rotations_map (solve solver dt world.weigh).clearForces.objects _ fun _ => rfl
    _ = (solve solver dt world.weigh).rotations := cleared
    _ = world.weigh.rotations := rotations_map world.weigh.objects _ fun _ => rfl
    _ = world.rotations := rotations_map world.objects _ fun _ => rfl

theorem rotations_step_with (world : World α) (solver : Solver α) (dt : α) (good : world.WellFormed) :
    (world.stepWith solver dt).rotations = world.rotations := by
  rw [step_with, rotations_finish, steps_opened world dt good, ← rotations_opened world good]
  exact rotations_map_at world.schedule.settled world.opened.objects (world.opened.stepped dt)
    (WorldObject.rotations_step world.opened.gravity world.opened.terrain.landscape
      world.opened.tuning.maxAngularVelocity dt)

theorem rotations_command (world : World α) (id : ObjectId) (command : Command α) (good : world.WellFormed)
    (rotation : Quat α) (stored : rotation ∈ (world.command id command).2.rotations) :
    rotation ∈ world.rotations ∨ rotation = .identity ∨
      ∃ code value, command = .setRotation code value ∧ rotation = value.normalized := by
  rw [rotations, command_objects world id command good.distinct] at stored
  obtain ⟨object, member, held⟩ := List.mem_flatMap.mp stored
  obtain ⟨old, found, rfl⟩ := List.mem_map.mp member
  have before (kept : rotation ∈ old.rotations) : rotation ∈ world.rotations :=
    List.mem_flatMap.mpr ⟨old, found, kept⟩
  split at held
  · have enabled := (good.sound_of_mem old found).enabled
    exact (old.vehicle.rotations_obey command .empty enabled rotation held).imp_left before
  · exact Or.inl (before held)

theorem rotations_act (world : World α) (action : WorldAction α) (good : world.WellFormed) (rotation : Quat α)
    (stored : rotation ∈ (world.act action).rotations) :
    rotation ∈ world.rotations ∨ rotation = .identity ∨
      ∃ value ∈ action.sent?, rotation = value.normalized := by
  cases action with
  | spawn position half mass =>
      change rotation ∈ (world.objects ++ [_]).flatMap WorldObject.rotations at stored
      rw [List.flatMap_append] at stored
      exact (List.mem_append.mp stored).imp_right fun new => Or.inl (List.mem_singleton.mp new)
  | remove id =>
      change rotation ∈ (world.removeObject id).2.objects.flatMap _ at stored
      rw [remove_objects] at stored
      obtain ⟨object, member, held⟩ := List.mem_flatMap.mp stored
      exact Or.inl (List.mem_flatMap.mpr ⟨object, List.mem_of_mem_filter member, held⟩)
  | command id command =>
      rcases rotations_command world id command good rotation stored with old | start | ⟨code, value, rfl, same⟩
      · exact Or.inl old
      · exact Or.inr (Or.inl start)
      · exact Or.inr (Or.inr ⟨value, rfl, same⟩)
  | step solver dt => exact Or.inl (rotations_step_with world solver dt good ▸ stored)

theorem rotations_run (world : World α) (history : List (WorldAction α)) (good : world.WellFormed) (rotation : Quat α)
    (stored : rotation ∈ (world.run history).rotations) :
    rotation ∈ world.rotations ∨ rotation = .identity ∨
      ∃ value ∈ sent history, rotation = value.normalized := by
  induction history generalizing world with
  | nil => exact Or.inl stored
  | cons action rest ih =>
      have kept := well_formed_act world action good
      rcases ih (world.act action) kept stored with earlier | start | ⟨value, later, same⟩
      · refine (rotations_act world action good rotation earlier).imp_right (Or.imp_right ?_)
        rintro ⟨value, given, same⟩
        exact ⟨value, List.mem_filterMap.mpr ⟨action, List.mem_cons_self, given⟩, same⟩
      · exact Or.inr (Or.inl start)
      · obtain ⟨asking, member, given⟩ := List.mem_filterMap.mp later
        exact Or.inr (Or.inr ⟨value, List.mem_filterMap.mpr ⟨asking, List.mem_cons_of_mem _ member, given⟩, same⟩)

theorem rotation_made (settings : Settings α) (terrain : Terrain α) (history : List (WorldAction α)) (rotation : Quat α)
    (stored : rotation ∈ ((create settings terrain).run history).rotations) :
    rotation = .identity ∨ ∃ value ∈ sent history, rotation = value.normalized :=
  (rotations_run (create settings terrain) history (well_formed_create settings terrain) rotation stored).resolve_left List.not_mem_nil

def framed (value : Quat Float32) : List (WorldAction Float32) :=
  [.spawn ⟨0, 0, 100⟩ ⟨1, 1, 1⟩ 8, .command 1 (.setRotation 44 value)]

theorem framed_sent (value : Quat Float32) : sent (framed value) = [value] := rfl

theorem framed_rotations (settings : Settings Float32) (terrain : Terrain Float32) (value : Quat Float32) :
    ((create settings terrain).run (framed value)).rotations = [value.normalized] := rfl

/-- What is stored is the identity or was made of four values that were sent. As long as the values sent are taken
from some set, all that is ever stored is a rotation exactly if no sum of squares in the set is past the format. -/
theorem stored_rotations_turn_iff (settings : Settings Float32) (terrain : Terrain Float32) (values : Set (Quat Float32)) :
    (∀ history, ∀ rotation ∈ ((create settings terrain).run history).rotations,
      rotation = .identity ∨ ∃ value ∈ sent history, rotation = value.normalized) ∧
    ((∀ history, (∀ value ∈ sent history, value ∈ values) →
      ∀ rotation ∈ ((create settings terrain).run history).rotations, rotation.Turns) ↔
        ∀ value ∈ values, value.normSquared.isInf = false) := by
  refine ⟨rotation_made settings terrain, ?_, ?_⟩
  · intro turns value member
    refine value.normalized_turns_iff.mp (turns (framed value) ?_ _ ?_)
    · rw [framed_sent]
      intro other given
      rwa [List.mem_singleton.mp given]
    · rw [framed_rotations]
      exact List.mem_singleton_self _
  · intro bounded history taken rotation stored
    rcases rotation_made settings terrain history rotation stored with rfl | ⟨value, given, rfl⟩
    · exact Quat.identity_turns
    · exact value.normalized_turns_iff.mpr (bounded value (taken value given))

def longFrame : Quat Float32 := ⟨1e20, 0, 0, 0⟩

def endlessFrame : Quat Float32 := ⟨Binary32.infinity, 0, 0, 0⟩

-- Numbers that are far within the format come out as zero, and infinite ones as no numbers.
theorem long_frames_do_not_turn :
    longFrame.Numbers ∧ endlessFrame.Numbers ∧
      ((create Settings.initial (.flat 21.0 20.0)).run (framed longFrame)).rotations = [⟨0, 0, 0, 0⟩] ∧
      ((create Settings.initial (.flat 21.0 20.0)).run (framed endlessFrame)).rotations = [⟨Binary32.nan, 0, 0, 0⟩] ∧
      ¬ (⟨0, 0, 0, 0⟩ : Quat Float32).Turns ∧ ¬ (⟨Binary32.nan, 0, 0, 0⟩ : Quat Float32).Turns := by
  decide +kernel

end World

end VehicleSim
