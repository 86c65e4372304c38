import VehicleSim.Proofs.Number.Magnitude
import VehicleSim.Proofs.World.Reports

/-!
Bodies that leave the region. After every tick all bodies are inside, and none has been moved but those that the
solver left outside.
-/

set_option autoImplicit false

namespace VehicleSim

open Binary32 (Bounded)

namespace World

def Inside (position : Vec3 Float32) : Prop :=
  Bounded limit position.x ∧ Bounded limit position.y ∧ Bounded limit position.z

instance (position : Vec3 Float32) : Decidable (Inside position) :=
  inferInstanceAs (Decidable (Bounded limit position.x ∧ Bounded limit position.y ∧ Bounded limit position.z))

theorem inside_iff (position : Vec3 Float32) : Inside position ↔ outOfBounds position = false := by
  have bounded := fun value => Binary32.bounded_iff limit value rfl
  rw [Inside, bounded, bounded, bounded]
  simp only [outOfBounds, Vec3.isFinite, Vec3.any, Bool.or_eq_false_iff, Bool.not_eq_false', Bool.and_eq_true,
    decide_eq_false_iff_not]
  change _ ↔ ((position.x.isFinite = true ∧ position.y.isFinite = true) ∧ position.z.isFinite = true) ∧
    (¬ limit < position.x.abs ∧ ¬ limit < position.y.abs) ∧ ¬ limit < position.z.abs
  tauto

theorem inside_of_beq (first second : Vec3 Float32) (same : (first == second) = true) (inside : Inside second) :
    Inside first := by
  obtain ⟨x, y, z⟩ := (Vec3.beq_iff first second).mp same
  exact ⟨Binary32.bounded_of_beq _ _ _ x inside.1, Binary32.bounded_of_beq _ _ _ y inside.2.1,
    Binary32.bounded_of_beq _ _ _ z inside.2.2⟩

end World

namespace Motion

theorem set_position (motion : Motion Float32) (value : Vec3 Float32) (apart : ¬ (motion.position == value) = true) :
    (motion.setPosition value).position = value ∧ (motion.setPosition value).orientation = motion.orientation := by
  rw [setPosition, if_neg apart]
  exact ⟨rfl, rfl⟩

theorem set_velocity (motion : Motion Float32) (value : Vec3 Float32) (number : (value == value) = true) :
    (motion.setVelocity value).position = motion.position ∧
      (motion.setVelocity value).orientation = motion.orientation ∧
      ((motion.setVelocity value).velocity == value) = true := by
  unfold setVelocity
  split
  · rename_i same
    exact ⟨rfl, rfl, same⟩
  · exact ⟨rfl, rfl, number⟩

theorem set_rotational_velocity (motion : Motion Float32) (value : Vec3 Float32) (number : (value == value) = true) :
    (motion.setRotationalVelocity value).position = motion.position ∧
      (motion.setRotationalVelocity value).orientation = motion.orientation ∧
      (motion.setRotationalVelocity value).velocity = motion.velocity ∧
      ((motion.setRotationalVelocity value).rotationalVelocity == value) = true := by
  unfold setRotationalVelocity
  split
  · rename_i same
    exact ⟨rfl, rfl, rfl, same⟩
  · exact ⟨rfl, rfl, rfl, number⟩

end Motion

namespace World

def middle (terrain : Terrain Float32) : Vec3 Float32 := ⟨0, 0, terrain.heightAt 0 0 + 1⟩

theorem middle_inside (terrain : Terrain Float32) (safe : Bounded limit (terrain.heightAt 0 0 + 1)) :
    Inside (middle terrain) :=
  have zero : Bounded limit 0 := by decide
  ⟨zero, zero, safe⟩

-- What the guard makes of a motion that the solver left.
structure Guarded (terrain : Terrain Float32) (before after : Motion Float32) : Prop where
  inside : Inside after.position
  kept : Inside before.position → after = before
  returned : ¬ Inside before.position →
    after.position = middle terrain ∧ after.orientation = before.orientation ∧
      (after.velocity == 0) = true ∧ (after.rotationalVelocity == 0) = true

theorem return_motion_guarded (terrain : Terrain Float32) (motion : Motion Float32)
    (safe : Bounded limit (terrain.heightAt 0 0 + 1)) : Guarded terrain motion (returnMotion terrain motion) := by
  by_cases inside : Inside motion.position
  · have kept : returnMotion terrain motion = motion := by
      rw [returnMotion, (inside_iff motion.position).mp inside]
      rfl
    rw [kept]
    exact ⟨inside, fun _ => rfl, fun outside => absurd inside outside⟩
  · have gone : outOfBounds motion.position = true := by
      rwa [inside_iff, Bool.not_eq_false] at inside
    have apart : ¬ (motion.position == middle terrain) = true :=
      fun same => inside (inside_of_beq _ _ same (middle_inside terrain safe))
    have returned : returnMotion terrain motion =
        ((motion.setPosition (middle terrain)).setVelocity 0).setRotationalVelocity 0 := if_pos gone
    obtain ⟨placed, upright⟩ := motion.set_position (middle terrain) apart
    obtain ⟨position, orientation, still⟩ := (motion.setPosition (middle terrain)).set_velocity 0 (by decide)
    obtain ⟨samePosition, sameOrientation, sameVelocity, spinless⟩ :=
      ((motion.setPosition (middle terrain)).setVelocity 0).set_rotational_velocity 0 (by decide)
    rw [← returned] at samePosition sameOrientation sameVelocity spinless
    have back := (samePosition.trans position).trans placed
    refine ⟨?_, fun within => absurd within inside, fun _ => ⟨back, ?_, ?_, spinless⟩⟩
    · rw [back]
      exact middle_inside terrain safe
    · exact (sameOrientation.trans orientation).trans upright
    · rwa [sameVelocity]

theorem step_motion (world : World Float32) (solver : Solver Float32) (dt : Float32) (id : ObjectId) :
    ((world.stepWith solver dt).body? id).map (·.motion) =
      ((solve solver dt (world.prepare dt)).body? id).map fun body =>
        returnMotion (world.prepare dt).terrain body.motion := by
  change ((((((solve solver dt (world.prepare dt)).objects.map _).map _).find? _).bind _)).map _ = _
  rw [find_map, find_map]
  · change _ = (((solve solver dt (world.prepare dt)).object? id).bind (·.body)).map _
    change (((((solve solver dt (world.prepare dt)).object? id).map _).map _).bind _).map _ = _
    cases (solve solver dt (world.prepare dt)).object? id with
    | none => rfl
    | some object =>
        simp only [Option.map_some, Option.bind_some, Option.map_map]
        split <;> cases object.body <;> rfl
  · intro object
    split <;> rfl
  · exact fun _ => rfl

theorem terrain_act (world : World Float32) (action : WorldAction Float32) (good : world.WellFormed) :
    (world.act action).terrain = world.terrain := by
  cases action with
  | spawn position half mass => rfl
  | remove id =>
      obtain ⟨objects, schedule, pushed, removed⟩ := remove_settings world id
      change (world.removeObject id).2.terrain = world.terrain
      rw [removed]
  | command id command =>
      obtain ⟨objects, schedule, commanded⟩ := command_settings world id command
      change (world.command id command).2.terrain = world.terrain
      rw [commanded]
  | step solver dt => exact (step_settings world solver dt good).2.1

theorem terrain_run (world : World Float32) (history : List (WorldAction Float32)) (good : world.WellFormed) :
    (world.run history).terrain = world.terrain := by
  induction history generalizing world with
  | nil => rfl
  | cons action rest ih =>
      exact (ih (world.act action) (well_formed_act world action good)).trans (terrain_act world action good)

theorem guarded_step (world : World Float32) (solver : Solver Float32) (dt : Float32) (good : world.WellFormed)
    (safe : Bounded limit (world.terrain.heightAt 0 0 + 1)) (id : ObjectId) (body : RigidBody Float32)
    (found : (world.stepWith solver dt).body? id = some body) :
    ∃ before, (solve solver dt (world.prepare dt)).body? id = some before ∧
      Guarded world.terrain before.motion body.motion := by
  have moved := step_motion world solver dt id
  rw [found, (prepare_settings world dt good).2.1] at moved
  obtain ⟨before, left, same⟩ := Option.map_eq_some_iff.mp moved.symm
  have guarded := return_motion_guarded world.terrain before.motion safe
  rw [same] at guarded
  exact ⟨before, left, guarded⟩

theorem reported_position (world : World Float32) (solver : Solver Float32) (dt : Float32) (good : world.WellFormed)
    (entry : ObjectId × Report Float32) (listed : entry ∈ (world.stepWith solver dt).updates) :
    ∃ body, (world.stepWith solver dt).body? entry.1 = some body ∧ entry.2.position = body.motion.position := by
  rw [updates_step, List.mem_filterMap] at listed
  obtain ⟨object, member, given⟩ := listed
  obtain ⟨body, present, _, rfl⟩ := (object.report_some_iff _ _ _).mp given
  have distinct := (well_formed_step world solver dt good).distinct
  refine ⟨body, ?_, ?_⟩
  · rw [body?, object_of_mem _ distinct object member]
    exact present
  · unfold Vehicle.editReport
    split <;> rfl

/-- After every tick all bodies and all reports are inside the region. A body that the solver left inside is as the
solver left it. One that it left outside, in whatever way, stands over the middle of the terrain and is at rest. Fewer than
`2 ^ 32 - 1` objects are spawned. -/
theorem runaways_are_put_back (settings : Settings Float32) (terrain : Terrain Float32)
    (history : List (WorldAction Float32)) (solver : Solver Float32) (dt : Float32)
    (safe : Bounded limit (terrain.heightAt 0 0 + 1)) :
    let world := (create settings terrain).run history
    let left := solve solver dt (world.prepare dt)
    let after := world.stepWith solver dt
    (∀ id, after.Present id → ∃ before body, left.body? id = some before ∧ after.body? id = some body ∧
      Inside body.motion.position ∧
        if Inside before.motion.position then body.motion = before.motion
        else
          body.motion.position = ⟨0, 0, terrain.heightAt 0 0 + 1⟩ ∧
            body.motion.orientation = before.motion.orientation ∧
            (body.motion.velocity == 0) = true ∧ (body.motion.rotationalVelocity == 0) = true) ∧
      ∀ entry ∈ after.updates, Inside entry.2.position := by
  have good := well_formed_run (create settings terrain) history (well_formed_create settings terrain)
  have sameTerrain := terrain_run (create settings terrain) history (well_formed_create settings terrain)
  have guarded := guarded_step ((create settings terrain).run history) solver dt good (by rwa [sameTerrain])
  rw [sameTerrain] at guarded
  refine ⟨?_, ?_⟩
  · intro id present
    have after := well_formed_act _ (.step solver dt) good
    obtain ⟨body, found⟩ := body_present _ after id present
    obtain ⟨before, left, guard⟩ := guarded id body found
    refine ⟨before, body, left, found, guard.inside, ?_⟩
    split
    · rename_i inside
      exact guard.kept inside
    · rename_i outside
      exact guard.returned outside
  · intro entry listed
    obtain ⟨body, found, same⟩ := reported_position _ solver dt good entry listed
    obtain ⟨before, _, guard⟩ := guarded entry.1 body found
    rw [same]
    exact guard.inside

def oneBox : List (WorldAction Float32) := [.spawn ⟨0, 0, 100⟩ ⟨1, 1, 1⟩ 8]

def hurl : Solver Float32 := fun _ _ _ =>
  [(1, { Motion.atRest ⟨Binary32.nan, 0, 20000⟩ with velocity := ⟨0, Binary32.infinity, 1⟩ })]

theorem hurled_box_is_put_back :
    let terrain : Terrain Float32 := .flat 21.0 20.0
    let after := ((create Settings.initial terrain).run oneBox).stepWith hurl 0
    Bounded limit (terrain.heightAt 0 0 + 1) ∧
      ∃ body, after.body? 1 = some body ∧ body.motion.position = ⟨0, 0, 22⟩ ∧ (body.motion.velocity == 0) = true := by
  intro terrain after
  have safe : Bounded limit (terrain.heightAt 0 0 + 1) := by decide +kernel
  have height : terrain.heightAt 0 0 + 1 = 22 := by decide +kernel
  obtain ⟨guarded, _⟩ := runaways_are_put_back Settings.initial terrain oneBox hurl 0 safe
  obtain ⟨before, body, left, found, _, returned⟩ := guarded 1 ((present_iff_id _ _).mpr (by decide +kernel))
  have hurled : (solve hurl 0 (((create Settings.initial terrain).run oneBox).prepare 0)).position? 1 =
      some ⟨Binary32.nan, 0, 20000⟩ := by decide +kernel
  rw [position?, left, Option.map_some, Option.some.injEq] at hurled
  rw [hurled, if_neg (by decide +kernel), height] at returned
  exact ⟨safe, body, found, returned.1, returned.2.2.1⟩

end World

end VehicleSim
