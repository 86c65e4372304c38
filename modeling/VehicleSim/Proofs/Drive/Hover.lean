import VehicleSim.Proofs.Body.Survey
import VehicleSim.Proofs.Drive.Stale

/-!
What a hovering vehicle aims at. The height is found again in every step, from the modes, the landscape under the body
and the body's own height. The stages before it do not move the body sideways.
-/

set_option autoImplicit false

namespace VehicleSim

variable {α : Type} [Scalar α]

namespace Params

def hoverLevel (params : Params α) (landscape : Landscape α) (x y : α) : α :=
  if params.flags.has .hoverGlobalHeight then params.hoverHeight
  else if params.flags.has .hoverTerrainOnly then landscape.groundAt x y + params.hoverHeight
  else if params.flags.has .hoverWaterOnly then landscape.waterAt x y + params.hoverHeight
  else params.hoverTargetHeight

def overLevel (params : Params α) (landscape : Landscape α) (position : Vec3 α) : Bool :=
  params.flags.has .hoverUpOnly && params.hoverLevel landscape position.x position.y < position.z

def hoverGoal (params : Params α) (landscape : Landscape α) (position : Vec3 α) : α :=
  if params.overLevel landscape position then position.z
  else params.hoverLevel landscape position.x position.y

theorem hover_goal_aimed (params : Params α) (landscape : Landscape α) (position : Vec3 α) (height : α)
    (mode : params.flags.hasAny Flags.hoverModes = true) :
    (params.aimed height).hoverGoal landscape position = params.hoverGoal landscape position := by
  have level : (params.aimed height).hoverLevel landscape position.x position.y =
      params.hoverLevel landscape position.x position.y := by
    rcases params.flags.hover_modes_iff.mp mode with water | terrain | fixed
    · simp [hoverLevel, aimed, water]
    · simp [hoverLevel, aimed, terrain]
    · simp [hoverLevel, aimed, fixed]
  simp only [hoverGoal, overLevel, level]
  rfl

end Params

def Landscape.floored (landscape : Landscape α) (position : Vec3 α) : Vec3 α :=
  if position.z < landscape.groundAt position.x position.y then
    { position with z := landscape.groundAt position.x position.y + 1 }
  else position

theorem Landscape.floored_plane (landscape : Landscape α) (position : Vec3 α) :
    (landscape.floored position).x = position.x ∧ (landscape.floored position).y = position.y := by
  by_cases low : position.z < landscape.groundAt position.x position.y
  · simp [floored, low]
  · simp [floored, low]

namespace Drive

theorem unmoved_linear_motor (input : StepInput α) (params : Params α) (rig : Rig α) :
    Rig.Unmoved rig (linearMotor input params rig).2 := ⟨rfl, rfl, rfl, rfl, fun surveyed => surveyed⟩

theorem ground_floor_position (rig : Rig α) (surveyed : rig.Surveyed) :
    (groundFloor rig).position.1 = rig.landscape.floored rig.position.1 ∧ (groundFloor rig).Surveyed ∧
      (groundFloor rig).landscape = rig.landscape := by
  have height : rig.groundHeight.1 = rig.landscape.groundAt rig.position.1.x rig.position.1.y :=
    Rig.height_surveyed surveyed .ground
  have seen : Rig.Unmoved rig rig.groundHeight.2.position.2 :=
    (rig.unmoved_height .ground).trans (Rig.unmoved_position _)
  have place : rig.groundHeight.2.position.1 = rig.position.1 := (rig.unmoved_height .ground).position
  rw [groundFloor, Landscape.floored]
  dsimp only
  rw [height, place]
  by_cases low : rig.position.1.z < rig.landscape.groundAt rig.position.1.x rig.position.1.y
  · rw [if_pos low, if_pos low]
    have x : rig.position.1.x = rig.groundHeight.2.position.2.position.1.x := congrArg Vec3.x seen.position.symm
    have y : rig.position.1.y = rig.groundHeight.2.position.2.position.1.y := congrArg Vec3.y seen.position.symm
    exact ⟨rfl, Rig.surveyed_set_position _ (seen.surveyed surveyed) x y, seen.landscape⟩
  · rw [if_neg low, if_neg low]
    exact ⟨seen.position, seen.surveyed surveyed, seen.landscape⟩

theorem hover_target (params : Params α) (rig : Rig α) (surveyed : rig.Surveyed) :
    (hoverTarget params rig).1 = params.hoverLevel rig.landscape rig.position.1.x rig.position.1.y ∧
      Rig.Unmoved rig (hoverTarget params rig).2 := by
  have seen := rig.unmoved_height .water
  have water : rig.waterLevel.1 = rig.heightHere .water := Rig.height_surveyed surveyed .water
  have ground : rig.groundHeight.1 = rig.heightHere .ground := Rig.height_surveyed surveyed .ground
  -- The water is asked for first, which leaves the body where it is and every height known right.
  have next : rig.waterLevel.2.groundHeight.1 = rig.heightHere .ground :=
    (Rig.height_surveyed (seen.surveyed surveyed) .ground).trans (seen.height_here .ground)
  unfold hoverTarget
  cases wet : params.flags.has .hoverWaterOnly <;> cases low : params.flags.has .hoverTerrainOnly
  · simp [Params.hoverLevel, wet, low, Rig.Unmoved.refl]
  · refine ⟨?_, rig.unmoved_height .ground⟩
    simp [Params.hoverLevel, low, ground]
    rfl
  · refine ⟨?_, seen⟩
    simp [Params.hoverLevel, wet, low, water]
    rfl
  · refine ⟨?_, seen.trans (rig.waterLevel.2.unmoved_height .ground)⟩
    simp [Params.hoverLevel, low, next]
    rfl

theorem hover_target_peeked (params : Params α) (rig : Rig α) : Rig.Peeked rig (hoverTarget params rig).2 := by
  unfold hoverTarget
  cases params.flags.has .hoverWaterOnly <;> cases params.flags.has .hoverTerrainOnly
  · exact Rig.Peeked.refl rig
  · exact rig.peeked_height .ground
  · exact rig.peeked_height .water
  · exact (rig.peeked_height .water).trans (rig.waterLevel.2.peeked_height .ground)

def hoverPush (input : StepInput α) (params : Params α) (above : Bool) (rig : Rig α) : Rig α :=
  if above && params.buoyancy != 0 then rig.addForce (input.gravity * input.mass) else rig

theorem hover_stages (input : StepInput α) (params : Params α) (rig : Rig α)
    (enabled : params.hoverEnabled input.tuning.hoverTimescaleCutoff = true) :
    hover input params rig =
      let position := rig.position.1
      let level := (hoverTarget params rig).1
      let above := params.flags.has .hoverUpOnly && decide (level < position.z)
      let goal := if above then position.z else level
      let pushed := hoverPush input params above (hoverTarget params rig).2.position.2
      (params.aimed goal,
        if params.flags.has .lockHoverHeight then lockHover goal position pushed
        else springHover input (params.aimed goal) goal position pushed) := by
  rw [hover, if_pos enabled]
  dsimp only
  rw [(hover_target_peeked params rig).position]
  by_cases locked : params.flags.has .lockHoverHeight = true
  · rw [if_pos locked, if_pos locked]
    rfl
  · rw [if_neg locked, if_neg locked]
    rfl

theorem hover_enabled (input : StepInput α) (params : Params α) (rig : Rig α) (surveyed : rig.Surveyed)
    (enabled : params.hoverEnabled input.tuning.hoverTimescaleCutoff = true) :
    ∃ seen, Rig.Unmoved rig seen ∧
      hover input params rig =
        let position := rig.position.1
        let goal := params.hoverGoal rig.landscape position
        let pushed := hoverPush input params (params.overLevel rig.landscape position) seen
        (params.aimed goal,
          if params.flags.has .lockHoverHeight then lockHover goal position pushed
          else springHover input (params.aimed goal) goal position pushed) := by
  obtain ⟨level, seen⟩ := hover_target params rig surveyed
  refine ⟨(hoverTarget params rig).2.position.2, seen.trans (Rig.unmoved_position _), ?_⟩
  rw [hover_stages input params rig enabled, level]
  rfl

theorem lock_hover_frame (target : α) (position : Vec3 α) (rig : Rig α) :
    (lockHover target position rig).body = rig.body ∧ (lockHover target position rig).cache.force = rig.cache.force := by
  by_cases far : hoverLockTolerance < Scalar.abs (position.z - target)
  · rw [lockHover, if_pos far]
    exact ⟨rfl, rfl⟩
  · rw [lockHover, if_neg far]
    exact ⟨rfl, rfl⟩

theorem spring_hover_frame (input : StepInput α) (params : Params α) (target : α) (position : Vec3 α) (rig : Rig α) :
    (springHover input params target position rig).body = rig.body ∧
      (springHover input params target position rig).cache.force = rig.cache.force := by
  have moved (pulled : Bool) (place : Vec3 α) :
      (if pulled then rig.setPosition place else rig).body = rig.body ∧
        (if pulled then rig.setPosition place else rig).cache.force = rig.cache.force := by
    cases pulled <;> exact ⟨rfl, rfl⟩
  exact moved _ _

theorem hover_effect (input : StepInput α) (params : Params α) (rig : Rig α) (surveyed : rig.Surveyed)
    (enabled : params.hoverEnabled input.tuning.hoverTimescaleCutoff = true) :
    (hover input params rig).1 = params.aimed (params.hoverGoal rig.landscape rig.position.1) ∧
      (hover input params rig).2.body = rig.body ∧
      (hover input params rig).2.cache.force =
        if params.overLevel rig.landscape rig.position.1 && params.buoyancy != 0 then
          rig.cache.force.add (input.gravity * input.mass)
        else rig.cache.force := by
  obtain ⟨seen, unmoved, hovered⟩ := hover_enabled input params rig surveyed enabled
  have pushed (above : Bool) : (hoverPush input params above seen).body = rig.body ∧
      (hoverPush input params above seen).cache.force =
        if above && params.buoyancy != 0 then rig.cache.force.add (input.gravity * input.mass)
        else rig.cache.force := by
    by_cases lost : (above && params.buoyancy != 0) = true
    · rw [hoverPush, if_pos lost, if_pos lost]
      exact ⟨unmoved.body, congrArg (·.add (input.gravity * input.mass)) unmoved.force⟩
    · rw [hoverPush, if_neg lost, if_neg lost]
      exact ⟨unmoved.body, unmoved.force⟩
  rw [hovered]
  refine ⟨rfl, ?_⟩
  dsimp only
  obtain ⟨sameBody, sameForce⟩ := pushed (params.overLevel rig.landscape rig.position.1)
  rw [← sameBody, ← sameForce]
  split
  · exact lock_hover_frame _ _ _
  · exact spring_hover_frame _ _ _ _ _

theorem move_linear_goal (input : StepInput α) (params : Params α) (rig : Rig α) (surveyed : rig.Surveyed)
    (enabled : params.hoverEnabled input.tuning.hoverTimescaleCutoff = true) :
    (moveLinear input params rig).1.hoverTargetHeight =
      params.hoverGoal rig.landscape (rig.landscape.floored rig.position.1) := by
  have driven := unmoved_linear_motor input params rig
  obtain ⟨placed, seen, land⟩ := ground_floor_position (linearMotor input params rig).2 (driven.surveyed surveyed)
  obtain ⟨aimed, -⟩ := hover_effect input (linearMotor input params rig).1 _ seen enabled
  rw [placed, land, driven.landscape, driven.position] at aimed
  exact congrArg Params.hoverTargetHeight aimed

end Drive

end VehicleSim
