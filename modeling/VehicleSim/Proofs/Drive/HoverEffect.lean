import Mathlib.Order.Interval.Set.UnorderedInterval
import Mathlib.Tactic.Linarith
import VehicleSim.Proofs.Number.Exact
import VehicleSim.Proofs.Drive.Hover
import VehicleSim.Proofs.Vehicle.Reached

/-!
What hovering does to a body, in exact arithmetic. It changes the height alone. A locked hover ends within its tolerance
and has nothing left to do; a hover that is not locked goes a share of the way, and not beyond the end of it if the step
is short enough. One that only lifts never lowers.
-/

set_option autoImplicit false

namespace VehicleSim

structure Rig.Over {α : Type} [Scalar α] (rig : Rig α) (landscape : Landscape α) (place : Vec3 α) : Prop where
  surveyed : rig.Surveyed
  landscape : rig.landscape = landscape
  position : rig.position.1 = place

namespace Drive

section Stages

variable {α : Type} [Scalar α]

def lockedHeight (target height : α) : α :=
  if hoverLockTolerance < Scalar.abs (height - target) then target else height

def springPull (input : StepInput α) (params : Params α) (target height : α) : α :=
  let error := target + hoverBias - height
  let correction := error / params.hoverTimescale * input.dt * params.hoverEfficiency
  let scale := Scalar.abs (error * 10.0)
  if scale < 1 then correction * scale else correction

def sprungHeight (input : StepInput α) (params : Params α) (target height : α) : α :=
  if 0 < springPull input params target height || !params.flags.has .hoverUpOnly then
    height + springPull input params target height
  else height

theorem hover_push_cases (input : StepInput α) (params : Params α) (above : Bool) (rig : Rig α) :
    hoverPush input params above rig = rig ∨
      hoverPush input params above rig = rig.addForce (input.gravity * input.mass) := by
  by_cases lost : (above && params.buoyancy != 0) = true
  · exact Or.inr (if_pos lost)
  · exact Or.inl (if_neg lost)

theorem hover_push_frame (input : StepInput α) (params : Params α) (above : Bool) (rig : Rig α) :
    Rig.Peeked rig (hoverPush input params above rig) ∧
      (hoverPush input params above rig).cache.position = rig.cache.position := by
  rcases hover_push_cases input params above rig with same | pushed
  · rw [same]
    exact ⟨Rig.Peeked.refl rig, rfl⟩
  · rw [pushed]
    exact ⟨⟨rfl, rfl, rfl⟩, rfl⟩

theorem hover_push_over (input : StepInput α) (params : Params α) (above : Bool) {rig : Rig α}
    {landscape : Landscape α} {place : Vec3 α} (placed : rig.Over landscape place) :
    (hoverPush input params above rig).Over landscape place := by
  rcases hover_push_cases input params above rig with same | pushed
  · rw [same]
    exact placed
  · rw [pushed]
    exact ⟨placed.surveyed, placed.landscape, placed.position⟩

theorem lock_hover_over (target : α) {rig : Rig α} {landscape : Landscape α} {place : Vec3 α}
    (placed : rig.Over landscape place) :
    (lockHover target place rig).Over landscape (lockHover target place rig).position.1 := by
  by_cases far : hoverLockTolerance < Scalar.abs (place.z - target)
  · have x : place.x = rig.position.1.x := congrArg Vec3.x placed.position.symm
    have y : place.y = rig.position.1.y := congrArg Vec3.y placed.position.symm
    rw [lockHover, if_pos far]
    exact ⟨Rig.surveyed_set_position _ placed.surveyed x y, placed.landscape, rfl⟩
  · rw [lockHover, if_neg far]
    exact ⟨placed.surveyed, placed.landscape, rfl⟩

theorem lock_hover_effect (target : α) (position : Vec3 α) (rig : Rig α) (here : rig.position.1 = position) :
    (lockHover target position rig).position.1 = { position with z := lockedHeight target position.z } ∧
      (lockHover target position rig).cache.velocity = rig.cache.velocity := by
  by_cases far : hoverLockTolerance < Scalar.abs (position.z - target)
  · rw [lockHover, lockedHeight, if_pos far, if_pos far]
    exact ⟨rfl, rfl⟩
  · rw [lockHover, lockedHeight, if_neg far, if_neg far]
    exact ⟨here, rfl⟩

theorem spring_hover_effect (input : StepInput α) (params : Params α) (target : α) (position : Vec3 α) (rig : Rig α)
    (here : rig.position.1 = position) :
    (springHover input params target position rig).position.1 =
        { position with z := sprungHeight input params target position.z } ∧
      (springHover input params target position rig).velocity.1 = { rig.velocity.1 with z := 0 } := by
  have sprung : springHover input params target position rig =
      let pull := springPull input params target position.z
      let moved :=
        if 0 < pull || !params.flags.has .hoverUpOnly then rig.setPosition { position with z := position.z + pull }
        else rig
      moved.velocity.2.setVelocity { moved.velocity.1 with z := 0 } := rfl
  rw [sprung, sprungHeight]
  by_cases pulled : (decide (0 < springPull input params target position.z) || !params.flags.has .hoverUpOnly) = true
  · simp only [if_pos pulled]
    exact ⟨rfl, rfl⟩
  · simp only [if_neg pulled]
    exact ⟨here, rfl⟩

variable (input : StepInput α) (params : Params α) (rig : Rig α)

theorem pushed_frame (above : Bool) :
    let pushed := hoverPush input params above (hoverTarget params rig).2.position.2
    Rig.Peeked rig pushed ∧ pushed.cache.position = rig.position.2.cache.position := by
  obtain ⟨pushed, kept⟩ := hover_push_frame input params above (hoverTarget params rig).2.position.2
  have seen := hover_target_peeked params rig
  exact ⟨(seen.trans (Rig.peeked_position _)).trans pushed, kept.trans seen.place⟩

theorem hover_disabled (disabled : params.hoverEnabled input.tuning.hoverTimescaleCutoff = false) :
    hover input params rig = (params, rig) := by
  rw [hover, disabled]
  rfl

variable (enabled : params.hoverEnabled input.tuning.hoverTimescaleCutoff = true)

include enabled

theorem hover_locked (locked : params.flags.has .lockHoverHeight = true) :
    let hovered := hover input params rig
    hovered.2.position.1 =
        { rig.position.1 with z := lockedHeight hovered.1.hoverTargetHeight rig.position.1.z } ∧
      hovered.2.cache.velocity = rig.cache.velocity := by
  intro hovered
  have stages : hovered = _ := hover_stages input params rig enabled
  simp only [if_pos locked] at stages
  obtain ⟨pushed, -⟩ := pushed_frame input params rig
    (params.flags.has .hoverUpOnly && decide ((hoverTarget params rig).1 < rig.position.1.z))
  rw [stages]
  obtain ⟨place, velocity⟩ := lock_hover_effect _ rig.position.1 _ pushed.position
  exact ⟨place, velocity.trans pushed.velocity⟩

theorem hover_sprung (free : params.flags.has .lockHoverHeight = false) :
    let hovered := hover input params rig
    hovered.2.position.1 =
        { rig.position.1 with z := sprungHeight input params hovered.1.hoverTargetHeight rig.position.1.z } ∧
      hovered.2.velocity.1 = { rig.velocity.1 with z := 0 } := by
  intro hovered
  have stages : hovered = _ := hover_stages input params rig enabled
  simp only [free, Bool.false_eq_true, if_false] at stages
  obtain ⟨pushed, -⟩ := pushed_frame input params rig
    (params.flags.has .hoverUpOnly && decide ((hoverTarget params rig).1 < rig.position.1.z))
  rw [stages]
  obtain ⟨place, velocity⟩ := spring_hover_effect input _ _ rig.position.1 _ pushed.position
  rw [pushed.velocity_value] at velocity
  exact ⟨place, velocity⟩

theorem hover_quiet (surveyed : rig.Surveyed) (locked : params.flags.has .lockHoverHeight = true)
    (near : ¬ hoverLockTolerance <
      Scalar.abs (rig.position.1.z - params.hoverGoal rig.landscape rig.position.1)) :
    (hover input params rig).2.cache.position = rig.position.2.cache.position := by
  have stages := hover_stages input params rig enabled
  simp only [if_pos locked, (hover_target params rig surveyed).1] at stages
  have still (pushed : Rig α) :
      lockHover (params.hoverGoal rig.landscape rig.position.1) rig.position.1 pushed = pushed := if_neg near
  rw [stages]
  exact (congrArg (fun rig : Rig α => rig.cache.position) (still _)).trans (pushed_frame input params rig _).2

theorem hover_over (surveyed : rig.Surveyed) (locked : params.flags.has .lockHoverHeight = true) :
    (hover input params rig).2.Over rig.landscape (hover input params rig).2.position.1 := by
  obtain ⟨seen, unmoved, hovered⟩ := hover_enabled input params rig surveyed enabled
  have before : seen.Over rig.landscape rig.position.1 :=
    ⟨unmoved.surveyed surveyed, unmoved.landscape, unmoved.position⟩
  simp only [if_pos locked] at hovered
  rw [hovered]
  exact lock_hover_over _ (hover_push_over input params _ before)

end Stages

theorem locked_near (target height : ℝ) : |lockedHeight target height - target| ≤ 0.2 := by
  by_cases far : hoverLockTolerance < Scalar.abs (height - target)
  · rw [lockedHeight, if_pos far, sub_self, abs_zero]
    norm_num
  · rw [lockedHeight, if_neg far]
    exact not_lt.mp far

theorem locked_up (target height : ℝ) (below : height ≤ target) : height ≤ lockedHeight target height := by
  by_cases far : hoverLockTolerance < Scalar.abs (height - target)
  · rw [lockedHeight, if_pos far]
    exact below
  · rw [lockedHeight, if_neg far]

theorem sprung_up (input : StepInput ℝ) (params : Params ℝ) (target height : ℝ)
    (lifts : params.flags.has .hoverUpOnly = true) : height ≤ sprungHeight input params target height := by
  rw [sprungHeight, lifts, Bool.not_true, Bool.or_false]
  by_cases up : 0 < springPull input params target height
  · rw [if_pos (decide_eq_true up)]
    exact le_add_of_nonneg_right up.le
  · rw [if_neg (by simpa using up)]

theorem spring_pull_share (input : StepInput ℝ) (params : Params ℝ) (target height : ℝ) (forward : 0 ≤ input.dt)
    (efficient : 0 ≤ params.hoverEfficiency) (timed : 0 < params.hoverTimescale)
    (brief : input.dt * params.hoverEfficiency ≤ params.hoverTimescale) :
    ∃ share : ℝ, 0 ≤ share ∧ share ≤ 1 ∧
      springPull input params target height = (target + hoverBias - height) * share := by
  have positive : 0 ≤ input.dt * params.hoverEfficiency / params.hoverTimescale :=
    div_nonneg (mul_nonneg forward efficient) timed.le
  have most : input.dt * params.hoverEfficiency / params.hoverTimescale ≤ 1 := (div_le_one timed).mpr brief
  have full : (target + hoverBias - height) / params.hoverTimescale * input.dt * params.hoverEfficiency =
      (target + hoverBias - height) * (input.dt * params.hoverEfficiency / params.hoverTimescale) := by ring
  by_cases near : Scalar.abs ((target + hoverBias - height) * 10.0) < 1
  · have scale : 0 ≤ Scalar.abs ((target + hoverBias - height) * 10.0) := abs_nonneg _
    refine ⟨_, mul_nonneg positive scale, mul_le_one₀ most scale near.le, ?_⟩
    simp only [springPull, if_pos near]
    rw [full, mul_assoc]
  · refine ⟨_, positive, most, ?_⟩
    simp only [springPull, if_neg near]
    exact full

theorem sprung_between (input : StepInput ℝ) (params : Params ℝ) (target height : ℝ) (forward : 0 ≤ input.dt)
    (efficient : 0 ≤ params.hoverEfficiency) (timed : 0 < params.hoverTimescale)
    (brief : input.dt * params.hoverEfficiency ≤ params.hoverTimescale) :
    sprungHeight input params target height ∈ Set.uIcc height (target + hoverBias) := by
  obtain ⟨share, positive, most, pull⟩ := spring_pull_share input params target height forward efficient timed brief
  by_cases pulled :
      (decide (0 < springPull input params target height) || !params.flags.has .hoverUpOnly) = true
  · rw [sprungHeight, if_pos pulled, pull]
    rcases le_total height (target + hoverBias) with below | above
    · have error : 0 ≤ target + hoverBias - height := sub_nonneg.mpr below
      exact Set.mem_uIcc.mpr (Or.inl ⟨by nlinarith, by nlinarith⟩)
    · have error : target + hoverBias - height ≤ 0 := sub_nonpos.mpr above
      exact Set.mem_uIcc.mpr (Or.inr ⟨by nlinarith, by nlinarith⟩)
  · rw [sprungHeight, if_neg pulled]
    exact Set.left_mem_uIcc

end Drive

namespace Params

structure HoverTuned (params : Params ℝ) : Prop where
  efficiency : 0 ≤ params.hoverEfficiency
  timescale : 0 < params.hoverTimescale

theorem apply_preset_hover (params : Params ℝ) (kind : Kind) : (params.applyPreset kind).HoverTuned := by
  cases kind <;> constructor <;>
    norm_num [applyPreset, Preset.ofKind, Preset.none, Preset.sled, Preset.car, Preset.boat, Preset.airplane,
      Preset.balloon]

theorem set_float_hover (params : Params ℝ) (param : Param) (value : ℝ) (tuned : params.HoverTuned) :
    (params.setFloat param value).HoverTuned := by
  cases param with
  | hoverEfficiency =>
      refine { tuned with efficiency := ?_ }
      change 0 ≤ Scalar.clampInRange 0 value 1
      rw [Exact.clamp_eq]
      exact le_max_left 0 _
  | hoverTimescale =>
      refine { tuned with timescale := ?_ }
      change 0 < Scalar.max value Timescale.least
      rw [Exact.max_eq]
      exact lt_max_of_lt_right (by norm_num [Timescale.least])
  | _ => exact ⟨tuned.efficiency, tuned.timescale⟩

theorem hover_tuned_kept : Kept HoverTuned where
  created _ _ := ⟨le_rfl, by norm_num [Vehicle.create, initial]⟩
  preset params kind _ := apply_preset_hover params kind
  float := set_float_hover
  vector _ param _ tuned := by cases param <;> exact ⟨tuned.efficiency, tuned.timescale⟩
  rotation _ param _ tuned := by cases param <;> exact ⟨tuned.efficiency, tuned.timescale⟩
  flags _ _ _ tuned := ⟨tuned.efficiency, tuned.timescale⟩
  advanced _ _ _ tuned := ⟨tuned.efficiency, tuned.timescale⟩

end Params

namespace Drive

theorem hover_target_up (input : StepInput ℝ) (params : Params ℝ) (rig : Rig ℝ)
    (enabled : params.hoverEnabled input.tuning.hoverTimescaleCutoff = true)
    (lifts : params.flags.has .hoverUpOnly = true) :
    rig.position.1.z ≤ (hover input params rig).1.hoverTargetHeight := by
  have target : (hover input params rig).1.hoverTargetHeight = _ :=
    congrArg (fun hovered => hovered.1.hoverTargetHeight) (hover_stages input params rig enabled)
  rw [target]
  by_cases above : (hoverTarget params rig).1 < rig.position.1.z
  · simp [Params.aimed, lifts, above]
  · simp only [Params.aimed, lifts, above, decide_false, Bool.and_false, Bool.false_eq_true, if_false]
    exact not_lt.mp above

theorem locked_goal_near (params : Params ℝ) (landscape : Landscape ℝ) (place : Vec3 ℝ) :
    let landed := { place with z := lockedHeight (params.hoverGoal landscape place) place.z }
    ¬ hoverLockTolerance < Scalar.abs (landed.z - params.hoverGoal landscape landed) := by
  intro landed
  have near (target height : ℝ) : ¬ hoverLockTolerance < Scalar.abs (lockedHeight target height - target) :=
    not_lt.mpr (locked_near target height)
  have still (height : ℝ) : lockedHeight height height = height := by simp [lockedHeight]
  by_cases above : params.overLevel landscape landed = true
  · rw [Params.hoverGoal, if_pos above]
    have kept := near landed.z landed.z
    rwa [still] at kept
  · by_cases before : params.overLevel landscape place = true
    · have same : landed = place := by
        simp only [landed, Params.hoverGoal, if_pos before, still]
      rw [same] at above
      exact absurd before above
    · simp only [Params.hoverGoal, if_neg above]
      simp only [landed, Params.hoverGoal, if_neg before]
      exact near _ _

theorem hover_again (input : StepInput ℝ) (params : Params ℝ) (rig next : Rig ℝ) (surveyed : rig.Surveyed)
    (enabled : params.hoverEnabled input.tuning.hoverTimescaleCutoff = true)
    (locked : params.flags.has .lockHoverHeight = true)
    (placed : next.Over rig.landscape (hover input params rig).2.position.1) :
    (hover input (hover input params rig).1 next).2.cache.position = next.position.2.cache.position := by
  have aimed := (hover_effect input params rig surveyed enabled).1
  have landed := (hover_locked input params rig enabled locked).1
  rw [aimed] at landed ⊢
  refine hover_quiet input _ next enabled placed.surveyed locked ?_
  rw [placed.landscape, placed.position, params.hover_goal_aimed _ _ _ (params.hover_mode _ enabled), landed]
  exact locked_goal_near params rig.landscape rig.position.1

end Drive

/-- What hovering does in one step, whatever its modes. Disabled it does nothing. Enabled it moves the body up or down
alone: never down if it only lifts. Locked it ends within its tolerance of the target, leaves the velocity, and moves
the body no more if it is run again there. Otherwise it stops the body's climb or fall, and does not pass the end of its
way if the step is no longer than the timescale allows. -/
theorem hover_holds_height (input : StepInput ℝ) (params : Params ℝ) (rig : Rig ℝ) (reached : params.Reached)
    (forward : 0 ≤ input.dt) :
    let enabled := params.hoverEnabled input.tuning.hoverTimescaleCutoff
    let after := (Drive.hover input params rig).1
    let hovered := (Drive.hover input params rig).2
    let place := rig.position.1
    let landed := hovered.position.1
    let target := after.hoverTargetHeight
    (enabled = false → Drive.hover input params rig = (params, rig)) ∧
      (enabled = true →
        landed.x = place.x ∧ landed.y = place.y ∧
        (params.flags.has .hoverUpOnly = true → place.z ≤ landed.z) ∧
        (params.flags.has .lockHoverHeight = true →
          |landed.z - target| ≤ 0.2 ∧ hovered.cache.velocity = rig.cache.velocity ∧
          (rig.Surveyed → hovered.Over rig.landscape landed ∧ ∀ next : Rig ℝ, next.Over rig.landscape landed →
            (Drive.hover input after next).2.cache.position = next.position.2.cache.position)) ∧
        (params.flags.has .lockHoverHeight = false →
          hovered.velocity.1 = { rig.velocity.1 with z := 0 } ∧
          (input.dt * params.hoverEfficiency ≤ params.hoverTimescale →
            landed.z ∈ Set.uIcc place.z (target + 0.21728)))) := by
  intro enabled after hovered place landed target
  refine ⟨Drive.hover_disabled input params rig, fun hovering => ?_⟩
  have up := Drive.hover_target_up input params rig hovering
  by_cases locked : params.flags.has .lockHoverHeight = true
  · obtain ⟨moved, velocity⟩ : landed = { place with z := Drive.lockedHeight target place.z } ∧ _ :=
      Drive.hover_locked input params rig hovering locked
    have second (surveyed : rig.Surveyed) := Drive.hover_over input params rig hovering surveyed locked
    rw [moved]
    refine ⟨rfl, rfl, fun lifts => Drive.locked_up target place.z (up lifts), fun _ => ?_, fun free => ?_⟩
    · rw [← moved]
      exact ⟨moved ▸ Drive.locked_near target place.z, velocity, fun surveyed =>
        ⟨second surveyed, fun next => Drive.hover_again input params rig next surveyed hovering locked⟩⟩
    · rw [locked] at free
      cases free
  · have free : params.flags.has .lockHoverHeight = false := Bool.eq_false_iff.mpr locked
    obtain ⟨moved, velocity⟩ : landed = { place with z := Drive.sprungHeight input params target place.z } ∧ _ :=
      Drive.hover_sprung input params rig hovering free
    have tuned := Params.hover_tuned_kept.reached params reached
    rw [moved]
    refine ⟨rfl, rfl, Drive.sprung_up input params target place.z, fun held => absurd held locked, fun _ => ?_⟩
    exact ⟨velocity, Drive.sprung_between input params target place.z forward tuned.efficiency tuned.timescale⟩

noncomputable def highBalloon : Vehicle ℝ :=
  (Vehicle.create 7 Tuning.initial).run [.setType .balloon .empty, .setFlags 8208 false]

noncomputable def highRig : Rig ℝ :=
  (Rig.bind Cache.fresh (BodyView.restingAt ⟨0, 5.0, 30.0⟩) ⟨fun _ _ => 0, fun _ _ => 0⟩).forget

theorem high_balloon_comes_down :
    let input := highBalloon.stepInput 1
    let hovered := Drive.hover input highBalloon.params highRig
    highBalloon.params.Reached ∧ 0 ≤ input.dt ∧ highRig.position.1.z = 30.0 ∧ hovered.1.hoverTargetHeight = 5.0 ∧
      |hovered.2.position.1.z - 5.0| ≤ 0.2 := by
  intro input hovered
  have reached : highBalloon.params.Reached := ⟨7, Tuning.initial, _, rfl⟩
  have forward : 0 ≤ input.dt := zero_le_one
  have locked : highBalloon.params.flags.has .lockHoverHeight = true := by decide
  have fixed : highBalloon.params.flags.has .hoverGlobalHeight = true := by decide
  have pulls : highBalloon.params.flags.has .hoverUpOnly = false := by decide
  have height : highBalloon.params.hoverHeight = 5.0 := rfl
  have timescale : highBalloon.params.hoverTimescale = 10.0 := rfl
  have cutoff : input.tuning.hoverTimescaleCutoff = 300.0 := rfl
  have enabled : highBalloon.params.hoverEnabled input.tuning.hoverTimescaleCutoff = true := by
    have mode := highBalloon.params.flags.hover_modes_iff.mpr (Or.inr (Or.inr fixed))
    rw [Params.hoverEnabled, mode, height, timescale, cutoff]
    norm_num
  have target : hovered.1.hoverTargetHeight = 5.0 := by
    have aimed := (Drive.hover_effect input highBalloon.params highRig (Rig.surveyed_forget _) enabled).1
    calc
      hovered.1.hoverTargetHeight = highBalloon.params.hoverGoal highRig.landscape highRig.position.1 :=
        congrArg Params.hoverTargetHeight aimed
      _ = 5.0 := by simp [Params.hoverGoal, Params.overLevel, Params.hoverLevel, fixed, pulls, height]
  obtain ⟨-, -, -, held, -⟩ := (hover_holds_height input highBalloon.params highRig reached forward).2 enabled
  have near := (held locked).1
  change |hovered.2.position.1.z - hovered.1.hoverTargetHeight| ≤ 0.2 at near
  rw [target] at near
  exact ⟨reached, forward, rfl, target, near⟩

end VehicleSim
