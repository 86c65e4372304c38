import VehicleSim.Proofs.Body.Access
import VehicleSim.Proofs.Vehicle.Conduct

/-!
What the stages of a step do with the rig, in order: each stage has a script of the uses that it makes, and of
those that it makes on some branches only. No stage flushes; that is left to the end of the step.
-/

set_option autoImplicit false

namespace VehicleSim

-- A use of the rig other than a flush, without the value that it passes on.
inductive Use where
  | read (field : StateField)
  | set (field : StateField)
  | add (field : SumField)
  | height (surface : Surface)
deriving DecidableEq

structure Cue where
  use : Use
  optional : Bool
deriving DecidableEq

abbrev Script := List Cue

namespace Cue

def always (use : Use) : Cue := ⟨use, false⟩

def maybe (use : Use) : Cue := ⟨use, true⟩

end Cue

open Cue

namespace Script

def linearMotor : Script := [always (.read .orientation), always (.read .velocity), always (.set .velocity)]

def groundFloor : Script := [always (.height .ground), always (.read .position), maybe (.set .position)]

def hoverTarget : Script := [maybe (.height .water), maybe (.height .ground)]

def lockHover : Script := [maybe (.set .position)]

def springHover : Script := lockHover ++ [maybe (.read .velocity), maybe (.set .velocity)]

def hover : Script := hoverTarget ++ [maybe (.read .position), maybe (.add .force)] ++ springHover

def blockingBox : Script := [maybe (.read .position), maybe (.set .position)]

def limitClimb : Script := [maybe (.read .velocity), maybe (.set .velocity)]

def applyGravity : Script := [always (.add .force)]

def deflect : Script := [maybe (.read .orientation), maybe (.read .velocity), maybe (.set .velocity)]

def lockAxes : Script := [maybe (.read .velocity), maybe (.set .velocity)]

def clampSpeed : Script := [always (.read .velocity), maybe (.set .velocity)]

def moveLinear : Script :=
  linearMotor ++ groundFloor ++ hover ++ blockingBox ++ limitClimb ++ applyGravity ++ deflect ++
    (lockAxes ++ clampSpeed)

def angularMotor : Script :=
  [always (.read .orientation), always (.read .rotationalVelocity), always (.read .rotationalVelocity),
    always (.set .rotationalVelocity)]

def verticalAttraction : Script :=
  [maybe (.read .orientation), maybe (.read .rotationalVelocity), maybe (.set .rotationalVelocity)]

def angularDeflection : Script :=
  [maybe (.read .orientation), maybe (.read .velocity), maybe (.read .rotationalVelocity),
    maybe (.set .rotationalVelocity)]

def banking : Script :=
  [maybe (.read .orientation), maybe (.read .rotationalVelocity), maybe (.read .velocity),
    maybe (.read .rotationalVelocity), maybe (.set .rotationalVelocity)]

def stopSlowSpin : Script := [always (.read .rotationalVelocity), maybe (.set .rotationalVelocity)]

def offsetTorque (offset : Bool) : Script := if offset then [always (.add .rotationalForce)] else []

def moveAngular (offset : Bool) : Script :=
  angularMotor ++ verticalAttraction ++ angularDeflection ++ banking ++ stopSlowSpin ++ offsetTorque offset

def limitRotation : Script := [maybe (.read .orientation), maybe (.set .orientation)]

def move (offset : Bool) : Script := moveLinear ++ moveAngular offset ++ limitRotation

def step (offset : Bool) : Script := move offset ++ [always (.read .position)]

end Script

variable {α : Type}

def Access.use? : Access α → Option Use
  | .read field => some (.read field)
  | .set field _ => some (.set field)
  | .add field _ => some (.add field)
  | .height surface => some (.height surface)
  | .flush => none

inductive Follows : Script → List (Access α) → Prop where
  | done : Follows [] []
  | take (cue : Cue) (access : Access α) (script : Script) (accesses : List (Access α))
      (same : access.use? = some cue.use) (rest : Follows script accesses) :
      Follows (cue :: script) (access :: accesses)
  | skip (use : Use) (script : Script) (accesses : List (Access α)) (rest : Follows script accesses) :
      Follows (maybe use :: script) accesses

theorem follows_append (first second : Script) (early late : List (Access α)) (followed : Follows first early)
    (follows : Follows second late) : Follows (first ++ second) (early ++ late) := by
  induction followed with
  | done => exact follows
  | take cue access script accesses same rest ih => exact .take cue access _ _ same ih
  | skip use script accesses rest ih => exact .skip use _ _ ih

namespace Follows

variable {script : Script} {accesses : List (Access α)}

theorem exists_cue_of_mem (follows : Follows script accesses) (access : Access α) (member : access ∈ accesses) :
    ∃ cue ∈ script, access.use? = some cue.use := by
  induction follows with
  | done => cases member
  | take cue made script accesses same rest ih =>
      cases member with
      | head => exact ⟨cue, List.mem_cons_self, same⟩
      | tail _ later =>
          obtain ⟨other, listed, same⟩ := ih later
          exact ⟨other, List.mem_cons_of_mem cue listed, same⟩
  | skip use script accesses rest ih =>
      obtain ⟨other, listed, same⟩ := ih member
      exact ⟨other, List.mem_cons_of_mem _ listed, same⟩

theorem exists_access_of_always (follows : Follows script accesses) (use : Use) (cue : always use ∈ script) :
    ∃ access ∈ accesses, access.use? = some use := by
  induction follows with
  | done => cases cue
  | take first access script accesses same rest ih =>
      cases cue with
      | head => exact ⟨access, List.mem_cons_self, same⟩
      | tail _ later =>
          obtain ⟨other, member, same⟩ := ih later
          exact ⟨other, List.mem_cons_of_mem access member, same⟩
  | skip other script accesses rest ih =>
      cases cue with
      | tail _ later => exact ih later

theorem find_always (follows : Follows script accesses) (kind : Use → Bool) (use : Use)
    (found : script.find? (kind ·.use) = some (always use)) :
    ∃ access, accesses.find? (·.use?.any kind) = some access ∧ access.use? = some use := by
  induction follows with
  | done => cases found
  | take cue access script accesses same rest ih =>
      rw [List.find?_cons] at found ⊢
      rw [same, Option.any_some]
      cases suits : kind cue.use with
      | true =>
          rw [suits, Option.some.injEq] at found
          subst found
          exact ⟨access, rfl, same⟩
      | false =>
          rw [suits] at found
          exact ih found
  | skip other script accesses rest ih =>
      rw [List.find?_cons] at found
      split at found
      · cases found
      · exact ih found

theorem count_le (follows : Follows script accesses) (kind : Use → Bool) :
    accesses.countP (·.use?.any kind) ≤ script.countP (kind ·.use) := by
  induction follows with
  | done => exact Nat.le_refl 0
  | take cue access script accesses same rest ih =>
      rw [List.countP_cons, List.countP_cons, same, Option.any_some]
      exact Nat.add_le_add_right ih _
  | skip use script accesses rest ih =>
      rw [List.countP_cons]
      exact Nat.le_add_right_of_le ih

end Follows

variable [Scalar α]

def Performs (start : Rig α) (script : Script) (after : Rig α) : Prop :=
  ∃ accesses, Follows script accesses ∧ start.run accesses = after

namespace Performs

variable {rig after : Rig α} {script : Script} {optional : Bool}

theorem nil : Performs rig [] rig := ⟨[], .done, rfl⟩

theorem cons_access (cue : Cue) (access : Access α) (same : access.use? = some cue.use)
    (rest : Performs (rig.access access) script after) : Performs rig (cue :: script) after := by
  obtain ⟨accesses, follows, run⟩ := rest
  exact ⟨access :: accesses, .take cue access script accesses same follows, run⟩

theorem cons_read (field : StateField) (rest : Performs (rig.read field).2 script after) :
    Performs rig (⟨.read field, optional⟩ :: script) after :=
  .cons_access _ (.read field) rfl rest

theorem cons_set (field : StateField) (value : field.Value α) (rest : Performs (rig.set field value) script after) :
    Performs rig (⟨.set field, optional⟩ :: script) after :=
  .cons_access _ (.set field value) rfl rest

theorem cons_add (field : SumField) (term : Vec3 α) (rest : Performs (rig.add field term) script after) :
    Performs rig (⟨.add field, optional⟩ :: script) after :=
  .cons_access _ (.add field term) rfl rest

theorem cons_height (surface : Surface) (rest : Performs (rig.heightOf surface).2 script after) :
    Performs rig (⟨.height surface, optional⟩ :: script) after :=
  .cons_access _ (.height surface) rfl rest

theorem cons_maybe {use : Use} (rest : Performs rig script after) : Performs rig (maybe use :: script) after := by
  obtain ⟨accesses, follows, run⟩ := rest
  exact ⟨accesses, .skip use script accesses follows, run⟩

theorem of_all_optional (optional : script.all Cue.optional = true) : Performs rig script rig := by
  induction script with
  | nil => exact .nil
  | cons cue script ih =>
      obtain ⟨skipped, rest⟩ := Bool.and_eq_true_iff.mp optional
      obtain ⟨use, optional⟩ := cue
      subst skipped
      exact .cons_maybe (ih rest)

theorem ite_both {other : Rig α} (test : Prop) [Decidable test] (performs : Performs rig script after)
    (otherwise : Performs rig script other) : Performs rig script (if test then after else other) := by
  split
  · exact performs
  · exact otherwise

theorem append {middle : Rig α} {more : Script} (first : Performs rig script middle)
    (second : Performs middle more after) : Performs rig (script ++ more) after := by
  obtain ⟨early, followed, reached⟩ := first
  obtain ⟨late, follows, ran⟩ := second
  refine ⟨early ++ late, follows_append script more early late followed follows, ?_⟩
  rw [← ran, ← reached, Rig.run, Rig.run, Rig.run, List.foldl_append]

end Performs

namespace Drive

variable (rig : Rig α) (input : StepInput α) (params : Params α)

theorem linear_motor_performs : Performs rig Script.linearMotor (Drive.linearMotor input params rig).2 :=
  .cons_read .orientation (.cons_read .velocity (.cons_set .velocity _ .nil))

theorem ground_floor_performs : Performs rig Script.groundFloor (Drive.groundFloor rig) :=
  .cons_height .ground (.cons_read .position (.ite_both _ (.cons_set .position _ .nil) (.cons_maybe .nil)))

theorem hover_target_performs : Performs rig Script.hoverTarget (Drive.hoverTarget params rig).2 := by
  unfold Drive.hoverTarget
  cases params.flags.has .hoverWaterOnly with
  | false =>
      cases params.flags.has .hoverTerrainOnly with
      | false => exact .of_all_optional rfl
      | true => exact .cons_maybe (.cons_height .ground .nil)
  | true =>
      cases params.flags.has .hoverTerrainOnly with
      | false => exact .cons_height .water (.cons_maybe .nil)
      | true => exact .cons_height .water (.cons_height .ground .nil)

theorem lock_hover_performs (target : α) (position : Vec3 α) :
    Performs rig Script.lockHover (Drive.lockHover target position rig) :=
  .ite_both _ (.cons_set .position _ .nil) (.cons_maybe .nil)

theorem spring_hover_performs (target : α) (position : Vec3 α) :
    Performs rig Script.springHover (Drive.springHover input params target position rig) :=
  have raised : Performs rig [maybe (.set .position)] _ :=
    .ite_both _ (.cons_set .position _ .nil) (.cons_maybe .nil)
  raised.append (.cons_read .velocity (.cons_set .velocity _ .nil))

theorem hover_performs : Performs rig Script.hover (Drive.hover input params rig).2 := by
  unfold Drive.hover
  split
  · have aimed : Performs rig (Script.hoverTarget ++ [maybe (.read .position)]) _ :=
      (hover_target_performs rig params).append (.cons_read .position .nil)
    have pushed := fun test : Bool => aimed.append
      (.ite_both (test = true) (.cons_add .force (input.gravity * input.mass) .nil) (.cons_maybe .nil))
    dsimp only
    split
    · exact ((pushed _).append (lock_hover_performs _ _ _)).append (.of_all_optional rfl)
    · exact (pushed _).append (spring_hover_performs _ _ _ _ _)
  · exact .of_all_optional rfl

theorem blocking_box_performs : Performs rig Script.blockingBox (Drive.blockingBox input params rig) := by
  unfold Drive.blockingBox
  refine .ite_both _ (.of_all_optional rfl) (.cons_read .position ?_)
  exact .ite_both _ (.cons_set .position _ .nil) (.cons_maybe .nil)

theorem limit_climb_performs : Performs rig Script.limitClimb (Drive.limitClimb params rig) := by
  refine .ite_both _ (.cons_read .velocity ?_) (.of_all_optional rfl)
  exact .ite_both _ (.cons_set .velocity _ .nil) (.cons_maybe .nil)

theorem apply_gravity_performs : Performs rig Script.applyGravity (Drive.applyGravity input params rig) :=
  .cons_add .force _ .nil

theorem deflect_performs : Performs rig Script.deflect (Drive.deflect input params rig) :=
  .ite_both _ (.cons_read .orientation (.cons_read .velocity (.cons_set .velocity _ .nil))) (.of_all_optional rfl)

theorem clamp_speed_performs : Performs rig Script.clampSpeed (Drive.clampSpeed input.tuning rig) := by
  refine .cons_read .velocity (.ite_both _ (.cons_set .velocity _ .nil) ?_)
  exact .ite_both _ (.cons_set .velocity _ .nil) (.cons_maybe .nil)

theorem lock_and_clamp_performs :
    Performs rig (Script.lockAxes ++ Script.clampSpeed) (Drive.lockAndClamp input params rig) :=
  have locked : Performs rig Script.lockAxes _ :=
    .ite_both _ (.cons_read .velocity (.cons_set .velocity _ .nil)) (.of_all_optional rfl)
  locked.append (clamp_speed_performs _ input)

theorem move_linear_performs : Performs rig Script.moveLinear (Drive.moveLinear input params rig).2 :=
  have driven := (linear_motor_performs rig input params).append (ground_floor_performs _)
  have boxed := (driven.append (hover_performs _ input _)).append (blocking_box_performs _ input _)
  have pulled := (boxed.append (limit_climb_performs _ _)).append (apply_gravity_performs _ input _)
  (pulled.append (deflect_performs _ input _)).append (lock_and_clamp_performs _ input _)

theorem add_spin_performs (optional : Bool) (frame : Quat α) (turn : Vec3 α) :
    Performs rig [⟨.read .rotationalVelocity, optional⟩, ⟨.set .rotationalVelocity, optional⟩]
      (Drive.addSpin frame turn rig) :=
  .cons_read .rotationalVelocity (.cons_set .rotationalVelocity _ .nil)

theorem angular_motor_performs : Performs rig Script.angularMotor (Drive.angularMotor input params rig).2 :=
  .cons_read .orientation (.cons_read .rotationalVelocity (add_spin_performs _ _ _ _))

theorem vertical_attraction_performs :
    Performs rig Script.verticalAttraction (Drive.verticalAttraction input params rig) :=
  .ite_both _ (.cons_read .orientation (add_spin_performs _ _ _ _)) (.of_all_optional rfl)

theorem angular_deflection_performs :
    Performs rig Script.angularDeflection (Drive.angularDeflection input params rig) :=
  .ite_both _ (.cons_read .orientation (.cons_read .velocity (add_spin_performs _ _ _ _))) (.of_all_optional rfl)

theorem banking_performs : Performs rig Script.banking (Drive.banking input params rig) :=
  have leant : Performs rig Script.banking _ :=
    .cons_read .orientation (.cons_read .rotationalVelocity (.cons_read .velocity (add_spin_performs _ _ _ _)))
  .ite_both _ leant (.of_all_optional rfl)

theorem stop_slow_spin_performs : Performs rig Script.stopSlowSpin (Drive.stopSlowSpin input rig) :=
  .cons_read .rotationalVelocity (.ite_both _ (.cons_set .rotationalVelocity _ .nil) (.cons_maybe .nil))

theorem offset_torque_performs :
    Performs rig (Script.offsetTorque (params.linearMotorOffset != 0)) (Drive.offsetTorque input params rig) := by
  unfold Drive.offsetTorque
  cases centred : params.linearMotorOffset == 0 with
  | true =>
      rw [bne, centred]
      exact .nil
  | false =>
      rw [bne, centred]
      exact .cons_add .rotationalForce _ .nil

theorem move_angular_performs :
    Performs rig (Script.moveAngular (params.linearMotorOffset != 0)) (Drive.moveAngular input params rig).2 :=
  have turned := (angular_motor_performs rig input params).append (vertical_attraction_performs _ input _)
  have leant := (turned.append (angular_deflection_performs _ input _)).append (banking_performs _ input _)
  (leant.append (stop_slow_spin_performs _ input)).append
    (offset_torque_performs _ input { params with angular := params.angular.advance input.dt })

theorem limit_rotation_performs : Performs rig Script.limitRotation (Drive.limitRotation params rig) := by
  refine .ite_both _ (.of_all_optional rfl) (.cons_read .orientation ?_)
  exact .ite_both _ (.cons_maybe .nil) (.cons_set .orientation _ .nil)

end Drive

theorem Vehicle.move_performs (rig : Rig α) (input : StepInput α) (params : Params α) :
    Performs rig (Script.move (params.linearMotorOffset != 0)) (Vehicle.move input params rig).2 := by
  obtain ⟨target, moved⟩ := move_linear_params input params rig
  have driven := Drive.move_linear_performs rig input params
  have turned := Drive.move_angular_performs (Drive.moveLinear input params rig).2 input
    (Drive.moveLinear input params rig).1
  have offset : (Drive.moveLinear input params rig).1.linearMotorOffset = params.linearMotorOffset := by rw [moved]
  rw [offset] at turned
  exact (driven.append turned).append (Drive.limit_rotation_performs _ _)

end VehicleSim
