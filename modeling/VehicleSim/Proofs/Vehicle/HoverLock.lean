import VehicleSim.Number.Binary32
import VehicleSim.Proofs.Drive.Hover
import VehicleSim.Proofs.Vehicle.Runs
import VehicleSim.Terrain

/-!
The height a vehicle hovers at over a run of steps that no command interrupts. Each step finds the height again, where
the body is then. The lock says how the body gets there, and has no part in where that is.
-/

set_option autoImplicit false

namespace VehicleSim

variable {α : Type} [Scalar α]

namespace Vehicle

-- Step after step over one landscape; scripts are silent, and the world hands over the body as it is at each step.
def ride (vehicle : Vehicle α) (landscape : Landscape α) (legs : List (BodyView α × α)) : Vehicle α :=
  vehicle.run (legs.map fun leg => .step leg.1 landscape leg.2)

def goal (vehicle : Vehicle α) (landscape : Landscape α) (position : Vec3 α) : α :=
  vehicle.params.hoverGoal landscape (landscape.floored position)

def hovers (vehicle : Vehicle α) : Bool := vehicle.params.hoverEnabled vehicle.tuning.hoverTimescaleCutoff

theorem step_goal (vehicle : Vehicle α) (body : BodyView α) (landscape : Landscape α) (dt : α)
    (hovering : vehicle.hovers = true) (active : vehicle.isActive body = true) :
    (vehicle.step body landscape dt).1.params.hoverTargetHeight = vehicle.goal landscape body.position := by
  rw [step_params, if_pos active]
  exact Drive.move_linear_goal (vehicle.stepInput dt) vehicle.params (Rig.bind vehicle.known body landscape).forget
    (Rig.surveyed_forget _) hovering

def Rides (vehicle after : Vehicle α) : Prop :=
  ∃ linear angular target known last, after =
    { vehicle with
      params := { vehicle.params with linear := linear, angular := angular, hoverTargetHeight := target }
      known := known
      lastPosition := last }

theorem rides_step (vehicle after : Vehicle α) (body : BodyView α) (landscape : Landscape α) (dt : α)
    (rides : Rides vehicle after) : Rides vehicle (after.step body landscape dt).1 := by
  obtain ⟨_, _, _, _, _, rfl⟩ := rides
  exact step_vehicle _ body landscape dt

theorem rides_ride (vehicle after : Vehicle α) (landscape : Landscape α) (legs : List (BodyView α × α))
    (rides : Rides vehicle after) : Rides vehicle (after.ride landscape legs) := by
  induction legs generalizing after with
  | nil => exact rides
  | cons leg rest ih => exact ih _ (rides_step vehicle after leg.1 landscape leg.2 rides)

theorem rides_goal (vehicle after : Vehicle α) (landscape : Landscape α) (position : Vec3 α)
    (hovering : vehicle.hovers = true) (rides : Rides vehicle after) :
    after.goal landscape position = vehicle.goal landscape position := by
  obtain ⟨_, _, target, _, _, rfl⟩ := rides
  exact vehicle.params.hover_goal_aimed landscape (landscape.floored position) target
    (vehicle.params.hover_mode _ hovering)

theorem ride_goal (vehicle : Vehicle α) (landscape : Landscape α) (legs : List (BodyView α × α))
    (last : BodyView α × α) (hovering : vehicle.hovers = true) (active : vehicle.isActive last.1 = true) :
    (vehicle.ride landscape (legs ++ [last])).params.hoverTargetHeight = vehicle.goal landscape last.1.position := by
  have rides := rides_ride vehicle vehicle landscape legs ⟨_, _, _, _, _, rfl⟩
  have split : vehicle.ride landscape (legs ++ [last]) =
      ((vehicle.ride landscape legs).step last.1 landscape last.2).1 := by
    simp [ride, run, act]
  rw [split, ← rides_goal vehicle _ landscape last.1.position hovering rides]
  obtain ⟨_, _, _, _, _, same⟩ := rides
  rw [same]
  exact step_goal _ last.1 landscape last.2 hovering active

def lockMask : Int := 8192

def unlocked (vehicle : Vehicle α) : Vehicle α := vehicle.setFlags lockMask true

omit [Scalar α] in
theorem unlocked_flag (vehicle : Vehicle α) (flag : Flag) (other : flag ≠ .lockHoverHeight) :
    vehicle.unlocked.params.flags.has flag = vehicle.params.flags.has flag := by
  have unnamed : (Flags.ofMask lockMask).has flag = false := by
    cases flag <;> first | exact absurd rfl other | decide
  change (vehicle.params.flags.remove (Flags.ofMask lockMask)).has flag = _
  rw [Flags.has_remove, unnamed, Bool.not_false, Bool.and_true]

theorem unlocked_goal (vehicle : Vehicle α) (landscape : Landscape α) (position : Vec3 α) :
    vehicle.unlocked.goal landscape position = vehicle.goal landscape position := by
  have level (x y : α) : vehicle.unlocked.params.hoverLevel landscape x y = vehicle.params.hoverLevel landscape x y := by
    simp only [Params.hoverLevel, unlocked_flag vehicle .hoverGlobalHeight (by decide),
      unlocked_flag vehicle .hoverTerrainOnly (by decide), unlocked_flag vehicle .hoverWaterOnly (by decide)]
    rfl
  simp only [goal, Params.hoverGoal, Params.overLevel, level, unlocked_flag vehicle .hoverUpOnly (by decide)]
  rfl

theorem unlocked_hovers (vehicle : Vehicle α) (hovering : vehicle.hovers = true) : vehicle.unlocked.hovers = true := by
  have mode : vehicle.unlocked.params.flags.hasAny Flags.hoverModes = true := by
    rw [Flags.hover_modes_iff, unlocked_flag vehicle .hoverWaterOnly (by decide),
      unlocked_flag vehicle .hoverTerrainOnly (by decide), unlocked_flag vehicle .hoverGlobalHeight (by decide),
      ← Flags.hover_modes_iff]
    exact vehicle.params.hover_mode _ hovering
  simp only [hovers, Params.hoverEnabled, Bool.and_eq_true] at hovering ⊢
  exact ⟨⟨mode, hovering.1.2⟩, hovering.2⟩

theorem goal_level (vehicle : Vehicle α) (landscape : Landscape α) (position : Vec3 α)
    (pulls : vehicle.params.flags.has .hoverUpOnly = false) :
    vehicle.goal landscape position = vehicle.params.hoverLevel landscape position.x position.y := by
  obtain ⟨x, y⟩ := landscape.floored_plane position
  simp [goal, Params.hoverGoal, Params.overLevel, pulls, x, y]

/-- Every step of a hovering vehicle aims anew, at what the landscape and the height of the body make of the place where
the step finds it, and does so with the lock or without. A target fixed by an earlier step is kept if the hover pulls
down as well as up and the level is the same at both places, and then only. -/
theorem hover_follows_level (vehicle : Vehicle α) (landscape : Landscape α) (first last : BodyView α × α)
    (between : List (BodyView α × α)) (hovering : vehicle.hovers = true) (firstActive : vehicle.isActive first.1 = true)
    (lastActive : vehicle.isActive last.1 = true) :
    let legs := first :: (between ++ [last])
    let level := fun position : Vec3 α => vehicle.params.hoverLevel landscape position.x position.y
    let fixed := (vehicle.ride landscape [first]).params.hoverTargetHeight
    let target := (vehicle.ride landscape legs).params.hoverTargetHeight
    fixed = vehicle.goal landscape first.1.position ∧ target = vehicle.goal landscape last.1.position ∧
      (vehicle.unlocked.ride landscape legs).params.hoverTargetHeight = target ∧
      (vehicle.params.flags.has .hoverUpOnly = false →
        (target = fixed ↔ level last.1.position = level first.1.position)) := by
  intro legs level fixed target
  have start : fixed = vehicle.goal landscape first.1.position := vehicle.ride_goal landscape [] first hovering firstActive
  have arrival : target = vehicle.goal landscape last.1.position :=
    vehicle.ride_goal landscape (first :: between) last hovering lastActive
  refine ⟨start, arrival, ?_, ?_⟩
  · rw [arrival, ← vehicle.unlocked_goal]
    exact vehicle.unlocked.ride_goal landscape (first :: between) last (vehicle.unlocked_hovers hovering) lastActive
  · intro pulls
    rw [start, arrival, vehicle.goal_level landscape _ pulls, vehicle.goal_level landscape _ pulls]

end Vehicle

def slopeGrid : Grid Float32 where
  originX := 0
  originY := 0
  cellSize := 10
  columns := 2
  rows := 2
  heights := #[0, 2, 0, 2]

theorem slope_usable : slopeGrid.Usable := slopeGrid.usable_iff.mp (by decide +kernel)

def slope : Landscape Float32 := (Terrain.ofGrid 0 0 slopeGrid slope_usable).landscape

def upSlope (x : Float32) : BodyView Float32 := .restingAt ⟨x, 5, 5⟩

def lockedBalloon : Vehicle Float32 :=
  (Vehicle.create 7 Tuning.initial).run [.setType .balloon .empty, .setFlags 8200 false]

theorem locked_balloon_hovers : lockedBalloon.hovers = true := by decide +kernel

theorem locked_balloon_active (x : Float32) : lockedBalloon.isActive (upSlope x) = true := by
  have driven : (lockedBalloon.enabled && lockedBalloon.kind != .none) = true := by decide +kernel
  rw [Vehicle.isActive, driven]
  rfl

theorem locked_balloon_holds_level :
    (lockedBalloon.ride slope [(upSlope 0, 0.1), (upSlope 10, 0.1), (upSlope 0, 0.1)]).params.hoverTargetHeight =
      (lockedBalloon.ride slope [(upSlope 0, 0.1)]).params.hoverTargetHeight := by
  have pulls : lockedBalloon.params.flags.has .hoverUpOnly = false := by decide +kernel
  have kept := lockedBalloon.hover_follows_level slope (upSlope 0, 0.1) (upSlope 0, 0.1) [(upSlope 10, 0.1)]
    locked_balloon_hovers (locked_balloon_active 0) (locked_balloon_active 0)
  have same := (kept.2.2.2 pulls).mpr rfl
  rw [List.singleton_append] at same
  exact same

theorem locked_balloon_leaves_level :
    lockedBalloon.params.flags.has .lockHoverHeight = true ∧ lockedBalloon.hovers = true ∧
      (lockedBalloon.ride slope [(upSlope 0, 0.1)]).params.hoverTargetHeight = 5 ∧
      (lockedBalloon.ride slope [(upSlope 0, 0.1), (upSlope 10, 0.1)]).params.hoverTargetHeight = 7 := by
  have locked : lockedBalloon.params.flags.has .lockHoverHeight = true := by decide +kernel
  have first := lockedBalloon.ride_goal slope [] (upSlope 0, 0.1) locked_balloon_hovers (locked_balloon_active 0)
  have last := lockedBalloon.ride_goal slope [(upSlope 0, 0.1)] (upSlope 10, 0.1) locked_balloon_hovers
    (locked_balloon_active 10)
  have low : lockedBalloon.goal slope (upSlope 0).position = 5 := by decide +kernel
  have high : lockedBalloon.goal slope (upSlope 10).position = 7 := by decide +kernel
  rw [List.nil_append, low] at first
  rw [List.singleton_append, high] at last
  exact ⟨locked, locked_balloon_hovers, first, last⟩

end VehicleSim
