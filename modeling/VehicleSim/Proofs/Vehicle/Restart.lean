import VehicleSim.Number.Binary32
import VehicleSim.Proofs.Drive.Stale
import VehicleSim.Proofs.Vehicle.Runs

/-!
A vehicle whose type was set to `none` and then to another type, against one that is new. Only the position that
the last step left behind tells them apart, and only a block exit lets it show.
-/

set_option autoImplicit false

namespace VehicleSim

variable {α : Type} [Scalar α]

namespace Vehicle

-- The same vehicle, but for the values its cache keeps, the height it hovered at and its hooks.
def disguised (vehicle : Vehicle α) (height : α) (known : Cache α) (registered : Bool) : Vehicle α :=
  { vehicle with params := vehicle.params.aimed height, known, registered }

def Alike (vehicle other : Vehicle α) : Prop :=
  ∃ height known registered, other = vehicle.disguised height known registered

theorem move_bound (input : StepInput α) (params : Params α) (known other : Cache α) (body : BodyView α)
    (landscape : Landscape α) :
    (move input params (Rig.bind other body landscape).forget).1 =
        (move input params (Rig.bind known body landscape).forget).1 ∧
      (move input params (Rig.bind other body landscape).forget).2.scrub =
        (move input params (Rig.bind known body landscape).forget).2.scrub := by
  have same : (Rig.bind other body landscape).forget.scrub = (Rig.bind known body landscape).forget.scrub := rfl
  have moved := move_scrub input params (Rig.bind other body landscape).forget
  rw [same, move_scrub, Prod.mk.injEq] at moved
  exact ⟨moved.1.symm, moved.2.symm⟩

theorem step_disguised (vehicle : Vehicle α) (height : α) (known : Cache α) (registered : Bool) (body : BodyView α)
    (landscape : Landscape α) (dt : α) :
    (vehicle.step body landscape dt).2.traffic =
        ((vehicle.disguised height known registered).step body landscape dt).2.traffic ∧
      Alike (vehicle.step body landscape dt).1
        ((vehicle.disguised height known registered).step body landscape dt).1 := by
  have sameActive : (vehicle.disguised height known registered).isActive body = vehicle.isActive body := rfl
  cases active : vehicle.isActive body with
  | false =>
      simp only [step, sameActive, active]
      exact ⟨rfl, height, known, registered, rfl⟩
  | true =>
      have input : (vehicle.disguised height known registered).stepInput dt = vehicle.stepInput dt := rfl
      have params : (vehicle.disguised height known registered).params = vehicle.params.aimed height := rfl
      have cache : (vehicle.disguised height known registered).known = known := rfl
      obtain ⟨next, aimed⟩ := move_aimed (vehicle.stepInput dt) vehicle.params
        (Rig.bind known body landscape).forget height
      obtain ⟨moved, scrubbed⟩ := move_bound (vehicle.stepInput dt) vehicle.params vehicle.known known body landscape
      simp only [step, sameActive, active, if_true, input, params, cache, aimed, moved]
      generalize (move (vehicle.stepInput dt) vehicle.params (Rig.bind known body landscape).forget).2 = second at *
      generalize (move (vehicle.stepInput dt) vehicle.params (Rig.bind vehicle.known body landscape).forget).2 = first at *
      have placed := congrArg Rig.position scrubbed
      rw [Rig.position_scrub, Rig.position_scrub, Prod.mk.injEq] at placed
      refine ⟨?_, next, second.position.2.flush.2.cache, registered, ?_⟩
      · rw [← Rig.flush_scrub, ← Rig.flush_scrub second.position.2, placed.2]
      · rw [placed.1]
        rfl

theorem act_alike (vehicle other : Vehicle α) (alike : Alike vehicle other) (action : VehicleAction α) :
    (vehicle.act action).2 = (other.act action).2 ∧ Alike (vehicle.act action).1 (other.act action).1 := by
  obtain ⟨height, known, registered, rfl⟩ := alike
  cases action with
  | setType kind schedule =>
      refine ⟨rfl, ?_⟩
      cases enabled : vehicle.enabled with
      | true =>
          have still : (vehicle.disguised height known registered).enabled = true := enabled
          simp only [act, set_type_vehicle _ kind schedule enabled, set_type_vehicle _ kind schedule still]
          exact ⟨height, known, kind != .none, rfl⟩
      | false =>
          have still : (vehicle.disguised height known registered).enabled = false := enabled
          simp only [act, setType, enabled, still]
          exact ⟨height, known, registered, rfl⟩
  | setFloat param value => exact ⟨rfl, height, known, registered, by cases param <;> rfl⟩
  | setVector param value => exact ⟨rfl, height, known, registered, by cases param <;> rfl⟩
  | setRotation param value => exact ⟨rfl, height, known, registered, by cases param <;> rfl⟩
  | setFlags mask remove => exact ⟨rfl, height, known, registered, rfl⟩
  | configure body =>
      have sameActive : (vehicle.disguised height known registered).isActive body = vehicle.isActive body := rfl
      simp only [act, configure, sameActive]
      split
      · exact ⟨rfl, height, known, registered, rfl⟩
      · split <;> exact ⟨rfl, height, known, registered, rfl⟩
  | step body landscape dt =>
      obtain ⟨traffic, after⟩ := vehicle.step_disguised height known registered body landscape dt
      exact ⟨congrArg Traffic.writes traffic, after⟩

theorem told_alike (vehicle other : Vehicle α) (alike : Alike vehicle other) (actions : List (VehicleAction α)) :
    vehicle.told actions = other.told actions := by
  induction actions generalizing vehicle other with
  | nil => rfl
  | cons action rest ih =>
      obtain ⟨same, after⟩ := act_alike vehicle other alike action
      rw [told, told, same, ih _ _ after]

end Vehicle

namespace VehicleAction

def lasting : VehicleAction α → Bool
  | .setFloat param _ => param == .linearMotorOffset
  | .setVector param _ => param == .linearMotorOffset || param == .blockExit
  | .setRotation param _ => param == .rollFrame
  | _ => false

def blocks : VehicleAction α → Bool
  | .setVector param _ => param == .blockExit
  | _ => false

end VehicleAction

namespace Vehicle

structure Plain (id : ObjectId) (tuning : Tuning α) (vehicle : Vehicle α) : Prop where
  sameId : vehicle.id = id
  sameTuning : vehicle.tuning = tuning
  enabled : vehicle.enabled = true
  linearMotorOffset : vehicle.params.linearMotorOffset = 0
  blockExit : vehicle.params.blockExit = 0
  rollFrame : vehicle.params.rollFrame = none
  cutoff : vehicle.params.verticalAttractionCutoff = tuning.verticalAttractionCutoff

variable {id : ObjectId} {tuning : Tuning α}

theorem act_plain (vehicle : Vehicle α) (action : VehicleAction α) (plain : Plain id tuning vehicle)
    (passing : action.lasting = false) : Plain id tuning (vehicle.act action).1 := by
  cases action with
  | setType kind schedule =>
      simp only [act, set_type_vehicle vehicle kind schedule plain.enabled]
      exact { plain with }
  | setFloat param value =>
      cases param with
      | linearMotorOffset => cases passing
      | _ => exact { plain with }
  | setVector param value =>
      cases param with
      | linearMotorOffset => cases passing
      | blockExit => cases passing
      | _ => exact { plain with }
  | setRotation param value =>
      cases param with
      | rollFrame => cases passing
      | _ => exact { plain with }
  | setFlags mask remove => exact { plain with }
  | configure body =>
      obtain ⟨mass, gravity, pull, configured⟩ := vehicle.configure_vehicle body
      simp only [act, configured]
      exact { plain with }
  | step body landscape dt =>
      obtain ⟨linear, angular, target, known, last, stepped⟩ := vehicle.step_vehicle body landscape dt
      change Plain id tuning (vehicle.step body landscape dt).1
      rw [stepped]
      exact { plain with }

theorem run_plain (vehicle : Vehicle α) (actions : List (VehicleAction α)) (plain : Plain id tuning vehicle)
    (passing : ∀ action ∈ actions, action.lasting = false) : Plain id tuning (vehicle.run actions) := by
  induction actions generalizing vehicle with
  | nil => exact plain
  | cons action rest ih =>
      rw [List.forall_mem_cons] at passing
      exact ih (vehicle.act action).1 (act_plain vehicle action plain passing.1) passing.2

def restart (first second : Schedule) (kind : Kind) (body : BodyView α) : List (VehicleAction α) :=
  [.setType .none first, .setType kind second, .configure body]

def start (schedule : Schedule) (kind : Kind) (body : BodyView α) : List (VehicleAction α) :=
  [.setType kind schedule, .configure body]

def started (vehicle : Vehicle α) (kind : Kind) (body : BodyView α) : Vehicle α :=
  { vehicle with
    params := vehicle.params.applyPreset kind
    mass := body.mass
    gravity := body.gravity
    vehicleGravity := (vehicle.params.applyPreset kind).vehicleGravity body.gravity
    registered := kind != .none }

theorem run_start (vehicle : Vehicle α) (schedule : Schedule) (kind : Kind) (body : BodyView α)
    (enabled : vehicle.enabled = true) (driven : kind ≠ .none) (physical : body.physicallyActive = true) :
    vehicle.run (start schedule kind body) = vehicle.started kind body := by
  have typed := set_type_vehicle vehicle kind schedule enabled
  have active : isActive { vehicle with params := vehicle.params.applyPreset kind, registered := kind != .none }
      body = true := by
    simp [isActive, Vehicle.kind, Params.applyPreset, enabled, driven, physical]
  change ((vehicle.setType kind schedule).1.configure body).1 = _
  rw [typed, configure, if_pos active]
  rfl

theorem apply_none_flags (flags : Flags) : (Preset.none : Preset α).applyFlags flags = .empty := by
  have cleared : Flags.ofList (Preset.none : Preset α).cleared = ⟨BitVec.allOnes 16⟩ := by
    change Flags.ofList Flag.all = _
    decide
  have raised : Flags.ofList (Preset.none : Preset α).raised = .empty := rfl
  rw [Preset.applyFlags, cleared, raised]
  simp [Flags.remove, Flags.add, Flags.empty]

theorem apply_preset_twice (params : Params α) (kind : Kind) :
    (params.applyPreset .none).applyPreset kind = { params with flags := .empty }.applyPreset kind := by
  have cleared : (params.applyPreset .none).flags = .empty := apply_none_flags params.flags
  simp only [Params.applyPreset] at cleared ⊢
  rw [cleared]

theorem restart_params (vehicle : Vehicle α) (kind : Kind) (plain : Plain id tuning vehicle) :
    (vehicle.params.applyPreset .none).applyPreset kind =
      ((create id tuning).params.applyPreset kind).aimed vehicle.params.hoverTargetHeight := by
  rw [apply_preset_twice]
  simp only [Params.applyPreset, Params.aimed, create, Params.initial, plain.linearMotorOffset, plain.blockExit,
    plain.rollFrame, plain.cutoff]

def displaced (vehicle : Vehicle α) (last : Option (Vec3 α)) : Vehicle α := { vehicle with lastPosition := last }

theorem restarted_alike (vehicle : Vehicle α) (first second third : Schedule) (kind : Kind) (body : BodyView α)
    (plain : Plain id tuning vehicle) (driven : kind ≠ .none) (physical : body.physicallyActive = true) :
    Alike (((create id tuning).run (start third kind body)).displaced vehicle.lastPosition)
      (vehicle.run (restart first second kind body)) := by
  have parked := set_type_vehicle vehicle .none first plain.enabled
  have again := run_start (vehicle.setType .none first).1 second kind body (by rw [parked]; exact plain.enabled) driven
    physical
  change Alike _ ((vehicle.setType .none first).1.run (start second kind body))
  rw [again, parked, run_start _ third kind body rfl driven physical]
  refine ⟨vehicle.params.hoverTargetHeight, vehicle.known, kind != .none, ?_⟩
  simp only [started, restart_params vehicle kind plain, plain.sameId, plain.sameTuning, plain.enabled]
  rfl

theorem displaced_act (vehicle : Vehicle α) (last : Option (Vec3 α)) (action : VehicleAction α)
    (unblocked : (vehicle.params.blockExit == 0) = true) (clear : action.blocks = false) :
    ((vehicle.displaced last).act action).2 = (vehicle.act action).2 ∧
      ((vehicle.act action).1.params.blockExit == 0) = true ∧
      (((vehicle.displaced last).act action).1 = (vehicle.act action).1 ∨
        (vehicle.act action).1.lastPosition = vehicle.lastPosition ∧
          ((vehicle.displaced last).act action).1 = (vehicle.act action).1.displaced last) := by
  cases action with
  | setType kind schedule =>
      refine ⟨rfl, ?_⟩
      cases enabled : vehicle.enabled with
      | true =>
          have still : (vehicle.displaced last).enabled = true := enabled
          simp only [act, set_type_vehicle _ kind schedule enabled, set_type_vehicle _ kind schedule still]
          exact ⟨unblocked, Or.inr ⟨trivial, rfl⟩⟩
      | false =>
          have still : (vehicle.displaced last).enabled = false := enabled
          simp only [act, setType, enabled, still]
          exact ⟨unblocked, Or.inr ⟨rfl, rfl⟩⟩
  | setFloat param value =>
      refine ⟨rfl, ?_, Or.inr ⟨rfl, rfl⟩⟩
      cases param <;> exact unblocked
  | setVector param value =>
      refine ⟨rfl, ?_, Or.inr ⟨rfl, rfl⟩⟩
      cases param with
      | blockExit => cases clear
      | _ => exact unblocked
  | setRotation param value =>
      refine ⟨rfl, ?_, Or.inr ⟨rfl, rfl⟩⟩
      cases param <;> exact unblocked
  | setFlags mask remove => exact ⟨rfl, unblocked, Or.inr ⟨rfl, rfl⟩⟩
  | configure body =>
      have sameActive : (vehicle.displaced last).isActive body = vehicle.isActive body := rfl
      simp only [act, configure, sameActive]
      split
      · exact ⟨rfl, unblocked, Or.inr ⟨rfl, rfl⟩⟩
      · split <;> exact ⟨rfl, unblocked, Or.inr ⟨rfl, rfl⟩⟩
  | step body landscape dt =>
      have sameActive : (vehicle.displaced last).isActive body = vehicle.isActive body := rfl
      obtain ⟨linear, angular, target, known, after, stepped⟩ := vehicle.step_vehicle body landscape dt
      have free : ((vehicle.step body landscape dt).1.params.blockExit == 0) = true := by
        rw [stepped]
        exact unblocked
      cases active : vehicle.isActive body with
      | false =>
          simp only [act, step, sameActive, active]
          exact ⟨rfl, unblocked, Or.inr ⟨rfl, rfl⟩⟩
      | true =>
          have input : (vehicle.displaced last).stepInput dt = (vehicle.stepInput dt).movedFrom last := rfl
          have params : (vehicle.displaced last).params = vehicle.params := rfl
          have same : (vehicle.displaced last).step body landscape dt = vehicle.step body landscape dt := by
            simp only [step, sameActive, active, if_true, input, params, move_unblocked _ _ _ last unblocked]
            rfl
          simp only [act, same]
          exact ⟨trivial, free, Or.inl trivial⟩

theorem displaced_told (vehicle : Vehicle α) (last : Option (Vec3 α)) (early late : List (VehicleAction α))
    (unblocked : (vehicle.params.blockExit == 0) = true) (unmoved : vehicle.lastPosition = none)
    (clear : ∀ action ∈ early, action.blocks = false)
    (seen : late = [] ∨ (vehicle.run early).lastPosition.isSome = true) :
    (vehicle.displaced last).told (early ++ late) = vehicle.told (early ++ late) := by
  induction early generalizing vehicle with
  | nil =>
      rcases seen with rfl | placed
      · rfl
      · change vehicle.lastPosition.isSome = true at placed
        rw [unmoved] at placed
        cases placed
  | cons action rest ih =>
      rw [List.forall_mem_cons] at clear
      obtain ⟨same, free, after⟩ := displaced_act vehicle last action unblocked clear.1
      rw [List.cons_append, told, told, same]
      rcases after with equal | ⟨kept, displaced⟩
      · rw [equal]
      · rw [displaced, ih (vehicle.act action).1 free (kept.trans unmoved) clear.2 seen]

end Vehicle

open Vehicle

/-- A vehicle that was parked and given a type again does what a new one does, as far as block exits set before its
first step leave it the choice. -/
theorem restarted_like_new (id : ObjectId) (tuning : Tuning Float32) (history : List (VehicleAction Float32))
    (first second third : Schedule) (kind : Kind) (body : BodyView Float32)
    (passing : ∀ action ∈ history, action.lasting = false) (driven : kind ≠ .none)
    (physical : body.physicallyActive = true) :
    let old := (create id tuning).run history
    let again := old.run (restart first second kind body)
    let fresh := (create id tuning).run (start third kind body)
    (∀ continuation, again.told continuation = (fresh.displaced old.lastPosition).told continuation) ∧
      ∀ early late, (∀ action ∈ early, action.blocks = false) →
        late = [] ∨ (fresh.run early).lastPosition.isSome = true →
          again.told (early ++ late) = fresh.told (early ++ late) := by
  have initial : Plain id tuning (create id tuning) := ⟨rfl, rfl, rfl, rfl, rfl, rfl, rfl⟩
  have plain := run_plain (create id tuning) history initial passing
  have alike := restarted_alike ((create id tuning).run history) first second third kind body plain driven physical
  have told := told_alike _ _ alike
  refine ⟨fun continuation => (told continuation).symm, ?_⟩
  intro early late clear seen
  rw [← told]
  have started := run_start (create id tuning) third kind body rfl driven physical
  apply displaced_told _ _ early late _ _ clear seen
  · rw [started]
    change ((0 : Vec3 Float32) == 0) = true
    decide
  · rw [started]
    rfl

def stillAt (x : Float32) : BodyView Float32 where
  position := ⟨x, 5, 20⟩
  orientation := .identity
  velocity := 0
  rotationalVelocity := 0
  mass := 10
  gravity := ⟨0, 0, -9.8⟩
  colliding := false
  physical := true
  enabled := true

def flatLand : Landscape Float32 := ⟨fun _ _ => 0, fun _ _ => 0⟩

def sledRide : List (VehicleAction Float32) :=
  [.setType .sled .empty, .configure (stillAt 5), .step (stillAt 5) flatLand 0.1]

def boxedIn : List (VehicleAction Float32) :=
  [.setVector .blockExit ⟨10, 100, 100⟩, .step (stillAt 9.5) flatLand 0.1]

theorem restarted_balloon_like_new :
    let old := (create 11 Tuning.initial).run sledRide
    let again := old.run (restart .empty .empty .balloon (stillAt 5))
    let fresh := (create 11 Tuning.initial).run (start .empty .balloon (stillAt 5))
    again.told ([.step (stillAt 6) flatLand 0.1] ++ boxedIn) = fresh.told ([.step (stillAt 6) flatLand 0.1] ++ boxedIn) :=
  (restarted_like_new 11 Tuning.initial sledRide .empty .empty .empty .balloon (stillAt 5) (by decide) (by decide)
    (by decide)).2 [.step (stillAt 6) flatLand 0.1] boxedIn (by decide) (Or.inr (by decide +kernel))

def BodyWrite.position? : BodyWrite Float32 → Option (Vec3 Float32)
  | .position value => some value
  | _ => none

-- The box is left by half a unit, and the balloon is put back by all the way from where the sled was.
theorem boxed_balloon_unlike_new :
    let old := (create 11 Tuning.initial).run sledRide
    let again := old.run (restart .empty .empty .balloon (stillAt 5))
    let fresh := (create 11 Tuning.initial).run (start .empty .balloon (stillAt 5))
    (∀ action ∈ sledRide, action.lasting = false) ∧ (stillAt 5).physicallyActive = true ∧
      (again.told boxedIn).flatten.filterMap BodyWrite.position? = [⟨4, 5, 20⟩] ∧
      (fresh.told boxedIn).flatten.filterMap BodyWrite.position? = [⟨8.5, 5, 20⟩] ∧
      again.told boxedIn ≠ fresh.told boxedIn := by
  intro old again fresh
  have far : (again.told boxedIn).flatten.filterMap BodyWrite.position? = [⟨4, 5, 20⟩] := by decide +kernel
  have near : (fresh.told boxedIn).flatten.filterMap BodyWrite.position? = [⟨8.5, 5, 20⟩] := by decide +kernel
  refine ⟨by decide, by decide, far, near, ?_⟩
  intro same
  rw [same, near] at far
  exact absurd far (by decide)

end VehicleSim
