import VehicleSim.Proofs.Body.Mirror
import VehicleSim.Proofs.Drive.Script

/-!
What passes between a vehicle and its body in one step. The script of the step tells it for every branch that the
stages can take.
-/

set_option autoImplicit false

namespace VehicleSim

namespace Use

def asks (field : StateField) : Use → Bool
  | .read other => other == field
  | .height _ => field == .position
  | _ => false

def touches (field : StateField) (use : Use) : Bool := use.asks field || use == .set field

def looksUp : Use → Bool
  | .height _ => true
  | _ => false

end Use

variable {α : Type}

namespace Access

theorem asks_use (field : StateField) (access : Access α) : access.asks field = access.use?.any (Use.asks field) := by
  cases access <;> rfl

theorem sets_use (field : StateField) (access : Access α) :
    (access.sets? field).isSome = (access.use? == some (.set field)) := by
  cases access with
  | set other value => by_cases here : other = field <;> simp [sets?, use?, here]
  | _ => rfl

theorem adds_use (field : SumField) (access : Access α) :
    (access.adds? field).isSome = (access.use? == some (.add field)) := by
  cases access with
  | add other term => by_cases here : other = field <;> simp [adds?, use?, here]
  | _ => rfl

theorem touches_use (field : StateField) (access : Access α) :
    access.touches field = access.use?.any (Use.touches field) := by
  rw [touches, asks_use, sets_use]
  cases access <;> rfl

end Access

open Access

namespace Follows

variable {script : Script} {accesses : List (Access α)}

theorem is_flush_false (follows : Follows script accesses) (access : Access α) (member : access ∈ accesses) :
    access.isFlush = false := by
  obtain ⟨cue, -, same⟩ := follows.exists_cue_of_mem access member
  cases access with
  | flush => cases same
  | _ => rfl

theorem since_flush (follows : Follows script accesses) : sinceFlush accesses = accesses := by
  rw [sinceFlush, List.rtakeWhile_eq_self_iff]
  intro access member
  rw [follows.is_flush_false access member]
  rfl

theorem last_set_some (follows : Follows script accesses) (field : StateField) (cue : Cue.always (.set field) ∈ script) :
    (lastSet field accesses).isSome := by
  obtain ⟨access, member, same⟩ := follows.exists_access_of_always (.set field) cue
  exact (last_set_some_iff field accesses).mpr ⟨access, member, by simp [sets_use, same]⟩

theorem fetches_eq_one (follows : Follows script accesses) (field : StateField) (use : Use)
    (found : script.find? (·.use.touches field) = some (.always use)) (asks : use.asks field = true) :
    fetches field accesses = 1 := by
  obtain ⟨access, first, same⟩ := follows.find_always (Use.touches field) use found
  have touching : touches field = fun access : Access α => access.use?.any (Use.touches field) :=
    funext (touches_use field)
  rw [fetches, touching, first, Option.any_some, asks_use, same, Option.any_some, asks]
  rfl

variable [Scalar α]

theorem total_some (follows : Follows script accesses) (field : SumField) (cue : Cue.always (.add field) ∈ script) :
    (total field accesses).isSome := by
  obtain ⟨access, member, same⟩ := follows.exists_access_of_always (.add field) cue
  exact (total_some_iff field accesses).mpr ⟨access, member, by simp [adds_use, same]⟩

theorem total_none (follows : Follows script accesses) (field : SumField)
    (missing : ∀ cue ∈ script, cue.use ≠ .add field) : total field accesses = none := by
  rw [← Option.not_isSome_iff_eq_none, total_some_iff]
  rintro ⟨access, member, added⟩
  obtain ⟨cue, listed, same⟩ := follows.exists_cue_of_mem access member
  rw [adds_use, same, beq_iff_eq, Option.some.injEq] at added
  exact missing cue listed added

end Follows

variable [Scalar α]

namespace Rig

omit [Scalar α] in
theorem lookups_read (rig : Rig α) (field : StateField) :
    (rig.read field).2.traffic.lookups = rig.traffic.lookups := by
  rw [traffic_read]
  split <;> rfl

theorem lookups_height (rig : Rig α) (surface : Surface) :
    (rig.heightOf surface).2.traffic.lookups.length ≤ rig.traffic.lookups.length + 1 := by
  have looked : rig.position.2.traffic.lookups.length = rig.traffic.lookups.length :=
    congrArg List.length (rig.lookups_read .position)
  cases surface with
  | ground =>
      simp only [heightOf, groundHeight]
      split
      · exact Nat.le_succ_of_le (Nat.le_of_eq looked)
      · rw [Traffic.addLookup, List.length_append, looked]
        exact Nat.le_refl _
  | water =>
      simp only [heightOf, waterLevel]
      split
      · exact Nat.le_succ_of_le (Nat.le_of_eq looked)
      · rw [Traffic.addLookup, List.length_append, looked]
        exact Nat.le_refl _

theorem lookups_access (rig : Rig α) (access : Access α) :
    (rig.access access).traffic.lookups.length ≤
      rig.traffic.lookups.length + if access.use?.any Use.looksUp then 1 else 0 := by
  cases access with
  | read field => exact Nat.le_of_eq (congrArg List.length (rig.lookups_read field))
  | set field value => exact Nat.le_of_eq (congrArg (·.lookups.length) (rig.traffic_set field value))
  | add field term => exact Nat.le_of_eq (congrArg (·.lookups.length) (rig.traffic_add field term))
  | height surface => exact rig.lookups_height surface
  | flush =>
      cases changed : rig.cache.hasChanges with
      | true => exact Nat.le_of_eq (congrArg (·.2.traffic.lookups.length) (rig.flush_changed changed))
      | false => exact Nat.le_of_eq (congrArg (·.2.traffic.lookups.length) (rig.flush_unchanged changed))

theorem lookups_run (rig : Rig α) (accesses : List (Access α)) :
    (rig.run accesses).traffic.lookups.length ≤
      rig.traffic.lookups.length + accesses.countP (·.use?.any Use.looksUp) := by
  induction accesses generalizing rig with
  | nil => exact Nat.le_refl _
  | cons access rest ih =>
      rw [List.countP_cons]
      have here := rig.lookups_access access
      have later := ih (rig.access access)
      change ((rig.access access).run rest).traffic.lookups.length ≤ _
      omega

theorem writes_run (rig : Rig α) (accesses : List (Access α)) (quiet : ∀ access ∈ accesses, access.isFlush = false) :
    (rig.run accesses).traffic.writes = rig.traffic.writes := by
  induction accesses generalizing rig with
  | nil => rfl
  | cons access rest ih =>
      rw [List.forall_mem_cons] at quiet
      exact (ih (rig.access access) quiet.2).trans (writes_unflushed rig access quiet.1)

end Rig

namespace Vehicle

theorem step_performs (vehicle : Vehicle α) (body : BodyView α) (landscape : Landscape α) (dt : α)
    (active : vehicle.isActive body = true) :
    ∃ accesses, Follows (Script.step (vehicle.params.linearMotorOffset != 0)) accesses ∧
      let last := (Rig.bind vehicle.known body landscape).forget.run accesses
      (vehicle.step body landscape dt).2 = last.flush.2 ∧
        (vehicle.step body landscape dt).1.known = last.flush.2.cache ∧
        (vehicle.step body landscape dt).1.lastPosition = some (last.read .position).1 := by
  let input := vehicle.stepInput dt
  let rig := (Rig.bind vehicle.known body landscape).forget
  have moved := Vehicle.move_performs rig input vehicle.params
  have placed : Performs (move input vehicle.params rig).2 [.always (.read .position)] _ :=
    .cons_read .position .nil
  obtain ⟨accesses, follows, run⟩ := moved.append placed
  refine ⟨accesses, follows, ?_⟩
  rw [run]
  simp only [step, active, if_true]
  exact ⟨rfl, rfl, congrArg some (Known.read_fetch _ _ _).symm⟩

def stepWrites (position : Option (Vec3 α)) (orientation : Option (Quat α)) (velocity force spin : Vec3 α)
    (torque : Option (Vec3 α)) : List (BodyWrite α) :=
  (position.map .position).toList ++ (orientation.map .orientation).toList ++
    [.velocity velocity, .force force, .rotationalVelocity spin] ++ (torque.map .angularForce).toList ++ [.pushUpdate]

omit [Scalar α] in
theorem script_fetches (offset : Bool) (accesses : List (Access α)) (follows : Follows (Script.step offset) accesses)
    (field : StateField) : fetches field accesses = 1 := by
  cases field with
  | position => exact follows.fetches_eq_one .position (.height .ground) rfl rfl
  | orientation => exact follows.fetches_eq_one .orientation (.read .orientation) rfl rfl
  | velocity => exact follows.fetches_eq_one .velocity (.read .velocity) rfl rfl
  | rotationalVelocity => exact follows.fetches_eq_one .rotationalVelocity (.read .rotationalVelocity) rfl rfl

theorem script_writes (offset : Bool) (accesses : List (Access α)) (follows : Follows (Script.step offset) accesses) :
    ∃ position orientation velocity force spin torque,
      Access.writes accesses ++ [.pushUpdate] = stepWrites position orientation velocity force spin torque ∧
        torque.isSome = offset := by
  obtain ⟨velocity, moved⟩ := Option.isSome_iff_exists.mp (follows.last_set_some .velocity (by cases offset <;> decide))
  obtain ⟨spin, turned⟩ :=
    Option.isSome_iff_exists.mp (follows.last_set_some .rotationalVelocity (by cases offset <;> decide))
  obtain ⟨force, pulled⟩ := Option.isSome_iff_exists.mp (follows.total_some .force (by cases offset <;> decide))
  have impulse := follows.total_none .impulse (by cases offset <;> decide)
  have twist := follows.total_none .rotationalImpulse (by cases offset <;> decide)
  refine ⟨lastSet .position accesses, lastSet .orientation accesses, velocity, force, spin,
    total .rotationalForce accesses, ?_, ?_⟩
  · rw [Access.writes, moved, turned, pulled, impulse, twist]
    cases lastSet .position accesses <;> cases lastSet .orientation accesses <;>
      cases total .rotationalForce accesses <;> rfl
  · cases offset with
    | true => exact follows.total_some .rotationalForce (by decide)
    | false => rw [follows.total_none .rotationalForce (by decide), Option.isSome_none]

omit [Scalar α] in
theorem script_lookups (offset : Bool) (accesses : List (Access α)) (follows : Follows (Script.step offset) accesses) :
    accesses.countP (·.use?.any Use.looksUp) ≤ 3 := by
  have counted := follows.count_le Use.looksUp
  cases offset <;> exact counted

theorem script_changes (offset : Bool) (accesses : List (Access α)) (follows : Follows (Script.step offset) accesses) :
    accesses.any changes = true :=
  (any_changes_iff accesses).mpr (Or.inl ⟨.velocity, follows.last_set_some .velocity (by cases offset <;> decide)⟩)

theorem script_run_changed (rig : Rig α) (offset : Bool) (accesses : List (Access α))
    (follows : Follows (Script.step offset) accesses) : (rig.forget.run accesses).cache.hasChanges = true := by
  rw [(mirrors_run rig accesses).changed, follows.since_flush, script_changes offset accesses follows]

theorem script_flushed (rig : Rig α) (offset : Bool) (accesses : List (Access α))
    (follows : Follows (Script.step offset) accesses) :
    (rig.forget.run accesses).flush.2.traffic.writes =
      rig.forget.traffic.writes ++ (Access.writes accesses ++ [.pushUpdate]) := by
  rw [(flush_result (mirrors_run rig accesses)).2.1, follows.since_flush, script_changes offset accesses follows,
    if_pos rfl, rig.forget.writes_run accesses follows.is_flush_false]

theorem step_writes (vehicle : Vehicle α) (body : BodyView α) (landscape : Landscape α) (dt : α) :
    (vehicle.step body landscape dt).2.traffic.writes = [] ∨
      ∃ cache : Cache α, (vehicle.step body landscape dt).2.traffic.writes = cache.changes ++ [.pushUpdate] := by
  cases active : vehicle.isActive body with
  | false =>
      left
      simp only [step, active]
      rfl
  | true =>
      right
      obtain ⟨accesses, follows, flushed, -, -⟩ := vehicle.step_performs body landscape dt active
      have changed := script_run_changed (Rig.bind vehicle.known body landscape) _ accesses follows
      refine ⟨((Rig.bind vehicle.known body landscape).forget.run accesses).cache, ?_⟩
      rw [flushed, Rig.flush_changed _ changed]
      change _ ++ _ = _
      rw [Rig.writes_run _ accesses follows.is_flush_false]
      rfl

theorem active_step_writes (vehicle : Vehicle α) (body : BodyView α) (landscape : Landscape α) (dt : α)
    (active : vehicle.isActive body = true) :
    ∃ position orientation velocity force spin torque,
      (vehicle.step body landscape dt).2.traffic.writes = stepWrites position orientation velocity force spin torque ∧
        torque.isSome = (vehicle.params.linearMotorOffset != 0) := by
  obtain ⟨accesses, follows, flushed, -, -⟩ := vehicle.step_performs body landscape dt active
  obtain ⟨position, orientation, velocity, force, spin, torque, written, offset⟩ := script_writes _ accesses follows
  refine ⟨position, orientation, velocity, force, spin, torque, ?_, offset⟩
  rw [flushed, script_flushed _ _ accesses follows, written]
  rfl

/-- An active step asks the body for each part of its state once, looks up at most three heights, and then writes
in one fixed order; a vehicle that is not active leaves its body and itself alone. -/
theorem step_traffic (vehicle : Vehicle α) (body : BodyView α) (landscape : Landscape α) (dt : α) :
    let (after, rig) := vehicle.step body landscape dt
    if vehicle.isActive body then
      (∃ accesses, (∀ access ∈ accesses, access.isFlush = false) ∧
        let before := (Rig.bind vehicle.known body landscape).forget.run accesses
        before.traffic = { rig.traffic with writes := [] } ∧ before.flush.2 = rig) ∧
        (∀ field, rig.traffic.reads.count field = 1) ∧
        rig.traffic.lookups.length ≤ 3 ∧
        (∃ position orientation velocity force spin torque,
          rig.traffic.writes = stepWrites position orientation velocity force spin torque ∧
            torque.isSome = (vehicle.params.linearMotorOffset != 0)) ∧
        after.known.hasChanges = false ∧
        after.lastPosition = some rig.body.position
    else after = vehicle ∧ rig.traffic = .none ∧ rig.body = body := by
  cases active : vehicle.isActive body with
  | false =>
      simp only [step, active]
      exact ⟨rfl, rfl, rfl⟩
  | true =>
      obtain ⟨accesses, follows, flushed, known, last⟩ := vehicle.step_performs body landscape dt active
      have mirrors := mirrors_run (Rig.bind vehicle.known body landscape) accesses
      have changed := script_run_changed (Rig.bind vehicle.known body landscape) _ accesses follows
      have unwritten := (Rig.bind vehicle.known body landscape).forget.writes_run accesses follows.is_flush_false
      have lookups := (Rig.bind vehicle.known body landscape).forget.lookups_run accesses
      have writes := vehicle.active_step_writes body landscape dt active
      generalize vehicle.step body landscape dt = stepped at flushed known last writes ⊢
      obtain ⟨after, rig⟩ := stepped
      generalize before_eq : (Rig.bind vehicle.known body landscape).forget.run accesses = before at *
      rw [before.flush_changed changed] at flushed known
      subst flushed
      refine ⟨⟨accesses, follows.is_flush_false, ?_, ?_⟩, ?_, ?_, writes, ?_, ?_⟩
      · rw [before_eq]
        change before.traffic = ⟨before.traffic.reads, before.traffic.lookups, []⟩
        rw [← show before.traffic.writes = [] from unwritten]
      · rw [before_eq, before.flush_changed changed]
      · intro field
        rw [← script_fetches _ accesses follows field]
        exact (mirrors.reads field).trans (Nat.zero_add _)
      · have few := script_lookups _ accesses follows
        exact Nat.le_trans lookups ((Nat.zero_add _).symm ▸ few)
      · rw [known]
        exact before.cache.has_changes_settle
      · rw [last]
        exact congrArg some (mirrors.first_flush follows.since_flush .position).symm

end Vehicle

end VehicleSim
