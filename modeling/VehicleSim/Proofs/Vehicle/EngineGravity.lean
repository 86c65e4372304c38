import VehicleSim.Number.Binary32
import VehicleSim.Proofs.Body.Survey
import VehicleSim.Proofs.Vehicle.Conduct
import VehicleSim.Proofs.Vehicle.Traffic

/-!
Who pulls the body of a vehicle down: the engine, or the vehicle itself. A refresh settles it by what it finds, a body
that takes part in the simulation or one that does not, and nothing settles it again until the next change of type. A
body that comes to life after the refresh is pulled by both.
-/

set_option autoImplicit false

namespace VehicleSim

-- A vehicle on its body, and the schedule that keeps its refreshes.
structure Mount (α : Type) where
  vehicle : Vehicle α
  schedule : Schedule
  body : BodyView α
  pulled : Bool

inductive MountAction (α : Type) where
  | setType (kind : Kind)
  | setFloat (param : Param) (value : α)
  | setVector (param : Param) (value : Vec3 α)
  | setRotation (param : Param) (value : Quat α)
  | setFlags (mask : Int) (remove : Bool)
  -- Whatever else happens to the body; its mass and its gravity are what they are.
  | place (body : BodyView α)
  | tick (landscape : Landscape α) (dt : α)

def BodyWrite.pulls {α : Type} (pulled : Bool) : BodyWrite α → Bool
  | .engineGravity on => on
  | _ => pulled

namespace Mount

variable {α : Type}

def hear (mount : Mount α) (writes : List (BodyWrite α)) : Mount α :=
  { mount with
    body := writes.foldl BodyView.store mount.body
    pulled := writes.foldl BodyWrite.pulls mount.pulled }

def due (mount : Mount α) : Bool := mount.schedule.deferred.contains (mount.vehicle.id, .refreshVehicle)

def found (mount : Mount α) : MountAction α → List (Mount α)
  | .tick _ _ => if mount.due then [mount] else []
  | _ => []

def active (mount : Mount α) : Bool := mount.vehicle.isActive mount.body

def Weighed (mount : Mount α) : Prop :=
  mount.vehicle.mass = mount.body.mass ∧ mount.vehicle.gravity = mount.body.gravity

-- The vehicle pulls the body down in the engine's place, and by the weight that the body has.
structure Carries (mount : Mount α) : Prop where
  released : mount.pulled = false
  weighed : mount.Weighed

theorem store_weight (body : BodyView α) (writes : List (BodyWrite α)) :
    (writes.foldl BodyView.store body).mass = body.mass ∧ (writes.foldl BodyView.store body).gravity = body.gravity := by
  induction writes generalizing body with
  | nil => exact ⟨rfl, rfl⟩
  | cons write rest ih =>
      have kept : (body.store write).mass = body.mass ∧ (body.store write).gravity = body.gravity := by
        cases write <;> exact ⟨rfl, rfl⟩
      obtain ⟨mass, gravity⟩ := ih (body.store write)
      exact ⟨mass.trans kept.1, gravity.trans kept.2⟩

theorem weighed_hear (mount : Mount α) (writes : List (BodyWrite α)) : (mount.hear writes).Weighed ↔ mount.Weighed := by
  obtain ⟨mass, gravity⟩ := store_weight mount.body writes
  rw [Weighed, Weighed, hear, mass, gravity]

def pullsAfter (pulled : Bool) (seen : Mount α) : Bool :=
  if seen.active then false else if seen.body.physical then true else pulled

-- Some refresh found the vehicle active, and none after it found a body in the engine at all.
def TookEffect (seen : List (Mount α)) : Prop :=
  ∃ earlier effective later, seen = earlier ++ effective :: later ∧ effective.active = true ∧
    ∀ missed ∈ later, missed.body.physical = false

theorem took_effect_concat (seen : List (Mount α)) (last : Mount α) :
    TookEffect (seen ++ [last]) ↔ last.active = true ∨ last.body.physical = false ∧ TookEffect seen := by
  constructor
  · rintro ⟨earlier, effective, later, split, active, missed⟩
    rcases List.eq_nil_or_concat later with rfl | ⟨front, final, rfl⟩
    · obtain ⟨-, same⟩ := List.append_inj' split rfl
      cases same
      exact Or.inl active
    · rw [List.concat_eq_append] at split missed
      rw [← List.cons_append, ← List.append_assoc] at split
      obtain ⟨same, final⟩ := List.append_inj' split rfl
      cases final
      refine Or.inr ⟨missed last (by simp), earlier, effective, front, same, active, fun mount member => ?_⟩
      exact missed mount (List.mem_append_left _ member)
  · rintro (active | ⟨absent, earlier, effective, later, rfl, active, missed⟩)
    · exact ⟨seen, last, [], rfl, active, fun _ none => absurd none List.not_mem_nil⟩
    · refine ⟨earlier, effective, later ++ [last], by simp, active, fun mount member => ?_⟩
      rcases List.mem_append.mp member with old | new
      · exact missed mount old
      · rw [List.mem_singleton.mp new]
        exact absent

theorem took_effect_iff (seen : List (Mount α)) : seen.foldl pullsAfter true = false ↔ TookEffect seen := by
  induction seen using List.reverseRecOn with
  | nil =>
      refine iff_of_false (by simp) ?_
      rintro ⟨earlier, effective, later, split, -⟩
      simp at split
  | append_singleton seen last ih =>
      rw [List.foldl_concat, took_effect_concat, ← ih, pullsAfter]
      cases last.active <;> cases last.body.physical <;> simp

structure Heeded (mount : Mount α) (seen : List (Mount α)) : Prop where
  enabled : mount.vehicle.enabled = true
  last : mount.due = true ∨ mount.vehicle.kind = .none ∨
    ∃ earlier last, seen = earlier ++ [last] ∧ last.vehicle.enabled = true ∧ last.vehicle.kind = mount.vehicle.kind

theorem heeded_same (mount after : Mount α) (seen : List (Mount α)) (heeded : mount.Heeded seen)
    (enabled : after.vehicle.enabled = mount.vehicle.enabled) (kind : after.vehicle.kind = mount.vehicle.kind)
    (due : after.due = mount.due) : after.Heeded seen where
  enabled := enabled.trans heeded.enabled
  last := by
    rw [due, kind]
    exact heeded.last

variable [Scalar α]

def start (id : ObjectId) (tuning : Tuning α) (schedule : Schedule) (body : BodyView α) : Mount α :=
  ⟨.create id tuning, schedule, body, true⟩

def refresh (mount : Mount α) : Mount α :=
  let taken := { mount with schedule := mount.schedule.takeDeferred.2 }
  if mount.due then
    let (vehicle, writes) := mount.vehicle.configure mount.body
    { taken with vehicle }.hear writes
  else taken

def step (mount : Mount α) (landscape : Landscape α) (dt : α) : Mount α :=
  let (vehicle, rig) := mount.vehicle.step mount.body landscape dt
  { mount with vehicle }.hear rig.traffic.writes

def act (mount : Mount α) : MountAction α → Mount α
  | .setType kind =>
      let (vehicle, schedule) := mount.vehicle.setType kind mount.schedule
      { mount with vehicle, schedule }
  | .setFloat param value => { mount with vehicle := mount.vehicle.setFloat param value }
  | .setVector param value => { mount with vehicle := mount.vehicle.setVector param value }
  | .setRotation param value => { mount with vehicle := mount.vehicle.setRotation param value }
  | .setFlags mask remove => { mount with vehicle := mount.vehicle.setFlags mask remove }
  | .place body => { mount with body := { body with mass := mount.body.mass, gravity := mount.body.gravity } }
  | .tick landscape dt => mount.refresh.step landscape dt

def run (mount : Mount α) (actions : List (MountAction α)) : Mount α := actions.foldl act mount

def refreshes (mount : Mount α) : List (MountAction α) → List (Mount α)
  | [] => []
  | action :: rest => mount.found action ++ (mount.act action).refreshes rest

theorem configure_pulls (mount : Mount α) :
    (mount.vehicle.configure mount.body).2.foldl BodyWrite.pulls mount.pulled = pullsAfter mount.pulled mount := by
  unfold pullsAfter active Vehicle.configure
  split
  · rfl
  · split <;> rfl

theorem refresh_pulled (mount : Mount α) :
    mount.refresh.pulled = if mount.due then pullsAfter mount.pulled mount else mount.pulled := by
  rw [← configure_pulls]
  unfold refresh
  split <;> rfl

theorem configure_stores (vehicle : Vehicle α) (body : BodyView α) (active : vehicle.isActive body = true) :
    (vehicle.configure body).1.mass = body.mass ∧ (vehicle.configure body).1.gravity = body.gravity := by
  rw [Vehicle.configure, if_pos active]
  exact ⟨rfl, rfl⟩

theorem configure_unfound (vehicle : Vehicle α) (body : BodyView α) (active : ¬ vehicle.isActive body = true) :
    (vehicle.configure body).1 = vehicle := by
  rw [Vehicle.configure, if_neg active]
  split <;> rfl

theorem weighed_refresh (mount : Mount α) (weighed : mount.pulled = false → mount.Weighed)
    (released : mount.refresh.pulled = false) : mount.refresh.Weighed := by
  rw [refresh_pulled] at released
  unfold refresh
  dsimp only
  split at released
  · rename_i due
    rw [if_pos due, weighed_hear]
    by_cases active : mount.vehicle.isActive mount.body = true
    · exact configure_stores _ _ active
    · rw [pullsAfter, Mount.active, if_neg active] at released
      split at released
      · cases released
      · rw [configure_unfound _ _ active]
        exact weighed released
  · rename_i idle
    rw [if_neg idle]
    exact weighed released

theorem inactive_step (vehicle : Vehicle α) (body : BodyView α) (landscape : Landscape α) (dt : α)
    (still : vehicle.isActive body = false) :
    vehicle.step body landscape dt = (vehicle, Rig.bind vehicle.known body landscape) := by
  simp only [Vehicle.step, still]
  rfl

theorem step_pulls (vehicle : Vehicle α) (body : BodyView α) (landscape : Landscape α) (dt : α) (pulled : Bool) :
    (vehicle.step body landscape dt).2.traffic.writes.foldl BodyWrite.pulls pulled = pulled := by
  cases active : vehicle.isActive body with
  | false =>
      rw [inactive_step vehicle body landscape dt active]
      rfl
  | true =>
      obtain ⟨position, orientation, velocity, force, spin, torque, written, -⟩ :=
        vehicle.active_step_writes body landscape dt active
      rw [written]
      cases position <;> cases orientation <;> cases torque <;> rfl

theorem step_pulled (mount : Mount α) (landscape : Landscape α) (dt : α) :
    (mount.step landscape dt).pulled = mount.pulled := step_pulls _ _ _ _ _

theorem weighed_step (mount : Mount α) (landscape : Landscape α) (dt : α) :
    (mount.step landscape dt).Weighed ↔ mount.Weighed := by
  unfold step
  dsimp only
  rw [weighed_hear]
  obtain ⟨linear, angular, target, known, last, stepped⟩ := mount.vehicle.step_vehicle mount.body landscape dt
  rw [stepped]
  rfl

theorem set_type_weight (vehicle : Vehicle α) (kind : Kind) (schedule : Schedule) :
    (vehicle.setType kind schedule).1.mass = vehicle.mass ∧
      (vehicle.setType kind schedule).1.gravity = vehicle.gravity := by
  by_cases enabled : vehicle.enabled = true
  · rw [vehicle.set_type_vehicle kind schedule enabled]
    exact ⟨rfl, rfl⟩
  · rw [Vehicle.setType, if_neg enabled]
    exact ⟨rfl, rfl⟩

theorem found_pulled (mount : Mount α) (landscape : Landscape α) (dt : α) :
    mount.refresh.pulled = (mount.found (.tick landscape dt)).foldl pullsAfter mount.pulled := by
  rw [refresh_pulled, found]
  split <;> rfl

theorem act_pulled (mount : Mount α) (action : MountAction α) :
    (mount.act action).pulled = (mount.found action).foldl pullsAfter mount.pulled := by
  cases action with
  | tick landscape dt => exact (step_pulled _ landscape dt).trans (found_pulled mount landscape dt)
  | _ => rfl

theorem weighed_act (mount : Mount α) (action : MountAction α) (weighed : mount.pulled = false → mount.Weighed)
    (released : (mount.act action).pulled = false) : (mount.act action).Weighed := by
  cases action with
  | setType kind =>
      obtain ⟨mass, gravity⟩ := set_type_weight mount.vehicle kind mount.schedule
      obtain ⟨first, second⟩ := weighed released
      exact ⟨mass.trans first, gravity.trans second⟩
  | tick landscape dt =>
      rw [act, step_pulled] at released
      exact (weighed_step _ landscape dt).mpr (weighed_refresh mount weighed released)
  | _ => exact weighed released

theorem run_pulled (mount : Mount α) (actions : List (MountAction α)) :
    (mount.run actions).pulled = (mount.refreshes actions).foldl pullsAfter mount.pulled := by
  induction actions generalizing mount with
  | nil => rfl
  | cons action rest ih =>
      rw [refreshes, List.foldl_append, ← act_pulled]
      exact ih (mount.act action)

theorem weighed_run (mount : Mount α) (actions : List (MountAction α))
    (weighed : mount.pulled = false → mount.Weighed) (released : (mount.run actions).pulled = false) :
    (mount.run actions).Weighed := by
  induction actions generalizing mount with
  | nil => exact weighed released
  | cons action rest ih => exact ih (mount.act action) (mount.weighed_act action weighed) released

theorem refreshes_tick (mount : Mount α) (actions : List (MountAction α)) (landscape : Landscape α) (dt : α) :
    mount.refreshes (actions ++ [.tick landscape dt]) =
      mount.refreshes actions ++ (mount.run actions).found (.tick landscape dt) := by
  induction actions generalizing mount with
  | nil => exact List.append_nil _
  | cons action rest ih =>
      rw [List.cons_append, refreshes, ih, refreshes, List.append_assoc]
      rfl

theorem refresh_vehicle (mount : Mount α) :
    mount.refresh.vehicle.enabled = mount.vehicle.enabled ∧ mount.refresh.vehicle.kind = mount.vehicle.kind := by
  obtain ⟨mass, gravity, pull, configured⟩ := mount.vehicle.configure_vehicle mount.body
  unfold refresh
  split
  · dsimp only [hear]
    rw [configured]
    exact ⟨rfl, rfl⟩
  · exact ⟨rfl, rfl⟩

theorem heeded_refresh (mount : Mount α) (seen : List (Mount α)) (heeded : mount.Heeded seen) (landscape : Landscape α)
    (dt : α) : mount.refresh.Heeded (seen ++ mount.found (.tick landscape dt)) := by
  obtain ⟨enabled, kind⟩ := mount.refresh_vehicle
  refine ⟨enabled.trans heeded.enabled, Or.inr ?_⟩
  rw [kind, found]
  cases due : mount.due with
  | true => exact Or.inr ⟨seen, mount, rfl, heeded.enabled, rfl⟩
  | false =>
      rw [if_neg Bool.false_ne_true, List.append_nil]
      exact heeded.last.resolve_left (by rw [due]; decide)

theorem heeded_step (mount : Mount α) (seen : List (Mount α)) (heeded : mount.Heeded seen) (landscape : Landscape α)
    (dt : α) : (mount.step landscape dt).Heeded seen := by
  obtain ⟨linear, angular, target, known, last, stepped⟩ := mount.vehicle.step_vehicle mount.body landscape dt
  unfold step
  dsimp only
  rw [stepped]
  exact heeded_same mount _ seen heeded rfl rfl rfl

theorem due_set_type (mount : Mount α) (kind : Kind) (enabled : mount.vehicle.enabled = true) :
    (mount.act (.setType kind)).due = true := by
  have vehicle := mount.vehicle.set_type_vehicle kind mount.schedule enabled
  have schedule := mount.vehicle.set_type_schedule kind mount.schedule enabled
  simp only [act, vehicle, schedule, due, Schedule.defer, List.contains_iff_mem]
  split
  · assumption
  · simp

theorem heeded_act (mount : Mount α) (action : MountAction α) (seen : List (Mount α)) (heeded : mount.Heeded seen) :
    (mount.act action).Heeded (seen ++ mount.found action) := by
  cases action with
  | tick landscape dt => exact heeded_step _ _ (heeded_refresh mount seen heeded landscape dt) landscape dt
  | setType kind =>
      refine ⟨?_, Or.inl (mount.due_set_type kind heeded.enabled)⟩
      simp only [act, mount.vehicle.set_type_vehicle kind mount.schedule heeded.enabled]
      exact heeded.enabled
  | setFloat param value =>
      simp only [found, List.append_nil]
      exact heeded_same mount _ seen heeded rfl (Vehicle.set_float_kind _ _ _) rfl
  | setVector param value =>
      simp only [found, List.append_nil]
      exact heeded_same mount _ seen heeded rfl (Vehicle.set_vector_kind _ _ _) rfl
  | setRotation param value =>
      simp only [found, List.append_nil]
      exact heeded_same mount _ seen heeded rfl (Vehicle.set_rotation_kind _ _ _) rfl
  | setFlags mask remove | place body =>
      simp only [found, List.append_nil]
      exact heeded_same mount _ seen heeded rfl rfl rfl

theorem heeded_run (mount : Mount α) (actions : List (MountAction α)) (seen : List (Mount α))
    (heeded : mount.Heeded seen) : (mount.run actions).Heeded (seen ++ mount.refreshes actions) := by
  induction actions generalizing mount seen with
  | nil =>
      rw [refreshes, List.append_nil]
      exact heeded
  | cons action rest ih =>
      rw [refreshes, ← List.append_assoc]
      exact ih _ _ (heeded_act mount action seen heeded)

theorem heeded_start (id : ObjectId) (tuning : Tuning α) (schedule : Schedule) (body : BodyView α) :
    (start id tuning schedule body).Heeded [] := ⟨rfl, Or.inr (Or.inl rfl)⟩

theorem weighed_start (id : ObjectId) (tuning : Tuning α) (schedule : Schedule) (body : BodyView α)
    (released : (start id tuning schedule body).pulled = false) : (start id tuning schedule body).Weighed := by
  cases released

theorem refresh_idle (mount : Mount α) : mount.refresh.due = false := by
  unfold refresh
  split <;> rfl

theorem active_of_writes (mount : Mount α) (landscape : Landscape α) (dt : α)
    (writes : (mount.vehicle.step mount.body landscape dt).2.traffic.writes ≠ []) : mount.active = true := by
  by_contra still
  refine writes ?_
  rw [inactive_step mount.vehicle mount.body landscape dt (Bool.eq_false_iff.mpr still)]
  rfl

/-- A vehicle carries its body in the engine's place, by the body's own weight, if and only if the last refresh that
found a body in the engine found the vehicle active. A step that writes follows a refresh for its own type, which
settles it: the engine has let go if that refresh found the body active, and not if it found it switched off. -/
theorem carries_iff (id : ObjectId) (tuning : Tuning α) (schedule : Schedule) (body : BodyView α)
    (actions : List (MountAction α)) (landscape : Landscape α) (dt : α) :
    let mount := (start id tuning schedule body).run actions
    let seen := (start id tuning schedule body).refreshes (actions ++ [.tick landscape dt])
    (mount.refresh.Carries ↔ TookEffect seen) ∧
      ((mount.refresh.vehicle.step mount.refresh.body landscape dt).2.traffic.writes ≠ [] →
        ∃ earlier last, seen = earlier ++ [last] ∧ last.vehicle.kind = mount.refresh.vehicle.kind ∧
          (last.body.physical = true → (mount.refresh.Carries ↔ last.body.enabled = true))) := by
  intro mount seen
  have split : seen = (start id tuning schedule body).refreshes actions ++ mount.found (.tick landscape dt) :=
    refreshes_tick _ actions landscape dt
  have heeded := heeded_refresh mount _ (heeded_run _ actions [] (heeded_start id tuning schedule body)) landscape dt
  rw [List.nil_append, ← split] at heeded
  have pulled : mount.refresh.pulled = seen.foldl pullsAfter true := by
    rw [found_pulled mount landscape dt, split, List.foldl_append, run_pulled]
    rfl
  have carries : mount.refresh.Carries ↔ TookEffect seen := by
    rw [← took_effect_iff, ← pulled]
    refine ⟨Carries.released, fun released => ⟨released, ?_⟩⟩
    exact weighed_refresh mount (weighed_run _ actions (weighed_start id tuning schedule body)) released
  refine ⟨carries, fun writes => ?_⟩
  have active := active_of_writes _ landscape dt writes
  rw [Mount.active, Vehicle.isActive, Bool.and_eq_true, Bool.and_eq_true, bne_iff_ne] at active
  have noted := heeded.last.resolve_left (by rw [refresh_idle]; decide)
  obtain ⟨earlier, last, same, enabled, kind⟩ := noted.resolve_left active.1.2
  refine ⟨earlier, last, same, kind, fun physical => ?_⟩
  have typed : (last.vehicle.kind != .none) = true := by
    rw [kind, bne_iff_ne]
    exact active.1.2
  have awake : last.active = last.body.enabled := by
    simp only [Mount.active, Vehicle.isActive, BodyView.physicallyActive, enabled, typed, physical, Bool.true_and]
  rw [carries, same, took_effect_concat, awake, physical]
  simp

theorem active_step_writes_some (mount : Mount α) (landscape : Landscape α) (dt : α) (active : mount.active = true) :
    (mount.vehicle.step mount.body landscape dt).2.traffic.writes ≠ [] := by
  obtain ⟨position, orientation, velocity, force, spin, torque, written, -⟩ :=
    mount.vehicle.active_step_writes mount.body landscape dt active
  rw [written]
  cases torque <;> simp [Vehicle.stepWrites]

end Mount

def sledBody (enabled : Bool) : BodyView Float32 :=
  { BodyView.restingAt 0 with mass := 10.0, gravity := ⟨0, 0, -9.8⟩, enabled }

def levelGround : Landscape Float32 := ⟨fun _ _ => 0, fun _ _ => 0⟩

def newSled (enabled : Bool) : Mount Float32 :=
  (Mount.start 11 Tuning.initial Schedule.empty (sledBody enabled)).run [.setType .sled]

theorem awake_sled_carries :
    let ready := (newSled true).refresh
    (ready.vehicle.step ready.body levelGround 0.1).2.traffic.writes ≠ [] ∧ ready.Carries ∧
      ready.vehicle.mass = 10.0 := by
  intro ready
  have active : ready.active = true := by decide
  have writes := ready.active_step_writes_some levelGround 0.1 active
  obtain ⟨carries, -⟩ := Mount.carries_iff 11 Tuning.initial Schedule.empty (sledBody true) [.setType .sled]
    levelGround 0.1
  have found : Mount.TookEffect [newSled true] :=
    ⟨[], newSled true, [], rfl, by decide, fun _ none => absurd none List.not_mem_nil⟩
  have carried : ready.Carries := carries.mpr found
  exact ⟨writes, carried, carried.weighed.1⟩

-- The body is switched on after the refresh: the engine pulls it, and the vehicle knows nothing of its weight.
theorem woken_sled_is_pulled :
    let ready := ((newSled false).run [.tick levelGround 0.1, .place (sledBody true)]).refresh
    (ready.vehicle.step ready.body levelGround 0.1).2.traffic.writes ≠ [] ∧ ready.pulled = true ∧
      ready.vehicle.mass = 0 ∧ ready.body.mass = 10.0 ∧ ¬ ready.Carries := by
  intro ready
  have active : ready.active = true := by decide
  have pulled : ready.pulled = true := by decide
  refine ⟨ready.active_step_writes_some levelGround 0.1 active, pulled, rfl, rfl, fun carries => ?_⟩
  rw [carries.released] at pulled
  cases pulled

end VehicleSim
