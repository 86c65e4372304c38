import VehicleSim.Body.Rig

/-!
The uses a vehicle makes of its rig, one by one, and the part of the rig that each of them touches.
-/

set_option autoImplicit false

namespace VehicleSim

def StateField.Value (α : Type) : StateField → Type
  | .orientation => Quat α
  | _ => Vec3 α

inductive SumField where
  | force | impulse | rotationalForce | rotationalImpulse
deriving DecidableEq

inductive Access (α : Type) where
  | read (field : StateField)
  | set (field : StateField) (value : field.Value α)
  | add (field : SumField) (term : Vec3 α)
  | height (surface : Surface)
  | flush

variable {α : Type}

def BodyView.get (body : BodyView α) : (field : StateField) → field.Value α
  | .position => body.position
  | .orientation => body.orientation
  | .velocity => body.velocity
  | .rotationalVelocity => body.rotationalVelocity

namespace Cache

def slot (cache : Cache α) : (field : StateField) → Known (field.Value α)
  | .position => cache.position
  | .orientation => cache.orientation
  | .velocity => cache.velocity
  | .rotationalVelocity => cache.rotationalVelocity

def sum (cache : Cache α) : SumField → Accumulator α
  | .force => cache.force
  | .impulse => cache.impulse
  | .rotationalForce => cache.rotationalForce
  | .rotationalImpulse => cache.rotationalImpulse

end Cache

namespace Rig

def read (rig : Rig α) : (field : StateField) → field.Value α × Rig α
  | .position => rig.position
  | .orientation => rig.orientation
  | .velocity => rig.velocity
  | .rotationalVelocity => rig.rotationalVelocity

def set (rig : Rig α) : (field : StateField) → field.Value α → Rig α
  | .position, value => rig.setPosition value
  | .orientation, value => rig.setOrientation value
  | .velocity, value => rig.setVelocity value
  | .rotationalVelocity, value => rig.setRotationalVelocity value

theorem read_value (rig : Rig α) (field : StateField) :
    (rig.read field).1 = (rig.cache.slot field).read (rig.body.get field) := by
  cases field <;> rfl

theorem slot_read_same (rig : Rig α) (field : StateField) :
    (rig.read field).2.cache.slot field = (rig.cache.slot field).fetch (rig.body.get field) := by
  cases field <;> rfl

theorem slot_read_other (rig : Rig α) (field other : StateField) (differs : other ≠ field) :
    (rig.read field).2.cache.slot other = rig.cache.slot other := by
  cases field <;> cases other <;> first | exact absurd rfl differs | rfl

theorem sum_read (rig : Rig α) (field : StateField) (sum : SumField) :
    (rig.read field).2.cache.sum sum = rig.cache.sum sum := by
  cases field <;> cases sum <;> rfl

theorem body_read (rig : Rig α) (field : StateField) : (rig.read field).2.body = rig.body := by
  cases field <;> rfl

theorem traffic_read (rig : Rig α) (field : StateField) :
    (rig.read field).2.traffic =
      if (rig.cache.slot field).fetched then rig.traffic else rig.traffic.addRead field := by
  cases field <;> rfl

theorem slot_set_same (rig : Rig α) (field : StateField) (value : field.Value α) :
    (rig.set field value).cache.slot field = (rig.cache.slot field).set value := by
  cases field <;> rfl

theorem slot_set_other (rig : Rig α) (field other : StateField) (value : field.Value α) (differs : other ≠ field) :
    (rig.set field value).cache.slot other = rig.cache.slot other := by
  cases field <;> cases other <;> first | exact absurd rfl differs | rfl

theorem sum_set (rig : Rig α) (field : StateField) (value : field.Value α) (sum : SumField) :
    (rig.set field value).cache.sum sum = rig.cache.sum sum := by
  cases field <;> cases sum <;> rfl

theorem body_set (rig : Rig α) (field : StateField) (value : field.Value α) :
    (rig.set field value).body = rig.body := by
  cases field <;> rfl

theorem traffic_set (rig : Rig α) (field : StateField) (value : field.Value α) :
    (rig.set field value).traffic = rig.traffic := by
  cases field <;> rfl

end Rig

namespace Cache

theorem has_changes_iff (cache : Cache α) :
    cache.hasChanges = true ↔
      (∃ field, (cache.slot field).change?.isSome) ∨ ∃ field, (cache.sum field).change?.isSome := by
  have known : ∀ {β : Type} (known : Known β), known.change?.isSome ↔ known.changed = true := by
    intro β known
    cases changed : known.changed <;> simp [Known.change?, changed]
  have added : ∀ sum : Accumulator α, sum.change?.isSome ↔ sum.changed = true := by
    intro sum
    cases changed : sum.changed <;> simp [Accumulator.change?, changed]
  simp only [known, added]
  constructor
  · intro changed
    simp only [hasChanges, Bool.or_eq_true] at changed
    rcases changed with ((((((position | orientation) | velocity) | spin) | force) | impulse) | torque) | twist
    · exact Or.inl ⟨.position, position⟩
    · exact Or.inl ⟨.orientation, orientation⟩
    · exact Or.inl ⟨.velocity, velocity⟩
    · exact Or.inl ⟨.rotationalVelocity, spin⟩
    · exact Or.inr ⟨.force, force⟩
    · exact Or.inr ⟨.impulse, impulse⟩
    · exact Or.inr ⟨.rotationalForce, torque⟩
    · exact Or.inr ⟨.rotationalImpulse, twist⟩
  · rintro (⟨field, changed⟩ | ⟨field, changed⟩)
    · cases field <;> simp only [slot] at changed <;> simp [hasChanges, changed]
    · cases field <;> simp only [sum] at changed <;> simp [hasChanges, changed]

end Cache

variable [Scalar α]

namespace Rig

def add (rig : Rig α) : SumField → Vec3 α → Rig α
  | .force, term => rig.addForce term
  | .impulse, term => rig.addImpulse term
  | .rotationalForce, term => rig.addAngularForce term
  | .rotationalImpulse, term => rig.addRotationalImpulse term

def heightOf (rig : Rig α) : Surface → α × Rig α
  | .ground => rig.groundHeight
  | .water => rig.waterLevel

def access (rig : Rig α) : Access α → Rig α
  | .read field => (rig.read field).2
  | .set field value => rig.set field value
  | .add field term => rig.add field term
  | .height surface => (rig.heightOf surface).2
  | .flush => rig.flush.2

def run (rig : Rig α) (accesses : List (Access α)) : Rig α := accesses.foldl access rig

theorem run_concat (rig : Rig α) (accesses : List (Access α)) (access : Access α) :
    rig.run (accesses ++ [access]) = (rig.run accesses).access access := by
  simp only [run, List.foldl_append, List.foldl_cons, List.foldl_nil]

structure SameState (rig other : Rig α) : Prop where
  slot : ∀ field, other.cache.slot field = rig.cache.slot field
  sum : ∀ field, other.cache.sum field = rig.cache.sum field
  body : other.body = rig.body
  reads : other.traffic.reads = rig.traffic.reads
  writes : other.traffic.writes = rig.traffic.writes

theorem same_state_height (rig : Rig α) (surface : Surface) :
    SameState (rig.read .position).2 (rig.heightOf surface).2 := by
  cases surface with
  | ground =>
      change SameState rig.position.2 rig.groundHeight.2
      unfold groundHeight
      dsimp only
      split
      · exact ⟨fun _ => rfl, fun _ => rfl, rfl, rfl, rfl⟩
      · exact ⟨fun field => by cases field <;> rfl, fun field => by cases field <;> rfl, rfl, rfl, rfl⟩
  | water =>
      change SameState rig.position.2 rig.waterLevel.2
      unfold waterLevel
      dsimp only
      split
      · exact ⟨fun _ => rfl, fun _ => rfl, rfl, rfl, rfl⟩
      · exact ⟨fun field => by cases field <;> rfl, fun field => by cases field <;> rfl, rfl, rfl, rfl⟩

theorem sum_add_same (rig : Rig α) (field : SumField) (term : Vec3 α) :
    (rig.add field term).cache.sum field = (rig.cache.sum field).add term := by
  cases field <;> rfl

theorem sum_add_other (rig : Rig α) (field other : SumField) (term : Vec3 α) (differs : other ≠ field) :
    (rig.add field term).cache.sum other = rig.cache.sum other := by
  cases field <;> cases other <;> first | exact absurd rfl differs | rfl

theorem slot_add (rig : Rig α) (field : SumField) (term : Vec3 α) (slot : StateField) :
    (rig.add field term).cache.slot slot = rig.cache.slot slot := by
  cases field <;> cases slot <;> rfl

theorem body_add (rig : Rig α) (field : SumField) (term : Vec3 α) : (rig.add field term).body = rig.body := by
  cases field <;> rfl

theorem traffic_add (rig : Rig α) (field : SumField) (term : Vec3 α) :
    (rig.add field term).traffic = rig.traffic := by
  cases field <;> rfl

end Rig

namespace Cache

theorem slot_settle (cache : Cache α) (field : StateField) : cache.settle.slot field = (cache.slot field).settle := by
  cases field <;> rfl

theorem sum_settle (cache : Cache α) (field : SumField) : cache.settle.sum field = (cache.sum field).settle := by
  cases field <;> rfl

theorem has_changes_settle (cache : Cache α) : cache.settle.hasChanges = false := by
  rw [← Bool.not_eq_true, has_changes_iff, not_or]
  refine ⟨?_, ?_⟩
  · rintro ⟨field, changed⟩
    rw [slot_settle, Known.change_settle] at changed
    cases changed
  · rintro ⟨field, changed⟩
    rw [sum_settle, Accumulator.change_settle] at changed
    cases changed

end Cache

namespace BodyView

def storeIf (body : BodyView α) : Option (BodyWrite α) → BodyView α
  | some write => body.store write
  | none => body

omit [Scalar α] in
theorem store_all (body : BodyView α) (writes : List (Option (BodyWrite α))) :
    (writes.filterMap id).foldl store body = writes.foldl storeIf body := by
  induction writes generalizing body with
  | nil => rfl
  | cons write rest ih =>
      cases write with
      | none => exact ih body
      | some write => exact ih (body.store write)

omit [Scalar α] in
theorem store_ignored (body : BodyView α) (value : Option (Vec3 α)) (kind : Vec3 α → BodyWrite α)
    (quiet : ∀ term, body.store (kind term) = body) : body.storeIf (value.map kind) = body := by
  cases value with
  | none => rfl
  | some term => exact quiet term

omit [Scalar α] in
theorem store_state (body : BodyView α) (position velocity spin : Option (Vec3 α)) (orientation : Option (Quat α)) :
    (((body.storeIf (position.map .position)).storeIf (orientation.map .orientation)).storeIf
      (velocity.map .velocity)).storeIf (spin.map .rotationalVelocity) =
        { body with
          position := position.getD body.position
          orientation := orientation.getD body.orientation
          velocity := velocity.getD body.velocity
          rotationalVelocity := spin.getD body.rotationalVelocity } := by
  cases position <;> cases orientation <;> cases velocity <;> cases spin <;> rfl

omit [Scalar α] in
theorem get_store_changes (body : BodyView α) (cache : Cache α) (field : StateField) :
    ((cache.changes ++ [BodyWrite.pushUpdate]).foldl store body).get field =
      (cache.slot field).change?.getD (body.get field) := by
  have force := fun (seen : BodyView α) value => store_ignored seen value BodyWrite.force fun _ => rfl
  have impulse := fun (seen : BodyView α) value => store_ignored seen value BodyWrite.impulse fun _ => rfl
  have torque := fun (seen : BodyView α) value => store_ignored seen value BodyWrite.angularForce fun _ => rfl
  have twist := fun (seen : BodyView α) value => store_ignored seen value BodyWrite.rotationalImpulse fun _ => rfl
  rw [List.foldl_append, Cache.changes, store_all]
  simp only [List.foldl_cons, List.foldl_nil, force, impulse, torque, twist, store_state]
  cases field <;> rfl

end BodyView

namespace Rig

theorem flush_changed (rig : Rig α) (changed : rig.cache.hasChanges = true) :
    rig.flush =
      (true,
        { rig with
          body := (rig.cache.changes ++ [BodyWrite.pushUpdate]).foldl BodyView.store rig.body
          cache := rig.cache.settle
          traffic := rig.traffic.addWrites (rig.cache.changes ++ [.pushUpdate]) }) := by
  rw [flush, if_pos changed]

theorem flush_unchanged (rig : Rig α) (unchanged : rig.cache.hasChanges = false) : rig.flush = (false, rig) := by
  rw [flush, if_neg (by simp [unchanged])]

end Rig

end VehicleSim
