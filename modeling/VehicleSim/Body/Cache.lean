import VehicleSim.Body.View

/-!
What a vehicle knows of its body within one step. State is fetched once and then kept, changes
wait for the flush, and forces add up from zero. Every field has its own record of what happened to
it; a value outlives its record, and counts again only once it is fetched or set anew.
-/

set_option autoImplicit false

namespace VehicleSim

structure Known (β : Type) where
  value : β
  fetched : Bool
  changed : Bool

namespace Known

variable {β : Type}

def unread (value : β) : Known β := ⟨value, false, false⟩

def read (known : Known β) (held : β) : β := if known.fetched then known.value else held

def fetch (known : Known β) (held : β) : Known β :=
  if known.fetched then known else { known with value := held, fetched := true }

def set (_ : Known β) (value : β) : Known β := ⟨value, true, true⟩

def change? (known : Known β) : Option β := if known.changed then some known.value else none

def settle (known : Known β) : Known β := { known with changed := false }

def forget (known : Known β) : Known β := { known with fetched := false, changed := false }

theorem read_fetch (known : Known β) (held later : β) :
    (known.fetch held).read later = known.read held := by
  cases fetched : known.fetched <;> simp [read, fetch, fetched]

theorem fetched_fetch (known : Known β) (held : β) : (known.fetch held).fetched = true := by
  cases fetched : known.fetched <;> simp [fetch, fetched]

theorem value_fetch (known : Known β) (held : β) : (known.fetch held).value = known.read held := by
  cases fetched : known.fetched <;> simp [fetch, read, fetched]

theorem change_fetch (known : Known β) (held : β) (settled : known.change? = none) :
    (known.fetch held).change? = none := by
  cases fetched : known.fetched <;> simpa [fetch, fetched, change?] using settled

theorem change_settle (known : Known β) : known.settle.change? = none := rfl

end Known

structure Accumulator (α : Type) where
  value : Vec3 α
  changed : Bool

namespace Accumulator

variable {α : Type} [Scalar α]

def empty : Accumulator α := ⟨0, false⟩

-- The first term since the last flush is added to zero, whatever the value was.
def add (sum : Accumulator α) (term : Vec3 α) : Accumulator α :=
  ⟨(if sum.changed then sum.value else 0) + term, true⟩

def change? (sum : Accumulator α) : Option (Vec3 α) := if sum.changed then some sum.value else none

def settle (sum : Accumulator α) : Accumulator α := if sum.changed then empty else sum

theorem change_settle (sum : Accumulator α) : sum.settle.change? = none := by
  cases changed : sum.changed <;> simp [settle, change?, changed, empty]

end Accumulator

-- A height found at a position, good as long as the position stays equal.
structure HeightMemo (α : Type) where
  place : Vec3 α
  height : α

namespace HeightMemo

variable {α : Type} [Scalar α]

def known? (memo : Option (HeightMemo α)) (place : Vec3 α) : Option α :=
  match memo with
  | some known => if known.place == place then some known.height else none
  | none => none

end HeightMemo

structure Cache (α : Type) where
  position : Known (Vec3 α)
  orientation : Known (Quat α)
  velocity : Known (Vec3 α)
  rotationalVelocity : Known (Vec3 α)
  force : Accumulator α
  impulse : Accumulator α
  rotationalForce : Accumulator α
  rotationalImpulse : Accumulator α
  ground : Option (HeightMemo α)
  water : Option (HeightMemo α)

namespace Cache

variable {α : Type} [Scalar α]

def fresh : Cache α where
  position := .unread 0
  orientation := .unread .identity
  velocity := .unread 0
  rotationalVelocity := .unread 0
  force := .empty
  impulse := .empty
  rotationalForce := .empty
  rotationalImpulse := .empty
  ground := none
  water := none

def forget (cache : Cache α) : Cache α where
  position := cache.position.forget
  orientation := cache.orientation.forget
  velocity := cache.velocity.forget
  rotationalVelocity := cache.rotationalVelocity.forget
  force := .empty
  impulse := .empty
  rotationalForce := .empty
  rotationalImpulse := .empty
  ground := none
  water := none

def changes (cache : Cache α) : List (BodyWrite α) :=
  [cache.position.change?.map .position,
    cache.orientation.change?.map .orientation,
    cache.velocity.change?.map .velocity,
    cache.force.change?.map .force,
    cache.impulse.change?.map .impulse,
    cache.rotationalVelocity.change?.map .rotationalVelocity,
    cache.rotationalImpulse.change?.map .rotationalImpulse,
    cache.rotationalForce.change?.map .angularForce].filterMap id

def hasChanges (cache : Cache α) : Bool :=
  cache.position.changed || cache.orientation.changed || cache.velocity.changed
    || cache.rotationalVelocity.changed || cache.force.changed || cache.impulse.changed
    || cache.rotationalForce.changed || cache.rotationalImpulse.changed

def settle (cache : Cache α) : Cache α where
  position := cache.position.settle
  orientation := cache.orientation.settle
  velocity := cache.velocity.settle
  rotationalVelocity := cache.rotationalVelocity.settle
  force := cache.force.settle
  impulse := cache.impulse.settle
  rotationalForce := cache.rotationalForce.settle
  rotationalImpulse := cache.rotationalImpulse.settle
  ground := cache.ground
  water := cache.water

end Cache

end VehicleSim
