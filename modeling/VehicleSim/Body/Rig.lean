import VehicleSim.Body.Cache
import VehicleSim.Space.Landscape

/-!
A body on its landscape, seen through the cache. A rig also keeps what has passed between the
vehicle and the body: the reads that reached the body, the lookups that reached the landscape and
the writes of the flushes.
-/

set_option autoImplicit false

namespace VehicleSim

inductive StateField where
  | position | orientation | velocity | rotationalVelocity
deriving DecidableEq, Repr

inductive Surface where
  | ground | water
deriving DecidableEq, Repr

structure Traffic (α : Type) where
  reads : List StateField
  lookups : List Surface
  writes : List (BodyWrite α)

namespace Traffic

variable {α : Type}

def none : Traffic α := ⟨[], [], []⟩

def addRead (traffic : Traffic α) (field : StateField) : Traffic α :=
  { traffic with reads := traffic.reads ++ [field] }

def addLookup (traffic : Traffic α) (surface : Surface) : Traffic α :=
  { traffic with lookups := traffic.lookups ++ [surface] }

def addWrites (traffic : Traffic α) (writes : List (BodyWrite α)) : Traffic α :=
  { traffic with writes := traffic.writes ++ writes }

end Traffic

structure Rig (α : Type) where
  body : BodyView α
  landscape : Landscape α
  cache : Cache α
  traffic : Traffic α

namespace Rig

variable {α : Type} [Scalar α]

def bind (cache : Cache α) (body : BodyView α) (landscape : Landscape α) : Rig α :=
  ⟨body, landscape, cache, .none⟩

def noteRead {β : Type} (rig : Rig α) (known : Known β) (field : StateField) : Traffic α :=
  if known.fetched then rig.traffic else rig.traffic.addRead field

def position (rig : Rig α) : Vec3 α × Rig α :=
  let known := rig.cache.position
  (known.read rig.body.position,
    { rig with
      cache := { rig.cache with position := known.fetch rig.body.position }
      traffic := rig.noteRead known .position })

def orientation (rig : Rig α) : Quat α × Rig α :=
  let known := rig.cache.orientation
  (known.read rig.body.orientation,
    { rig with
      cache := { rig.cache with orientation := known.fetch rig.body.orientation }
      traffic := rig.noteRead known .orientation })

def velocity (rig : Rig α) : Vec3 α × Rig α :=
  let known := rig.cache.velocity
  (known.read rig.body.velocity,
    { rig with
      cache := { rig.cache with velocity := known.fetch rig.body.velocity }
      traffic := rig.noteRead known .velocity })

def rotationalVelocity (rig : Rig α) : Vec3 α × Rig α :=
  let known := rig.cache.rotationalVelocity
  (known.read rig.body.rotationalVelocity,
    { rig with
      cache := { rig.cache with rotationalVelocity := known.fetch rig.body.rotationalVelocity }
      traffic := rig.noteRead known .rotationalVelocity })

def setPosition (rig : Rig α) (value : Vec3 α) : Rig α :=
  { rig with cache := { rig.cache with position := rig.cache.position.set value } }

def setOrientation (rig : Rig α) (value : Quat α) : Rig α :=
  { rig with cache := { rig.cache with orientation := rig.cache.orientation.set value } }

def setVelocity (rig : Rig α) (value : Vec3 α) : Rig α :=
  { rig with cache := { rig.cache with velocity := rig.cache.velocity.set value } }

def setRotationalVelocity (rig : Rig α) (value : Vec3 α) : Rig α :=
  { rig with cache := { rig.cache with rotationalVelocity := rig.cache.rotationalVelocity.set value } }

def addForce (rig : Rig α) (term : Vec3 α) : Rig α :=
  { rig with cache := { rig.cache with force := rig.cache.force.add term } }

def addImpulse (rig : Rig α) (term : Vec3 α) : Rig α :=
  { rig with cache := { rig.cache with impulse := rig.cache.impulse.add term } }

def addAngularForce (rig : Rig α) (term : Vec3 α) : Rig α :=
  { rig with cache := { rig.cache with rotationalForce := rig.cache.rotationalForce.add term } }

def addRotationalImpulse (rig : Rig α) (term : Vec3 α) : Rig α :=
  { rig with cache := { rig.cache with rotationalImpulse := rig.cache.rotationalImpulse.add term } }

def groundHeight (rig : Rig α) : α × Rig α :=
  let (place, rig) := rig.position
  match HeightMemo.known? rig.cache.ground place with
  | some height => (height, rig)
  | none =>
      let height := rig.landscape.groundAt place.x place.y
      (height,
        { rig with
          cache := { rig.cache with ground := some ⟨place, height⟩ }
          traffic := rig.traffic.addLookup .ground })

def waterLevel (rig : Rig α) : α × Rig α :=
  let (place, rig) := rig.position
  match HeightMemo.known? rig.cache.water place with
  | some height => (height, rig)
  | none =>
      let height := rig.landscape.waterAt place.x place.y
      (height,
        { rig with
          cache := { rig.cache with water := some ⟨place, height⟩ }
          traffic := rig.traffic.addLookup .water })

def flush (rig : Rig α) : Bool × Rig α :=
  if rig.cache.hasChanges then
    let writes := rig.cache.changes ++ [.pushUpdate]
    (true,
      { rig with
        body := writes.foldl BodyView.store rig.body
        cache := rig.cache.settle
        traffic := rig.traffic.addWrites writes })
  else (false, rig)

def forget (rig : Rig α) : Rig α := { rig with cache := rig.cache.forget }

end Rig

end VehicleSim
