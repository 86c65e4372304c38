import VehicleSim.Settings
import VehicleSim.Vehicle.Actuator
import VehicleSim.World.FreeFlight

/-!
A world of objects, each a rigid body with a vehicle on it.

One tick goes through these stages in order: deferred refreshes, queued hook changes, the steps of
the subscribed vehicles, the weighing of bodies that vehicles have added to, the solver, the clearing
of the vehicles' forces, the return of bodies that have left the region, and the reports.
-/

set_option autoImplicit false

namespace VehicleSim

structure WorldObject (α : Type) where
  id : ObjectId
  vehicle : Vehicle α
  -- Nothing once the body has been taken out from behind the object's back.
  body : Option (RigidBody α)

structure World (α : Type) [Scalar α] where
  gravity : Vec3 α
  terrain : Terrain α
  tuning : Tuning α
  schedule : Schedule
  -- In ascending order of id.
  objects : List (WorldObject α)
  nextId : ObjectId
  pushed : List ObjectId
  updates : List (ObjectId × Report α)

namespace World

variable {α : Type} [Scalar α]

def create (settings : Settings α) (terrain : Terrain α) : World α where
  gravity := settings.gravity
  terrain
  tuning := settings.vehicle
  schedule := .empty
  objects := []
  nextId := 1
  pushed := []
  updates := []

def ofSettings? (settings : Settings α) : Option (World α) :=
  (Terrain.ofSettings? settings.terrain).map (create settings)

def object? (world : World α) (id : ObjectId) : Option (WorldObject α) :=
  world.objects.find? (·.id == id)

def body? (world : World α) (id : ObjectId) : Option (RigidBody α) :=
  world.object? id >>= (·.body)

def position? (world : World α) (id : ObjectId) : Option (Vec3 α) :=
  (world.body? id).map (·.motion.position)

def kind? (world : World α) (id : ObjectId) : Option Kind :=
  (world.object? id).map (·.vehicle.kind)

def replace (world : World α) (object : WorldObject α) : World α :=
  { world with objects := world.objects.map fun o => if o.id == object.id then object else o }

def spawnBox (world : World α) (position half : Vec3 α) (mass : α) : ObjectId × World α :=
  let id := world.nextId
  let object : WorldObject α := ⟨id, .create id world.tuning, some (.box position half mass)⟩
  (id, { world with nextId := id + 1, objects := world.objects ++ [object] })

def removeObject (world : World α) (id : ObjectId) : Bool × World α :=
  match world.object? id with
  | none => (false, world)
  | some object =>
      let schedule := (object.vehicle.dispose world.schedule).2
      (true,
        { world with
          objects := world.objects.filter (·.id != id)
          schedule := schedule.forget id
          pushed := world.pushed.filter (· != id) })

def command (world : World α) (id : ObjectId) (command : Command α) : Bool × World α :=
  match world.object? id with
  | none => (false, world)
  | some object =>
      let (vehicle, schedule) := object.vehicle.obey command world.schedule
      (true, { world.replace { object with vehicle } with schedule })

end World

end VehicleSim
