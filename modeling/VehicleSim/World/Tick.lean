import VehicleSim.World.Basic

/-!
One tick of the world.
-/

set_option autoImplicit false

namespace VehicleSim

namespace WorldObject

variable {α : Type} [Scalar α]

def colliding (object : WorldObject α) : Bool :=
  match object.body with
  | some body => !body.motion.contacts.isEmpty
  | none => false

def view (object : WorldObject α) (gravity : Vec3 α) : BodyView α :=
  .ofRigidBody gravity object.colliding object.body

def write (fastestSpin : α) (object : WorldObject α) (writes : List (BodyWrite α)) :
    WorldObject α :=
  { object with body := object.body.map (writes.foldl (RigidBody.write fastestSpin)) }

def refresh (gravity : Vec3 α) (fastestSpin : α) (object : WorldObject α) : WorldObject α :=
  let (vehicle, writes) := object.vehicle.configure (object.view gravity)
  { object with vehicle }.write fastestSpin writes

def asksForReport (writes : List (BodyWrite α)) : Bool :=
  writes.any fun
    | .pushUpdate => true
    | _ => false

def step (gravity : Vec3 α) (landscape : Landscape α) (fastestSpin dt : α)
    (object : WorldObject α) : WorldObject α × Bool :=
  let (vehicle, rig) := object.vehicle.step (object.view gravity) landscape dt
  let writes := rig.traffic.writes
  ({ object with vehicle }.write fastestSpin writes, asksForReport writes)

def report? (gravity : Vec3 α) (pushed : List ObjectId) (object : WorldObject α) :
    Option (ObjectId × Report α) :=
  match object.body with
  | none => none
  | some body =>
      let motion := body.motion
      if motion.sleeping && object.id ∉ pushed then none
      else
        let report : Report α :=
          ⟨motion.position, motion.orientation, motion.velocity, motion.rotationalVelocity⟩
        some (object.id, object.vehicle.editReport (object.view gravity) report)

end WorldObject

namespace World

variable {α : Type} [Scalar α]

def limit : α := 10000.0

def refresh (world : World α) (id : ObjectId) : World α :=
  match world.object? id with
  | none => world
  | some object => world.replace (object.refresh world.gravity world.tuning.maxAngularVelocity)

def runDeferred (world : World α) : World α :=
  let (deferred, schedule) := world.schedule.takeDeferred
  (deferred.map (·.1)).foldl refresh { world with schedule }

def applyHooks (world : World α) : World α :=
  { world with schedule := world.schedule.applyPending }

def stepObject (dt : α) (world : World α) (id : ObjectId) : World α :=
  match world.object? id with
  | none => world
  | some object =>
      let (object, asked) :=
        object.step world.gravity world.terrain.landscape world.tuning.maxAngularVelocity dt
      let world := world.replace object
      if asked then { world with pushed := world.pushed ++ [id] } else world

def stepVehicles (dt : α) (world : World α) : World α :=
  world.schedule.preStep.foldl (stepObject dt) { world with pushed := [] }

def weigh (world : World α) : World α :=
  let weigh (object : WorldObject α) : WorldObject α :=
    { object with body := object.body.map RigidBody.weigh }
  { world with objects := world.objects.map weigh }

def groundHalf : α := 4096.0

-- The ground is a slab two units thick whose top is the lowest point of the terrain.
def ground (world : World α) : Box α where
  middle := ⟨0, 0, world.terrain.baseHeight - 1⟩
  half := ⟨groundHalf, groundHalf, 1⟩

def scene (world : World α) : Scene α where
  ground := world.ground
  bodies := world.objects.filterMap fun object => object.body.map fun body => (object.id, body)

-- A body that the solver does not speak of stays as it is.
def solve (solver : Solver α) (dt : α) (world : World α) : World α :=
  let moved := solver dt world.gravity world.scene
  let move (object : WorldObject α) : WorldObject α :=
    { object with
      body := object.body.map fun body =>
        { body with motion := (moved.lookup object.id).getD body.motion } }
  { world with objects := world.objects.map move }

def clearForces (world : World α) : World α :=
  let clear (object : WorldObject α) : WorldObject α :=
    if object.id ∈ world.schedule.preStep then
      { object with body := object.body.map RigidBody.clearForces }
    else object
  { world with objects := world.objects.map clear }

def outOfBounds (position : Vec3 α) : Bool :=
  !position.isFinite || position.any fun c => limit < Scalar.abs c

-- Put a body that has left the region back to its middle, one unit above the ground.
def returnMotion (terrain : Terrain α) (motion : Motion α) : Motion α :=
  if outOfBounds motion.position then
    ((motion.setPosition ⟨0, 0, terrain.heightAt 0 0 + 1⟩).setVelocity 0).setRotationalVelocity 0
  else motion

def returnRunaways (world : World α) : World α :=
  let back (object : WorldObject α) : WorldObject α :=
    { object with
      body := object.body.map fun body =>
        { body with motion := returnMotion world.terrain body.motion } }
  { world with objects := world.objects.map back }

def reportUpdates (world : World α) : World α :=
  { world with
    updates := world.objects.filterMap (WorldObject.report? world.gravity world.pushed) }

def prepare (dt : α) (world : World α) : World α :=
  (stepVehicles dt world.runDeferred.applyHooks).weigh

def stepWith (solver : Solver α) (dt : α) (world : World α) : World α :=
  (solve solver dt (world.prepare dt)).clearForces.returnRunaways.reportUpdates

def step (dt : α) (world : World α) : World α := world.stepWith FreeFlight.solve dt

end World

end VehicleSim
