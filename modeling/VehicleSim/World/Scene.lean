import VehicleSim.World.RigidBody

/-!
All bodies of a world at one moment, with the ground under them. From where the bodies stand follows
what each one touches; a body that loses what it touched wakes.
-/

set_option autoImplicit false

namespace VehicleSim

structure Scene (α : Type) where
  ground : Box α
  bodies : List (ObjectId × RigidBody α)

namespace Scene

variable {α : Type} [Scalar α]

def shapes (scene : Scene α) : List (Obstacle × Box α) :=
  (.ground, scene.ground) :: scene.bodies.map fun (id, body) => (.object id, body.shape)

def contacts (scene : Scene α) (id : ObjectId) (body : RigidBody α) : List Obstacle :=
  let touching := scene.shapes.filter fun (obstacle, shape) =>
    obstacle != .object id && body.shape.touches shape
  touching.map (·.1)

def hasLost (scene : Scene α) (body : RigidBody α) : Bool :=
  body.motion.contacts.any fun obstacle =>
    !(scene.shapes.lookup obstacle).any body.shape.near

def map (move : ObjectId → RigidBody α → Motion α) (scene : Scene α) : Scene α :=
  { scene with bodies := scene.bodies.map fun (id, body) => (id, { body with motion := move id body }) }

def noteContacts (scene : Scene α) : Scene α :=
  scene.map fun id body =>
    let motion := if scene.hasLost body then body.motion.wake else body.motion
    { motion with contacts := scene.contacts id body }

def touchesAny (ids : List ObjectId) (body : RigidBody α) : Bool :=
  ids.any fun id => .object id ∈ body.motion.contacts

-- The bodies of `awake`, and those that a chain of at most `links` contacts joins to them.
def rouse (scene : Scene α) : (links : Nat) → (awake : List ObjectId) → List ObjectId
  | 0, awake => awake
  | links + 1, awake =>
      let roused := scene.bodies.filter fun (id, body) => id ∈ awake || touchesAny awake body
      scene.rouse links (roused.map (·.1))

end Scene

end VehicleSim
