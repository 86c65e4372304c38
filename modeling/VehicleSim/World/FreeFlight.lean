import VehicleSim.World.Scene

/-!
What moves the bodies in a tick. A solver sees all bodies and says how each one moves; it does not
touch forces or materials. `FreeFlight.solve` is the solver of bodies that do not push each other:
what a body touches can keep it awake, and does not hold it.
-/

set_option autoImplicit false

namespace VehicleSim

abbrev Solver (α : Type) := (dt : α) → (gravity : Vec3 α) → Scene α → List (ObjectId × Motion α)

namespace FreeFlight

variable {α : Type} [Scalar α]

def restLimit : α := 2.0

def nearlyAtRest (motion : Motion α) : Bool :=
  motion.velocity.normSquared < (0.4 * 0.4 : α)
    && motion.rotationalVelocity.normSquared < (0.5 * 0.5 : α)

def rest (dt : α) (motion : Motion α) : Motion α :=
  if motion.sleeping then motion
  else { motion with restTime := if nearlyAtRest motion then motion.restTime + dt else 0 }

def tired (motion : Motion α) : Bool := motion.sleeping || restLimit ≤ motion.restTime

def fallAsleep (motion : Motion α) : Motion α :=
  if motion.sleeping then motion
  else
    { motion with sleeping := true, restTime := restLimit, velocity := 0, rotationalVelocity := 0 }

-- Bodies that are tired sleep, but for those that a chain of contacts joins to one that is not.
def settle (dt : α) (scene : Scene α) : Scene α :=
  let scene := scene.map fun _ body => rest dt body.motion
  let lively := scene.bodies.filter fun (_, body) => !tired body.motion
  let awake := scene.rouse scene.bodies.length (lively.map (·.1))
  scene.map fun id body =>
    if id ∈ awake then { body.motion with sleeping := false } else fallAsleep body.motion

def flush (v : Vec3 α) : Vec3 α := v.map Scalar.flush

def plus (v w : Vec3 α) : Vec3 α := flush (v + w)

def minus (v w : Vec3 α) : Vec3 α := flush (v - w)

def times (v : Vec3 α) (s : α) : Vec3 α := flush (v * s)

def kept (dt damping : α) : α := Scalar.flush (1 / (1 + Scalar.flush (dt * damping)))

-- One of the four parts of a step: velocity first, then the position with the damped velocity.
def substep (acceleration : Vec3 α) (damping h : α) (state : Vec3 α × Vec3 α) : Vec3 α × Vec3 α :=
  let (position, velocity) := state
  let velocity := plus velocity acceleration
  let shift := times (times velocity damping) h
  (plus (minus (plus position shift) position) position, velocity)

def fly (dt : α) (gravity : Vec3 α) (body : RigidBody α) : Motion α :=
  let motion := body.motion
  let dt := Scalar.flush dt
  let h := Scalar.flush (dt / 4.0)
  let damping := Scalar.flush body.linearDamping
  let force := body.force + gravity * body.mass * body.gravityScale
  let acceleration := times (times (flush force) (Scalar.flush body.inertia.inverseMass)) h
  let part := substep acceleration (kept h damping) h
  let start := (flush motion.position, flush motion.velocity)
  let (position, velocity) := part (part (part (part start)))
  { motion with position, velocity := times velocity (kept dt damping) }

-- Contacts are noted where the bodies start, which settles who sleeps, and where they end.
def step (dt : α) (gravity : Vec3 α) (scene : Scene α) : Scene α :=
  let move (body : RigidBody α) : Motion α :=
    if body.motion.sleeping then body.motion else fly dt gravity body
  ((settle dt scene.noteContacts).map fun _ body => move body).noteContacts

def solve : Solver α := fun dt gravity scene =>
  (step dt gravity scene).bodies.map fun (id, body) => (id, body.motion)

end FreeFlight

end VehicleSim
