import VehicleSim.Drive.Attitude
import VehicleSim.Drive.Rotation
import VehicleSim.Drive.Translation
import VehicleSim.Schedule
import VehicleSim.Vehicle.Command

/-!
The vehicle of one object: its parameters, and what it does to the body when it is configured,
stepped and reported. It is scheduled only while its type is not `none`.
-/

set_option autoImplicit false

namespace VehicleSim

structure Vehicle (α : Type) where
  id : ObjectId
  params : Params α
  -- Kept from step to step; each step forgets it first.
  known : Cache α
  tuning : Tuning α
  mass : α
  gravity : Vec3 α
  vehicleGravity : Vec3 α
  lastPosition : Option (Vec3 α)
  -- The vehicle has asked for step hooks and has not given them back.
  registered : Bool
  -- Cleared for good when the object goes away.
  enabled : Bool

structure Report (α : Type) where
  position : Vec3 α
  orientation : Quat α
  velocity : Vec3 α
  rotationalVelocity : Vec3 α

namespace Vehicle

variable {α : Type} [Scalar α]

def create (id : ObjectId) (tuning : Tuning α) : Vehicle α where
  id
  params := { Params.initial with verticalAttractionCutoff := tuning.verticalAttractionCutoff }
  known := .fresh
  tuning
  mass := 0
  gravity := 0
  vehicleGravity := 0
  lastPosition := none
  registered := false
  enabled := true

def kind (vehicle : Vehicle α) : Kind := vehicle.params.kind

def isActive (vehicle : Vehicle α) (body : BodyView α) : Bool :=
  vehicle.enabled && vehicle.kind != .none && body.physicallyActive

def register (vehicle : Vehicle α) (schedule : Schedule) : Vehicle α × Schedule :=
  if vehicle.registered then (vehicle, schedule)
  else ({ vehicle with registered := true }, schedule.subscribe vehicle.id)

def unregister (vehicle : Vehicle α) (schedule : Schedule) : Vehicle α × Schedule :=
  if vehicle.registered then
    ({ vehicle with registered := false }, schedule.unsubscribe vehicle.id)
  else (vehicle, schedule)

def refresh (vehicle : Vehicle α) (schedule : Schedule) : Schedule :=
  schedule.defer vehicle.id .refreshVehicle

def setType (vehicle : Vehicle α) (kind : Kind) (schedule : Schedule) : Vehicle α × Schedule :=
  if vehicle.enabled then
    let vehicle := { vehicle with params := vehicle.params.applyPreset kind }
    let (vehicle, schedule) :=
      if kind = .none then vehicle.unregister schedule else vehicle.register schedule
    (vehicle, vehicle.refresh schedule)
  else (vehicle, schedule)

def setFloat (vehicle : Vehicle α) (param : Param) (value : α) : Vehicle α :=
  let params := vehicle.params.setFloat param value
  let vehicleGravity :=
    if param = .buoyancy then params.vehicleGravity vehicle.gravity else vehicle.vehicleGravity
  { vehicle with params, vehicleGravity }

def setVector (vehicle : Vehicle α) (param : Param) (value : Vec3 α) : Vehicle α :=
  { vehicle with params := vehicle.params.setVector param value }

def setRotation (vehicle : Vehicle α) (param : Param) (value : Quat α) : Vehicle α :=
  { vehicle with params := vehicle.params.setRotation param value }

def setFlags (vehicle : Vehicle α) (mask : Int) (remove : Bool) : Vehicle α :=
  { vehicle with params := vehicle.params.setFlags mask remove }

def obey (vehicle : Vehicle α) (command : Command α) (schedule : Schedule) :
    Vehicle α × Schedule :=
  match command with
  | .setType kind => vehicle.setType kind schedule
  | .setFloat code value =>
      match Param.ofCode? code with
      | some param => (vehicle.setFloat param value, schedule)
      | none => (vehicle, schedule)
  | .setVector code value =>
      match Param.ofCode? code with
      | some param => (vehicle.setVector param value, schedule)
      | none => (vehicle, schedule)
  | .setRotation code value =>
      match Param.ofCode? code with
      | some param => (vehicle.setRotation param value.normalized, schedule)
      | none => (vehicle, schedule)
  | .setFlags mask remove => (vehicle.setFlags mask remove, schedule)

def activeProperties (tuning : Tuning α) : List (BodyWrite α) :=
  [.friction tuning.friction,
    .restitution tuning.restitution,
    .damping tuning.linearDamping tuning.angularDamping,
    .inertiaFactor tuning.inertiaFactor,
    .addCollisionFlag,
    .engineGravity false]

def configure (vehicle : Vehicle α) (body : BodyView α) : Vehicle α × List (BodyWrite α) :=
  if vehicle.isActive body then
    ({ vehicle with
        mass := body.mass
        gravity := body.gravity
        vehicleGravity := vehicle.params.vehicleGravity body.gravity },
      activeProperties vehicle.tuning)
  else if body.physical then (vehicle, [.removeCollisionFlag, .engineGravity true])
  else (vehicle, [])

def stepInput (vehicle : Vehicle α) (dt : α) : StepInput α where
  dt
  tuning := vehicle.tuning
  mass := vehicle.mass
  gravity := vehicle.gravity
  vehicleGravity := vehicle.vehicleGravity
  lastPosition := vehicle.lastPosition

def move (input : StepInput α) (params : Params α) (rig : Rig α) : Params α × Rig α :=
  let (params, rig) := Drive.moveLinear input params rig
  let (params, rig) := Drive.moveAngular input params rig
  (params, Drive.limitRotation params rig)

def step (vehicle : Vehicle α) (body : BodyView α) (landscape : Landscape α) (dt : α) :
    Vehicle α × Rig α :=
  let rig := Rig.bind vehicle.known body landscape
  if vehicle.isActive body then
    let (params, rig) := move (vehicle.stepInput dt) vehicle.params rig.forget
    let (position, rig) := rig.position
    let rig := rig.flush.2
    ({ vehicle with params, known := rig.cache, lastPosition := some position }, rig)
  else (vehicle, rig)

-- Spin left over by the solver is not the vehicle's.
def editReport (vehicle : Vehicle α) (body : BodyView α) (report : Report α) : Report α :=
  if vehicle.isActive body then { report with rotationalVelocity := 0 } else report

def dispose (vehicle : Vehicle α) (schedule : Schedule) : Vehicle α × Schedule :=
  let (vehicle, schedule) := vehicle.unregister schedule
  ({ vehicle with params := vehicle.params.applyPreset .none, enabled := false }, schedule)

end Vehicle

end VehicleSim
