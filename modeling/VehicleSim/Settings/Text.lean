import VehicleSim.Json.Reader
import VehicleSim.Json.Record
import VehicleSim.Settings

/-!
Settings written as a JSON text. A field that is given replaces its default, and a known field with
a value of the wrong kind spoils the whole text.
-/

set_option autoImplicit false

namespace VehicleSim

open Json (Record)

namespace Grid

def fieldNames : List String := ["origin", "cell_size", "columns", "rows", "heights"]

-- A grid has no defaults: every field is required.
def ofJson? (json : Json) : Option (Grid Float32) := do
  let record ← Record.ofJson? fieldNames json
  let origin ← record.required "origin" (Json.toList? Json.toBinary32?)
  let cellSize ← record.required "cell_size" Json.toBinary32?
  let columns ← record.required "columns" Json.toWord64?
  let rows ← record.required "rows" Json.toWord64?
  let heights ← record.required "heights" (Json.toList? Json.toBinary32?)
  match origin with
  | [originX, originY] => some ⟨originX, originY, cellSize, columns, rows, heights.toArray⟩
  | _ => none

end Grid

namespace TerrainSettings

def fieldNames : List String := ["ground_height", "water_level", "grid"]

def ofJson? (json : Json) : Option (TerrainSettings Float32) := do
  let usual : TerrainSettings Float32 := initial
  let record ← Record.ofJson? fieldNames json
  return {
    groundHeight := ← record.optional "ground_height" Json.toBinary32? usual.groundHeight
    waterLevel := ← record.optional "water_level" Json.toBinary32? usual.waterLevel
    grid := ← record.optional "grid" (Json.toOption? Grid.ofJson?) usual.grid }

end TerrainSettings

namespace Tuning

def fieldNames : List String :=
  ["max_linear_velocity", "min_linear_velocity", "max_angular_velocity", "linear_damping",
    "angular_damping", "friction", "restitution", "inertia_factor", "ground_gravity_fudge",
    "enable_linear_deflection", "linear_deflection_not_colliding_no_z",
    "enable_angular_vertical_attraction", "enable_angular_deflection", "enable_angular_banking",
    "hover_timescale_cutoff", "vertical_attraction_cutoff", "rotational_velocity_epsilon"]

def ofJson? (json : Json) : Option (Tuning Float32) := do
  let usual : Tuning Float32 := initial
  let record ← Record.ofJson? fieldNames json
  let number (name : String) (value : Float32) := record.optional name Json.toBinary32? value
  let switch (name : String) (value : Bool) := record.optional name Json.toBool? value
  return {
    maxLinearVelocity := ← number "max_linear_velocity" usual.maxLinearVelocity
    minLinearVelocity := ← number "min_linear_velocity" usual.minLinearVelocity
    maxAngularVelocity := ← number "max_angular_velocity" usual.maxAngularVelocity
    linearDamping := ← number "linear_damping" usual.linearDamping
    angularDamping := ← number "angular_damping" usual.angularDamping
    friction := ← number "friction" usual.friction
    restitution := ← number "restitution" usual.restitution
    inertiaFactor := ← record.optional "inertia_factor" Json.toVec3? usual.inertiaFactor
    groundGravityFudge := ← number "ground_gravity_fudge" usual.groundGravityFudge
    enableLinearDeflection := ← switch "enable_linear_deflection" usual.enableLinearDeflection
    linearDeflectionNotCollidingNoZ :=
      ← switch "linear_deflection_not_colliding_no_z" usual.linearDeflectionNotCollidingNoZ
    enableAngularVerticalAttraction :=
      ← switch "enable_angular_vertical_attraction" usual.enableAngularVerticalAttraction
    enableAngularDeflection := ← switch "enable_angular_deflection" usual.enableAngularDeflection
    enableAngularBanking := ← switch "enable_angular_banking" usual.enableAngularBanking
    hoverTimescaleCutoff := ← number "hover_timescale_cutoff" usual.hoverTimescaleCutoff
    verticalAttractionCutoff :=
      ← number "vertical_attraction_cutoff" usual.verticalAttractionCutoff
    rotationalVelocityEpsilon :=
      ← number "rotational_velocity_epsilon" usual.rotationalVelocityEpsilon }

end Tuning

inductive SettingsError where
  | unreadable (path : String) (cause : String)
  | malformed
deriving DecidableEq

namespace SettingsError

def message? : SettingsError → Option String
  | unreadable path cause => some ("cannot read config " ++ path ++ ": " ++ cause)
  | malformed => none

end SettingsError

def noSuchFile : String := "No such file or directory (os error 2)"

namespace Settings

def fieldNames : List String := ["bind_addr", "tick_hz", "gravity", "terrain", "vehicle"]

def ofJson? (json : Json) : Option (Settings Float32) := do
  let usual : Settings Float32 := initial
  let record ← Record.ofJson? fieldNames json
  return {
    bindAddress := ← record.optional "bind_addr" Json.toText? usual.bindAddress
    ticksPerSecond := ← record.optional "tick_hz" Json.toWord32? usual.ticksPerSecond
    gravity := ← record.optional "gravity" Json.toVec3? usual.gravity
    terrain := ← record.optional "terrain" TerrainSettings.ofJson? usual.terrain
    vehicle := ← record.optional "vehicle" Tuning.ofJson? usual.vehicle }

def ofText (text : String) : Except SettingsError (Settings Float32) :=
  match Json.read? .unchecked text >>= ofJson? with
  | some settings => .ok settings
  | none => .error .malformed

inductive Source where
  | text (content : String)
  | missing

def ofFile (path : String) : Source → Except SettingsError (Settings Float32)
  | .text content => ofText content
  | .missing => .error (.unreadable path noSuchFile)

def load : Option (String × Source) → Except SettingsError (Settings Float32)
  | some (path, source) => ofFile path source
  | none => .ok initial

end Settings

end VehicleSim
