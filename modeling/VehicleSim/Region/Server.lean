import VehicleSim.Region.Game
import VehicleSim.Region.Message

/-!
The region that clients connect to: a world and what its connections share. Each event below is one
section that nothing else runs in between; a new connection goes through two of them, so a tick may
fall between its registration and its welcome.
-/

set_option autoImplicit false

namespace VehicleSim

structure Connection where
  client : ClientId
  name : String
  object : ObjectId
deriving DecidableEq

structure Region where
  world : World Float32
  game : Game
  connections : List Connection

inductive Event where
  | join (name : String)
  | greet (client : ClientId)
  | receive (client : ClientId) (payload : ByteArray)
  | leave (client : ClientId)
  | tick (dt : Float32)

namespace Region

def create (settings : Settings Float32) (terrain : Terrain Float32) : Region where
  world := .create settings terrain
  game := .empty
  connections := []

def ofSettings? (settings : Settings Float32) : Option Region :=
  (Terrain.ofSettings? settings.terrain).map (create settings)

def spawnX : Float32 := 128.0

def spawnY : Float32 := 128.0

def spawnHalf : Vec3 Float32 := ⟨2.0, 1.0, 0.5⟩

def spawnMass : Float32 := 100.0

def spawnPosition (world : World Float32) : Vec3 Float32 :=
  ⟨spawnX, spawnY, world.terrain.heightAt spawnX spawnY + 2.0⟩

def connection? (region : Region) (client : ClientId) : Option Connection :=
  region.connections.find? (·.client == client)

def join (region : Region) (name : String) : Region :=
  let (object, world) :=
    region.world.spawnBox (spawnPosition region.world) spawnHalf spawnMass
  let (client, game) := region.game.openChannel
  { world
    game := (game.addObject name object).register client
    connections := region.connections ++ [⟨client, name, object⟩] }

def welcomeText (connection : Connection) : String :=
  "\x7b\"local_id\":" ++ toString connection.object ++
    ",\"object_id\":" ++ Json.quote connection.name ++ ",\"type\":\"welcome\"\x7d"

def pongText : String := "\x7b\"type\":\"pong\"\x7d"

def greet (region : Region) (client : ClientId) : Region :=
  match region.connection? client with
  | some connection =>
      { region with game := region.game.send client (welcomeText connection) }
  | none => region

-- What a payload says; text that is not valid or empty says nothing.
def payloadMessage? (payload : ByteArray) : Option Message := do
  let text ← String.fromUTF8? payload
  if text.isEmpty then none else (Message.ofText text).toOption

def receive (region : Region) (client : ClientId) (payload : ByteArray) : Region :=
  match region.connection? client, payloadMessage? payload with
  | some connection, some (.command command) =>
      { region with game := region.game.queue connection.object command }
  | some _, some .ping => { region with game := region.game.send client pongText }
  | _, _ => region

def leave (region : Region) (client : ClientId) : Region :=
  match region.connection? client with
  | none => region
  | some connection =>
      let (object?, game) := region.game.removeObject connection.name
      let world :=
        match object? with
        | some object => (region.world.removeObject object).2
        | none => region.world
      { world
        game := game.closeChannel client
        connections := region.connections.filter (·.client != client) }

def applyCommand :
    List (ObjectId × Bool) × World Float32 → ObjectId × Command Float32 →
      List (ObjectId × Bool) × World Float32
  | (applied, world), (id, command) =>
      let (known, world) := world.command id command
      (applied ++ [(id, known)], world)

def applyCommands (world : World Float32) (commands : List (ObjectId × Command Float32)) :
    List (ObjectId × Bool) × World Float32 :=
  commands.foldl applyCommand ([], world)

def tick (region : Region) (dt : Float32) : List (ObjectId × Bool) × Region :=
  let (commands, game) := region.game.drain
  let (applied, world) := applyCommands region.world commands
  let world := world.step dt
  (applied, { region with world, game := { game with tick := game.tick + 1 }.broadcast world })

def handle (region : Region) : Event → Region
  | .join name => region.join name
  | .greet client => region.greet client
  | .receive client payload => region.receive client payload
  | .leave client => region.leave client
  | .tick dt => (region.tick dt).2

end Region

end VehicleSim
