import VehicleSim.Json.Quoted
import VehicleSim.Number.Shortest
import VehicleSim.World.Tick

/-!
What the connections share: the names of their objects, the commands that wait for the next tick,
and the outgoing channels. After each tick every client is sent a snapshot of all objects.
-/

set_option autoImplicit false

namespace VehicleSim

abbrev ClientId := Nat

structure Channel where
  waiting : List String
  isOpen : Bool
deriving DecidableEq

namespace Channel

def fresh : Channel := ⟨[], true⟩

def send (channel : Channel) (text : String) : Channel :=
  if channel.isOpen then { channel with waiting := channel.waiting ++ [text] } else channel

def close (_ : Channel) : Channel := ⟨[], false⟩

end Channel

structure SnapshotEntry where
  name : String
  id : ObjectId
  kind : Kind
  position : Vec3 Float32

structure Snapshot where
  tick : Nat
  entries : List SnapshotEntry

namespace SnapshotEntry

def coordinate (value : Float32) : String := (Binary32.decimalText? value).getD "null"

def text (entry : SnapshotEntry) : String :=
  "\x7b\"id\":" ++ Json.quote entry.name ++
    ",\"local_id\":" ++ toString entry.id ++
    ",\"vehicle\":" ++ Json.quote entry.kind.name ++
    ",\"x\":" ++ coordinate entry.position.x ++
    ",\"y\":" ++ coordinate entry.position.y ++
    ",\"z\":" ++ coordinate entry.position.z ++ "\x7d"

end SnapshotEntry

namespace Snapshot

def text (snapshot : Snapshot) : String :=
  "\x7b\"type\":\"snapshot\",\"tick\":" ++ toString snapshot.tick ++
    ",\"objects\":[" ++ ",".intercalate (snapshot.entries.map SnapshotEntry.text) ++ "]\x7d"

end Snapshot

structure Game where
  tick : Nat
  channels : List Channel
  clients : List ClientId
  names : List (String × ObjectId)
  pending : List (ObjectId × Command Float32)

namespace Game

def empty : Game := ⟨0, [], [], [], []⟩

def openChannel (game : Game) : ClientId × Game :=
  (game.channels.length, { game with channels := game.channels ++ [.fresh] })

def register (game : Game) (client : ClientId) : Game :=
  { game with clients := game.clients ++ [client] }

def send (game : Game) (client : ClientId) (text : String) : Game :=
  { game with channels := game.channels.modify client (·.send text) }

def closeChannel (game : Game) (client : ClientId) : Game :=
  { game with channels := game.channels.modify client Channel.close }

def channelOpen (game : Game) (client : ClientId) : Bool :=
  match game.channels[client]? with
  | some channel => channel.isOpen
  | none => false

def receive (game : Game) (client : ClientId) : List String × Game :=
  let waiting := ((game.channels[client]?).map (·.waiting)).getD []
  (waiting, { game with channels := game.channels.modify client ({ · with waiting := [] }) })

def namesById (game : Game) : List (String × ObjectId) :=
  game.names.mergeSort fun a b => a.2 ≤ b.2

-- Name an object; a name that is used again stands for the newer object.
def addObject (game : Game) (name : String) (id : ObjectId) : Game :=
  { game with names := game.names.filter (·.1 != name) ++ [(name, id)] }

def removeObject (game : Game) (name : String) : Option ObjectId × Game :=
  match game.names.lookup name with
  | none => (none, game)
  | some id =>
      (some id,
        { game with
          names := game.names.filter (·.1 != name)
          pending := game.pending.filter (·.1 != id) })

def queue (game : Game) (id : ObjectId) (command : Command Float32) : Game :=
  { game with pending := game.pending ++ [(id, command)] }

def drain (game : Game) : List (ObjectId × Command Float32) × Game :=
  (game.pending, { game with pending := [] })

def described? (world : World Float32) (named : String × ObjectId) : Option SnapshotEntry :=
  (world.position? named.2).map fun position =>
    ⟨named.1, named.2, (world.kind? named.2).getD .none, position⟩

def snapshot (game : Game) (world : World Float32) : Snapshot where
  tick := game.tick
  entries := game.namesById.filterMap (described? world)

def broadcast (game : Game) (world : World Float32) : Game :=
  let game := { game with clients := game.clients.filter game.channelOpen }
  if game.clients.isEmpty then game
  else
    let text := (game.snapshot world).text
    game.clients.foldl (fun game client => game.send client text) game

end Game

end VehicleSim
