import VehicleSim.Proofs.World.History
import VehicleSim.Region.Server

/-!
How the parts of a region fit together: connections, names, objects and waiting commands speak of the
same objects, whatever the order in which clients come, talk and go.
-/

set_option autoImplicit false

namespace VehicleSim

def WorldObject.obeyAll (commands : List (ObjectId × Command Float32)) (object : WorldObject Float32) :
    WorldObject Float32 :=
  (commands.filter (·.1 == object.id)).foldl (fun object entry => object.obey entry.2) object

namespace Game

theorem send_frame (game : Game) (client : ClientId) (text : String) :
    (game.send client text).names = game.names ∧ (game.send client text).pending = game.pending ∧
      (game.send client text).tick = game.tick ∧
      (game.send client text).channels.length = game.channels.length :=
  ⟨rfl, rfl, rfl, List.length_modify _ _ _⟩

theorem send_all_frame (game : Game) (clients : List ClientId) (text : String) :
    (clients.foldl (fun game client => game.send client text) game).names = game.names ∧
      (clients.foldl (fun game client => game.send client text) game).pending = game.pending ∧
      (clients.foldl (fun game client => game.send client text) game).tick = game.tick ∧
      (clients.foldl (fun game client => game.send client text) game).channels.length = game.channels.length := by
  induction clients generalizing game with
  | nil => exact ⟨rfl, rfl, rfl, rfl⟩
  | cons client rest ih =>
      obtain ⟨names, pending, tick, channels⟩ := ih (game.send client text)
      exact ⟨names, pending, tick, channels.trans (send_frame game client text).2.2.2⟩

theorem broadcast_frame (game : Game) (world : World Float32) :
    (game.broadcast world).names = game.names ∧ (game.broadcast world).pending = game.pending ∧
      (game.broadcast world).tick = game.tick ∧
      (game.broadcast world).channels.length = game.channels.length := by
  unfold broadcast
  dsimp only
  split
  · exact ⟨rfl, rfl, rfl, rfl⟩
  · exact send_all_frame _ _ _

theorem remove_object_frame (game : Game) (name : String) :
    (game.removeObject name).2.tick = game.tick ∧ (game.removeObject name).2.channels = game.channels := by
  unfold removeObject
  split <;> exact ⟨rfl, rfl⟩

end Game

namespace Region

theorem apply_command (world : World Float32) (applied : List (ObjectId × Bool)) (id : ObjectId)
    (command : Command Float32) :
    applyCommand (applied, world) (id, command) =
      (applied ++ [(id, (world.command id command).1)], (world.command id command).2) := rfl

theorem apply_commands_from (world : World Float32) (applied : List (ObjectId × Bool))
    (commands : List (ObjectId × Command Float32)) :
    commands.foldl applyCommand (applied, world) =
      (applied ++ (applyCommands world commands).1, (applyCommands world commands).2) := by
  induction commands generalizing world applied with
  | nil => simp [applyCommands]
  | cons entry rest ih =>
      obtain ⟨id, command⟩ := entry
      rw [applyCommands, List.foldl_cons, List.foldl_cons, apply_command, apply_command, ih, List.nil_append,
        ih _ [(id, _)], List.append_assoc]

theorem apply_commands_cons (world : World Float32) (id : ObjectId) (command : Command Float32)
    (rest : List (ObjectId × Command Float32)) :
    applyCommands world ((id, command) :: rest) =
      ((id, (world.command id command).1) :: (applyCommands (world.command id command).2 rest).1,
        (applyCommands (world.command id command).2 rest).2) := by
  rw [applyCommands, List.foldl_cons, apply_command, List.nil_append, apply_commands_from]
  rfl

theorem apply_commands_run (world : World Float32) (commands : List (ObjectId × Command Float32)) :
    (applyCommands world commands).2 = world.run (commands.map fun entry => .command entry.1 entry.2) := by
  induction commands generalizing world with
  | nil => rfl
  | cons entry rest ih =>
      rw [apply_commands_cons, ih]
      rfl

theorem apply_commands_well_formed (world : World Float32) (commands : List (ObjectId × Command Float32))
    (good : world.WellFormed) : (applyCommands world commands).2.WellFormed := by
  rw [apply_commands_run]
  exact World.well_formed_run world _ good

theorem apply_commands_ids (world : World Float32) (commands : List (ObjectId × Command Float32))
    (good : world.WellFormed) :
    (applyCommands world commands).2.roster.map (·.id) = world.roster.map (·.id) := by
  induction commands generalizing world with
  | nil => rfl
  | cons entry rest ih =>
      rw [apply_commands_cons, ih _ (World.well_formed_command world entry.1 entry.2 good)]
      exact World.command_ids world entry.1 entry.2 good

theorem apply_commands_next_id (world : World Float32) (commands : List (ObjectId × Command Float32)) :
    (applyCommands world commands).2.nextId = world.nextId := by
  induction commands generalizing world with
  | nil => rfl
  | cons entry rest ih =>
      rw [apply_commands_cons, ih]
      exact World.command_next_id world entry.1 entry.2

theorem apply_commands_known (world : World Float32) (commands : List (ObjectId × Command Float32))
    (good : world.WellFormed) (present : ∀ entry ∈ commands, world.Present entry.1) :
    (applyCommands world commands).1 = commands.map fun entry => (entry.1, true) := by
  induction commands generalizing world with
  | nil => rfl
  | cons entry rest ih =>
      have known := World.command_known world entry.1 entry.2 (present entry List.mem_cons_self)
      rw [apply_commands_cons, known, List.map_cons,
        ih _ (World.well_formed_command world entry.1 entry.2 good)]
      intro later member
      exact (World.command_present world entry.1 later.1 entry.2 good).mpr
        (present later (List.mem_cons_of_mem _ member))

theorem obey_all_cons (id : ObjectId) (command : Command Float32) (rest : List (ObjectId × Command Float32))
    (object : WorldObject Float32) :
    object.obeyAll ((id, command) :: rest) =
      (if object.id = id then object.obey command else object).obeyAll rest := by
  by_cases own : object.id = id
  · rw [if_pos own, WorldObject.obeyAll, List.filter_cons_of_pos (by simp [own])]
    rfl
  · rw [if_neg own, WorldObject.obeyAll, List.filter_cons_of_neg (by simpa using Ne.symm own)]
    rfl

theorem apply_commands_objects (world : World Float32) (commands : List (ObjectId × Command Float32))
    (good : world.WellFormed) :
    (applyCommands world commands).2.objects = world.objects.map (WorldObject.obeyAll commands) := by
  induction commands generalizing world with
  | nil => exact (List.map_id world.objects).symm
  | cons entry rest ih =>
      rw [apply_commands_cons, ih _ (World.well_formed_command world entry.1 entry.2 good),
        World.command_objects world entry.1 entry.2 good.distinct, World.modify, List.map_map]
      exact List.map_congr_left fun object _ => (obey_all_cons entry.1 entry.2 rest object).symm

end Region

def Event.names : Event → List String
  | .join name => [name]
  | _ => []

-- `coming` are the names that later events give out: no name is given out twice.
structure Consistent (region : Region) (coming : List String) : Prop where
  good : region.world.WellFormed
  next : region.world.nextId = region.game.channels.length + 1
  clients : (region.connections.map (·.client)).Nodup
  numbered : ∀ connection ∈ region.connections,
    connection.client < region.game.channels.length ∧ connection.object = connection.client + 1
  unique : (region.connections.map (·.name) ++ coming).Nodup
  named : region.game.names = region.connections.map fun connection => (connection.name, connection.object)
  objects : region.world.roster.map (·.id) = region.connections.map (·.object)
  waiting : ∀ entry ∈ region.game.pending, ∃ connection ∈ region.connections, connection.object = entry.1

namespace Region

theorem consistent_create (settings : Settings Float32) (terrain : Terrain Float32) (coming : List String)
    (unique : coming.Nodup) : Consistent (create settings terrain) coming := by
  refine ⟨World.well_formed_create settings terrain, rfl, List.nodup_nil, ?_, unique, rfl, rfl, ?_⟩
  · exact fun _ member => absurd member List.not_mem_nil
  · exact fun _ member => absurd member List.not_mem_nil

theorem connection_found (region : Region) (client : ClientId) (connection : Connection)
    (found : region.connection? client = some connection) :
    connection ∈ region.connections ∧ connection.client = client := by
  have same := List.find?_some found
  exact ⟨List.mem_of_find?_eq_some found, by simpa using same⟩

theorem connection_of_mem (region : Region) (coming : List String) (connection : Connection)
    (consistent : Consistent region coming) (member : connection ∈ region.connections) :
    region.connection? connection.client = some connection := by
  cases found : region.connection? connection.client with
  | none =>
      rw [connection?, List.find?_eq_none] at found
      exact absurd (by simp) (found connection member)
  | some other =>
      obtain ⟨present, same⟩ := connection_found region connection.client other found
      rw [List.inj_on_of_nodup_map consistent.clients present member same]

theorem same_name (region : Region) (coming : List String) (first second : Connection)
    (consistent : Consistent region coming) (firstIn : first ∈ region.connections)
    (secondIn : second ∈ region.connections) (same : first.name = second.name) : first = second :=
  List.inj_on_of_nodup_map (List.nodup_append.mp consistent.unique).1 firstIn secondIn same

theorem same_object (region : Region) (coming : List String) (first second : Connection)
    (consistent : Consistent region coming) (firstIn : first ∈ region.connections)
    (secondIn : second ∈ region.connections) (same : first.object = second.object) : first = second := by
  have clients : first.client = second.client := by
    have shifted := (consistent.numbered first firstIn).2.symm.trans
      (same.trans (consistent.numbered second secondIn).2)
    exact Nat.succ.inj shifted
  exact List.inj_on_of_nodup_map consistent.clients firstIn secondIn clients

def newcomer (region : Region) (name : String) : Connection :=
  ⟨region.game.channels.length, name, region.world.nextId⟩

theorem join_connections (region : Region) (name : String) :
    (region.join name).connections = region.connections ++ [region.newcomer name] := rfl

theorem join_channels (region : Region) (name : String) :
    (region.join name).game.channels.length = region.game.channels.length + 1 := by
  change (region.game.channels ++ [Channel.fresh]).length = _
  rw [List.length_append]
  rfl

theorem join_names (region : Region) (name : String) :
    (region.join name).game.names =
      region.game.names.filter (·.1 != name) ++ [(name, region.world.nextId)] := rfl

theorem consistent_join (region : Region) (name : String) (coming : List String)
    (consistent : Consistent region (name :: coming)) : Consistent (region.join name) coming := by
  have fresh : ∀ connection ∈ region.connections, connection.name ≠ name := by
    intro connection member
    have apart := (List.nodup_append.mp consistent.unique).2.2
    exact apart connection.name (List.mem_map_of_mem member) name List.mem_cons_self
  have unnamed : region.game.names.filter (fun named => named.1 != name) = region.game.names := by
    rw [consistent.named, List.filter_eq_self]
    intro named member
    obtain ⟨connection, present, rfl⟩ := List.mem_map.mp member
    simpa using fresh connection present
  refine ⟨World.well_formed_spawn _ _ _ _ consistent.good, ?_, ?_, ?_, ?_, ?_, ?_, ?_⟩
  · rw [join_channels, ← consistent.next]
    rfl
  · rw [join_connections, List.map_append, List.nodup_append]
    refine ⟨consistent.clients, by simp, ?_⟩
    intro old present new added same
    obtain ⟨connection, member, rfl⟩ := List.mem_map.mp present
    have last : new = region.game.channels.length := by simpa [newcomer] using added
    exact Nat.ne_of_lt (consistent.numbered connection member).1 (same.trans last)
  · intro connection member
    rw [join_channels]
    rcases List.mem_append.mp member with old | new
    · obtain ⟨below, numbered⟩ := consistent.numbered connection old
      exact ⟨Nat.lt_succ_of_lt below, numbered⟩
    · rw [List.mem_singleton.mp new]
      exact ⟨Nat.lt_succ_self _, consistent.next⟩
  · rw [join_connections, List.map_append, List.append_assoc]
    exact consistent.unique
  · rw [join_connections, join_names, unnamed, consistent.named, List.map_append]
    rfl
  · change (region.world.spawnBox _ _ _).2.roster.map (·.id) = _
    rw [join_connections, World.spawn_roster, List.map_append, consistent.objects, List.map_append]
    rfl
  · intro entry member
    obtain ⟨connection, present, same⟩ := consistent.waiting entry member
    exact ⟨connection, List.mem_append_left _ present, same⟩

theorem consistent_channels (region : Region) (channels : List Channel) (coming : List String)
    (same : channels.length = region.game.channels.length) (consistent : Consistent region coming) :
    Consistent { region with game := { region.game with channels := channels } } coming := by
  refine ⟨consistent.good, ?_, consistent.clients, ?_, consistent.unique, consistent.named, consistent.objects,
    consistent.waiting⟩
  · exact consistent.next.trans (congrArg (· + 1) same.symm)
  · intro connection member
    obtain ⟨below, numbered⟩ := consistent.numbered connection member
    exact ⟨Nat.lt_of_lt_of_eq below same.symm, numbered⟩

theorem consistent_send (region : Region) (client : ClientId) (text : String) (coming : List String)
    (consistent : Consistent region coming) :
    Consistent { region with game := region.game.send client text } coming :=
  consistent_channels region _ coming (region.game.send_frame client text).2.2.2 consistent

theorem consistent_greet (region : Region) (client : ClientId) (coming : List String)
    (consistent : Consistent region coming) : Consistent (region.greet client) coming := by
  unfold greet
  split
  · exact consistent_send region client _ coming consistent
  · exact consistent

theorem consistent_receive (region : Region) (client : ClientId) (payload : ByteArray) (coming : List String)
    (consistent : Consistent region coming) : Consistent (region.receive client payload) coming := by
  unfold receive
  split
  · rename_i connection command found decoded
    obtain ⟨present, _⟩ := connection_found region client connection found
    refine ⟨consistent.good, consistent.next, consistent.clients, consistent.numbered, consistent.unique,
      consistent.named, consistent.objects, ?_⟩
    intro entry member
    rcases List.mem_append.mp member with old | new
    · exact consistent.waiting entry old
    · rw [List.mem_singleton.mp new]
      exact ⟨connection, present, rfl⟩
  · exact consistent_send region client pongText coming consistent
  · exact consistent

theorem lookup_name (region : Region) (coming : List String) (connection : Connection)
    (consistent : Consistent region coming) (member : connection ∈ region.connections) :
    region.game.names.lookup connection.name = some connection.object := by
  obtain ⟨older, newer, split⟩ := List.append_of_mem member
  rw [List.lookup_eq_some_iff, consistent.named, split, List.map_append]
  refine ⟨_, _, rfl, ?_⟩
  intro named earlier
  obtain ⟨other, present, rfl⟩ := List.mem_map.mp earlier
  have distinct := (List.nodup_append.mp consistent.unique).1
  rw [split, List.map_append, List.nodup_append] at distinct
  have differs := distinct.2.2 other.name (List.mem_map_of_mem present) connection.name (by simp)
  simpa using Ne.symm differs

theorem leave_found (region : Region) (coming : List String) (connection : Connection)
    (consistent : Consistent region coming) (member : connection ∈ region.connections) :
    region.leave connection.client =
      { world := (region.world.removeObject connection.object).2
        game :=
          { region.game with
            names := region.game.names.filter (·.1 != connection.name)
            pending := region.game.pending.filter (·.1 != connection.object) }.closeChannel connection.client
        connections := region.connections.filter (·.client != connection.client) } := by
  rw [leave, connection_of_mem region coming connection consistent member]
  simp only [Game.removeObject, lookup_name region coming connection consistent member]

theorem consistent_leave (region : Region) (client : ClientId) (coming : List String)
    (consistent : Consistent region coming) : Consistent (region.leave client) coming := by
  cases found : region.connection? client with
  | none =>
      rw [leave, found]
      exact consistent
  | some connection =>
      obtain ⟨present, rfl⟩ := connection_found region client connection found
      rw [leave_found region coming connection consistent present]
      have named : ∀ other ∈ region.connections,
          (other.name != connection.name) = (other.client != connection.client) := by
        intro other member
        by_cases same : other = connection
        · simp [same]
        · have names := fun equal => same (same_name region coming other connection consistent member present equal)
          have clients := fun equal => same (List.inj_on_of_nodup_map consistent.clients member present equal)
          rw [bne_iff_ne.mpr names, bne_iff_ne.mpr clients]
      have owned : ∀ other ∈ region.connections,
          (other.object != connection.object) = (other.client != connection.client) := by
        intro other member
        by_cases same : other = connection
        · simp [same]
        · have objects := fun equal => same (same_object region coming other connection consistent member present equal)
          have clients := fun equal => same (List.inj_on_of_nodup_map consistent.clients member present equal)
          rw [bne_iff_ne.mpr objects, bne_iff_ne.mpr clients]
      have fewer : (region.connections.filter (·.client != connection.client)).Sublist region.connections :=
        List.filter_sublist
      refine ⟨World.well_formed_remove _ _ consistent.good, ?_, consistent.clients.sublist (fewer.map _), ?_, ?_, ?_,
        ?_, ?_⟩
      · rw [World.remove_next_id, consistent.next]
        exact congrArg (· + 1) (List.length_modify _ _ _).symm
      · intro other member
        obtain ⟨below, numbered⟩ := consistent.numbered other (fewer.subset member)
        exact ⟨Nat.lt_of_lt_of_eq below (List.length_modify _ _ _).symm, numbered⟩
      · exact consistent.unique.sublist ((fewer.map _).append_right coming)
      · change region.game.names.filter (·.1 != connection.name) = _
        rw [consistent.named, List.filter_map]
        exact congrArg (List.map _) (List.filter_congr named)
      · rw [World.remove_roster]
        have objects : (region.world.roster.filter (·.id != connection.object)).map (·.id) =
            (region.world.roster.map (·.id)).filter (· != connection.object) := by
          rw [List.filter_map]
          rfl
        rw [objects, consistent.objects, List.filter_map]
        exact congrArg (List.map _) (List.filter_congr owned)
      · intro entry member
        obtain ⟨queued, other⟩ := List.mem_filter.mp member
        obtain ⟨owner, inside, same⟩ := consistent.waiting entry queued
        refine ⟨owner, List.mem_filter.mpr ⟨inside, ?_⟩, same⟩
        rw [← owned owner inside, same]
        exact other

def tickWith (solver : Solver Float32) (dt : Float32) (region : Region) : Region :=
  let world := (applyCommands region.world region.game.pending).2.stepWith solver dt
  { region with world, game := { region.game.drain.2 with tick := region.game.tick + 1 }.broadcast world }

theorem tick_with (region : Region) (dt : Float32) : (region.tick dt).2 = region.tickWith FreeFlight.solve dt := rfl

theorem consistent_tick_with (region : Region) (solver : Solver Float32) (dt : Float32) (coming : List String)
    (consistent : Consistent region coming) : Consistent (region.tickWith solver dt) coming := by
  have good := apply_commands_well_formed region.world region.game.pending consistent.good
  obtain ⟨names, pending, _, channels⟩ :=
    { region.game with pending := [], tick := region.game.tick + 1 }.broadcast_frame (region.tickWith solver dt).world
  refine ⟨World.well_formed_step _ solver dt good, ?_, consistent.clients, ?_, consistent.unique, ?_, ?_, ?_⟩
  · have next := World.next_id_step_with _ solver dt good
    rw [apply_commands_next_id, consistent.next] at next
    exact next.trans (congrArg (· + 1) channels.symm)
  · intro connection member
    obtain ⟨below, numbered⟩ := consistent.numbered connection member
    exact ⟨Nat.lt_of_lt_of_eq below channels.symm, numbered⟩
  · exact names.trans consistent.named
  · have kept := congrArg (List.map (·.id)) (World.roster_step _ solver dt good)
    rw [apply_commands_ids _ _ consistent.good, consistent.objects] at kept
    exact kept
  · intro entry member
    have drained : (region.tickWith solver dt).game.pending = [] := pending
    rw [drained] at member
    exact absurd member List.not_mem_nil

theorem consistent_tick (region : Region) (dt : Float32) (coming : List String)
    (consistent : Consistent region coming) : Consistent (region.tick dt).2 coming := by
  rw [tick_with]
  exact consistent_tick_with region FreeFlight.solve dt coming consistent

theorem consistent_handle (region : Region) (event : Event) (coming : List String)
    (consistent : Consistent region (event.names ++ coming)) : Consistent (region.handle event) coming := by
  cases event with
  | join name => exact consistent_join region name coming consistent
  | greet client => exact consistent_greet region client coming consistent
  | receive client payload => exact consistent_receive region client payload coming consistent
  | leave client => exact consistent_leave region client coming consistent
  | tick dt => exact consistent_tick region dt coming consistent

end Region

end VehicleSim
