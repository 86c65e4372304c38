import VehicleSim.Proofs.Region.Consistent

/-!
All that can befall a region: its events, ticks in which the bodies move in any way at all, and what happens to lines
without an event.
-/

set_option autoImplicit false

namespace VehicleSim

inductive Incident where
  | happens (event : Event)
  | tick (solver : Solver Float32) (dt : Float32)
  -- What waits on a line is taken off to be sent.
  | collect (client : ClientId)
  -- A line breaks, be its client connected or not.
  | cut (client : ClientId)
  -- A client leaves, and nobody has noticed yet that its line is broken.
  | linger (client : ClientId)

namespace Incident

def names : Incident → List String
  | .happens event => event.names
  | _ => []

def cuts : Incident → List ClientId
  | .cut client => [client]
  | _ => []

def isTick : Incident → Bool
  | .happens (.tick _) | .tick _ _ => true
  | _ => false

def leaver? : Incident → Option ClientId
  | .happens (.leave client) | .linger client => some client
  | _ => none

end Incident

namespace Region

def undergo (region : Region) : Incident → Region
  | .happens event => region.handle event
  | .tick solver dt => region.tickWith solver dt
  | .collect client => { region with game := (region.game.receive client).2 }
  | .cut client => { region with game := region.game.closeChannel client }
  | .linger client =>
      let left := region.leave client
      { left with game := { left.game with channels := region.game.channels } }

def undergoAll (region : Region) (incidents : List Incident) : Region := incidents.foldl undergo region

def ticks (incidents : List Incident) : Nat := incidents.countP Incident.isTick

def joins (incidents : List Incident) : Nat := (incidents.flatMap Incident.names).length

theorem greet_frame (region : Region) (client : ClientId) :
    (region.greet client).connections = region.connections ∧
      (region.greet client).game.pending = region.game.pending ∧
      (region.greet client).game.tick = region.game.tick ∧
      (region.greet client).game.channels.length = region.game.channels.length := by
  rw [greet]
  split
  · exact ⟨rfl, (region.game.send_frame client _).2⟩
  · exact ⟨rfl, rfl, rfl, rfl⟩

theorem receive_frame (region : Region) (client : ClientId) (payload : ByteArray) :
    (region.receive client payload).connections = region.connections ∧
      (region.receive client payload).game.tick = region.game.tick ∧
      (region.receive client payload).game.channels.length = region.game.channels.length := by
  rw [receive]
  split
  · exact ⟨rfl, rfl, rfl⟩
  · exact ⟨rfl, (region.game.send_frame client pongText).2.2⟩
  · exact ⟨rfl, rfl, rfl⟩

theorem leave_frame (region : Region) (client : ClientId) :
    (region.leave client).connections = region.connections.filter (·.client != client) ∧
      (region.leave client).game.tick = region.game.tick ∧
      (region.leave client).game.channels.length = region.game.channels.length := by
  cases found : region.connection? client with
  | none =>
      rw [leave, found]
      refine ⟨?_, rfl, rfl⟩
      rw [eq_comm, List.filter_eq_self]
      intro connection member
      rw [connection?, List.find?_eq_none] at found
      exact bne_iff_ne.mpr fun same => found connection member (beq_iff_eq.mpr same)
  | some connection =>
      obtain ⟨tick, channels⟩ := region.game.remove_object_frame connection.name
      rw [leave, found]
      exact ⟨rfl, tick, (List.length_modify _ _ _).trans (congrArg List.length channels)⟩

theorem tick_frame (region : Region) (solver : Solver Float32) (dt : Float32) :
    (region.tickWith solver dt).connections = region.connections ∧
      (region.tickWith solver dt).game.pending = [] ∧
      (region.tickWith solver dt).game.tick = region.game.tick + 1 ∧
      (region.tickWith solver dt).game.channels.length = region.game.channels.length := by
  obtain ⟨_, pending, tick, channels⟩ :=
    { region.game with pending := [], tick := region.game.tick + 1 }.broadcast_frame (region.tickWith solver dt).world
  exact ⟨rfl, pending, tick, channels⟩

theorem undergo_tick (region : Region) (incident : Incident) (ticks : incident.isTick = true) :
    ∃ solver dt, region.undergo incident = region.tickWith solver dt := by
  cases incident with
  | tick solver dt => exact ⟨solver, dt, rfl⟩
  | happens event =>
      cases event with
      | tick dt => exact ⟨FreeFlight.solve, dt, rfl⟩
      | _ => cases ticks
  | _ => cases ticks

theorem tick_undergo (region : Region) (incident : Incident) :
    (region.undergo incident).game.tick = region.game.tick + ticks [incident] := by
  cases incident with
  | tick solver dt => exact (region.tick_frame solver dt).2.2.1
  | linger client => exact (region.leave_frame client).2.1
  | happens event =>
      cases event with
      | join name => rfl
      | greet client => exact (region.greet_frame client).2.2.1
      | receive client payload => exact (region.receive_frame client payload).2.1
      | leave client => exact (region.leave_frame client).2.1
      | tick dt => exact (region.tick_frame FreeFlight.solve dt).2.2.1
  | _ => rfl

theorem channels_undergo (region : Region) (incident : Incident) :
    (region.undergo incident).game.channels.length = region.game.channels.length + incident.names.length := by
  cases incident with
  | tick solver dt => exact (region.tick_frame solver dt).2.2.2
  | collect client => exact List.length_modify _ _ _
  | cut client => exact List.length_modify _ _ _
  | linger client => rfl
  | happens event =>
      cases event with
      | join name => exact join_channels region name
      | greet client => exact (region.greet_frame client).2.2.2
      | receive client payload => exact (region.receive_frame client payload).2.2
      | leave client => exact (region.leave_frame client).2.2
      | tick dt => exact (region.tick_frame FreeFlight.solve dt).2.2.2

-- Whoever leaves is connected no longer, and whoever joins is; nothing else connects or parts anyone.
theorem connected_undergo (region : Region) (incident : Incident) (connection : Connection) :
    connection ∈ (region.undergo incident).connections ↔
      connection ∈ region.connections ∧ incident.leaver? ≠ some connection.client ∨
        ∃ name ∈ incident.names, connection = region.newcomer name := by
  have kept (after : Region) (same : after.connections = region.connections) :
      connection ∈ after.connections ↔ connection ∈ region.connections ∧ none ≠ some connection.client ∨
        ∃ name ∈ [], connection = region.newcomer name := by
    simp [same]
  have left (client : ClientId) : connection ∈ (region.leave client).connections ↔
      connection ∈ region.connections ∧ some client ≠ some connection.client ∨
        ∃ name ∈ [], connection = region.newcomer name := by
    rw [(region.leave_frame client).1, List.mem_filter, bne_iff_ne, ne_comm]
    simp
  cases incident with
  | happens event =>
      cases event with
      | join name =>
          change connection ∈ region.connections ++ [region.newcomer name] ↔ _
          simp [Incident.leaver?, Incident.names, Event.names]
      | greet client => exact kept _ (region.greet_frame client).1
      | receive client payload => exact kept _ (region.receive_frame client payload).1
      | leave client => exact left client
      | tick dt => exact kept _ rfl
  | linger client => exact left client
  | _ => exact kept _ rfl

theorem ticks_cons (incident : Incident) (rest : List Incident) :
    ticks (incident :: rest) = ticks [incident] + ticks rest :=
  @List.countP_append _ Incident.isTick [incident] rest

theorem joins_cons (incident : Incident) (rest : List Incident) :
    joins (incident :: rest) = incident.names.length + joins rest := by
  rw [joins, List.flatMap_cons, List.length_append]
  rfl

theorem tick_undergo_all (region : Region) (incidents : List Incident) :
    (region.undergoAll incidents).game.tick = region.game.tick + ticks incidents := by
  induction incidents generalizing region with
  | nil => rfl
  | cons incident rest ih =>
      calc
        ((region.undergo incident).undergoAll rest).game.tick = region.game.tick + ticks [incident] + ticks rest := by
          rw [ih, tick_undergo]
        _ = region.game.tick + ticks (incident :: rest) := by rw [ticks_cons incident rest, Nat.add_assoc]

theorem channels_undergo_all (region : Region) (incidents : List Incident) :
    (region.undergoAll incidents).game.channels.length = region.game.channels.length + joins incidents := by
  induction incidents generalizing region with
  | nil => rfl
  | cons incident rest ih =>
      calc
        ((region.undergo incident).undergoAll rest).game.channels.length =
            region.game.channels.length + incident.names.length + joins rest := by rw [ih, channels_undergo]
        _ = region.game.channels.length + joins (incident :: rest) := by rw [joins_cons, Nat.add_assoc]

theorem consistent_undergo (region : Region) (incident : Incident) (coming : List String)
    (consistent : Consistent region (incident.names ++ coming)) : Consistent (region.undergo incident) coming := by
  cases incident with
  | happens event => exact consistent_handle region event coming consistent
  | tick solver dt => exact consistent_tick_with region solver dt coming consistent
  | collect client => exact consistent_channels region _ coming (List.length_modify _ _ _) consistent
  | cut client => exact consistent_channels region _ coming (List.length_modify _ _ _) consistent
  | linger client =>
      have left := consistent_leave region client coming consistent
      exact consistent_channels (region.leave client) _ coming (region.leave_frame client).2.2.symm left

theorem consistent_undergo_all (region : Region) (incidents : List Incident) (coming : List String)
    (consistent : Consistent region (incidents.flatMap Incident.names ++ coming)) :
    Consistent (region.undergoAll incidents) coming := by
  induction incidents generalizing region with
  | nil => exact consistent
  | cons incident rest ih =>
      rw [List.flatMap_cons, List.append_assoc] at consistent
      exact ih _ (consistent_undergo region incident _ consistent)

end Region

end VehicleSim
