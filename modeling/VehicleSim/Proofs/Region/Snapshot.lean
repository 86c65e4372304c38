import VehicleSim.Proofs.Region.Broadcast
import VehicleSim.Proofs.Region.Delivery
import VehicleSim.Proofs.Region.SnapshotText

/-!
What the clients are told. A snapshot lists the objects of those who are connected, each once and in the order of
their ids, and everyone whose line is open is sent the same text.
-/

set_option autoImplicit false

namespace VehicleSim

def SnapshotEntry.named (entry : SnapshotEntry) : String × ObjectId := (entry.name, entry.id)

namespace Game

-- The objects that are named, if the table of names gives them out in this order.
def listed (world : World Float32) (order : List (String × ObjectId)) : List SnapshotEntry :=
  (order.filterMap (described? world)).mergeSort fun a b => a.id ≤ b.id

end Game

namespace Region

-- `lost` are the clients whose lines have been cut.
structure Intact (region : Region) (coming : List String) (lost : List ClientId) : Prop where
  consistent : Consistent region coming
  enrolled : region.game.Enrolled
  online : ∀ connection ∈ region.connections, connection.client ∉ lost →
    region.game.channelOpen connection.client = true

theorem intact_create (settings : Settings Float32) (terrain : Terrain Float32) (coming : List String)
    (unique : coming.Nodup) : Intact (create settings terrain) coming [] where
  consistent := consistent_create settings terrain coming unique
  enrolled := Game.enrolled_empty
  online := fun _ member => absurd member List.not_mem_nil

theorem intact_join (region : Region) (name : String) (coming : List String) (lost : List ClientId)
    (intact : Intact region (name :: coming) lost) : Intact (region.join name) coming lost := by
  refine ⟨consistent_join region name coming intact.consistent, ?_, ?_⟩
  · exact Game.enrolled_of_same_clients _ _ (Game.enrolled_register region.game intact.enrolled) rfl rfl fun _ => id
  · intro connection member kept
    refine (Game.channel_open_fresh region.game connection.client).trans ?_
    rw [Bool.or_eq_true, beq_iff_eq]
    rcases List.mem_append.mp member with old | new
    · exact Or.inr (intact.online connection old kept)
    · rw [List.mem_singleton.mp new]
      exact Or.inl rfl

theorem intact_modify (region : Region) (client : ClientId) (change : Channel → Channel) (coming : List String)
    (lost : List ClientId) (keeps : ∀ channel, (change channel).isOpen = channel.isOpen)
    (intact : Intact region coming lost) :
    Intact { region with game := { region.game with channels := region.game.channels.modify client change } }
      coming lost := by
  refine ⟨consistent_channels region _ coming (List.length_modify _ _ _) intact.consistent,
    Game.enrolled_modify _ _ _ keeps intact.enrolled, ?_⟩
  intro connection member kept
  exact (Game.channel_open_modify _ _ _ _ keeps).trans (intact.online connection member kept)

theorem intact_send (region : Region) (client : ClientId) (text : String) (coming : List String)
    (lost : List ClientId) (intact : Intact region coming lost) :
    Intact { region with game := region.game.send client text } coming lost :=
  intact_modify region client _ coming lost (fun channel => Game.send_open channel text) intact

theorem intact_greet (region : Region) (client : ClientId) (coming : List String) (lost : List ClientId)
    (intact : Intact region coming lost) : Intact (region.greet client) coming lost := by
  unfold greet
  split
  · exact intact_send region client _ coming lost intact
  · exact intact

theorem intact_receive (region : Region) (client : ClientId) (payload : ByteArray) (coming : List String)
    (lost : List ClientId) (intact : Intact region coming lost) :
    Intact (region.receive client payload) coming lost := by
  refine ⟨consistent_receive region client payload coming intact.consistent, ?_, ?_⟩
  · unfold receive
    split
    · exact Game.enrolled_of_same_clients _ _ intact.enrolled rfl rfl fun _ => id
    · exact (intact_send region client pongText coming lost intact).enrolled
    · exact intact.enrolled
  · unfold receive
    split
    · exact intact.online
    · exact (intact_send region client pongText coming lost intact).online
    · exact intact.online

theorem intact_cut (region : Region) (client : ClientId) (coming : List String) (lost : List ClientId)
    (intact : Intact region coming lost) :
    Intact { region with game := region.game.closeChannel client } coming (lost ++ [client]) := by
  refine ⟨consistent_undergo region (.cut client) coming intact.consistent, Game.enrolled_close _ _ intact.enrolled, ?_⟩
  intro connection member kept
  rw [List.mem_append, List.mem_singleton, not_or] at kept
  rw [Game.channel_open_close, intact.online connection member kept.1]
  simpa using Ne.symm kept.2

theorem intact_linger (region : Region) (client : ClientId) (coming : List String) (lost : List ClientId)
    (intact : Intact region coming lost) : Intact (region.undergo (.linger client)) coming lost := by
  have clients : (region.leave client).game.clients = region.game.clients := by
    cases found : region.connection? client with
    | none => rw [leave, found]
    | some connection =>
        obtain ⟨present, rfl⟩ := connection_found region client connection found
        rw [leave_found region coming connection intact.consistent present]
        rfl
  refine ⟨consistent_undergo region (.linger client) coming intact.consistent, ?_, ?_⟩
  · exact Game.enrolled_of_same_clients region.game _ intact.enrolled clients rfl fun _ => id
  · intro connection member kept
    have old := (region.connected_undergo (.linger client) connection).mp member
    exact intact.online connection (old.resolve_right (by rintro ⟨_, ⟨⟩, _⟩)).1 kept

theorem intact_leave (region : Region) (client : ClientId) (coming : List String) (lost : List ClientId)
    (intact : Intact region coming lost) : Intact (region.leave client) coming lost := by
  have consistent := consistent_leave region client coming intact.consistent
  cases found : region.connection? client with
  | none =>
      rw [leave, found]
      exact intact
  | some connection =>
      obtain ⟨present, rfl⟩ := connection_found region client connection found
      rw [leave_found region coming connection intact.consistent present] at consistent ⊢
      have others : ∀ other, (region.game.closeChannel connection.client).channelOpen other = true ↔
          connection.client ≠ other ∧ region.game.channelOpen other = true := by
        intro other
        rw [Game.channel_open_close, Bool.and_eq_true, bne_iff_ne]
      refine ⟨consistent, ?_, ?_⟩
      · exact Game.enrolled_of_same_clients region.game _ intact.enrolled rfl (List.length_modify _ _ _)
          fun other line => ((others other).mp line).2
      · intro other member kept
        obtain ⟨stays, apart⟩ := List.mem_filter.mp member
        exact (others other.client).mpr ⟨Ne.symm (bne_iff_ne.mp apart), intact.online other stays kept⟩

theorem enrolled_ready (region : Region) (enrolled : region.game.Enrolled) :
    Game.Enrolled { region.game.drain.2 with tick := region.game.tick + 1 } :=
  Game.enrolled_of_same_clients region.game _ enrolled rfl rfl fun _ => id

theorem tick_sends (region : Region) (enrolled : region.game.Enrolled) (solver : Solver Float32) (dt : Float32) :
    let after := region.tickWith solver dt
    after.game.channels = region.game.channels.map (·.send (after.game.snapshot after.world).text) := by
  dsimp only
  rw [tickWith, Game.snapshot_broadcast]
  exact Game.broadcast_channels _ _ (enrolled_ready region enrolled)

theorem intact_tick (region : Region) (solver : Solver Float32) (dt : Float32) (coming : List String)
    (lost : List ClientId) (intact : Intact region coming lost) : Intact (region.tickWith solver dt) coming lost := by
  have ready := enrolled_ready region intact.enrolled
  refine ⟨consistent_tick_with region solver dt coming intact.consistent, Game.enrolled_broadcast _ _ ready, ?_⟩
  intro connection member kept
  exact (Game.channel_open_broadcast _ _ ready _).trans (intact.online connection member kept)

theorem intact_undergo (region : Region) (incident : Incident) (coming : List String) (lost : List ClientId)
    (intact : Intact region (incident.names ++ coming) lost) :
    Intact (region.undergo incident) coming (lost ++ incident.cuts) := by
  have uncut : ∀ after : Region, Intact after coming lost → Intact after coming (lost ++ []) := by
    intro after intact
    rwa [List.append_nil]
  cases incident with
  | happens event =>
      apply uncut
      cases event with
      | join name => exact intact_join region name coming lost intact
      | greet client => exact intact_greet region client coming lost intact
      | receive client payload => exact intact_receive region client payload coming lost intact
      | leave client => exact intact_leave region client coming lost intact
      | tick dt =>
          change Intact (region.tick dt).2 coming lost
          rw [tick_with]
          exact intact_tick region FreeFlight.solve dt coming lost intact
  | tick solver dt => exact uncut _ (intact_tick region solver dt coming lost intact)
  | collect client => exact uncut _ (intact_modify region client _ coming lost (fun _ => rfl) intact)
  | cut client => exact intact_cut region client coming lost intact
  | linger client => exact uncut _ (intact_linger region client coming lost intact)

theorem intact_run (region : Region) (incidents : List Incident) (coming : List String) (lost : List ClientId)
    (intact : Intact region (incidents.flatMap Incident.names ++ coming) lost) :
    Intact (region.undergoAll incidents) coming (lost ++ incidents.flatMap Incident.cuts) := by
  induction incidents generalizing region lost with
  | nil =>
      rw [List.flatMap_nil, List.append_nil]
      exact intact
  | cons incident rest ih =>
      rw [List.flatMap_cons, ← List.append_assoc]
      rw [List.flatMap_cons, List.append_assoc] at intact
      exact ih _ _ (intact_undergo region incident _ lost intact)

end Region

end VehicleSim
