import VehicleSim.Proofs.Region.Consistent

/-!
Who hears a broadcast. Everyone whose line is open is a client once, so a broadcast appends the same text to every
open line and to no other.
-/

set_option autoImplicit false

namespace VehicleSim

namespace Game

theorem channel_open (game : Game) (client : ClientId) :
    game.channelOpen client = (game.channels[client]?).any (·.isOpen) := by
  rw [channelOpen]
  cases game.channels[client]? <;> rfl

theorem send_open (channel : Channel) (text : String) : (channel.send text).isOpen = channel.isOpen := by
  unfold Channel.send
  split <;> rfl

theorem channel_open_modify (game : Game) (client other : ClientId) (change : Channel → Channel)
    (keeps : ∀ channel, (change channel).isOpen = channel.isOpen) :
    channelOpen { game with channels := game.channels.modify other change } client = game.channelOpen client := by
  rw [channel_open, channel_open, List.getElem?_modify]
  cases game.channels[client]? with
  | none => rfl
  | some channel =>
      by_cases here : other = client
      · simp [here, keeps]
      · simp [here]

theorem channel_open_close (game : Game) (client other : ClientId) :
    (game.closeChannel other).channelOpen client = (other != client && game.channelOpen client) := by
  rw [channel_open, channel_open, closeChannel, List.getElem?_modify]
  cases game.channels[client]? with
  | none => simp
  | some channel =>
      by_cases here : other = client
      · simp [here, Channel.close]
      · simp [here]

theorem channel_open_fresh (game : Game) (client : ClientId) :
    game.openChannel.2.channelOpen client = (client == game.channels.length || game.channelOpen client) := by
  rw [channel_open, channel_open, openChannel, List.getElem?_append]
  rcases Nat.lt_trichotomy client game.channels.length with below | rfl | above
  · simp [below, Nat.ne_of_lt below]
  · simp [Channel.fresh]
  · have beyond : [Channel.fresh][client - game.channels.length]? = none :=
      List.getElem?_eq_none (Nat.sub_pos_of_lt above)
    simp [Nat.not_lt_of_lt above, Nat.ne_of_gt above, beyond]

-- Whoever can be reached is a client, and nobody is a client twice.
structure Enrolled (game : Game) : Prop where
  once : game.clients.Nodup
  numbered : ∀ client ∈ game.clients, client < game.channels.length
  reached : ∀ client, game.channelOpen client = true → client ∈ game.clients

theorem enrolled_empty : Enrolled empty where
  once := List.nodup_nil
  numbered := fun _ member => absurd member List.not_mem_nil
  reached := by
    intro client reached
    rw [channel_open] at reached
    cases reached

theorem enrolled_of_same_clients (game other : Game) (enrolled : Enrolled game) (clients : other.clients = game.clients)
    (channels : other.channels.length = game.channels.length)
    (reached : ∀ client, other.channelOpen client = true → game.channelOpen client = true) : Enrolled other := by
  refine ⟨clients ▸ enrolled.once, ?_, fun client line => clients ▸ enrolled.reached client (reached client line)⟩
  rw [clients, channels]
  exact enrolled.numbered

theorem enrolled_modify (game : Game) (client : ClientId) (change : Channel → Channel)
    (keeps : ∀ channel, (change channel).isOpen = channel.isOpen) (enrolled : Enrolled game) :
    Enrolled { game with channels := game.channels.modify client change } := by
  refine enrolled_of_same_clients game _ enrolled rfl (List.length_modify _ _ _) fun other line => ?_
  rwa [channel_open_modify game other client change keeps] at line

theorem enrolled_close (game : Game) (client : ClientId) (enrolled : Enrolled game) :
    Enrolled (game.closeChannel client) := by
  refine enrolled_of_same_clients game _ enrolled rfl (List.length_modify _ _ _) fun other line => ?_
  rw [channel_open_close, Bool.and_eq_true] at line
  exact line.2

theorem enrolled_register (game : Game) (enrolled : Enrolled game) :
    Enrolled (game.openChannel.2.register game.channels.length) := by
  have longer : (game.openChannel.2.register game.channels.length).channels.length = game.channels.length + 1 :=
    List.length_append
  refine ⟨?_, ?_, ?_⟩
  · refine List.nodup_append.mpr ⟨enrolled.once, List.nodup_singleton _, ?_⟩
    intro old member new added same
    rw [List.mem_singleton.mp added] at same
    exact Nat.ne_of_lt (enrolled.numbered old member) same
  · intro client member
    rw [longer]
    rcases List.mem_append.mp member with old | new
    · exact Nat.lt_succ_of_lt (enrolled.numbered client old)
    · rw [List.mem_singleton.mp new]
      exact Nat.lt_succ_self _
  · intro client line
    have line := (channel_open_fresh game client).symm.trans line
    rw [Bool.or_eq_true, beq_iff_eq] at line
    rcases line with new | old
    · exact List.mem_append_right _ (List.mem_singleton.mpr new)
    · exact List.mem_append_left _ (enrolled.reached client old)

theorem send_all_channel (game : Game) (clients : List ClientId) (text : String) (once : clients.Nodup)
    (client : ClientId) :
    (clients.foldl (fun game client => game.send client text) game).channels[client]? =
      game.channels[client]?.map fun channel => if client ∈ clients then channel.send text else channel := by
  induction clients generalizing game with
  | nil => simp
  | cons first rest ih =>
      obtain ⟨apart, later⟩ := List.nodup_cons.mp once
      rw [List.foldl_cons, ih (game.send first text) later, send, List.getElem?_modify]
      cases game.channels[client]? with
      | none => rfl
      | some channel =>
          by_cases here : first = client
          · subst here
            simp [apart]
          · simp [here, Ne.symm here]

theorem send_all_clients (game : Game) (clients : List ClientId) (text : String) :
    (clients.foldl (fun game client => game.send client text) game).clients = game.clients := by
  induction clients generalizing game with
  | nil => rfl
  | cons first rest ih => exact ih (game.send first text)

theorem broadcast_sends (game : Game) (world : World Float32) :
    game.broadcast world = (game.clients.filter game.channelOpen).foldl
      (fun others client => others.send client (game.snapshot world).text)
      { game with clients := game.clients.filter game.channelOpen } := by
  unfold broadcast
  dsimp only
  split
  · rename_i nobody
    rw [List.isEmpty_iff] at nobody
    rw [nobody]
    rfl
  · rfl

theorem unreached_is_deaf (game : Game) (client : ClientId) (channel : Channel) (text : String)
    (enrolled : Enrolled game) (found : game.channels[client]? = some channel)
    (missing : client ∉ game.clients.filter game.channelOpen) : channel.send text = channel := by
  have shut : channel.isOpen = false := by
    by_contra line
    have reached : game.channelOpen client = true := by
      rw [channel_open, found]
      simpa using line
    exact missing (List.mem_filter.mpr ⟨enrolled.reached client reached, reached⟩)
  rw [Channel.send, shut]
  rfl

theorem broadcast_channels (game : Game) (world : World Float32) (enrolled : Enrolled game) :
    (game.broadcast world).channels = game.channels.map (·.send (game.snapshot world).text) := by
  refine List.ext_getElem? fun client => ?_
  rw [List.getElem?_map, broadcast_sends, send_all_channel _ _ _ (enrolled.once.filter _)]
  refine Option.map_congr fun channel found => ?_
  split
  · rfl
  · rename_i missing
    exact (game.unreached_is_deaf client channel _ enrolled found missing).symm

theorem snapshot_broadcast (game : Game) (world other : World Float32) :
    (game.broadcast world).snapshot other = game.snapshot other := by
  obtain ⟨names, _, tick, _⟩ := game.broadcast_frame world
  rw [snapshot, snapshot, namesById, namesById, names, tick]

theorem broadcast_clients (game : Game) (world : World Float32) :
    (game.broadcast world).clients = game.clients.filter game.channelOpen := by
  rw [broadcast_sends, send_all_clients]

theorem channel_open_broadcast (game : Game) (world : World Float32) (enrolled : Enrolled game) (client : ClientId) :
    (game.broadcast world).channelOpen client = game.channelOpen client := by
  rw [channel_open, channel_open, game.broadcast_channels world enrolled, List.getElem?_map, Option.any_map]
  exact congrArg (Option.any · _) (funext fun channel => send_open channel _)

theorem enrolled_broadcast (game : Game) (world : World Float32) (enrolled : Enrolled game) :
    Enrolled (game.broadcast world) := by
  obtain ⟨_, _, _, channels⟩ := game.broadcast_frame world
  refine ⟨?_, ?_, ?_⟩
  · rw [broadcast_clients]
    exact enrolled.once.filter _
  · intro client member
    rw [broadcast_clients] at member
    rw [channels]
    exact enrolled.numbered client (List.mem_filter.mp member).1
  · intro client line
    rw [game.channel_open_broadcast world enrolled] at line
    rw [broadcast_clients]
    exact List.mem_filter.mpr ⟨enrolled.reached client line, line⟩

end Game

end VehicleSim
