import VehicleSim.Proofs.Region.Snapshot

/-!
What is put on the line of a client, and in which order. A client hears of itself only by the welcome that is sent
to it some time after it has joined, and from its joining on it is sent a snapshot by every tick.
-/

set_option autoImplicit false

namespace VehicleSim

namespace Incident

def pings (client : ClientId) : Incident → Bool
  | .happens (.receive sender payload) =>
      sender == client &&
        match Region.payloadMessage? payload with
        | some .ping => true
        | _ => false
  | _ => false

def talker? : Incident → Option ClientId
  | .happens (.greet client) | .happens (.receive client _) => some client
  | _ => none

def ended? : Incident → Option ClientId
  | .happens (.leave client) | .cut client | .linger client => some client
  | _ => none

def collects (client : ClientId) : Incident → Bool
  | .collect other => other == client
  | _ => false

end Incident

namespace Region

def line (region : Region) (client : ClientId) : List String :=
  ((region.game.channels[client]?).map (·.waiting)).getD []

def placed (region : Region) (client : ClientId) (incident : Incident) : List String :=
  ((region.undergo incident).line client).drop (region.line client).length

def placedAll (client : ClientId) : Region → List Incident → List String
  | _, [] => []
  | region, incident :: rest => region.placed client incident ++ placedAll client (region.undergo incident) rest

-- What a client is told by an incident that ends with `after`.
def told (connection : Connection) (after : Region) (incident : Incident) : List String :=
  if incident.isTick then [(after.game.snapshot after.world).text]
  else if incident.pings connection.client then [pongText]
  else
    match incident with
    | .happens (.greet client) => if client = connection.client then [welcomeText connection] else []
    | _ => []

def toldAll (connection : Connection) : Region → List Incident → List String
  | _, [] => []
  | region, incident :: rest =>
      told connection (region.undergo incident) incident ++ toldAll connection (region.undergo incident) rest

-- The client is connected, and its line is open.
structure Hears (region : Region) (connection : Connection) (waiting : List String) : Prop where
  connected : connection ∈ region.connections
  channel : region.game.channels[connection.client]? = some ⟨waiting, true⟩

theorem Hears.line {region : Region} {connection : Connection} {waiting : List String}
    (hears : Hears region connection waiting) : region.line connection.client = waiting := by
  rw [Region.line, hears.channel]
  rfl

variable {region : Region} {connection : Connection} {waiting : List String}

theorem channel_modify {client : ClientId} {channel : Channel}
    (found : region.game.channels[client]? = some channel) (other : ClientId) (change : Channel → Channel) :
    (region.game.channels.modify other change)[client]? =
      some (if other = client then change channel else channel) := by
  rw [List.getElem?_modify, found]
  by_cases here : other = client
  · simp [here]
  · simp [here]

theorem channel_other {client : ClientId} {channel : Channel} (found : region.game.channels[client]? = some channel)
    (other : ClientId) (change : Channel → Channel) (apart : other ≠ client) :
    (region.game.channels.modify other change)[client]? = some channel := by
  rw [channel_modify found, if_neg apart]

theorem channel_join {client : ClientId} {channel : Channel} (found : region.game.channels[client]? = some channel)
    (name : String) : (region.join name).game.channels[client]? = some channel := by
  change (region.game.channels ++ [Channel.fresh])[client]? = _
  obtain ⟨inside, _⟩ := List.getElem?_eq_some_iff.mp found
  rw [List.getElem?_append_left inside, found]

theorem leaver_ended (incident : Incident) (client : ClientId) (leaves : incident.leaver? = some client) :
    incident.ended? = some client := by
  cases incident with
  | happens event => cases event <;> exact leaves
  | linger sender => exact leaves
  | _ => cases leaves

theorem channel_greet (hears : Hears region connection waiting) (coming : List String)
    (consistent : Consistent region coming) (client : ClientId) :
    (region.greet client).game.channels[connection.client]? =
      some ⟨waiting ++ if client = connection.client then [welcomeText connection] else [], true⟩ := by
  by_cases own : client = connection.client
  · subst own
    rw [greet, connection_of_mem region coming connection consistent hears.connected, if_pos rfl]
    exact (channel_modify hears.channel _ _).trans (by rw [if_pos rfl]; rfl)
  · rw [if_neg own, List.append_nil, greet]
    split
    · exact channel_other hears.channel client _ own
    · exact hears.channel

theorem channel_receive (hears : Hears region connection waiting) (coming : List String)
    (consistent : Consistent region coming) (client : ClientId) (payload : ByteArray) :
    (region.receive client payload).game.channels[connection.client]? =
      some ⟨waiting ++ if (Incident.happens (.receive client payload)).pings connection.client then [pongText] else [],
        true⟩ := by
  by_cases own : client = connection.client
  · subst own
    rw [receive, connection_of_mem region coming connection consistent hears.connected, Incident.pings,
      beq_self_eq_true, Bool.true_and]
    cases payloadMessage? payload with
    | none => simpa using hears.channel
    | some message =>
        cases message with
        | command command => exact hears.channel.trans (by simp)
        | ping => exact (channel_modify hears.channel _ _).trans (by rw [if_pos rfl]; rfl)
  · have silent : (Incident.happens (.receive client payload)).pings connection.client = false := by
      rw [Incident.pings, beq_eq_false_iff_ne.mpr own, Bool.false_and]
    rw [silent, if_neg Bool.false_ne_true, List.append_nil, receive]
    split
    · exact hears.channel
    · exact channel_other hears.channel client _ own
    · exact hears.channel

theorem channel_left {client : ClientId} {channel : Channel} (found : region.game.channels[client]? = some channel)
    (leaver : ClientId) (other : leaver ≠ client) : (region.leave leaver).game.channels[client]? = some channel := by
  unfold leave
  split
  · exact found
  · rename_i connection _
    have channels := (region.game.remove_object_frame connection.name).2
    change ((region.game.removeObject connection.name).2.channels.modify leaver _)[client]? = _
    rw [channels]
    exact channel_other found leaver _ other

theorem channel_tick {client : ClientId} {channel : Channel} (found : region.game.channels[client]? = some channel)
    (enrolled : region.game.Enrolled) (solver : Solver Float32) (dt : Float32) :
    let after := region.tickWith solver dt
    after.game.channels[client]? = some (channel.send (after.game.snapshot after.world).text) := by
  dsimp only
  rw [tick_sends region enrolled solver dt, List.getElem?_map, found]
  rfl

theorem channel_collect (hears : Hears region connection waiting) (client : ClientId) :
    (region.undergo (.collect client)).game.channels[connection.client]? =
      some ⟨if client == connection.client then [] else waiting, true⟩ := by
  refine (channel_modify hears.channel _ _).trans ?_
  by_cases own : client = connection.client
  · rw [if_pos own, if_pos (beq_iff_eq.mpr own)]
  · rw [if_neg own, if_neg fun same => own (eq_of_beq same)]

theorem hears_undergo (hears : Hears region connection waiting) (incident : Incident) (coming : List String)
    (lost : List ClientId) (intact : Intact region (incident.names ++ coming) lost)
    (stays : incident.ended? ≠ some connection.client) :
    Hears (region.undergo incident) connection
      ((if incident.collects connection.client then [] else waiting) ++
        told connection (region.undergo incident) incident) := by
  have remains : incident.leaver? ≠ some connection.client := fun leaves => stays (leaver_ended incident _ leaves)
  have other : ∀ client, incident.ended? = some client → client ≠ connection.client :=
    fun client ends same => stays (ends.trans (congrArg some same))
  have silent : ∀ {channels : List Channel} {texts : List String},
      channels[connection.client]? = some ⟨texts, true⟩ → channels[connection.client]? = some ⟨texts ++ [], true⟩ := by
    intro channels texts found
    rwa [List.append_nil]
  refine ⟨(region.connected_undergo incident connection).mpr (Or.inl ⟨hears.connected, remains⟩), ?_⟩
  cases incident with
  | tick solver dt => exact channel_tick hears.channel intact.enrolled solver dt
  | collect client => exact silent (channel_collect hears client)
  | cut client => exact silent (channel_other hears.channel client _ (other client rfl))
  | linger client => exact silent hears.channel
  | happens event =>
      cases event with
      | join name => exact silent (channel_join hears.channel name)
      | greet client => exact channel_greet hears _ intact.consistent client
      | receive client payload => exact channel_receive hears _ intact.consistent client payload
      | leave client => exact silent (channel_left hears.channel client (other client rfl))
      | tick dt => exact channel_tick hears.channel intact.enrolled FreeFlight.solve dt

theorem placed_told (hears : Hears region connection waiting) (incident : Incident) (coming : List String)
    (lost : List ClientId) (intact : Intact region (incident.names ++ coming) lost)
    (stays : incident.ended? ≠ some connection.client) :
    region.placed connection.client incident = told connection (region.undergo incident) incident := by
  rw [placed, (hears_undergo hears incident coming lost intact stays).line, hears.line]
  split
  · rename_i collected
    have silent : told connection (region.undergo incident) incident = [] := by
      cases incident with
      | collect client => rfl
      | happens event => cases event <;> cases collected
      | _ => cases collected
    rw [silent, List.append_nil, List.drop_nil]
  · rw [List.drop_left]

theorem placed_all_told (hears : Hears region connection waiting) (incidents : List Incident) (coming : List String)
    (lost : List ClientId) (intact : Intact region (incidents.flatMap Incident.names ++ coming) lost)
    (stays : ∀ incident ∈ incidents, incident.ended? ≠ some connection.client) :
    placedAll connection.client region incidents = toldAll connection region incidents ∧
      ∃ later, Hears (region.undergoAll incidents) connection later := by
  induction incidents generalizing region waiting lost with
  | nil => exact ⟨rfl, waiting, hears⟩
  | cons incident rest ih =>
      rw [List.flatMap_cons, List.append_assoc] at intact
      rw [List.forall_mem_cons] at stays
      have here := placed_told hears incident _ lost intact stays.1
      have next := hears_undergo hears incident _ lost intact stays.1
      obtain ⟨later, last⟩ := ih next _ (intact_undergo region incident _ lost intact) stays.2
      rw [placedAll, toldAll, here, later]
      exact ⟨rfl, last⟩

def OnlySnapshots (texts : List String) : Prop := ∀ text ∈ texts, ∃ snapshot : Snapshot, text = snapshot.text

theorem only_snapshots_append (first second : List String) :
    OnlySnapshots (first ++ second) ↔ OnlySnapshots first ∧ OnlySnapshots second := List.forall_mem_append

theorem only_snapshots_nil : OnlySnapshots [] := List.forall_mem_nil _

structure Idles (channel next : Channel) : Prop where
  closed : channel.isOpen = false → next.isOpen = false
  snapshots : OnlySnapshots (next.waiting.drop channel.waiting.length)

theorem idles_same (channel : Channel) : Idles channel channel :=
  ⟨id, by rw [List.drop_length]; exact only_snapshots_nil⟩

theorem idles_empty (channel next : Channel) (closed : channel.isOpen = false → next.isOpen = false)
    (empty : next.waiting = []) : Idles channel next :=
  ⟨closed, by rw [empty, List.drop_nil]; exact only_snapshots_nil⟩

theorem idles_unheard (channel : Channel) (text : String) (closed : channel.isOpen = false) :
    Idles channel (channel.send text) := by
  rw [Channel.send, closed, if_neg Bool.false_ne_true]
  exact idles_same channel

theorem idles_snapshot (channel : Channel) (snapshot : Snapshot) : Idles channel (channel.send snapshot.text) := by
  unfold Channel.send
  split
  · refine ⟨id, ?_⟩
    rw [List.drop_left]
    exact fun text member => ⟨snapshot, List.mem_singleton.mp member⟩
  · exact idles_same channel

theorem idles_if (channel changed : Channel) (client other : ClientId)
    (idles : other = client → Idles channel changed) :
    Idles channel (if other = client then changed else channel) := by
  split
  · rename_i own
    exact idles own
  · exact idles_same channel

structure Past (region : Region) (client : ClientId) (channel : Channel) : Prop where
  found : region.game.channels[client]? = some channel
  ended : channel.isOpen = false ∨ region.Unowned client

variable {client : ClientId} {channel : Channel}

theorem Past.deaf (past : Past region client channel) (connection : Connection)
    (found : region.connection? client = some connection) : channel.isOpen = false := by
  obtain ⟨present, same⟩ := connection_found region client connection found
  exact past.ended.resolve_right fun unowned => unowned connection present same

theorem channel_leave (found : region.game.channels[client]? = some channel) (leaver : ClientId) :
    ∃ next, (region.leave leaver).game.channels[client]? = some next ∧ Idles channel next := by
  unfold leave
  split
  · exact ⟨channel, found, idles_same channel⟩
  · rename_i connection _
    have channels := (region.game.remove_object_frame connection.name).2
    refine ⟨_, ?_, idles_if _ _ client leaver fun _ => idles_empty channel channel.close (fun _ => rfl) rfl⟩
    change ((region.game.removeObject connection.name).2.channels.modify leaver _)[client]? = _
    rw [channels]
    exact channel_modify found leaver _

theorem Past.idles (past : Past region client channel) (enrolled : region.game.Enrolled) (incident : Incident) :
    ∃ next, (region.undergo incident).game.channels[client]? = some next ∧ Idles channel next := by
  have sent : ∀ solver dt, ∃ next, (region.tickWith solver dt).game.channels[client]? = some next ∧
      Idles channel next := by
    intro solver dt
    let after := region.tickWith solver dt
    exact ⟨_, channel_tick past.found enrolled solver dt, idles_snapshot channel (after.game.snapshot after.world)⟩
  have unheard : ∀ text other connection, region.connection? other = some connection →
      ∃ next, (region.game.channels.modify other (·.send text))[client]? = some next ∧ Idles channel next := by
    intro text other connection found
    refine ⟨_, channel_modify past.found other _, idles_if _ _ client other fun own => ?_⟩
    exact idles_unheard channel text (past.deaf connection (own ▸ found))
  cases incident with
  | tick solver dt => exact sent solver dt
  | collect other => exact ⟨_, channel_modify past.found other _, idles_if _ _ client other fun _ =>
      idles_empty channel _ id rfl⟩
  | cut other => exact ⟨_, channel_modify past.found other _, idles_if _ _ client other fun _ =>
      idles_empty channel _ (fun _ => rfl) rfl⟩
  | linger other => exact ⟨channel, past.found, idles_same channel⟩
  | happens event =>
      cases event with
      | tick dt => exact sent FreeFlight.solve dt
      | join name => exact ⟨channel, channel_join past.found name, idles_same channel⟩
      | leave other => exact channel_leave past.found other
      | greet other =>
          change ∃ next, (region.greet other).game.channels[client]? = some next ∧ _
          unfold greet
          split
          · rename_i connection found
            exact unheard _ other connection found
          · exact ⟨channel, past.found, idles_same channel⟩
      | receive other payload =>
          change ∃ next, (region.receive other payload).game.channels[client]? = some next ∧ _
          unfold receive
          split
          · exact ⟨channel, past.found, idles_same channel⟩
          · rename_i connection found _
            exact unheard _ other connection found
          · exact ⟨channel, past.found, idles_same channel⟩

theorem placed_idle (found : region.game.channels[client]? = some channel) (incident : Incident) (next : Channel)
    (after : (region.undergo incident).game.channels[client]? = some next) (idles : Idles channel next) :
    OnlySnapshots (region.placed client incident) := by
  rw [placed, line, line, after, found]
  exact idles.snapshots

theorem placed_past (past : Past region client channel) (incidents : List Incident) (coming : List String)
    (lost : List ClientId) (intact : Intact region (incidents.flatMap Incident.names ++ coming) lost) :
    OnlySnapshots (placedAll client region incidents) := by
  induction incidents generalizing region channel lost with
  | nil => exact only_snapshots_nil
  | cons incident rest ih =>
      rw [List.flatMap_cons, List.append_assoc] at intact
      obtain ⟨next, after, idles⟩ := past.idles intact.enrolled incident
      obtain ⟨seen, _⟩ := List.getElem?_eq_some_iff.mp past.found
      have later : Past (region.undergo incident) client next :=
        ⟨after, past.ended.imp idles.closed fun unowned => region.unowned_undergo client incident unowned (Or.inr (Nat.ne_of_gt seen))⟩
      rw [placedAll, only_snapshots_append]
      exact ⟨placed_idle past.found incident next after idles,
        ih later _ (intact_undergo region incident _ lost intact)⟩

theorem past_ended (hears : Hears region connection waiting) (incident : Incident)
    (ends : incident.ended? = some connection.client) :
    ∃ next, Past (region.undergo incident) connection.client next ∧ Idles ⟨waiting, true⟩ next := by
  cases incident with
  | cut other =>
      cases ends
      refine ⟨.close ⟨waiting, true⟩, ?_, ?_⟩
      · exact ⟨(channel_modify hears.channel _ _).trans (congrArg some (if_pos rfl)), Or.inl rfl⟩
      · exact idles_empty _ _ (fun _ => rfl) rfl
  | linger other =>
      cases ends
      exact ⟨_, ⟨hears.channel, Or.inr (region.unowned_leaver _ _ rfl)⟩, idles_same _⟩
  | happens event =>
      cases event with
      | leave other =>
          cases ends
          obtain ⟨next, found, idles⟩ := channel_leave hears.channel connection.client
          exact ⟨next, ⟨found, Or.inr (region.unowned_leaver _ _ rfl)⟩, idles⟩
      | _ => cases ends
  | _ => cases ends

theorem placed_from_end (hears : Hears region connection waiting) (incidents : List Incident) (coming : List String)
    (lost : List ClientId) (intact : Intact region (incidents.flatMap Incident.names ++ coming) lost)
    (ends : ∀ incident ∈ incidents.head?, incident.ended? = some connection.client) :
    OnlySnapshots (placedAll connection.client region incidents) := by
  cases incidents with
  | nil => exact only_snapshots_nil
  | cons incident rest =>
      rw [List.flatMap_cons, List.append_assoc] at intact
      obtain ⟨next, past, idles⟩ := past_ended hears incident (ends incident rfl)
      rw [placedAll, only_snapshots_append]
      exact ⟨placed_idle hears.channel incident next past.found idles,
        placed_past past rest coming _ (intact_undergo region incident _ lost intact)⟩

theorem line_missing (region : Region) (client : ClientId) (missing : region.game.channels.length ≤ client) :
    region.line client = [] := by
  rw [line, List.getElem?_eq_none missing]
  rfl

theorem placed_before (region : Region) (client : ClientId) (incidents : List Incident)
    (missing : region.game.channels.length + joins incidents ≤ client) :
    placedAll client region incidents = [] := by
  induction incidents generalizing region with
  | nil => rfl
  | cons incident rest ih =>
      rw [joins_cons, ← Nat.add_assoc, ← channels_undergo] at missing
      have none : region.placed client incident = [] := by
        rw [placed, line_missing _ _ (Nat.le_trans (Nat.le_add_right _ _) missing), List.drop_nil]
      rw [placedAll, none, ih _ missing]
      rfl

theorem placed_all_append (client : ClientId) (region : Region) (first second : List Incident) :
    placedAll client region (first ++ second) =
      placedAll client region first ++ placedAll client (region.undergoAll first) second := by
  induction first generalizing region with
  | nil => rfl
  | cons incident rest ih =>
      rw [List.cons_append, placedAll, placedAll, ih, List.append_assoc]
      rfl

theorem told_all_append (connection : Connection) (region : Region) (first second : List Incident) :
    toldAll connection region (first ++ second) =
      toldAll connection region first ++ toldAll connection (region.undergoAll first) second := by
  induction first generalizing region with
  | nil => rfl
  | cons incident rest ih =>
      rw [List.cons_append, toldAll, toldAll, ih, List.append_assoc]
      rfl

def Starts (first text : String) : Prop := ∃ rest, text = first ++ rest

theorem starts_apart (first second text other : String) (starts : Starts first text) (others : Starts second other)
    (apart : ∃ count, count ≤ first.toList.length ∧ count ≤ second.toList.length ∧
      first.toList.take count ≠ second.toList.take count) : text ≠ other := by
  obtain ⟨rest, rfl⟩ := starts
  obtain ⟨later, rfl⟩ := others
  obtain ⟨count, long, alsoLong, differs⟩ := apart
  intro same
  have opening := congrArg (fun text : String => text.toList.take count) same
  simp only [String.toList_append] at opening
  rw [List.take_append_of_le_length long, List.take_append_of_le_length alsoLong] at opening
  exact differs opening

theorem starts_append (first second third text : String) (starts : Starts first text) :
    Starts first (text ++ second ++ third) := by
  obtain ⟨rest, rfl⟩ := starts
  exact ⟨rest ++ second ++ third, by rw [String.append_assoc, String.append_assoc, String.append_assoc]⟩

theorem welcome_starts (connection : Connection) : Starts "\x7b\"local_id\":" (welcomeText connection) :=
  starts_append _ _ _ _ (starts_append _ _ _ _ ⟨"", String.append_empty.symm⟩)

theorem snapshot_starts (snapshot : Snapshot) : Starts "\x7b\"type\":\"snapshot\",\"tick\":" snapshot.text :=
  starts_append _ _ _ _ (starts_append _ _ _ _ ⟨"", String.append_empty.symm⟩)

theorem pong_starts : Starts pongText pongText := ⟨"", String.append_empty.symm⟩

theorem welcome_is_no_snapshot (connection : Connection) (snapshot : Snapshot) :
    welcomeText connection ≠ snapshot.text :=
  starts_apart _ _ _ _ (welcome_starts connection) (snapshot_starts snapshot) ⟨3, by decide⟩

theorem snapshot_is_no_pong (snapshot : Snapshot) : snapshot.text ≠ pongText :=
  starts_apart _ _ _ _ (snapshot_starts snapshot) pong_starts ⟨10, by decide⟩

theorem welcome_is_no_pong (connection : Connection) : welcomeText connection ≠ pongText :=
  starts_apart _ _ _ _ (welcome_starts connection) pong_starts ⟨3, by decide⟩

theorem pings_talker (client : ClientId) (incident : Incident) (pings : incident.pings client = true) :
    incident.talker? = some client ∧ incident.isTick = false := by
  cases incident with
  | happens event =>
      cases event with
      | receive sender payload =>
          rw [Incident.pings, Bool.and_eq_true, beq_iff_eq] at pings
          exact ⟨congrArg some pings.1, rfl⟩
      | _ => cases pings
  | _ => cases pings

theorem told_kinds (after : Region) (incident : Incident) (text : String)
    (member : text ∈ told connection after incident) :
    incident.isTick = true ∧ text = (after.game.snapshot after.world).text ∨
      incident.pings connection.client = true ∧ text = pongText ∨
        incident = .happens (.greet connection.client) ∧ text = welcomeText connection := by
  unfold told at member
  split at member
  · rename_i ticks
    exact Or.inl ⟨ticks, List.mem_singleton.mp member⟩
  · split at member
    · rename_i pings
      exact Or.inr (Or.inl ⟨pings, List.mem_singleton.mp member⟩)
    · split at member
      · split at member
        · rename_i own
          exact Or.inr (Or.inr ⟨own ▸ rfl, List.mem_singleton.mp member⟩)
        · cases member
      · cases member

theorem told_pongs (after : Region) (incident : Incident) :
    (told connection after incident).filter (· == pongText) =
      if incident.pings connection.client then [pongText] else [] := by
  by_cases pings : incident.pings connection.client = true
  · unfold told
    rw [(pings_talker _ _ pings).2, if_neg Bool.false_ne_true, if_pos pings, if_pos pings]
    exact List.filter_cons_of_pos (beq_self_eq_true pongText)
  · rw [if_neg pings, List.filter_eq_nil_iff]
    intro text member equal
    obtain rfl := eq_of_beq equal
    rcases told_kinds after incident _ member with ⟨_, same⟩ | ⟨own, _⟩ | ⟨_, same⟩
    · exact snapshot_is_no_pong _ same.symm
    · exact pings own
    · exact welcome_is_no_pong _ same.symm

theorem told_all_pongs (region : Region) (incidents : List Incident) :
    (toldAll connection region incidents).filter (· == pongText) =
      (incidents.filter (·.pings connection.client)).map fun _ => pongText := by
  induction incidents generalizing region with
  | nil => rfl
  | cons incident rest ih =>
      rw [toldAll, List.filter_append, told_pongs, ih, List.filter_cons]
      split <;> rfl

theorem told_all_welcomed (region : Region) (incidents : List Incident)
    (ungreeted : .happens (.greet connection.client) ∉ incidents) :
    welcomeText connection ∉ toldAll connection region incidents := by
  induction incidents generalizing region with
  | nil => exact List.not_mem_nil
  | cons incident rest ih =>
      rw [List.mem_cons, not_or] at ungreeted
      rw [toldAll, List.mem_append, not_or]
      refine ⟨fun member => ?_, ih _ ungreeted.2⟩
      rcases told_kinds _ incident _ member with ⟨_, same⟩ | ⟨_, same⟩ | ⟨own, _⟩
      · exact welcome_is_no_snapshot _ _ same
      · exact welcome_is_no_pong _ same
      · exact ungreeted.1 own.symm

theorem told_silent (after : Region) (incident : Incident) (silent : incident.talker? ≠ some connection.client) :
    told connection after incident = if incident.isTick then [(after.game.snapshot after.world).text] else [] := by
  unfold told
  split
  · rfl
  · rw [if_neg fun pings => silent (pings_talker _ _ pings).1]
    split
    · exact if_neg fun own => silent (congrArg some own)
    · rfl

theorem told_all_silent (region : Region) (incidents : List Incident)
    (silent : ∀ incident ∈ incidents, incident.talker? ≠ some connection.client) :
    (toldAll connection region incidents).length = incidents.countP Incident.isTick ∧
      OnlySnapshots (toldAll connection region incidents) := by
  induction incidents generalizing region with
  | nil => exact ⟨rfl, only_snapshots_nil⟩
  | cons incident rest ih =>
      rw [List.forall_mem_cons] at silent
      obtain ⟨length, snapshots⟩ := ih (region.undergo incident) silent.2
      rw [toldAll, told_silent _ incident silent.1, List.length_append, length, List.countP_cons, only_snapshots_append]
      split
      · exact ⟨Nat.add_comm _ _, fun text member => ⟨_, List.mem_singleton.mp member⟩, snapshots⟩
      · exact ⟨Nat.zero_add _, only_snapshots_nil, snapshots⟩

theorem OnlySnapshots.no_pongs {texts : List String} (snapshots : OnlySnapshots texts) :
    texts.filter (· == pongText) = [] := by
  rw [List.filter_eq_nil_iff]
  intro text member equal
  obtain ⟨snapshot, same⟩ := snapshots text member
  exact snapshot_is_no_pong snapshot (same.symm.trans (eq_of_beq equal))

theorem OnlySnapshots.no_welcome {texts : List String} (snapshots : OnlySnapshots texts) (connection : Connection) :
    welcomeText connection ∉ texts := by
  intro member
  obtain ⟨snapshot, same⟩ := snapshots _ member
  exact welcome_is_no_snapshot connection snapshot same

theorem hears_joined (name : String) (coming : List String) (client : ClientId)
    (number : region.game.channels.length = client) (consistent : Consistent region (name :: coming)) :
    (region.join name).connection? client = some ⟨client, name, client + 1⟩ ∧
      Hears (region.join name) ⟨client, name, client + 1⟩ [] := by
  subst number
  have found := joined_connection region name coming consistent
  exact ⟨found, (connection_found _ _ _ found).1, List.getElem?_concat_length⟩

theorem placed_from_join (name : String) (incidents after : List Incident) (client : ClientId) (lost : List ClientId)
    (number : region.game.channels.length = client)
    (intact : Intact region (name :: (incidents.flatMap Incident.names ++ after.flatMap Incident.names)) lost)
    (stays : ∀ incident ∈ incidents, incident.ended? ≠ some client)
    (ends : ∀ incident ∈ after.head?, incident.ended? = some client) :
    let joined := region.join name
    let late := placedAll client (joined.undergoAll incidents) after
    placedAll client region (.happens (.join name) :: (incidents ++ after)) =
        toldAll ⟨client, name, client + 1⟩ joined incidents ++ late ∧ OnlySnapshots late := by
  intro joined late
  have opened : Intact joined (incidents.flatMap Incident.names ++ after.flatMap Incident.names) (lost ++ []) :=
    intact_undergo region (.happens (.join name)) _ lost intact
  have hears := (hears_joined name _ client number intact.consistent).2
  have nothing : region.placed client (.happens (.join name)) = [] := by
    change ((region.join name).line client).drop _ = []
    rw [hears.line, List.drop_nil]
  obtain ⟨told, later, last⟩ := placed_all_told hears incidents _ _ opened stays
  have ended := intact_run joined incidents _ _ opened
  rw [← List.append_nil (after.flatMap Incident.names)] at ended
  refine ⟨?_, placed_from_end last after [] _ ended ends⟩
  rw [placedAll, nothing, List.nil_append]
  exact (placed_all_append client joined incidents after).trans (congrArg (· ++ late) told)

theorem welcome_first_iff (connection : Connection) (early rest : List String) (snapshots : OnlySnapshots early) :
    (early ++ welcomeText connection :: rest).head? = some (welcomeText connection) ↔ early = [] := by
  cases early with
  | nil => exact ⟨fun _ => rfl, fun _ => rfl⟩
  | cons text others =>
      obtain ⟨snapshot, same⟩ := snapshots text List.mem_cons_self
      refine ⟨fun head => ?_, fun empty => absurd empty (List.cons_ne_nil text others)⟩
      exact absurd ((Option.some.inj head).symm.trans same) (welcome_is_no_snapshot connection snapshot)

theorem pongs_after_welcome (connection : Connection) (early heard late : List String)
    (earlySnapshots : OnlySnapshots early) (lateSnapshots : OnlySnapshots late) :
    (early ++ welcomeText connection :: (heard ++ late)).filter (· == pongText) = heard.filter (· == pongText) := by
  have passed : (welcomeText connection :: (heard ++ late)).filter (· == pongText) =
      (heard ++ late).filter (· == pongText) :=
    List.filter_cons_of_neg (by simpa using welcome_is_no_pong connection)
  rw [List.filter_append, earlySnapshots.no_pongs, List.nil_append, passed, List.filter_append,
    lateSnapshots.no_pongs, List.append_nil]

/-- However a client's steps fall between ticks and the steps of others, its line gets what the client is told until
its connection ends, and only snapshots then, as before its welcome. A client that is welcomed gets one snapshot from
each tick between its joining and its welcome, then the welcome, which comes once and names the client's object, and
then what ticks and its own pings cause, in their order: a snapshot for each tick and a pong for each ping. So the
welcome is the first message just if no tick falls between. Fewer than `2 ^ 32 - 1` clients join. -/
theorem messages_in_order (settings : Settings Float32) (terrain : Terrain Float32)
    (before during after : List Incident) (name : String)
    (uniqueNames : ((before ++ .happens (.join name) :: (during ++ after)).flatMap Incident.names).Nodup) :
    let client := (before.flatMap Incident.names).length
    let connection : Connection := ⟨client, name, client + 1⟩
    let joined := ((create settings terrain).undergoAll before).join name
    let late := placedAll client (joined.undergoAll during) after
    let log := placedAll client (create settings terrain) (before ++ .happens (.join name) :: (during ++ after))
    (∀ incident ∈ during, incident.ended? ≠ some client) →
      (∀ incident ∈ after.head?, incident.ended? = some client) →
        joined.connection? client = some connection ∧
          log = toldAll connection joined during ++ late ∧ OnlySnapshots late ∧
          ((∀ incident ∈ during, incident.talker? ≠ some client) → OnlySnapshots log) ∧
          ∀ waiting talking, during = waiting ++ .happens (.greet client) :: talking →
            (∀ incident ∈ waiting, incident.talker? ≠ some client) → .happens (.greet client) ∉ talking →
              let early := toldAll connection joined waiting
              let heard := toldAll connection ((joined.undergoAll waiting).greet client) talking
              log = early ++ welcomeText connection :: (heard ++ late) ∧
                early.length = waiting.countP Incident.isTick ∧ OnlySnapshots early ∧
                welcomeText connection ∉ heard ++ late ∧
                log.filter (· == pongText) = (talking.filter (·.pings client)).map (fun _ => pongText) ∧
                (log.head? = some (welcomeText connection) ↔ ∀ incident ∈ waiting, incident.isTick = false) := by
  intro client connection joined late log stays ends
  have start : Intact (create settings terrain) _ [] := intact_create settings terrain _ uniqueNames
  rw [List.flatMap_append, List.flatMap_cons, List.flatMap_append] at start
  have opened := intact_run (create settings terrain) before _ [] start
  have number : ((create settings terrain).undergoAll before).game.channels.length = client :=
    (channels_undergo_all _ before).trans (Nat.zero_add _)
  have earlier : placedAll client (create settings terrain) before = [] :=
    placed_before _ _ before (Nat.le_of_eq (Nat.zero_add _))
  obtain ⟨placed, lateSnapshots⟩ := placed_from_join name during after client _ number opened stays ends
  have whole : log = toldAll connection joined during ++ late := by
    refine (placed_all_append client _ _ _).trans ?_
    rw [earlier]
    exact placed
  refine ⟨(hears_joined name _ client number opened.consistent).1, whole, lateSnapshots, ?_, ?_⟩
  · intro silent
    rw [whole, only_snapshots_append]
    exact ⟨(told_all_silent joined during silent).2, lateSnapshots⟩
  · intro waiting talking split waits once early heard
    obtain ⟨length, earlySnapshots⟩ : early.length = waiting.countP Incident.isTick ∧ OnlySnapshots early :=
      told_all_silent joined waiting waits
    have welcomed : told connection ((joined.undergoAll waiting).greet client) (.happens (.greet client)) =
        [welcomeText connection] := if_pos rfl
    have order : log = early ++ welcomeText connection :: (heard ++ late) := by
      rw [whole, split, told_all_append]
      refine Eq.trans (congrArg (fun texts => early ++ (texts ++ heard) ++ late) welcomed) ?_
      rw [List.append_assoc]
      rfl
    refine ⟨order, length, earlySnapshots, ?_, ?_, ?_⟩
    · rw [List.mem_append, not_or]
      exact ⟨told_all_welcomed _ talking once, lateSnapshots.no_welcome connection⟩
    · rw [order, pongs_after_welcome connection early heard late earlySnapshots lateSnapshots]
      exact told_all_pongs _ talking
    · rw [order, welcome_first_iff connection early _ earlySnapshots, ← List.length_eq_zero_iff, length,
        List.countP_eq_zero]
      simp only [Bool.not_eq_true]

def pingFrame (client : ClientId) : Incident := .happens (.receive client "\x7b\"type\":\"ping\"\x7d".toUTF8)

theorem second_welcomed_and_answered :
    let before : List Incident := [.happens (.join "a"), .happens (.greet 0)]
    let talking := [pingFrame 1, .happens (.tick 0), pingFrame 0, .collect 1, pingFrame 1]
    let after : List Incident := [.linger 1, pingFrame 1, .happens (.tick 0)]
    let log := placedAll 1 (create .initial (.flat 21.0 20.0))
      (before ++ .happens (.join "b") :: (([pingFrame 0] ++ .happens (.greet 1) :: talking) ++ after))
    log.head? = some (welcomeText ⟨1, "b", 2⟩) ∧ log.filter (· == pongText) = [pongText, pongText] := by
  intro before talking after log
  have ordered := messages_in_order .initial (.flat 21.0 20.0) before ([pingFrame 0] ++ .happens (.greet 1) :: talking) after "b"
    (by decide) (by decide) (by rintro incident ⟨⟩; rfl)
  obtain ⟨_, _, _, _, welcomed⟩ := ordered
  obtain ⟨_, _, _, _, pongs, first⟩ := welcomed [pingFrame 0] talking rfl
    (by decide) (by simp [talking, pingFrame])
  exact ⟨first.mpr (by simp [pingFrame, Incident.isTick]), pongs.trans (by decide +kernel)⟩

-- A tick between joining and welcome puts a snapshot first.
theorem snapshot_before_welcome :
    let log := placedAll 0 (create .initial (.flat 21.0 20.0))
      [.happens (.join "a"), .happens (.tick 0), .happens (.greet 0)]
    log = ["\x7b\"type\":\"snapshot\",\"tick\":1,\"objects\":[\x7b\"id\":\"a\",\"local_id\":1," ++
        "\"vehicle\":\"none\",\"x\":128.0,\"y\":128.0,\"z\":23.0\x7d]\x7d", welcomeText ⟨0, "a", 1⟩] ∧
      log.head? ≠ some (welcomeText ⟨0, "a", 1⟩) := by
  decide +kernel

end Region

end VehicleSim
