import VehicleSim.Proofs.Region.Incident

/-!
Which commands reach an object, and when: those of its own connection, once each and in order, in the
first tick after they came.
-/

set_option autoImplicit false

namespace VehicleSim

def Incident.command? (client : ClientId) : Incident → Option (Command Float32)
  | .happens (.receive sender payload) =>
      if sender = client then
        match Region.payloadMessage? payload with
        | some (.command command) => some command
        | _ => none
      else none
  | _ => none

namespace Region

-- The commands a client sends, each with the number of ticks before it; `clock` ticks are past.
def received (client : ClientId) : Nat → List Incident → List (Nat × Command Float32)
  | _, [] => []
  | clock, incident :: rest =>
      (incident.command? client).toList.map (clock, ·) ++ received client (clock + ticks [incident]) rest

def applied (region : Region) (incident : Incident) : List (ObjectId × Command Float32) :=
  if incident.isTick then region.game.pending else []

def deliveries : Region → List Incident → List (Nat × ObjectId × Command Float32)
  | _, [] => []
  | region, incident :: rest =>
      (region.applied incident).map (region.game.tick, ·) ++ deliveries (region.undergo incident) rest

def commandsFor (object : ObjectId) (queue : List (ObjectId × Command Float32)) : List (Command Float32) :=
  (queue.filter (·.1 == object)).map (·.2)

def deliveredTo (object : ObjectId) (log : List (Nat × ObjectId × Command Float32)) :
    List (Nat × Command Float32) :=
  (log.filter (·.2.1 == object)).map fun entry => (entry.1, entry.2.2)

theorem deliveries_append (region : Region) (first second : List Incident) :
    region.deliveries (first ++ second) = region.deliveries first ++ (region.undergoAll first).deliveries second := by
  induction first generalizing region with
  | nil => rfl
  | cons incident rest ih =>
      rw [List.cons_append, deliveries, deliveries, ih, List.append_assoc]
      rfl

theorem delivered_to_append (object : ObjectId) (first second : List (Nat × ObjectId × Command Float32)) :
    deliveredTo object (first ++ second) = deliveredTo object first ++ deliveredTo object second := by
  simp only [deliveredTo, List.filter_append, List.map_append]

theorem delivered_to_stamped (object : ObjectId) (clock : Nat) (queue : List (ObjectId × Command Float32)) :
    deliveredTo object (queue.map (clock, ·)) = (commandsFor object queue).map (clock, ·) := by
  rw [deliveredTo, commandsFor, List.filter_map, List.map_map, List.map_map]
  rfl

def Unowned (region : Region) (client : ClientId) : Prop :=
  ∀ connection ∈ region.connections, connection.client ≠ client

theorem unowned_undergo (region : Region) (client : ClientId) (incident : Incident) (unowned : region.Unowned client)
    (other : incident.names = [] ∨ region.game.channels.length ≠ client) : (region.undergo incident).Unowned client := by
  intro connection member
  rcases (region.connected_undergo incident connection).mp member with ⟨old, _⟩ | ⟨name, joined, rfl⟩
  · exact unowned connection old
  · exact other.resolve_left (List.ne_nil_of_mem joined)

theorem leaver_neither_names_nor_ticks (incident : Incident) (client : ClientId) (leaves : incident.leaver? = some client) :
    incident.names = [] ∧ incident.isTick = false := by
  cases incident with
  | happens event =>
      cases event with
      | leave sender => exact ⟨rfl, rfl⟩
      | _ => cases leaves
  | linger sender => exact ⟨rfl, rfl⟩
  | _ => cases leaves

theorem unowned_leaver (region : Region) (client : ClientId) (incident : Incident)
    (leaves : incident.leaver? = some client) : (region.undergo incident).Unowned client := by
  rintro connection member rfl
  rcases (region.connected_undergo incident connection).mp member with ⟨_, stays⟩ | ⟨name, joined, _⟩
  · exact stays leaves
  · rw [(leaver_neither_names_nor_ticks incident _ leaves).1] at joined
    cases joined

theorem unowned_queue (region : Region) (coming : List String) (client : ClientId)
    (consistent : Consistent region coming) (unowned : region.Unowned client) :
    commandsFor (client + 1) region.game.pending = [] := by
  have foreign : region.game.pending.filter (fun entry => entry.1 == client + 1) = [] := by
    rw [List.filter_eq_nil_iff]
    intro entry member equal
    obtain ⟨connection, present, same⟩ := consistent.waiting entry member
    have numbered := (consistent.numbered connection present).2
    rw [same, eq_of_beq equal] at numbered
    exact unowned connection present (Nat.succ.inj numbered).symm
  rw [commandsFor, foreign]
  rfl

-- Clients are numbered in the order in which they join, so either the client of this number is still to
-- come after these incidents or it has been there already.
theorem delivered_unowned (region : Region) (incidents : List Incident) (coming : List String) (client : ClientId)
    (consistent : Consistent region (incidents.flatMap Incident.names ++ coming)) (unowned : region.Unowned client)
    (outside : client < region.game.channels.length ∨ region.game.channels.length + joins incidents ≤ client) :
    deliveredTo (client + 1) (region.deliveries incidents) = [] ∧ (region.undergoAll incidents).Unowned client := by
  induction incidents generalizing region with
  | nil => exact ⟨rfl, unowned⟩
  | cons incident rest ih =>
      have grown := channels_undergo region incident
      rw [joins_cons] at outside
      rw [List.flatMap_cons, List.append_assoc] at consistent
      have here : deliveredTo (client + 1) ((region.applied incident).map (region.game.tick, ·)) = [] := by
        rw [delivered_to_stamped, applied]
        split
        · rw [unowned_queue region _ client consistent unowned]
          rfl
        · rfl
      have other : incident.names = [] ∨ region.game.channels.length ≠ client := by
        rcases outside with before | after
        · exact Or.inr (Nat.ne_of_gt before)
        · by_cases silent : incident.names = []
          · exact Or.inl silent
          · have named : 0 < incident.names.length := List.length_pos_iff.mpr silent
            have short := Nat.lt_of_lt_of_le (Nat.lt_add_of_pos_right (Nat.add_pos_left named _)) after
            exact Or.inr (Nat.ne_of_lt short)
      have outer : client < (region.undergo incident).game.channels.length ∨
          (region.undergo incident).game.channels.length + joins rest ≤ client := by
        rw [grown, Nat.add_assoc]
        exact outside.imp_left fun before => Nat.lt_of_lt_of_le before (Nat.le_add_right _ _)
      obtain ⟨later, still⟩ := ih (region.undergo incident) (consistent_undergo region incident _ consistent)
        (unowned_undergo region client incident unowned other) outer
      refine ⟨?_, still⟩
      rw [deliveries, delivered_to_append, here, later]
      rfl

theorem commands_for_append (object : ObjectId) (first second : List (ObjectId × Command Float32)) :
    commandsFor object (first ++ second) = commandsFor object first ++ commandsFor object second := by
  simp only [commandsFor, List.filter_append, List.map_append]

theorem queue_receive (region : Region) (coming : List String) (connection : Connection) (sender : ClientId)
    (payload : ByteArray) (consistent : Consistent region coming) (member : connection ∈ region.connections) :
    commandsFor connection.object (region.receive sender payload).game.pending =
      commandsFor connection.object region.game.pending ++
        ((Incident.happens (.receive sender payload)).command? connection.client).toList := by
  cases found : region.connection? sender with
  | none =>
      have other : sender ≠ connection.client := by
        rintro rfl
        rw [connection_of_mem region coming connection consistent member] at found
        cases found
      simp [receive, found, Incident.command?, other]
  | some talker =>
      obtain ⟨present, same⟩ := connection_found region sender talker found
      cases decoded : payloadMessage? payload with
      | none => simp [receive, found, decoded, Incident.command?]
      | some message =>
          cases message with
          | ping => simp [receive, found, decoded, Incident.command?, Game.send]
          | command command =>
              have queued : (region.receive sender payload).game.pending =
                  region.game.pending ++ [(talker.object, command)] := by
                simp only [receive, found, decoded, Game.queue]
              rw [queued, commands_for_append]
              by_cases own : sender = connection.client
              · have equal : talker = connection :=
                  List.inj_on_of_nodup_map consistent.clients present member (same.trans own)
                simp [decoded, Incident.command?, own, equal, commandsFor]
              · have foreign : talker.object ≠ connection.object := by
                  intro equal
                  rw [same_object region coming talker connection consistent present member equal] at same
                  exact own same.symm
                simp [Incident.command?, own, foreign, commandsFor]

theorem queue_leave (region : Region) (coming : List String) (connection : Connection) (sender : ClientId)
    (consistent : Consistent region coming) (member : connection ∈ region.connections)
    (stays : sender ≠ connection.client) :
    commandsFor connection.object (region.leave sender).game.pending =
      commandsFor connection.object region.game.pending := by
  cases found : region.connection? sender with
  | none => rw [leave, found]
  | some other =>
      obtain ⟨present, rfl⟩ := connection_found region sender other found
      have foreign : connection.object ≠ other.object := by
        intro equal
        rw [same_object region coming connection other consistent member present equal] at stays
        exact stays rfl
      rw [leave_found region coming other consistent present]
      change ((region.game.pending.filter (·.1 != other.object)).filter (·.1 == connection.object)).map (·.2) =
        (region.game.pending.filter (·.1 == connection.object)).map (·.2)
      rw [List.filter_filter]
      congr 1
      apply List.filter_congr
      intro entry _
      by_cases own : entry.1 = connection.object
      · simp [own, foreign]
      · simp [own]

theorem queue_undergo (region : Region) (coming : List String) (connection : Connection) (incident : Incident)
    (consistent : Consistent region coming) (member : connection ∈ region.connections)
    (stays : incident.leaver? ≠ some connection.client) (between : incident.isTick = false) :
    commandsFor connection.object (region.undergo incident).game.pending =
      commandsFor connection.object region.game.pending ++ (incident.command? connection.client).toList := by
  have remains (sender : ClientId) (other : sender ≠ connection.client) :
      commandsFor connection.object (region.leave sender).game.pending =
        commandsFor connection.object region.game.pending ++ [] := by
    rw [List.append_nil, queue_leave region coming connection sender consistent member other]
  cases incident with
  | happens event =>
      cases event with
      | join name => exact (List.append_nil _).symm
      | greet sender =>
          change commandsFor connection.object (region.greet sender).game.pending = _ ++ []
          rw [List.append_nil, (region.greet_frame sender).2.1]
      | receive sender payload => exact queue_receive region coming connection sender payload consistent member
      | leave sender => exact remains sender fun same => stays (congrArg some same)
      | tick dt => cases between
  | linger sender => exact remains sender fun same => stays (congrArg some same)
  | tick solver dt => cases between
  | collect client => exact (List.append_nil _).symm
  | cut client => exact (List.append_nil _).symm

theorem tick_silent (incident : Incident) (client : ClientId) (ticks : incident.isTick = true) :
    incident.command? client = none := by
  cases incident with
  | happens event =>
      cases event with
      | receive sender payload => cases ticks
      | _ => rfl
  | _ => rfl

theorem stamped_before (commands : List (Command Float32)) (clock now : Nat) (past : clock < now) :
    (commands.map (clock, ·)).filter (fun stamped => stamped.1 < now) = commands.map (clock, ·) := by
  rw [List.filter_eq_self]
  intro stamped member
  obtain ⟨command, _, rfl⟩ := List.mem_map.mp member
  exact decide_eq_true past

-- The queue holds what came since the last tick. A tick empties it and is past afterwards, so its
-- stamps are those that a command waiting for it has; what no tick follows is not delivered.
theorem delivered_during (region : Region) (incidents : List Incident) (coming : List String) (connection : Connection)
    (consistent : Consistent region (incidents.flatMap Incident.names ++ coming))
    (member : connection ∈ region.connections)
    (stays : ∀ incident ∈ incidents, incident.leaver? ≠ some connection.client) :
    deliveredTo connection.object (region.deliveries incidents) =
        ((commandsFor connection.object region.game.pending).map (region.game.tick, ·) ++
          received connection.client region.game.tick incidents).filter
            (fun stamped => stamped.1 < region.game.tick + ticks incidents) ∧
      connection ∈ (region.undergoAll incidents).connections := by
  induction incidents generalizing region with
  | nil =>
      refine ⟨?_, member⟩
      simp [deliveries, deliveredTo, received, ticks]
  | cons incident rest ih =>
      rw [List.flatMap_cons, List.append_assoc] at consistent
      obtain ⟨here, later⟩ := List.forall_mem_cons.mp stays
      obtain ⟨delivered, still⟩ := ih (region.undergo incident) (consistent_undergo region incident _ consistent)
        ((region.connected_undergo incident connection).mpr (Or.inl ⟨member, here⟩)) later
      refine ⟨?_, still⟩
      have clock : (region.undergo incident).game.tick + ticks rest = region.game.tick + ticks (incident :: rest) := by
        rw [tick_undergo, ticks_cons incident rest, Nat.add_assoc]
      rw [deliveries, delivered_to_append, delivered_to_stamped, delivered, clock, received, tick_undergo, applied]
      cases between : incident.isTick with
      | false =>
          have still : ticks [incident] = 0 := by simp [ticks, between]
          rw [queue_undergo region _ connection incident consistent member here between, still, Nat.add_zero,
            List.map_append, List.append_assoc]
          rfl
      | true =>
          obtain ⟨solver, dt, tick⟩ := undergo_tick region incident between
          have drained : (region.undergo incident).game.pending = [] := by
            rw [tick]
            exact (region.tick_frame solver dt).2.1
          have past : region.game.tick < region.game.tick + ticks (incident :: rest) :=
            Nat.lt_add_of_pos_right (by simp [ticks, between])
          have due := stamped_before (commandsFor connection.object region.game.pending) _ _ past
          rw [drained, tick_silent incident _ between, if_pos rfl]
          change _ ++ (received connection.client _ rest).filter _ = (_ ++ received connection.client _ rest).filter _
          rw [List.filter_append, due]

theorem delivered_after_end (region : Region) (incidents : List Incident) (coming : List String) (client : ClientId)
    (consistent : Consistent region (incidents.flatMap Incident.names ++ coming))
    (seen : client < region.game.channels.length)
    (ends : ∀ incident ∈ incidents.head?, incident.leaver? = some client) :
    deliveredTo (client + 1) (region.deliveries incidents) = [] := by
  cases incidents with
  | nil => rfl
  | cons incident rest =>
      rw [List.flatMap_cons, List.append_assoc] at consistent
      have leaves := ends incident rfl
      have idle : region.applied incident = [] := by
        rw [applied, (leaver_neither_names_nor_ticks incident client leaves).2, if_neg Bool.false_ne_true]
      have numbered : client < (region.undergo incident).game.channels.length := by
        rw [channels_undergo]
        exact Nat.lt_of_lt_of_le seen (Nat.le_add_right _ _)
      have later := (delivered_unowned _ rest coming client (consistent_undergo region incident _ consistent)
        (region.unowned_leaver client incident leaves) (Or.inl numbered)).1
      rw [deliveries, idle]
      exact later

theorem joined_connection (region : Region) (name : String) (coming : List String)
    (consistent : Consistent region (name :: coming)) :
    (region.join name).connection? region.game.channels.length =
      some ⟨region.game.channels.length, name, region.game.channels.length + 1⟩ := by
  have joined := consistent_join region name coming consistent
  have member : region.newcomer name ∈ (region.join name).connections := by
    rw [join_connections]
    exact List.mem_append_right _ (List.mem_singleton.mpr rfl)
  have found := connection_of_mem _ coming _ joined member
  rw [newcomer, consistent.next] at found
  exact found

theorem delivered_to_connection (region : Region) (name : String) (during rest : List Incident) (coming : List String)
    (consistent : Consistent region (name :: ((during ++ rest).flatMap Incident.names ++ coming)))
    (unowned : region.Unowned region.game.channels.length)
    (stays : ∀ incident ∈ during, incident.leaver? ≠ some region.game.channels.length)
    (ends : ∀ incident ∈ rest.head?, incident.leaver? = some region.game.channels.length) :
    deliveredTo (region.game.channels.length + 1) (region.deliveries (.happens (.join name) :: (during ++ rest))) =
      (received region.game.channels.length region.game.tick during).filter
        (fun stamped => stamped.1 < region.game.tick + ticks during) := by
  have joined := consistent_join region name _ consistent
  rw [List.flatMap_append, List.append_assoc] at joined
  have found := joined_connection region name _ consistent
  obtain ⟨member, _⟩ := connection_found _ _ _ found
  obtain ⟨inside, _⟩ := delivered_during (region.join name) during _ _ joined member stays
  have idle : commandsFor (region.game.channels.length + 1) (region.join name).game.pending = [] :=
    unowned_queue region _ _ consistent unowned
  have left := consistent_undergo_all (region.join name) during _ joined
  have numbered : region.game.channels.length < ((region.join name).undergoAll during).game.channels.length := by
    rw [channels_undergo_all, join_channels]
    exact Nat.lt_of_lt_of_le (Nat.lt_succ_self _) (Nat.le_add_right _ _)
  have outside := delivered_after_end _ rest coming _ left numbered ends
  rw [idle] at inside
  change deliveredTo _ ((region.join name).deliveries (during ++ rest)) = _
  rw [deliveries_append, delivered_to_append, inside, outside, List.append_nil]
  rfl

/-- However connections, messages, ticks and broken lines follow each other, and whatever moves the bodies, an object
gets just the commands of its own connection: all that a tick follows while the connection is open, in order, each in
the first such tick. Objects are numbered in the order of joining, of which there are fewer than 2 ^ 32 - 1. -/
theorem commands_delivered_once_in_order (settings : Settings Float32) (terrain : Terrain Float32)
    (incidents : List Incident) (uniqueNames : (incidents.flatMap Incident.names).Nodup) :
    let start := create settings terrain
    let region := start.undergoAll incidents
    (∀ before name during rest, incidents = before ++ .happens (.join name) :: (during ++ rest) →
      (∀ incident ∈ during, incident.leaver? ≠ some (joins before)) →
      (∀ incident ∈ rest.head?, incident.leaver? = some (joins before)) →
        ((start.undergoAll before).join name).connection? (joins before) =
            some ⟨joins before, name, joins before + 1⟩ ∧
          deliveredTo (joins before + 1) (start.deliveries incidents) =
            (received (joins before) (ticks before) during).filter
              (fun stamped => stamped.1 < ticks before + ticks during)) ∧
      (∀ solver dt, (region.tickWith solver dt).world =
        (applyCommands region.world region.game.pending).2.stepWith solver dt) ∧
      (∀ dt, (region.tick dt).2.world = (applyCommands region.world region.game.pending).2.step dt ∧
        (region.tick dt).1 = region.game.pending.map fun entry => (entry.1, true)) ∧
      (applyCommands region.world region.game.pending).2.objects =
        region.world.objects.map (WorldObject.obeyAll region.game.pending) ∧
      ∀ client payload, payloadMessage? payload = none → region.receive client payload = region := by
  intro start region
  have consistent : Consistent start (incidents.flatMap Incident.names ++ []) :=
    consistent_create settings terrain _ (by rwa [List.append_nil])
  have after := consistent_undergo_all start incidents [] consistent
  refine ⟨?_, fun _ _ => rfl, fun dt => ⟨rfl, ?_⟩, apply_commands_objects _ _ after.good, ?_⟩
  · rintro before name during rest rfl stays ends
    rw [List.flatMap_append, List.append_assoc] at consistent
    have opened := consistent_undergo_all start before _ consistent
    have number : (start.undergoAll before).game.channels.length = joins before :=
      (channels_undergo_all start before).trans (Nat.zero_add _)
    have clock : (start.undergoAll before).game.tick = ticks before :=
      (tick_undergo_all start before).trans (Nat.zero_add _)
    obtain ⟨earlier, unowned⟩ := delivered_unowned start before _ (joins before) consistent
      (fun _ member => absurd member List.not_mem_nil) (Or.inr (Nat.le_of_eq (Nat.zero_add _)))
    rw [← number] at unowned stays ends
    have found := joined_connection _ name _ opened
    have told := delivered_to_connection _ name during rest [] opened unowned stays ends
    rw [number] at found told
    rw [clock] at told
    refine ⟨found, ?_⟩
    rw [deliveries_append, delivered_to_append, earlier, told]
    rfl
  · apply apply_commands_known _ _ after.good
    intro entry member
    obtain ⟨connection, present, same⟩ := after.waiting entry member
    rw [World.present_iff_id, after.objects, ← same]
    exact List.mem_map_of_mem present
  · intro client payload silent
    unfold receive
    split
    · rename_i decoded
      rw [silent] at decoded
      cases decoded
    · rename_i decoded
      rw [silent] at decoded
      cases decoded
    · rfl

theorem first_of_two_commands_delivered :
    let during : List Incident :=
      [.happens (.receive 0 "[\"vehicle_type\",\"car\"]".toUTF8), .happens (.join "second"),
        .tick (fun _ _ _ => []) 0, .cut 0, .happens (.receive 0 "[\"vehicle_type\",\"sled\"]".toUTF8)]
    let rest : List Incident := [.linger 0, .happens (.tick 0)]
    deliveredTo 1 ((create .initial (.flat 21.0 20.0)).deliveries
      ([] ++ .happens (.join "first") :: (during ++ rest))) = [(0, .setType .car)] := by
  intro during rest
  have told := (commands_delivered_once_in_order .initial (.flat 21.0 20.0) _ (by decide)).1 [] "first" during rest rfl
    (by simp [during, Incident.leaver?]) (by rintro incident ⟨⟩; rfl)
  exact told.2.trans rfl

end Region

end VehicleSim
