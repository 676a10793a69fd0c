import JustAnotherVoiceChat.Connecting
import JustAnotherVoiceChat.SavedChannel

set_option autoImplicit false

namespace JustAnotherVoiceChat

open Binary Interaction

inductive Settling (p : HandshakeResponsePacket) (w u : World) (answers : List Entry) : Prop where
  | refused (client : u.memory.client = w.memory.client)
      (unwelcome : answers.any Entry.welcomes = false)
      (unmoved : answers.any Entry.moved = false)
      (server : answers.any Entry.listRefused = true ∨
        answers.findSome? (Entry.named p.teamspeakServerUniqueIdentifier) =
          some w.memory.wrapper.serverConnectionHandler →
        u.memory.wrapper.serverConnectionHandler = w.memory.wrapper.serverConnectionHandler)
  | settled (fields : linked u.memory = linked w.memory)
      (welcome : answers.any Entry.welcomes = true)
      (found : answers.findSome? (Entry.named p.teamspeakServerUniqueIdentifier) =
        some u.memory.wrapper.serverConnectionHandler)
      (on : answers.findSome? Entry.movedOn = some u.memory.wrapper.serverConnectionHandler)
      (own : u.memory.client.teamspeakId ≠ 0 → u.memory.client.teamspeakId =
        (u.teamspeak u.memory.wrapper.serverConnectionHandler).ownId)

section Settling

variable {caller : ThreadId} {env : Environment} {w u : World}

theorem any_welcomes_of_silent {answers : List Entry}
    (silent : answers.filterMap Entry.handshake = []) : answers.any Entry.welcomes = false := by
  rw [any_welcomes, silent]
  rfl

theorem Only.message {topics : List Topic} {answers : List Entry}
    (only : Only topics caller answers) : ∀ e ∈ answers, e.message = none := by
  refine only.elim ?_
  intro _ _ _
  rfl

theorem HandshakeRun.settling {p : HandshakeResponsePacket} {answers : List Entry}
    (run : HandshakeRun caller env p w u) (trace : u.trace = answers ++ w.trace) :
    Settling p w u answers := by
  obtain ⟨reply, ⟨found, declined⟩ | welcomed⟩ := run.outcome_of trace
  · apply Settling.refused
    · rw [declined.memory]
      rfl
    · exact declined.unwelcome
    · exact declined.unmoved
    · rintro (listed | named)
      · exact declined.listRefused listed
      · rw [declined.named] at named
        cases found with
        | false => cases named
        | true => exact Option.some.inj named
  · obtain ⟨lastChannelId, microphoneMuted, speakersMuted, client⟩ := welcomed.client
    have id : u.memory.client.teamspeakId = reply.teamspeakId := by rw [client]
    apply Settling.settled
    · rw [linked, client]
      rfl
    · exact welcomed.welcome
    · exact welcomed.found
    · exact welcomed.movedOn
    · rw [id]
      exact welcomed.own

end Settling

def ingameFields (m : Memory) : Client × UInt64 := (m.client, m.wrapper.serverConnectionHandler)

abbrev Op.KeepsIngame : Op → Prop := Op.Keeping ingameFields fun call => call.isTeamspeak = true

section Messages

variable {self : ThreadId} {env : Environment} {w u : World}

theorem setWrapper_ingame {update : Wrapper → Wrapper}
    (keeps : ∀ m, (update m).serverConnectionHandler = m.serverConnectionHandler) :
    (setWrapper update).Calls Op.KeepsIngame :=
  ⟨fun m => congrArg (Prod.mk m.client) (keeps m.wrapper), fun _ => trivial⟩

theorem wrapperPrograms_ingame :
    WrapperPrograms (fun _ => True) (fun {_} p => p.Calls Op.KeepsIngame) where
  toPluginPrograms := .of_load trivial
  sleepFor _ := ⟨trivial, fun _ => trivial⟩
  teamspeak _ := ⟨⟨rfl, rfl⟩, fun _ => trivial⟩
  poll _ _ := repeatUntil_calls

theorem handleUpdateMessage_ingame (packet : Bytes) :
    (handleUpdateMessage packet).Calls Op.KeepsIngame :=
  wrapperPrograms_ingame.updateMessage trivial trivial
  (fun _ => setWrapper_ingame fun _ => rfl) packet

theorem handleControlMessage_ingame (packet : Bytes) :
    (handleControlMessage packet).Calls Op.KeepsIngame :=
  wrapperPrograms_ingame.controlMessage trivial trivial trivial
  (fun _ => setWrapper_ingame fun _ => rfl)
    packet

theorem handlePositionMessage_ingame (packet : Bytes) :
    (handlePositionMessage packet).Calls Op.KeepsIngame :=
  wrapperPrograms_ingame.positionMessage trivial packet

inductive MessageLeaves (channelID : UInt8) (packet : Bytes) (w u : World) : Prop where
  | stopped (stopped : u.memory.client.running = false)
  | kept (same : ingameFields u.memory = ingameFields w.memory) (answers : List Entry)
      (trace : u.trace = answers ++ w.trace) (silent : ∀ e ∈ answers, e.message = none)
      (unhandled : channelID ≠ networkHandshakeChannel ∨ answers.any Entry.welcomes = false)
  | handshake (p : HandshakeResponsePacket) (channel : channelID = networkHandshakeChannel)
      (received : receive HandshakeResponsePacket.serialize packet = some p)
      (accepted : p.statusCode = statusCodeOk) (answers : List Entry)
      (trace : u.trace = answers ++ w.trace) (silent : ∀ e ∈ answers, e.message = none)
      (settling : Settling p w u answers)

theorem message_of_handles {e : Entry} (handles : e.call.Handles) : e.message = none := by
  apply message_eq_none
  intro host same
  rw [same] at handles
  cases handles

theorem kept_of_ingame {channelID : UInt8} {packet : Bytes} {α : Type} {p : Plugin α}
    (calls : p.Calls Op.KeepsIngame) : wp (steps self env) p
      (fun _ u => MessageLeaves channelID packet w u) w := by
  refine wp_mono ?_ (wp_keeping calls)
  intro _ u beside
  obtain ⟨answers, trace, told⟩ := beside.trace
  have handles : ∀ e ∈ answers, e.call.Handles ∧ e.handshake = none := by
    intro e member
    have teamspeak := (told e member).2
    obtain ⟨thread, call, reply⟩ := e
    cases call with
    | enet call | object call => cases teamspeak
    | teamspeak call => exact ⟨trivial, rfl⟩
  apply MessageLeaves.kept beside.memory answers trace
  · intro e member
    exact message_of_handles (handles e member).1
  · refine .inr (any_welcomes_of_silent ?_)
    rw [List.filterMap_eq_nil_iff]
    intro e member
    exact (handles e member).2

theorem wp_close_stops : wp (steps self env) close
    (fun _ u => u.memory.client.running = false) w := by
  unfold close
  rw [wp_bind]
  refine wp_mono (fun _ v _ => ?_) (wp_exec abortThread w)
  rw [wp_bind]
  apply wp_closeConnection
  refine wp_mono ?_ wp_resetTeamspeak
  intro _ u restored
  have client := congrArg (fun m => m.1.running) restored.memory
  simpa [apartFromChannel] using client

theorem wp_disconnect_stops (status : UInt32) : wp (steps self env) (disconnect status)
    (fun _ u => u = w ∨ u.memory.client.running = false) w := by
  unfold disconnect
  simp only [wp_bind, wp_client, wp_ite, Program.pure_eq, wp_ret, wp_peerDisconnect]
  split
  · exact .inl trivial
  intro _ _
  refine wp_mono (fun _ v _ => ?_) (wp_exec abortThread _)
  refine wp_mono (fun _ x _ => ?_) (wp_exec (Program.repeatUntil awaitDisconnect) v)
  simp only [wp_setClient]
  exact wp_mono (fun _ u stopped => .inr stopped) wp_close_stops

theorem wp_messageLeaves (channelID : UInt8) (packet : Bytes) :
    wp (steps self env) (handleMessage channelID packet)
      (fun _ u => MessageLeaves channelID packet w u) w := by
  have unchanged : MessageLeaves channelID packet w w :=
    .kept rfl [] rfl (by simp) (.inr rfl)
  unfold handleMessage
  rw [wp_ite]
  split
  · rename_i protocol
    subst protocol
    by_cases rejected : ∃ status, cause networkProtocolChannel packet = .protocolRejected status
    · obtain ⟨status, rejected⟩ := rejected
      have whole := handleMessage_rejected rejected
      unfold handleMessage at whole
      rw [if_pos rfl] at whole
      rw [whole, wp_bind]
      refine wp_mono ?_ (wp_disconnect_stops status)
      rintro _ u (rfl | stopped)
      · exact unchanged
      · exact .stopped stopped
    · have kept : ∀ status, cause networkProtocolChannel packet ≠ .protocolRejected status :=
        fun status same => rejected ⟨status, same⟩
      rcases handleProtocolResponse_kept packet kept with same | same
      · rw [same]
        exact unchanged
      · rw [same]
        refine wp_mono ?_ (wp_sendHandshake statusCodeOk)
        rintro _ _ ⟨answers, identity, rfl, only⟩
        refine .kept rfl (_ :: answers) rfl ?_ (.inl (by decide))
        intro e member
        rcases List.mem_cons.mp member with rfl | member
        · rfl
        · exact only.message e member
  rw [wp_ite]
  split
  · rename_i handshake
    by_cases handled : ∃ p, receive HandshakeResponsePacket.serialize packet = some p ∧
        p.statusCode = statusCodeOk
    · obtain ⟨p, received, accepted⟩ := handled
      have links : wp (steps self env) (handleHandshakeResponse packet)
          (fun _ u => Linking self w u) w := linking_rules.handshakeResponse packet w
      refine wp_mono ?_ (wp_and (wp_handshake received accepted) links)
      intro _ u ⟨run, beside⟩
      obtain ⟨answers, trace, told⟩ := beside.trace
      apply MessageLeaves.handshake p handshake received accepted answers trace
      · intro e member
        exact message_of_handles (told e member).2
      · exact run.settling trace
    · have ignored : ∀ p, receive HandshakeResponsePacket.serialize packet = some p →
          p.statusCode ≠ statusCodeOk := fun p received accepted => handled ⟨p, received, accepted⟩
      refine wp_mono ?_ (wp_handshake_ignored ignored)
      rintro _ _ rfl
      exact unchanged
  rw [wp_ite]
  split
  · exact kept_of_ingame (handleUpdateMessage_ingame packet)
  rw [wp_ite]
  split
  · exact kept_of_ingame (handleControlMessage_ingame packet)
  rw [wp_ite]
  split
  · exact kept_of_ingame (handlePositionMessage_ingame packet)
  · exact unchanged

end Messages

def Entry.response (e : Entry) : Option HandshakeResponsePacket :=
  e.message.bind fun (channelID, packet) =>
    if channelID = networkHandshakeChannel then receive HandshakeResponsePacket.serialize packet
    else none

-- A handshake response that was handled to its end: the connection with its server, the one on
-- which the own client was moved, and the own ids at that time.
structure Welcome where
  found : Option UInt64
  movedOn : Option UInt64
  ownId : UInt64 → AnyID

def welcome (entries : List Entry) (u : World) : Option Welcome :=
  if entries.any Entry.welcomes then
    (entries.findSome? Entry.response).map fun p =>
      ⟨entries.findSome? (Entry.named p.teamspeakServerUniqueIdentifier),
        entries.findSome? Entry.movedOn, fun handle => (u.teamspeak handle).ownId⟩
  else none

-- A session: the identifier given to the call that opened it, and its last welcome.
structure Game where
  gameId : UInt16
  welcome : Option Welcome

def Game.after (game : Game) (entries : List Entry) (u : World) : Game :=
  { game with welcome := (JustAnotherVoiceChat.welcome entries u).or game.welcome }

def Agrees (game : Option Game) (m : Memory) : Prop :=
  ∃ g ∈ game, m.client.gameId = g.gameId ∧ ∃ welcome ∈ g.welcome,
    welcome.found = some m.wrapper.serverConnectionHandler ∧
      welcome.movedOn = some m.wrapper.serverConnectionHandler ∧
      m.client.teamspeakId = welcome.ownId m.wrapper.serverConnectionHandler

-- A client in game handles a handshake response to its end, or does not look for the server, or
-- finds it where it is connected.
def Steadfast (w : World) (entries : List Entry) : Prop :=
  w.memory.client.IsIngame → ∀ p ∈ entries.findSome? Entry.response, p.statusCode = statusCodeOk →
    entries.any Entry.moved = true ∨ entries.any Entry.listRefused = true ∨
      entries.findSome? (Entry.named p.teamspeakServerUniqueIdentifier) =
        some w.memory.wrapper.serverConnectionHandler

structure Playing (game : Option Game) (w : World) : Prop where
  opened : w.memory.client.IsOpen → ∃ g ∈ game, w.memory.client.gameId = g.gameId
  agrees : w.memory.client.IsIngame → Agrees game w.memory

section Steps

variable {self : ThreadId} {env : Environment} {game : Option Game} {w u : World}

theorem Playing.of_shut (shut : ¬ u.memory.client.IsOpen) : Playing game u :=
  ⟨fun isOpen => absurd isOpen shut, fun ingame => absurd ingame.1 shut⟩

theorem Playing.of_stopped (stopped : u.memory.client.running = false) : Playing game u :=
  .of_shut (not_isOpen_of_stopped stopped)

theorem linked_isOpen {m m' : Memory} (same : linked m = linked m') :
    m.client.IsOpen ↔ m'.client.IsOpen := by
  obtain ⟨client, running, -⟩ := linked_fields same
  rw [Client.IsOpen, client, linked_peer same, running]
  rfl

theorem Playing.congr (playing : Playing game w) (fields : linked u.memory = linked w.memory)
    (id : u.memory.client.teamspeakId = w.memory.client.teamspeakId)
    (handler : u.memory.wrapper.serverConnectionHandler =
      w.memory.wrapper.serverConnectionHandler) : Playing game u := by
  have isOpen := linked_isOpen fields
  obtain ⟨-, -, -, -, gameId⟩ := linked_fields fields
  constructor
  · rw [isOpen, gameId]
    exact playing.opened
  · rw [Client.IsIngame, isOpen, Agrees, gameId, id, handler]
    exact playing.agrees

theorem Playing.kept (playing : Playing game w)
    (same : ingameFields u.memory = ingameFields w.memory) : Playing game u := by
  obtain ⟨client, handler⟩ := Prod.mk.inj same
  exact playing.congr (by rw [linked, client]; rfl) (congrArg Client.teamspeakId client) handler

theorem welcome_none {entries : List Entry} (unwelcome : entries.any Entry.welcomes = false) :
    welcome entries u = none := by
  simp [welcome, unwelcome]

theorem map_after_none {entries : List Entry} (none : welcome entries u = none) :
    (game.map fun g => g.after entries u) = game := by
  cases game with
  | none => rfl
  | some g => simp [Game.after, none]

theorem Settling.congr {p : HandshakeResponsePacket} {answers : List Entry} {w' u' : World}
    (settling : Settling p w u answers) (before : w.memory = w'.memory)
    (memory : u'.memory = u.memory) (teamspeak : u'.teamspeak = u.teamspeak) :
    Settling p w' u' answers := by
  cases settling with
  | refused client unwelcome unmoved server =>
    rw [before] at client server
    rw [← memory] at client server
    exact .refused client unwelcome unmoved server
  | settled fields welcome found on own =>
    rw [before, ← memory] at fields
    rw [← memory] at found on own
    rw [← teamspeak] at own
    exact .settled fields welcome found on own

theorem Settling.playing {p : HandshakeResponsePacket} {answers entries : List Entry}
    (settling : Settling p w u answers) (playing : Playing game w)
    (welcomes : entries.any Entry.welcomes = answers.any Entry.welcomes)
    (moved : entries.any Entry.moved = answers.any Entry.moved)
    (listRefused : entries.any Entry.listRefused = answers.any Entry.listRefused)
    (movedOn : entries.findSome? Entry.movedOn = answers.findSome? Entry.movedOn)
    (named : ∀ identifier, entries.findSome? (Entry.named identifier) =
      answers.findSome? (Entry.named identifier))
    (response : entries.findSome? Entry.response = some p) (accepted : p.statusCode = statusCodeOk)
    (steadfast : Steadfast w entries) : Playing (game.map fun g => g.after entries u) u := by
  cases settling with
  | refused client unwelcome unmoved server =>
    rw [map_after_none (welcome_none (welcomes.trans unwelcome))]
    constructor
    · rw [client]
      exact playing.opened
    · intro ingame
      rw [client] at ingame
      have kept := steadfast ingame p response accepted
      rw [moved, unmoved, listRefused, named] at kept
      have handler := server (kept.resolve_left Bool.false_ne_true)
      exact (playing.kept (Prod.ext client handler)).agrees (client ▸ ingame)
  | settled fields welcome found on own =>
    have isOpen := linked_isOpen fields
    obtain ⟨-, -, -, -, gameId⟩ := linked_fields fields
    have opened (still : u.memory.client.IsOpen) :
        ∃ g ∈ game.map fun g => g.after entries u, u.memory.client.gameId = g.gameId := by
      obtain ⟨g, member, same⟩ := playing.opened (isOpen.mp still)
      exact ⟨g.after entries u, Option.mem_map_of_mem _ member, gameId.trans same⟩
    refine ⟨opened, fun ingame => ?_⟩
    obtain ⟨_, member, same⟩ := opened ingame.1
    obtain ⟨g, member', rfl⟩ := Option.mem_map.mp member
    let newest : Welcome := ⟨entries.findSome? (Entry.named p.teamspeakServerUniqueIdentifier),
      entries.findSome? Entry.movedOn, fun handle => (u.teamspeak handle).ownId⟩
    have last : (g.after entries u).welcome = some newest := by
      simp [Game.after, JustAnotherVoiceChat.welcome, welcomes, welcome, response, newest]
    exact ⟨_, member, same, newest, last, (named _).trans found, movedOn.trans on,
      own ingame.2.2⟩

theorem Playing.silent {entries older : List Entry} (playing : Playing game w)
    (same : ingameFields u.memory = ingameFields w.memory) (trace : u.trace = older ++ w.trace)
    (unwelcome : welcome older u = none) (trace' : u.trace = entries ++ w.trace) :
    Playing (game.map fun g => g.after entries u) u := by
  obtain rfl := List.append_cancel_right (trace'.symm.trans trace)
  rw [map_after_none unwelcome]
  exact playing.kept same

def waited (self : ThreadId) (host : Option HostId) (serviced : Serviced) : List Entry :=
  [⟨self, .enet (.serviceEnd host 100), serviced⟩, ⟨self, .enet (.serviceBegin host 100), ()⟩]

theorem response_of_silent {answers : List Entry} (silent : ∀ e ∈ answers, e.message = none) :
    answers.findSome? Entry.response = none := by
  rw [List.findSome?_eq_none_iff]
  intro e member
  simp [Entry.response, silent e member]

theorem wp_messagePlays {v : World} {host : Option HostId} {code : Int} {channelID : UInt8}
    {packet : Bytes} (playing : Playing game w) (memory : v.memory = w.memory) (positive : 0 < code)
    (trace : v.trace = waited self host ⟨code, .receive channelID packet⟩ ++ w.trace) :
    wp (steps self env) (handleEvent (.receive channelID packet)) (fun _ u =>
      ∀ entries, u.trace = entries ++ w.trace → Steadfast w entries →
        Playing (game.map fun g => g.after entries u) u) v := by
  let served := waited self host ⟨code, .receive channelID packet⟩
  let destroyed : Entry := ⟨self, .enet .packetDestroy, ()⟩
  have unserved : destroyed.response = none := rfl
  have response (answers : List Entry) (silent : ∀ e ∈ answers, e.message = none) :
      (destroyed :: (answers ++ served)).findSome? Entry.response =
        if channelID = networkHandshakeChannel then
          receive HandshakeResponsePacket.serialize packet else none := by
    have message : Entry.message ⟨self, .enet (.serviceEnd host 100),
        ⟨code, .receive channelID packet⟩⟩ = some (channelID, packet) := if_pos positive
    have begun : Entry.response ⟨self, .enet (.serviceBegin host 100), ()⟩ = none := rfl
    rw [List.findSome?_cons, unserved, List.findSome?_append, response_of_silent silent]
    simp only [served, waited, List.findSome?_cons, begun, List.findSome?_nil, Option.none_or]
    rw [Entry.response, message, Option.bind_some]
    dsimp only
    split
    · rename_i taken
      exact taken.symm
    · rename_i taken
      exact taken.symm
  have unwelcome : destroyed.welcomes = false ∧ served.any Entry.welcomes = false := ⟨rfl, rfl⟩
  unfold handleEvent
  simp only [wp_bind, wp_client, wp_ite, wp_packetDestroy]
  split
  · rename_i stopped
    exact fun _ _ entries _ _ => .of_stopped stopped
  refine wp_mono ?_ (wp_messageLeaves channelID packet)
  intro _ u leaves _ _ entries trace' steadfast
  cases leaves with
  | stopped stopped => exact .of_stopped stopped
  | kept same answers told silent unhandled =>
    have whole : (u.record self (.enet .packetDestroy) ()).trace =
        (destroyed :: (answers ++ served)) ++ w.trace := by
      simp [told, trace, destroyed, served]
    refine playing.silent ?_ whole ?_ trace'
    · rw [← memory]
      exact same
    · rcases unhandled with other | unhandled
      · rw [welcome, response answers silent, if_neg other]
        simp
      · exact welcome_none (by simp [unwelcome, unhandled])
  | handshake p channel received accepted answers told silent settling =>
    have whole : (u.record self (.enet .packetDestroy) ()).trace =
        (destroyed :: (answers ++ served)) ++ w.trace := by
      simp [told, trace, destroyed, served]
    obtain rfl := List.append_cancel_right (trace'.symm.trans whole)
    have moved : destroyed.moved = false ∧ served.any Entry.moved = false := ⟨rfl, rfl⟩
    have listRefused : destroyed.listRefused = false ∧ served.any Entry.listRefused = false :=
      ⟨rfl, rfl⟩
    have movedOn : destroyed.movedOn = none ∧ served.findSome? Entry.movedOn = none := ⟨rfl, rfl⟩
    have named (identifier : StdString) : Entry.named identifier destroyed = none ∧
        served.findSome? (Entry.named identifier) = none := ⟨rfl, rfl⟩
    have settled : Settling p w (u.record self (.enet .packetDestroy) ()) answers :=
      settling.congr memory rfl rfl
    refine settled.playing playing ?_ ?_ ?_ ?_ ?_ ?_ accepted steadfast
    · simp [unwelcome]
    · simp [moved]
    · simp [listRefused]
    · simp [movedOn]
    · intro identifier
      simp [named]
    · rw [response answers silent, if_pos channel, received]

theorem wp_roundPlays (playing : Playing game w) :
    wp (steps self env) updateRound (fun found u => (found = some () → u = w) ∧
      ∀ entries, u.trace = entries ++ w.trace → Steadfast w entries →
        Playing (game.map fun g => g.after entries u) u) w := by
  have idle : ∀ entries, w.trace = entries ++ w.trace → Steadfast w entries →
      Playing (game.map fun g => g.after entries w) w := by
    intro entries trace _
    exact playing.silent rfl (List.nil_append _).symm rfl trace
  have unwelcome (serviced : Serviced) :
      (waited self w.memory.client.client serviced).any Entry.welcomes = false := rfl
  unfold updateRound
  simp only [wp_bind, wp_client, wp_ite, Program.pure_eq, wp_ret]
  split
  · exact ⟨fun _ => trivial, idle⟩
  split
  · exact ⟨fun _ => trivial, idle⟩
  apply wp_service
  intro serviced
  obtain ⟨code, event⟩ := serviced
  by_cases positive : 0 < code
  · rw [if_pos positive]
    cases event with
    | none | connect =>
      refine ⟨by simp, fun entries trace _ => ?_⟩
      exact playing.silent rfl rfl (welcome_none (unwelcome _)) trace
    | disconnect =>
      unfold handleEvent
      simp only [wp_setClient]
      exact ⟨by simp, fun entries trace _ => .of_stopped rfl⟩
    | receive channelID packet =>
      refine wp_mono (fun _ u plays => ⟨by simp, plays⟩) ?_
      exact wp_messagePlays playing rfl positive rfl
  · rw [if_neg positive]
    split
    · simp only [wp_setClient]
      exact ⟨by simp, fun entries trace _ => .of_stopped rfl⟩
    · refine ⟨by simp, fun entries trace _ => ?_⟩
      exact playing.silent rfl rfl (welcome_none (unwelcome _)) trace

inductive ConnectLeaves (call : ConnectCall) (w u : World) : Bool → Prop where
  | cached (cached : w.memory.client.Caches call.host call.port call.gameId) (same : u = w) :
      ConnectLeaves call w u true
  | opened (uncached : ¬ w.memory.client.Caches call.host call.port call.gameId)
      (gameId : u.memory.client.gameId = call.gameId)
      (teamspeakId : u.memory.client.teamspeakId = 0) : ConnectLeaves call w u true
  | failed (shut : ¬ u.memory.client.IsOpen) : ConnectLeaves call w u false

theorem wp_createShut (host : StdString) (port : UInt16) :
    wp (steps self env) (createConnection host port) (fun opened u =>
      opened = false → ¬ u.memory.client.IsOpen) w := by
  have closing {v : World} : wp (steps self env) close
      (fun _ u => True → ¬ u.memory.client.IsOpen) v :=
    wp_mono (fun _ u stopped _ => not_isOpen_of_stopped stopped) wp_close_stops
  unfold createConnection
  rw [wp_bind]
  refine wp_mono ?_ (wp_exec _ w)
  intro created v _
  simp only [wp_bind, wp_setClient, wp_client, wp_ite, Program.pure_eq, wp_ret]
  split
  · exact fun _ isOpen => absurd isOpen.1 (by simp)
  refine wp_mono ?_ (wp_exec _ _)
  intro resolved x _
  refine wp_mono ?_ (wp_exec _ _)
  intro peer y _
  split
  · exact closing
  refine wp_mono ?_ (wp_exec _ _)
  intro serviced z _
  split
  · exact closing
  · simp

theorem wp_connectLeaves {answers : (call : External) → World → call.Reply → Prop}
    (call : ConnectCall) : wp (steps call.caller (.calling call.caller answers))
      (connect call.host call.port call.gameId)
      (fun result u => ConnectLeaves call w u result) w := by
  unfold connect
  simp only [wp_bind, wp_client, wp_ite, Program.pure_eq, wp_ret]
  split
  · rename_i cached
    exact .cached cached rfl
  rename_i uncached
  have opening : wp (steps call.caller (.calling call.caller answers))
      (openConnection call.host call.port)
      (fun opened u => opened = false → ¬ u.memory.client.IsOpen) w := by
    unfold openConnection
    rw [wp_bind, wp_isOpen]
    split
    · rw [wp_bind]
      exact wp_mono (fun _ v _ => wp_createShut call.host call.port) (wp_exec _ w)
    · exact wp_createShut call.host call.port
  refine wp_mono ?_ opening
  intro opened v failed
  cases opened with
  | false => exact .failed (failed rfl)
  | true =>
    simp only [Bool.not_true, Bool.false_eq_true, if_false]
    unfold startUpdate
    simp only [wp_bind]
    refine wp_mono ?_ (wp_exec abortThread v)
    intro _ x _
    simp only [wp_setClient]
    rintro started y ⟨-, -, rfl⟩
    apply wp_sendProtocolMessage
    · exact fun _ => .opened uncached rfl rfl
    · exact .opened uncached rfl rfl

end Steps

instance (c : Client) (host : StdString) (port gameId : UInt16) :
    Decidable (c.Caches host port gameId) := inferInstanceAs (Decidable (_ ∧ _))

section Runs

variable (answers : (call : External) → World → call.Reply → Prop)
  (allowed : World → List Entry → Prop)

-- The runs of the client, with the session they are in; `allowed` limits the rounds. What happens
-- otherwise, in TeamSpeak and in its events, leaves the fields of the session alone.
inductive Plays (start : World) : Option Game → World → Prop where
  | start : Plays start none start
  | connect {game : Option Game} {w u : World} (before : Plays start game w) (call : ConnectCall)
      (result : Bool) (step : call.Returns answers w result u) :
      Plays start (if result = true ∧ ¬ w.memory.client.Caches call.host call.port call.gameId
        then some ⟨call.gameId, none⟩ else game) u
  | disconnect {game : Option Game} {w u : World} (before : Plays start game w)
      (caller : ThreadId) (outsider : w.phase caller = .unborn) (status : UInt32)
      (step : Exec (steps caller (.calling caller answers)) (disconnect status) w () u) :
      Plays start game u
  | round {game : Option Game} {w u : World} (before : Plays start game w) (id : ThreadId)
      (looping : w.phase id = .looping)
      (step : Exec (steps id (.updating id answers)) updateRound w none u) (entries : List Entry)
      (trace : u.trace = entries ++ w.trace) (ok : allowed w entries) :
      Plays start (game.map fun g => g.after entries u) u
  | leave {game : Option Game} {w u : World} (before : Plays start game w) (id : ThreadId)
      (looping : w.phase id = .looping)
      (step : Exec (steps id (.updating id answers)) updateRound w (some ()) u) :
      Plays start game (u.withPhase id .left)
  | close {game : Option Game} {w u : World} (before : Plays start game w) (id : ThreadId)
      (left : w.phase id = .left)
      (step : Exec (steps id (.updating id answers)) close w () u) :
      Plays start game (u.withPhase id .finished)
  | other {game : Option Game} {w u : World} (before : Plays start game w)
      (fields : linked u.memory = linked w.memory)
      (id : u.memory.client.teamspeakId = w.memory.client.teamspeakId)
      (handler : u.memory.wrapper.serverConnectionHandler =
        w.memory.wrapper.serverConnectionHandler)
      (phase : u.phase = w.phase) : Plays start game u

variable {answers} {start w : World} {game : Option Game}

theorem Plays.playing (fresh : Fresh start) (plays : Plays answers Steadfast start game w) :
    Playing game w := by
  induction plays with
  | start =>
    obtain ⟨port, client⟩ := fresh.client
    apply Playing.of_stopped
    rw [client]
    rfl
  | @connect game w u before call result step ih =>
    cases step.2.wp (wp_connectLeaves call) with
    | cached cached same =>
      rw [if_neg (by simp [cached]), same]
      exact ih
    | opened uncached gameId teamspeakId =>
      rw [if_pos ⟨rfl, uncached⟩]
      refine ⟨fun _ => ⟨_, rfl, gameId⟩, fun ingame => absurd teamspeakId ingame.2.2⟩
    | failed shut =>
      rw [if_neg (by simp)]
      exact .of_shut shut
  | disconnect before caller outsider status step ih =>
    rcases step.wp (wp_disconnect_stops status) with rfl | stopped
    · exact ih
    · exact .of_stopped stopped
  | round before id looping step entries trace ok ih =>
    exact (step.wp (wp_roundPlays ih)).2 entries trace ok
  | leave before id looping step ih =>
    obtain rfl := (step.wp (wp_roundPlays ih)).1 rfl
    exact ih.kept rfl
  | close before id left step ih => exact .of_stopped (step.wp wp_close_stops)
  | other before fields id handler phase ih => exact ih.congr fields id handler

/-- When every round keeps to the condition, a client in game is welcome: with the identifier of the
call that opened the session, on the connection of its last welcome, under its own id there. -/
theorem isIngame_agrees (answers : (call : External) → World → call.Reply → Prop) (start w : World)
    (fresh : Fresh start) (game : Option Game) (plays : Plays answers Steadfast start game w)
    (ingame : w.memory.client.IsIngame) : Agrees game w.memory :=
  (plays.playing fresh).agrees ingame

end Runs

def greeting (connections : List UInt64) : Replies where
  teamspeak := obliging connections .empty
  enet call w :=
    match call with
    | .serviceEnd _ _ => ⟨1, .receive networkHandshakeChannel okPayload⟩
    | call => connecting 1 call w
  thread := lone 1

def greeted (connections : List UInt64) (w : World) : World :=
  ranPlugin 1 (greeting connections) updateRound w

def gameAfter (game : Option Game) (w u : World) : Option Game :=
  game.map fun g => g.after (newSince w u) u

theorem plays_greeted {allowed : World → List Entry → Prop} {connections : List UInt64}
    {game : Option Game} {start w : World} (plays : Plays (fun _ _ _ => True) allowed start game w)
    (looping : w.phase 1 = .looping)
    (ran : (runPlugin 1 (greeting connections) 60 updateRound w).map (·.1) = some none)
    (ok : allowed w (newSince w (greeted connections w))) :
    Plays (fun _ _ _ => True) allowed start (gameAfter game w (greeted connections w))
      (greeted connections w) := by
  have step : Exec (steps 1 (.updating 1 fun _ _ _ => True)) updateRound w none
      (greeted connections w) := exec_ranPlugin (lone_within rfl) ran
  exact plays.round 1 looping step _ (newSince_grown
    (step.stays (steady_updating _)).enduring.trace) ok

def called : World := runConnect firstCall .idle

def seated : World := greeted [1, 0] called

def firstGame : Option Game := gameAfter (some ⟨1, none⟩) called seated

theorem plays_seated {allowed : World → List Entry → Prop}
    (ok : allowed called (newSince called seated)) :
    Plays (fun _ _ _ => True) allowed .idle firstGame seated := by
  have plays : Plays (fun _ _ _ => True) allowed .idle (some ⟨1, none⟩) called :=
    Plays.start.connect firstCall true firstCall_returns
  exact plays_greeted plays (by decide) (by decide) ok

theorem isIngame_agrees_first : Agrees firstGame seated.memory :=
  isIngame_agrees (fun _ _ _ => True) .idle seated idle_fresh firstGame
    (plays_seated fun ingame => absurd ingame (by decide)) (by decide)

def stranded : World := greeted [0] seated

-- The lookup for a refused response takes the connection away from a client in game.
theorem isIngame_stranded : ¬ ∀ (answers : (call : External) → World → call.Reply → Prop)
    (start w : World), Fresh start → ∀ game : Option Game,
      Plays answers (fun _ _ => True) start game w → w.memory.client.IsIngame →
        Agrees game w.memory := by
  intro claimed
  obtain ⟨g, member, -, welcome, last, found, -⟩ := claimed (fun _ _ _ => True) .idle stranded
    idle_fresh (gameAfter firstGame seated stranded)
    (plays_greeted (plays_seated trivial) (by decide) (by decide) trivial) (by decide)
  have before : (gameAfter firstGame seated stranded).map
      (fun g => g.welcome.map fun welcome => welcome.found) = some (some (some 1)) := by decide
  rw [Option.mem_def.mp member, Option.map_some, Option.mem_def.mp last, Option.map_some, found]
    at before
  revert before
  decide

end JustAnotherVoiceChat
