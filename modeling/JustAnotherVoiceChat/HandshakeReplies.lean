import JustAnotherVoiceChat.Handshake
import JustAnotherVoiceChat.Scenario

set_option autoImplicit false

namespace JustAnotherVoiceChat

open Binary Interaction

structure Quiet (answers : List Entry) : Prop where
  handshake : answers.filterMap Entry.handshake = []
  moved : answers.any Entry.moved = false
  named : ∀ identifier, answers.findSome? (Entry.named identifier) = none
  ownId : answers.findSome? Entry.ownId = none

theorem Only.quiet {topics : List Topic} {caller : ThreadId} {answers : List Entry}
    (only : Only topics caller answers) (others : .server ∉ topics ∧ .move ∉ topics ∧
      .ownId ∉ topics) : Quiet answers :=
  ⟨only.handshake, only.moved others.2.1, only.named others.1, only.ownId others.2.2⟩

theorem Quiet.append {first second : List Entry} (h₁ : Quiet first) (h₂ : Quiet second) :
    Quiet (first ++ second) where
  handshake := by rw [List.filterMap_append, h₁.handshake, h₂.handshake]; rfl
  moved := by rw [List.any_append, h₁.moved, h₂.moved]; rfl
  named identifier := by rw [List.findSome?_append, h₁.named, h₂.named]; rfl
  ownId := by rw [List.findSome?_append, h₁.ownId, h₂.ownId]; rfl

theorem quiet_statusSent (w : World) (caller : ThreadId) : Quiet [w.statusSent caller] :=
  ⟨rfl, rfl, fun _ => rfl, rfl⟩

structure Hushed (w u : World) : Prop where
  client : ∃ microphoneMuted speakersMuted, u.memory.client =
    { w.memory.client with microphoneMuted := microphoneMuted, speakersMuted := speakersMuted }
  handler : u.memory.wrapper.serverConnectionHandler = w.memory.wrapper.serverConnectionHandler
  trace : ∃ answers, u.trace = answers ++ w.trace ∧ Quiet answers

theorem Hushed.trans {w v u : World} (first : Hushed w v) (second : Hushed v u) : Hushed w u := by
  obtain ⟨⟨_, _, client⟩, handler, answers, trace, quiet⟩ := first
  obtain ⟨⟨microphoneMuted, speakersMuted, client'⟩, handler', more, trace', quiet'⟩ := second
  refine ⟨⟨microphoneMuted, speakersMuted, ?_⟩, handler'.trans handler, more ++ answers, ?_,
    quiet'.append quiet⟩
  · rw [client', client]
  · rw [trace', trace, List.append_assoc]

theorem Hushed.of_beside {α : Type} {part : Memory → α} {topics : List Topic} {caller : ThreadId}
    {w u : World} (beside : Beside part (External.About topics) caller w u)
    (client : u.memory.client = w.memory.client)
    (handler : u.memory.wrapper.serverConnectionHandler = w.memory.wrapper.serverConnectionHandler)
    (others : .server ∉ topics ∧ .move ∉ topics ∧ .ownId ∉ topics) : Hushed w u := by
  obtain ⟨answers, trace, only⟩ := beside.trace
  have only : Only topics caller answers := only
  exact ⟨⟨_, _, client⟩, handler, answers, trace, only.quiet others⟩

theorem Asked.hushed {topics : List Topic} {caller : ThreadId} {w u : World}
    (asked : Asked topics caller w u) (others : .server ∉ topics ∧ .move ∉ topics ∧
      .ownId ∉ topics) : Hushed w u := by
  obtain ⟨answers, rfl, only⟩ := asked
  exact ⟨⟨_, _, rfl⟩, rfl, answers, rfl, only.quiet others⟩

section Parts

variable {caller : ThreadId} {env : Environment} {handle lastChannelId channelId : UInt64}
  {w u : World}

theorem Prepared.outcome {muted : Bool}
    (prepared : Prepared caller env handle lastChannelId muted w u) :
    u.memory = w.memory ∧ ∃ answers, u.trace = answers ++ w.trace ∧
      Only [.ownId, .channel, .readInt, .writeInt] caller answers := by
  obtain ⟨channel, output, silenced⟩ := prepared
  obtain ⟨first, rfl, only⟩ := channel.wp
    (wp_asking (ts3ChannelId_on handle) (by simp [Topic.Asks]))
  obtain ⟨second, rfl, only'⟩ :=
    output.wp (wp_asking (ts3IsOutputMuted_on handle) (by simp [Topic.Asks]))
  have asked : Only [.ownId, .channel, .readInt, .writeInt] caller (second ++ first) :=
    (only'.mono (by simp)).append (only.mono (by simp))
  cases muted with
  | true =>
    obtain rfl := silenced
    exact ⟨rfl, second ++ first, by simp, asked⟩
  | false =>
    obtain ⟨ok, silenced⟩ := silenced
    have writes : (ts3SetOutputMuted handle true).Calls (Op.On id [.writeInt]) :=
      ts3SetOutputMuted_on handle true
    have beside := silenced.wp (wp_keeping writes)
    obtain ⟨third, trace, only⟩ := beside.trace
    have only : Only [.writeInt] caller third := only
    exact ⟨beside.memory, third ++ (second ++ first), by simp [trace],
      (only.mono (by simp)).append asked⟩

theorem Announced.outcome (announced : Announced caller env handle w u) :
    u.teamspeak = w.teamspeak ∧ ∃ v answers identity, Only [.readString] caller answers ∧
      v = w.logged (w.handshakeSent caller statusCodeOk identity :: answers) ∧ Hushed v u := by
  obtain ⟨reply, input, output, status, listener, settings⟩ := announced
  rename_i microphoneMuted speakersMuted _ _
  obtain ⟨answers, identity, same, only⟩ := reply.wp (wp_sendHandshake statusCodeOk)
  have input := input.wp (wp_asking (ts3IsInputMuted_on handle) (by simp [Topic.Asks]))
  have output := output.wp (wp_asking (ts3IsOutputMuted_on handle) (by simp [Topic.Asks]))
  have status := status.wp wp_sendStatus
  have listener := listener.wp (wp_asking ts3ResetListenerPosition_on (by simp [Topic.Asks]))
  have settings := settings.wp (wp_asking (ts3Set3DSettings_on _ _) (by simp [Topic.Asks]))
  have silence : Quiet [] := ⟨rfl, rfl, fun _ => rfl, rfl⟩
  have microphone (v : World) (muted : Bool) :
      Hushed v (v.setClient fun c => { c with microphoneMuted := muted }) :=
    ⟨⟨_, _, rfl⟩, rfl, [], rfl, silence⟩
  have speakers (v : World) (muted : Bool) :
      Hushed v (v.setClient fun c => { c with speakersMuted := muted }) :=
    ⟨⟨_, _, rfl⟩, rfl, [], rfl, silence⟩
  have reported (v : World) : Hushed v (v.logged [v.statusSent caller]) :=
    ⟨⟨_, _, rfl⟩, rfl, _, rfl, quiet_statusSent v caller⟩
  refine ⟨?_, _, answers, identity, only, same, ?_⟩
  · rw [settings.teamspeak, listener.teamspeak, status]
    refine output.teamspeak.trans (input.teamspeak.trans ?_)
    rw [same]
    rfl
  · refine (input.hushed (by simp)).trans ((microphone _ microphoneMuted).trans ?_)
    refine (output.hushed (by simp)).trans ((speakers _ speakersMuted).trans ?_)
    rw [status] at listener
    exact (reported _).trans ((listener.hushed (by simp)).trans (settings.hushed (by simp)))

structure Established (handle lastChannelId : UInt64) (w u : World) (answers : List Entry)
    (reply : HandshakePacket) : Prop where
  client : ∃ microphoneMuted speakersMuted, u.memory.client = { w.memory.client with
    teamspeakId := reply.teamspeakId, lastChannelId := lastChannelId,
    microphoneMuted := microphoneMuted, speakersMuted := speakersMuted }
  handler : u.memory.wrapper.serverConnectionHandler = w.memory.wrapper.serverConnectionHandler
  trace : u.trace = answers ++ w.trace
  replied : answers.filterMap Entry.handshake = [reply]
  status : reply.statusCode = statusCodeOk
  moved : answers.any Entry.moved = false
  named : ∀ identifier, answers.findSome? (Entry.named identifier) = none
  told : handle ≠ 0 → answers.findSome? Entry.ownId = some reply.teamspeakId
  own : reply.teamspeakId ≠ 0 → reply.teamspeakId = (u.teamspeak handle).ownId

theorem Entered.outcome {tempMute : Bool}
    (entered : Entered caller env handle lastChannelId channelId tempMute w u) :
    ∃ answers reply, Established handle lastChannelId w u answers reply := by
  obtain ⟨listing, muting, unsilenced, own, announced⟩ := entered
  rename_i b c d clients teamspeakId
  have listed := listing.wp (wp_asking (ts3ClientsInChannel_on channelId) (by simp [Topic.Asks]))
  have mutes : (forM clients.elems fun id => discard (ts3MuteClient id true)).Calls
      (Op.On apartFromMuted [.mute]) :=
    Program.Calls.forM fun _ _ => discard_calls (ts3MuteClients_on _ true)
  have muted := muting.wp (wp_keeping mutes)
  have silence : Hushed b c := by
    cases tempMute with
    | false =>
      obtain rfl : c = b := unsilenced
      exact ⟨⟨_, _, rfl⟩, rfl, [], rfl, rfl, rfl, fun _ => rfl, rfl⟩
    | true =>
      obtain ⟨ok, unsilenced⟩ := unsilenced
      have writes : (ts3SetOutputMuted handle false).Calls (Op.On id [.writeInt]) :=
        ts3SetOutputMuted_on handle false
      have beside := unsilenced.wp (wp_keeping writes)
      exact .of_beside beside (congrArg Memory.client beside.memory)
        (congrArg (fun m => m.wrapper.serverConnectionHandler) beside.memory) (by simp)
  have client := congrArg Memory.client muted.memory
  have handler := congrArg (fun m => m.wrapper.serverConnectionHandler) muted.memory
  have before : Hushed w c :=
    (listed.hushed (by simp)).trans (.trans (.of_beside muted client handler (by simp)) silence)
  obtain ⟨owned, rfl, only, identified⟩ := own.wp (wp_identify handle)
  obtain ⟨teamspeak, _, named, identity, only', rfl, after⟩ := announced.outcome
  obtain ⟨⟨_, _, client⟩, handler, first, trace, quiet⟩ := before
  obtain ⟨⟨microphoneMuted, speakersMuted, client'⟩, handler', last, trace', quiet'⟩ := after
  have quiet₂ := only'.quiet (by simp)
  let entered := (c.logged owned).setClient fun m =>
    { m with teamspeakId := teamspeakId, lastChannelId := lastChannelId }
  let sent := entered.handshakeSent caller statusCodeOk identity
  let reply : HandshakePacket := ⟨c.memory.client.gameId, teamspeakId, statusCodeOk, identity⟩
  have handshake : sent.handshake = some reply := rfl
  refine ⟨last ++ (sent :: (named ++ (owned ++ first))), reply,
    ⟨microphoneMuted, speakersMuted, ?_⟩, handler'.trans handler, ?_, ?_, rfl, ?_, ?_, ?_, ?_⟩
  · rw [client']
    simp [client, reply]
  · rw [trace']
    simp [trace, sent, entered]
  · simp [quiet.handshake, quiet'.handshake, quiet₂.handshake, only.handshake, handshake]
  · have other : sent.moved = false := rfl
    simp [quiet.moved, quiet'.moved, quiet₂.moved, only.moved, other]
  · intro identifier
    have other : Entry.named identifier sent = none := rfl
    simp [quiet.named, quiet'.named, quiet₂.named, only.named, other]
  · intro nonzero
    have other : sent.ownId = none := rfl
    simp [quiet'.ownId, quiet₂.ownId, other, identified.told nonzero, reply]
  · intro nonzero
    rw [teamspeak]
    exact (identified.own nonzero).2

end Parts

-- A handshake response that was answered with an error; `found` tells about the lookup.
structure Declined (p : HandshakeResponsePacket) (found : Bool) (w u : World)
    (answers : List Entry) (reply : HandshakePacket) : Prop where
  memory : u.memory = (w.withHandler u.memory.wrapper.serverConnectionHandler).memory
  replied : answers.filterMap Entry.handshake = [reply]
  status : reply.statusCode ≠ statusCodeOk
  unmoved : answers.any Entry.moved = false
  named : answers.findSome? (Entry.named p.teamspeakServerUniqueIdentifier) =
    if found then some u.memory.wrapper.serverConnectionHandler else none
  listRefused : answers.any Entry.listRefused = true →
    u.memory.wrapper.serverConnectionHandler = w.memory.wrapper.serverConnectionHandler

-- A handshake response for which the own client was moved.
structure Welcomed (p : HandshakeResponsePacket) (w u : World) (answers : List Entry)
    (reply : HandshakePacket) : Prop where
  client : ∃ lastChannelId microphoneMuted speakersMuted, u.memory.client = { w.memory.client with
    teamspeakId := reply.teamspeakId, lastChannelId := lastChannelId,
    microphoneMuted := microphoneMuted, speakersMuted := speakersMuted }
  replied : answers.filterMap Entry.handshake = [reply]
  status : reply.statusCode = statusCodeOk
  moved : answers.any Entry.moved = true
  found : answers.findSome? (Entry.named p.teamspeakServerUniqueIdentifier) =
    some u.memory.wrapper.serverConnectionHandler
  movedOn : answers.findSome? Entry.movedOn = some u.memory.wrapper.serverConnectionHandler
  told : answers.findSome? Entry.ownId = some reply.teamspeakId
  own : reply.teamspeakId ≠ 0 →
    reply.teamspeakId = (u.teamspeak u.memory.wrapper.serverConnectionHandler).ownId

section Outcome

variable {caller : ThreadId} {env : Environment} {p : HandshakeResponsePacket} {w v x y u : World}
  {lastChannelId : UInt64} {muted : Bool}

theorem declined_of_reply {answers : List Entry} {statusCode : Int32} {found : Bool}
    (error : statusCode ≠ statusCodeOk)
    (memory : y.memory = (w.withHandler y.memory.wrapper.serverConnectionHandler).memory)
    (trace : y.trace = answers ++ w.trace) (silent : answers.filterMap Entry.handshake = [])
    (stayed : answers.any Entry.moved = false)
    (named : answers.findSome? (Entry.named p.teamspeakServerUniqueIdentifier) =
      if found then some y.memory.wrapper.serverConnectionHandler else none)
    (listRefused : answers.any Entry.listRefused = true →
      y.memory.wrapper.serverConnectionHandler = w.memory.wrapper.serverConnectionHandler)
    (run : Exec (steps caller env) (sendHandshake statusCode) y () u) :
    ∃ answers reply, u.trace = answers ++ w.trace ∧ Declined p found w u answers reply := by
  obtain ⟨told, identity, rfl, only⟩ := run.wp (wp_sendHandshake statusCode)
  let sent := y.handshakeSent caller statusCode identity
  let reply : HandshakePacket :=
    ⟨y.memory.client.gameId, y.memory.client.teamspeakId, statusCode, identity⟩
  have handshake : sent.handshake = some reply := rfl
  have unmoved : sent.moved = false := rfl
  have unnamed : Entry.named p.teamspeakServerUniqueIdentifier sent = none := rfl
  have unlisted : sent.listRefused = false := rfl
  refine ⟨sent :: (told ++ answers), reply, by simp [trace, sent], memory, ?_, error, ?_, ?_, ?_⟩
  · simp [handshake, only.handshake, silent]
  · simp [unmoved, only.moved, stayed]
  · simp [unnamed, only.named, named]
  · intro refused
    exact listRefused (by simpa [unlisted, only.listRefused] using refused)

theorem declined_unknown (lookup : Exec (steps caller env)
      (ts3VerifyServer p.teamspeakServerUniqueIdentifier) w false v)
    (reply : Exec (steps caller env) (sendHandshake statusCodeNotConnectedToServer) v () u) :
    ∃ answers reply, u.trace = answers ++ w.trace ∧ Declined p false w u answers reply := by
  obtain ⟨answers, looked⟩ := lookup.wp (wp_lookup _)
  have memory : v.memory = _ := congrArg World.memory looked.after
  have trace : v.trace = answers ++ w.trace := by rw [looked.after]; rfl
  exact declined_of_reply (by decide) memory trace looked.only.handshake
    (looked.only.moved (by simp)) (looked.unnamed rfl) looked.refused reply

theorem declined_refused (lookup : Exec (steps caller env)
      (ts3VerifyServer p.teamspeakServerUniqueIdentifier) w true v)
    (prepared : Prepared caller env v.memory.wrapper.serverConnectionHandler lastChannelId muted
      v x)
    (move : Exec (steps caller env) (ts3MoveToChannel p.channelId p.channelPassword) x false y)
    (reply : Exec (steps caller env) (sendHandshake statusCodeNotMovedToChannel) y () u) :
    ∃ answers reply, u.trace = answers ++ w.trace ∧ Declined p true w u answers reply := by
  obtain ⟨first, looked⟩ := lookup.wp (wp_lookup _)
  obtain ⟨memory, second, trace, only⟩ := prepared.outcome
  obtain ⟨third, moved⟩ := move.wp (wp_move _ _)
  have same : y.memory = v.memory := moved.memory.trans memory
  have before : v.memory = _ := congrArg World.memory looked.after
  have whole : y.trace = (third ++ (second ++ first)) ++ w.trace := by
    rw [moved.trace, trace, looked.after]
    simp
  have stayed : third.any Entry.moved = false := moved.answered.symm
  refine declined_of_reply (by decide) (by rw [same]; exact before) whole ?_ ?_ ?_ ?_ reply
  · simp [moved.only.handshake, only.handshake, looked.only.handshake]
  · simp [stayed, only.moved, looked.only.moved]
  · rw [same]
    simp [moved.only.named, only.named, (looked.named rfl).2]
  · intro refused
    rw [same]
    apply looked.refused
    simpa [moved.only.listRefused, only.listRefused] using refused

theorem welcomed_entered (lookup : Exec (steps caller env)
      (ts3VerifyServer p.teamspeakServerUniqueIdentifier) w true v)
    (prepared : Prepared caller env v.memory.wrapper.serverConnectionHandler lastChannelId muted
      v x)
    (move : Exec (steps caller env) (ts3MoveToChannel p.channelId p.channelPassword) x true y)
    (entered : Entered caller env v.memory.wrapper.serverConnectionHandler lastChannelId
      p.channelId (!muted) y u) :
    ∃ answers reply, u.trace = answers ++ w.trace ∧ Welcomed p w u answers reply := by
  obtain ⟨first, looked⟩ := lookup.wp (wp_lookup _)
  obtain ⟨nonzero, named⟩ := looked.named rfl
  obtain ⟨memory, second, trace, only⟩ := prepared.outcome
  obtain ⟨third, moved⟩ := move.wp (wp_move _ _)
  obtain ⟨last, reply, established⟩ := entered.outcome
  have same := moved.memory.trans memory
  have client : y.memory.client = w.memory.client := by rw [same, looked.after]; rfl
  have handler : u.memory.wrapper.serverConnectionHandler =
      v.memory.wrapper.serverConnectionHandler := by rw [established.handler, same]
  have before : v.trace = first ++ w.trace := by rw [looked.after]; rfl
  have accepted : third.any Entry.moved = true := moved.answered.symm
  obtain ⟨microphoneMuted, speakersMuted, after⟩ := established.client
  refine ⟨last ++ (third ++ (second ++ first)), reply,
    by simp [established.trace, moved.trace, trace, before],
    ⟨lastChannelId, microphoneMuted, speakersMuted, by rw [after, client]⟩, ?_,
    established.status, ?_, ?_, ?_, ?_, ?_⟩
  · simp [established.replied, moved.only.handshake, only.handshake, looked.only.handshake]
  · simp [accepted]
  · simp [established.named, moved.only.named, only.named, named, handler]
  · rw [List.findSome?_append, movedOn_of_moved established.moved, List.findSome?_append,
      moved.on rfl, handler, memory]
    rfl
  · simp [established.told nonzero]
  · rw [handler]
    exact established.own

theorem HandshakeRun.outcome (run : HandshakeRun caller env p w u) : ∃ answers reply,
    u.trace = answers ++ w.trace ∧
      ((∃ found, Declined p found w u answers reply) ∨ Welcomed p w u answers reply) := by
  cases run with
  | unknown lookup reply =>
    obtain ⟨answers, reply, trace, declined⟩ := declined_unknown lookup reply
    exact ⟨answers, reply, trace, .inl ⟨_, declined⟩⟩
  | refused lookup prepared move reply =>
    obtain ⟨answers, reply, trace, declined⟩ := declined_refused lookup prepared move reply
    exact ⟨answers, reply, trace, .inl ⟨_, declined⟩⟩
  | entered lookup prepared move entered =>
    obtain ⟨answers, reply, trace, welcomed⟩ := welcomed_entered lookup prepared move entered
    exact ⟨answers, reply, trace, .inr welcomed⟩

theorem HandshakeRun.outcome_of {answers : List Entry} (run : HandshakeRun caller env p w u)
    (trace : u.trace = answers ++ w.trace) :
    ∃ reply, (∃ found, Declined p found w u answers reply) ∨ Welcomed p w u answers reply := by
  obtain ⟨answers', reply, trace', outcome⟩ := run.outcome
  obtain rfl : answers' = answers := List.append_cancel_right (trace'.symm.trans trace)
  exact ⟨reply, outcome⟩

end Outcome

-- What one handshake response leads to, from the answers of TeamSpeak and the reply to it.
structure HandshakeLaw (p : HandshakeResponsePacket) (w u : World) (answers : List Entry)
    (reply : HandshakePacket) : Prop where
  once : answers.filterMap Entry.handshake = [reply]
  -- nothing is said of a client that was moved and does not get to know its own id
  status : (answers.any Entry.moved = true → answers.findSome? Entry.ownId ≠ some 0) →
    (reply.statusCode = statusCodeOk ↔
      (answers.findSome? (Entry.named p.teamspeakServerUniqueIdentifier)).isSome = true ∧
        answers.any Entry.moved = true)
  ingame : reply.statusCode = statusCodeOk → ∃ id, answers.findSome? Entry.ownId = some id ∧
    (id ≠ 0 → w.memory.client.gameId ≠ 0 → u.memory.client.IsIngame ∧
      u.memory.client.teamspeakId = id ∧
      answers.findSome? (Entry.named p.teamspeakServerUniqueIdentifier) =
        some u.memory.wrapper.serverConnectionHandler ∧
      id = (u.teamspeak u.memory.wrapper.serverConnectionHandler).ownId)
  unchanged : reply.statusCode ≠ statusCodeOk →
    u.memory.client.teamspeakId = w.memory.client.teamspeakId ∧
    u.memory.client.lastChannelId = w.memory.client.lastChannelId ∧
    u.memory.wrapper.mutedClients = w.memory.wrapper.mutedClients ∧
    (u.memory.client.IsIngame ↔ w.memory.client.IsIngame)

section Replies

variable {caller : ThreadId} {env : Environment} {w v y u : World}

theorem HandshakeRun.law {p : HandshakeResponsePacket} (isOpen : w.memory.client.IsOpen)
    (run : HandshakeRun caller env p w u) :
    ∃ answers reply, u.trace = answers ++ w.trace ∧ HandshakeLaw p w u answers reply := by
  obtain ⟨answers, reply, trace, ⟨_, declined⟩ | welcomed⟩ := run.outcome
  · refine ⟨answers, reply, trace, declined.replied, fun _ => ?_,
      fun ok => absurd ok declined.status, fun _ => ?_⟩
    · simp [declined.unmoved, declined.status]
    · rw [declined.memory]
      exact ⟨rfl, rfl, rfl, Iff.rfl⟩
  · obtain ⟨lastChannelId, microphoneMuted, speakersMuted, client⟩ := welcomed.client
    refine ⟨answers, reply, trace, welcomed.replied, fun _ => ?_, fun _ => ?_,
      fun error => absurd welcomed.status error⟩
    · simp [welcomed.status, welcomed.found, welcomed.moved]
    · refine ⟨reply.teamspeakId, welcomed.told, fun known game => ?_⟩
      have ingame : u.memory.client.IsIngame := by
        rw [client]
        exact ⟨isOpen, game, known⟩
      have id : u.memory.client.teamspeakId = reply.teamspeakId := by rw [client]
      exact ⟨ingame, id, welcomed.found, welcomed.own known⟩

end Replies

def okResponse : HandshakeResponsePacket := ⟨statusCodeOk, .empty, .empty, 2, .empty⟩

def okPayload : Bytes := HandshakeResponsePacket.serialize.encode okResponse

theorem okPayload_received :
    receive HandshakeResponsePacket.serialize okPayload = some okResponse := by decide

def World.ingame : World := .playing 1 3

def accepting : Replies := ⟨obliging [1, 0] .empty, connecting 1, lone 1⟩

def refusing : Replies where
  teamspeak
    | .requestClientMove _ _ _ _, _ => false
    | call, w => obliging [1, 0] .empty call w
  enet := connecting 1
  thread := lone 1

def Truthful (p : HandshakeResponsePacket) (u : World) (answers : List Entry)
    (reply : HandshakePacket) : Prop :=
  reply.statusCode = statusCodeOk ↔ u.memory.client.IsIngame ∧ ∃ found,
    answers.findSome? (Entry.named p.teamspeakServerUniqueIdentifier) = some found ∧
      u.memory.client.teamspeakId = (u.teamspeak found).ownId

end JustAnotherVoiceChat
