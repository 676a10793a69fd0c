import JustAnotherVoiceChat.Closing
import JustAnotherVoiceChat.Scenario

set_option autoImplicit false

namespace JustAnotherVoiceChat

open Binary Interaction

inductive Cause where
  | protocolAccepted
  | protocolRejected (status : UInt32)
  | handshakeAccepted
  | update
  | control
  | position
  | nothing
deriving DecidableEq

def protocolCause (p : ProtocolResponsePacket) : Cause :=
  if !verifyProtocolVersion p.versionMajor p.versionMinor protocolMinVersionMajor
      protocolMinVersionMinor then .protocolRejected disconnectStatusOutdatedServer
  else if p.statusCode ≠ statusCodeOk then .protocolRejected disconnectStatusOutdatedClient
  else .protocolAccepted

def cause (channelID : UInt8) (packet : Bytes) : Cause :=
  if channelID = networkProtocolChannel then
    (receive ProtocolResponsePacket.serialize packet).elim .nothing protocolCause
  else if channelID = networkHandshakeChannel then
    (receive HandshakeResponsePacket.serialize packet).elim .nothing fun p =>
      if p.statusCode = statusCodeOk then .handshakeAccepted else .nothing
  else if channelID = networkUpdateChannel then
    (receive UpdatePacket.serialize packet).elim .nothing fun p =>
      if p.audioUpdates.items = [] ∧ p.positionUpdates.items = [] then .nothing else .update
  else if channelID = networkControlChannel then
    (receive ControlPacket.serialize packet).elim .nothing fun p =>
      if p.nickname = .empty then .nothing else .control
  else if channelID = networkPositionChannel then
    (receive PositionPacket.serialize packet).elim .nothing fun p =>
      if p.positions.items = [] then .nothing else .position
  else .nothing

def Entry.message : Entry → Option (UInt8 × Bytes)
  | ⟨_, .enet (.serviceEnd _ 100), ⟨code, .receive channelID packet⟩⟩ =>
    if 0 < code then some (channelID, packet) else none
  | _ => none

theorem message_eq_none {e : Entry} (other : ∀ host, e.call ≠ .enet (.serviceEnd host 100)) :
    e.message = none := by
  obtain ⟨thread, call, reply⟩ := e
  unfold Entry.message
  split
  · rename_i host code channelID packet same
    cases same
    exact absurd rfl (other host)
  · rfl

-- An update thread whose thread calls change nothing: the only one it makes is the question for
-- its own id.
def Environment.updating (self : ThreadId)
    (answers : (call : External) → World → call.Reply → Prop) : Environment where
  answers := answers
  threading
    | .selfId, w, reply, w' => reply = self ∧ w' = w
    | _, w, _, w' => w' = w

theorem updating_knows {self : ThreadId}
    {answers : (call : External) → World → call.Reply → Prop} :
    (Environment.updating self answers).Knows self := fun _ _ _ told => told

theorem lone_within {self : ThreadId} {replies : Replies} (thread : replies.thread = lone self) :
    replies.Within (.updating self fun _ _ _ => True) := by
  refine ⟨fun _ _ => trivial, fun _ _ => trivial, fun _ _ => trivial, ?_⟩
  rw [thread]
  intro call w reply w' answered
  cases call with
  | selfId =>
    obtain ⟨rfl, rfl⟩ := Prod.mk.inj (Option.some.inj answered)
    exact ⟨rfl, rfl⟩
  | joinable | delete | exit => exact (Prod.mk.inj (Option.some.inj answered)).2.symm
  | spawn | join => cases answered

section Messages

variable {channelID : UInt8} {packet : Bytes} {status : UInt32}

theorem handleMessage_rejected (rejected : cause channelID packet = .protocolRejected status) :
    handleMessage channelID packet = (do disconnect status; return ()) := by
  unfold cause at rejected
  unfold handleMessage handleProtocolResponse
  by_cases protocol : channelID = networkProtocolChannel
  · rw [if_pos protocol] at rejected ⊢
    cases received : receive ProtocolResponsePacket.serialize packet with
    | none => simp [received] at rejected
    | some p =>
      rw [received, Option.elim_some, protocolCause] at rejected
      dsimp only
      split at rejected
      · rename_i outdated
        rw [if_pos outdated, Cause.protocolRejected.inj rejected]
      rename_i current
      rw [if_neg current]
      split at rejected
      · rename_i failed
        rw [if_pos failed, Cause.protocolRejected.inj rejected]
      · cases rejected
  · rw [if_neg protocol] at rejected
    exfalso
    split at rejected
    · cases h : receive HandshakeResponsePacket.serialize packet with
      | none => simp [h] at rejected
      | some p =>
        rw [h, Option.elim_some] at rejected
        split at rejected <;> cases rejected
    split at rejected
    · cases h : receive UpdatePacket.serialize packet with
      | none => simp [h] at rejected
      | some p =>
        rw [h, Option.elim_some] at rejected
        split at rejected <;> cases rejected
    split at rejected
    · cases h : receive ControlPacket.serialize packet with
      | none => simp [h] at rejected
      | some p =>
        rw [h, Option.elim_some] at rejected
        split at rejected <;> cases rejected
    split at rejected
    · cases h : receive PositionPacket.serialize packet with
      | none => simp [h] at rejected
      | some p =>
        rw [h, Option.elim_some] at rejected
        split at rejected <;> cases rejected
    · cases rejected

def linked (m : Memory) : Client :=
  { m.client with
    teamspeakId := 0, lastChannelId := 0, talking := false, microphoneMuted := false,
    speakersMuted := false }

theorem linked_peer {m m' : Memory} (same : linked m = linked m') :
    m.client.peer = m'.client.peer := by
  simpa [linked] using congrArg Client.peer same

theorem linked_thread {m m' : Memory} (same : linked m = linked m') :
    m.client.thread = m'.client.thread := by
  simpa [linked] using congrArg Client.thread same

theorem linked_fields {m m' : Memory} (same : linked m = linked m') :
    m.client.client = m'.client.client ∧ m.client.running = m'.client.running ∧
      m.client.host = m'.client.host ∧ m.client.port = m'.client.port ∧
      m.client.gameId = m'.client.gameId := by
  simp only [linked, Client.mk.injEq] at same
  exact ⟨same.1, same.2.2.2.1, same.2.2.2.2.2.2.1, same.2.2.2.2.2.2.2.1, same.2.2.2.2.1⟩

-- A protocol response that is not rejected brings a handshake at most.
theorem handleProtocolResponse_kept (packet : Bytes)
    (kept : ∀ status, cause networkProtocolChannel packet ≠ .protocolRejected status) :
    handleProtocolResponse packet = pure () ∨
      handleProtocolResponse packet = sendHandshake statusCodeOk := by
  unfold handleProtocolResponse
  unfold cause at kept
  rw [if_pos rfl] at kept
  cases received : receive ProtocolResponsePacket.serialize packet with
  | none => exact .inl rfl
  | some p =>
    simp only [received, Option.elim_some, protocolCause] at kept
    dsimp only
    split
    · rename_i outdated
      rw [if_pos outdated] at kept
      exact absurd rfl (kept _)
    rename_i current
    rw [if_neg current] at kept
    split
    · rename_i failed
      rw [if_pos failed] at kept
      exact absurd rfl (kept _)
    · exact .inr rfl

end Messages

structure HandlerRules (sem : Semantics Op Op.Reply World) (relation : World → World → Prop) :
    Prop where
  ofWrapper : ∀ {α : Type} {p : Plugin α}, p.Calls Op.OfWrapper → Stays sem relation p
  setClient : ∀ {update : Client → Client},
    (∀ m : Memory, linked { m with client := update m.client } = linked m) →
      Stays sem relation (setClient update)
  sendPacket : ∀ packet channelID reliable,
    Stays sem relation (sendPacket packet channelID reliable)

section Rules

variable {sem : Semantics Op Op.Reply World} {relation : World → World → Prop}
  [IsTrans World relation]

theorem HandlerRules.parts (rules : HandlerRules sem relation) :
    PartPrograms (fun {_} p => Stays sem relation p) :=
  .of_wrapper Stays.bind rules.ofWrapper

theorem HandlerRules.sendProtocolMessage (rules : HandlerRules sem relation) :
    Stays sem relation sendProtocolMessage :=
  rules.parts.sendProtocolMessage fun _ => rules.sendPacket _ _ _

theorem HandlerRules.sendHandshake (rules : HandlerRules sem relation) (statusCode : Int32) :
    Stays sem relation (sendHandshake statusCode) :=
  rules.parts.sendHandshake (rules.ofWrapper ts3GetClientIdentity_calls)
    (fun _ => rules.sendPacket _ _ _) statusCode

theorem HandlerRules.sendStatus (rules : HandlerRules sem relation) :
    Stays sem relation sendStatus :=
  rules.parts.sendStatus fun _ => rules.sendPacket _ _ _

theorem HandlerRules.setTalking (rules : HandlerRules sem relation) (talking : Bool) :
    Stays sem relation (setTalking talking) :=
  (rules.setClient fun _ => rfl).bind fun _ => rules.sendStatus

theorem HandlerRules.setMicrophoneMuted (rules : HandlerRules sem relation) (muted : Bool) :
    Stays sem relation (setMicrophoneMuted muted) :=
  (rules.setClient fun _ => rfl).bind fun _ => rules.sendStatus

theorem HandlerRules.setSpeakersMuted (rules : HandlerRules sem relation) (muted : Bool) :
    Stays sem relation (setSpeakersMuted muted) :=
  (rules.setClient fun _ => rfl).bind fun _ => rules.sendStatus

theorem HandlerRules.programs (rules : HandlerRules sem relation) :
    HandlerPrograms (fun {_} p => Stays sem relation p) where
  toPartPrograms := rules.parts
  setClient same :=
    rules.setClient fun m => congrArg (fun c => { c with talking := false }) (same m.client)
  sendHandshake := rules.sendHandshake
  sendStatus := rules.sendStatus

theorem HandlerRules.handshakeResponse (rules : HandlerRules sem relation) (packet : Bytes) :
    Stays sem relation (handleHandshakeResponse packet) :=
  rules.programs.handshakeResponse packet

theorem HandlerRules.message [Std.Refl relation] (rules : HandlerRules sem relation)
    {channelID : UInt8}
    {packet : Bytes} (kept : ∀ status, cause channelID packet ≠ .protocolRejected status) :
    Stays sem relation (handleMessage channelID packet) := by
  unfold handleMessage
  by_cases protocol : channelID = networkProtocolChannel
  · subst protocol
    rw [if_pos rfl]
    rcases handleProtocolResponse_kept packet kept with same | same
    · rw [same]
      exact Stays.pure _
    · rw [same]
      exact rules.sendHandshake _
  rw [if_neg protocol]
  split
  · exact rules.handshakeResponse packet
  split
  · exact rules.ofWrapper (handleUpdateMessage_calls packet)
  split
  · exact rules.ofWrapper (handleControlMessage_calls packet)
  split
  · exact rules.ofWrapper (handlePositionMessage_calls packet)
  · exact Stays.pure _

end Rules

def External.Handles : External → Prop
  | .teamspeak _ | .enet (.peerSend _ _ _ _) => True
  | _ => False

abbrev Linking (caller : ThreadId) : World → World → Prop := Beside linked External.Handles caller

theorem linking_rules {self : ThreadId} {env : Environment} :
    HandlerRules (steps self env) (Linking self) where
  ofWrapper calls := by
    refine fun w => wp_keeping (calls.mono fun op ofWrapper => ?_)
    apply ofWrapper.elim trivial fun _ => trivial
    · intro update same m
      rw [linked, same m]
      rfl
    · exact fun _ => ⟨trivial, rfl⟩
  setClient same _ := wp_keeping ⟨same, fun _ => trivial⟩
  sendPacket _ _ _ _ := wp_keeping
    (Program.Calls.bind (Program.Calls.bind ⟨trivial, fun _ => trivial⟩ fun _ => trivial)
      fun _ => ⟨⟨trivial, rfl⟩, fun _ => trivial⟩)

end JustAnotherVoiceChat
