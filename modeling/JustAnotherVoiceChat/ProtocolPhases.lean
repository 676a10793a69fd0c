import Mathlib.Logic.Relation
import JustAnotherVoiceChat.Handlers
import JustAnotherVoiceChat.Library.Trace
import JustAnotherVoiceChat.Scenario

set_option autoImplicit false

namespace JustAnotherVoiceChat

open Binary Interaction Relation

def External.changes : External → Bool
  | .teamspeak (.requestClientMove _ _ _ _) | .teamspeak (.requestMuteClients _ _)
  | .teamspeak (.requestUnmuteClients _ _) | .teamspeak (.setClientSelfVariableAsString _ _ _)
  | .teamspeak (.setClientSelfVariableAsInt _ _ _) | .teamspeak (.flushClientSelfUpdates _)
  | .teamspeak (.channelset3DAttributes _ _ _) | .teamspeak (.systemset3DSettings _ _ _)
  | .teamspeak (.systemset3DListenerAttributes _ _ _ _)
  | .enet (.peerSend _ _ (.handshake _) _) => true
  | _ => false

-- The requests of a `close()` that starts with this memory: back to the saved channel, and the
-- positions, the mutes and the nickname reset.
def Memory.Restores (m : Memory) (call : External) : Prop :=
  let Here (handle : UInt64) := handle = m.wrapper.serverConnectionHandler ∧ handle ≠ 0
  match call with
  | .teamspeak (.requestClientMove handle _ channelId password) =>
    Here handle ∧ channelId = m.client.lastChannelId ∧ password = cStr .empty
  | .teamspeak (.channelset3DAttributes handle _ position) => Here handle ∧ position = ⟨0, 0, 0⟩
  | .teamspeak (.requestUnmuteClients handle ids) =>
    Here handle ∧ ids = clientIdArray m.wrapper.mutedClients
  | .teamspeak (.setClientSelfVariableAsString handle flag value) =>
    Here handle ∧ flag = .nickname ∧ value = cStr m.wrapper.originalNickname
  | .teamspeak (.flushClientSelfUpdates handle) => Here handle
  | call => call.changes = false

def Cause.Allows : Cause → External → Prop
  | .protocolAccepted, .enet (.peerSend _ _ (.handshake packet) _) =>
    packet.statusCode = statusCodeOk
  | .protocolRejected _, call => ∃ m : Memory, m.Restores call
  | .handshakeAccepted, _ => True
  | .update, .teamspeak (.requestMuteClients _ _)
  | .update, .teamspeak (.requestUnmuteClients _ _) => True
  | .update, .teamspeak (.channelset3DAttributes handle _ _)
  | .position, .teamspeak (.channelset3DAttributes handle _ _)
  | .control, .teamspeak (.setClientSelfVariableAsString handle _ _)
  | .control, .teamspeak (.flushClientSelfUpdates handle) => handle ≠ 0
  | _, call => call.changes = false

def Entry.disconnects : Entry → Option UInt32
  | ⟨_, .enet (.peerDisconnect _ status), _⟩ => some status
  | _ => none

def Cause.Call (c : Cause) (call : External) : Prop :=
  c.Allows call ∧ ∀ host, call ≠ .enet (.serviceEnd host 100)

def Memory.Call (m : Memory) (call : External) : Prop :=
  m.Restores call ∧ ∀ host, call ≠ .enet (.serviceEnd host 100)

def Op.Leaving : Op → Prop
  | .load | .sleep _ | .thread _ => True
  | .store update => ∀ m, (update m).wrapper = m.wrapper ∧
    (update m).client.lastChannelId = m.client.lastChannelId
  | .external call => call.changes = false ∧ ∀ host, call ≠ .enet (.serviceEnd host 100)

structure Handled (calls : External → Prop) (w u : World) : Prop where
  entries : ∃ entries, u.trace = entries ++ w.trace ∧ ∀ e ∈ entries, calls e.call

instance (calls : External → Prop) : Std.Refl (Handled calls) := ⟨fun _ => ⟨[], rfl, by simp⟩⟩

instance (calls : External → Prop) : IsTrans World (Handled calls) where
  trans _ _ _ := by
    rintro ⟨entries, trace, told⟩ ⟨more, trace', told'⟩
    refine ⟨more ++ entries, by simp [trace, trace'], fun e member => ?_⟩
    exact (List.mem_append.mp member).elim (told' e) (told e)

section Handling

open Program

variable {self : ThreadId} {answers : (call : External) → World → call.Reply → Prop}
  {calls : External → Prop}

structure Leaving (m : Memory) (channelId : UInt64) (w u : World) : Prop where
  handled : Handled m.Call w u
  wrapper : u.memory.wrapper = m.wrapper
  channel : u.memory.client.lastChannelId = channelId

theorem Handled.asked {w u v : World} {call : TeamSpeakCall} {reply : call.Reply}
    (before : Handled calls w u) (trace : v.trace = ⟨self, .teamspeak call, reply⟩ :: u.trace)
    (allowed : calls (.teamspeak call)) : Handled calls w v := by
  obtain ⟨entries, trace', told⟩ := before
  refine ⟨⟨self, .teamspeak call, reply⟩ :: entries, by simp [trace, trace'], ?_⟩
  intro e member
  rcases List.mem_cons.mp member with rfl | member
  · exact allowed
  · exact told e member

section Returning

variable {m : Memory} {channelId : UInt64} {w u : World}

theorem Leaving.restoring {call : TeamSpeakCall} {reply : call.Reply} {t : TeamSpeak}
    (before : Leaving m channelId w u) (restores : m.Restores (.teamspeak call)) :
    Leaving m channelId w ((u.setTeamspeak t).asked self call reply) :=
  ⟨before.handled.asked rfl ⟨restores, by simp⟩, before.wrapper, before.channel⟩

end Returning

end Handling

def latestMessage (trace : List Entry) : Option (UInt8 × Bytes) := trace.findSome? Entry.message

-- What changes something is done on account of the latest message.
def PhaseOk (older : List Entry) (e : Entry) : Prop :=
  e.call.changes = true → ∃ channelID packet, latestMessage older = some (channelID, packet) ∧
    (cause channelID packet).Allows e.call

theorem lawful_handled {older entries : List Entry} {channelID : UInt8} {packet : Bytes}
    (lawful : Trace.Lawful PhaseOk older)
    (latest : latestMessage older = some (channelID, packet))
    (told : ∀ e ∈ entries, (cause channelID packet).Call e.call) :
    Trace.Lawful PhaseOk (entries ++ older) := by
  refine Trace.lawful_append lawful fun later e before split _ => ?_
  subst split
  refine ⟨channelID, packet, ?_, (told e (by simp)).1⟩
  have silent : before.findSome? Entry.message = none := by
    rw [List.findSome?_eq_none_iff]
    intro x member
    exact message_eq_none (told x (by simp [member])).2
  rw [latestMessage, List.findSome?_append, silent]
  exact latest

structure Paced (w u : World) : Prop where
  entries : ∃ entries, u.trace = entries ++ w.trace ∧
    ∀ older, Trace.Lawful PhaseOk older → Trace.Lawful PhaseOk (entries ++ older)

instance : Std.Refl Paced := ⟨fun _ => ⟨[], rfl, fun _ lawful => lawful⟩⟩

instance : IsTrans World Paced where
  trans _ _ _ := by
    rintro ⟨entries, trace, lawful⟩ ⟨more, trace', lawful'⟩
    refine ⟨more ++ entries, by simp [trace, trace'], fun older start => ?_⟩
    rw [List.append_assoc]
    exact lawful' _ (lawful older start)

theorem lawful_quiet {older : List Entry} {e : Entry} (lawful : Trace.Lawful PhaseOk older)
    (quiet : e.call.changes = false) : Trace.Lawful PhaseOk (e :: older) :=
  ⟨fun changes => by simp [quiet] at changes, lawful⟩

section Rounds

variable {self : ThreadId} {answers : (call : External) → World → call.Reply → Prop}

theorem Paced.handled {w v u : World} {channelID : UInt8} {packet : Bytes} (paced : Paced w v)
    (latest : ∀ entries, v.trace = entries ++ w.trace → ∀ older,
      latestMessage (entries ++ older) = some (channelID, packet))
    (handled : Handled (cause channelID packet).Call v u) : Paced w u := by
  obtain ⟨entries, trace, lawful⟩ := paced
  obtain ⟨more, trace', told⟩ := handled
  refine ⟨more ++ entries, by simp [trace, trace'], fun older start => ?_⟩
  rw [List.append_assoc]
  exact lawful_handled (lawful older start) (latest entries trace older) told

theorem Paced.quiet {w v u : World} {e : Entry} (paced : Paced w v)
    (trace : u.trace = e :: v.trace) (quiet : e.call.changes = false) : Paced w u := by
  obtain ⟨entries, trace', lawful⟩ := paced
  exact ⟨e :: entries, by simp [trace, trace'], fun older start =>
    lawful_quiet (lawful older start) quiet⟩

end Rounds

section Rejected

variable {self : ThreadId} {answers : (call : External) → World → call.Reply → Prop}
  {channelID : UInt8} {packet : Bytes} {status : UInt32}

def Silent (entries : List Entry) : Prop :=
  entries.filterMap Entry.message = [] ∧ entries.filterMap Entry.disconnects = []

structure Session (caller : ThreadId) (w : World) : Prop where
  thread : ∀ id ∈ w.memory.client.thread, id = caller
  peer : w.memory.client.running = true → w.memory.client.peer ≠ none

theorem Session.congr {w u : World} (session : Session self w)
    (peer : u.memory.client.peer = w.memory.client.peer)
    (thread : u.memory.client.thread = w.memory.client.thread)
    (running : u.memory.client.running = true → w.memory.client.running = true) :
    Session self u :=
  ⟨thread ▸ session.thread, fun run => peer ▸ session.peer (running run)⟩

end Rejected

section Sessions

variable (self : ThreadId) (answers : (call : External) → World → call.Reply → Prop)

end Sessions

def Entry.accepts (e : Entry) : Bool :=
  e.message.any fun (channelID, packet) => cause channelID packet = .protocolAccepted

end JustAnotherVoiceChat
