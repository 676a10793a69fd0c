import Mathlib.Data.List.TakeWhile
import Mathlib.Logic.Function.Basic
import JustAnotherVoiceChat.Library.Program
import JustAnotherVoiceChat.Library.SortedSet
import JustAnotherVoiceChat.Protocol

set_option autoImplicit false

-- The memory of the plugin, the calls it makes to TeamSpeak, ENet and the C++ runtime, and what
-- these may answer. Every read or write of a field and every call is one step. Log messages and
-- running out of memory are left out.

namespace JustAnotherVoiceChat

open Binary Interaction

-- A `char *`: the characters before the terminator.
structure CString where
  text : StdString
  no_nul : 0 ∉ text.items
deriving DecidableEq

def cStr (s : StdString) : CString where
  text := ⟨s.items.takeWhile (· ≠ 0),
    lt_of_le_of_lt (List.takeWhile_sublist _).length_le s.length_lt⟩
  no_nul := fun member => by simpa using List.mem_takeWhile_imp member

abbrev HostId := Nat
abbrev PeerId := Nat
abbrev ThreadId := Nat

structure Client where
  client : Option HostId
  peer : Option PeerId
  thread : Option ThreadId
  running : Bool
  gameId : UInt16
  teamspeakId : UInt16
  host : StdString
  port : UInt16
  lastChannelId : UInt64
  talking : Bool
  microphoneMuted : Bool
  speakersMuted : Bool

structure Wrapper where
  serverConnectionHandler : UInt64
  mutedClients : SortedSet AnyID
  originalNickname : StdString

inductive Pointer where
  | null
  | live
  | deleted
deriving DecidableEq

structure Globals where
  httpServer : Pointer
  client : Pointer

structure Memory where
  client : Client
  wrapper : Wrapper
  globals : Globals

def Client.IsOpen (c : Client) : Prop :=
  c.client.isSome = true ∧ c.peer.isSome = true ∧ c.running = true

instance (c : Client) : Decidable c.IsOpen := inferInstanceAs (Decidable (_ ∧ _))

def Client.IsIngame (c : Client) : Prop := c.IsOpen ∧ c.gameId ≠ 0 ∧ c.teamspeakId ≠ 0

instance (c : Client) : Decidable c.IsIngame := inferInstanceAs (Decidable (_ ∧ _))

structure Vector3 where
  x : Single
  y : Single
  z : Single
deriving DecidableEq

inductive SelfString where
  | uniqueIdentifier
  | nickname
deriving DecidableEq

inductive SelfInt where
  | inputHardware
  | inputDeactivated
  | inputMuted
  | outputHardware
  | outputMuted
deriving DecidableEq

structure Buffer (α : Type) where
  address : Nat
  contents : α
deriving DecidableEq

inductive TeamSpeakCall where
  | getServerConnectionHandlerList
  | getServerUniqueIdentifier (handle : UInt64)
  | requestClientMove (handle : UInt64) (clientId : AnyID) (channelId : UInt64) (password : CString)
  | requestMuteClients (handle : UInt64) (clientIds : List AnyID)
  | requestUnmuteClients (handle : UInt64) (clientIds : List AnyID)
  | requestChannelSubscribe (handle : UInt64) (channelIds : List UInt64)
  | getChannelAreSubscribed (handle channelId : UInt64)
  | getChannelClientList (handle channelId : UInt64)
  | getClientSelfVariableAsString (handle : UInt64) (flag : SelfString)
  | setClientSelfVariableAsString (handle : UInt64) (flag : SelfString) (value : CString)
  | getClientSelfVariableAsInt (handle : UInt64) (flag : SelfInt)
  | setClientSelfVariableAsInt (handle : UInt64) (flag : SelfInt) (value : Int32)
  | flushClientSelfUpdates (handle : UInt64)
  | channelset3DAttributes (handle : UInt64) (clientId : AnyID) (position : Vector3)
  | systemset3DListenerAttributes (handle : UInt64) (position forward up : Vector3)
  | systemset3DSettings (handle : UInt64) (distanceFactor rolloffScale : Single)
  | getConnectionStatus (handle : UInt64)
  | getClientID (handle : UInt64)
  | getChannelOfClient (handle : UInt64) (clientId : AnyID)
  | freeMemory (address : Nat)
deriving DecidableEq

-- `none` and `false` stand for every result other than `ERROR_ok`.
@[reducible] def TeamSpeakCall.Reply : TeamSpeakCall → Type
  | .getServerConnectionHandlerList => Option (Buffer (List UInt64))
  | .getServerUniqueIdentifier _ => Option (Buffer CString)
  | .getChannelClientList _ _ => Option (Buffer (List AnyID))
  | .getClientSelfVariableAsString _ _ => Option (Buffer CString)
  | .getClientSelfVariableAsInt _ _ | .getChannelAreSubscribed _ _ => Option Int32
  | .getConnectionStatus _ => Option Int32
  | .getClientID _ => Option AnyID
  | .getChannelOfClient _ _ => Option UInt64
  | .freeMemory _ => Unit
  | _ => Bool

-- One server connection, as TeamSpeak knows it; `muted` are the clients this plugin muted.
structure Connection where
  ownId : AnyID
  ownChannel : UInt64
  requested : Option UInt64
  members : UInt64 → SortedSet AnyID
  muted : AnyID → Bool
  position : AnyID → Option Vector3
  selfInt : SelfInt → Int32
  selfString : SelfString → CString
  stagedInt : SelfInt → Option Int32
  stagedString : SelfString → Option CString

namespace Connection

def setMuted (c : Connection) (ids : List AnyID) (mute : Bool) : Connection :=
  { c with muted := fun id => if id ∈ ids then mute else c.muted id }

def requestMove (c : Connection) (channelId : UInt64) : Connection :=
  { c with requested := some channelId }

def arrive (c : Connection) (channelId : UInt64) : Connection := { c with ownChannel := channelId }

def setPosition (c : Connection) (id : AnyID) (position : Vector3) : Connection :=
  { c with position := Function.update c.position id (some position) }

def stageString (c : Connection) (flag : SelfString) (value : CString) : Connection :=
  { c with stagedString := Function.update c.stagedString flag (some value) }

def stageInt (c : Connection) (flag : SelfInt) (value : Int32) : Connection :=
  { c with stagedInt := Function.update c.stagedInt flag (some value) }

def flush (c : Connection) : Connection :=
  { c with
    selfInt := fun flag => (c.stagedInt flag).getD (c.selfInt flag)
    selfString := fun flag => (c.stagedString flag).getD (c.selfString flag)
    stagedInt := fun _ => none
    stagedString := fun _ => none }

end Connection

abbrev TeamSpeak := UInt64 → Connection

def TeamSpeak.on (t : TeamSpeak) (handle : UInt64) (f : Connection → Connection) : TeamSpeak :=
  Function.update t handle (f (t handle))

def untilZero (ids : List AnyID) : List AnyID := ids.takeWhile (· ≠ 0)

def accepted (t : TeamSpeak) (handle : UInt64) (f : Connection → Connection) (ok : Bool) :
    TeamSpeak :=
  if ok then t.on handle f else t

def TeamSpeakCall.Step : (call : TeamSpeakCall) → TeamSpeak → call.Reply → TeamSpeak → Prop
  | .requestClientMove handle clientId channelId _, t, ok, t' =>
    if ok = true ∧ clientId = (t handle).ownId then
      -- the client is moved at once or some time later
      t' = t.on handle (·.requestMove channelId) ∨
        t' = t.on handle fun c => (c.requestMove channelId).arrive channelId
    else t' = t
  | .requestMuteClients handle ids, t, ok, t' =>
    t' = accepted t handle (·.setMuted (untilZero ids) true) ok
  | .requestUnmuteClients handle ids, t, ok, t' =>
    t' = accepted t handle (·.setMuted (untilZero ids) false) ok
  | .setClientSelfVariableAsString handle flag value, t, ok, t' =>
    -- the empty nickname is refused
    (ok = true → flag = .nickname → value.text ≠ .empty) ∧
      t' = accepted t handle (·.stageString flag value) ok
  | .setClientSelfVariableAsInt handle flag value, t, ok, t' =>
    t' = accepted t handle (·.stageInt flag value) ok
  | .flushClientSelfUpdates handle, t, ok, t' => t' = accepted t handle Connection.flush ok
  | .channelset3DAttributes handle clientId position, t, ok, t' =>
    t' = accepted t handle (·.setPosition clientId position) ok
  | .getClientID handle, t, reply, t' => (∀ id ∈ reply, id = (t handle).ownId) ∧ t' = t
  | .getChannelOfClient handle clientId, t, reply, t' =>
    (∀ channel ∈ reply, clientId = (t handle).ownId → channel = (t handle).ownChannel) ∧ t' = t
  | .getChannelClientList handle channelId, t, reply, t' =>
    (∀ list ∈ reply, ∀ id, id ∈ untilZero list.contents ↔
      id ≠ 0 ∧ id ∈ (t handle).members channelId) ∧ t' = t
  | .getClientSelfVariableAsString handle flag, t, reply, t' =>
    (∀ value ∈ reply, value.contents = (t handle).selfString flag) ∧ t' = t
  | .getClientSelfVariableAsInt handle flag, t, reply, t' =>
    (∀ value ∈ reply, value = (t handle).selfInt flag) ∧ t' = t
  | _, t, _, t' => t' = t

abbrev Address := UInt32

inductive Outgoing where
  | protocol (packet : ProtocolPacket)
  | handshake (packet : HandshakePacket)
  | status (packet : StatusPacket)
deriving DecidableEq

inductive Event where
  | none
  | connect
  | disconnect
  | receive (channelID : UInt8) (packet : Bytes)
deriving DecidableEq

structure Serviced where
  code : Int
  event : Event
deriving DecidableEq

structure Resolved where
  ok : Bool
  address : Address
deriving DecidableEq

-- Pointer arguments are passed as they were read, null included.
inductive EnetCall where
  | hostCreate (peerCount channelLimit : Nat)
  | addressSetHost (name : CString)
  | hostConnect (host : Option HostId) (address : Address) (port : UInt16) (channelCount : Nat)
  | serviceBegin (host : Option HostId) (timeout : Nat)
  | serviceEnd (host : Option HostId) (timeout : Nat)
  | peerDisconnect (peer : Option PeerId) (status : UInt32)
  | peerReset (peer : Option PeerId)
  | hostDestroy (host : Option HostId)
  | packetDestroy
  | peerSend (peer : Option PeerId) (channelID : UInt8) (packet : Outgoing) (reliable : Bool)
deriving DecidableEq

@[reducible] def EnetCall.Reply : EnetCall → Type
  | .hostCreate _ _ => Option HostId
  | .addressSetHost _ => Resolved
  | .hostConnect _ _ _ _ => Option PeerId
  | .serviceEnd _ _ => Serviced
  | _ => Unit

structure Peer where
  host : Option HostId
  address : Address
  port : UInt16
  connected : Bool
  reset : Bool

structure Enet where
  resolve : CString → Option Address
  nextHost : HostId
  nextPeer : PeerId
  peers : PeerId → Option Peer

namespace Enet

def newPeer (e : Enet) (host : Option HostId) (address : Address) (port : UInt16) : Enet :=
  { e with
    nextPeer := e.nextPeer + 1
    peers := Function.update e.peers e.nextPeer (some ⟨host, address, port, false, false⟩) }

def connected (e : Enet) (host : Option HostId) : Enet :=
  { e with
    peers := fun p => (e.peers p).map fun peer =>
      if peer.host = host then { peer with connected := true } else peer }

def reset (e : Enet) (p : Option PeerId) : Enet :=
  { e with
    peers := fun q => (e.peers q).map fun peer =>
      if p = some q then { peer with reset := true } else peer }

end Enet

def EnetCall.Step : (call : EnetCall) → Enet → call.Reply → Enet → Prop
  | .hostCreate _ _, e, reply, e' =>
    (reply = none ∧ e' = e) ∨ (reply = some e.nextHost ∧ e' = { e with nextHost := e.nextHost + 1 })
  | .addressSetHost name, e, reply, e' =>
    (reply.ok = true → e.resolve name = some reply.address) ∧ e' = e
  | .hostConnect host address port _, e, reply, e' =>
    (reply = none ∧ e' = e) ∨ (reply = some e.nextPeer ∧ e' = e.newPeer host address port)
  | .serviceEnd host _, e, reply, e' =>
    e' = if 0 < reply.code ∧ reply.event = .connect then e.connected host else e
  | .peerReset peer, e, _, e' => e' = e.reset peer
  | _, e, _, e' => e' = e

inductive ThreadCall where
  | selfId
  | spawn
  | joinable (thread : Option ThreadId)
  | join (thread : Option ThreadId)
  | delete (thread : Option ThreadId)
  | exit
deriving DecidableEq

@[reducible] def ThreadCall.Reply : ThreadCall → Type
  | .selfId | .spawn => ThreadId
  | .joinable _ => Bool
  | _ => Unit

inductive Global where
  | httpServer
  | client
deriving DecidableEq

inductive ObjectCall where
  | create (object : Global)
  | use (object : Global) (pointer : Pointer)
  | destroy (object : Global) (pointer : Pointer)
deriving DecidableEq

inductive External where
  | teamspeak (call : TeamSpeakCall)
  | enet (call : EnetCall)
  | object (call : ObjectCall)
deriving DecidableEq

@[reducible] def External.Reply : External → Type
  | .teamspeak call => call.Reply
  | .enet call => call.Reply
  | .object _ => Unit

inductive Op where
  | load
  | store (update : Memory → Memory)
  | external (call : External)
  | thread (call : ThreadCall)
  | sleep (milliseconds : Nat)

@[reducible] def Op.Reply : Op → Type
  | .load => Memory
  | .store _ | .sleep _ => Unit
  | .external call => call.Reply
  | .thread call => call.Reply

abbrev Plugin := Program Op Op.Reply

-- Where an update thread is: `left` is after its loop and before its final `close()`.
inductive Phase where
  | unborn
  | looping
  | left
  | finished
deriving DecidableEq

structure Entry where
  thread : ThreadId
  call : External
  reply : call.Reply

structure World where
  memory : Memory
  teamspeak : TeamSpeak
  enet : Enet
  phase : ThreadId → Phase
  -- newest first
  trace : List Entry

def External.Step : (call : External) → World → call.Reply → World → Prop
  | .teamspeak call, w, reply, w' => ∃ t, call.Step w.teamspeak reply t ∧ w' =
      { w with teamspeak := t }
  | .enet call, w, reply, w' => ∃ e, call.Step w.enet reply e ∧ w' = { w with enet := e }
  | .object _, w, _, w' => w' = w

structure Environment where
  answers : (call : External) → World → call.Reply → Prop
  threading : (call : ThreadCall) → World → call.Reply → World → Prop

def World.record (w : World) (thread : ThreadId) (call : External) (reply : call.Reply) : World :=
  { w with trace := ⟨thread, call, reply⟩ :: w.trace }

def steps (self : ThreadId) (env : Environment) : Semantics Op Op.Reply World
  | .load, w, m, w' => m = w.memory ∧ w' = w
  | .store update, w, _, w' => w' = { w with memory := update w.memory }
  | .external call, w, reply, w' =>
    env.answers call w reply ∧ ∃ v, call.Step w reply v ∧ w' = v.record self call reply
  | .thread call, w, reply, w' => env.threading call w reply w'
  | .sleep _, w, _, w' => w' = w

def load : Plugin Memory := .perform Op.load

def client : Plugin Client := return (← load).client

def wrapper : Plugin Wrapper := return (← load).wrapper

def setClient (update : Client → Client) : Plugin Unit :=
  .perform (Op.store fun m => { m with client := update m.client })

def setWrapper (update : Wrapper → Wrapper) : Plugin Unit :=
  .perform (Op.store fun m => { m with wrapper := update m.wrapper })

def teamspeak (call : TeamSpeakCall) : Plugin call.Reply := .perform (Op.external (.teamspeak call))

def enet (call : EnetCall) : Plugin call.Reply := .perform (Op.external (.enet call))

def object (call : ObjectCall) : Plugin Unit := .perform (Op.external (.object call))

def thread (call : ThreadCall) : Plugin call.Reply := .perform (Op.thread call)

def sleepFor (milliseconds : Nat) : Plugin Unit := .perform (Op.sleep milliseconds)

end JustAnotherVoiceChat
