import JustAnotherVoiceChat.Plugin
import JustAnotherVoiceChat.WrapperPrograms

set_option autoImplicit false

namespace JustAnotherVoiceChat

open Binary Interaction

def lasting (c : Client) : UInt64 × Bool × Bool × Bool :=
  (c.lastChannelId, c.talking, c.microphoneMuted, c.speakersMuted)

def attached (c : Client) : Option HostId × Option PeerId × Option ThreadId :=
  (c.client, c.peer, c.thread)

-- The fields that the handlers of the messages leave alone.
def unhandled (c : Client) : Client :=
  { c with teamspeakId := 0, lastChannelId := 0, microphoneMuted := false, speakersMuted := false }

theorem unhandled_fields {c c' : Client} (same : unhandled c = unhandled c') :
    c.thread = c'.thread ∧ c.talking = c'.talking := by
  simp only [unhandled, Client.mk.injEq] at same
  exact ⟨same.2.2.1, same.2.2.2.2.2.2.2.2.2.1⟩

inductive Client.Field where
  | client
  | peer
  | thread
  | running
  | host
  | port
  | gameId
  | teamspeakId
deriving DecidableEq

def Client.Field.reset : Client.Field → Client → Client
  | .client, c => { c with client := none }
  | .peer, c => { c with peer := none }
  | .thread, c => { c with thread := none }
  | .running, c => { c with running := false }
  | .host, c => { c with host := .empty }
  | .port, c => { c with port := 0 }
  | .gameId, c => { c with gameId := 0 }
  | .teamspeakId, c => { c with teamspeakId := 0 }

theorem Client.Field.reset_lasting (field : Client.Field) (c : Client) :
    lasting (field.reset c) = lasting c := by
  cases field <;> rfl

theorem Client.Field.reset_running (field : Client.Field) {c : Client}
    (stopped : c.running = false) :
    (field.reset c).running = false := by
  cases field with
  | running => rfl
  | _ => exact stopped

-- Such an update leaves the thread and the lasting fields alone and sets nothing running.
structure Client.Tame (update : Client → Client) : Prop where
  thread : ∀ c, (update c).thread = c.thread
  lasting : ∀ c, lasting (update c) = lasting c
  running : ∀ c, c.running = false → (update c).running = false

theorem Client.Field.tame {field : Client.Field} (other : field ≠ .thread) :
    Client.Tame field.reset where
  thread c := by
    cases field with
    | thread => exact absurd rfl other
    | _ => rfl
  lasting := field.reset_lasting
  running _ := field.reset_running

def EnetCall.Plain : EnetCall → Prop
  | .peerSend _ _ (.status _) _ => False
  | _ => True

def EnetCall.Serving : EnetCall → Prop
  | .serviceBegin _ _ | .serviceEnd _ _ | .peerDisconnect _ _ | .packetDestroy => True
  | _ => False

theorem EnetCall.Serving.plain {call : EnetCall} (serving : call.Serving) : call.Plain := by
  cases call with
  | peerSend => cases serving
  | _ => trivial

namespace PluginPrograms

variable {holds : {α : Type} → Plugin α → Prop} (programs : PluginPrograms holds)

include programs

theorem sendPacket {packet : Outgoing} {channelId : UInt8} {reliable : Bool}
    (sends : ∀ peer, holds (enet (.peerSend peer channelId packet reliable))) :
    holds (sendPacket packet channelId reliable) :=
  programs.bind programs.client fun _ => sends _

theorem sendProtocolMessage
    (sends : ∀ packet, holds (JustAnotherVoiceChat.sendPacket (.protocol packet)
      networkProtocolChannel true)) : holds sendProtocolMessage := by
  unfold JustAnotherVoiceChat.sendProtocolMessage
  dsimp only
  split
  · exact programs.pure ()
  · exact sends _

theorem sendHandshake (identity : holds ts3GetClientIdentity)
    (sends : ∀ packet, holds (JustAnotherVoiceChat.sendPacket (.handshake packet)
      networkHandshakeChannel true)) (statusCode : Int32) : holds (sendHandshake statusCode) := by
  unfold JustAnotherVoiceChat.sendHandshake
  refine programs.bind programs.client fun first => ?_
  refine programs.bind programs.client fun second => ?_
  refine programs.bind identity fun uid => ?_
  dsimp only
  split
  · exact programs.pure ()
  · exact sends _

theorem sendStatus (sends : ∀ packet, holds (JustAnotherVoiceChat.sendPacket (.status packet)
    networkStatusChannel true)) : holds sendStatus := by
  unfold JustAnotherVoiceChat.sendStatus
  refine programs.bind programs.client fun first => ?_
  refine programs.bind programs.client fun second => ?_
  refine programs.bind programs.client fun third => ?_
  dsimp only
  split
  · exact programs.pure ()
  · exact sends _

theorem abortThread
    (threads : ∀ call, call ≠ .spawn → call ≠ .exit → holds (JustAnotherVoiceChat.thread call))
    (stops : holds (setClient (Client.Field.reset .running)))
    (forgets : holds (setClient (Client.Field.reset .thread))) : holds abortThread := by
  have deleting : holds (do
      let c ← JustAnotherVoiceChat.client
      JustAnotherVoiceChat.thread (.delete c.thread)
      setClient (Client.Field.reset .thread)) := by
    refine programs.bind programs.client fun c => ?_
    exact programs.bind (threads _ (by simp) (by simp)) fun _ => forgets
  unfold JustAnotherVoiceChat.abortThread
  refine programs.bind programs.client fun c => ?_
  split
  · exact programs.pure ()
  refine programs.bind programs.client fun c => ?_
  refine programs.bind (threads .selfId (by simp) (by simp)) fun self => ?_
  split
  · refine programs.bind programs.client fun c => ?_
    refine programs.bind (threads (.joinable _) (by simp) (by simp)) fun joinable => ?_
    split
    · refine programs.bind stops fun _ => ?_
      refine programs.bind programs.client fun c => ?_
      exact programs.bind (threads (.join _) (by simp) (by simp)) fun _ => deleting
    · exact deleting
  · exact programs.pure ()

theorem closeConnection (resets : ∀ peer, holds (enet (.peerReset peer)))
    (destroys : ∀ host, holds (enet (.hostDestroy host)))
    (sets : ∀ field : Client.Field, field ≠ .thread → holds (setClient field.reset)) :
    holds closeConnection := by
  have forgetting : holds (do
      setClient (Client.Field.reset .running)
      setClient (Client.Field.reset .host)
      setClient (Client.Field.reset .port)
      setClient (Client.Field.reset .gameId)
      setClient (Client.Field.reset .teamspeakId)) := by
    refine programs.bind (sets .running (by decide)) fun _ => ?_
    refine programs.bind (sets .host (by decide)) fun _ => ?_
    refine programs.bind (sets .port (by decide)) fun _ => ?_
    refine programs.bind (sets .gameId (by decide)) fun _ => ?_
    exact sets .teamspeakId (by decide)
  have destroying : holds (do
      let c ← JustAnotherVoiceChat.client
      if c.client ≠ none then
        let c ← JustAnotherVoiceChat.client
        enet (.hostDestroy c.client)
        setClient (Client.Field.reset .client)
      setClient (Client.Field.reset .running)
      setClient (Client.Field.reset .host)
      setClient (Client.Field.reset .port)
      setClient (Client.Field.reset .gameId)
      setClient (Client.Field.reset .teamspeakId)) := by
    refine programs.bind programs.client fun c => ?_
    split
    · refine programs.bind programs.client fun c => ?_
      refine programs.bind (destroys _) fun _ => ?_
      exact programs.bind (sets .client (by decide)) fun _ => forgetting
    · exact forgetting
  unfold JustAnotherVoiceChat.closeConnection
  refine programs.bind programs.client fun c => ?_
  split
  · refine programs.bind programs.client fun c => ?_
    refine programs.bind (resets _) fun _ => ?_
    exact programs.bind (sets .peer (by decide)) fun _ => destroying
  · exact destroying

theorem startUpdate (aborts : holds JustAnotherVoiceChat.abortThread)
    (spawns : holds (JustAnotherVoiceChat.thread .spawn))
    (sets : ∀ {update : Client → Client}, (∀ c, lasting (update c) = lasting c) →
      holds (setClient update)) (host : StdString) (port uniqueIdentifier : UInt16) :
    holds (startUpdate host port uniqueIdentifier) := by
  unfold JustAnotherVoiceChat.startUpdate
  refine programs.bind aborts fun _ => ?_
  refine programs.bind (sets fun _ => rfl) fun _ => ?_
  refine programs.bind (sets fun _ => rfl) fun _ => ?_
  refine programs.bind (sets fun _ => rfl) fun _ => ?_
  refine programs.bind (sets fun _ => rfl) fun _ => ?_
  refine programs.bind (sets fun _ => rfl) fun _ => ?_
  refine programs.bind spawns fun started => ?_
  exact sets fun _ => rfl

theorem service {timeout : Nat} (begins : ∀ host, holds (enet (.serviceBegin host timeout)))
    (ends : ∀ host, holds (enet (.serviceEnd host timeout))) : holds (service timeout) := by
  refine programs.bind programs.client fun c => ?_
  exact programs.bind (begins _) fun _ => ends _

theorem awaitDisconnect (serves : holds (JustAnotherVoiceChat.service 3000))
    (destroys : holds (enet .packetDestroy)) : holds awaitDisconnect := by
  unfold JustAnotherVoiceChat.awaitDisconnect
  refine programs.bind programs.client fun c => ?_
  split
  · exact programs.pure _
  refine programs.bind serves fun serviced => ?_
  split
  · exact programs.pure _
  cases serviced.event with
  | receive channelID packet => exact programs.bind destroys fun _ => programs.pure _
  | _ => exact programs.pure _

theorem createConnection (enets : ∀ call : EnetCall, call.Plain → holds (enet call))
    (sets : ∀ {update : Client → Client}, Client.Tame update → holds (setClient update))
    (closes : holds close) (host : StdString) (port : UInt16) :
      holds (createConnection host port) := by
  have fails : holds (do
      close
      return false) :=
    programs.bind closes fun _ => programs.pure false
  unfold JustAnotherVoiceChat.createConnection
  refine programs.bind (enets _ trivial) fun created => ?_
  refine programs.bind (sets ⟨fun _ => rfl, fun _ => rfl, fun _ => id⟩) fun _ => ?_
  refine programs.bind programs.client fun c => ?_
  split
  · refine programs.bind (sets ⟨fun _ => rfl, fun _ => rfl, fun _ => id⟩) fun _ => ?_
    exact programs.pure false
  refine programs.bind (enets _ trivial) fun resolved => ?_
  refine programs.bind programs.client fun c => ?_
  refine programs.bind (enets _ trivial) fun peer => ?_
  refine programs.bind (sets ⟨fun _ => rfl, fun _ => rfl, fun _ => id⟩) fun _ => ?_
  refine programs.bind programs.client fun c => ?_
  split
  · exact fails
  refine programs.bind (programs.service (fun _ => enets _ trivial) fun _ => enets _ trivial) ?_
  intro serviced
  split
  · exact fails
  · exact programs.pure true

theorem clientIsOpen (objects : ∀ call, holds (object call)) : holds clientIsOpen := by
  unfold JustAnotherVoiceChat.clientIsOpen
  refine programs.bind programs.load fun m => ?_
  dsimp only
  split
  · exact programs.pure false
  · exact programs.bind (objects _) fun _ => programs.isOpen

theorem useClient (objects : ∀ call, holds (object call)) {method : Plugin Unit}
    (uses : holds method) : holds (useClient method) :=
  programs.bind programs.load fun _ => programs.bind (objects _) fun _ => uses

theorem whileOpen (objects : ∀ call, holds (object call)) {method : Plugin Unit}
    (uses : holds method) : holds (do
      if !(← JustAnotherVoiceChat.clientIsOpen) then
        return ()
      JustAnotherVoiceChat.useClient method) := by
  refine programs.bind (programs.clientIsOpen objects) fun opened => ?_
  split
  · exact programs.pure ()
  · exact programs.useClient objects uses

theorem ingame (objects : ∀ call, holds (object call)) : holds justAnotherVoiceChatIsIngame := by
  unfold justAnotherVoiceChatIsIngame
  refine programs.bind (programs.clientIsOpen objects) fun opened => ?_
  split
  · exact programs.pure false
  refine programs.bind programs.load fun m => ?_
  exact programs.bind (objects _) fun _ => programs.isIngame

section Moves

variable (asks : holds justAnotherVoiceChatIsIngame) {handle : UInt64} {clientID : AnyID}
  {oldChannelID newChannelID : UInt64} (channels : holds (ts3ChannelId handle))
  (mutes : ∀ muted, holds (ts3MuteClient clientID muted))
  (places : holds (ts3SetClientPosition clientID 0 0 0))

include asks channels mutes places

theorem otherMove : holds (do
      if !(← justAnotherVoiceChatIsIngame) then
        return ()
      let ownChannel ← ts3ChannelId handle
      if ownChannel = newChannelID then
        Functor.discard (ts3MuteClient clientID true)
        return ()
      if ownChannel = oldChannelID then
        Functor.discard (ts3SetClientPosition clientID 0 0 0)
        Functor.discard (ts3MuteClient clientID false)
        return ()) := by
  refine programs.bind asks fun ingame => ?_
  split
  · exact programs.pure ()
  refine programs.bind channels fun ownChannel => ?_
  split
  · exact programs.bind (programs.discard (mutes true)) fun _ => programs.pure ()
  split
  · refine programs.bind (programs.discard places) fun _ => ?_
    exact programs.bind (programs.discard (mutes false)) fun _ => programs.pure ()
  · exact programs.pure ()

theorem move (owns : holds (ts3ClientId handle)) :
    holds (ts3pluginOnClientMoveEvent handle clientID oldChannelID newChannelID) := by
  unfold ts3pluginOnClientMoveEvent
  refine programs.bind programs.ts3ServerConnectionHandle fun connection => ?_
  split
  · exact programs.pure ()
  refine programs.bind owns fun ownId => ?_
  split
  · exact programs.pure ()
  · exact programs.otherMove asks channels mutes places

end Moves

section Lifetime

variable (objects : ∀ call, holds (object call)) (closes : holds close)
  (sets : ∀ update, holds (setGlobals update))

include objects sets

theorem create {port : UInt16} (makes : holds (setClient fun _ => .new port)) : holds (do
      object (.create .client)
      setClient fun _ => .new port
      setGlobals fun g => { g with client := .live }
      object (.create .httpServer)
      setGlobals fun g => { g with httpServer := .live }
      object (.use .httpServer (← JustAnotherVoiceChat.load).globals.httpServer)
      return true) := by
  refine programs.bind (objects _) fun _ => ?_
  refine programs.bind makes fun _ => ?_
  refine programs.bind (sets _) fun _ => ?_
  refine programs.bind (objects _) fun _ => ?_
  refine programs.bind (sets _) fun _ => ?_
  refine programs.bind programs.load fun m => ?_
  exact programs.bind (objects _) fun _ => programs.pure true

include closes

theorem deleteClient : holds deleteClient := by
  unfold JustAnotherVoiceChat.deleteClient
  refine programs.bind programs.load fun m => ?_
  refine programs.bind (objects _) fun _ => ?_
  exact programs.bind closes fun _ => sets _

theorem start (initialized : Bool) {port : UInt16} (makes : holds (setClient fun _ => .new port)) :
    holds (justAnotherVoiceChatStart initialized port) := by
  unfold justAnotherVoiceChatStart
  split
  · exact programs.pure false
  refine programs.bind programs.load fun m => ?_
  split
  · refine programs.bind (programs.deleteClient objects closes sets) fun _ => ?_
    exact programs.create objects sets makes
  · exact programs.create objects sets makes

theorem stop (disconnects : holds (disconnect disconnectStatusOk)) :
    holds justAnotherVoiceChatStop := by
  unfold justAnotherVoiceChatStop deleteHttpServer
  refine programs.bind programs.load fun m => ?_
  refine programs.bind (objects _) fun _ => ?_
  refine programs.bind ?_ fun _ => ?_
  · refine programs.bind programs.load fun m => ?_
    exact programs.bind (objects _) fun _ => sets _
  refine programs.bind (programs.useClient objects disconnects) fun _ => ?_
  exact programs.deleteClient objects closes sets

end Lifetime

end PluginPrograms

structure PartPrograms (holds : {α : Type} → Plugin α → Prop) : Prop extends
    WrapperPrograms (fun _ => True) holds where
  setWrapper : ∀ update, holds (setWrapper update)

namespace PartPrograms

variable {holds : {α : Type} → Plugin α → Prop} (programs : PartPrograms holds)

include programs

theorem resetTeamspeak (forgets : holds (setClient fun c => { c with lastChannelId := 0 })) :
    holds resetTeamspeak := by
  unfold JustAnotherVoiceChat.resetTeamspeak
  refine programs.bind programs.client fun c => ?_
  split
  · exact programs.pure ()
  refine programs.bind programs.ts3ServerConnectionHandle fun serverHandle => ?_
  split
  · exact programs.pure ()
  refine programs.bind (programs.ts3ChannelId trivial trivial _) fun channelId => ?_
  refine programs.bind programs.client fun c => ?_
  split
  · exact programs.pure ()
  refine programs.bind programs.client fun c => ?_
  refine programs.bind (programs.ts3MoveToChannel trivial trivial _ _) fun moved => ?_
  split
  · exact programs.bind forgets fun _ => programs.pure ()
  refine programs.bind forgets fun _ => ?_
  refine programs.bind (programs.ts3ResetClients3DPositions trivial trivial trivial trivial) ?_
  intro _
  have unmutes := programs.ts3UnmuteAllClients trivial fun _ => programs.setWrapper _
  refine programs.bind (programs.discard unmutes) fun _ => ?_
  exact programs.discard (programs.ts3ResetNickname trivial trivial fun _ => programs.setWrapper _)

theorem clientMove (objects : ∀ call, holds (object call)) (handle : UInt64) (clientID : AnyID)
    (oldChannelID newChannelID : UInt64) :
    holds (ts3pluginOnClientMoveEvent handle clientID oldChannelID newChannelID) := by
  have mutes (muted : Bool) : holds (ts3MuteClient clientID muted) :=
    programs.ts3MuteClient trivial (fun _ => programs.setWrapper _) clientID muted
  exact programs.move (programs.ingame objects) (programs.ts3ChannelId trivial trivial handle) mutes
    (programs.ts3SetClientPosition trivial clientID 0 0 0) (programs.ts3ClientId trivial handle)

end PartPrograms

structure HandlerPrograms (holds : {α : Type} → Plugin α → Prop) : Prop extends
    PartPrograms holds where
  setClient : ∀ {update : Client → Client}, (∀ c, unhandled (update c) = unhandled c) →
    holds (setClient update)
  sendHandshake : ∀ statusCode, holds (sendHandshake statusCode)
  sendStatus : holds sendStatus

namespace HandlerPrograms

variable {holds : {α : Type} → Plugin α → Prop} (programs : HandlerPrograms holds)

include programs

theorem enterChannel (serverHandle lastChannelId channelId : UInt64) (tempMute : Bool) :
    holds (enterChannel serverHandle lastChannelId channelId tempMute) := by
  have muting (ids : List AnyID) : holds (forM ids fun id => discard (ts3MuteClient id true)) :=
    programs.forM ids fun id => programs.discard
      (programs.ts3MuteClient trivial (fun _ => programs.setWrapper _) id true)
  have settling : holds (do
      discard ts3ResetListenerPosition
      discard (ts3Set3DSettings 0x40000000 0x40400000)) := by
    refine programs.bind (programs.discard (programs.ts3ResetListenerPosition trivial)) fun _ => ?_
    exact programs.discard (programs.ts3Set3DSettings trivial _ _)
  have telling : holds (do
      let teamspeakId ← ts3ClientId serverHandle
      JustAnotherVoiceChat.setClient fun c => { c with teamspeakId := teamspeakId }
      JustAnotherVoiceChat.setClient fun c => { c with lastChannelId := lastChannelId }
      JustAnotherVoiceChat.sendHandshake statusCodeOk
      let microphoneMuted ← ts3IsInputMuted serverHandle
      JustAnotherVoiceChat.setClient fun c => { c with microphoneMuted := microphoneMuted }
      let speakersMuted ← ts3IsOutputMuted serverHandle
      JustAnotherVoiceChat.setClient fun c => { c with speakersMuted := speakersMuted }
      JustAnotherVoiceChat.sendStatus
      discard ts3ResetListenerPosition
      discard (ts3Set3DSettings 0x40000000 0x40400000)) := by
    refine programs.bind (programs.ts3ClientId trivial serverHandle) fun teamspeakId => ?_
    refine programs.bind (programs.setClient fun _ => rfl) fun _ => ?_
    refine programs.bind (programs.setClient fun _ => rfl) fun _ => ?_
    refine programs.bind (programs.sendHandshake statusCodeOk) fun _ => ?_
    refine programs.bind (programs.ts3IsInputMuted trivial serverHandle) fun microphoneMuted => ?_
    refine programs.bind (programs.setClient fun _ => rfl) fun _ => ?_
    refine programs.bind (programs.ts3IsOutputMuted trivial serverHandle) fun speakersMuted => ?_
    refine programs.bind (programs.setClient fun _ => rfl) fun _ => ?_
    exact programs.bind programs.sendStatus fun _ => settling
  unfold JustAnotherVoiceChat.enterChannel
  refine programs.bind (programs.ts3ClientsInChannel trivial trivial channelId) fun clients => ?_
  refine programs.bind (muting clients.elems) fun _ => ?_
  split
  · refine programs.bind (programs.sleepFor 500) fun _ => ?_
    refine programs.bind (programs.discard
      (programs.ts3SetOutputMuted trivial serverHandle false)) ?_
    exact fun _ => telling
  · exact telling

theorem handshakeResponse (packet : Bytes) : holds (handleHandshakeResponse packet) := by
  have refusing (statusCode : Int32) : holds (do
      JustAnotherVoiceChat.sendHandshake statusCode
      return ()) :=
    programs.bind (programs.sendHandshake statusCode) fun _ => programs.pure ()
  unfold handleHandshakeResponse
  cases receive HandshakeResponsePacket.serialize packet with
  | none => exact programs.pure ()
  | some responsePacket =>
    dsimp only
    split
    · exact programs.pure ()
    have verifies := programs.ts3VerifyServer trivial trivial fun _ => programs.setWrapper _
    refine programs.bind (verifies _) fun verified => ?_
    split
    · exact refusing _
    refine programs.bind programs.ts3ServerConnectionHandle fun serverHandle => ?_
    refine programs.bind (programs.ts3ChannelId trivial trivial serverHandle)
      fun lastChannelId => ?_
    refine programs.bind (programs.ts3IsOutputMuted trivial serverHandle) fun outputMuted => ?_
    have moving (tempMute : Bool) : holds (do
        let moved ← ts3MoveToChannel responsePacket.channelId responsePacket.channelPassword
        if (!moved) = true then
          JustAnotherVoiceChat.sendHandshake statusCodeNotMovedToChannel
          return ()
        JustAnotherVoiceChat.enterChannel serverHandle lastChannelId responsePacket.channelId
          tempMute) := by
      refine programs.bind (programs.ts3MoveToChannel trivial trivial _ _) fun moved => ?_
      split
      · exact refusing _
      · exact programs.enterChannel serverHandle lastChannelId _ tempMute
    split
    · have mutes := programs.ts3SetOutputMuted trivial serverHandle true
      refine programs.bind (programs.discard mutes) fun _ => ?_
      exact programs.bind (programs.sleepFor 500) fun _ => moving _
    · exact moving _

end HandlerPrograms

structure LinkPrograms (holds : {α : Type} → Plugin α → Prop) : Prop extends
    PluginPrograms holds where
  enet : ∀ call : EnetCall, call.Serving → holds (enet call)
  reset : ∀ field : Client.Field, (∀ c, attached (field.reset c) = attached c) →
    holds (setClient field.reset)
  await : holds awaitDisconnect → holds (Program.repeatUntil awaitDisconnect)
  abortThread : holds abortThread
  close : holds close

namespace LinkPrograms

variable {holds : {α : Type} → Plugin α → Prop} (programs : LinkPrograms holds)

include programs

theorem serving (timeout : Nat) : holds (service timeout) :=
  programs.service (fun _ => programs.enet _ trivial) fun _ => programs.enet _ trivial

theorem disconnect (status : UInt32) : holds (disconnect status) := by
  have awaits := programs.await
    (programs.awaitDisconnect (programs.serving 3000) (programs.enet _ trivial))
  unfold JustAnotherVoiceChat.disconnect
  refine programs.bind programs.client fun c => ?_
  split
  · exact programs.pure ()
  refine programs.bind programs.client fun c => ?_
  refine programs.bind (programs.enet _ trivial) fun _ => ?_
  refine programs.bind programs.abortThread fun _ => ?_
  refine programs.bind awaits fun _ => ?_
  refine programs.bind (programs.reset .host fun _ => rfl) fun _ => ?_
  refine programs.bind (programs.reset .port fun _ => rfl) fun _ => ?_
  refine programs.bind (programs.reset .gameId fun _ => rfl) fun _ => ?_
  refine programs.bind (programs.reset .teamspeakId fun _ => rfl) fun _ => ?_
  exact programs.close

theorem connect (host : StdString) (port uniqueIdentifier : UInt16)
    (creates : holds (createConnection host port))
    (starts : holds (JustAnotherVoiceChat.startUpdate host port uniqueIdentifier))
    (announces : holds sendProtocolMessage) : holds (connect host port uniqueIdentifier) := by
  have opens : holds (openConnection host port) := by
    unfold openConnection
    refine programs.bind programs.isOpen fun opened => ?_
    split
    · exact programs.bind (programs.disconnect _) fun _ => creates
    · exact creates
  unfold JustAnotherVoiceChat.connect
  refine programs.bind programs.client fun first => ?_
  refine programs.bind programs.client fun second => ?_
  refine programs.bind programs.client fun third => ?_
  split
  · exact programs.pure true
  refine programs.bind opens fun opened => ?_
  split
  · exact programs.pure false
  refine programs.bind starts fun _ => ?_
  exact programs.bind announces fun _ => programs.pure true

end LinkPrograms

structure SessionPrograms (holds : {α : Type} → Plugin α → Prop) : Prop extends
    LinkPrograms holds, PartPrograms holds where
  loop : holds updateRound → holds (Program.repeatUntil updateRound)
  sendHandshake : ∀ statusCode, holds (sendHandshake statusCode)
  handshakeResponse : ∀ packet, holds (handleHandshakeResponse packet)

namespace SessionPrograms

variable {holds : {α : Type} → Plugin α → Prop} (programs : SessionPrograms holds)

include programs

theorem message (channelID : UInt8) (packet : Bytes) : holds (handleMessage channelID packet) := by
  have protocol : holds (handleProtocolResponse packet) := by
    unfold handleProtocolResponse
    cases receive ProtocolResponsePacket.serialize packet with
    | none => exact programs.pure ()
    | some protocolPacket =>
      dsimp only
      split
      · exact programs.bind (programs.disconnect _) fun _ => programs.pure ()
      split
      · exact programs.bind (programs.disconnect _) fun _ => programs.pure ()
      · exact programs.sendHandshake statusCodeOk
  unfold handleMessage
  split
  · exact protocol
  split
  · exact programs.handshakeResponse packet
  split
  · exact programs.updateMessage trivial trivial (fun _ => programs.setWrapper _) packet
  split
  · exact programs.controlMessage trivial trivial trivial (fun _ => programs.setWrapper _) packet
  split
  · exact programs.positionMessage trivial packet
  · exact programs.pure ()

theorem event (event : Event) : holds (handleEvent event) := by
  cases event with
  | disconnect => exact programs.reset .running fun _ => rfl
  | receive channelID packet =>
    unfold handleEvent
    refine programs.bind programs.client fun c => ?_
    split
    · exact programs.enet .packetDestroy trivial
    · refine programs.bind (programs.message channelID packet) fun _ => ?_
      exact programs.enet .packetDestroy trivial
  | _ => exact programs.pure ()

theorem round : holds updateRound := by
  unfold updateRound
  refine programs.bind programs.client fun c => ?_
  split
  · exact programs.pure _
  refine programs.bind programs.client fun c => ?_
  split
  · exact programs.pure _
  refine programs.bind (programs.serving 100) fun serviced => ?_
  split
  · exact programs.bind (programs.event _) fun _ => programs.pure _
  split
  · exact programs.bind (programs.reset .running fun _ => rfl) fun _ => programs.pure _
  · exact programs.pure _

theorem update : holds update :=
  programs.bind (programs.loop programs.round) fun _ => programs.close

end SessionPrograms

structure ClientPrograms (holds : {α : Type} → Plugin α → Prop) : Prop extends
    PartPrograms holds where
  enet : ∀ call : EnetCall, call.Plain → holds (enet call)
  setClient : ∀ {update : Client → Client}, Client.Tame update → holds (setClient update)
  await : holds awaitDisconnect → holds (Program.repeatUntil awaitDisconnect)
  loop : holds updateRound → holds (Program.repeatUntil updateRound)
  abortThread : holds abortThread
  handshakeResponse : ∀ packet, holds (handleHandshakeResponse packet)
  reset : holds resetTeamspeak

namespace ClientPrograms

variable {holds : {α : Type} → Plugin α → Prop} (programs : ClientPrograms holds)

include programs

theorem leave : holds closeConnection :=
  programs.closeConnection (fun _ => programs.enet _ trivial) (fun _ => programs.enet _ trivial)
    fun _ other => programs.setClient (Client.Field.tame other)

theorem close : holds close :=
  programs.bind programs.abortThread fun _ => programs.bind programs.leave fun _ => programs.reset

theorem session : SessionPrograms holds where
  toPartPrograms := programs.toPartPrograms
  enet call serving := programs.enet call serving.plain
  reset field same := by
    refine programs.setClient (Client.Field.tame ?_)
    rintro rfl
    have dropped := congrArg (·.2.2) (same { Client.new 0 with thread := some 0 })
    cases dropped
  await := programs.await
  loop := programs.loop
  abortThread := programs.abortThread
  close := programs.close
  sendHandshake := PluginPrograms.sendHandshake programs.toPluginPrograms
    (programs.ts3GetClientIdentity trivial) fun _ => programs.sendPacket fun _ =>
    programs.enet _ trivial
  handshakeResponse := programs.handshakeResponse

theorem createConnection (host : StdString) (port : UInt16) : holds (createConnection host port) :=
  PluginPrograms.createConnection programs.toPluginPrograms programs.enet programs.setClient
    programs.close host port

theorem connect (host : StdString) (port uniqueIdentifier : UInt16)
    (starts : holds (JustAnotherVoiceChat.startUpdate host port uniqueIdentifier)) :
    holds (connect host port uniqueIdentifier) :=
  programs.session.connect host port uniqueIdentifier (programs.createConnection host port) starts
    (programs.sendProtocolMessage fun _ => programs.sendPacket fun _ => programs.enet _ trivial)

end ClientPrograms

structure EventPrograms (holds : {α : Type} → Plugin α → Prop) : Prop extends
    PartPrograms holds where
  object : ∀ call, holds (object call)
  setTalking : ∀ talking, holds (setTalking talking)
  setMicrophoneMuted : ∀ muted, holds (setMicrophoneMuted muted)
  setSpeakersMuted : ∀ muted, holds (setSpeakersMuted muted)

namespace EventPrograms

variable {holds : {α : Type} → Plugin α → Prop} (programs : EventPrograms holds)

include programs

theorem talkStatus (handle : UInt64) (status : TalkStatus) (clientID : AnyID) :
    holds (ts3pluginOnTalkStatusChangeEvent handle status clientID) := by
  unfold ts3pluginOnTalkStatusChangeEvent
  refine programs.bind programs.ts3ServerConnectionHandle fun connection => ?_
  split
  · exact programs.pure ()
  refine programs.bind (programs.ts3ClientId trivial handle) fun ownId => ?_
  split
  · exact programs.pure ()
  · exact programs.whileOpen programs.object (programs.setTalking _)

theorem selfVariable (handle : UInt64) (flag : SelfVariable) (newValue : CString) :
    holds (ts3pluginOnClientSelfVariableUpdateEvent handle flag newValue) := by
  unfold ts3pluginOnClientSelfVariableUpdateEvent
  refine programs.bind programs.ts3ServerConnectionHandle fun connection => ?_
  split
  · exact programs.pure ()
  dsimp only
  split
  · exact programs.whileOpen programs.object (programs.setMicrophoneMuted _)
  · exact programs.whileOpen programs.object (programs.setSpeakersMuted _)
  · exact programs.pure ()

end EventPrograms

end JustAnotherVoiceChat
