import JustAnotherVoiceChat.Client

set_option autoImplicit false

namespace JustAnotherVoiceChat

open Binary Interaction

inductive Topic where
  | server
  | ownId
  | move
  | channel
  | mute
  | readString
  | readInt
  | writeString
  | writeInt
  | position
  | sound
  | memory
deriving DecidableEq

def TeamSpeakCall.topic : TeamSpeakCall → Topic
  | .getServerConnectionHandlerList | .getServerUniqueIdentifier _ => .server
  | .getConnectionStatus _ | .getClientID _ => .ownId
  | .requestClientMove _ _ _ _ => .move
  | .requestChannelSubscribe _ _ | .getChannelAreSubscribed _ _ | .getChannelClientList _ _
  | .getChannelOfClient _ _ => .channel
  | .requestMuteClients _ _ | .requestUnmuteClients _ _ => .mute
  | .getClientSelfVariableAsString _ _ => .readString
  | .getClientSelfVariableAsInt _ _ => .readInt
  | .setClientSelfVariableAsString _ _ _ => .writeString
  | .setClientSelfVariableAsInt _ _ _ | .flushClientSelfUpdates _ => .writeInt
  | .channelset3DAttributes _ _ _ => .position
  | .systemset3DListenerAttributes _ _ _ _ | .systemset3DSettings _ _ _ => .sound
  | .freeMemory _ => .memory

-- What a property of programs must allow to hold of every program that is put together from
-- programs it holds of.
structure PluginPrograms (holds : {α : Type} → Plugin α → Prop) : Prop where
  pure : ∀ {α : Type} (value : α), holds (Pure.pure value : Plugin α)
  bind : ∀ {α β : Type} {p : Plugin α} {f : α → Plugin β}, holds p →
    (∀ value, holds (f value)) → holds (p >>= f)
  load : holds load

theorem PluginPrograms.of_load {allowed : Op → Prop} (loads : allowed .load) :
    PluginPrograms (fun {_} p => p.Calls allowed) where
  pure _ := trivial
  bind := Program.Calls.bind
  load := ⟨loads, fun _ => trivial⟩

namespace PluginPrograms

variable {holds : {α : Type} → Plugin α → Prop} (programs : PluginPrograms holds)

include programs

theorem discard {α : Type} {p : Plugin α} (first : holds p) : holds (discard p) :=
  programs.bind first fun _ => programs.pure ()

theorem forM {α : Type} (items : List α) {f : α → Plugin Unit} (each : ∀ item, holds (f item)) :
    holds (forM items f) := by
  induction items with
  | nil => exact programs.pure ()
  | cons item rest ih =>
    rw [List.forM_cons]
    exact programs.bind (each item) fun _ => ih

theorem client : holds client := programs.bind programs.load fun _ => programs.pure _

theorem wrapper : holds wrapper := programs.bind programs.load fun _ => programs.pure _

theorem ts3ServerConnectionHandle : holds ts3ServerConnectionHandle :=
  programs.bind programs.wrapper fun _ => programs.pure _

theorem isOpen : holds isOpen := by
  unfold JustAnotherVoiceChat.isOpen
  refine programs.bind programs.client fun c => ?_
  split
  · exact programs.pure false
  refine programs.bind programs.client fun c => ?_
  split
  · exact programs.pure false
  · exact programs.bind programs.client fun _ => programs.pure _

theorem isIngame : holds isIngame := by
  unfold JustAnotherVoiceChat.isIngame
  refine programs.bind programs.isOpen fun opened => ?_
  split
  · exact programs.pure false
  refine programs.bind programs.client fun c => ?_
  split
  · exact programs.pure false
  · exact programs.bind programs.client fun _ => programs.pure _

end PluginPrograms

structure WrapperPrograms (about : Topic → Prop) (holds : {α : Type} → Plugin α → Prop) : Prop
    extends PluginPrograms holds where
  sleepFor : ∀ milliseconds, holds (sleepFor milliseconds)
  teamspeak : ∀ {call : TeamSpeakCall}, about call.topic → holds (teamspeak call)
  poll : about .channel → ∀ channelId, holds (pollRound channelId) →
    holds (Program.repeatUntil (pollRound channelId))

namespace WrapperPrograms

variable {about : Topic → Prop} {holds : {α : Type} → Plugin α → Prop}
  (programs : WrapperPrograms about holds)

include programs

theorem findServer (server : about .server) (memory : about .memory)
    (stores : ∀ handle, holds (setHandler handle)) (uniqueIdentifier : StdString)
    (serverList : List UInt64) : holds (findServer uniqueIdentifier serverList) := by
  induction serverList with
  | nil => exact programs.pure ()
  | cons handle rest ih =>
    unfold JustAnotherVoiceChat.findServer
    split
    · exact programs.pure ()
    refine programs.bind (programs.teamspeak server) fun uid => ?_
    cases uid with
    | none => exact ih
    | some uid =>
      dsimp only
      split
      · refine programs.bind (stores handle) fun _ => ?_
        exact programs.teamspeak memory
      · refine programs.bind (programs.teamspeak memory) fun _ => ?_
        exact ih

theorem ts3VerifyServer (server : about .server) (memory : about .memory)
    (stores : ∀ handle, holds (setHandler handle)) (uniqueIdentifier : StdString) :
    holds (ts3VerifyServer uniqueIdentifier) := by
  unfold JustAnotherVoiceChat.ts3VerifyServer
  refine programs.bind (programs.teamspeak server) fun serverList => ?_
  cases serverList with
  | none => exact programs.pure false
  | some serverList =>
    refine programs.bind (stores 0) fun _ => ?_
    refine programs.bind (programs.findServer server memory stores _ _) fun _ => ?_
    refine programs.bind (programs.teamspeak memory) fun _ => ?_
    exact programs.bind programs.wrapper fun _ => programs.pure _

theorem ts3ClientId (ownId : about .ownId) (handle : UInt64) : holds (ts3ClientId handle) := by
  unfold JustAnotherVoiceChat.ts3ClientId
  split
  · exact programs.pure 0
  refine programs.bind (programs.teamspeak ownId) fun status => ?_
  cases status with
  | none => exact programs.pure 0
  | some status =>
    dsimp only
    split
    · exact programs.pure 0
    refine programs.bind (programs.teamspeak ownId) fun clientID => ?_
    cases clientID with
    | none => exact programs.pure 0
    | some clientID => exact programs.pure clientID

theorem ts3ChannelId (ownId : about .ownId) (channel : about .channel) (handle : UInt64) :
    holds (ts3ChannelId handle) := by
  unfold JustAnotherVoiceChat.ts3ChannelId
  refine programs.bind (programs.ts3ClientId ownId handle) fun clientId => ?_
  refine programs.bind (programs.teamspeak channel) fun channelId => ?_
  cases channelId with
  | none => exact programs.pure 0
  | some channelId => exact programs.pure channelId

theorem ts3MoveToChannel (ownId : about .ownId) (move : about .move) (channelId : UInt64)
    (password : StdString) : holds (ts3MoveToChannel channelId password) := by
  unfold JustAnotherVoiceChat.ts3MoveToChannel
  refine programs.bind programs.wrapper fun m => ?_
  refine programs.bind (programs.ts3ClientId ownId _) fun clientId => ?_
  split
  · exact programs.pure false
  · exact programs.bind programs.wrapper fun _ => programs.teamspeak move

theorem ts3MuteClients (mute : about .mute) (stores : ∀ update, holds (setMutedClients update))
    (clients : SortedSet AnyID) (muted : Bool) : holds (ts3MuteClients clients muted) := by
  unfold JustAnotherVoiceChat.ts3MuteClients
  split
  · exact programs.pure true
  dsimp only
  split
  · refine programs.bind programs.wrapper fun m => ?_
    refine programs.bind (programs.teamspeak mute) fun result => ?_
    split
    · refine programs.bind (programs.forM _ fun _ => stores _) fun _ => ?_
      exact programs.pure result
    · exact programs.pure result
  · refine programs.bind programs.wrapper fun m => ?_
    refine programs.bind (programs.teamspeak mute) fun result => ?_
    split
    · refine programs.bind (programs.forM _ fun _ => stores _) fun _ => ?_
      exact programs.pure result
    · exact programs.pure result

theorem ts3MuteClient (mute : about .mute) (stores : ∀ update, holds (setMutedClients update))
    (clientId : AnyID) (muted : Bool) : holds (ts3MuteClient clientId muted) :=
  programs.ts3MuteClients mute stores (.singleton clientId) muted

theorem ts3UnmuteAllClients (mute : about .mute)
    (stores : ∀ update, holds (setMutedClients update)) : holds ts3UnmuteAllClients := by
  unfold JustAnotherVoiceChat.ts3UnmuteAllClients
  refine programs.bind programs.wrapper fun m => ?_
  split
  · exact programs.pure true
  refine programs.bind programs.wrapper fun m => ?_
  refine programs.bind programs.wrapper fun m => ?_
  refine programs.bind (programs.teamspeak mute) fun result => ?_
  exact programs.bind (stores _) fun _ => programs.pure result

theorem pollRound (channel : about .channel) (channelId : UInt64) :
    holds (pollRound channelId) := by
  unfold JustAnotherVoiceChat.pollRound
  refine programs.bind (programs.sleepFor 10) fun _ => ?_
  refine programs.bind programs.wrapper fun m => ?_
  refine programs.bind (programs.teamspeak channel) fun isSubscribed => ?_
  cases isSubscribed with
  | none => exact programs.pure _
  | some isSubscribed => exact programs.pure _

theorem ts3ClientsInChannel (channel : about .channel) (memory : about .memory)
    (channelId : UInt64) : holds (ts3ClientsInChannel channelId) := by
  unfold JustAnotherVoiceChat.ts3ClientsInChannel
  refine programs.bind programs.wrapper fun m => ?_
  refine programs.bind (programs.teamspeak channel) fun accepted => ?_
  split
  · exact programs.pure _
  have polls := programs.poll channel channelId (programs.pollRound channel channelId)
  refine programs.bind polls fun subscribed => ?_
  split
  · exact programs.pure _
  refine programs.bind programs.wrapper fun m => ?_
  refine programs.bind (programs.teamspeak channel) fun clientList => ?_
  cases clientList with
  | none => exact programs.pure _
  | some clientList =>
    exact programs.bind (programs.teamspeak memory) fun _ => programs.pure _

theorem ts3SetNickname (readString : about .readString) (writeString : about .writeString)
    (writeInt : about .writeInt) (stores : ∀ nickname, holds (setOriginalNickname nickname))
    (nickname : StdString) : holds (ts3SetNickname nickname) := by
  unfold JustAnotherVoiceChat.ts3SetNickname
  refine programs.bind programs.wrapper fun m => ?_
  split
  · exact programs.pure false
  refine programs.bind programs.wrapper fun m => ?_
  refine programs.bind (programs.teamspeak readString) fun currentNickname => ?_
  cases currentNickname with
  | none => exact programs.bind (stores .empty) fun _ => programs.pure false
  | some currentNickname =>
    dsimp only
    split
    · exact programs.pure true
    have renames : holds (do
        let m ← JustAnotherVoiceChat.wrapper
        let set ← JustAnotherVoiceChat.teamspeak (.setClientSelfVariableAsString
          m.serverConnectionHandler .nickname (cStr nickname))
        if (!set) = true then
          return false
        let m ← JustAnotherVoiceChat.wrapper
        JustAnotherVoiceChat.teamspeak (.flushClientSelfUpdates m.serverConnectionHandler)) := by
      refine programs.bind programs.wrapper fun m => ?_
      refine programs.bind (programs.teamspeak writeString) fun set => ?_
      split
      · exact programs.pure false
      · exact programs.bind programs.wrapper fun _ => programs.teamspeak writeInt
    refine programs.bind programs.wrapper fun m => ?_
    split
    · exact programs.bind (stores _) fun _ => renames
    · exact renames

theorem ts3ResetNickname (writeString : about .writeString) (writeInt : about .writeInt)
    (stores : ∀ nickname, holds (setOriginalNickname nickname)) : holds ts3ResetNickname := by
  unfold JustAnotherVoiceChat.ts3ResetNickname
  refine programs.bind programs.wrapper fun m => ?_
  split
  · exact programs.pure false
  refine programs.bind programs.wrapper fun m => ?_
  split
  · exact programs.pure true
  refine programs.bind programs.wrapper fun m => ?_
  refine programs.bind programs.wrapper fun m => ?_
  refine programs.bind (programs.teamspeak writeString) fun set => ?_
  split
  · exact programs.pure false
  refine programs.bind programs.wrapper fun m => ?_
  refine programs.bind (programs.teamspeak writeInt) fun flushed => ?_
  split
  · exact programs.pure false
  · exact programs.bind (stores .empty) fun _ => programs.pure true

theorem ts3GetClientIdentity (readString : about .readString) : holds ts3GetClientIdentity := by
  unfold JustAnotherVoiceChat.ts3GetClientIdentity
  refine programs.bind programs.wrapper fun m => ?_
  split
  · exact programs.pure _
  refine programs.bind programs.wrapper fun m => ?_
  refine programs.bind (programs.teamspeak readString) fun identity => ?_
  cases identity with
  | none => exact programs.pure _
  | some identity => exact programs.pure identity.contents.text

theorem ts3SetClientPosition (position : about .position) (clientId : AnyID) (x y z : Single) :
    holds (ts3SetClientPosition clientId x y z) := by
  unfold JustAnotherVoiceChat.ts3SetClientPosition
  refine programs.bind programs.wrapper fun m => ?_
  split
  · exact programs.pure false
  · exact programs.bind programs.wrapper fun _ => programs.teamspeak position

theorem ts3ResetListenerPosition (sound : about .sound) : holds ts3ResetListenerPosition := by
  unfold JustAnotherVoiceChat.ts3ResetListenerPosition
  refine programs.bind programs.wrapper fun m => ?_
  split
  · exact programs.pure false
  · exact programs.bind programs.wrapper fun _ => programs.teamspeak sound

theorem ts3Set3DSettings (sound : about .sound) (distanceFactor rolloffScale : Single) :
    holds (ts3Set3DSettings distanceFactor rolloffScale) := by
  unfold JustAnotherVoiceChat.ts3Set3DSettings
  refine programs.bind programs.wrapper fun m => ?_
  split
  · exact programs.pure false
  · exact programs.bind programs.wrapper fun _ => programs.teamspeak sound

theorem ts3ResetClients3DPositions (ownId : about .ownId) (channel : about .channel)
    (memory : about .memory) (position : about .position) : holds ts3ResetClients3DPositions := by
  unfold JustAnotherVoiceChat.ts3ResetClients3DPositions
  refine programs.bind programs.wrapper fun m => ?_
  split
  · exact programs.pure ()
  refine programs.bind programs.wrapper fun m => ?_
  refine programs.bind (programs.ts3ChannelId ownId channel _) fun channelId => ?_
  refine programs.bind (programs.ts3ClientsInChannel channel memory channelId) fun clients => ?_
  exact programs.forM _ fun id => programs.discard (programs.ts3SetClientPosition position id 0 0 0)

theorem ts3IsInputMuted (readInt : about .readInt) (handle : UInt64) :
    holds (ts3IsInputMuted handle) := by
  unfold JustAnotherVoiceChat.ts3IsInputMuted
  refine programs.bind (programs.teamspeak readInt) fun hardwareStatus => ?_
  cases hardwareStatus with
  | none => exact programs.pure false
  | some hardwareStatus =>
    dsimp only
    split
    · exact programs.pure true
    refine programs.bind (programs.teamspeak readInt) fun deactivated => ?_
    cases deactivated with
    | none => exact programs.pure false
    | some deactivated =>
      dsimp only
      split
      · exact programs.pure true
      refine programs.bind (programs.teamspeak readInt) fun muted => ?_
      cases muted with
      | none => exact programs.pure false
      | some muted => exact programs.pure _

theorem ts3IsOutputMuted (readInt : about .readInt) (handle : UInt64) :
    holds (ts3IsOutputMuted handle) := by
  unfold JustAnotherVoiceChat.ts3IsOutputMuted
  refine programs.bind (programs.teamspeak readInt) fun hardwareStatus => ?_
  cases hardwareStatus with
  | none => exact programs.pure false
  | some hardwareStatus =>
    dsimp only
    split
    · exact programs.pure true
    refine programs.bind (programs.teamspeak readInt) fun muted => ?_
    cases muted with
    | none => exact programs.pure false
    | some muted => exact programs.pure _

theorem ts3SetOutputMuted (writeInt : about .writeInt) (handle : UInt64) (muted : Bool) :
    holds (ts3SetOutputMuted handle muted) := by
  unfold JustAnotherVoiceChat.ts3SetOutputMuted
  refine programs.bind (programs.teamspeak writeInt) fun set => ?_
  split
  · exact programs.pure false
  · exact programs.bind programs.wrapper fun _ => programs.teamspeak writeInt

theorem setClientPositions (position : about .position) (updates : List ClientPositionUpdate) :
    holds (setClientPositions updates) :=
  programs.forM _ fun _ => programs.discard (programs.ts3SetClientPosition position _ _ _ _)

theorem updateMessage (mute : about .mute) (position : about .position)
    (stores : ∀ update, holds (setMutedClients update)) (packet : Bytes) :
    holds (handleUpdateMessage packet) := by
  unfold handleUpdateMessage
  cases receive UpdatePacket.serialize packet with
  | none => exact programs.pure ()
  | some updatePacket =>
    refine programs.bind (programs.discard (programs.ts3MuteClients mute stores _ true)) fun _ => ?_
    refine programs.bind (programs.discard (programs.ts3MuteClients mute stores _ false))
      fun _ => ?_
    exact programs.setClientPositions position _

theorem controlMessage (readString : about .readString) (writeString : about .writeString)
    (writeInt : about .writeInt) (stores : ∀ nickname, holds (setOriginalNickname nickname))
    (packet : Bytes) : holds (handleControlMessage packet) := by
  unfold handleControlMessage
  cases receive ControlPacket.serialize packet with
  | none => exact programs.pure ()
  | some controlPacket =>
    dsimp only
    split
    · exact programs.discard (programs.ts3SetNickname readString writeString writeInt stores _)
    · exact programs.pure ()

theorem positionMessage (position : about .position) (packet : Bytes) :
    holds (handlePositionMessage packet) := by
  unfold handlePositionMessage
  cases receive PositionPacket.serialize packet with
  | none => exact programs.pure ()
  | some positionPacket => exact programs.setClientPositions position _

end WrapperPrograms

end JustAnotherVoiceChat
