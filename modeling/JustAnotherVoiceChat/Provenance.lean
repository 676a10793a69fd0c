import JustAnotherVoiceChat.System

set_option autoImplicit false

namespace JustAnotherVoiceChat.System

open Binary Interaction Relation

namespace History

variable (h : History)

def Told (call : External) (reply : call.Reply) : Prop :=
  ∃ thread, .answered ⟨thread, call, reply⟩ ∈ h

def Began (task : Task) : Prop := ∃ thread, .began thread task ∈ h

def Heard (channelID : UInt8) (payload : Bytes) : Prop :=
  ∃ e, .answered e ∈ h ∧ e.message = some (channelID, payload)

def Sent {T : Type} (channelID : UInt8) (serialize : Codec T) (packet : T) : Prop :=
  ∃ payload, h.Heard channelID payload ∧ receive serialize payload = some packet

def Invited (packet : HandshakeResponsePacket) : Prop :=
  h.Sent networkHandshakeChannel HandshakeResponsePacket.serialize packet ∧
    packet.statusCode = statusCodeOk

-- A server connection whose identifier is the one that a handshake gave.
def Named (handle : UInt64) : Prop := ∃ packet uid, h.Invited packet ∧
  h.Told (.teamspeak (.getServerUniqueIdentifier handle)) (some uid) ∧
    uid.contents.text = packet.teamspeakServerUniqueIdentifier

def Served (handle : UInt64) : Prop := handle = 0 ∨ h.Named handle

def OwnId (id : AnyID) : Prop := id = 0 ∨ ∃ handle, h.Served handle ∧
  h.Told (.teamspeak (.getClientID handle)) (some id)

def OwnChannel (channelId : UInt64) : Prop := channelId = 0 ∨ ∃ handle id, h.Served handle ∧
  h.OwnId id ∧ h.Told (.teamspeak (.getChannelOfClient handle id)) (some channelId)

def OwnString (flag : SelfString) (value : StdString) : Prop := value = .empty ∨
  ∃ handle told, h.Served handle ∧ told.contents.text = value ∧
    h.Told (.teamspeak (.getClientSelfVariableAsString handle flag)) (some told)

def Visited (channelId : UInt64) : Prop :=
  h.OwnChannel channelId ∨ ∃ packet, h.Invited packet ∧ channelId = packet.channelId

def Listed (id : AnyID) : Prop := ∃ handle channelId list, h.Served handle ∧
  h.Visited channelId ∧ h.Told (.teamspeak (.getChannelClientList handle channelId)) (some list) ∧
    id ∈ untilZero list.contents

def Moved (id : AnyID) : Prop := ∃ handle oldChannelID newChannelID, h.Served handle ∧
  h.Began (.host (.clientMove handle id oldChannelID newChannelID))

def Updated (id : AnyID) (muted : Bool) : Prop := ∃ packet update,
  h.Sent networkUpdateChannel UpdatePacket.serialize packet ∧ update ∈ packet.audioUpdates.items ∧
    update.teamspeakId = id ∧ update.muted = muted

def Muted (id : AnyID) : Prop := ∃ handle ids,
  h.Told (.teamspeak (.requestMuteClients handle ids)) true ∧ id ∈ ids

def Placed (id : AnyID) (position : Vector3) : Prop := ∃ update : ClientPositionUpdate,
  ((∃ packet, h.Sent networkUpdateChannel UpdatePacket.serialize packet ∧
      update ∈ packet.positionUpdates.items) ∨
    ∃ packet, h.Sent networkPositionChannel PositionPacket.serialize packet ∧
      update ∈ packet.positions.items) ∧
  update.teamspeakId = id ∧ position = ⟨update.x, update.y, update.z⟩

def Spoke : Prop := ∃ handle id, h.Served handle ∧ h.OwnId id ∧
  h.Began (.host (.talkStatus handle .talking id))

def Off (muted : SelfInt) (signs : List (SelfInt × Int32)) : Prop := ∃ handle, h.Served handle ∧
  ((∃ value, h.Began (.host (.selfVariable handle (.int muted) value)) ∧ value.text.items = [49]) ∨
    ∃ sign ∈ signs, h.Told (.teamspeak (.getClientSelfVariableAsInt handle sign.1)) (some sign.2))

def MicrophoneOff : Prop :=
  h.Off .inputMuted [(.inputHardware, 0), (.inputDeactivated, 1), (.inputMuted, 1)]

def SpeakersOff : Prop := h.Off .outputMuted [(.outputHardware, 0), (.outputMuted, 1)]

def Requested (host : StdString) (port uniqueIdentifier : UInt16) : Prop :=
  h.Began (.host (.connect host port uniqueIdentifier))

def GameId (gameId : UInt16) : Prop := gameId = 0 ∨ ∃ host port, h.Requested host port gameId

def Asks : TeamSpeakCall → Prop
  | .requestClientMove _ clientId channelId password => h.OwnId clientId ∧ clientId ≠ 0 ∧
    ((∃ packet, h.Invited packet ∧ channelId = packet.channelId ∧
        password = cStr packet.channelPassword) ∨
      h.OwnChannel channelId ∧ password = cStr .empty)
  | .requestMuteClients _ ids => ∃ clients, ids = clientIdArray clients ∧
    ∀ id ∈ clients, h.Updated id true ∨ h.Listed id ∨ h.Moved id
  | .requestUnmuteClients _ ids => ∃ clients, ids = clientIdArray clients ∧
    ∀ id ∈ clients, h.Updated id false ∨ h.Moved id ∨ h.Muted id
  | .requestChannelSubscribe _ channelIds =>
    ∃ channelId, channelIds = [channelId, 0] ∧ h.Visited channelId
  | .getChannelAreSubscribed _ channelId | .getChannelClientList _ channelId =>
    h.Visited channelId
  | .setClientSelfVariableAsString _ flag value => flag = .nickname ∧
    ∃ name, value = cStr name ∧ (h.OwnString .nickname name ∨ ∃ packet,
      h.Sent networkControlChannel ControlPacket.serialize packet ∧ packet.nickname = name)
  | .setClientSelfVariableAsInt _ flag value =>
    flag = .outputMuted ∧ (value = 0 ∨ value = 1) ∧ ∃ packet, h.Invited packet
  | .channelset3DAttributes _ clientId position => h.Placed clientId position ∨
    position = ⟨0, 0, 0⟩ ∧ (h.Listed clientId ∨ h.Moved clientId)
  | .systemset3DListenerAttributes _ position forward up => (∃ packet, h.Invited packet) ∧
    position = ⟨0, 0, 0⟩ ∧ forward = ⟨0, 0, 0⟩ ∧ up = ⟨0, 0, 0x3F800000⟩
  | .systemset3DSettings _ distanceFactor rolloffScale => (∃ packet, h.Invited packet) ∧
    distanceFactor = 0x40000000 ∧ rolloffScale = 0x40400000
  | .getChannelOfClient _ clientId => h.OwnId clientId
  | _ => True

-- Only a server whose identifier is asked for need not be the one that a handshake named.
def Warrants (call : TeamSpeakCall) : Prop :=
  match call with
  | .getServerConnectionHandlerList | .freeMemory _ => True
  | .getServerUniqueIdentifier handle => (∃ packet, h.Invited packet) ∧
    ∃ list, h.Told (.teamspeak .getServerConnectionHandlerList) (some list) ∧
      handle ∈ list.contents
  | .requestClientMove handle _ _ _ | .requestMuteClients handle _ | .requestUnmuteClients handle _
  | .requestChannelSubscribe handle _ | .getChannelAreSubscribed handle _
  | .getChannelClientList handle _ | .getClientSelfVariableAsString handle _
  | .setClientSelfVariableAsString handle _ _ | .getClientSelfVariableAsInt handle _
  | .setClientSelfVariableAsInt handle _ _ | .flushClientSelfUpdates handle
  | .channelset3DAttributes handle _ _ | .systemset3DListenerAttributes handle _ _ _
  | .systemset3DSettings handle _ _ | .getConnectionStatus handle | .getClientID handle
  | .getChannelOfClient handle _ => h.Served handle ∧ h.Asks call

def Reports : Outgoing → UInt8 → Prop
  | .protocol packet, channelID => channelID = networkProtocolChannel ∧
    packet = ⟨protocolVersionMajor, protocolVersionMinor, protocolMinVersionMajor,
      protocolMinVersionMinor⟩
  | .handshake packet, channelID => channelID = networkHandshakeChannel ∧
    ((∃ response, h.Sent networkProtocolChannel ProtocolResponsePacket.serialize response) ∨
      ∃ response, h.Invited response) ∧
    h.GameId packet.gameId ∧ h.OwnId packet.teamspeakId ∧
      h.OwnString .uniqueIdentifier packet.teamspeakClientUniqueIdentity
  | .status packet, channelID => channelID = networkStatusChannel ∧
    (packet.talking = true → h.Spoke) ∧ (packet.microphoneMuted = true → h.MicrophoneOff) ∧
      (packet.speakersMuted = true → h.SpeakersOff)

def Reaches : EnetCall → Prop
  | .addressSetHost name => ∃ host port uniqueIdentifier,
    h.Requested host port uniqueIdentifier ∧ name = cStr host
  | .hostConnect _ address port _ => ∃ host uniqueIdentifier resolved,
    h.Requested host port uniqueIdentifier ∧
      h.Told (.enet (.addressSetHost (cStr host))) resolved ∧ address = resolved.address
  | .peerSend _ channelID packet reliable => reliable = true ∧ h.Reports packet channelID
  | _ => True

-- There is a reason for the call in what was told before.
def Grounds : External → Prop
  | .teamspeak call => h.Warrants call
  | .enet call => h.Reaches call
  | .object _ => True

variable {h}

theorem accepted_elsewhere {t : TeamSpeak} {target handle : UInt64} {f : Connection → Connection}
    {ok : Bool} (other : handle ≠ target) : accepted t target f ok handle = t handle := by
  rcases accepted_cases t target f ok with same | same
  · rw [same]
  · rw [same, TeamSpeak.on, Function.update_of_ne other]

theorem Warrants.elsewhere {call : TeamSpeakCall} {t t' : TeamSpeak} {reply : call.Reply}
    (warranted : h.Warrants call) (step : call.Step t reply t') {handle : UInt64}
    (unserved : ¬ h.Served handle) : t' handle = t handle := by
  have requested {target : UInt64} {f : Connection → Connection} {ok : Bool}
      (served : h.Served target) (same : t' = accepted t target f ok) : t' handle = t handle := by
    have other : handle ≠ target := by
      rintro rfl
      exact unserved served
    rw [same, accepted_elsewhere other]
  cases call with
  | requestClientMove target clientId channelId password =>
    have other : handle ≠ target := by
      rintro rfl
      exact unserved warranted.1
    simp only [TeamSpeakCall.Step] at step
    split at step
    · rcases step with same | same
      · rw [same, TeamSpeak.on, Function.update_of_ne other]
      · rw [same, TeamSpeak.on, Function.update_of_ne other]
    · rw [step]
  | requestMuteClients | requestUnmuteClients | setClientSelfVariableAsInt
  | flushClientSelfUpdates | channelset3DAttributes => exact requested warranted.1 step
  | setClientSelfVariableAsString => exact requested warranted.1 step.2
  | getClientID | getChannelOfClient | getChannelClientList | getClientSelfVariableAsString
  | getClientSelfVariableAsInt => rw [step.2]
  | _ => rw [show t' = t from step]

variable (h)

structure SourcedWrapper (w : Wrapper) : Prop where
  handler : h.Served w.serverConnectionHandler
  muted : ∀ id ∈ w.mutedClients, h.Muted id
  nickname : h.OwnString .nickname w.originalNickname

structure SourcedClient (c : Client) : Prop where
  channel : h.OwnChannel c.lastChannelId
  gameId : h.GameId c.gameId
  teamspeakId : h.OwnId c.teamspeakId
  talking : c.talking = true → h.Spoke
  microphone : c.microphoneMuted = true → h.MicrophoneOff
  speakers : c.speakersMuted = true → h.SpeakersOff

structure Sourced (m : Memory) : Prop where
  wrapper : h.SourcedWrapper m.wrapper
  client : h.SourcedClient m.client

end History

-- The terms that all programs of the plugin keep to, read against what was told up to `last`.
def terms (last : History) : Terms Op Op.Reply where
  may
    | .store update => ∀ m, last.Sourced m → last.Sourced (update m)
    | .external call => last.Grounds call
    | _ => True
  told
    | .load, m => last.Sourced m
    | .external call, reply => last.Told call reply
    | _, _ => True

section Steps

variable {last : History} {α : Type}

theorem kept_load : (terms last).Kept load last.Sourced := ⟨trivial, fun _ told => told⟩

theorem kept_client : (terms last).Kept client last.SourcedClient :=
  kept_load.bind fun _ sourced => sourced.client

theorem kept_wrapper : (terms last).Kept wrapper last.SourcedWrapper :=
  kept_load.bind fun _ sourced => sourced.wrapper

theorem kept_setClient {update : Client → Client}
    (keeps : ∀ c, last.SourcedClient c → last.SourcedClient (update c)) :
    (terms last).Kept (setClient update) fun _ => True :=
  ⟨fun m sourced => ⟨sourced.wrapper, keeps m.client sourced.client⟩, fun _ _ => trivial⟩

theorem kept_setWrapper {update : Wrapper → Wrapper}
    (keeps : ∀ w, last.SourcedWrapper w → last.SourcedWrapper (update w)) :
    (terms last).Kept (setWrapper update) fun _ => True :=
  ⟨fun m sourced => ⟨keeps m.wrapper sourced.wrapper, sourced.client⟩, fun _ _ => trivial⟩

theorem kept_setGlobals (update : Globals → Globals) :
    (terms last).Kept (setGlobals update) fun _ => True :=
  ⟨fun _ sourced => ⟨sourced.wrapper, sourced.client⟩, fun _ _ => trivial⟩

theorem kept_teamspeak {call : TeamSpeakCall} (warranted : last.Warrants call) :
    (terms last).Kept (teamspeak call) (last.Told (.teamspeak call)) :=
  ⟨warranted, fun _ told => told⟩

theorem kept_freeMemory (address : Nat) :
    (terms last).Kept (teamspeak (.freeMemory address)) fun _ => True :=
  ⟨trivial, fun _ _ => trivial⟩

theorem kept_enet {call : EnetCall} (reaches : last.Reaches call) :
    (terms last).Kept (enet call) (last.Told (.enet call)) :=
  ⟨reaches, fun _ told => told⟩

theorem kept_object (call : ObjectCall) : (terms last).Kept (object call) fun _ => True :=
  ⟨trivial, fun _ _ => trivial⟩

theorem kept_thread (call : ThreadCall) : (terms last).Kept (thread call) fun _ => True :=
  ⟨trivial, fun _ _ => trivial⟩

theorem kept_sleepFor (milliseconds : Nat) :
    (terms last).Kept (sleepFor milliseconds) fun _ => True :=
  ⟨trivial, fun _ _ => trivial⟩

theorem kept_discard {p : Plugin α} {result : α → Prop} (kept : (terms last).Kept p result) :
    (terms last).Kept (discard p) fun _ => True :=
  kept.bind fun _ _ => trivial

theorem kept_anyway {p : Plugin α} {result : α → Prop} (kept : (terms last).Kept p result) :
    (terms last).Kept p fun _ => True :=
  kept.mono fun _ _ => trivial

theorem kept_then {β : Type} {p : Plugin α} {f : α → Plugin β} {result : β → Prop}
    (first : (terms last).Kept p fun _ => True)
    (rest : ∀ value, (terms last).Kept (f value) result) :
    (terms last).Kept (p >>= f) result :=
  first.bind fun value _ => rest value

end Steps

section Wrapper

variable {last : History} {handle : UInt64}

theorem kept_ts3ServerConnectionHandle :
    (terms last).Kept ts3ServerConnectionHandle last.Served :=
  kept_wrapper.bind fun _ sourced => sourced.handler

theorem kept_ts3ClientId (served : last.Served handle) :
    (terms last).Kept (ts3ClientId handle) last.OwnId := by
  have none : last.OwnId 0 := .inl rfl
  unfold ts3ClientId
  split
  · exact none
  refine Terms.Kept.bind (kept_teamspeak ⟨served, trivial⟩) ?_
  rintro (_ | status) _
  · exact none
  dsimp only
  split
  · exact none
  refine Terms.Kept.bind (kept_teamspeak ⟨served, trivial⟩) ?_
  rintro (_ | id) told
  · exact none
  · exact .inr ⟨handle, served, told⟩

theorem kept_ts3ChannelId (served : last.Served handle) :
    (terms last).Kept (ts3ChannelId handle) last.OwnChannel := by
  unfold ts3ChannelId
  apply (kept_ts3ClientId served).bind
  intro id own
  refine Terms.Kept.bind (kept_teamspeak ⟨served, own⟩) ?_
  rintro (_ | channelId) told
  · exact .inl rfl
  · exact .inr ⟨handle, id, served, own, told⟩

theorem kept_setHandler (served : last.Served handle) :
    (terms last).Kept (setHandler handle) fun _ => True :=
  kept_setWrapper fun _ sourced => { sourced with handler := served }

section Lookup

variable {packet : HandshakeResponsePacket} (invited : last.Invited packet)

include invited

theorem kept_findServer (servers : List UInt64) {list : Buffer (List UInt64)}
    (told : last.Told (.teamspeak .getServerConnectionHandlerList) (some list))
    (among : ∀ handle ∈ servers, handle ∈ list.contents) :
    (terms last).Kept (findServer packet.teamspeakServerUniqueIdentifier servers)
      fun _ => True := by
  induction servers with
  | nil => trivial
  | cons handle rest ih =>
    have onward := ih fun other member => among other (List.mem_cons_of_mem _ member)
    unfold findServer
    split
    · trivial
    have listed := among handle List.mem_cons_self
    refine Terms.Kept.bind (kept_teamspeak ⟨⟨packet, invited⟩, list, told, listed⟩) ?_
    rintro (_ | uid) answer
    · exact onward
    dsimp only
    split
    · rename_i same
      have named : last.Named handle := ⟨packet, uid, invited, answer, same.symm⟩
      apply (kept_setHandler (.inr named)).bind
      intro _ _
      exact kept_freeMemory uid.address
    · apply (kept_freeMemory uid.address).bind
      intro _ _
      exact onward

theorem kept_ts3VerifyServer :
    (terms last).Kept (ts3VerifyServer packet.teamspeakServerUniqueIdentifier) fun _ => True := by
  have listing : (terms last).Kept (teamspeak .getServerConnectionHandlerList)
      (last.Told (.teamspeak .getServerConnectionHandlerList)) := ⟨trivial, fun _ told => told⟩
  unfold ts3VerifyServer
  apply listing.bind
  rintro (_ | list) told
  · trivial
  apply (kept_setHandler (.inl rfl)).bind
  intro _ _
  apply (kept_findServer invited list.contents told fun _ member => member).bind
  intro _ _
  apply (kept_freeMemory list.address).bind
  intro _ _
  exact kept_wrapper.bind fun _ _ => trivial

theorem kept_ts3SetOutputMuted (served : last.Served handle) (muted : Bool) :
    (terms last).Kept (ts3SetOutputMuted handle muted) fun _ => True := by
  unfold ts3SetOutputMuted
  have value : (if muted then 1 else 0 : Int32) = 0 ∨ (if muted then 1 else 0 : Int32) = 1 := by
    cases muted <;> simp
  refine Terms.Kept.bind (kept_teamspeak ⟨served, rfl, value, packet, invited⟩) ?_
  intro ok _
  split
  · trivial
  apply kept_wrapper.bind
  intro w sourced
  exact kept_anyway (kept_teamspeak ⟨sourced.handler, trivial⟩)

theorem kept_ts3ResetListenerPosition :
    (terms last).Kept ts3ResetListenerPosition fun _ => True := by
  unfold ts3ResetListenerPosition
  apply kept_wrapper.bind
  intro w sourced
  split
  · trivial
  apply kept_wrapper.bind
  intro w sourced
  exact kept_anyway (kept_teamspeak ⟨sourced.handler, ⟨packet, invited⟩, rfl, rfl, rfl⟩)

theorem kept_ts3Set3DSettings :
    (terms last).Kept (ts3Set3DSettings 0x40000000 0x40400000) fun _ => True := by
  unfold ts3Set3DSettings
  apply kept_wrapper.bind
  intro w sourced
  split
  · trivial
  apply kept_wrapper.bind
  intro w sourced
  exact kept_anyway (kept_teamspeak ⟨sourced.handler, ⟨packet, invited⟩, rfl, rfl⟩)

end Lookup

theorem kept_ts3MoveToChannel {channelId : UInt64} {password : StdString}
    (target : (∃ packet, last.Invited packet ∧ channelId = packet.channelId ∧
      cStr password = cStr packet.channelPassword) ∨
        last.OwnChannel channelId ∧ cStr password = cStr .empty) :
    (terms last).Kept (ts3MoveToChannel channelId password) fun _ => True := by
  unfold ts3MoveToChannel
  apply kept_wrapper.bind
  intro w sourced
  apply (kept_ts3ClientId sourced.handler).bind
  intro id own
  split
  · trivial
  rename_i nonzero
  apply kept_wrapper.bind
  intro w sourced
  exact kept_anyway (kept_teamspeak ⟨sourced.handler, own, nonzero, target⟩)

theorem kept_cached (ids : List AnyID) (muted : ∀ id ∈ ids, last.Muted id) :
    (terms last).Kept (forM ids fun id => setMutedClients (·.insert id)) fun _ => True := by
  apply Terms.Kept.forM
  intro id member
  apply kept_setWrapper
  intro w sourced
  refine { sourced with muted := fun other among => ?_ }
  rcases SortedSet.mem_insert.mp among with rfl | among
  · exact muted other member
  · exact sourced.muted other among

theorem kept_uncached (ids : List AnyID) :
    (terms last).Kept (forM ids fun id => setMutedClients (·.erase id)) fun _ => True := by
  apply Terms.Kept.forM
  intro id _
  apply kept_setWrapper
  intro w sourced
  refine { sourced with muted := fun other among => ?_ }
  exact sourced.muted other (SortedSet.mem_erase.mp among).2

theorem kept_mute {clients : SortedSet AnyID}
    (wanted : ∀ id ∈ clients, last.Updated id true ∨ last.Listed id ∨ last.Moved id) :
    (terms last).Kept (ts3MuteClients clients true) fun _ => True := by
  unfold ts3MuteClients
  split
  · trivial
  apply kept_wrapper.bind
  intro w sourced
  refine Terms.Kept.bind (kept_teamspeak ⟨sourced.handler, clients, rfl, wanted⟩) ?_
  intro ok told
  dsimp only
  split
  · rename_i granted
    subst granted
    apply (kept_cached clients.elems ?_).bind
    · intro _ _
      trivial
    intro id member
    exact ⟨_, _, told, List.mem_append_left _ member⟩
  · trivial

theorem kept_unmute {clients : SortedSet AnyID}
    (wanted : ∀ id ∈ clients, last.Updated id false ∨ last.Moved id ∨ last.Muted id) :
    (terms last).Kept (ts3MuteClients clients false) fun _ => True := by
  unfold ts3MuteClients
  split
  · trivial
  apply kept_wrapper.bind
  intro w sourced
  refine Terms.Kept.bind (kept_teamspeak ⟨sourced.handler, clients, rfl, wanted⟩) ?_
  intro ok _
  dsimp only
  split
  · exact (kept_uncached clients.elems).bind fun _ _ => trivial
  · trivial

theorem kept_ts3UnmuteAllClients : (terms last).Kept ts3UnmuteAllClients fun _ => True := by
  unfold ts3UnmuteAllClients
  apply kept_wrapper.bind
  intro w _
  split
  · trivial
  apply kept_wrapper.bind
  intro w cached
  apply kept_wrapper.bind
  intro v sourced
  have asks : last.Asks (.requestUnmuteClients v.serverConnectionHandler
      (clientIdArray w.mutedClients)) :=
    ⟨w.mutedClients, rfl, fun id member => .inr (.inr (cached.muted id member))⟩
  refine Terms.Kept.bind (kept_teamspeak ⟨sourced.handler, asks⟩) ?_
  intro ok _
  refine Terms.Kept.bind (kept_setWrapper fun w sourced => ?_) fun _ _ => trivial
  exact { sourced with muted := by simp }

theorem kept_ts3ClientsInChannel {channelId : UInt64} (visited : last.Visited channelId) :
    (terms last).Kept (ts3ClientsInChannel channelId)
      fun clients => ∀ id ∈ clients, last.Listed id := by
  have nobody : ∀ id ∈ (SortedSet.empty : SortedSet AnyID), last.Listed id := by simp
  have polling : (terms last).Kept (pollRound channelId) fun _ => True := by
    unfold pollRound
    apply (kept_sleepFor 10).bind
    intro _ _
    apply kept_wrapper.bind
    intro w sourced
    refine Terms.Kept.bind (kept_teamspeak ⟨sourced.handler, visited⟩) ?_
    rintro (_ | isSubscribed) _
    · trivial
    · trivial
  unfold ts3ClientsInChannel
  apply kept_wrapper.bind
  intro w sourced
  refine Terms.Kept.bind (kept_teamspeak ⟨sourced.handler, channelId, rfl, visited⟩) ?_
  intro ok _
  split
  · exact nobody
  apply Terms.Kept.bind (Terms.Kept.repeatUntil (polling.mono fun _ _ _ _ => trivial))
  intro subscribed _
  split
  · exact nobody
  apply kept_wrapper.bind
  intro w sourced
  refine Terms.Kept.bind (kept_teamspeak ⟨sourced.handler, visited⟩) ?_
  rintro (_ | list) told
  · exact nobody
  apply (kept_freeMemory list.address).bind
  intro _ _ id member
  exact ⟨w.serverConnectionHandler, channelId, list, sourced.handler, visited, told,
    SortedSet.mem_ofList.mp member⟩

theorem kept_setOriginalNickname {name : StdString} (own : last.OwnString .nickname name) :
    (terms last).Kept (setOriginalNickname name) fun _ => True :=
  kept_setWrapper fun _ sourced => { sourced with nickname := own }

theorem kept_rename {handle : UInt64} {name : StdString} (served : last.Served handle)
    (named : last.OwnString .nickname name ∨ ∃ packet,
      last.Sent networkControlChannel ControlPacket.serialize packet ∧ packet.nickname = name) :
    (terms last).Kept
      (teamspeak (.setClientSelfVariableAsString handle .nickname (cStr name))) fun _ => True :=
  ⟨⟨served, rfl, name, rfl, named⟩, fun _ _ => trivial⟩

theorem kept_ts3SetNickname {packet : ControlPacket}
    (sent : last.Sent networkControlChannel ControlPacket.serialize packet) :
    (terms last).Kept (ts3SetNickname packet.nickname) fun _ => True := by
  have flushing {handle : UInt64} (served : last.Served handle) :
      (terms last).Kept (teamspeak (.flushClientSelfUpdates handle)) fun _ => True :=
    ⟨⟨served, trivial⟩, fun _ _ => trivial⟩
  have changing : (terms last).Kept (do
      if !(← teamspeak (.setClientSelfVariableAsString (← wrapper).serverConnectionHandler .nickname
          (cStr packet.nickname))) then
        return false
      teamspeak (.flushClientSelfUpdates (← wrapper).serverConnectionHandler)) fun _ => True := by
    apply kept_wrapper.bind
    intro w sourced
    apply (kept_rename sourced.handler (.inr ⟨packet, sent, rfl⟩)).bind
    intro ok _
    split
    · trivial
    apply kept_wrapper.bind
    intro w sourced
    exact flushing sourced.handler
  unfold ts3SetNickname
  apply kept_wrapper.bind
  intro w _
  split
  · trivial
  apply kept_wrapper.bind
  intro w sourced
  refine Terms.Kept.bind (kept_teamspeak ⟨sourced.handler, trivial⟩) ?_
  rintro (_ | current) told
  · exact (kept_setOriginalNickname (.inl rfl)).bind fun _ _ => trivial
  dsimp only
  split
  · trivial
  apply kept_wrapper.bind
  intro v _
  split
  · apply (kept_setOriginalNickname (.inr ⟨_, current, sourced.handler, rfl, told⟩)).bind
    intro _ _
    exact changing
  · exact changing

theorem kept_ts3ResetNickname : (terms last).Kept ts3ResetNickname fun _ => True := by
  unfold ts3ResetNickname
  apply kept_wrapper.bind
  intro w _
  split
  · trivial
  apply kept_wrapper.bind
  intro w _
  split
  · trivial
  apply kept_wrapper.bind
  intro v sourced
  apply kept_wrapper.bind
  intro w saved
  apply (kept_rename sourced.handler (.inl saved.nickname)).bind
  intro ok _
  split
  · trivial
  apply kept_wrapper.bind
  intro w sourced
  refine Terms.Kept.bind (kept_teamspeak ⟨sourced.handler, trivial⟩) ?_
  intro ok _
  split
  · trivial
  exact (kept_setOriginalNickname (.inl rfl)).bind fun _ _ => trivial

theorem kept_ts3GetClientIdentity :
    (terms last).Kept ts3GetClientIdentity (last.OwnString .uniqueIdentifier) := by
  have none : last.OwnString .uniqueIdentifier .empty := .inl rfl
  unfold ts3GetClientIdentity
  apply kept_wrapper.bind
  intro w _
  split
  · exact none
  apply kept_wrapper.bind
  intro w sourced
  refine Terms.Kept.bind (kept_teamspeak ⟨sourced.handler, trivial⟩) ?_
  rintro (_ | identity) told
  · exact none
  · exact .inr ⟨_, identity, sourced.handler, rfl, told⟩

theorem kept_ts3SetClientPosition {clientId : AnyID} {x y z : Single}
    (placed : last.Placed clientId ⟨x, y, z⟩ ∨
      (⟨x, y, z⟩ : Vector3) = ⟨0, 0, 0⟩ ∧ (last.Listed clientId ∨ last.Moved clientId)) :
    (terms last).Kept (ts3SetClientPosition clientId x y z) fun _ => True := by
  unfold ts3SetClientPosition
  apply kept_wrapper.bind
  intro w _
  split
  · trivial
  apply kept_wrapper.bind
  intro w sourced
  exact kept_anyway (kept_teamspeak ⟨sourced.handler, placed⟩)

theorem kept_ts3ResetClients3DPositions :
    (terms last).Kept ts3ResetClients3DPositions fun _ => True := by
  unfold ts3ResetClients3DPositions
  apply kept_wrapper.bind
  intro w _
  split
  · trivial
  apply kept_wrapper.bind
  intro w sourced
  apply (kept_ts3ChannelId sourced.handler).bind
  intro channelId own
  apply (kept_ts3ClientsInChannel (.inl own)).bind
  intro clients listed
  apply Terms.Kept.forM
  intro id member
  exact kept_discard (kept_ts3SetClientPosition (.inr ⟨rfl, .inl (listed id member)⟩))

theorem off_of_told (served : last.Served handle) {muted flag : SelfInt} {sign value : Int32}
    {signs : List (SelfInt × Int32)}
    (told : last.Told (.teamspeak (.getClientSelfVariableAsInt handle flag)) (some value))
    (shown : value = sign) (among : (flag, sign) ∈ signs) : last.Off muted signs :=
  ⟨handle, served, .inr ⟨(flag, sign), among, shown ▸ told⟩⟩

theorem kept_variable (served : last.Served handle) (flag : SelfInt) {off : Prop}
    {next : Option Int32 → Plugin Bool} (unread : next none = pure false)
    (looks : ∀ value, last.Told (.teamspeak (.getClientSelfVariableAsInt handle flag))
      (some value) →
      (terms last).Kept (next (some value)) fun muted => muted = true → off) :
    (terms last).Kept (teamspeak (.getClientSelfVariableAsInt handle flag) >>= next)
      fun muted => muted = true → off := by
  refine Terms.Kept.bind (kept_teamspeak ⟨served, trivial⟩) ?_
  rintro (_ | value) told
  · rw [unread]
    exact fun no => by cases no
  · exact looks value told

theorem kept_ts3IsInputMuted (served : last.Served handle) :
    (terms last).Kept (ts3IsInputMuted handle) fun muted => muted = true → last.MicrophoneOff := by
  unfold ts3IsInputMuted
  refine kept_variable served .inputHardware rfl fun hardware told => ?_
  dsimp only
  split
  · exact fun _ => off_of_told served told ‹_› (by simp)
  refine kept_variable served .inputDeactivated rfl fun deactivated told => ?_
  dsimp only
  split
  · exact fun _ => off_of_told served told ‹_› (by simp)
  refine kept_variable served .inputMuted rfl fun muted told yes => ?_
  exact off_of_told served told (of_decide_eq_true yes) (by simp)

theorem kept_ts3IsOutputMuted (served : last.Served handle) :
    (terms last).Kept (ts3IsOutputMuted handle) fun muted => muted = true → last.SpeakersOff := by
  unfold ts3IsOutputMuted
  refine kept_variable served .outputHardware rfl fun hardware told => ?_
  dsimp only
  split
  · exact fun _ => off_of_told served told ‹_› (by simp)
  refine kept_variable served .outputMuted rfl fun muted told yes => ?_
  exact off_of_told served told (of_decide_eq_true yes) (by simp)

end Wrapper

end JustAnotherVoiceChat.System
