import JustAnotherVoiceChat.PlainUpdate
import JustAnotherVoiceChat.Provenance

set_option autoImplicit false

namespace JustAnotherVoiceChat.System

open Binary Interaction Relation

variable {last : History}

theorem kept_sendPacket {packet : Outgoing} {channelID : UInt8}
    (reports : last.Reports packet channelID) :
    (terms last).Kept (sendPacket packet channelID true) fun _ => True :=
  kept_client.bind fun _ _ => kept_anyway (kept_enet ⟨rfl, reports⟩)

theorem kept_sendProtocolMessage : (terms last).Kept sendProtocolMessage fun _ => True := by
  unfold sendProtocolMessage
  dsimp only
  split
  · trivial
  · exact kept_sendPacket ⟨rfl, rfl⟩

theorem kept_sendHandshake (statusCode : Int32)
    (asked : (∃ response, last.Sent networkProtocolChannel ProtocolResponsePacket.serialize
      response) ∨ ∃ response, last.Invited response) :
    (terms last).Kept (sendHandshake statusCode) fun _ => True := by
  unfold sendHandshake
  apply kept_client.bind
  intro first given
  apply kept_client.bind
  intro second own
  apply kept_ts3GetClientIdentity.bind
  intro identity told
  dsimp only
  split
  · trivial
  · exact kept_sendPacket ⟨rfl, asked, given.gameId, own.teamspeakId, told⟩

theorem kept_sendStatus : (terms last).Kept sendStatus fun _ => True := by
  unfold sendStatus
  apply kept_client.bind
  intro first talked
  apply kept_client.bind
  intro second microphone
  apply kept_client.bind
  intro third speakers
  dsimp only
  split
  · trivial
  · exact kept_sendPacket ⟨rfl, talked.talking, microphone.microphone, speakers.speakers⟩

theorem kept_setTalking {talking : Bool} (spoke : talking = true → last.Spoke) :
    (terms last).Kept (setTalking talking) fun _ => True :=
  kept_then (kept_setClient fun _ sourced => { sourced with talking := spoke }) fun _ =>
  kept_sendStatus

theorem kept_setMicrophoneMuted {muted : Bool} (off : muted = true → last.MicrophoneOff) :
    (terms last).Kept (setMicrophoneMuted muted) fun _ => True :=
  kept_then (kept_setClient fun _ sourced => { sourced with microphone := off }) fun _ =>
  kept_sendStatus

theorem kept_setSpeakersMuted {muted : Bool} (off : muted = true → last.SpeakersOff) :
    (terms last).Kept (setSpeakersMuted muted) fun _ => True :=
  kept_then (kept_setClient fun _ sourced => { sourced with speakers := off }) fun _ =>
  kept_sendStatus

theorem kept_setLink {update : Client → Client} (same : ∀ c, lasting (update c) = lasting c ∧
    ((update c).gameId = c.gameId ∨ (update c).gameId = 0) ∧
      ((update c).teamspeakId = c.teamspeakId ∨ (update c).teamspeakId = 0)) :
    (terms last).Kept (setClient update) fun _ => True := by
  apply kept_setClient
  intro c sourced
  obtain ⟨lasts, gameId, teamspeakId⟩ := same c
  simp only [lasting, Prod.mk.injEq] at lasts
  obtain ⟨channel, talking, microphone, speakers⟩ := lasts
  constructor
  · exact channel ▸ sourced.channel
  · rcases gameId with kept | reset
    · exact kept ▸ sourced.gameId
    · exact .inl reset
  · rcases teamspeakId with kept | reset
    · exact kept ▸ sourced.teamspeakId
    · exact .inl reset
  · exact fun yes => sourced.talking (talking ▸ yes)
  · exact fun yes => sourced.microphone (microphone ▸ yes)
  · exact fun yes => sourced.speakers (speakers ▸ yes)

theorem kept_reset (field : Client.Field) :
    (terms last).Kept (setClient field.reset) fun _ => True := by
  apply kept_setLink
  intro c
  refine ⟨field.reset_lasting c, ?_⟩
  cases field with
  | gameId => exact ⟨.inr rfl, .inl rfl⟩
  | teamspeakId => exact ⟨.inl rfl, .inr rfl⟩
  | client | peer | thread | running | host | port => exact ⟨.inl rfl, .inl rfl⟩

theorem kept_parts : PluginPrograms (fun {_} p => (terms last).Kept p fun _ => True) where
  pure _ := trivial
  bind := kept_then
  load := kept_anyway kept_load

theorem kept_abortThread : (terms last).Kept abortThread fun _ => True :=
  kept_parts.abortThread (fun call _ _ => kept_thread call) (kept_reset .running)
  (kept_reset .thread)

theorem kept_closeConnection : (terms last).Kept closeConnection fun _ => True :=
  kept_parts.closeConnection (fun _ => kept_anyway (kept_enet trivial))
    (fun _ => kept_anyway (kept_enet trivial)) fun field _ => kept_reset field

theorem kept_resetTeamspeak : (terms last).Kept resetTeamspeak fun _ => True := by
  have forgetting : (terms last).Kept (setClient fun c => { c with lastChannelId := 0 })
      fun _ => True :=
    kept_setClient fun _ sourced => { sourced with channel := .inl rfl }
  unfold resetTeamspeak
  apply kept_client.bind
  intro c _
  split
  · trivial
  apply kept_ts3ServerConnectionHandle.bind
  intro serverHandle served
  split
  · trivial
  apply kept_then (kept_anyway (kept_ts3ChannelId served))
  intro channelId
  apply kept_client.bind
  intro c _
  split
  · trivial
  apply kept_client.bind
  intro c sourced
  apply kept_then (kept_ts3MoveToChannel (.inr ⟨sourced.channel, rfl⟩))
  intro moved
  split
  · exact kept_then forgetting fun _ => trivial
  apply kept_then forgetting
  intro _
  apply kept_then kept_ts3ResetClients3DPositions
  intro _
  apply kept_then (kept_discard kept_ts3UnmuteAllClients)
  intro _
  exact kept_discard kept_ts3ResetNickname

theorem kept_close : (terms last).Kept close fun _ => True :=
  kept_then kept_abortThread fun _ => kept_then kept_closeConnection fun _ => kept_resetTeamspeak

theorem kept_service (timeout : Nat) : (terms last).Kept (service timeout)
    fun serviced => ∃ host, last.Told (.enet (.serviceEnd host timeout)) serviced := by
  unfold service
  apply kept_client.bind
  intro c _
  refine kept_then (kept_anyway (kept_enet trivial)) fun _ => ?_
  refine Terms.Kept.mono ?_ (kept_enet trivial)
  exact fun serviced told => ⟨c.client, told⟩

theorem kept_links : LinkPrograms (fun {_} p => (terms last).Kept p fun _ => True) where
  toPluginPrograms := kept_parts
  enet call serving := by
    cases call with
    | serviceBegin | serviceEnd | peerDisconnect | packetDestroy =>
      exact kept_anyway (kept_enet trivial)
    | _ => cases serving
  reset field _ := kept_reset field
  await round := Terms.Kept.repeatUntil (round.mono fun _ _ _ _ => trivial)
  abortThread := kept_abortThread
  close := kept_close

theorem kept_disconnect (status : UInt32) :
    (terms last).Kept (disconnect status) fun _ => True :=
  kept_links.disconnect status

section Messages

variable {payload : Bytes}

theorem kept_handleProtocolResponse (heard : last.Heard networkProtocolChannel payload) :
    (terms last).Kept (handleProtocolResponse payload) fun _ => True := by
  unfold handleProtocolResponse
  cases received : receive ProtocolResponsePacket.serialize payload with
  | none => trivial
  | some packet =>
    dsimp only
    split
    · exact kept_then (kept_disconnect _) fun _ => trivial
    split
    · exact kept_then (kept_disconnect _) fun _ => trivial
    · exact kept_sendHandshake _ (.inl ⟨packet, payload, heard, received⟩)

section Invited

variable {packet : HandshakeResponsePacket} (invited : last.Invited packet)

include invited

theorem kept_enterChannel {serverHandle lastChannelId : UInt64} (served : last.Served serverHandle)
    (own : last.OwnChannel lastChannelId) (tempMute : Bool) :
    (terms last).Kept (enterChannel serverHandle lastChannelId packet.channelId tempMute)
      fun _ => True := by
  have entering : (terms last).Kept (do
      let teamspeakId ← ts3ClientId serverHandle
      setClient fun c => { c with teamspeakId := teamspeakId }
      setClient fun c => { c with lastChannelId := lastChannelId }
      sendHandshake statusCodeOk
      let microphoneMuted ← ts3IsInputMuted serverHandle
      setClient fun c => { c with microphoneMuted := microphoneMuted }
      let speakersMuted ← ts3IsOutputMuted serverHandle
      setClient fun c => { c with speakersMuted := speakersMuted }
      sendStatus
      discard ts3ResetListenerPosition
      discard (ts3Set3DSettings 0x40000000 0x40400000)) fun _ => True := by
    apply (kept_ts3ClientId served).bind
    intro id ownId
    refine kept_then (kept_setClient fun _ sourced => { sourced with teamspeakId := ownId }) ?_
    intro _
    refine kept_then (kept_setClient fun _ sourced => { sourced with channel := own }) ?_
    intro _
    refine kept_then (kept_sendHandshake _ (.inr ⟨packet, invited⟩)) ?_
    intro _
    apply (kept_ts3IsInputMuted served).bind
    intro microphoneMuted microphone
    refine kept_then (kept_setClient fun _ sourced => { sourced with microphone := microphone }) ?_
    intro _
    apply (kept_ts3IsOutputMuted served).bind
    intro speakersMuted speakers
    refine kept_then (kept_setClient fun _ sourced => { sourced with speakers := speakers }) ?_
    intro _
    apply kept_then kept_sendStatus
    intro _
    apply kept_then (kept_discard (kept_ts3ResetListenerPosition invited))
    intro _
    exact kept_discard (kept_ts3Set3DSettings invited)
  unfold enterChannel
  apply (kept_ts3ClientsInChannel (.inr ⟨packet, invited, rfl⟩)).bind
  intro clients listed
  refine kept_then (Terms.Kept.forM fun id member => kept_discard (kept_mute ?_)) ?_
  · intro other same
    rw [SortedSet.mem_singleton.mp same]
    exact .inr (.inl (listed id member))
  intro _
  split
  · apply kept_then (kept_sleepFor 500)
    intro _
    apply kept_then (kept_discard (kept_ts3SetOutputMuted invited served false))
    intro _
    exact entering
  · exact entering

theorem kept_handshakeAccepted : (terms last).Kept (do
    if !(← ts3VerifyServer packet.teamspeakServerUniqueIdentifier) then
      sendHandshake statusCodeNotConnectedToServer
      return ()
    let serverHandle ← ts3ServerConnectionHandle
    let lastChannelId ← ts3ChannelId serverHandle
    let tempMute := !(← ts3IsOutputMuted serverHandle)
    if tempMute then
      discard (ts3SetOutputMuted serverHandle true)
      sleepFor 500
    if !(← ts3MoveToChannel packet.channelId packet.channelPassword) then
      sendHandshake statusCodeNotMovedToChannel
      return ()
    enterChannel serverHandle lastChannelId packet.channelId tempMute) fun _ => True := by
  have refusing (statusCode : Int32) : (terms last).Kept (do
      sendHandshake statusCode
      return ()) fun _ => True :=
    kept_then (kept_sendHandshake _ (.inr ⟨packet, invited⟩)) fun _ => trivial
  apply kept_then (kept_ts3VerifyServer invited)
  intro found
  split
  · exact refusing _
  apply kept_ts3ServerConnectionHandle.bind
  intro serverHandle served
  apply (kept_ts3ChannelId served).bind
  intro lastChannelId own
  apply kept_then (kept_anyway (kept_ts3IsOutputMuted served))
  intro outputMuted
  dsimp only
  have moving : (terms last).Kept (do
      if !(← ts3MoveToChannel packet.channelId packet.channelPassword) then
        sendHandshake statusCodeNotMovedToChannel
        return ()
      enterChannel serverHandle lastChannelId packet.channelId (!outputMuted)) fun _ => True := by
    apply kept_then (kept_ts3MoveToChannel (.inl ⟨packet, invited, rfl, rfl⟩))
    intro moved
    split
    · exact refusing _
    · exact kept_enterChannel invited served own _
  split
  · apply kept_then (kept_discard (kept_ts3SetOutputMuted invited served true))
    intro _
    apply kept_then (kept_sleepFor 500)
    intro _
    exact moving
  · exact moving

end Invited

theorem kept_handleHandshakeResponse (heard : last.Heard networkHandshakeChannel payload) :
    (terms last).Kept (handleHandshakeResponse payload) fun _ => True := by
  unfold handleHandshakeResponse
  cases received : receive HandshakeResponsePacket.serialize payload with
  | none => trivial
  | some packet =>
    dsimp only
    split
    · trivial
    rename_i ok
    exact kept_handshakeAccepted ⟨⟨payload, heard, received⟩, not_not.mp ok⟩

theorem kept_setClientPositions {updates : List ClientPositionUpdate}
    (placed : ∀ update ∈ updates, last.Placed update.teamspeakId ⟨update.x, update.y, update.z⟩) :
    (terms last).Kept (setClientPositions updates) fun _ => True :=
  Terms.Kept.forM fun update member =>
    kept_discard (kept_ts3SetClientPosition (.inl (placed update member)))

theorem kept_handleUpdateMessage (heard : last.Heard networkUpdateChannel payload) :
    (terms last).Kept (handleUpdateMessage payload) fun _ => True := by
  unfold handleUpdateMessage
  cases received : receive UpdatePacket.serialize payload with
  | none => trivial
  | some packet =>
    have sent : last.Sent networkUpdateChannel UpdatePacket.serialize packet :=
      ⟨payload, heard, received⟩
    have updated {id : AnyID} {muted : Bool}
        (member : (id, muted) ∈ PlainUpdate.flags packet.audioUpdates.items) :
        last.Updated id muted := by
      obtain ⟨update, among, same⟩ := List.mem_map.mp member
      obtain ⟨rfl, rfl⟩ := Prod.mk.inj same
      exact ⟨packet, update, sent, among, rfl, rfl⟩
    have split (id : AnyID) := PlainUpdate.mem_splitAudioUpdates packet.audioUpdates.items id
    dsimp only
    apply kept_then (kept_discard (kept_mute ?_))
    · intro _
      apply kept_then (kept_discard (kept_unmute ?_))
      · intro _
        apply kept_setClientPositions
        intro update member
        exact ⟨update, .inl ⟨packet, sent, member⟩, rfl, rfl⟩
      · exact fun id member => .inl (updated ((split id).2.mp member))
    · exact fun id member => .inl (updated ((split id).1.mp member))

theorem kept_handleControlMessage (heard : last.Heard networkControlChannel payload) :
    (terms last).Kept (handleControlMessage payload) fun _ => True := by
  unfold handleControlMessage
  cases received : receive ControlPacket.serialize payload with
  | none => trivial
  | some packet =>
    dsimp only
    split
    · exact kept_discard (kept_ts3SetNickname ⟨payload, heard, received⟩)
    · trivial

theorem kept_handlePositionMessage (heard : last.Heard networkPositionChannel payload) :
    (terms last).Kept (handlePositionMessage payload) fun _ => True := by
  unfold handlePositionMessage
  cases received : receive PositionPacket.serialize payload with
  | none => trivial
  | some packet =>
    apply kept_setClientPositions
    intro update member
    exact ⟨update, .inr ⟨packet, ⟨payload, heard, received⟩, member⟩, rfl, rfl⟩

theorem kept_handleMessage {channelID : UInt8} (heard : last.Heard channelID payload) :
    (terms last).Kept (handleMessage channelID payload) fun _ => True := by
  unfold handleMessage
  split
  · exact kept_handleProtocolResponse (‹channelID = _› ▸ heard)
  split
  · exact kept_handleHandshakeResponse (‹channelID = _› ▸ heard)
  split
  · exact kept_handleUpdateMessage (‹channelID = _› ▸ heard)
  split
  · exact kept_handleControlMessage (‹channelID = _› ▸ heard)
  split
  · exact kept_handlePositionMessage (‹channelID = _› ▸ heard)
  · trivial

end Messages

theorem kept_handleEvent {serviced : Serviced} {host : Option HostId} (some : 0 < serviced.code)
    (told : last.Told (.enet (.serviceEnd host 100)) serviced) :
    (terms last).Kept (handleEvent serviced.event) fun _ => True := by
  obtain ⟨code, event⟩ := serviced
  cases event with
  | none | connect => trivial
  | disconnect =>
    unfold handleEvent
    exact kept_setLink fun _ => ⟨rfl, .inl rfl, .inl rfl⟩
  | receive channelID payload =>
    have heard : last.Heard channelID payload := by
      obtain ⟨thread, entry⟩ := told
      exact ⟨_, entry, if_pos some⟩
    apply kept_then (kept_anyway kept_client)
    intro c
    split
    · exact kept_anyway (kept_enet trivial)
    · exact kept_then (kept_handleMessage heard) fun _ => kept_anyway (kept_enet trivial)

theorem kept_updateRound : (terms last).Kept updateRound fun _ => True := by
  unfold updateRound
  apply kept_then (kept_anyway kept_client)
  intro c
  split
  · trivial
  apply kept_then (kept_anyway kept_client)
  intro c
  split
  · trivial
  apply (kept_service 100).bind
  intro serviced told
  obtain ⟨host, told⟩ := told
  split
  · exact kept_then (kept_handleEvent ‹_› told) fun _ => trivial
  split
  · exact kept_then (kept_setLink fun _ => ⟨rfl, .inl rfl, .inl rfl⟩) fun _ => trivial
  · trivial

theorem kept_update : (terms last).Kept update fun _ => True := by
  apply kept_then (Terms.Kept.repeatUntil (kept_updateRound.mono fun _ _ _ _ => trivial))
  intro _
  exact kept_close

section Connecting

variable {host : StdString} {port uniqueIdentifier : UInt16}
  (requested : last.Requested host port uniqueIdentifier)

include requested

theorem kept_createConnection : (terms last).Kept (createConnection host port) fun _ => True := by
  have closing : (terms last).Kept (do
      close
      return false) fun _ => True := kept_then kept_close fun _ => trivial
  unfold createConnection
  refine kept_then (kept_anyway (kept_enet trivial)) fun created => ?_
  refine kept_then (kept_setLink fun _ => ⟨rfl, .inl rfl, .inl rfl⟩) fun _ => ?_
  apply kept_then (kept_anyway kept_client)
  intro c
  split
  · exact kept_then (kept_setLink fun _ => ⟨rfl, .inl rfl, .inl rfl⟩) fun _ => trivial
  refine Terms.Kept.bind (kept_enet ⟨host, port, uniqueIdentifier, requested, rfl⟩) ?_
  intro resolved told
  apply kept_then (kept_anyway kept_client)
  intro c
  have reaches : last.Reaches (.hostConnect c.client resolved.address port networkChannels) :=
    ⟨host, uniqueIdentifier, resolved, requested, told, rfl⟩
  apply kept_then (kept_anyway (kept_enet reaches))
  intro peer
  refine kept_then (kept_setLink fun _ => ⟨rfl, .inl rfl, .inl rfl⟩) fun _ => ?_
  apply kept_then (kept_anyway kept_client)
  intro c
  split
  · exact closing
  apply kept_then (kept_anyway (kept_service 5000))
  intro serviced
  split
  · exact closing
  · trivial

theorem kept_startUpdate :
    (terms last).Kept (startUpdate host port uniqueIdentifier) fun _ => True := by
  unfold startUpdate
  apply kept_then kept_abortThread
  intro _
  refine kept_then (kept_setClient fun _ sourced => ?_) fun _ => ?_
  · exact { sourced with gameId := .inr ⟨host, port, requested⟩ }
  refine kept_then (kept_setLink fun _ => ⟨rfl, .inl rfl, .inl rfl⟩) fun _ => ?_
  refine kept_then (kept_setLink fun _ => ⟨rfl, .inl rfl, .inl rfl⟩) fun _ => ?_
  refine kept_then (kept_reset .teamspeakId) fun _ => ?_
  refine kept_then (kept_setLink fun _ => ⟨rfl, .inl rfl, .inl rfl⟩) fun _ => ?_
  refine kept_then (kept_thread .spawn) fun started => ?_
  exact kept_setLink fun _ => ⟨rfl, .inl rfl, .inl rfl⟩

theorem kept_connect :
    (terms last).Kept (connect host port uniqueIdentifier) fun _ => True :=
  kept_links.connect host port uniqueIdentifier (kept_createConnection requested)
    (kept_startUpdate requested) kept_sendProtocolMessage

end Connecting

theorem kept_useClient {method : Plugin Unit} (kept : (terms last).Kept method fun _ => True) :
    (terms last).Kept (useClient method) fun _ => True :=
  kept_parts.useClient kept_object kept

theorem kept_ifOpen {method : Plugin Unit} (kept : (terms last).Kept method fun _ => True) :
    (terms last).Kept (do
      if !(← clientIsOpen) then
        return ()
      useClient method) fun _ => True :=
  kept_parts.whileOpen kept_object kept

theorem kept_isIngame : (terms last).Kept justAnotherVoiceChatIsIngame fun _ => True :=
  kept_parts.ingame kept_object

theorem sourced_new (port : UInt16) : last.SourcedClient (.new port) := by
  constructor
  · exact .inl rfl
  · exact .inl rfl
  · exact .inl rfl
  all_goals exact fun no => by cases no

theorem kept_init (initialized : Bool) (port : UInt16) :
    (terms last).Kept (HostCall.init initialized port).program fun _ => True := by
  have making : (terms last).Kept (setClient fun _ => .new port) fun _ => True :=
    kept_setClient fun _ _ => sourced_new port
  have starts := kept_parts.start kept_object kept_close kept_setGlobals initialized making
  unfold HostCall.program ts3pluginInit
  refine kept_then (kept_then starts fun started => ?_) fun _ => trivial
  split
  · trivial
  · trivial

theorem kept_shutdown : (terms last).Kept ts3pluginShutdown fun _ => True :=
  kept_parts.stop kept_object kept_close kept_setGlobals (kept_disconnect disconnectStatusOk)

theorem kept_talkStatus {handle : UInt64} {status : TalkStatus} {clientID : AnyID}
    (began : last.Began (.host (.talkStatus handle status clientID))) :
    (terms last).Kept (ts3pluginOnTalkStatusChangeEvent handle status clientID)
      fun _ => True := by
  unfold ts3pluginOnTalkStatusChangeEvent
  apply kept_ts3ServerConnectionHandle.bind
  intro current served
  split
  · trivial
  rename_i here
  rw [← not_not.mp here] at served
  apply (kept_ts3ClientId served).bind
  intro ownId own
  split
  · trivial
  rename_i same
  apply kept_ifOpen
  apply kept_setTalking
  intro talking
  rw [← not_not.mp same] at own
  exact ⟨handle, clientID, served, own, of_decide_eq_true talking ▸ began⟩

theorem kept_selfVariable {handle : UInt64} {flag : SelfVariable} {newValue : CString}
    (began : last.Began (.host (.selfVariable handle flag newValue))) :
    (terms last).Kept (ts3pluginOnClientSelfVariableUpdateEvent handle flag newValue)
      fun _ => True := by
  unfold ts3pluginOnClientSelfVariableUpdateEvent
  apply kept_ts3ServerConnectionHandle.bind
  intro current served
  split
  · trivial
  rename_i here
  rw [← not_not.mp here] at served
  dsimp only
  split
  · apply kept_ifOpen
    apply kept_setMicrophoneMuted
    exact fun mute => ⟨handle, served, .inl ⟨newValue, began, of_decide_eq_true mute⟩⟩
  · apply kept_ifOpen
    apply kept_setSpeakersMuted
    exact fun mute => ⟨handle, served, .inl ⟨newValue, began, of_decide_eq_true mute⟩⟩
  · trivial

theorem kept_clientMove {handle : UInt64} {clientID : AnyID} {oldChannelID newChannelID : UInt64}
    (began : last.Began (.host (.clientMove handle clientID oldChannelID newChannelID))) :
    (terms last).Kept (ts3pluginOnClientMoveEvent handle clientID oldChannelID newChannelID)
      fun _ => True := by
  unfold ts3pluginOnClientMoveEvent
  apply kept_ts3ServerConnectionHandle.bind
  intro current served
  split
  · trivial
  rename_i here
  rw [← not_not.mp here] at served
  have moved : last.Moved clientID := ⟨handle, oldChannelID, newChannelID, served, began⟩
  have only : ∀ id ∈ SortedSet.singleton clientID, last.Moved id := by
    intro id member
    rw [SortedSet.mem_singleton.mp member]
    exact moved
  apply kept_then (kept_anyway (kept_ts3ClientId served))
  intro ownId
  split
  · trivial
  apply kept_then kept_isIngame
  intro ingame
  split
  · trivial
  apply kept_then (kept_anyway (kept_ts3ChannelId served))
  intro ownChannel
  split
  · refine kept_then (kept_discard (kept_mute ?_)) fun _ => trivial
    exact fun id member => .inr (.inr (only id member))
  split
  · apply kept_then (kept_discard (kept_ts3SetClientPosition (.inr ⟨rfl, .inr moved⟩)))
    intro _
    refine kept_then (kept_discard (kept_unmute ?_)) fun _ => trivial
    exact fun id member => .inr (.inl (only id member))
  · trivial

theorem kept_host {call : HostCall} (began : last.Began (.host call)) :
    (terms last).Kept call.program fun _ => True := by
  cases call with
  | init initialized port => exact kept_init initialized port
  | shutdown => exact kept_shutdown
  | talkStatus => exact kept_talkStatus began
  | selfVariable => exact kept_selfVariable began
  | clientMove => exact kept_clientMove began
  | isIngame => exact kept_discard kept_isIngame
  | connect host port uniqueIdentifier =>
    refine kept_then ?_ fun _ => trivial
    unfold justAnotherVoiceChatConnect
    apply kept_then (kept_anyway kept_load)
    intro m
    dsimp only
    split
    · trivial
    apply kept_then (kept_object _)
    intro _
    exact kept_connect began

theorem kept_task {task : Task} (began : last.Began task) :
    (terms last).Kept task.program fun _ => True := by
  cases task with
  | host call => exact kept_host began
  | disconnect =>
    unfold Task.program justAnotherVoiceChatDisconnect
    apply kept_then (kept_anyway kept_load)
    intro m
    split
    · trivial
    · exact kept_useClient (kept_disconnect _)
  | update => exact kept_then kept_update fun _ => kept_thread .exit

theorem scheduling_fair : scheduling.Fair State.Grows (fun last => terms last.history)
    fun last s => last.history.Sourced s.world.memory where
  refl _ := List.suffix_rfl
  trans first second := List.IsSuffix.trans first second
  steps := runs_grows
  begun := begins_grows
  moved := beside_grows
  call {last i op s reply t} within sourced may step := by
    have memory := runs_memory step
    obtain ⟨w, step, rfl⟩ := step
    cases op with
    | load =>
      obtain ⟨rfl, rfl⟩ := step
      exact ⟨sourced, sourced⟩
    | store update => exact ⟨trivial, memory ▸ may _ sourced⟩
    | sleep | thread => exact ⟨trivial, memory ▸ sourced⟩
    | external call => exact ⟨⟨i, within.subset List.mem_cons_self⟩, memory ▸ sourced⟩
  begin {last i p s t} within sourced begins := by
    obtain ⟨task, rfl, -, rfl⟩ := begins
    exact ⟨kept_task ⟨i, within.subset List.mem_cons_self⟩, sourced⟩
  beside {last s t} _ sourced moved := by
    obtain ⟨teamspeak, rfl⟩ := moved
    exact sourced

theorem Fresh.keeps {c : Threads} (fresh : Fresh c) (last : State) :
    Scheduling.Keeps (fun last => terms last.history)
      (fun last s => last.history.Sourced s.world.memory) last c := by
  obtain ⟨⟨port, client⟩, wrapper, -, idle⟩ := fresh
  refine ⟨fun i => ?_, ?_, ?_⟩
  · rw [idle i]
    trivial
  · rw [wrapper]
    exact ⟨.inl rfl, by simp, .inl rfl⟩
  · rw [client]
    exact sourced_new port

theorem Reached.keeps {c : Threads} (reached : Reached c) (last : State)
    (within : c.state.Grows last) : Scheduling.Keeps (fun last => terms last.history)
      (fun last s => last.history.Sourced s.world.memory) last c := by
  obtain ⟨start, fresh, run⟩ := reached
  exact Scheduling.Keeps.run scheduling_fair fresh.keeps run last within

inductive Turned (c d : Threads) : Prop where
  | still (same : d.state = c.state)
  | quiet (self : ThreadId) (op : Op) (reply : op.Reply) (inside : ∀ call, op ≠ .external call)
      (step : runs self op c.state reply d.state)
  | asks (self : ThreadId) (call : External) (reply : call.Reply)
      (step : runs self (.external call) c.state reply d.state)
      (grounds : c.state.history.Grounds call)

theorem Reached.turned {c d : Threads} (reached : Reached c) (turn : Turn scheduling.sem c d) :
    Turned c d := by
  have keeps := reached.keeps c.state List.suffix_rfl
  cases turn with
  | mk i move =>
    rcases (keeps.kept i).next move with still | ⟨op, reply, may, step⟩
    · exact .still still
    cases op with
    | load | store | thread | sleep => exact .quiet i _ reply (by simp) step
    | external call => exact .asks i call reply step may

def Grounded (older : History) : Happening → Prop
  | .answered e => older.Grounds e.call
  | .began _ _ => True

theorem Turned.lawful {c d : Threads} (turned : Turned c d)
    (lawful : Trace.Lawful Grounded c.state.history) : Trace.Lawful Grounded d.state.history := by
  cases turned with
  | still same => exact same ▸ lawful
  | quiet self op reply inside step =>
    obtain ⟨w, -, same⟩ := step
    rw [same]
    cases op with
    | load | store | thread | sleep => exact lawful
    | external call => exact absurd rfl (inside call)
  | asks self call reply step grounds =>
    obtain ⟨w, -, same⟩ := step
    rw [same]
    exact ⟨grounds, lawful⟩

theorem history_grounded {c : Threads} (reached : Reached c) :
    Trace.Lawful Grounded c.state.history := by
  obtain ⟨start, fresh, run⟩ := reached
  induction run with
  | refl =>
    rw [fresh.history]
    trivial
  | tail earlier step ih =>
    cases step with
    | turn turn => exact (Reached.turned ⟨start, fresh, earlier⟩ turn).lawful ih
    | begin _ begins =>
      obtain ⟨task, -, -, rfl⟩ := begins
      exact ⟨trivial, ih⟩
    | beside moved =>
      obtain ⟨teamspeak, rfl⟩ := moved
      exact ih

/-- Whatever the interleaving, each request to TeamSpeak goes to a server that a successful
handshake named, and is made of what the voice server, TeamSpeak or an event told before. -/
theorem requests_grounded {c : Threads} (reached : Reached c) (newer older : History)
    (thread : ThreadId) (call : TeamSpeakCall) (reply : call.Reply)
    (asked : c.state.history = newer ++ .answered ⟨thread, .teamspeak call, reply⟩ :: older) :
    older.Warrants call := by
  have lawful := history_grounded reached
  rw [asked] at lawful
  exact (Trace.lawful_split lawful).1

theorem requests_grounded_back :
    History.Warrants (left.history.drop 8) (.requestClientMove 1 1 1 (cStr .empty)) :=
  requests_grounded reached_left (left.history.take 7) (left.history.drop 8) 5 _ true rfl

/-- Whatever the interleaving, the plugin connects only to where it was asked to, and what it tells
the voice server of the user comes from TeamSpeak or from an event. -/
theorem sending_grounded {c : Threads} (reached : Reached c) (newer older : History)
    (thread : ThreadId) (call : EnetCall) (reply : call.Reply)
    (asked : c.state.history = newer ++ .answered ⟨thread, .enet call, reply⟩ :: older) :
    older.Reaches call := by
  have lawful := history_grounded reached
  rw [asked] at lawful
  exact (Trace.lawful_split lawful).1

set_option maxRecDepth 2000 in
theorem sending_grounded_handshake : History.Reaches (left.history.drop 24)
    (.peerSend (some 0) networkHandshakeChannel (.handshake ⟨1, 1, statusCodeOk, .empty⟩) true) :=
  sending_grounded reached_left (left.history.take 23) (left.history.drop 24) 5 _ () rfl

def undisturbed (handle : UInt64) : Scheduling Op Op.Reply State ThreadId :=
  ⟨runs, begins, fun s t => beside s t ∧ t.world.teamspeak handle = s.world.teamspeak handle⟩

theorem undisturbed_step {handle : UInt64} {c d : Threads} (step : (undisturbed handle).Step c d) :
    scheduling.Step c d := by
  cases step with
  | turn turn => exact .turn turn
  | begin idle begins => exact .begin idle begins
  | beside moved => exact .beside moved.1

theorem Turned.elsewhere {c d : Threads} (turned : Turned c d) {handle : UInt64}
    (unserved : ¬ c.state.history.Served handle) :
    d.state.world.teamspeak handle = c.state.world.teamspeak handle := by
  cases turned with
  | still same => rw [same]
  | quiet self op reply inside step =>
    obtain ⟨w, step, same⟩ := step
    rw [same]
    cases op with
    | load => rw [step.2]
    | store update | sleep milliseconds => rw [show w = _ from step]
    | thread call => rw [(threading_world step).2.1]
    | external call => exact absurd rfl (inside call)
  | asks self call reply step grounds =>
    obtain ⟨w, ⟨-, v, stepped, rfl⟩, same⟩ := step
    rw [same]
    cases call with
    | teamspeak call =>
      obtain ⟨t, stepped, rfl⟩ := stepped
      exact History.Warrants.elsewhere grounds stepped unserved
    | enet call =>
      obtain ⟨e, -, rfl⟩ := stepped
      rfl
    | object call =>
      obtain rfl : v = _ := stepped
      rfl

theorem History.Named.later {older newer : History} {handle : UInt64} (grown : older <:+ newer)
    (named : older.Named handle) : newer.Named handle := by
  obtain ⟨packet, uid, invited, ⟨thread, told⟩, same⟩ := named
  obtain ⟨⟨payload, ⟨e, heard, message⟩, received⟩, ok⟩ := invited
  exact ⟨packet, uid, ⟨⟨payload, ⟨e, grown.subset heard, message⟩, received⟩, ok⟩,
    ⟨thread, grown.subset told⟩, same⟩

/-- Whatever the interleaving, the plugin leaves every server connection as it is that no successful
handshake has named. -/
theorem unnamed_untouched {c d : Threads} {handle : UInt64} (reached : Reached c)
    (run : ReflTransGen (undisturbed handle).Step c d) (nonzero : handle ≠ 0)
    (unnamed : ¬ d.state.history.Named handle) :
    d.state.world.teamspeak handle = c.state.world.teamspeak handle := by
  induction run with
  | refl => rfl
  | tail earlier step ih =>
    rename_i b d
    have between : Reached b := by
      obtain ⟨start, fresh, before⟩ := reached
      exact ⟨start, fresh, before.trans (earlier.lift id fun _ _ => undisturbed_step)⟩
    have grown : b.state.Grows d.state :=
      (between.keeps b.state List.suffix_rfl).grown scheduling_fair (undisturbed_step step)
    have still : ¬ b.state.history.Named handle := fun named => unnamed (named.later grown)
    rw [← ih still]
    cases step with
    | turn turn => exact (between.turned turn).elsewhere fun served => served.elim nonzero still
    | begin _ begins =>
      obtain ⟨task, -, -, rfl⟩ := begins
      rfl
    | beside moved => exact moved.2

def asksFor (handle : UInt64) : Happening → Bool
  | .answered ⟨_, .teamspeak (.getServerUniqueIdentifier asked), _⟩ => asked = handle
  | _ => false

theorem unnamed_of_unasked {h : History} {handle : UInt64}
    (unasked : h.all (!asksFor handle ·) = true) : ¬ h.Named handle := by
  rintro ⟨packet, uid, -, ⟨thread, told⟩, -⟩
  have asked := List.all_eq_true.mp unasked _ told
  simp [asksFor] at asked

theorem unnamed_untouched_two : left.world.teamspeak 2 = unloaded.world.teamspeak 2 :=
  unnamed_untouched reached_unloaded run_left (by decide) (unnamed_of_unasked (by decide))

end JustAnotherVoiceChat.System
