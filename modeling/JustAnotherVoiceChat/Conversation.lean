import JustAnotherVoiceChat.Library.Dialogue
import JustAnotherVoiceChat.System

set_option autoImplicit false

namespace JustAnotherVoiceChat

open Binary Interaction Relation Computability

namespace System

-- A call of ENet and its reply; the pointers are left out.
inductive Sign where
  | hostCreate (created : Option HostId)
  | addressSetHost
  | hostConnect (peer : Option PeerId)
  | serviceBegin (timeout : Nat)
  | serviceEnd (timeout : Nat) (serviced : Serviced)
  | peerDisconnect (status : UInt32)
  | peerReset
  | hostDestroy
  | packetDestroy
  | peerSend (channelID : UInt8) (packet : Outgoing)
deriving DecidableEq

def sign : (call : EnetCall) → call.Reply → Sign
  | .hostCreate _ _, created => .hostCreate created
  | .addressSetHost _, _ => .addressSetHost
  | .hostConnect _ _ _ _, peer => .hostConnect peer
  | .serviceBegin _ timeout, _ => .serviceBegin timeout
  | .serviceEnd _ timeout, serviced => .serviceEnd timeout serviced
  | .peerDisconnect _ status, _ => .peerDisconnect status
  | .peerReset _, _ => .peerReset
  | .hostDestroy _, _ => .hostDestroy
  | .packetDestroy, _ => .packetDestroy
  | .peerSend _ channelID packet _, _ => .peerSend channelID packet

def notes : (op : Op) → op.Reply → List Sign
  | .external (.enet call), reply => [sign call reply]
  | _, _ => []

def serviced (timeout : Nat) (outcome : Serviced) : Language Sign :=
  {[.serviceBegin timeout, .serviceEnd timeout outcome]}

def sends (channelID : UInt8) (packets : Outgoing → Prop) : Language Sign :=
  {word | ∃ packet, packets packet ∧ word = [.peerSend channelID packet]}

def handshakes (statusCode : Int32) : Language Sign := sends networkHandshakeChannel fun packet =>
  ∃ p : HandshakePacket, packet = .handshake p ∧ p.statusCode = statusCode

def statuses : Language Sign := sends networkStatusChannel fun packet => ∃ p, packet = .status p

def greetings : Language Sign := sends networkProtocolChannel (· = .protocol ⟨protocolVersionMajor,
  protocolVersionMinor, protocolMinVersionMajor, protocolMinVersionMinor⟩)

def closing : Language Sign := (1 + {[.peerReset]}) * (1 + {[.hostDestroy]})

def discarding : Event → Language Sign
  | .receive _ _ => {[.packetDestroy]}
  | _ => 1

def draining : Bool → Language Sign
  | false => ⨆ outcome : {outcome : Serviced // 0 < outcome.code ∧ outcome.event ≠ .disconnect},
      serviced 3000 outcome * discarding outcome.1.event
  | true => {word | word = [] ∨ ∃ outcome : Serviced,
      (outcome.code ≤ 0 ∨ outcome.event = .disconnect) ∧
      word = [.serviceBegin 3000, .serviceEnd 3000 outcome]}

def leaving (status : UInt32) : Language Sign :=
  1 + {[.peerDisconnect status]} * ((draining false)∗ * draining true) * closing

def answering : Cause → Language Sign
  | .protocolAccepted => handshakes statusCodeOk
  | .protocolRejected status => leaving status
  | .handshakeAccepted => handshakes statusCodeNotConnectedToServer +
    handshakes statusCodeNotMovedToChannel + handshakes statusCodeOk * statuses
  | .update | .control | .position | .nothing => 1

def event : Event → Language Sign
  | .receive channelID payload => (1 + answering (cause channelID payload)) * {[.packetDestroy]}
  | _ => 1

def rounding : Language Sign :=
  ⨆ outcome, serviced 100 outcome * if 0 < outcome.code then event outcome.event else 1

def updating : Language Sign := rounding∗ * closing

def attempting : Language Sign :=
  {word | ∃ created peer, word = [.hostCreate created, .addressSetHost, .hostConnect peer]}

def awaiting (connected : Bool) : Language Sign :=
  {word | ∃ outcome : Serviced, (connected = true ↔ 0 < outcome.code ∧ outcome.event = .connect) ∧
    word = [.serviceBegin 5000, .serviceEnd 5000 outcome]}

def hostless : Language Sign := {word | ∃ created, word = [.hostCreate created]}

def creating : Bool → Language Sign
  | false => hostless + attempting * (1 + awaiting false) * closing
  | true => attempting * awaiting true

def connecting : Language Sign :=
  1 + (1 + leaving disconnectStatusReconnect) * (creating false + creating true * greetings)

def connects : (connected : Bool) → Language Sign
  | false => (1 + leaving disconnectStatusReconnect) * creating false
  | true => 1 + (1 + leaving disconnectStatusReconnect) * (creating true * greetings)

def dialogue : Task → Language Sign
  | .host (.init _ _) => closing
  | .host .shutdown => leaving disconnectStatusOk * closing
  | .host (.talkStatus _ _ _) | .host (.selfVariable _ _ _) => 1 + statuses
  | .host (.clientMove _ _ _ _) | .host .isIngame => 1
  | .host (.connect _ _ _) => connecting
  | .disconnect => leaving disconnectStatusOk
  | .update => updating

def Quiet : Op → Prop
  | .external (.enet _) => False
  | _ => True

theorem notes_quiet (op : Op) (reply : op.Reply) (quiet : Quiet op) : notes op reply = [] := by
  cases op with
  | load | store | thread | sleep => rfl
  | external call =>
    cases call with
    | teamspeak | object => rfl
    | enet => cases quiet

theorem Quiet.ofWrapper {op : Op} (ofWrapper : op.OfWrapper) : Quiet op := by
  apply ofWrapper.elim
  · trivial
  · exact fun _ => trivial
  · exact fun _ _ => trivial
  · exact fun _ => trivial

section Quiet

open Program

variable {α : Type}

theorem quiet_wrapper {p : Plugin α} (calls : p.Calls Op.OfWrapper) : p.Calls Quiet :=
  calls.mono fun _ => Quiet.ofWrapper

theorem quiet_load : load.Calls Quiet := ⟨trivial, fun _ => trivial⟩

theorem quiet_setClient (update : Client → Client) : (setClient update).Calls Quiet :=
  ⟨trivial, fun _ => trivial⟩

theorem quiet_setGlobals (update : Globals → Globals) : (setGlobals update).Calls Quiet :=
  ⟨trivial, fun _ => trivial⟩

theorem quiet_thread (call : ThreadCall) : (thread call).Calls Quiet :=
  ⟨trivial, fun _ => trivial⟩

theorem quiet_object (call : ObjectCall) : (object call).Calls Quiet :=
  ⟨trivial, fun _ => trivial⟩

theorem quiet_parts : PartPrograms (fun {_} p => p.Calls Quiet) :=
  .of_wrapper Calls.bind quiet_wrapper

theorem quiet_abortThread : abortThread.Calls Quiet :=
  quiet_parts.abortThread (fun call _ _ => quiet_thread call) (quiet_setClient _)
  (quiet_setClient _)

theorem quiet_startUpdate (host : StdString) (port uniqueIdentifier : UInt16) :
    (startUpdate host port uniqueIdentifier).Calls Quiet :=
  quiet_parts.startUpdate quiet_abortThread (quiet_thread .spawn) (fun _ => quiet_setClient _) _ _ _

theorem quiet_resetTeamspeak : resetTeamspeak.Calls Quiet :=
  quiet_parts.resetTeamspeak (quiet_setClient _)

theorem follows_quiet {p : Plugin α} (some : α) (calls : p.Calls Quiet) :
    Follows notes p fun _ => 1 :=
  .silent some calls notes_quiet

end Quiet

def blank : Memory := ⟨.new 0, ⟨0, .empty, .empty⟩, ⟨.null, .null⟩⟩

theorem follows_wrapper {α : Type} {p : Plugin α} (some : α) (calls : p.Calls Op.OfWrapper) :
    Follows notes p fun _ => 1 := follows_quiet some (quiet_wrapper calls)

theorem follows_load : Follows notes load fun _ => 1 := follows_quiet blank quiet_load

theorem follows_client : Follows notes client fun _ => 1 :=
    follows_quiet blank.client quiet_parts.client

theorem follows_setClient (update : Client → Client) :
    Follows notes (setClient update) fun _ => 1 :=
  follows_quiet () (quiet_setClient update)

theorem follows_enet {call : EnetCall} (some : call.Reply) :
    Follows notes (enet call) fun reply => {[sign call reply]} :=
  .perform some fun _ => rfl

section Functions

variable {α : Type}

theorem le_optional {K L : Language Sign} : L ≤ (1 + K) * L := by
  rw [add_mul, one_mul]
  exact le_self_add

theorem le_taken {K L : Language Sign} : K * L ≤ (1 + K) * L := by
  rw [add_mul]
  exact le_add_self

theorem follows_closeConnection : Follows notes closeConnection fun _ => closing := by
  have forgetting : Follows notes (do
      setClient fun c => { c with running := false }
      setClient fun c => { c with host := .empty }
      setClient fun c => { c with port := 0 }
      setClient fun c => { c with gameId := 0 }
      setClient fun c => { c with teamspeakId := 0 }) fun _ => 1 := by
    refine follows_quiet () ?_
    refine (quiet_setClient _).bind fun _ => (quiet_setClient _).bind fun _ => ?_
    exact (quiet_setClient _).bind fun _ => (quiet_setClient _).bind fun _ => quiet_setClient _
  have destroying : Follows notes (do
      if (← client).client ≠ none then
        enet (.hostDestroy (← client).client)
        setClient fun c => { c with client := none }
      setClient fun c => { c with running := false }
      setClient fun c => { c with host := .empty }
      setClient fun c => { c with port := 0 }
      setClient fun c => { c with gameId := 0 }
      setClient fun c => { c with teamspeakId := 0 }) fun _ => 1 + {[.hostDestroy]} := by
    refine .after follows_client fun c => ?_
    dsimp only
    split
    · refine Follows.mono ?_ fun _ => le_add_self
      refine .after follows_client fun c => ?_
      refine .before (follows_enet ()) fun _ => ?_
      exact .after (follows_setClient _) fun _ => forgetting
    · exact forgetting.mono fun _ => le_self_add
  unfold closeConnection
  refine .after follows_client fun c => ?_
  dsimp only
  split
  · refine Follows.mono ?_ fun _ => le_taken
    refine .after follows_client fun c => ?_
    refine .seq (follows_enet ()) fun _ => ?_
    exact .after (follows_setClient _) fun _ => destroying
  · exact destroying.mono fun _ => le_optional

theorem follows_close : Follows notes close fun _ => closing := by
  unfold close
  refine .after (follows_quiet () quiet_abortThread) fun _ => ?_
  exact .before follows_closeConnection fun _ => follows_quiet () quiet_resetTeamspeak

theorem follows_called {call : EnetCall} {f : call.Reply → Plugin α} {N : α → Language Sign}
    (some : call.Reply) (rest : ∀ reply, Follows notes (f reply) fun result =>
      (N result).leftQuotient [sign call reply]) : Follows notes (enet call >>= f) N := by
  refine (follows_enet some).onward fun reply => (rest reply).mono ?_
  rintro result more next _ rfl
  exact next

theorem follows_serviced {timeout : Nat} {f : Serviced → Plugin α} {N : α → Language Sign}
    (rest : ∀ outcome, Follows notes (f outcome) fun result =>
      (N result).leftQuotient [.serviceBegin timeout, .serviceEnd timeout outcome]) :
    Follows notes (service timeout >>= f) N := by
  unfold service
  rw [bind_assoc]
  refine .after follows_client fun c => ?_
  rw [bind_assoc]
  exact follows_called () fun _ => follows_called (⟨0, .none⟩ : Serviced) rest

theorem follows_packetDestroy :
    Follows notes (enet .packetDestroy) fun _ => {[.packetDestroy]} := follows_enet ()

theorem follows_awaitDisconnect :
    Follows notes awaitDisconnect fun found => draining found.isSome := by
  unfold awaitDisconnect
  refine .after follows_client fun c => ?_
  split
  · exact .pure (.inl rfl)
  refine follows_serviced fun outcome => ?_
  split
  · rename_i failed
    exact .pure (.inr ⟨outcome, .inl failed, rfl⟩)
  rename_i some
  have positive : 0 < outcome.code := not_le.mp some
  -- the round is not the last one
  have again (other : outcome.event ≠ .disconnect) {word : List Sign}
      (discarded : word ∈ discarding outcome.event) :
      word ∈ (draining false).leftQuotient [.serviceBegin 3000, .serviceEnd 3000 outcome] :=
    Language.mem_iSup.mpr ⟨⟨outcome, positive, other⟩, Language.append_mem_mul rfl discarded⟩
  obtain ⟨code, event⟩ := outcome
  cases event with
  | disconnect => exact .pure (.inr ⟨_, .inr rfl, rfl⟩)
  | none | connect => exact .pure (again (by simp) rfl)
  | receive channelID payload =>
    refine (follows_packetDestroy.returning).mono ?_
    rintro _ word ⟨rfl, destroyed⟩
    exact again (by simp) destroyed

theorem follows_disconnect (status : UInt32) :
    Follows notes (disconnect status) fun _ => leaving status := by
  unfold disconnect
  refine .after follows_client fun c => ?_
  split
  · exact .pure (.inl rfl)
  refine Follows.mono ?_ fun _ => le_add_self
  rw [mul_assoc]
  refine .after follows_client fun c => ?_
  refine .seq (follows_enet ()) fun _ => ?_
  refine .after (follows_quiet () quiet_abortThread) fun _ => ?_
  have drained : Follows notes (Program.repeatUntil awaitDisconnect)
      fun _ => (draining false)∗ * draining true :=
    follows_awaitDisconnect.repeatUntil ⟨(), [], .inl rfl⟩
  refine drained.seq fun _ => ?_
  iterate 4 refine .after (follows_setClient _) fun _ => ?_
  exact follows_close

theorem follows_sendPacket {packets : Outgoing → Prop} {packet : Outgoing} (one : packets packet)
    (channelId : UInt8) (reliable : Bool) :
    Follows notes (sendPacket packet channelId reliable) fun _ => sends channelId packets := by
  unfold sendPacket
  refine .after follows_client fun c => (follows_enet ()).mono ?_
  rintro _ _ rfl
  exact ⟨packet, one, rfl⟩

theorem follows_sendProtocolMessage : Follows notes sendProtocolMessage fun _ => greetings := by
  simp only [sendProtocolMessage, serializePacket, Bool.true_eq_false, if_false]
  exact follows_sendPacket (by rfl) _ _

theorem follows_sendHandshake (statusCode : Int32) :
    Follows notes (sendHandshake statusCode) fun _ => handshakes statusCode := by
  simp only [sendHandshake, serializePacket, Bool.true_eq_false, if_false]
  refine .after follows_client fun _ => .after follows_client fun _ => ?_
  refine .after (follows_quiet .empty (quiet_wrapper ts3GetClientIdentity_calls)) fun _ => ?_
  exact follows_sendPacket ⟨_, rfl, rfl⟩ _ _

theorem follows_sendStatus : Follows notes sendStatus fun _ => statuses := by
  simp only [sendStatus, serializePacket, Bool.true_eq_false, if_false]
  refine .after follows_client fun _ => .after follows_client fun _ => ?_
  exact .after follows_client fun _ => follows_sendPacket ⟨_, rfl⟩ _ _

theorem follows_handleProtocolResponse (payload : Bytes) :
    Follows notes (handleProtocolResponse payload) fun _ =>
      answering (cause networkProtocolChannel payload) := by
  unfold handleProtocolResponse
  have same : cause networkProtocolChannel payload =
    (receive ProtocolResponsePacket.serialize payload).elim .nothing protocolCause := rfl
  rw [same]
  cases receive ProtocolResponsePacket.serialize payload with
  | none => exact .pure rfl
  | some p =>
    simp only [Option.elim_some, protocolCause]
    split
    · exact .before (follows_disconnect _) fun _ => .pure rfl
    split
    · exact .before (follows_disconnect _) fun _ => .pure rfl
    · exact follows_sendHandshake _

theorem follows_enterChannel (serverHandle lastChannelId channelId : UInt64) (tempMute : Bool) :
    Follows notes (enterChannel serverHandle lastChannelId channelId tempMute) fun _ =>
      handshakes statusCodeOk * statuses := by
  have entering : Follows notes (do
      let teamspeakId ← ts3ClientId serverHandle
      setClient fun c => { c with teamspeakId := teamspeakId }
      setClient fun c => { c with lastChannelId := lastChannelId }
      sendHandshake statusCodeOk
      let microphoneMuted ← ts3IsInputMuted serverHandle
      setClient fun c => { c with microphoneMuted := microphoneMuted }
      let speakersMuted ← ts3IsOutputMuted serverHandle
      setClient fun c => { c with speakersMuted := speakersMuted }
      sendStatus
      discard ts3ResetListenerPosition
      discard (ts3Set3DSettings 0x40000000 0x40400000)) fun _ =>
        handshakes statusCodeOk * statuses := by
    refine .after (follows_wrapper 0 (ts3ClientId_calls _)) fun _ => ?_
    refine .after (follows_setClient _) fun _ => ?_
    refine .after (follows_setClient _) fun _ => ?_
    refine (follows_sendHandshake _).seq fun _ => ?_
    refine .after (follows_wrapper false (ts3IsInputMuted_calls _)) fun _ => ?_
    refine .after (follows_setClient _) fun _ => ?_
    refine .after (follows_wrapper false (ts3IsOutputMuted_calls _)) fun _ => ?_
    refine .after (follows_setClient _) fun _ => ?_
    refine .before follows_sendStatus fun _ => ?_
    refine .after (follows_wrapper () (discard_calls ts3ResetListenerPosition_calls)) fun _ => ?_
    exact follows_wrapper () (discard_calls (ts3Set3DSettings_calls _ _))
  unfold enterChannel
  refine .after (follows_wrapper .empty (ts3ClientsInChannel_calls _)) fun clients => ?_
  refine .after (follows_wrapper () (Program.Calls.forM fun _ _ =>
    discard_calls (ts3MuteClient_calls _ _))) fun _ => ?_
  split
  · refine .after (follows_wrapper () (sleepFor_calls _)) fun _ => ?_
    refine .after (follows_wrapper () (discard_calls (ts3SetOutputMuted_calls _ _))) fun _ => ?_
    exact entering
  · exact entering

theorem follows_handshakeAccepted (packet : HandshakeResponsePacket) : Follows notes (do
    if !(← ts3VerifyServer packet.teamspeakServerUniqueIdentifier) then
      sendHandshake statusCodeNotConnectedToServer
      return ()
    let serverHandle ← ts3ServerConnectionHandle
    let lastChannelId ← ts3ChannelId serverHandle
    let tempMute := !(← ts3IsOutputMuted serverHandle)
    if tempMute then
      discard (ts3SetOutputMuted serverHandle true)
      sleepFor 500
    if !(← ts3MoveToChannel packet.channelId packet.channelPassword) then
      sendHandshake statusCodeNotMovedToChannel
      return ()
    enterChannel serverHandle lastChannelId packet.channelId tempMute) fun _ =>
      answering .handshakeAccepted := by
  refine .after (follows_wrapper false (ts3VerifyServer_calls _)) fun found => ?_
  split
  · refine Follows.mono ?_ fun _ => le_add_of_le_left le_self_add
    exact .before (follows_sendHandshake _) fun _ => .pure rfl
  refine .after (follows_wrapper 0 ts3ServerConnectionHandle_calls) fun serverHandle => ?_
  refine .after (follows_wrapper 0 (ts3ChannelId_calls _)) fun lastChannelId => ?_
  refine .after (follows_wrapper false (ts3IsOutputMuted_calls _)) fun outputMuted => ?_
  dsimp only
  have moving : Follows notes (do
      if !(← ts3MoveToChannel packet.channelId packet.channelPassword) then
        sendHandshake statusCodeNotMovedToChannel
        return ()
      enterChannel serverHandle lastChannelId packet.channelId (!outputMuted)) fun _ =>
        answering .handshakeAccepted := by
    refine .after (follows_wrapper false (ts3MoveToChannel_calls _ _)) fun moved => ?_
    split
    · refine Follows.mono ?_ fun _ => le_add_of_le_left le_add_self
      exact .before (follows_sendHandshake _) fun _ => .pure rfl
    · exact (follows_enterChannel _ _ _ _).mono fun _ => le_add_self
  split
  · refine .after (follows_wrapper () (discard_calls (ts3SetOutputMuted_calls _ _))) fun _ => ?_
    exact .after (follows_wrapper () (sleepFor_calls _)) fun _ => moving
  · exact moving

theorem follows_handleHandshakeResponse (payload : Bytes) :
    Follows notes (handleHandshakeResponse payload) fun _ =>
      answering (cause networkHandshakeChannel payload) := by
  have same : cause networkHandshakeChannel payload =
    (receive HandshakeResponsePacket.serialize payload).elim .nothing fun p =>
      if p.statusCode = statusCodeOk then .handshakeAccepted else .nothing := rfl
  unfold handleHandshakeResponse
  rw [same]
  cases receive HandshakeResponsePacket.serialize payload with
  | none => exact .pure rfl
  | some packet =>
    dsimp only [Option.elim_some]
    by_cases ok : packet.statusCode = statusCodeOk
    · rw [if_neg (not_not.mpr ok), if_pos ok]
      exact follows_handshakeAccepted packet
    · rw [if_pos ok, if_neg ok]
      exact .pure rfl

theorem answering_other {channelID : UInt8} {payload : Bytes}
    (protocol : channelID ≠ networkProtocolChannel)
    (handshake : channelID ≠ networkHandshakeChannel) :
    answering (cause channelID payload) = 1 := by
  have elim {T : Type} {received : Option T} {f : T → Cause}
      (each : ∀ p, answering (f p) = 1) : answering (received.elim .nothing f) = 1 := by
    cases received with
    | none => rfl
    | some p => exact each p
  unfold cause
  rw [if_neg protocol, if_neg handshake]
  split
  · refine elim fun p => ?_
    split <;> rfl
  split
  · refine elim fun p => ?_
    split <;> rfl
  split
  · refine elim fun p => ?_
    split <;> rfl
  · rfl

theorem follows_handleMessage (channelID : UInt8) (payload : Bytes) :
    Follows notes (handleMessage channelID payload) fun _ =>
      answering (cause channelID payload) := by
  unfold handleMessage
  split
  · rename_i protocol
    rw [protocol]
    exact follows_handleProtocolResponse payload
  rename_i protocol
  split
  · rename_i handshake
    rw [handshake]
    exact follows_handleHandshakeResponse payload
  rename_i handshake
  rw [answering_other protocol handshake]
  split
  · exact follows_wrapper () (handleUpdateMessage_calls payload)
  split
  · exact follows_wrapper () (handleControlMessage_calls payload)
  split
  · exact follows_wrapper () (handlePositionMessage_calls payload)
  · exact .pure rfl

theorem follows_handleEvent (e : Event) : Follows notes (handleEvent e) fun _ => event e := by
  unfold handleEvent
  cases e with
  | none | connect => exact .pure rfl
  | disconnect => exact follows_setClient _
  | receive channelID payload =>
    refine .after follows_client fun c => ?_
    split
    · exact follows_packetDestroy.mono fun _ => le_optional
    · refine Follows.mono ?_ fun _ => le_taken
      exact (follows_handleMessage channelID payload).seq fun _ => follows_packetDestroy

theorem follows_updateRound :
    Follows notes updateRound fun found => if found.isSome then 1 else rounding := by
  unfold updateRound
  refine .after follows_client fun c => ?_
  split
  · exact .pure rfl
  refine .after follows_client fun c => ?_
  split
  · exact .pure rfl
  refine follows_serviced fun outcome => ?_
  have around {p : Plugin Unit} (rest : Follows notes p fun _ =>
      if 0 < outcome.code then event outcome.event else 1) :
      Follows notes (p >>= fun _ => pure none) fun found : Option Unit =>
        (if found.isSome then 1 else rounding : Language Sign).leftQuotient
          [.serviceBegin 100, .serviceEnd 100 outcome] := by
    apply rest.returning.mono
    rintro _ more ⟨rfl, member⟩
    exact Language.mem_iSup.mpr ⟨outcome, Language.append_mem_mul rfl member⟩
  split
  · rename_i some
    rw [if_pos some] at around
    exact around (follows_handleEvent _)
  rename_i none
  rw [if_neg none] at around
  split
  · exact around (follows_setClient _)
  · have still : Follows notes (pure () : Plugin Unit) fun _ => 1 := .pure rfl
    exact around still

theorem follows_update : Follows notes update fun _ => updating := by
  unfold update
  have rounds : Follows notes (Program.repeatUntil updateRound) fun _ => rounding∗ * 1 :=
    follows_updateRound.repeatUntil ⟨(), [], rfl⟩
  rw [mul_one] at rounds
  exact rounds.seq fun _ => follows_close

variable {host : StdString} {port uniqueIdentifier : UInt16}

theorem follows_createConnection : Follows notes (createConnection host port) creating := by
  unfold createConnection
  refine follows_called (none : Option HostId) fun created => ?_
  refine .after (follows_setClient _) fun _ => ?_
  refine .after follows_client fun c => ?_
  split
  · exact .after (follows_setClient _) fun _ => .pure (.inl ⟨created, rfl⟩)
  refine follows_called (⟨false, 0⟩ : Resolved) fun resolved => ?_
  refine .after follows_client fun c => ?_
  refine follows_called (none : Option PeerId) fun peer => ?_
  have attempted : [.hostCreate created, .addressSetHost, .hostConnect peer] ∈ attempting :=
    ⟨created, peer, rfl⟩
  refine .after (follows_setClient _) fun _ => ?_
  refine .after follows_client fun c => ?_
  split
  · refine follows_close.returning.mono ?_
    rintro _ word ⟨rfl, closed⟩
    have waited : [] ∈ 1 + awaiting false := .inl rfl
    have whole : [.hostCreate created, .addressSetHost, .hostConnect peer] ++ [] ++ word ∈
        creating false :=
      .inr (Language.append_mem_mul (Language.append_mem_mul attempted waited) closed)
    exact whole
  refine follows_serviced fun outcome => ?_
  split
  · rename_i failed
    refine follows_close.returning.mono ?_
    rintro _ word ⟨rfl, closed⟩
    have waited : [.serviceBegin 5000, .serviceEnd 5000 outcome] ∈ 1 + awaiting false :=
      .inr ⟨outcome, by grind, rfl⟩
    have whole : [.hostCreate created, .addressSetHost, .hostConnect peer] ++
        [.serviceBegin 5000, .serviceEnd 5000 outcome] ++ word ∈ creating false :=
      .inr (Language.append_mem_mul (Language.append_mem_mul attempted waited) closed)
    exact whole
  · have waited : [.serviceBegin 5000, .serviceEnd 5000 outcome] ∈ awaiting true :=
      ⟨outcome, by grind, rfl⟩
    have whole := Language.append_mem_mul attempted waited
    exact .pure whole

theorem follows_openConnection : Follows notes (openConnection host port) fun opened =>
    (1 + leaving disconnectStatusReconnect) * creating opened := by
  unfold openConnection
  refine .after (follows_quiet false quiet_parts.isOpen) fun opened => ?_
  split
  · refine Follows.mono ?_ fun _ => le_taken
    exact (follows_disconnect _).seq fun _ => follows_createConnection
  · exact follows_createConnection.mono fun _ => le_optional

theorem follows_connects : Follows notes (connect host port uniqueIdentifier) connects := by
  unfold connect
  refine .after follows_client fun _ => .after follows_client fun _ => ?_
  refine .after follows_client fun _ => ?_
  split
  · exact .pure (.inl rfl)
  refine follows_openConnection.onward fun opened => ?_
  cases opened with
  | false =>
    refine .pure fun word opening => ?_
    rw [List.append_nil]
    exact opening
  | true =>
    refine .after (follows_quiet () (quiet_startUpdate _ _ _)) fun _ => ?_
    apply follows_sendProtocolMessage.returning.mono
    rintro _ more ⟨rfl, greeted⟩ word opening
    have whole := Language.append_mem_mul opening greeted
    rw [mul_assoc] at whole
    exact .inr whole

theorem follows_connect :
    Follows notes (connect host port uniqueIdentifier) fun _ => connecting := by
  apply follows_connects.mono
  intro connected
  unfold connecting
  rw [mul_add]
  cases connected with
  | false => exact le_self_add.trans le_add_self
  | true => exact add_le_add_right le_add_self _

theorem follows_useClient {p : Plugin Unit} {L : Language Sign}
    (rest : Follows notes p fun _ => L) :
    Follows notes (useClient p) fun _ => L := by
  unfold useClient
  refine .after follows_load fun m => ?_
  exact .after (follows_quiet () (quiet_object _)) fun _ => rest

theorem follows_updating {p : Plugin Unit} (update : Client → Client) (updates : p = do
      if !(← clientIsOpen) then
        return ()
      useClient do
        setClient update
        sendStatus) : Follows notes p fun _ => 1 + statuses := by
  subst updates
  refine .after (follows_quiet false (quiet_parts.clientIsOpen quiet_object)) fun isOpen => ?_
  split
  · exact .pure (.inl rfl)
  · refine Follows.mono ?_ fun _ => le_add_self
    exact follows_useClient (.after (follows_setClient _) fun _ => follows_sendStatus)

theorem follows_deleteClient : Follows notes deleteClient fun _ => closing := by
  unfold deleteClient
  refine .after follows_load fun m => ?_
  refine .after (follows_quiet () (quiet_object _)) fun _ => ?_
  exact .before follows_close fun _ => follows_quiet () (quiet_setGlobals _)

theorem follows_start (initialized : Bool) (port : UInt16) :
    Follows notes (justAnotherVoiceChatStart initialized port) fun _ => closing := by
  have none : 1 ≤ closing := le_optional.trans (mul_le_mul_right le_self_add _)
  have creating : Follows notes (do
      object (.create .client)
      setClient fun _ => .new port
      setGlobals fun g => { g with client := .live }
      object (.create .httpServer)
      setGlobals fun g => { g with httpServer := .live }
      object (.use .httpServer (← load).globals.httpServer)
      return true) fun _ => 1 :=
    follows_quiet true (quiet_parts.create quiet_object quiet_setGlobals (quiet_setClient _))
  unfold justAnotherVoiceChatStart
  split
  · exact .pure (none rfl)
  refine .after follows_load fun m => ?_
  split
  · exact .before follows_deleteClient fun _ => creating
  · exact creating.mono fun _ => none

theorem follows_stop : Follows notes justAnotherVoiceChatStop fun _ =>
    leaving disconnectStatusOk * closing := by
  unfold justAnotherVoiceChatStop deleteHttpServer
  refine .after follows_load fun m => ?_
  refine .after (follows_quiet () (quiet_object _)) fun _ => ?_
  have deleting : (do
      object (.destroy .httpServer (← load).globals.httpServer)
      setGlobals fun g => { g with httpServer := .deleted }).Calls Quiet :=
    quiet_load.bind fun _ => (quiet_object _).bind fun _ => quiet_setGlobals _
  refine .after (follows_quiet () deleting) fun _ => ?_
  exact (follows_useClient (follows_disconnect _)).seq fun _ => follows_deleteClient

theorem follows_disconnectRequest : Follows notes justAnotherVoiceChatDisconnect fun _ =>
    leaving disconnectStatusOk := by
  unfold justAnotherVoiceChatDisconnect
  refine .after follows_load fun m => ?_
  split
  · exact .pure (.inl rfl)
  · exact follows_useClient (follows_disconnect _)

theorem follows_connectRequest : Follows notes
    (justAnotherVoiceChatConnect host port uniqueIdentifier) fun _ => connecting := by
  unfold justAnotherVoiceChatConnect
  refine .after follows_load fun m => ?_
  dsimp only
  split
  · exact .pure (.inl rfl)
  · exact .after (follows_quiet () (quiet_object _)) fun _ => follows_connect

theorem follows_talkStatus (handle : UInt64) (status : TalkStatus) (clientID : AnyID) :
    Follows notes (ts3pluginOnTalkStatusChangeEvent handle status clientID) fun _ =>
      1 + statuses := by
  unfold ts3pluginOnTalkStatusChangeEvent
  refine .after (follows_wrapper 0 ts3ServerConnectionHandle_calls) fun _ => ?_
  split
  · exact .pure (.inl rfl)
  refine .after (follows_wrapper 0 (ts3ClientId_calls _)) fun ownId => ?_
  split
  · exact .pure (.inl rfl)
  · exact follows_updating (fun c => { c with talking := status = .talking }) rfl

theorem follows_selfVariable (handle : UInt64) (flag : SelfVariable) (newValue : CString) :
    Follows notes (ts3pluginOnClientSelfVariableUpdateEvent handle flag newValue) fun _ =>
      1 + statuses := by
  unfold ts3pluginOnClientSelfVariableUpdateEvent
  refine .after (follows_wrapper 0 ts3ServerConnectionHandle_calls) fun _ => ?_
  split
  · exact .pure (.inl rfl)
  dsimp only
  split
  · exact follows_updating
      (fun c => { c with microphoneMuted := newValue.text.items = [49] }) rfl
  · exact follows_updating (fun c => { c with speakersMuted := newValue.text.items = [49] }) rfl
  · exact .pure (.inl rfl)

theorem follows_task (task : Task) : Follows notes task.program fun _ => dialogue task := by
  cases task with
  | update =>
    exact .before follows_update fun _ => follows_quiet () (quiet_thread _)
  | disconnect => exact follows_disconnectRequest
  | host call =>
    cases call with
    | init initialized port =>
      have reporting (started : Bool) : Follows notes
          (if (!started) = true then pure 1 else pure 0 : Plugin Int32) fun _ => 1 := by
        split <;> exact .pure rfl
      exact .before (.before (follows_start initialized port) reporting) fun _ => .pure rfl
    | shutdown => exact follows_stop
    | talkStatus handle status clientID => exact follows_talkStatus handle status clientID
    | selfVariable handle flag newValue => exact follows_selfVariable handle flag newValue
    | clientMove handle clientID oldChannel newChannel =>
      exact follows_quiet () (quiet_parts.clientMove quiet_object handle clientID
        oldChannel newChannel)
    | isIngame => exact follows_quiet () (discard_calls (quiet_parts.ingame quiet_object))
    | connect host port uniqueIdentifier =>
      exact .before follows_connectRequest fun _ => .pure rfl

end Functions

def own (self : ThreadId) : History → List Sign
  | [] => []
  | .began thread _ :: older => if thread = self then [] else own self older
  | .answered ⟨thread, call, reply⟩ :: older =>
    own self older ++ if thread = self then notes (.external call) reply else []

def current (self : ThreadId) : History → Option Task
  | [] => none
  | .began thread task :: older => if thread = self then some task else current self older
  | .answered _ :: older => current self older

def conversation : Dialogue State ThreadId Sign where
  own self s := own self s.history
  grammar self s := (current self s.history).elim 1 dialogue

theorem conversation_fits : conversation.Fits notes scheduling where
  steps := by
    rintro self op s reply t ⟨w, -, rfl⟩
    cases op with
    | load | store | thread | sleep =>
      exact ⟨(List.append_nil _).symm, fun _ _ => rfl, fun _ => rfl⟩
    | external call =>
      refine ⟨?_, fun other different => ?_, fun _ => rfl⟩
      · simp [conversation, happens, own]
      · simp [conversation, happens, own, Ne.symm different]
  begins := by
    rintro self p s t ⟨task, rfl, -, rfl⟩
    refine ⟨if_pos rfl, ?_, fun other different => ?_⟩
    · simp only [conversation, current, if_true, Option.elim_some]
      exact follows_task task
    · simp [conversation, own, current, Ne.symm different]
  beside := by
    rintro s t ⟨teamspeak, rfl⟩ other
    exact ⟨rfl, rfl⟩

theorem Reached.spoken {c : Threads} (reached : Reached c) (self : ThreadId) :
    Dialogue.soFar ((current self c.state.history).elim 1 dialogue) (own self c.state.history) ∧
      (c.program self = .ret () →
        own self c.state.history ∈ (current self c.state.history).elim 1 dialogue) := by
  obtain ⟨start, fresh, run⟩ := reached
  refine Dialogue.Spoken.run conversation_fits ?_ run self
  intro other
  simp only [conversation, fresh.history, fresh.idle, own, current, Option.elim_none]
  exact .of_follows (.pure rfl)

/-- Whatever the interleaving, what a thread says to ENet during a task is the beginning of a word
of the task's language, and a whole word once the task is done. -/
theorem conversation_kept {c : Threads} (reached : Reached c) {self : ThreadId} {task : Task}
    (doing : current self c.state.history = some task) :
    (∃ later, own self c.state.history ++ later ∈ dialogue task) ∧
      (c.program self = .ret () → own self c.state.history ∈ dialogue task) := by
  have spoken := reached.spoken self
  rw [doing] at spoken
  exact spoken

theorem conversation_kept_update : own 5 left.history ∈ dialogue .update :=
  (conversation_kept reached_left rfl).2 rfl

-- A packet that the loop of `update()` or the wait for the DISCONNECT event got. The one that
-- `connect()` may get while it waits for the CONNECT event is not looked at.
def Sign.takes : Sign → Bool
  | .serviceEnd timeout ⟨code, .receive _ _⟩ => timeout ≠ 5000 && 0 < code
  | _ => false

def Sign.destroys : Sign → Bool
  | .packetDestroy => true
  | _ => false

abbrev Accounted (depth : ℕ) (L : Language Sign) : Prop :=
    Bracketed Sign.takes Sign.destroys depth L

section Accounted

open Bracketed

variable {depth : ℕ} {L : Language Sign} {timeout : Nat} {outcome : Serviced}

theorem accounted_sign {sign : Sign} (neutral : sign.takes = false ∧ sign.destroys = false) :
    Accounted depth {[sign]} :=
  of_neutral fun word member other among => by
    obtain rfl : word = [sign] := member
    rw [List.mem_singleton.mp among]
    exact neutral

theorem accounted_sends {channelID : UInt8} {packets : Outgoing → Prop} :
    Accounted depth (sends channelID packets) :=
  of_neutral fun word member other among => by
    obtain ⟨packet, -, rfl⟩ := member
    rw [List.mem_singleton.mp among]
    exact ⟨rfl, rfl⟩

theorem accounted_serviced (plain : (Sign.serviceEnd timeout outcome).takes = false) :
    Accounted depth (serviced timeout outcome) :=
  of_neutral fun word member other among => by
    obtain rfl : word = [.serviceBegin timeout, .serviceEnd timeout outcome] := member
    rcases List.mem_pair.mp among with rfl | rfl
    · exact ⟨rfl, rfl⟩
    · exact ⟨plain, rfl⟩

theorem accounted_taken (taken : (Sign.serviceEnd timeout outcome).takes = true)
    (inner : Accounted depth L) :
    Accounted (depth + 1) (serviced timeout outcome * (L * {[.packetDestroy]})) := by
  have same : serviced timeout outcome =
      {[.serviceBegin timeout]} * {[.serviceEnd timeout outcome]} := by
    ext word
    constructor
    · rintro rfl
      exact ⟨_, rfl, _, rfl, rfl⟩
    · rintro ⟨_, rfl, _, rfl, rfl⟩
      rfl
  rw [same, mul_assoc, ← mul_assoc {[Sign.serviceEnd timeout outcome]}]
  exact (accounted_sign ⟨rfl, rfl⟩).mul (inner.enclose ⟨taken, rfl⟩ ⟨rfl, rfl⟩)

theorem accounted_closing : Accounted depth closing :=
  (one.add (accounted_sign ⟨rfl, rfl⟩)).mul (one.add (accounted_sign ⟨rfl, rfl⟩))

theorem takes_eq_false {timeout : Nat} {code : Int} {event : Event}
    (none : code ≤ 0 ∨ ∀ channelID payload, event ≠ .receive channelID payload) :
    (Sign.serviceEnd timeout ⟨code, event⟩).takes = false := by
  cases event with
  | none | connect | disconnect => rfl
  | receive channelID payload =>
    have failed : ¬0 < code := not_lt.mpr (none.resolve_right fun other => other _ _ rfl)
    simp [Sign.takes, failed]

theorem accounted_draining (ended : Bool) : Accounted (depth + 1) (draining ended) := by
  cases ended with
  | true =>
    refine of_neutral fun word member sign among => ?_
    obtain rfl | ⟨⟨code, event⟩, last, rfl⟩ := member
    · cases among
    · have plain : (Sign.serviceEnd 3000 ⟨code, event⟩).takes = false :=
        takes_eq_false (last.imp_right fun same _ _ other => by cases same.symm.trans other)
      rcases List.mem_pair.mp among with rfl | rfl
      · exact ⟨rfl, rfl⟩
      · exact ⟨plain, rfl⟩
  | false =>
    refine Bracketed.iSup fun ⟨⟨code, event⟩, positive, other⟩ => ?_
    cases event with
    | disconnect => exact absurd rfl other
    | none | connect => exact (accounted_serviced rfl).mul one
    | receive channelID payload =>
      have taken : Accounted (depth + 1)
          (serviced 3000 ⟨code, .receive channelID payload⟩ * (1 * {[.packetDestroy]})) :=
        accounted_taken (by simpa [Sign.takes] using positive) one
      rwa [one_mul] at taken

theorem accounted_leaving (status : UInt32) : Accounted (depth + 1) (leaving status) :=
  one.add (((accounted_sign ⟨rfl, rfl⟩).mul
    ((accounted_draining false).kstar.mul (accounted_draining true))).mul accounted_closing)

theorem accounted_answering (c : Cause) : Accounted (depth + 1) (answering c) := by
  cases c with
  | protocolAccepted => exact accounted_sends
  | protocolRejected status => exact accounted_leaving status
  | handshakeAccepted =>
    exact (accounted_sends.add accounted_sends).add (accounted_sends.mul accounted_sends)
  | update | control | position | nothing => exact one

theorem accounted_rounding : Accounted (depth + 2) rounding := by
  refine Bracketed.iSup fun ⟨code, event⟩ => ?_
  dsimp only
  split
  · rename_i positive
    cases event with
    | none | connect | disconnect => exact (accounted_serviced rfl).mul one
    | receive channelID payload =>
      apply accounted_taken
      · simpa [Sign.takes] using positive
      · exact one.add (accounted_answering _)
  · rename_i failed
    exact (accounted_serviced (takes_eq_false (.inl (not_lt.mp failed)))).mul one

theorem accounted_creating (created : Bool) : Accounted depth (creating created) := by
  have attempted : Accounted depth attempting := of_neutral fun word member sign among => by
    obtain ⟨host, peer, rfl⟩ := member
    simp only [List.mem_cons, List.not_mem_nil, or_false] at among
    rcases among with rfl | rfl | rfl <;> exact ⟨rfl, rfl⟩
  have awaited (connected : Bool) : Accounted depth (awaiting connected) :=
    of_neutral fun word member sign among => by
      obtain ⟨⟨code, event⟩, -, rfl⟩ := member
      rcases List.mem_pair.mp among with rfl | rfl
      · exact ⟨rfl, rfl⟩
      · cases event <;> exact ⟨rfl, rfl⟩
  have refused : Accounted depth hostless := of_neutral fun word member sign among => by
    obtain ⟨host, rfl⟩ := member
    rw [List.mem_singleton.mp among]
    exact ⟨rfl, rfl⟩
  cases created with
  | false => exact refused.add ((attempted.mul (one.add (awaited _))).mul accounted_closing)
  | true => exact attempted.mul (awaited _)

theorem accounted_dialogue (task : Task) : Accounted 2 (dialogue task) := by
  cases task with
  | update => exact accounted_rounding.kstar.mul accounted_closing
  | disconnect => exact accounted_leaving _
  | host call =>
    cases call with
    | init => exact accounted_closing
    | shutdown => exact (accounted_leaving _).mul accounted_closing
    | talkStatus | selfVariable => exact one.add accounted_sends
    | clientMove | isIngame => exact one
    | connect =>
      exact one.add ((one.add (accounted_leaving _)).mul
        ((accounted_creating _).add ((accounted_creating _).mul accounted_sends)))

end Accounted

/-- Whatever the interleaving, each packet that the loop of `update()` or a wait for the DISCONNECT
event got is destroyed once before the thread is done, with at most two waiting for it. -/
theorem packets_destroyed {c : Threads} (reached : Reached c) (self : ThreadId) :
    (own self c.state.history).countP Sign.destroys ≤
        (own self c.state.history).countP Sign.takes ∧
      (own self c.state.history).countP Sign.takes ≤
        (own self c.state.history).countP Sign.destroys + 2 ∧
      (c.program self = .ret () → (own self c.state.history).countP Sign.takes =
        (own self c.state.history).countP Sign.destroys) := by
  have accounted : Accounted 2 ((current self c.state.history).elim 1 dialogue) := by
    cases current self c.state.history with
    | none => exact .one
    | some task => exact accounted_dialogue task
  obtain ⟨⟨later, member⟩, idle⟩ := reached.spoken self
  obtain ⟨fewer, waiting⟩ := accounted.partly _ later member
  exact ⟨fewer, waiting, fun done => accounted.whole _ (idle done)⟩

theorem packets_destroyed_update : (own 5 left.history).countP Sign.takes =
    (own 5 left.history).countP Sign.destroys :=
  (packets_destroyed reached_left 5).2.2 rfl

end System

end JustAnotherVoiceChat
