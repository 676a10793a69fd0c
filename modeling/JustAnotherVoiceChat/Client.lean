import JustAnotherVoiceChat.TeamSpeak

set_option autoImplicit false

namespace JustAnotherVoiceChat

open Binary Interaction

-- The constructor sets neither the host, which starts empty, nor the port.
def Client.new (port : UInt16) : Client where
  client := none
  peer := none
  thread := none
  running := false
  gameId := 0
  teamspeakId := 0
  host := .empty
  port := port
  lastChannelId := 0
  talking := false
  microphoneMuted := false
  speakersMuted := false

def isOpen : Plugin Bool := do
  if (← client).client = none then
    return false
  if (← client).peer = none then
    return false
  return (← client).running

def isIngame : Plugin Bool := do
  if !(← isOpen) then
    return false
  if (← client).gameId = 0 then
    return false
  return (← client).teamspeakId ≠ 0

def sendPacket (packet : Outgoing) (channelId : UInt8) (reliable : Bool) : Plugin Unit := do
  enet (.peerSend (← client).peer channelId packet reliable)

def sendProtocolMessage : Plugin Unit := do
  let packet : ProtocolPacket := ⟨protocolVersionMajor, protocolVersionMinor,
    protocolMinVersionMajor, protocolMinVersionMinor⟩
  if (serializePacket ProtocolPacket.serialize packet).result = false then
    return ()
  sendPacket (.protocol packet) networkProtocolChannel true

def sendHandshake (statusCode : Int32) : Plugin Unit := do
  let gameId := (← client).gameId
  let teamspeakId := (← client).teamspeakId
  let packet : HandshakePacket := ⟨gameId, teamspeakId, statusCode, ← ts3GetClientIdentity⟩
  if (serializePacket HandshakePacket.serialize packet).result = false then
    return ()
  sendPacket (.handshake packet) networkHandshakeChannel true

def sendStatus : Plugin Unit := do
  let talking := (← client).talking
  let microphoneMuted := (← client).microphoneMuted
  let packet : StatusPacket := ⟨talking, microphoneMuted, (← client).speakersMuted⟩
  if (serializePacket StatusPacket.serialize packet).result = false then
    return ()
  sendPacket (.status packet) networkStatusChannel true

def setTalking (talking : Bool) : Plugin Unit := do
  setClient fun c => { c with talking := talking }
  sendStatus

def setMicrophoneMuted (muted : Bool) : Plugin Unit := do
  setClient fun c => { c with microphoneMuted := muted }
  sendStatus

def setSpeakersMuted (muted : Bool) : Plugin Unit := do
  setClient fun c => { c with speakersMuted := muted }
  sendStatus

def abortThread : Plugin Unit := do
  if (← client).thread = none then
    return ()
  if (← client).thread ≠ some (← thread .selfId) then
    if ← thread (.joinable (← client).thread) then
      setClient fun c => { c with running := false }
      thread (.join (← client).thread)
    thread (.delete (← client).thread)
    setClient fun c => { c with thread := none }

-- The part of `close()` that leaves the voice server.
def closeConnection : Plugin Unit := do
  if (← client).peer ≠ none then
    enet (.peerReset (← client).peer)
    setClient fun c => { c with peer := none }
  if (← client).client ≠ none then
    enet (.hostDestroy (← client).client)
    setClient fun c => { c with client := none }
  setClient fun c => { c with running := false }
  setClient fun c => { c with host := .empty }
  setClient fun c => { c with port := 0 }
  setClient fun c => { c with gameId := 0 }
  setClient fun c => { c with teamspeakId := 0 }

-- The part of `close()` that moves back to the old channel.
def resetTeamspeak : Plugin Unit := do
  if (← client).lastChannelId = 0 then
    return ()
  let serverHandle ← ts3ServerConnectionHandle
  if serverHandle = 0 then
    return ()
  let channelId ← ts3ChannelId serverHandle
  if channelId = (← client).lastChannelId then
    return ()
  if !(← ts3MoveToChannel (← client).lastChannelId .empty) then
    setClient fun c => { c with lastChannelId := 0 }
    return ()
  setClient fun c => { c with lastChannelId := 0 }
  ts3ResetClients3DPositions
  -- unmute all muted clients after moved out of channel and reset custom nickname
  discard ts3UnmuteAllClients
  discard ts3ResetNickname

def close : Plugin Unit := do
  abortThread
  closeConnection
  resetTeamspeak

def service (timeout : Nat) : Plugin Serviced := do
  let host := (← client).client
  enet (.serviceBegin host timeout)
  enet (.serviceEnd host timeout)

def awaitDisconnect : Plugin (Option Unit) := do
  if (← client).client = none then
    return some ()
  let serviced ← service 3000
  if serviced.code ≤ 0 then
    return some ()
  match serviced.event with
  | .disconnect => return some ()
  | .receive _ _ =>
    enet .packetDestroy
    return none
  | _ => return none

def disconnect (status : UInt32) : Plugin Unit := do
  if (← client).peer = none then
    return ()
  enet (.peerDisconnect (← client).peer status)
  abortThread
  Program.repeatUntil awaitDisconnect
  setClient fun c => { c with host := .empty }
  setClient fun c => { c with port := 0 }
  setClient fun c => { c with gameId := 0 }
  setClient fun c => { c with teamspeakId := 0 }
  close

-- The handlers copy the packet through the reference that `deserializePacket` returns; the copy
-- is taken to be the packet that was read.
def receive {T : Type} (serialize : Codec T) (packet : Bytes) : Option T :=
  let deserialized := deserializePacket serialize packet
  if deserialized.result then deserialized.outputPacket else none

def handleProtocolResponse (packet : Bytes) : Plugin Unit := do
  match receive ProtocolResponsePacket.serialize packet with
  | none => return ()
  | some protocolPacket =>
    if !verifyProtocolVersion protocolPacket.versionMajor protocolPacket.versionMinor
        protocolMinVersionMajor protocolMinVersionMinor then
      disconnect disconnectStatusOutdatedServer
      return ()
    if protocolPacket.statusCode ≠ statusCodeOk then
      disconnect disconnectStatusOutdatedClient
      return ()
    sendHandshake statusCodeOk

-- The end of the handshake, after the own client was moved.
def enterChannel (serverHandle lastChannelId channelId : UInt64) (tempMute : Bool) :
    Plugin Unit := do
  -- mute all clients by default
  let clients ← ts3ClientsInChannel channelId
  forM clients.elems fun id => discard (ts3MuteClient id true)
  if tempMute then
    sleepFor 500
    discard (ts3SetOutputMuted serverHandle false)
  -- connection on teamspeak server is valid, save teamspeak id
  let teamspeakId ← ts3ClientId serverHandle
  setClient fun c => { c with teamspeakId := teamspeakId }
  setClient fun c => { c with lastChannelId := lastChannelId }
  sendHandshake statusCodeOk
  let microphoneMuted ← ts3IsInputMuted serverHandle
  setClient fun c => { c with microphoneMuted := microphoneMuted }
  let speakersMuted ← ts3IsOutputMuted serverHandle
  setClient fun c => { c with speakersMuted := speakersMuted }
  sendStatus
  discard ts3ResetListenerPosition
  discard (ts3Set3DSettings 0x40000000 0x40400000)

def handleHandshakeResponse (packet : Bytes) : Plugin Unit := do
  match receive HandshakeResponsePacket.serialize packet with
  | none => return ()
  | some responsePacket =>
    if responsePacket.statusCode ≠ statusCodeOk then
      return ()
    if !(← ts3VerifyServer responsePacket.teamspeakServerUniqueIdentifier) then
      sendHandshake statusCodeNotConnectedToServer
      return ()
    let serverHandle ← ts3ServerConnectionHandle
    let lastChannelId ← ts3ChannelId serverHandle
    let tempMute := !(← ts3IsOutputMuted serverHandle)
    if tempMute then
      discard (ts3SetOutputMuted serverHandle true)
      sleepFor 500
    if !(← ts3MoveToChannel responsePacket.channelId responsePacket.channelPassword) then
      sendHandshake statusCodeNotMovedToChannel
      return ()
    enterChannel serverHandle lastChannelId responsePacket.channelId tempMute

def splitAudioUpdates (updates : List ClientAudioUpdate) : SortedSet AnyID × SortedSet AnyID :=
  updates.foldl (fun (muteClients, unmuteClients) update =>
    if update.muted then (muteClients.insert update.teamspeakId, unmuteClients)
    else (muteClients, unmuteClients.insert update.teamspeakId)) (.empty, .empty)

def setClientPositions (updates : List ClientPositionUpdate) : Plugin Unit :=
  forM updates fun update =>
    discard (ts3SetClientPosition update.teamspeakId update.x update.y update.z)

def handleUpdateMessage (packet : Bytes) : Plugin Unit := do
  match receive UpdatePacket.serialize packet with
  | none => return ()
  | some updatePacket =>
    let (muteClients, unmuteClients) := splitAudioUpdates updatePacket.audioUpdates.items
    discard (ts3MuteClients muteClients true)
    discard (ts3MuteClients unmuteClients false)
    setClientPositions updatePacket.positionUpdates.items

def handleControlMessage (packet : Bytes) : Plugin Unit := do
  match receive ControlPacket.serialize packet with
  | none => return ()
  | some controlPacket =>
    if controlPacket.nickname ≠ .empty then
      discard (ts3SetNickname controlPacket.nickname)

def handlePositionMessage (packet : Bytes) : Plugin Unit := do
  match receive PositionPacket.serialize packet with
  | none => return ()
  | some positionPacket => setClientPositions positionPacket.positions.items

def handleMessage (channelID : UInt8) (packet : Bytes) : Plugin Unit :=
  if channelID = networkProtocolChannel then handleProtocolResponse packet
  else if channelID = networkHandshakeChannel then handleHandshakeResponse packet
  else if channelID = networkUpdateChannel then handleUpdateMessage packet
  else if channelID = networkControlChannel then handleControlMessage packet
  else if channelID = networkPositionChannel then handlePositionMessage packet
  else return ()

def handleEvent (event : Event) : Plugin Unit := do
  match event with
  | .disconnect => setClient fun c => { c with running := false }
  | .receive channelID packet =>
    if (← client).running = false then
      enet .packetDestroy
    else
      handleMessage channelID packet
      enet .packetDestroy
  | _ => return ()

def updateRound : Plugin (Option Unit) := do
  if (← client).running = false then
    return some ()
  if (← client).client = none then
    return some ()
  let serviced ← service 100
  if 0 < serviced.code then
    handleEvent serviced.event
  else if serviced.code < 0 then
    setClient fun c => { c with running := false }
  return none

def update : Plugin Unit := do
  Program.repeatUntil updateRound
  close

-- The new host and peer, up to the CONNECT event; `false` ends `connect()` without a connection.
def createConnection (host : StdString) (port : UInt16) : Plugin Bool := do
  let created ← enet (.hostCreate 1 networkChannels)
  setClient fun c => { c with client := created }
  if (← client).client = none then
    setClient fun c => { c with client := none }
    return false
  -- connect to host; whether the name could be resolved is not looked at
  let resolved ← enet (.addressSetHost (cStr host))
  let peer ← enet (.hostConnect (← client).client resolved.address port networkChannels)
  setClient fun c => { c with peer := peer }
  if (← client).peer = none then
    close
    return false
  let serviced ← service 5000
  if serviced.code ≤ 0 ∨ serviced.event ≠ .connect then
    close
    return false
  return true

-- The start of `connect()`, after its first check.
def openConnection (host : StdString) (port : UInt16) : Plugin Bool := do
  if ← isOpen then
    disconnect disconnectStatusReconnect
  createConnection host port

def startUpdate (host : StdString) (port uniqueIdentifier : UInt16) : Plugin Unit := do
  abortThread
  setClient fun c => { c with gameId := uniqueIdentifier }
  setClient fun c => { c with host := host }
  setClient fun c => { c with port := port }
  setClient fun c => { c with teamspeakId := 0 }
  setClient fun c => { c with running := true }
  let started ← thread .spawn
  setClient fun c => { c with thread := some started }

def connect (host : StdString) (port uniqueIdentifier : UInt16) : Plugin Bool := do
  if host = (← client).host ∧ (← client).port = port ∧ (← client).gameId = uniqueIdentifier then
    return true
  if !(← openConnection host port) then
    return false
  startUpdate host port uniqueIdentifier
  sendProtocolMessage
  return true

end JustAnotherVoiceChat
