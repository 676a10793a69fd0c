import JustAnotherVoiceChat.Platform

set_option autoImplicit false

namespace JustAnotherVoiceChat

open Binary Interaction

def setHandler (handle : UInt64) : Plugin Unit :=
  setWrapper fun w => { w with serverConnectionHandler := handle }

def setMutedClients (update : SortedSet AnyID → SortedSet AnyID) : Plugin Unit :=
  setWrapper fun w => { w with mutedClients := update w.mutedClients }

def setOriginalNickname (nickname : StdString) : Plugin Unit :=
  setWrapper fun w => { w with originalNickname := nickname }

def findServer (uniqueIdentifier : StdString) : List UInt64 → Plugin Unit
  | [] => return ()
  | handle :: serverList => do
    if handle = 0 then
      return ()
    match ← teamspeak (.getServerUniqueIdentifier handle) with
    | some uid =>
      if uniqueIdentifier = uid.contents.text then
        setHandler handle
        teamspeak (.freeMemory uid.address)
      else
        teamspeak (.freeMemory uid.address)
        findServer uniqueIdentifier serverList
    | none => findServer uniqueIdentifier serverList

def ts3VerifyServer (uniqueIdentifier : StdString) : Plugin Bool := do
  match ← teamspeak .getServerConnectionHandlerList with
  | none => return false
  | some serverList =>
    setHandler 0
    findServer uniqueIdentifier serverList.contents
    teamspeak (.freeMemory serverList.address)
    return (← wrapper).serverConnectionHandler ≠ 0

def ts3ServerConnectionHandle : Plugin UInt64 := return (← wrapper).serverConnectionHandler

def ts3ClientId (serverConnectionHandlerId : UInt64) : Plugin AnyID := do
  if serverConnectionHandlerId = 0 then
    return 0
  match ← teamspeak (.getConnectionStatus serverConnectionHandlerId) with
  | none => return 0
  | some status =>
    -- 1 = connected, 0 = not connected
    if status ≤ 0 then
      return 0
    match ← teamspeak (.getClientID serverConnectionHandlerId) with
    | none => return 0
    | some clientID => return clientID

def ts3ChannelId (serverConnectionHandlerId : UInt64) : Plugin UInt64 := do
  let clientId ← ts3ClientId serverConnectionHandlerId
  match ← teamspeak (.getChannelOfClient serverConnectionHandlerId clientId) with
  | none => return 0
  | some channelId => return channelId

def ts3MoveToChannel (channelId : UInt64) (password : StdString) : Plugin Bool := do
  let clientId ← ts3ClientId (← wrapper).serverConnectionHandler
  if clientId = 0 then
    return false
  teamspeak (.requestClientMove (← wrapper).serverConnectionHandler clientId channelId
    (cStr password))

def clientIdArray (clients : SortedSet AnyID) : List AnyID := clients.elems ++ [0]

def ts3MuteClients (clients : SortedSet AnyID) (mute : Bool) : Plugin Bool := do
  if clients.isEmpty then
    return true
  let clientIds := clientIdArray clients
  if mute then
    let result ← teamspeak (.requestMuteClients (← wrapper).serverConnectionHandler clientIds)
    if result then
      forM clients.elems fun id => setMutedClients (·.insert id)
    return result
  else
    let result ← teamspeak (.requestUnmuteClients (← wrapper).serverConnectionHandler clientIds)
    if result then
      forM clients.elems fun id => setMutedClients (·.erase id)
    return result

def ts3MuteClient (clientId : AnyID) (mute : Bool) : Plugin Bool :=
  ts3MuteClients (.singleton clientId) mute

def ts3UnmuteAllClients : Plugin Bool := do
  if (← wrapper).mutedClients.isEmpty then
    return true
  let clientIds := clientIdArray (← wrapper).mutedClients
  let result ← teamspeak (.requestUnmuteClients (← wrapper).serverConnectionHandler clientIds)
  setMutedClients fun _ => .empty
  return result

-- One round of the loop of `ts3_clientsInChannel`; `some` ends it.
def pollRound (channelId : UInt64) : Plugin (Option Bool) := do
  sleepFor 10
  match ← teamspeak (.getChannelAreSubscribed (← wrapper).serverConnectionHandler channelId) with
  | none => return some false
  | some isSubscribed => return if isSubscribed = 0 then none else some true

def ts3ClientsInChannel (channelId : UInt64) : Plugin (SortedSet AnyID) := do
  if !(← teamspeak (.requestChannelSubscribe (← wrapper).serverConnectionHandler
    [channelId, 0])) then
    return .empty
  let subscribed ← Program.repeatUntil (pollRound channelId)
  if !subscribed then
    return .empty
  match ← teamspeak (.getChannelClientList (← wrapper).serverConnectionHandler channelId) with
  | none => return .empty
  | some clientList =>
    let clients := SortedSet.ofList (untilZero clientList.contents)
    teamspeak (.freeMemory clientList.address)
    return clients

def ts3SetNickname (nickname : StdString) : Plugin Bool := do
  if (← wrapper).serverConnectionHandler = 0 then
    return false
  match ← teamspeak (.getClientSelfVariableAsString (← wrapper).serverConnectionHandler
    .nickname) with
  | none =>
    setOriginalNickname .empty
    return false
  | some currentNickname =>
    if nickname = currentNickname.contents.text then
      return true
    if (← wrapper).originalNickname = .empty then
      setOriginalNickname currentNickname.contents.text
    if !(← teamspeak (.setClientSelfVariableAsString (← wrapper).serverConnectionHandler .nickname
        (cStr nickname))) then
      return false
    teamspeak (.flushClientSelfUpdates (← wrapper).serverConnectionHandler)

def ts3ResetNickname : Plugin Bool := do
  if (← wrapper).serverConnectionHandler = 0 then
    return false
  if (← wrapper).originalNickname = .empty then
    return true
  if !(← teamspeak (.setClientSelfVariableAsString (← wrapper).serverConnectionHandler .nickname
      (cStr (← wrapper).originalNickname))) then
    return false
  if !(← teamspeak (.flushClientSelfUpdates (← wrapper).serverConnectionHandler)) then
    return false
  setOriginalNickname .empty
  return true

def ts3GetClientIdentity : Plugin StdString := do
  if (← wrapper).serverConnectionHandler = 0 then
    return .empty
  -- the buffer is not given back
  match ← teamspeak (.getClientSelfVariableAsString (← wrapper).serverConnectionHandler
      .uniqueIdentifier) with
  | none => return .empty
  | some identity => return identity.contents.text

def ts3SetClientPosition (clientId : AnyID) (x y z : Single) : Plugin Bool := do
  if (← wrapper).serverConnectionHandler = 0 then
    return false
  teamspeak (.channelset3DAttributes (← wrapper).serverConnectionHandler clientId ⟨x, y, z⟩)

def ts3ResetListenerPosition : Plugin Bool := do
  if (← wrapper).serverConnectionHandler = 0 then
    return false
  teamspeak (.systemset3DListenerAttributes (← wrapper).serverConnectionHandler
    ⟨0, 0, 0⟩ ⟨0, 0, 0⟩ ⟨0, 0, 0x3F800000⟩)

def ts3Set3DSettings (distanceFactor rolloffScale : Single) : Plugin Bool := do
  if (← wrapper).serverConnectionHandler = 0 then
    return false
  teamspeak (.systemset3DSettings (← wrapper).serverConnectionHandler distanceFactor rolloffScale)

def ts3ResetClients3DPositions : Plugin Unit := do
  if (← wrapper).serverConnectionHandler = 0 then
    return ()
  let channelId ← ts3ChannelId (← wrapper).serverConnectionHandler
  let clients ← ts3ClientsInChannel channelId
  forM clients.elems fun id => discard (ts3SetClientPosition id 0 0 0)

def ts3IsInputMuted (serverConnectionHandlerId : UInt64) : Plugin Bool := do
  match ← teamspeak (.getClientSelfVariableAsInt serverConnectionHandlerId .inputHardware) with
  | none => return false
  | some hardwareStatus =>
    if hardwareStatus = 0 then
      return true
    match ← teamspeak (.getClientSelfVariableAsInt serverConnectionHandlerId .inputDeactivated) with
    | none => return false
    | some deactivated =>
      if deactivated = 1 then
        return true
      match ← teamspeak (.getClientSelfVariableAsInt serverConnectionHandlerId .inputMuted) with
      | none => return false
      | some muted => return muted = 1

def ts3IsOutputMuted (serverConnectionHandlerId : UInt64) : Plugin Bool := do
  match ← teamspeak (.getClientSelfVariableAsInt serverConnectionHandlerId .outputHardware) with
  | none => return false
  | some hardwareStatus =>
    if hardwareStatus = 0 then
      return true
    match ← teamspeak (.getClientSelfVariableAsInt serverConnectionHandlerId .outputMuted) with
    | none => return false
    | some muted => return muted = 1

def ts3SetOutputMuted (serverConnectionHandlerId : UInt64) (muted : Bool) : Plugin Bool := do
  if !(← teamspeak (.setClientSelfVariableAsInt serverConnectionHandlerId .outputMuted
      (if muted then 1 else 0))) then
    return false
  teamspeak (.flushClientSelfUpdates (← wrapper).serverConnectionHandler)

end JustAnotherVoiceChat
