import JustAnotherVoiceChat.Client

set_option autoImplicit false

namespace JustAnotherVoiceChat

open Binary Interaction

def clientIsOpen : Plugin Bool := do
  let pointer := (← load).globals.client
  if pointer = .null then
    return false
  object (.use .client pointer)
  isOpen

def useClient (method : Plugin Unit) : Plugin Unit := do
  object (.use .client (← load).globals.client)
  method

def setGlobals (update : Globals → Globals) : Plugin Unit :=
  .perform (Op.store fun m => { m with globals := update m.globals })

-- The destructor of the client closes it.
def deleteClient : Plugin Unit := do
  object (.destroy .client (← load).globals.client)
  close
  setGlobals fun g => { g with client := .deleted }

def deleteHttpServer : Plugin Unit := do
  object (.destroy .httpServer (← load).globals.httpServer)
  setGlobals fun g => { g with httpServer := .deleted }

-- `initialized` tells whether ENet and winsock could be initialized, and `port` is what the
-- constructor of the client leaves in the port.
def justAnotherVoiceChatStart (initialized : Bool) (port : UInt16) : Plugin Bool := do
  if !initialized then
    return false
  if (← load).globals.client ≠ .null then
    deleteClient
  object (.create .client)
  setClient fun _ => .new port
  setGlobals fun g => { g with client := .live }
  object (.create .httpServer)
  setGlobals fun g => { g with httpServer := .live }
  object (.use .httpServer (← load).globals.httpServer)
  return true

def justAnotherVoiceChatStop : Plugin Unit := do
  object (.use .httpServer (← load).globals.httpServer)
  deleteHttpServer
  useClient (disconnect disconnectStatusOk)
  deleteClient

def justAnotherVoiceChatConnect (host : StdString) (port uniqueIdentifier : UInt16) :
    Plugin Bool := do
  let pointer := (← load).globals.client
  if pointer = .null then
    return false
  object (.use .client pointer)
  connect host port uniqueIdentifier

def justAnotherVoiceChatDisconnect : Plugin Unit := do
  if (← load).globals.client = .null then
    return ()
  useClient (disconnect disconnectStatusOk)

def justAnotherVoiceChatUpdateTalking (talking : Bool) : Plugin Unit := do
  if !(← clientIsOpen) then
    return ()
  useClient (setTalking talking)

def justAnotherVoiceChatUpdateMicrophoneMute (muted : Bool) : Plugin Unit := do
  if !(← clientIsOpen) then
    return ()
  useClient (setMicrophoneMuted muted)

def justAnotherVoiceChatUpdateSpeakersMute (muted : Bool) : Plugin Unit := do
  if !(← clientIsOpen) then
    return ()
  useClient (setSpeakersMuted muted)

def justAnotherVoiceChatIsIngame : Plugin Bool := do
  if !(← clientIsOpen) then
    return false
  object (.use .client (← load).globals.client)
  isIngame

def ts3pluginInit (initialized : Bool) (port : UInt16) : Plugin Int32 := do
  if !(← justAnotherVoiceChatStart initialized port) then
    return 1
  return 0

def ts3pluginShutdown : Plugin Unit := justAnotherVoiceChatStop

inductive TalkStatus where
  | notTalking
  | talking
  | talkingWhileDisabled
deriving DecidableEq

def ts3pluginOnTalkStatusChangeEvent (serverConnectionHandlerID : UInt64) (status : TalkStatus)
    (clientID : AnyID) : Plugin Unit := do
  if serverConnectionHandlerID ≠ (← ts3ServerConnectionHandle) then
    return ()
  let ownId ← ts3ClientId serverConnectionHandlerID
  if clientID ≠ ownId then
    return ()
  justAnotherVoiceChatUpdateTalking (status = .talking)

inductive SelfVariable where
  | int (flag : SelfInt)
  | other
deriving DecidableEq

def ts3pluginOnClientSelfVariableUpdateEvent (serverConnectionHandlerID : UInt64)
    (flag : SelfVariable) (newValue : CString) : Plugin Unit := do
  if serverConnectionHandlerID ≠ (← ts3ServerConnectionHandle) then
    return ()
  -- update mute state: `newValue` is "1"
  let mute := newValue.text.items = [49]
  match flag with
  | .int .inputMuted => justAnotherVoiceChatUpdateMicrophoneMute mute
  | .int .outputMuted => justAnotherVoiceChatUpdateSpeakersMute mute
  | _ => return ()

def ts3pluginOnClientMoveEvent (serverConnectionHandlerID : UInt64) (clientID : AnyID)
    (oldChannelID newChannelID : UInt64) : Plugin Unit := do
  if serverConnectionHandlerID ≠ (← ts3ServerConnectionHandle) then
    return ()
  if clientID = (← ts3ClientId serverConnectionHandlerID) then
    return ()
  if !(← justAnotherVoiceChatIsIngame) then
    return ()
  let ownChannel ← ts3ChannelId serverConnectionHandlerID
  if ownChannel = newChannelID then
    discard (ts3MuteClient clientID true)
    return ()
  if ownChannel = oldChannelID then
    discard (ts3SetClientPosition clientID 0 0 0)
    discard (ts3MuteClient clientID false)
    return ()

end JustAnotherVoiceChat
