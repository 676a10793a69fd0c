import Mathlib.Order.Defs.LinearOrder
import JustAnotherVoiceChat.Library.Codec

set_option autoImplicit false

namespace JustAnotherVoiceChat

open Binary

instance linearOrderUInt16 : LinearOrder UInt16 where
  le_refl := UInt16.le_refl
  le_trans _ _ _ := UInt16.le_trans
  le_antisymm _ _ := UInt16.le_antisymm
  le_total := UInt16.le_total
  lt_iff_le_not_ge a b := by simp only [UInt16.lt_iff_toNat_lt, UInt16.le_iff_toNat_le]; omega
  toDecidableLE := inferInstance

abbrev AnyID := UInt16

abbrev StdString := Sized UInt8

abbrev Single := UInt32

def protocolVersionMajor : Int32 := 1
def protocolVersionMinor : Int32 := 3
def protocolMinVersionMajor : Int32 := 1
def protocolMinVersionMinor : Int32 := 3

def networkChannels : Nat := 6
def networkProtocolChannel : UInt8 := 0
def networkHandshakeChannel : UInt8 := 1
def networkUpdateChannel : UInt8 := 2
def networkStatusChannel : UInt8 := 3
def networkControlChannel : UInt8 := 4
def networkPositionChannel : UInt8 := 5

def statusCodeOk : Int32 := 0
def statusCodeNotConnectedToServer : Int32 := 2
def statusCodeNotMovedToChannel : Int32 := 3

def disconnectStatusOk : UInt32 := 0
def disconnectStatusReconnect : UInt32 := 1
def disconnectStatusOutdatedServer : UInt32 := 2
def disconnectStatusOutdatedClient : UInt32 := 3

def uint16 : Codec UInt16 := .word 2 UInt16.toNat UInt16.ofNat
  (fun value => value.toNat_lt) (fun _ => UInt16.ofNat_toNat)
  (fun _ bound => UInt16.toNat_ofNat_of_lt' bound)

def float : Codec Single := .word 4 UInt32.toNat UInt32.ofNat
  (fun value => value.toNat_lt) (fun _ => UInt32.ofNat_toNat)
  (fun _ bound => UInt32.toNat_ofNat_of_lt' bound)

def int : Codec Int32 := float.record Int32.toUInt32 UInt32.toInt32 fun _ => rfl

def string : Codec StdString := .sized .byte

structure ProtocolPacket where
  versionMajor : Int32
  versionMinor : Int32
  minimumVersionMajor : Int32
  minimumVersionMinor : Int32
deriving DecidableEq

def ProtocolPacket.serialize : Codec ProtocolPacket :=
  (int.prod (int.prod (int.prod int))).record
    (fun p => (p.versionMajor, p.versionMinor, p.minimumVersionMajor, p.minimumVersionMinor))
    (fun (a, b, c, d) => ⟨a, b, c, d⟩) fun _ => rfl

structure ProtocolResponsePacket where
  statusCode : Int32
  versionMajor : Int32
  versionMinor : Int32
deriving DecidableEq

def ProtocolResponsePacket.serialize : Codec ProtocolResponsePacket :=
  (int.prod (int.prod int)).record (fun p => (p.statusCode, p.versionMajor, p.versionMinor))
    (fun (a, b, c) => ⟨a, b, c⟩) fun _ => rfl

structure ClientPositionUpdate where
  teamspeakId : UInt16
  x : Single
  y : Single
  z : Single
  voiceRange : Single
deriving DecidableEq

def ClientPositionUpdate.serialize : Codec ClientPositionUpdate :=
  (uint16.prod (float.prod (float.prod (float.prod float)))).record
    (fun p => (p.teamspeakId, p.x, p.y, p.z, p.voiceRange))
    (fun (a, b, c, d, e) => ⟨a, b, c, d, e⟩) fun _ => rfl

structure PositionPacket where
  x : Single
  y : Single
  z : Single
  rotation : Single
  positions : Sized ClientPositionUpdate
deriving DecidableEq

def PositionPacket.serialize : Codec PositionPacket :=
  (float.prod (float.prod (float.prod (float.prod (.sized ClientPositionUpdate.serialize))))).record
    (fun p => (p.x, p.y, p.z, p.rotation, p.positions))
    (fun (a, b, c, d, e) => ⟨a, b, c, d, e⟩) fun _ => rfl

structure ClientAudioUpdate where
  teamspeakId : UInt16
  muted : Bool
  volume : Single
  filterKey : StdString
deriving DecidableEq

-- `filterKey` is not handed to the archive: a packet that was read has the empty one.
def ClientAudioUpdate.serialize : Codec ClientAudioUpdate :=
  (uint16.prod (Codec.boolean.prod float)).record (fun p => (p.teamspeakId, p.muted, p.volume))
    (fun (a, b, c) => ⟨a, b, c, .empty⟩) fun _ => rfl

structure HandshakeResponsePacket where
  statusCode : Int32
  reason : StdString
  teamspeakServerUniqueIdentifier : StdString
  channelId : UInt64
  channelPassword : StdString
deriving DecidableEq

def HandshakeResponsePacket.serialize : Codec HandshakeResponsePacket :=
  (int.prod (string.prod (string.prod (Codec.uint64.prod string)))).record
    (fun p => (p.statusCode, p.reason, p.teamspeakServerUniqueIdentifier, p.channelId,
      p.channelPassword))
    (fun (a, b, c, d, e) => ⟨a, b, c, d, e⟩) fun _ => rfl

structure HandshakePacket where
  gameId : UInt16
  teamspeakId : UInt16
  statusCode : Int32
  teamspeakClientUniqueIdentity : StdString
deriving DecidableEq

def HandshakePacket.serialize : Codec HandshakePacket :=
  (uint16.prod (uint16.prod (int.prod string))).record
    (fun p => (p.gameId, p.teamspeakId, p.statusCode, p.teamspeakClientUniqueIdentity))
    (fun (a, b, c, d) => ⟨a, b, c, d⟩) fun _ => rfl

structure UpdatePacket where
  audioUpdates : Sized ClientAudioUpdate
  positionUpdates : Sized ClientPositionUpdate
deriving DecidableEq

def UpdatePacket.serialize : Codec UpdatePacket :=
  ((Codec.sized ClientAudioUpdate.serialize).prod (.sized ClientPositionUpdate.serialize)).record
    (fun p => (p.audioUpdates, p.positionUpdates)) (fun (a, b) => ⟨a, b⟩) fun _ => rfl

structure StatusPacket where
  talking : Bool
  microphoneMuted : Bool
  speakersMuted : Bool
deriving DecidableEq

def StatusPacket.serialize : Codec StatusPacket :=
  (Codec.boolean.prod (Codec.boolean.prod .boolean)).record
    (fun p => (p.talking, p.microphoneMuted, p.speakersMuted))
    (fun (a, b, c) => ⟨a, b, c⟩) fun _ => rfl

structure ControlPacket where
  nickname : StdString
deriving DecidableEq

def ControlPacket.serialize : Codec ControlPacket :=
  string.record ControlPacket.nickname ControlPacket.mk fun _ => rfl

def verifyProtocolVersion (major minor minMajor minMinor : Int32) : Bool :=
  if major > minMajor then true
  else if major < minMajor then false
  else if minor > minMinor then true
  else if minor < minMinor then false
  else true

-- What a caller gets back from a C++ function: a value, a reference to a local whose lifetime
-- has ended, or nothing because control ran off the end of the body.
inductive Returned (α : Type) where
  | value (a : α)
  | dangling (a : Option α)
  | missing
deriving DecidableEq

structure Serialized where
  result : Bool
  data : Bytes
  returned : Returned Bytes

-- `data` is computed, but no statement returns it.
def serializePacket {T : Type} (serialize : Codec T) (packet : T) : Serialized :=
  let data := serialize.encode packet
  ⟨true, data, .missing⟩

structure Deserialized (T : Type) where
  result : Bool
  outputPacket : Option T
  returned : Returned T

def deserializePacket {T : Type} (serialize : Codec T) (packet : Bytes) : Deserialized T :=
  match serialize.decode packet with
  | none => ⟨false, none, .dangling none⟩
  -- nothing looks at the bytes that are left
  | some (outputPacket, _) => ⟨true, some outputPacket, .dangling (some outputPacket)⟩

end JustAnotherVoiceChat
