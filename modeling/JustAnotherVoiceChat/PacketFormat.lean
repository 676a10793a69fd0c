import JustAnotherVoiceChat.Client

set_option autoImplicit false

namespace JustAnotherVoiceChat

open Binary Interaction

inductive PacketType where
  | protocol
  | protocolResponse
  | position
  | handshakeResponse
  | handshake
  | update
  | status
  | control
deriving DecidableEq

@[reducible] def PacketType.Packet : PacketType → Type
  | .protocol => ProtocolPacket
  | .protocolResponse => ProtocolResponsePacket
  | .position => PositionPacket
  | .handshakeResponse => HandshakeResponsePacket
  | .handshake => HandshakePacket
  | .update => UpdatePacket
  | .status => StatusPacket
  | .control => ControlPacket

def PacketType.serialize : (t : PacketType) → Codec t.Packet
  | .protocol => ProtocolPacket.serialize
  | .protocolResponse => ProtocolResponsePacket.serialize
  | .position => PositionPacket.serialize
  | .handshakeResponse => HandshakeResponsePacket.serialize
  | .handshake => HandshakePacket.serialize
  | .update => UpdatePacket.serialize
  | .status => StatusPacket.serialize
  | .control => ControlPacket.serialize

theorem positionUpdate_faithful : ClientPositionUpdate.serialize.Faithful :=
  Codec.record_faithful (fun _ => rfl) fun _ => rfl

theorem string_faithful : string.Faithful := Codec.sized_faithful fun _ => rfl

theorem audioUpdate_kept (update : ClientAudioUpdate) :
    ClientAudioUpdate.serialize.kept update = { update with filterKey := .empty } := rfl

theorem audioUpdate_kept_eq (update : ClientAudioUpdate) :
    ClientAudioUpdate.serialize.kept update = update ↔ update.filterKey = .empty := by
  rw [audioUpdate_kept]
  constructor
  · intro same
    rw [← same]
  · intro empty
    rw [← empty]

theorem updatePacket_kept_eq (p : UpdatePacket) : UpdatePacket.serialize.kept p = p ↔
    ∀ update ∈ p.audioUpdates.items, update.filterKey = .empty := by
  have audio := Codec.sized_kept_eq ClientAudioUpdate.serialize p.audioUpdates
  have positions := Codec.sized_faithful positionUpdate_faithful p.positionUpdates
  simp only [audioUpdate_kept_eq] at audio
  rw [← audio]
  constructor
  · intro same
    exact congrArg UpdatePacket.audioUpdates same
  · intro same
    exact congr (congrArg UpdatePacket.mk same) positions

def PacketType.filterKeys : (t : PacketType) → t.Packet → List StdString
  | .update, p => p.audioUpdates.items.map (·.filterKey)
  | _, _ => []

theorem positionPacket_faithful : PositionPacket.serialize.Faithful := by
  refine Codec.record_faithful (Codec.prod_faithful (fun _ => rfl) ?_) fun _ => rfl
  refine Codec.prod_faithful (fun _ => rfl) (Codec.prod_faithful (fun _ => rfl) ?_)
  exact Codec.prod_faithful (fun _ => rfl) (Codec.sized_faithful positionUpdate_faithful)

theorem handshakeResponse_faithful : HandshakeResponsePacket.serialize.Faithful := by
  refine Codec.record_faithful (Codec.prod_faithful (fun _ => rfl) ?_) fun _ => rfl
  refine Codec.prod_faithful string_faithful (Codec.prod_faithful string_faithful ?_)
  exact Codec.prod_faithful (fun _ => rfl) string_faithful

theorem handshake_faithful : HandshakePacket.serialize.Faithful := by
  refine Codec.record_faithful (Codec.prod_faithful (fun _ => rfl) ?_) fun _ => rfl
  exact Codec.prod_faithful (fun _ => rfl) (Codec.prod_faithful (fun _ => rfl) string_faithful)

theorem control_faithful : ControlPacket.serialize.Faithful :=
  Codec.record_faithful string_faithful fun _ => rfl

theorem kept_eq_of_faithful {t : PacketType} {p : t.Packet} (faithful : t.serialize.Faithful)
    (noKeys : t.filterKeys p = []) :
    t.serialize.kept p = p ↔ ∀ key ∈ t.filterKeys p, key = .empty := by
  rw [noKeys]
  exact iff_of_true (faithful p) (by simp)

theorem kept_eq (t : PacketType) (p : t.Packet) :
    t.serialize.kept p = p ↔ ∀ key ∈ t.filterKeys p, key = .empty := by
  cases t with
  | update =>
    change UpdatePacket.serialize.kept p = p ↔ _
    simp [updatePacket_kept_eq, PacketType.filterKeys]
  | position => exact kept_eq_of_faithful positionPacket_faithful rfl
  | handshakeResponse => exact kept_eq_of_faithful handshakeResponse_faithful rfl
  | handshake => exact kept_eq_of_faithful handshake_faithful rfl
  | control => exact kept_eq_of_faithful control_faithful rfl
  | protocol | protocolResponse | status => exact kept_eq_of_faithful (fun _ => rfl) rfl

theorem deserializePacket_output {T : Type} (serialize : Codec T) (payload : Bytes) :
    (deserializePacket serialize payload).outputPacket =
      (serialize.decode payload).map (·.1) := by
  unfold deserializePacket
  split <;> simp_all

theorem deserializePacket_result {T : Type} (serialize : Codec T) (payload : Bytes) :
    (deserializePacket serialize payload).result =
      (deserializePacket serialize payload).outputPacket.isSome := by
  unfold deserializePacket
  split <;> rfl

theorem deserializePacket_serializePacket (t : PacketType) (p : t.Packet) :
    (deserializePacket t.serialize (serializePacket t.serialize p).data).outputPacket =
      some (t.serialize.kept p) := by
  have read := t.serialize.decode_encode p []
  rw [List.append_nil] at read
  rw [deserializePacket_output]
  change (t.serialize.decode (t.serialize.encode p)).map (·.1) = _
  rw [read]
  rfl

def RoundTrips (t : PacketType) (p : t.Packet) : Prop :=
  (serializePacket t.serialize p).result = true ∧
    ∃ payload, (serializePacket t.serialize p).returned = .value payload ∧
      (deserializePacket t.serialize payload).result = true ∧
      (deserializePacket t.serialize payload).returned = .value p

def ArchivesRoundTrip (t : PacketType) (p : t.Packet) : Prop :=
  (deserializePacket t.serialize (serializePacket t.serialize p).data).outputPacket = some p

theorem archivesRoundTrip_iff (t : PacketType) (p : t.Packet) :
    ArchivesRoundTrip t p ↔ ∀ key ∈ t.filterKeys p, key = .empty := by
  rw [ArchivesRoundTrip, deserializePacket_serializePacket, Option.some.injEq, kept_eq]

theorem serializePacket_lost (t : PacketType) (p : t.Packet) (payload : Bytes) :
    (serializePacket t.serialize p).returned ≠ .value payload := nofun

theorem deserializePacket_lost (t : PacketType) (p : t.Packet) (payload : Bytes) :
    (deserializePacket t.serialize payload).returned ≠ .value p := by
  unfold deserializePacket
  split <;> exact nofun

/-- No packet comes back, since neither function hands out what it computed; what was computed is
the packet itself except for the filter keys. -/
theorem roundTrip_lost (t : PacketType) (p : t.Packet) : ¬ RoundTrips t p ∧
    (ArchivesRoundTrip t p ↔ ∀ key ∈ t.filterKeys p, key = .empty) := by
  refine ⟨?_, archivesRoundTrip_iff t p⟩
  rintro ⟨-, payload, returned, -⟩
  exact serializePacket_lost t p payload returned

theorem roundTrip_status_lost : ¬ ∀ t p, RoundTrips t p := by
  intro all
  obtain ⟨-, payload, -, -, returned⟩ := all .status ⟨true, false, false⟩
  exact deserializePacket_lost .status ⟨true, false, false⟩ payload returned

inductive Incoming where
  | protocolResponse
  | handshakeResponse
  | update
  | control
  | position
deriving DecidableEq

@[reducible] def Incoming.type : Incoming → PacketType
  | .protocolResponse => .protocolResponse
  | .handshakeResponse => .handshakeResponse
  | .update => .update
  | .control => .control
  | .position => .position

def Incoming.channel : Incoming → UInt8
  | .protocolResponse => networkProtocolChannel
  | .handshakeResponse => networkHandshakeChannel
  | .update => networkUpdateChannel
  | .control => networkControlChannel
  | .position => networkPositionChannel

def ClientAudioUpdate.written (update : ClientAudioUpdate) (flag : UInt8) : Bytes :=
  uint16.encode update.teamspeakId ++ ([flag] ++ float.encode update.volume)

def UpdatePacket.written (p : UpdatePacket) (flags : List UInt8) : Bytes :=
  Codec.uint64.encode (.ofNat p.audioUpdates.items.length) ++
    (List.zipWith ClientAudioUpdate.written p.audioUpdates.items flags).flatten ++
    (Codec.sized ClientPositionUpdate.serialize).encode p.positionUpdates

theorem audioUpdate_denotes {update : ClientAudioUpdate} {used : Bytes} :
    ClientAudioUpdate.serialize.Denotes update used ↔
      update.filterKey = .empty ∧ ∃ flag, (flag != 0) = update.muted ∧ used =
      update.written flag := by
  constructor
  · rintro ⟨⟨_, _, rfl, ⟨_, _, ⟨flag, rfl, read⟩, rfl, rfl⟩, rfl⟩, whole⟩
    exact ⟨congrArg ClientAudioUpdate.filterKey whole.symm, flag, read, rfl⟩
  · rintro ⟨empty, flag, read, rfl⟩
    exact ⟨⟨_, _, rfl, ⟨_, _, ⟨flag, rfl, read⟩, rfl, rfl⟩, rfl⟩, by rw [← empty]⟩

theorem audioUpdates_denote {updates : List ClientAudioUpdate} {used : Bytes} :
    ClientAudioUpdate.serialize.DenotesMany updates used ↔
      (∀ update ∈ updates, update.filterKey = .empty) ∧
      ∃ flags : List UInt8, flags.map (· != 0) = updates.map (·.muted) ∧
        used = (List.zipWith ClientAudioUpdate.written updates flags).flatten := by
  induction updates generalizing used with
  | nil => simp [Codec.DenotesMany]
  | cons update updates ih =>
    simp only [Codec.DenotesMany, audioUpdate_denotes, ih]
    constructor
    · rintro ⟨_, _, ⟨empty, flag, read, rfl⟩, ⟨rest, flags, reads, rfl⟩, rfl⟩
      exact ⟨by simpa [empty] using rest, flag :: flags, by simp [read, reads], by simp⟩
    · rintro ⟨empty, flags, reads, rfl⟩
      obtain ⟨head, tail⟩ := List.forall_mem_cons.mp empty
      obtain ⟨flag, rest, rfl, read, reads⟩ := List.map_eq_cons_iff.mp reads
      exact ⟨_, _, ⟨head, flag, read, rfl⟩, ⟨tail, rest, reads, rfl⟩, by simp⟩

theorem position_exact : ClientPositionUpdate.serialize.Exact := by
  refine Codec.record_exact (Codec.prod_exact (fun _ _ same => same) ?_)
  refine Codec.prod_exact (fun _ _ same => same) (Codec.prod_exact (fun _ _ same => same) ?_)
  exact Codec.prod_exact (fun _ _ same => same) fun _ _ same => same

theorem string_exact : string.Exact := Codec.sized_exact fun _ _ same => same

theorem int_exact : int.Exact := Codec.record_exact fun _ _ same => same

theorem protocolResponse_exact : ProtocolResponsePacket.serialize.Exact :=
  Codec.record_exact (Codec.prod_exact int_exact (Codec.prod_exact int_exact int_exact))

theorem handshakeResponse_exact : HandshakeResponsePacket.serialize.Exact := by
  refine Codec.record_exact (Codec.prod_exact int_exact ?_)
  refine Codec.prod_exact string_exact (Codec.prod_exact string_exact ?_)
  exact Codec.prod_exact (fun _ _ same => same) string_exact

theorem control_exact : ControlPacket.serialize.Exact := Codec.record_exact string_exact

theorem positionPacket_exact : PositionPacket.serialize.Exact := by
  refine Codec.record_exact (Codec.prod_exact (fun _ _ same => same) ?_)
  refine Codec.prod_exact (fun _ _ same => same) (Codec.prod_exact (fun _ _ same => same) ?_)
  exact Codec.prod_exact (fun _ _ same => same) (Codec.sized_exact position_exact)

theorem updatePacket_denotes {p : UpdatePacket} {used : Bytes} :
    UpdatePacket.serialize.Denotes p used ↔
      (∀ update ∈ p.audioUpdates.items, update.filterKey = .empty) ∧
      ∃ flags : List UInt8, flags.map (· != 0) = p.audioUpdates.items.map (·.muted) ∧
        used = p.written flags := by
  constructor
  · rintro ⟨⟨_, back, ⟨audio, denotes, rfl⟩, positions, rfl⟩, -⟩
    obtain ⟨empty, flags, reads, rfl⟩ := audioUpdates_denote.mp denotes
    rw [Codec.sized_exact position_exact _ _ positions]
    exact ⟨empty, flags, reads, rfl⟩
  · rintro ⟨empty, flags, reads, rfl⟩
    have denotes := audioUpdates_denote.mpr ⟨empty, flags, reads, rfl⟩
    have positions := (Codec.sized ClientPositionUpdate.serialize).encode_denotes p.positionUpdates
    rw [Codec.sized_faithful positionUpdate_faithful] at positions
    exact ⟨⟨_, _, ⟨_, denotes, rfl⟩, positions, rfl⟩, rfl⟩

-- The bytes that are accepted for a packet: the ones that are written for it, but for `muted`
-- bytes of an update packet, which stand for `true` whenever they are not zero.
def Incoming.Accepts : (m : Incoming) → m.type.Packet → Bytes → Prop
  | .update, p, used => (∀ update ∈ p.audioUpdates.items, update.filterKey = .empty) ∧
    ∃ flags : List UInt8, flags.map (· != 0) = p.audioUpdates.items.map (·.muted) ∧
      used = p.written flags
  | m, p, used => used = m.type.serialize.encode p

theorem denotes_iff_of_exact {T : Type} {c : Codec T} (exact : c.Exact) (faithful : c.Faithful)
    (p : T) (used : Bytes) : c.Denotes p used ↔ used = c.encode p := by
  constructor
  · intro denotes
    exact exact p used denotes
  · rintro rfl
    have denotes := c.encode_denotes p
    rwa [faithful] at denotes

theorem accepts_iff (m : Incoming) (p : m.type.Packet) (used : Bytes) :
    m.type.serialize.Denotes p used ↔ m.Accepts p used := by
  cases m with
  | update => exact updatePacket_denotes
  | protocolResponse => exact denotes_iff_of_exact protocolResponse_exact (fun _ => rfl) p used
  | handshakeResponse =>
    exact denotes_iff_of_exact handshakeResponse_exact handshakeResponse_faithful p used
  | control => exact denotes_iff_of_exact control_exact control_faithful p used
  | position => exact denotes_iff_of_exact positionPacket_exact positionPacket_faithful p used

theorem deserialized_iff (m : Incoming) (payload : Bytes) (p : m.type.Packet) :
    (deserializePacket m.type.serialize payload).outputPacket = some p ↔
      ∃ used rest, m.Accepts p used ∧ payload = used ++ rest := by
  rw [deserializePacket_output]
  constructor
  · intro read
    obtain ⟨⟨_, rest⟩, decoded, rfl⟩ := Option.map_eq_some_iff.mp read
    obtain ⟨used, denotes, split⟩ := (m.type.serialize.decode_iff _ _ _).mp decoded
    exact ⟨used, rest, (accepts_iff m _ used).mp denotes, split⟩
  · rintro ⟨used, rest, accepts, split⟩
    have denotes := (accepts_iff m p used).mpr accepts
    rw [(m.type.serialize.decode_iff _ _ _).mpr ⟨used, denotes, split⟩]
    rfl

theorem receive_failed {T : Type} {serialize : Codec T} {payload : Bytes}
    (failed : (deserializePacket serialize payload).result = false) :
    receive serialize payload = none := by
  simp [receive, failed]

theorem handleMessage_failed (m : Incoming) (payload : Bytes)
    (failed : (deserializePacket m.type.serialize payload).result = false) :
    handleMessage m.channel payload = .ret () := by
  have nothing := receive_failed failed
  cases m with
  | protocolResponse =>
    change receive ProtocolResponsePacket.serialize payload = none at nothing
    change handleProtocolResponse payload = _
    rw [handleProtocolResponse, nothing]
    rfl
  | handshakeResponse =>
    change receive HandshakeResponsePacket.serialize payload = none at nothing
    change handleHandshakeResponse payload = _
    rw [handleHandshakeResponse, nothing]
    rfl
  | update =>
    change receive UpdatePacket.serialize payload = none at nothing
    change handleUpdateMessage payload = _
    rw [handleUpdateMessage, nothing]
    rfl
  | control =>
    change receive ControlPacket.serialize payload = none at nothing
    change handleControlMessage payload = _
    rw [handleControlMessage, nothing]
    rfl
  | position =>
    change receive PositionPacket.serialize payload = none at nothing
    change handlePositionMessage payload = _
    rw [handlePositionMessage, nothing]
    rfl

structure PayloadLaw (m : Incoming) (payload : Bytes) : Prop where
  accepted : ∀ p, (deserializePacket m.type.serialize payload).outputPacket = some p ↔
    ∃ used rest, m.Accepts p used ∧ payload = used ++ rest
  accounted : ∀ p used, m.Accepts p used → used.length = (m.type.serialize.encode p).length
  succeeded : (deserializePacket m.type.serialize payload).result = true ↔
    ∃ p, (deserializePacket m.type.serialize payload).outputPacket = some p
  failed : (deserializePacket m.type.serialize payload).result = false →
    ∀ self env w, Exec (steps self env) (handleMessage m.channel payload) w () w ∧
      ∀ w', Exec (steps self env) (handleMessage m.channel payload) w () w' → w' = w
  truncated : ∀ p lost, lost ≠ [] → m.type.serialize.encode p = payload ++ lost →
    (deserializePacket m.type.serialize payload).result = false

/-- A payload is read when it begins with the bytes of a packet, and is dropped otherwise. -/
theorem deserializePacket_exact (m : Incoming) (payload : Bytes) : PayloadLaw m payload where
  accepted := deserialized_iff m payload
  accounted p used accepts :=
    (m.type.serialize.similar p used ((accepts_iff m p used).mpr accepts)).length_eq
  succeeded := by rw [deserializePacket_result, Option.isSome_iff_exists]
  failed result self env w := by
    rw [handleMessage_failed m payload result]
    refine ⟨.ret, fun w' run => ?_⟩
    cases run
    rfl
  truncated p lost some_lost written := by
    rw [deserializePacket_result, deserializePacket_output,
      Codec.decode_truncated _ written some_lost]
    rfl

-- A byte after the empty nickname is left unread.
theorem control_trailing_byte : ¬ ∀ (m : Incoming) (payload : Bytes) (p : m.type.Packet),
    (deserializePacket m.type.serialize payload).outputPacket = some p →
      payload = m.type.serialize.encode p := by
  intro exact
  have same := exact .control (ControlPacket.serialize.encode ⟨.empty⟩ ++ [0]) ⟨.empty⟩
    (((deserializePacket_exact .control _).accepted _).mpr ⟨_, [0], rfl, rfl⟩)
  revert same
  decide

end JustAnotherVoiceChat
