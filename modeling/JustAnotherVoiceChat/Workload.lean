import JustAnotherVoiceChat.Library.Tariff
import JustAnotherVoiceChat.Handlers
import JustAnotherVoiceChat.PlainUpdate
import JustAnotherVoiceChat.Scene

set_option autoImplicit false

namespace JustAnotherVoiceChat

open Binary Interaction

theorem receive_length {T : Type} {serialize : Codec T} {payload : Bytes} {packet : T}
    (received : receive serialize payload = some packet) :
    (serialize.encode packet).length ≤ payload.length := by
  cases read : serialize.decode payload with
  | none => simp [receive, deserializePacket, read] at received
  | some result =>
    obtain ⟨value, rest⟩ := result
    obtain rfl : value = packet := by simpa [receive, deserializePacket, read] using received
    obtain ⟨used, denotes, rfl⟩ := (serialize.decode_iff _ _ _).mp read
    rw [List.length_append, (serialize.similar _ _ denotes).length_eq]
    exact Nat.le_add_right _ _

theorem audioUpdate_length (update : ClientAudioUpdate) :
    (ClientAudioUpdate.serialize.encode update).length = 7 := rfl

theorem positionUpdate_length (update : ClientPositionUpdate) :
    (ClientPositionUpdate.serialize.encode update).length = 18 := rfl

theorem updatePacket_length (p : UpdatePacket) : (UpdatePacket.serialize.encode p).length =
    16 + 7 * p.audioUpdates.items.length + 18 * p.positionUpdates.items.length := by
  have unfolded : UpdatePacket.serialize.encode p =
    (Codec.sized ClientAudioUpdate.serialize).encode p.audioUpdates ++
      (Codec.sized ClientPositionUpdate.serialize).encode p.positionUpdates := rfl
  rw [unfolded, List.length_append, Codec.sized_length _ audioUpdate_length,
    Codec.sized_length _ positionUpdate_length]
  omega

theorem positionPacket_length (p : PositionPacket) :
    (PositionPacket.serialize.encode p).length = 24 + 18 * p.positions.items.length := by
  have unfolded : PositionPacket.serialize.encode p =
    float.encode p.x ++ (float.encode p.y ++ (float.encode p.z ++ (float.encode p.rotation ++
      (Codec.sized ClientPositionUpdate.serialize).encode p.positions))) := rfl
  have word (value : Single) : (float.encode value).length = 4 := rfl
  simp only [unfolded, List.length_append, word, Codec.sized_length _ positionUpdate_length]
  omega

theorem controlPacket_length (p : ControlPacket) :
    (ControlPacket.serialize.encode p).length = 8 + p.nickname.items.length := by
  have unfolded : ControlPacket.serialize.encode p = string.encode p.nickname := rfl
  rw [unfolded, string, Codec.sized_length .byte fun _ => rfl, Nat.mul_one]

namespace Workload

def brought (outcome : Serviced) : Nat :=
  match outcome.event with
  | .receive _ payload => if 0 < outcome.code then payload.length else 0
  | _ => 0

def Ordinary (outcome : Serviced) : Prop := ∀ channelID payload,
  outcome.event = .receive channelID payload →
    channelID ≠ networkProtocolChannel ∧ channelID ≠ networkHandshakeChannel

-- What `ts3_log` writes with `logMessage` is not in the model, and costs nothing here.
def tariff : Tariff Op Op.Reply where
  price
    | .external (.teamspeak _) => 3
    | _ => 0
  earns
    | .external (.enet (.serviceEnd _ _)), outcome => brought outcome
    | _, _ => 0
  told
    | .external (.enet (.serviceEnd _ _)), outcome => Ordinary outcome
    | _, _ => True

variable {credit : Nat}

theorem affords_client : tariff.Affords 0 client := ⟨Nat.zero_le _, fun _ _ => trivial⟩

theorem affords_setClient (update : Client → Client) : tariff.Affords 0 (setClient update) :=
  ⟨Nat.zero_le _, fun _ _ => trivial⟩

theorem affords_wrapper : tariff.Affords 0 wrapper := ⟨Nat.zero_le _, fun _ _ => trivial⟩

theorem affords_setWrapper (update : Wrapper → Wrapper) :
    tariff.Affords 0 (setWrapper update) := ⟨Nat.zero_le _, fun _ _ => trivial⟩

theorem affords_teamspeak (call : TeamSpeakCall) : tariff.Affords 3 (teamspeak call) :=
  .perform (Nat.le_refl 3)

theorem affords_packetDestroy : tariff.Affords 0 (enet .packetDestroy) :=
  .perform (Nat.zero_le _)

theorem affords_discard {α : Type} {p : Plugin α} (affords : tariff.Affords credit p) :
    tariff.Affords credit (discard p) :=
  affords.spend fun _ => .pure ()

theorem affords_ts3MuteClients (clients : SortedSet AnyID) (mute : Bool) :
    tariff.Affords (3 * clients.elems.length) (ts3MuteClients clients mute) := by
  unfold ts3MuteClients
  split
  · trivial
  rename_i nonempty
  have some_client : clients.elems ≠ [] := by simpa [SortedSet.isEmpty] using nonempty
  have enough : 3 ≤ 3 * clients.elems.length :=
    Nat.le_mul_of_pos_right 3 (List.length_pos_iff.mpr some_client)
  have caching (update : AnyID → Wrapper → Wrapper) (result : Bool) :
      tariff.Affords 0 (do
        forM clients.elems fun id => setWrapper (update id)
        return result) := by
    have cached : tariff.Affords (clients.elems.length * 0)
        (forM clients.elems fun id => setWrapper (update id)) :=
      Tariff.Affords.forM fun id _ => affords_setWrapper (update id)
    exact cached.then fun _ => trivial
  dsimp only
  split
  · apply affords_wrapper.then
    intro w
    apply ((affords_teamspeak _).mono enough).spend
    intro result
    split
    · exact caching _ result
    · trivial
  · apply affords_wrapper.then
    intro w
    apply ((affords_teamspeak _).mono enough).spend
    intro result
    split
    · exact caching _ result
    · trivial

theorem affords_ts3SetClientPosition (id : AnyID) (x y z : Single) :
    tariff.Affords 3 (ts3SetClientPosition id x y z) := by
  unfold ts3SetClientPosition
  apply affords_wrapper.then
  intro w
  split
  · trivial
  · exact affords_wrapper.then fun _ => affords_teamspeak _

theorem affords_setClientPositions (updates : List ClientPositionUpdate) :
    tariff.Affords (updates.length * 3) (setClientPositions updates) :=
  Tariff.Affords.forM fun _ _ => affords_discard (affords_ts3SetClientPosition _ _ _ _)

theorem affords_ts3SetNickname (nickname : StdString) :
    tariff.Affords 9 (ts3SetNickname nickname) := by
  unfold ts3SetNickname
  apply affords_wrapper.then
  intro w
  split
  · trivial
  apply affords_wrapper.then
  intro w
  change tariff.Affords (3 + 6) _
  apply (affords_teamspeak _).bind
  intro current
  cases current with
  | none => exact (affords_setWrapper _).then fun _ => trivial
  | some current =>
    have renames : tariff.Affords 6 (do
        if !(← teamspeak (.setClientSelfVariableAsString (← wrapper).serverConnectionHandler
            .nickname (cStr nickname))) then
          return false
        teamspeak (.flushClientSelfUpdates (← wrapper).serverConnectionHandler)) := by
      apply affords_wrapper.then
      intro w
      change tariff.Affords (3 + 3) _
      apply (affords_teamspeak _).bind
      intro staged
      split
      · trivial
      · exact affords_wrapper.then fun _ => affords_teamspeak _
    dsimp only
    split
    · trivial
    apply affords_wrapper.then
    intro w
    split
    · exact (affords_setWrapper _).then fun _ => renames
    · exact renames

theorem affords_service {α : Type} {f : Serviced → Plugin α} (timeout : Nat)
    (rest : ∀ outcome, Ordinary outcome → tariff.Affords (brought outcome) (f outcome)) :
    tariff.Affords 0 (service timeout >>= f) := by
  unfold service
  refine ⟨Nat.le_refl 0, fun _ _ => ⟨Nat.le_refl 0, fun _ _ => ⟨Nat.le_refl 0, ?_⟩⟩⟩
  intro outcome ordinary
  exact (rest outcome ordinary).mono (Nat.le_add_left _ _)

theorem splitAudioUpdates_length (updates : List ClientAudioUpdate) :
    (splitAudioUpdates updates).1.elems.length + (splitAudioUpdates updates).2.elems.length ≤
      updates.length := by
  induction updates using List.reverseRecOn with
  | nil => exact Nat.le_refl 0
  | append_singleton updates update ih =>
    have inserted (clients : SortedSet AnyID) :
        (clients.insert update.teamspeakId).elems.length ≤ clients.elems.length + 1 :=
      SortedSet.length_insertIn_le _ _
    have muting := inserted (splitAudioUpdates updates).1
    have unmuting := inserted (splitAudioUpdates updates).2
    rw [PlainUpdate.splitAudioUpdates_snoc, List.length_append, List.length_singleton]
    split <;> dsimp only <;> omega

theorem affords_handleUpdateMessage (payload : Bytes) :
    tariff.Affords payload.length (handleUpdateMessage payload) := by
  unfold handleUpdateMessage
  cases received : receive UpdatePacket.serialize payload with
  | none => trivial
  | some packet =>
    have long := receive_length received
    have split := splitAudioUpdates_length packet.audioUpdates.items
    rw [updatePacket_length] at long
    have handled := (affords_discard (affords_ts3MuteClients
      (splitAudioUpdates packet.audioUpdates.items).1 true)).bind fun _ =>
        (affords_discard (affords_ts3MuteClients
          (splitAudioUpdates packet.audioUpdates.items).2 false)).bind fun _ =>
            affords_setClientPositions packet.positionUpdates.items
    exact handled.mono (by omega)

theorem affords_handleControlMessage (payload : Bytes) :
    tariff.Affords payload.length (handleControlMessage payload) := by
  unfold handleControlMessage
  cases received : receive ControlPacket.serialize payload with
  | none => trivial
  | some packet =>
    have long := receive_length received
    rw [controlPacket_length] at long
    dsimp only
    split
    · rename_i named
      have some_byte : packet.nickname.items ≠ [] := fun none => named (Sized.ext none)
      have present := List.length_pos_iff.mpr some_byte
      exact (affords_discard (affords_ts3SetNickname packet.nickname)).mono (by omega)
    · trivial

theorem affords_handlePositionMessage (payload : Bytes) :
    tariff.Affords payload.length (handlePositionMessage payload) := by
  unfold handlePositionMessage
  cases received : receive PositionPacket.serialize payload with
  | none => trivial
  | some packet =>
    have long := receive_length received
    rw [positionPacket_length] at long
    exact (affords_setClientPositions packet.positions.items).mono (by omega)

theorem affords_handleMessage {channelID : UInt8} (payload : Bytes)
    (protocol : channelID ≠ networkProtocolChannel)
    (handshake : channelID ≠ networkHandshakeChannel) :
    tariff.Affords payload.length (handleMessage channelID payload) := by
  unfold handleMessage
  rw [if_neg protocol, if_neg handshake]
  split
  · exact affords_handleUpdateMessage payload
  split
  · exact affords_handleControlMessage payload
  split
  · exact affords_handlePositionMessage payload
  · trivial

theorem affords_handleEvent {outcome : Serviced} (ordinary : Ordinary outcome)
    (positive : 0 < outcome.code) :
    tariff.Affords (brought outcome) (handleEvent outcome.event) := by
  obtain ⟨code, event⟩ := outcome
  cases event with
  | none | connect => trivial
  | disconnect =>
    unfold handleEvent
    exact (affords_setClient _).mono (Nat.zero_le _)
  | receive channelID payload =>
    obtain ⟨protocol, handshake⟩ := ordinary channelID payload rfl
    have worth : brought ⟨code, .receive channelID payload⟩ = payload.length := if_pos positive
    rw [worth]
    unfold handleEvent
    apply affords_client.then
    intro c
    split
    · exact affords_packetDestroy.mono (Nat.zero_le _)
    · exact (affords_handleMessage payload protocol handshake).spend fun _ => affords_packetDestroy

-- What a round asks of TeamSpeak is paid for by the message it takes.
theorem affords_updateRound : tariff.Affords 0 updateRound := by
  have handling (outcome : Serviced) (ordinary : Ordinary outcome) :
      tariff.Affords (brought outcome) (do
        if 0 < outcome.code then
          handleEvent outcome.event
        else if outcome.code < 0 then
          setClient fun c => { c with running := false }
        return (none : Option Unit)) := by
    split
    · rename_i positive
      exact (affords_handleEvent ordinary positive).spend fun _ => trivial
    split
    · exact ((affords_setClient _).mono (Nat.zero_le _)).spend fun _ => trivial
    · trivial
  unfold updateRound
  apply affords_client.then
  intro c
  split
  · trivial
  apply affords_client.then
  intro c
  split
  · trivial
  exact affords_service 100 handling

def own (self : ThreadId) (w : World) : List Entry := w.trace.filter (·.thread = self)

def carried : Entry → Nat
  | ⟨_, .enet (.serviceEnd _ _), outcome⟩ => brought outcome
  | _ => 0

def asked (self : ThreadId) (w : World) : Nat := (own self w).countP (·.call.isTeamspeak)

def received (self : ThreadId) (w : World) : Nat := ((own self w).map carried).sum

def beset (self : ThreadId) (answers : (call : External) → World → call.Reply → Prop) :
    Semantics Op Op.Reply World :=
  fun op w reply u =>
    ∃ v, own self v = own self w ∧ steps self (.updating self answers) op v reply u

theorem asked_record (self : ThreadId) (w : World) (call : External) (reply : call.Reply) :
    3 * asked self (w.record self call reply) =
      3 * asked self w + tariff.price (.external call) := by
  have grown : own self (w.record self call reply) = ⟨self, call, reply⟩ :: own self w := by
    simp [own]
  rw [asked, grown, asked, List.countP_cons]
  cases call <;> simp [External.isTeamspeak, tariff, Nat.mul_add]

theorem received_record (self : ThreadId) (w : World) (call : External) (reply : call.Reply) :
    received self (w.record self call reply) =
      received self w + tariff.earns (.external call) reply := by
  have grown : own self (w.record self call reply) = ⟨self, call, reply⟩ :: own self w := by
    simp [own]
  rw [received, grown, received, List.map_cons, List.sum_cons, Nat.add_comm]
  congr 1
  cases call with
  | enet call => cases call <;> rfl
  | teamspeak | object => rfl

theorem beset_reckons {self : ThreadId}
    {answers : (call : External) → World → call.Reply → Prop}
    (ordinary : ∀ host timeout w outcome,
      answers (.enet (.serviceEnd host timeout)) w outcome → Ordinary outcome) :
    tariff.Reckons (beset self answers) (3 * asked self ·) (received self) := by
  rintro op w reply u ⟨v, same, step⟩
  have unchanged {w u : World} (trace : own self u = own self w) :
      3 * asked self u = 3 * asked self w + 0 ∧ received self u = received self w + 0 := by
    simp [asked, received, trace]
  cases op with
  | load =>
    obtain ⟨-, rfl⟩ := step
    exact ⟨trivial, unchanged same⟩
  | store update =>
    obtain rfl := step
    exact ⟨trivial, unchanged same⟩
  | sleep =>
    obtain rfl := step
    exact ⟨trivial, unchanged same⟩
  | thread call =>
    have still : u = v := by
      cases call with
      | selfId => exact step.2
      | _ => exact step
    exact ⟨trivial, unchanged (still ▸ same)⟩
  | external call =>
    obtain ⟨answered, v', moved, rfl⟩ := step
    have same : own self v' = own self w := by
      rw [← same, own, own, moved.frame.2.2]
    obtain ⟨spent, earned⟩ := unchanged same
    refine ⟨?_, (asked_record self v' call reply).trans (by rw [spent]; rfl),
      (received_record self v' call reply).trans (by rw [earned]; rfl)⟩
    cases call with
    | enet call =>
      cases call with
      | serviceEnd host timeout => exact ordinary host timeout v reply answered
      | _ => trivial
    | teamspeak | object => trivial

def placing : Replies where
  teamspeak := obliging [1] .empty
  enet
    | .serviceEnd _ _, w =>
      if w.trace.all (·.message.isNone) then ⟨1, .receive networkPositionChannel Scene.placement⟩
      else ⟨-1, .none⟩
    | call, w => connecting 1 call w
  thread := lone 2

def unshaken (call : External) (_ : World) (reply : call.Reply) : Prop :=
  match call, reply with
  | .enet (.serviceEnd _ _), outcome => Ordinary outcome
  | _, _ => True

theorem placing_within : placing.Within (.updating 2 unshaken) := by
  refine ⟨fun _ _ => trivial, fun call w => ?_, fun _ _ => trivial, (lone_within rfl).2.2.2⟩
  cases call with
  | serviceEnd host timeout =>
    change Ordinary (placing.enet (.serviceEnd host timeout) w)
    simp only [placing]
    split
    · rintro _ _ ⟨⟩
      exact ⟨by decide, by decide⟩
    · exact nofun
  | _ => trivial

def placed : World := ranPlugin 2 placing (Program.repeatUntil updateRound) MoveEvents.game

theorem moves_placed : Moves (beset 2 unshaken) (Program.repeatUntil updateRound) MoveEvents.game
    (.ret ()) placed := by
  have run : Exec (beset 2 unshaken) (Program.repeatUntil updateRound) MoveEvents.game () placed :=
    (exec_ranPlugin placing_within (by decide)).widen fun _ w _ _ step => ⟨w, rfl, step⟩
  have moves := run.moves .ret
  rwa [Program.bind_ret] at moves

end Workload

open Workload in
/-- Once the handshake is over, an update thread calls TeamSpeak, but for its log, at most once for
every three bytes that it was sent, at any time and whatever the others do. -/
theorem requests_paid {self : ThreadId}
    {answers : (call : External) → World → call.Reply → Prop}
    (ordinary : ∀ host timeout w outcome,
      answers (.enet (.serviceEnd host timeout)) w outcome → Ordinary outcome)
    {w u : World} {rest : Plugin Unit}
    (run : Moves (beset self answers) (Program.repeatUntil updateRound) w rest u) :
    3 * asked self u + received self w ≤ 3 * asked self w + received self u :=
  (Tariff.Affords.repeatUntil affords_updateRound).moves (beset_reckons ordinary) run

open Workload in
theorem requests_paid_placed :
    3 * asked 2 placed + received 2 MoveEvents.game ≤
      3 * asked 2 MoveEvents.game + received 2 placed :=
  requests_paid (fun _ _ _ _ told => told) moves_placed

end JustAnotherVoiceChat
