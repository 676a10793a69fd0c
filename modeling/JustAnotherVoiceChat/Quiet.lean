import JustAnotherVoiceChat.Handshake

set_option autoImplicit false

namespace JustAnotherVoiceChat

open Binary Interaction

def Op.Quiet {α : Type} (kind : External → Prop) (part : Memory → α) : Op → Prop
  | .load | .sleep _ => True
  | .store update => ∀ m, part (update m) = part m
  | .external call => kind call
  | .thread _ => False

section Quiet

variable {α β γ : Type} {kind : External → Prop} {part : Memory → α} {p : Plugin β}

theorem memory_of_step {self : ThreadId} {env : Environment} {w u : World} {op : Op}
    {reply : op.Reply} (step : steps self env op w reply u) :
    match op with
    | .store update => u.memory = update w.memory
    | .load | .sleep _ | .external _ => u.memory = w.memory
    | .thread _ => True := by
  cases op with
  | load => exact congrArg World.memory step.2
  | sleep => exact congrArg World.memory (step : u = w)
  | store update => exact congrArg World.memory (step : u = _)
  | thread => trivial
  | external call =>
    obtain ⟨-, x, stepped, same⟩ := step
    exact (congrArg World.memory same).trans stepped.frame.1

theorem Op.Quiet.kept {self : ThreadId} {env : Environment} {w u : World} {op : Op}
    {reply : op.Reply} (quiet : op.Quiet kind part) (step : steps self env op w reply u) :
    part u.memory = part w.memory := by
  have memory := memory_of_step step
  cases op with
  | load | sleep | external => exact congrArg part memory
  | store update => exact (congrArg part memory).trans (quiet w.memory)
  | thread => cases quiet

theorem quiet_client : client.Calls (Op.Quiet kind part) :=
  Program.Calls.bind ⟨trivial, fun _ => trivial⟩ fun _ => trivial

theorem quiet_teamspeak {call : TeamSpeakCall} (allowed : kind (.teamspeak call)) :
    (teamspeak call).Calls (Op.Quiet kind part) :=
  ⟨allowed, fun _ => trivial⟩

theorem quiet_sleepFor (milliseconds : Nat) :
    (sleepFor milliseconds).Calls (Op.Quiet kind part) :=
  ⟨trivial, fun _ => trivial⟩

theorem quiet_setClient {update : Client → Client}
    (keeps : ∀ m : Memory, part { m with client := update m.client } = part m) :
    (setClient update).Calls (Op.Quiet kind part) :=
  ⟨keeps, fun _ => trivial⟩

theorem quiet_of_on {whole : Memory → γ} {topics : List Topic}
    (calls : p.Calls (Op.On whole topics))
    (allowed : ∀ call : TeamSpeakCall, call.topic ∈ topics → kind (.teamspeak call))
    (less : ∀ m m', whole m = whole m' → part m = part m') : p.Calls (Op.Quiet kind part) :=
  calls_of_on calls trivial (fun _ => trivial) (fun _ keeping m => less _ _ (keeping m)) allowed

theorem quiet_of_asking {topics : List Topic} (calls : p.Calls (Op.On id topics))
    (allowed : ∀ call : TeamSpeakCall, call.topic ∈ topics → kind (.teamspeak call)) :
    p.Calls (Op.Quiet kind part) :=
  quiet_of_on calls allowed fun _ _ same => congrArg part same

theorem quiet_sendHandshake {statusCode : Int32}
    (identity : ∀ call : TeamSpeakCall, call.topic ∈ [Topic.readString] → kind (.teamspeak call))
    (sends : ∀ peer packet, packet.statusCode = statusCode →
      kind (.enet (.peerSend peer networkHandshakeChannel (.handshake packet) true))) :
    (sendHandshake statusCode).Calls (Op.Quiet kind part) := by
  unfold sendHandshake sendPacket
  apply quiet_client.bind
  intro first
  apply quiet_client.bind
  intro second
  apply (quiet_of_asking ts3GetClientIdentity_on identity).bind
  intro identity
  dsimp only
  split
  · trivial
  · exact quiet_client.bind fun _ => ⟨sends _ _ rfl, fun _ => trivial⟩

theorem quiet_sendStatus
    (sends : ∀ peer packet,
      kind (.enet (.peerSend peer networkStatusChannel (.status packet) true))) :
    sendStatus.Calls (Op.Quiet kind part) := by
  unfold sendStatus sendPacket
  apply quiet_client.bind
  intro first
  apply quiet_client.bind
  intro second
  apply quiet_client.bind
  intro third
  dsimp only
  split
  · trivial
  · exact quiet_client.bind fun _ => ⟨sends _ _, fun _ => trivial⟩

theorem quiet_isInputMuted {handle : UInt64}
    (asks : ∀ flag, kind (.teamspeak (.getClientSelfVariableAsInt handle flag))) :
    (ts3IsInputMuted handle).Calls (Op.Quiet kind part) := by
  unfold ts3IsInputMuted
  apply (quiet_teamspeak (asks _)).bind
  rintro (_ | hardware)
  · trivial
  dsimp only
  split
  · trivial
  apply (quiet_teamspeak (asks _)).bind
  rintro (_ | deactivated)
  · trivial
  dsimp only
  split
  · trivial
  apply (quiet_teamspeak (asks _)).bind
  rintro (_ | muted)
  · trivial
  · trivial

theorem quiet_isOutputMuted {handle : UInt64}
    (hardware : kind (.teamspeak (.getClientSelfVariableAsInt handle .outputHardware)))
    (muted : kind (.teamspeak (.getClientSelfVariableAsInt handle .outputMuted))) :
    (ts3IsOutputMuted handle).Calls (Op.Quiet kind part) := by
  unfold ts3IsOutputMuted
  apply (quiet_teamspeak hardware).bind
  rintro (_ | hardware)
  · trivial
  dsimp only
  split
  · trivial
  apply (quiet_teamspeak muted).bind
  rintro (_ | muted)
  · trivial
  · trivial

end Quiet

end JustAnotherVoiceChat
