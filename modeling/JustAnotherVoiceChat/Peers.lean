import JustAnotherVoiceChat.Joining
import JustAnotherVoiceChat.Library.Trace

set_option autoImplicit false

namespace JustAnotherVoiceChat

open Binary Interaction

-- What is sent goes to a peer that was not reset before.
def SendOk (older : List Entry) (e : Entry) : Prop :=
  ∀ peer channelID packet reliable, e.call = .enet (.peerSend peer channelID packet reliable) →
    ∃ id, peer = some id ∧ ∀ x ∈ older, x.call ≠ .enet (.peerReset (some id))

structure Guarded (older : List Entry) (w : World) : Prop where
  lawful : Trace.Lawful SendOk older
  resets : ∀ e ∈ older, ∀ id, e.call = .enet (.peerReset (some id)) → id < w.enet.nextPeer
  held : ∀ id, w.memory.client.peer = some id →
    id < w.enet.nextPeer ∧ ∀ e ∈ older, e.call ≠ .enet (.peerReset (some id))

-- The entries since `w` keep this, whatever entries were there before.
structure Guards (w u : World) : Prop where
  entries : ∃ entries, u.trace = entries ++ w.trace ∧
    ∀ older, Guarded older w → Guarded (entries ++ older) u

instance : Std.Refl Guards := ⟨fun _ => ⟨[], rfl, fun _ guarded => guarded⟩⟩

instance : IsTrans World Guards where
  trans _ _ _ := by
    rintro ⟨entries, trace, guards⟩ ⟨more, trace', guards'⟩
    refine ⟨more ++ entries, by simp [trace, trace'], fun older guarded => ?_⟩
    rw [List.append_assoc]
    exact guards' _ (guards older guarded)

section Entries

variable {w u : World} {entries : List Entry}

theorem Guards.of_entries (trace : u.trace = entries ++ w.trace)
    (peers : w.enet.nextPeer ≤ u.enet.nextPeer)
    (sends : ∀ e ∈ entries, ∀ peer channelID packet reliable,
      e.call ≠ .enet (.peerSend peer channelID packet reliable))
    (resets : ∀ e ∈ entries, ∀ id, e.call = .enet (.peerReset (some id)) →
      w.memory.client.peer = some id)
    (held : ∀ id, u.memory.client.peer = some id → w.memory.client.peer = some id ∧
      ∀ e ∈ entries, e.call ≠ .enet (.peerReset (some id))) : Guards w u := by
  refine ⟨entries, trace, fun older guarded => ⟨?_, ?_, ?_⟩⟩
  · refine Trace.lawful_append guarded.lawful ?_
    rintro later e before rfl peer channelID packet reliable same
    exact absurd same (sends e (by simp) peer channelID packet reliable)
  · intro e member id same
    rcases List.mem_append.mp member with new | old
    · exact lt_of_lt_of_le (guarded.held id (resets e new id same)).1 peers
    · exact lt_of_lt_of_le (guarded.resets e old id same) peers
  · intro id same
    obtain ⟨before, kept⟩ := held id same
    obtain ⟨known, kept'⟩ := guarded.held id before
    refine ⟨lt_of_lt_of_le known peers, fun e member => ?_⟩
    exact (List.mem_append.mp member).elim (kept e) (kept' e)

def External.Quiet : External → Prop
  | .enet (.peerSend _ _ _ _) | .enet (.peerReset _) => False
  | _ => True

theorem External.Quiet.not_send {call : External} (quiet : call.Quiet) (peer : Option PeerId)
    (channelID : UInt8) (packet : Outgoing) (reliable : Bool) :
    call ≠ .enet (.peerSend peer channelID packet reliable) := by
  rintro rfl
  exact quiet

theorem External.Quiet.not_reset {call : External} (quiet : call.Quiet) (peer : Option PeerId) :
    call ≠ .enet (.peerReset peer) := by
  rintro rfl
  exact quiet

def Silently (w u : World) : Prop :=
  ∃ entries, u.trace = entries ++ w.trace ∧ ∀ e ∈ entries, e.call.Quiet

theorem Guards.of_quiet (silently : Silently w u) (peers : w.enet.nextPeer ≤ u.enet.nextPeer)
    (peer : ∀ id, u.memory.client.peer = some id → w.memory.client.peer = some id) :
    Guards w u := by
  obtain ⟨entries, trace, quiet⟩ := silently
  refine .of_entries trace peers (fun e member => (quiet e member).not_send) ?_ ?_
  · exact fun e member id same => absurd same ((quiet e member).not_reset (some id))
  · exact fun id same => ⟨peer id same, fun e member => (quiet e member).not_reset (some id)⟩

theorem Guards.of_closed {caller : ThreadId} (closed : Closed caller w u) : Guards w u := by
  obtain ⟨entries, trace, closes⟩ := closed.trace
  refine .of_entries trace closed.peers.ge ?_ ?_ ?_
  · rintro e member peer channelID packet reliable same
    have drains := (closes e member).2.1
    rw [same] at drains
    exact drains
  · intro e member id same
    exact ((closes e member).2.2 _ same).symm
  · intro id same
    simp [closed.peer] at same

theorem Guards.of_aborted {answers : (call : External) → World → call.Reply → Prop}
    (aborted : Aborted answers w u) : Guards w u := by
  cases aborted with
  | none thread => exact Std.Refl.refl w
  | finished id thread phase => exact .of_quiet ⟨[], rfl, by simp⟩ (le_refl _) fun _ same => same
  | joined id thread alive v run =>
    obtain ⟨entries, trace, guards⟩ := Guards.of_closed (Aborted.closed thread run)
    refine ⟨entries, trace, fun older guarded => ?_⟩
    have after := guards older ⟨guarded.lawful, guarded.resets, guarded.held⟩
    exact ⟨after.lawful, after.resets, after.held⟩

theorem Guards.withPhase {id : ThreadId} {phase : Phase} (guards : Guards w u) :
    Guards w (u.withPhase id phase) := by
  obtain ⟨entries, trace, guards⟩ := guards
  refine ⟨entries, trace, fun older guarded => ?_⟩
  have after := guards older guarded
  exact ⟨after.lawful, after.resets, after.held⟩

theorem Guards.of_made (silently : Silently w u)
    (peers : u.enet.nextPeer = w.enet.nextPeer + 1)
    (peer : u.memory.client.peer = some w.enet.nextPeer) : Guards w u := by
  obtain ⟨entries, trace, quiet⟩ := silently
  refine ⟨entries, trace, fun older guarded => ⟨?_, ?_, ?_⟩⟩
  · refine Trace.lawful_append guarded.lawful ?_
    rintro later e before rfl peer channelID packet reliable same
    exact absurd same ((quiet e (by simp)).not_send peer channelID packet reliable)
  · intro e member id same
    rcases List.mem_append.mp member with new | old
    · exact absurd same ((quiet e new).not_reset (some id))
    · exact lt_of_lt_of_le (guarded.resets e old id same) (peers ▸ Nat.le_succ _)
  · intro id same
    obtain rfl := Option.some.inj (peer.symm.trans same)
    refine ⟨peers ▸ Nat.lt_succ_self _, fun e member reset => ?_⟩
    rcases List.mem_append.mp member with new | old
    · exact (quiet e new).not_reset _ reset
    · exact lt_irrefl _ (guarded.resets e old _ reset)

theorem Guards.of_sent {thread : ThreadId} {channelID : UInt8} {packet : Outgoing} {reliable : Bool}
    (connected : w.memory.client.peer ≠ none) : Guards w (w.record thread
      (.enet (.peerSend w.memory.client.peer channelID packet reliable)) ()) := by
  obtain ⟨id, peer⟩ := Option.ne_none_iff_exists'.mp connected
  refine ⟨[_], rfl, fun older guarded => ⟨⟨?_, guarded.lawful⟩, ?_, ?_⟩⟩
  · rintro _ _ _ _ ⟨⟩
    exact ⟨id, peer, (guarded.held id peer).2⟩
  · intro e member id same
    rcases List.mem_append.mp member with new | old
    · obtain rfl := List.mem_singleton.mp new
      cases same
    · exact guarded.resets e old id same
  · intro id same
    obtain ⟨known, kept⟩ := guarded.held id same
    refine ⟨known, fun e member reset => ?_⟩
    rcases List.mem_append.mp member with new | old
    · obtain rfl := List.mem_singleton.mp new
      cases reset
    · exact kept e old reset

end Entries

structure Sends (w u : World) : Prop where
  peer : u.memory.client.peer = w.memory.client.peer
  guards : w.memory.client.peer ≠ none → Guards w u

instance : Std.Refl Sends := ⟨fun w => ⟨rfl, fun _ => Std.Refl.refl w⟩⟩

instance : IsTrans World Sends where
  trans _ _ _ first second := by
    refine ⟨second.peer.trans first.peer, fun held => ?_⟩
    exact IsTrans.trans _ _ _ (first.guards held) (second.guards (first.peer ▸ held))

abbrev Silencing : Op → Prop := Op.Keeping (fun m => m.client.peer) External.Quiet

section Senders

variable {self : ThreadId} {env : Environment} {w : World} {α : Type}

theorem sends_of_quiet {p : Plugin α} (calls : p.Calls Silencing) :
    Stays (steps self env) Sends p := by
  intro w
  refine wp_mono ?_ (wp_keeping calls)
  intro _ u beside
  obtain ⟨entries, trace, told⟩ := beside.trace
  have peer : u.memory.client.peer = w.memory.client.peer := beside.memory
  refine ⟨peer, fun _ => .of_quiet ⟨entries, trace, fun e member => (told e member).2⟩ ?_ ?_⟩
  · rw [beside.enet]
  · rw [peer]
    exact fun _ same => same

theorem sends_rules : HandlerRules (steps self env) Sends where
  ofWrapper calls := by
    refine sends_of_quiet (calls.mono fun op ofWrapper => ?_)
    apply ofWrapper.elim trivial fun _ => trivial
    · exact fun update same m => congrArg Client.peer (same m)
    · exact fun _ => ⟨trivial, rfl⟩
  setClient same := sends_of_quiet ⟨fun m => linked_peer (same m), fun _ => trivial⟩
  sendPacket packet channelID reliable := by
    intro w
    unfold sendPacket
    simp only [wp_bind, wp_client, wp_peerSend]
    exact fun _ _ => ⟨rfl, Guards.of_sent⟩

end Senders

end JustAnotherVoiceChat
