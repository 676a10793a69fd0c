import JustAnotherVoiceChat.Client
import JustAnotherVoiceChat.Wrapper

set_option autoImplicit false

namespace JustAnotherVoiceChat

open Binary Interaction

namespace World

def withoutPeer (w : World) (self : ThreadId) : World :=
  if w.memory.client.peer = none then w
  else ((w.setEnet (w.enet.reset w.memory.client.peer)).record self
    (.enet (.peerReset w.memory.client.peer)) ()).setClient fun c => { c with peer := none }

def withoutHost (w : World) (self : ThreadId) : World :=
  if w.memory.client.client = none then w
  else (w.record self (.enet (.hostDestroy w.memory.client.client)) ()).setClient fun c =>
    { c with client := none }

def closed (w : World) (self : ThreadId) : World :=
  ((w.withoutPeer self).withoutHost self).setClient fun c =>
    { c with running := false, host := .empty, port := 0, gameId := 0, teamspeakId := 0 }

theorem withoutPeer_none {w : World} {self : ThreadId} (none : w.memory.client.peer = none) :
    w.withoutPeer self = w := if_pos none

theorem withoutPeer_some {w : World} {self : ThreadId} (some : w.memory.client.peer ≠ none) :
    w.withoutPeer self = ((w.setEnet (w.enet.reset w.memory.client.peer)).record self
      (.enet (.peerReset w.memory.client.peer)) ()).setClient
        fun c => { c with peer := Option.none } :=
  if_neg some

theorem withoutHost_none {w : World} {self : ThreadId} (none : w.memory.client.client = none) :
    w.withoutHost self = w := if_pos none

theorem withoutHost_some {w : World} {self : ThreadId} (some : w.memory.client.client ≠ none) :
    w.withoutHost self = (w.record self (.enet (.hostDestroy w.memory.client.client)) ()).setClient
      fun c => { c with client := Option.none } :=
  if_neg some

theorem withoutPeer_client (w : World) (self : ThreadId) :
    (w.withoutPeer self).memory.client = { w.memory.client with peer := none } := by
  unfold withoutPeer
  split
  · rename_i none
    rw [← none]
  · rfl

theorem withoutPeer_enet (w : World) (self : ThreadId) :
    (w.withoutPeer self).enet = w.enet.reset w.memory.client.peer := by
  unfold withoutPeer
  split
  · rename_i none
    simp [none, Enet.reset]
  · rfl

theorem withoutHost_client (w : World) (self : ThreadId) :
    (w.withoutHost self).memory.client = { w.memory.client with client := none } := by
  unfold withoutHost
  split
  · rename_i none
    rw [← none]
  · rfl

theorem withoutHost_enet (w : World) (self : ThreadId) : (w.withoutHost self).enet = w.enet := by
  unfold withoutHost
  split <;> rfl

@[simp] theorem closed_client (w : World) (self : ThreadId) : (w.closed self).memory.client =
    { w.memory.client with
      client := none, peer := none, running := false, host := .empty, port := 0, gameId := 0,
      teamspeakId := 0 } := by
  simp [closed, withoutHost_client, withoutPeer_client]

@[simp] theorem closed_wrapper (w : World) (self : ThreadId) :
    (w.closed self).memory.wrapper = w.memory.wrapper := by
  unfold closed withoutHost withoutPeer
  split <;> split <;> rfl

@[simp] theorem closed_teamspeak (w : World) (self : ThreadId) :
    (w.closed self).teamspeak = w.teamspeak := by
  unfold closed withoutHost withoutPeer
  split <;> split <;> rfl

@[simp] theorem closed_phase (w : World) (self : ThreadId) : (w.closed self).phase = w.phase := by
  unfold closed withoutHost withoutPeer
  split <;> split <;> rfl

@[simp] theorem closed_enet (w : World) (self : ThreadId) :
    (w.closed self).enet = w.enet.reset w.memory.client.peer := by
  rw [closed, setClient_enet, withoutHost_enet, withoutPeer_enet]

end World

section Rules

variable {self : ThreadId} {env : Environment} {w : World} {post : Unit → World → Prop}

theorem wp_closeConnection (after : post () (w.closed self)) :
    wp (steps self env) closeConnection post w := by
  unfold closeConnection
  simp only [wp_bind, wp_client, wp_setClient, wp_ite, wp_peerReset, wp_hostDestroy,
    World.setClient_setClient]
  rw [World.closed] at after
  by_cases peer : w.memory.client.peer = none
  · rw [World.withoutPeer_none peer] at after
    by_cases host : w.memory.client.client = none
    · rw [World.withoutHost_none host] at after
      simp [peer, host, after]
    · rw [World.withoutHost_some host] at after
      simp only [peer, host, ne_eq, not_true, not_false_eq_true, if_true, if_false]
      exact fun _ _ => after
  · have same : (w.withoutPeer self).memory.client.client = w.memory.client.client := by
      rw [World.withoutPeer_client]
    by_cases host : w.memory.client.client = none
    · rw [World.withoutHost_none (same.trans host), World.withoutPeer_some peer] at after
      simp only [peer, ne_eq, not_false_eq_true, if_true, World.setClient_client,
        World.record_memory, World.setEnet_memory, host, not_true, if_false]
      exact fun _ _ => after
    · rw [World.withoutHost_some (by rwa [same]), World.withoutPeer_some peer] at after
      simp only [peer, ne_eq, not_false_eq_true, if_true, World.setClient_client,
        World.record_memory, World.setEnet_memory, host]
      exact fun _ _ _ _ => after

def Environment.Knows (env : Environment) (self : ThreadId) : Prop :=
  ∀ w reply u, env.threading .selfId w reply u → reply = self ∧ u = w

theorem wp_abortThread_self (knows : env.Knows self)
    (self_or_none : ∀ id ∈ w.memory.client.thread, id = self) (after : post () w) :
    wp (steps self env) abortThread post w := by
  unfold abortThread
  simp only [wp_bind, wp_client, wp_ite, wp_ret, Program.pure_eq]
  split
  · exact after
  · rename_i some
    obtain ⟨id, held⟩ := Option.ne_none_iff_exists'.mp some
    intro reply u told
    obtain ⟨rfl, rfl⟩ := knows w reply u told
    simpa [held, self_or_none id held] using after

theorem wp_service {timeout : Nat} {post : Serviced → World → Prop}
    (after : ∀ serviced, post serviced (((w.record self (.enet (.serviceBegin
      w.memory.client.client timeout)) ()).setEnet (if 0 < serviced.code ∧ serviced.event = .connect
      then w.enet.connected w.memory.client.client else w.enet)).record self (.enet (.serviceEnd
      w.memory.client.client timeout)) serviced)) :
    wp (steps self env) (service timeout) post w := by
  unfold service
  simp only [wp_bind, wp_client, wp_serviceBegin, wp_serviceEnd]
  intro _ _ serviced _
  exact after serviced

end Rules

def apartFromChannel (m : Memory) : Client × Globals :=
  ({ m.client with lastChannelId := 0 }, m.globals)

theorem resetTeamspeak_calls : resetTeamspeak.Calls
    (Op.Keeping apartFromChannel fun call => call.isTeamspeak = true) := by
  have wrapping {α : Type} {p : Plugin α} (calls : p.Calls Op.OfWrapper) : p.Calls
      (Op.Keeping apartFromChannel fun call => call.isTeamspeak = true) :=
    calls.mono fun op keeping => Op.Keeping.mono
      (fun (c, g) => ({ c with lastChannelId := 0 }, g)) (fun _ => rfl) keeping
  have parts : PartPrograms (fun {_} p => p.Calls
      (Op.Keeping apartFromChannel fun call => call.isTeamspeak = true)) :=
    .of_wrapper Program.Calls.bind wrapping
  exact parts.resetTeamspeak ⟨fun _ => rfl, fun _ => trivial⟩

abbrev Restored (caller : ThreadId) : World → World → Prop :=
  Beside apartFromChannel (fun call => call.isTeamspeak = true) caller

theorem wp_resetTeamspeak {self : ThreadId} {env : Environment} {w : World} :
    wp (steps self env) resetTeamspeak (fun _ u => Restored self w u) w :=
  wp_keeping resetTeamspeak_calls

theorem wp_close_self {self : ThreadId} {env : Environment} {w : World} (knows : env.Knows self)
    (self_or_none : ∀ id ∈ w.memory.client.thread, id = self) :
    wp (steps self env) close (fun _ u => Restored self (w.closed self) u) w := by
  unfold close
  simp only [wp_bind]
  refine wp_abortThread_self knows self_or_none (wp_closeConnection ?_)
  exact wp_resetTeamspeak

-- The calls after the request to disconnect: those of the loop that waits and of `close()`.
def External.Drains : External → Prop
  | .teamspeak _ | .enet (.peerReset _) | .enet (.hostDestroy _) | .enet .packetDestroy => True
  | .enet (.serviceBegin _ timeout) | .enet (.serviceEnd _ timeout) => timeout = 3000
  | _ => False

def Closes (caller : ThreadId) (peer : Option PeerId) (entries : List Entry) : Prop :=
  ∀ e ∈ entries, e.thread = caller ∧ e.call.Drains ∧
    ∀ reset, e.call = .enet (.peerReset reset) → reset = peer

theorem closes_append {caller : ThreadId} {peer : Option PeerId} {first second : List Entry}
    (h₁ : Closes caller peer first) (h₂ : Closes caller peer second) :
    Closes caller peer (first ++ second) := fun e member =>
  (List.mem_append.mp member).elim (h₁ e) (h₂ e)

theorem closed_trace (w : World) (self : ThreadId) : ∃ entries,
    (w.closed self).trace = entries ++ w.trace ∧ Closes self w.memory.client.peer entries := by
  have host (v : World) : ∃ entries, (v.withoutHost self).trace = entries ++ v.trace ∧
      Closes self w.memory.client.peer entries := by
    by_cases none : v.memory.client.client = none
    · exact ⟨[], by rw [World.withoutHost_none none]; rfl, by simp [Closes]⟩
    · exact ⟨[_], by rw [World.withoutHost_some none]; rfl, by simp [Closes, External.Drains]⟩
  have peer : ∃ entries, (w.withoutPeer self).trace = entries ++ w.trace ∧
      Closes self w.memory.client.peer entries := by
    by_cases none : w.memory.client.peer = none
    · exact ⟨[], by rw [World.withoutPeer_none none]; rfl, by simp [Closes]⟩
    · refine ⟨[_], by rw [World.withoutPeer_some none]; rfl, ?_⟩
      intro e member
      obtain rfl := List.mem_singleton.mp member
      refine ⟨rfl, trivial, ?_⟩
      rintro _ ⟨⟩
      rfl
  obtain ⟨first, trace, told⟩ := peer
  obtain ⟨second, trace', told'⟩ := host (w.withoutPeer self)
  refine ⟨second ++ first, ?_, closes_append told' told⟩
  change ((w.withoutPeer self).withoutHost self).trace = _
  rw [trace', trace, List.append_assoc]

structure Drained (caller : ThreadId) (w u : World) : Prop where
  memory : u.memory = w.memory
  teamspeak : u.teamspeak = w.teamspeak
  phase : u.phase = w.phase
  peers : u.enet.nextPeer = w.enet.nextPeer
  trace : ∃ entries, u.trace = entries ++ w.trace ∧ ∀ peer, Closes caller peer entries

theorem Drained.record {caller : ThreadId} {w u v : World} {call : External} {reply : call.Reply}
    (before : Drained caller w u) (trace : v.trace = ⟨caller, call, reply⟩ :: u.trace)
    (memory : v.memory = u.memory) (teamspeak : v.teamspeak = u.teamspeak)
    (phase : v.phase = u.phase) (peers : v.enet.nextPeer = u.enet.nextPeer)
    (drains : call.Drains) (keeps : ∀ peer, call ≠ .enet (.peerReset peer)) :
      Drained caller w v := by
  obtain ⟨entries, trace', told⟩ := before.trace
  refine ⟨memory.trans before.memory, teamspeak.trans before.teamspeak, phase.trans before.phase,
    peers.trans before.peers, ⟨caller, call, reply⟩ :: entries, by simp [trace, trace'],
    fun peer e member => ?_⟩
  rcases List.mem_cons.mp member with rfl | member
  · exact ⟨rfl, drains, fun reset same => absurd same (keeps reset)⟩
  · exact told peer e member

theorem wp_awaitDisconnect {self : ThreadId} {env : Environment} {w u : World}
    (drained : Drained self w u) :
    wp (steps self env) awaitDisconnect (fun _ v => Drained self w v) u := by
  unfold awaitDisconnect
  simp only [wp_bind, wp_client, wp_ite, Program.pure_eq, wp_ret]
  split
  · exact drained
  refine wp_service fun serviced => ?_
  have begun : Drained self w
      (u.record self (.enet (.serviceBegin u.memory.client.client 3000)) ()) :=
    drained.record rfl rfl rfl rfl rfl rfl (by simp)
  have ended : Drained self w (((u.record self (.enet (.serviceBegin
      u.memory.client.client 3000)) ()).setEnet (if 0 < serviced.code ∧ serviced.event = .connect
      then u.enet.connected u.memory.client.client else u.enet)).record self (.enet (.serviceEnd
      u.memory.client.client 3000)) serviced) := by
    refine begun.record rfl rfl rfl rfl ?_ rfl (by simp)
    simp only [World.record_enet, World.setEnet_enet]
    split <;> rfl
  split
  · exact ended
  obtain ⟨code, event⟩ := serviced
  cases event with
  | disconnect | none | connect => exact ended
  | receive channelID packet =>
    simp only [wp_bind, wp_packetDestroy]
    intro _ _
    exact ended.record rfl rfl rfl rfl rfl trivial (by simp)

theorem wp_drain {self : ThreadId} {env : Environment} {w : World} :
    wp (steps self env) (Program.repeatUntil awaitDisconnect) (fun _ u => Drained self w u) w := by
  refine wp_repeatUntil (Drained self w) ⟨rfl, rfl, rfl, rfl, [], rfl, by simp [Closes]⟩
    fun u drained => ?_
  refine wp_mono (fun found v later => ?_) (wp_awaitDisconnect drained)
  cases found <;> exact later

structure Closed (caller : ThreadId) (w u : World) : Prop where
  client : { u.memory.client with lastChannelId := 0 } =
    { w.memory.client with
      client := none, peer := none, running := false, host := .empty, port := 0, gameId := 0,
      teamspeakId := 0, lastChannelId := 0 }
  phase : u.phase = w.phase
  peers : u.enet.nextPeer = w.enet.nextPeer
  trace : ∃ entries, u.trace = entries ++ w.trace ∧ Closes caller w.memory.client.peer entries

theorem Closed.running {caller : ThreadId} {w u : World} (closed : Closed caller w u) :
    u.memory.client.running = false := congrArg Client.running closed.client

theorem Closed.peer {caller : ThreadId} {w u : World} (closed : Closed caller w u) :
    u.memory.client.peer = none := congrArg Client.peer closed.client

theorem Closed.host {caller : ThreadId} {w u : World} (closed : Closed caller w u) :
    u.memory.client.client = none := congrArg Client.client closed.client

theorem Closed.thread {caller : ThreadId} {w u : World} (closed : Closed caller w u) :
    u.memory.client.thread = w.memory.client.thread := by
  simpa using congrArg Client.thread closed.client

theorem drains_of_isTeamspeak {call : External} (teamspeak : call.isTeamspeak = true) :
    call.Drains := by
  cases call with
  | teamspeak call => trivial
  | enet call | object call => cases teamspeak

theorem Restored.closed {caller : ThreadId} {w u : World}
    (restored : Restored caller (w.closed caller) u) : Closed caller w u := by
  have client : { u.memory.client with lastChannelId := 0 } =
      { (w.closed caller).memory.client with lastChannelId := 0 } :=
    congrArg Prod.fst restored.memory
  obtain ⟨restoring, trace, told⟩ := restored.trace
  obtain ⟨closing, trace', told'⟩ := closed_trace w caller
  have phase : u.phase = w.phase := restored.phase.trans (World.closed_phase w caller)
  have peers : u.enet.nextPeer = w.enet.nextPeer := by
    rw [restored.enet, World.closed_enet, Enet.reset]
  refine ⟨by simpa using client, phase, peers, restoring ++ closing, ?_, closes_append ?_ told'⟩
  · rw [trace, trace', List.append_assoc]
  · intro e member
    obtain ⟨own, teamspeak⟩ := told e member
    refine ⟨own, drains_of_isTeamspeak teamspeak, fun reset same => ?_⟩
    rw [same] at teamspeak
    cases teamspeak

theorem wp_closing_self {self : ThreadId} {env : Environment} {w : World} (knows : env.Knows self)
    (self_or_none : ∀ id ∈ w.memory.client.thread, id = self) :
    wp (steps self env) close (fun _ u => Closed self w u) w :=
  wp_mono (fun _ _ restored => Restored.closed restored) (wp_close_self knows self_or_none)

theorem wp_disconnect_none {self : ThreadId} {env : Environment} {w : World} {status : UInt32}
    {post : Unit → World → Prop} (none : w.memory.client.peer = none) (after : post () w) :
    wp (steps self env) (disconnect status) post w := by
  unfold disconnect
  simp only [wp_bind, wp_client, wp_ite]
  rwa [if_pos none]

theorem disconnect_none {self : ThreadId} {env : Environment} {w u : World} {status : UInt32}
    (none : w.memory.client.peer = none)
    (run : Exec (steps self env) (disconnect status) w () u) : u = w := by
  have stays : wp (steps self env) (disconnect status) (fun _ u => u = w) w :=
    wp_disconnect_none none rfl
  exact run.wp stays

theorem wp_disconnect {self : ThreadId} {env : Environment} {w : World} {status : UInt32}
    {aborted : World → Prop} (knows : env.Knows self) (connected : w.memory.client.peer ≠ none)
    (aborts : wp (steps self env) abortThread
      (fun _ v => aborted v ∧ ∀ id ∈ v.memory.client.thread, id = self)
      (w.record self (.enet (.peerDisconnect w.memory.client.peer status)) ())) :
    wp (steps self env) (disconnect status) (fun _ u => ∃ v, aborted v ∧ Closed self v u) w := by
  unfold disconnect
  simp only [wp_bind, wp_client, wp_ite, wp_peerDisconnect, wp_setClient, World.setClient_setClient]
  rw [if_neg connected]
  intro _ _
  refine wp_mono ?_ aborts
  rintro _ v ⟨aborted, self_or_none⟩
  refine wp_mono ?_ wp_drain
  intro _ x drained
  have same : x.memory = v.memory := drained.memory
  refine wp_mono ?_ (wp_closing_self knows ?_)
  · intro _ u closed
    obtain ⟨waiting, trace, told⟩ := drained.trace
    obtain ⟨closing, trace', told'⟩ := closed.trace
    refine ⟨v, aborted, ?_, closed.phase.trans drained.phase, closed.peers.trans drained.peers,
      closing ++ waiting, ?_, closes_append ?_ (told _)⟩
    · simpa [same] using closed.client
    · rw [trace', World.setClient_trace, trace, List.append_assoc]
    · simpa [same] using told'
  · intro id held
    exact self_or_none id (by simpa [same] using held)

theorem wp_disconnect_self {self : ThreadId} {env : Environment} {w : World} {status : UInt32}
    (knows : env.Knows self) (self_or_none : ∀ id ∈ w.memory.client.thread, id = self)
    (connected : w.memory.client.peer ≠ none) :
    wp (steps self env) (disconnect status) (fun _ u => Closed self
      (w.record self (.enet (.peerDisconnect w.memory.client.peer status)) ()) u) w := by
  let asked := w.record self (.enet (.peerDisconnect w.memory.client.peer status)) ()
  have aborts : wp (steps self env) abortThread (fun _ v => v = asked ∧
      ∀ id ∈ v.memory.client.thread, id = self) asked :=
    wp_abortThread_self knows self_or_none ⟨rfl, self_or_none⟩
  refine wp_mono ?_ (wp_disconnect knows connected aborts)
  rintro _ u ⟨_, rfl, closed⟩
  exact closed

end JustAnotherVoiceChat
