import JustAnotherVoiceChat.Connecting
import JustAnotherVoiceChat.Peers
import JustAnotherVoiceChat.Plugin

set_option autoImplicit false

namespace JustAnotherVoiceChat

open Binary Interaction Relation

-- `connect()` up to its message; `some` ends it there.
def connectUntilSend (host : StdString) (port uniqueIdentifier : UInt16) :
    Plugin (Option Bool) := do
  if host = (← client).host ∧ (← client).port = port ∧ (← client).gameId = uniqueIdentifier then
    return some true
  if !(← openConnection host port) then
    return some false
  startUpdate host port uniqueIdentifier
  return none

theorem connect_eq (host : StdString) (port uniqueIdentifier : UInt16) :
    connect host port uniqueIdentifier = (do
      match ← connectUntilSend host port uniqueIdentifier with
      | some result => return result
      | none =>
        sendProtocolMessage
        return true) := by
  unfold connect connectUntilSend
  simp only [bind_assoc]
  refine bind_congr fun _ => bind_congr fun _ => bind_congr fun _ => ?_
  split
  · rfl
  rw [bind_assoc]
  refine bind_congr fun opened => ?_
  cases opened with
  | false => rfl
  | true =>
    simp only [Bool.not_true, Bool.false_eq_true, if_false, bind_assoc]
    rfl

section Calling

variable {self : ThreadId} {answers : (call : External) → World → call.Reply → Prop} {w : World}

theorem guards_close (attended : Attended w) (outsider : w.phase self = .unborn) :
    wp (steps self (.calling self answers)) close (fun _ u => Guards w u) w := by
  refine wp_mono ?_ (wp_close attended outsider)
  rintro _ u ⟨v, aborted, closed⟩
  exact IsTrans.trans _ _ _ (.of_aborted aborted) (.of_closed closed)

theorem guards_disconnect {status : UInt32} (attended : Attended w)
    (outsider : w.phase self = .unborn) :
    wp (steps self (.calling self answers)) (disconnect status) (fun _ u => Guards w u) w := by
  by_cases peer : w.memory.client.peer = none
  · exact wp_disconnect_none peer (Std.Refl.refl w)
  · refine wp_mono ?_ (wp_disconnect_other attended outsider peer)
    rintro _ u ⟨v, aborted, closed⟩
    have asked : Guards w
        (w.record self (.enet (.peerDisconnect w.memory.client.peer status)) ()) :=
      .of_quiet ⟨[_], rfl, by simp [External.Quiet]⟩ (le_refl _) fun _ same => same
    exact IsTrans.trans _ _ _ (IsTrans.trans _ _ _ asked (.of_aborted aborted)) (.of_closed closed)

theorem guards_createConnection {host : StdString} {port : UInt16} (attended : Attended w)
    (outsider : w.phase self = .unborn) :
    wp (steps self (.calling self answers)) (createConnection host port)
      (fun _ u => Guards w u) w := by
  have failing {v : World} (thread : v.memory.client.thread = w.memory.client.thread)
      (phase : v.phase = w.phase) (guards : Guards w v) :
      wp (steps self (.calling self answers)) close (fun _ u => Guards w u) v := by
    refine wp_mono ?_ (guards_close (attended.congr thread phase) (phase ▸ outsider))
    exact fun _ u closing => IsTrans.trans _ _ _ guards closing
  unfold createConnection
  simp only [wp_bind]
  refine wp_hostCreate fun created e _ peers => ?_
  simp only [wp_setClient, wp_client, wp_ite, wp_bind, Program.pure_eq, wp_ret]
  split
  · exact .of_quiet ⟨[_], rfl, by simp [External.Quiet]⟩ peers.ge fun _ same => same
  refine wp_addressSetHost fun resolved _ => ?_
  refine wp_hostConnect ?_ ?_
  · simp only [World.setClient_client, if_true]
    refine wp_mono (fun _ _ guards => guards) (failing rfl rfl ?_)
    exact .of_quiet ⟨[_, _, _], rfl, by simp [External.Quiet]⟩ peers.ge (by simp)
  · simp only [World.setClient_client, reduceCtorEq, if_false]
    refine wp_service fun serviced => ?_
    split
    · refine wp_mono (fun _ _ guards => guards) (failing rfl rfl ?_)
      refine .of_made ⟨[_, _, _, _, _], rfl, by simp [External.Quiet]⟩ ?_ (congrArg some peers)
      simp only [World.record_enet, World.setEnet_enet]
      split <;> exact congrArg (· + 1) peers
    · refine .of_made ⟨[_, _, _, _, _], rfl, by simp [External.Quiet]⟩ ?_ (congrArg some peers)
      simp only [World.record_enet, World.setEnet_enet]
      split <;> exact congrArg (· + 1) peers

theorem guards_openConnection {host : StdString} {port : UInt16} (attended : Attended w)
    (outsider : w.phase self = .unborn) :
    wp (steps self (.calling self answers)) (openConnection host port)
      (fun _ u => Guards w u) w := by
  unfold openConnection
  rw [wp_bind, wp_isOpen]
  by_cases isOpen : w.memory.client.IsOpen
  · simp only [isOpen, decide_true, if_true, wp_bind]
    have connected := Option.isSome_iff_ne_none.mp isOpen.2.1
    refine wp_mono ?_ (wp_and (guards_disconnect attended outsider)
      (wp_reconnect attended outsider connected))
    rintro _ v ⟨guards, unattended, -⟩
    refine wp_mono ?_ (guards_createConnection unattended.attended unattended.outsider)
    exact fun _ u creating => IsTrans.trans _ _ _ guards creating
  · simp only [isOpen, decide_false, Bool.false_eq_true, if_false]
    exact guards_createConnection attended outsider

theorem Started.guards {v u : World} {host : StdString} {port gameId : UInt16}
    (started : Started host port gameId v u) : Guards v u := by
  refine .of_quiet ⟨[], started.trace, by simp⟩ (by rw [started.enet]) ?_
  rw [started.client.2]
  exact fun _ same => same

theorem wp_connectUntilSend {host : StdString} {port gameId : UInt16} (attended : Attended w)
    (outsider : w.phase self = .unborn)
    (held : w.memory.client.running = true → w.memory.client.peer ≠ none)
    (ready : w.memory.client.Caches host port gameId ∨ w.memory.client.IsOpen ∨
      ∀ id, ¬ (w.phase id).Alive) :
    wp (steps self (.calling self answers)) (connectUntilSend host port gameId) (fun ended u =>
      Guards w u ∧ Attended u ∧ (u.memory.client.running = true → u.memory.client.peer ≠ none) ∧
        (ended = none → u.memory.client.peer ≠ none)) w := by
  unfold connectUntilSend
  simp only [wp_bind, wp_client, wp_ite, Program.pure_eq, wp_ret]
  split
  · exact ⟨Std.Refl.refl w, attended, held, by simp⟩
  rename_i uncached
  have ready : w.memory.client.IsOpen ∨ ∀ id, ¬ (w.phase id).Alive := ready.resolve_left uncached
  refine wp_mono ?_ (wp_and (guards_openConnection attended outsider)
    (wp_openConnection attended outsider ready))
  rintro opened u ⟨guards, attended', outsider', failed, made⟩
  cases opened with
  | false =>
    simp only [Bool.not_false, if_true]
    refine ⟨guards, attended', fun running => ?_, by simp⟩
    obtain ⟨before, peer⟩ := (failed rfl).running running
    exact peer ▸ held before
  | true =>
    obtain ⟨v, before, opened⟩ := made rfl
    simp only [Bool.not_true, Bool.false_eq_true, if_false]
    have ended (id : ThreadId) : ¬ (u.phase id).Alive := opened.aside.2 ▸ before.ended id
    refine wp_mono ?_ (wp_startUpdate attended' outsider' ended)
    intro _ x started
    have peer : x.memory.client.peer ≠ none := by
      obtain ⟨id, _, _, held, -⟩ := opened.peer
      simp [started.client.2, held]
    exact ⟨IsTrans.trans _ _ _ guards started.guards, started.attended, fun _ => peer,
      fun _ => peer⟩

end Calling

section Rounds

variable {id : ThreadId} {answers : (call : External) → World → call.Reply → Prop} {w : World}

def Entry.rejected (e : Entry) : Bool :=
  match e.message with
  | some (channelID, packet) =>
    match cause channelID packet with
    | .protocolRejected _ => true
    | _ => false
  | none => false

structure RoundKeeps (rejected : Prop) (w u : World) : Prop where
  guards : Guards w u
  thread : u.memory.client.thread = w.memory.client.thread
  phase : u.phase = w.phase
  running : u.memory.client.running = true →
    w.memory.client.running = true ∧ u.memory.client.peer = w.memory.client.peer
  peer : u.memory.client.peer = w.memory.client.peer ∨ rejected

theorem RoundKeeps.trans {rejected rejected' wider : Prop} {v u : World}
    (first : RoundKeeps rejected w v) (second : RoundKeeps rejected' v u)
    (implies : rejected ∨ rejected' → wider) : RoundKeeps wider w u where
  guards := IsTrans.trans _ _ _ first.guards second.guards
  thread := second.thread.trans first.thread
  phase := second.phase.trans first.phase
  running running := by
    obtain ⟨running, peer⟩ := second.running running
    obtain ⟨running, peer'⟩ := first.running running
    exact ⟨running, peer.trans peer'⟩
  peer := by
    rcases first.peer with peer | told
    · exact second.peer.imp (fun peer' => peer'.trans peer) fun told => implies (.inr told)
    · exact .inr (implies (.inl told))

theorem RoundKeeps.of_quiet {v : World} {rejected : Prop} (silently : Silently w v)
    (peers : w.enet.nextPeer ≤ v.enet.nextPeer) (phase : v.phase = w.phase)
    (peer : v.memory.client.peer = w.memory.client.peer)
    (thread : v.memory.client.thread = w.memory.client.thread)
    (running : v.memory.client.running = true → w.memory.client.running = true) :
    RoundKeeps rejected w v where
  guards := .of_quiet silently peers (by rw [peer]; exact fun _ same => same)
  thread := thread
  phase := phase
  running running' := ⟨running running', peer⟩
  peer := .inl peer

theorem RoundKeeps.refl {rejected : Prop} : RoundKeeps rejected w w :=
  .of_quiet ⟨[], rfl, by simp⟩ (le_refl _) rfl rfl rfl fun running => running

theorem RoundKeeps.mono {rejected wider : Prop} {u : World} (keeps : RoundKeeps rejected w u)
    (implies : rejected → wider) : RoundKeeps wider w u :=
  ⟨keeps.guards, keeps.thread, keeps.phase, keeps.running, keeps.peer.imp_right implies⟩

theorem roundKeeps_of_stays {self : ThreadId} {env : Environment} {α : Type} {p : Plugin α}
    (sends : Stays (steps self env) Sends p) (linking : Stays (steps self env) (Linking self) p)
    (connected : w.memory.client.peer ≠ none) :
    wp (steps self env) p (fun _ u => RoundKeeps False w u) w := by
  refine wp_mono ?_ (wp_and (sends w) (linking w))
  rintro _ u ⟨sent, linked⟩
  refine ⟨sent.guards connected, linked_thread linked.memory, linked.phase, ?_, .inl sent.peer⟩
  intro running
  exact ⟨(linked_fields linked.memory).2.1 ▸ running, sent.peer⟩

theorem roundKeeps_message (own : ∀ held ∈ w.memory.client.thread, held = id)
    (connected : w.memory.client.peer ≠ none) (channelID : UInt8) (packet : Bytes) :
    wp (steps id (.updating id answers)) (handleMessage channelID packet)
      (fun _ u => RoundKeeps (∃ status, cause channelID packet = .protocolRejected status) w u)
      w := by
  by_cases rejected : ∃ status, cause channelID packet = .protocolRejected status
  · obtain ⟨status, same⟩ := rejected
    rw [handleMessage_rejected same, wp_bind]
    refine wp_mono ?_ (wp_disconnect_self updating_knows own connected)
    intro _ u closed
    have asked : Guards w (w.record id
        (.enet (.peerDisconnect w.memory.client.peer status)) ()) :=
      .of_quiet ⟨[_], rfl, by simp [External.Quiet]⟩ (le_refl _) fun _ same => same
    refine ⟨IsTrans.trans _ _ _ asked (.of_closed closed), closed.thread, closed.phase, ?_,
      .inr ⟨status, same⟩⟩
    intro running
    simp [closed.running] at running
  · have kept : ∀ status, cause channelID packet ≠ .protocolRejected status := by
      intro status same
      exact rejected ⟨status, same⟩
    refine wp_mono ?_
      (roundKeeps_of_stays (sends_rules.message kept) (linking_rules.message kept) connected)
    exact fun _ u after => after.mono (by simp)

def Rejected (w u : World) : Prop :=
  ∃ entries, u.trace = entries ++ w.trace ∧ entries.any Entry.rejected = true

theorem roundKeeps_round (own : ∀ held ∈ w.memory.client.thread, held = id)
    (held : w.memory.client.running = true → w.memory.client.peer ≠ none) :
    wp (steps id (.updating id answers)) updateRound
      (fun found u => RoundKeeps (Rejected w u) w u ∧ (found = some () → u = w)) w := by
  unfold updateRound
  simp only [wp_bind, wp_client, wp_ite, Program.pure_eq, wp_ret]
  split
  · exact ⟨.refl, by simp⟩
  rename_i running
  have connected := held (by simpa using running)
  split
  · exact ⟨.refl, by simp⟩
  refine wp_service fun serviced => ?_
  let v := ((w.record id (.enet (.serviceBegin w.memory.client.client 100)) ()).setEnet
    (if 0 < serviced.code ∧ serviced.event = .connect then w.enet.connected w.memory.client.client
      else w.enet)).record id (.enet (.serviceEnd w.memory.client.client 100)) serviced
  have peers : w.enet.nextPeer ≤ v.enet.nextPeer := by
    simp only [v, World.record_enet, World.setEnet_enet]
    split <;> exact le_refl _
  let taken : List Entry := [⟨id, .enet (.serviceEnd w.memory.client.client 100), serviced⟩,
    ⟨id, .enet (.serviceBegin w.memory.client.client 100), ()⟩]
  have served : RoundKeeps False w v :=
    .of_quiet ⟨taken, rfl, by simp [taken, External.Quiet]⟩ peers rfl rfl rfl
      fun running => running
  have stops (u : World) : RoundKeeps (Rejected w u) v
      (v.setClient fun c => { c with running := false }) :=
    .of_quiet ⟨[], rfl, by simp⟩ (le_refl _) rfl rfl rfl (by simp)
  change if 0 < serviced.code then wp _ _ _ v else if serviced.code < 0 then wp _ _ _ v else _
  split
  · rename_i received
    unfold handleEvent
    cases event : serviced.event with
    | none | connect => exact ⟨served.mono (by simp), by simp⟩
    | disconnect =>
      rw [wp_setClient]
      exact ⟨served.trans (stops _) fun told => told.resolve_left not_false, by simp⟩
    | receive channelID packet =>
      simp only [wp_bind, wp_client, wp_ite, wp_packetDestroy]
      split
      · rename_i stopped
        exact absurd stopped running
      · have handled := @roundKeeps_message id answers v own connected channelID packet
        refine wp_mono ?_ handled
        intro _ u after _ _
        have destroyed : RoundKeeps False u (u.record id (.enet .packetDestroy) ()) :=
          .of_quiet ⟨[_], rfl, by simp [External.Quiet]⟩ (le_refl _) rfl rfl rfl
            fun running => running
        refine ⟨served.trans (after.trans destroyed fun told => ?_)
          fun told => told.resolve_left not_false, by simp⟩
        obtain ⟨status, same⟩ := told.resolve_right not_false
        obtain ⟨handling, trace, -⟩ := after.guards.entries
        refine ⟨⟨id, .enet .packetDestroy, ()⟩ :: (handling ++ taken), ?_, ?_⟩
        · rw [World.record_trace, trace, List.cons_append, List.append_assoc]
          rfl
        · obtain ⟨code, event'⟩ := serviced
          obtain rfl : event' = .receive channelID packet := event
          simp [taken, Entry.rejected, Entry.message, same, show 0 < code from received]
  split
  · rw [wp_setClient]
    exact ⟨served.trans (stops _) fun told => told.resolve_left not_false, by simp⟩
  · exact ⟨served.mono (by simp), by simp⟩

end Rounds

inductive Callback where
  | talking (active : Bool)
  | microphone (muted : Bool)
  | speakers (muted : Bool)

def Callback.run : Callback → Plugin Unit
  | .talking active => justAnotherVoiceChatUpdateTalking active
  | .microphone muted => justAnotherVoiceChatUpdateMicrophoneMute muted
  | .speakers muted => justAnotherVoiceChatUpdateSpeakersMute muted

def Callback.method : Callback → Plugin Unit
  | .talking active => setTalking active
  | .microphone muted => setMicrophoneMuted muted
  | .speakers muted => setSpeakersMuted muted

theorem Callback.run_eq (callback : Callback) : callback.run = (do
    if !(← clientIsOpen) then
      return ()
    useClient callback.method) := by
  cases callback <;> rfl

section Callbacks

variable {self : ThreadId} {env : Environment} {w : World}

theorem HandlerRules.method {sem : Semantics Op Op.Reply World} {relation : World → World → Prop}
    [Std.Refl relation] [IsTrans World relation] (rules : HandlerRules sem relation)
    (callback : Callback) : Stays sem relation callback.method := by
  cases callback with
  | talking | microphone | speakers =>
    refine Stays.bind (rules.setClient ?_) fun _ => rules.sendStatus
    exact fun _ => rfl

theorem roundKeeps_object {call : ObjectCall} :
    RoundKeeps False w (w.record self (.object call) ()) :=
  .of_quiet ⟨[_], rfl, by simp [External.Quiet]⟩ (le_refl _) rfl rfl rfl fun running => running

theorem roundKeeps_callback (callback : Callback) :
    wp (steps self env) callback.run (fun _ u => RoundKeeps False w u) w := by
  rw [callback.run_eq]
  unfold clientIsOpen useClient
  simp only [wp_bind, wp_load, wp_ite, wp_object, wp_isOpen, Program.pure_eq, wp_ret]
  split
  · exact .refl
  intro _
  by_cases isOpen : w.memory.client.IsOpen
  · simp only [World.record_memory, isOpen, decide_true, Bool.not_true,
      Bool.false_eq_true, if_false]
    intro _
    have connected : w.memory.client.peer ≠ none := Option.isSome_iff_ne_none.mp isOpen.2.1
    refine wp_mono ?_ (roundKeeps_of_stays (sends_rules.method callback)
      (linking_rules.method callback) ?_)
    · intro _ u called
      have used : RoundKeeps False _ u := roundKeeps_object.trans called fun told => told.elim id id
      exact roundKeeps_object.trans used fun told => told.elim id id
    · exact connected
  · simp only [World.record_memory, isOpen, decide_false, Bool.not_false, if_true]
    exact roundKeeps_object

end Callbacks

-- `pending` tells that a `connect()` has started the update thread and has yet to send.
structure Sending where
  world : World
  pending : Bool

inductive SendAction where
  | connect (call : ConnectCall)
  | send (caller : ThreadId)
  | disconnect (caller : ThreadId) (status : UInt32)
  | destroy (caller : ThreadId)
  | callback (caller : ThreadId) (event : Callback)
  | round (id : ThreadId)
  | leave (id : ThreadId)
  | close (id : ThreadId)

section Runs

variable (answers : (call : External) → World → call.Reply → Prop)

-- Only one thread at a time connects or disconnects; the callbacks and the update thread come in
-- between.
def SendAction.Step : SendAction → Sending → Sending → Prop
  | .connect call, s, t => s.pending = false ∧ s.world.phase call.caller = .unborn ∧
    ∃ ended, t.pending = ended.isNone ∧ Exec (steps call.caller (.calling call.caller answers))
      (connectUntilSend call.host call.port call.gameId) s.world ended t.world
  | .send caller, s, t => s.pending = true ∧ t.pending = false ∧
    Exec (steps caller (.calling caller answers)) sendProtocolMessage s.world () t.world
  | .disconnect caller status, s, t => s.pending = false ∧ t.pending = false ∧
    s.world.phase caller = .unborn ∧ Exec (steps caller (.calling caller answers))
      (JustAnotherVoiceChat.disconnect status) s.world () t.world
  | .destroy caller, s, t => s.pending = false ∧ t.pending = false ∧
    s.world.phase caller = .unborn ∧
    Exec (steps caller (.calling caller answers)) JustAnotherVoiceChat.close s.world () t.world
  | .callback caller event, s, t => t.pending = s.pending ∧
    Exec (steps caller (.calling caller answers)) event.run s.world () t.world
  | .round id, s, t => t.pending = s.pending ∧ s.world.phase id = .looping ∧
    Exec (steps id (.updating id answers)) updateRound s.world none t.world
  | .leave id, s, t => t.pending = s.pending ∧ s.world.phase id = .looping ∧
    ∃ u, Exec (steps id (.updating id answers)) updateRound s.world (some ()) u ∧
      t.world = u.withPhase id .left
  | .close id, s, t => t.pending = s.pending ∧ s.world.phase id = .left ∧
    ∃ u, Exec (steps id (.updating id answers)) JustAnotherVoiceChat.close s.world () u ∧
      t.world = u.withPhase id .finished

-- A call of `connect()` that makes a connection starts with an open client or without an update
-- thread that is not through; while it has yet to send, the update thread does not close.
def SendAction.Keeps : SendAction → Sending → Sending → Prop
  | .connect call, s, _ => s.world.memory.client.Caches call.host call.port call.gameId ∨
    s.world.memory.client.IsOpen ∨ ∀ id, ¬ (s.world.phase id).Alive
  | .round _, s, t => s.pending = true → ¬ Rejected s.world t.world
  | .close _, s, _ => s.pending = false
  | _, _, _ => True

def SendStep (allowed : SendAction → Sending → Sending → Prop) (s t : Sending) : Prop :=
  ∃ action : SendAction, action.Step answers s t ∧ allowed action s t

variable {answers}

structure Sendable (s : Sending) : Prop where
  attended : Attended s.world
  running : s.world.memory.client.running = true → s.world.memory.client.peer ≠ none
  pending : s.pending = true → s.world.memory.client.peer ≠ none

theorem Sendable.of_keeps {s t : Sending} {rejected : Prop} (sendable : Sendable s)
    (keeps : RoundKeeps rejected s.world t.world) (pending : t.pending = s.pending)
    (accepted : s.pending = true → ¬ rejected) : Sendable t where
  attended := sendable.attended.congr keeps.thread keeps.phase
  running running := by
    obtain ⟨running, peer⟩ := keeps.running running
    exact peer ▸ sendable.running running
  pending pending' := by
    have before : s.pending = true := pending ▸ pending'
    rw [keeps.peer.resolve_right (accepted before)]
    exact sendable.pending before

theorem stopped_of_close {caller : ThreadId} {w u : World} (attended : Attended w)
    (outsider : w.phase caller = .unborn)
    (run : Exec (steps caller (.calling caller answers)) close w () u) :
    Attended u ∧ u.memory.client.running = false := by
  obtain ⟨v, aborted, closed⟩ := run.wp (wp_close attended outsider)
  exact ⟨.of_alone (closed_attended attended outsider aborted closed).1, closed.running⟩

theorem Sendable.of_stopped {t : Sending} (attended : Attended t.world)
    (stopped : t.world.memory.client.running = false) (sent : t.pending = false) : Sendable t where
  attended := attended
  running running := by simp [stopped] at running
  pending pending := by simp [sent] at pending

theorem SendAction.Step.sendable {action : SendAction} {s t : Sending}
    (step : action.Step answers s t) (keeps : action.Keeps s t) (before : Sendable s) :
    Sendable t ∧ Guards s.world t.world := by
  cases action with
  | connect call =>
    obtain ⟨-, outsider, ended, pending, run⟩ := step
    obtain ⟨guards, attended, running, unsent⟩ :=
      run.wp (wp_connectUntilSend before.attended outsider before.running keeps)
    refine ⟨⟨attended, running, fun pending' => unsent ?_⟩, guards⟩
    rw [pending] at pending'
    simpa using pending'
  | send caller =>
    obtain ⟨pending, sent, run⟩ := step
    have kept : RoundKeeps False s.world t.world := run.wp (roundKeeps_of_stays
      sends_rules.sendProtocolMessage linking_rules.sendProtocolMessage (before.pending pending))
    have after : Sendable ⟨t.world, s.pending⟩ := before.of_keeps kept rfl fun _ => id
    refine ⟨⟨after.attended, after.running, fun pending => ?_⟩, kept.guards⟩
    simp [sent] at pending
  | disconnect caller status =>
    obtain ⟨-, sent, outsider, run⟩ := step
    have guards := run.wp (guards_disconnect before.attended outsider)
    by_cases peer : s.world.memory.client.peer = none
    · have same : t.world = s.world := disconnect_none peer run
      refine ⟨⟨same ▸ before.attended, same ▸ before.running, fun pending => ?_⟩, guards⟩
      simp [sent] at pending
    · obtain ⟨unattended, stopped⟩ := run.wp (wp_reconnect before.attended outsider peer)
      exact ⟨.of_stopped unattended.attended stopped sent, guards⟩
  | destroy caller =>
    obtain ⟨-, sent, outsider, run⟩ := step
    obtain ⟨attended, stopped⟩ := stopped_of_close before.attended outsider run
    exact ⟨.of_stopped attended stopped sent, run.wp (guards_close before.attended outsider)⟩
  | callback caller event =>
    obtain ⟨pending, run⟩ := step
    have keeps := run.wp (roundKeeps_callback event)
    exact ⟨before.of_keeps keeps pending fun _ => id, keeps.guards⟩
  | round id =>
    obtain ⟨pending, looping, run⟩ := step
    have alive : (s.world.phase id).Alive := by simp [looping, Phase.Alive]
    obtain ⟨kept, -⟩ := run.wp (roundKeeps_round (before.attended.own alive) before.running)
    exact ⟨before.of_keeps kept pending keeps, kept.guards⟩
  | leave id =>
    obtain ⟨pending, looping, u, run, left⟩ := step
    have alive : (s.world.phase id).Alive := by simp [looping, Phase.Alive]
    obtain ⟨-, same⟩ := run.wp (roundKeeps_round (before.attended.own alive) before.running)
    rw [same rfl] at left
    have attended : Attended (s.world.withPhase id .left) :=
      before.attended.withPhase alive (by simp)
    have guards : Guards s.world s.world := Std.Refl.refl s.world
    refine ⟨⟨left ▸ attended, left ▸ before.running, ?_⟩, left ▸ guards.withPhase⟩
    rw [pending, left]
    exact before.pending
  | close id =>
    obtain ⟨pending, left, u, run, finished⟩ := step
    have alive : (s.world.phase id).Alive := by simp [left, Phase.Alive]
    have closed := run.wp (wp_closing_self updating_knows (before.attended.own alive))
    have attended : Attended (u.withPhase id .finished) :=
      (before.attended.congr closed.thread closed.phase).withPhase (closed.phase ▸ alive) (by simp)
    refine ⟨.of_stopped ?_ ?_ (pending.trans keeps), ?_⟩
    · rwa [finished]
    · rw [finished]
      exact closed.running
    · rw [finished]
      exact (Guards.of_closed closed).withPhase

theorem sendable_of_run {start : World} {s : Sending} (fresh : Fresh start)
    (run : ReflTransGen (SendStep answers SendAction.Keeps) ⟨start, false⟩ s) :
    Sendable s ∧ Guards start s.world := by
  induction run with
  | refl =>
    obtain ⟨port, client⟩ := fresh.client
    refine ⟨⟨fresh.orderly.attended, fun running => ?_, by simp⟩, Std.Refl.refl _⟩
    simp [client, Client.new] at running
  | tail _ step ih =>
    obtain ⟨before, guards⟩ := ih
    obtain ⟨action, step, keeps⟩ := step
    obtain ⟨after, more⟩ := step.sendable keeps before
    exact ⟨after, IsTrans.trans _ _ _ guards more⟩

/-- In every run whose steps all keep to the condition, each packet is sent to a peer that was not
reset before. -/
theorem sendPacket_connected (answers : (call : External) → World → call.Reply → Prop)
    (start : World) (s : Sending) (fresh : Fresh start)
    (run : ReflTransGen (SendStep answers SendAction.Keeps) ⟨start, false⟩ s) :
    ∃ entries, s.world.trace = entries ++ start.trace ∧ Trace.Lawful SendOk entries := by
  obtain ⟨entries, trace, guards⟩ := (sendable_of_run fresh run).2.entries
  obtain ⟨port, client⟩ := fresh.client
  have guarded : Guarded [] start := by
    refine ⟨trivial, by simp, fun id held => ?_⟩
    simp [client, Client.new] at held
  have lawful := (guards [] guarded).lawful
  rw [List.append_nil] at lawful
  exact ⟨entries, trace, lawful⟩

end Runs

def startedFirst : World :=
  ranPlugin 0 connectReplies (connectUntilSend firstCall.host firstCall.port firstCall.gameId) .idle

def SendRun (allowed : SendAction → Sending → Sending → Prop) (s : Sending) : Prop :=
  ReflTransGen (SendStep (fun _ _ _ => True) allowed) ⟨.idle, false⟩ s

theorem startedFirst_step : (SendAction.connect firstCall).Step (fun _ _ _ => True) ⟨.idle, false⟩
    ⟨startedFirst, true⟩ :=
  ⟨rfl, rfl, none, rfl, exec_ranPlugin connectReplies_within (by decide)⟩

def sentFirst : World := ranPlugin 0 connectReplies sendProtocolMessage startedFirst

theorem sentFirst_run : SendRun SendAction.Keeps ⟨sentFirst, false⟩ := by
  have connected : (SendAction.connect firstCall).Keeps ⟨.idle, false⟩ ⟨startedFirst, true⟩ :=
    .inr (.inr fun _ => id)
  refine .tail (.single ⟨.connect firstCall, startedFirst_step, connected⟩) ⟨.send 0, ?_, trivial⟩
  exact ⟨rfl, rfl, exec_ranPlugin connectReplies_within (by decide)⟩

theorem sendPacket_connected_first :
    ∃ entries, sentFirst.trace = entries ++ World.idle.trace ∧ Trace.Lawful SendOk entries :=
  sendPacket_connected (fun _ _ _ => True) .idle ⟨sentFirst, false⟩ idle_fresh sentFirst_run

def disconnectReplies : Replies where
  teamspeak := obliging [1] .empty
  enet call w :=
    match call with
    | .serviceEnd _ _ => ⟨1, .disconnect⟩
    | call => connecting 1 call w
  thread := lone 1

def lostFirst : World := ranPlugin 1 disconnectReplies updateRound startedFirst

def leftFirst : World := (ranPlugin 1 disconnectReplies updateRound lostFirst).withPhase 1 .left

def closedFirst : World := (ranPlugin 1 disconnectReplies close leftFirst).withPhase 1 .finished

def sentLate : World := ranPlugin 0 connectReplies sendProtocolMessage closedFirst

theorem disconnectReplies_within : disconnectReplies.Within (.updating 1 fun _ _ _ => True) :=
  lone_within rfl

theorem sentLate_run : SendRun (fun _ _ _ => True) ⟨sentLate, false⟩ := by
  have connected : SendRun (fun _ _ _ => True) ⟨startedFirst, true⟩ :=
    .single ⟨.connect firstCall, startedFirst_step, trivial⟩
  have lost : SendRun (fun _ _ _ => True) ⟨lostFirst, true⟩ := by
    refine connected.tail ⟨.round 1, ⟨rfl, by decide, ?_⟩, trivial⟩
    exact exec_ranPlugin disconnectReplies_within (by decide)
  have left : SendRun (fun _ _ _ => True) ⟨leftFirst, true⟩ := by
    refine lost.tail ⟨.leave 1, ⟨rfl, by decide, _, ?_, rfl⟩, trivial⟩
    exact exec_ranPlugin disconnectReplies_within (by decide)
  have closed : SendRun (fun _ _ _ => True) ⟨closedFirst, true⟩ := by
    refine left.tail ⟨.close 1, ⟨rfl, by decide, _, ?_, rfl⟩, trivial⟩
    exact exec_ranPlugin disconnectReplies_within (by decide)
  refine closed.tail ⟨.send 0, ⟨rfl, rfl, ?_⟩, trivial⟩
  exact exec_ranPlugin connectReplies_within (by decide)

-- The update thread sees the end of the connection and closes it before `connect()` sends.
theorem sendPacket_closed : ¬ ∀ (answers : (call : External) → World → call.Reply → Prop)
    (start : World) (s : Sending), Fresh start →
      ReflTransGen (SendStep answers fun _ _ _ => True) ⟨start, false⟩ s →
        ∃ entries, s.world.trace = entries ++ start.trace ∧ Trace.Lawful SendOk entries := by
  intro claimed
  obtain ⟨entries, trace, lawful⟩ :=
    claimed (fun _ _ _ => True) .idle ⟨sentLate, false⟩ idle_fresh sentLate_run
  change sentLate.trace = entries ++ [] at trace
  rw [List.append_nil] at trace
  have sent : sentLate.trace =
      ⟨0, .enet (.peerSend none networkProtocolChannel (.protocol ⟨protocolVersionMajor,
        protocolVersionMinor, protocolMinVersionMajor, protocolMinVersionMinor⟩) true), ()⟩ ::
        closedFirst.trace := rfl
  rw [← trace, sent] at lawful
  obtain ⟨id, held, -⟩ := lawful.1 _ _ _ _ rfl
  cases held

end JustAnotherVoiceChat
