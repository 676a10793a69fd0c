import JustAnotherVoiceChat.Joining
import JustAnotherVoiceChat.Scenario

set_option autoImplicit false

namespace JustAnotherVoiceChat

open Binary Interaction Relation

structure ConnectedTo (w : World) (host : StdString) (port gameId : UInt16) : Prop where
  isOpen : w.memory.client.IsOpen
  fields : w.memory.client.host = host ∧ w.memory.client.port = port ∧
    w.memory.client.gameId = gameId
  peer : ∃ id peer, w.memory.client.peer = some id ∧ w.enet.peers id = some peer ∧
    w.enet.resolve (cStr host) = some peer.address ∧ peer.port = port ∧ peer.connected = true ∧
    peer.reset = false

structure Orderly (w : World) : Prop where
  attended : Attended w
  connected : w.memory.client.IsOpen →
    ConnectedTo w w.memory.client.host w.memory.client.port w.memory.client.gameId

def Entry.unresolved : Entry → Bool
  | ⟨_, .enet (.addressSetHost _), resolved⟩ => !resolved.ok
  | _ => false

def Client.Caches (c : Client) (host : StdString) (port gameId : UInt16) : Prop :=
  host = c.host ∧ c.port = port ∧ c.gameId = gameId

-- Open, or without the cached fields and without an update thread that is not through.
def Ready (w : World) (host : StdString) (port gameId : UInt16) : Prop :=
  w.memory.client.IsOpen ∨
    ¬ w.memory.client.Caches host port gameId ∧ ∀ id, ¬ (w.phase id).Alive

theorem Attended.of_alone {w : World} (alone : Alone w) : Attended w where
  alive id live := absurd live (alone.ended id)
  born id held := by simp [alone.thread] at held

theorem Attended.congr {w u : World} (attended : Attended w)
    (thread : u.memory.client.thread = w.memory.client.thread) (phase : u.phase = w.phase) :
    Attended u :=
  ⟨fun id live => thread ▸ attended.alive id (phase ▸ live),
    fun id held => phase ▸ attended.born id (thread ▸ held)⟩

section Rules

variable {self : ThreadId} {env : Environment} {w : World}

theorem wp_isOpen {post : Bool → World → Prop} :
    wp (steps self env) isOpen post w ↔ post (decide w.memory.client.IsOpen) w := by
  unfold isOpen
  simp only [wp_bind, wp_client, wp_ite, Program.pure_eq, wp_ret, Client.IsOpen]
  by_cases host : w.memory.client.client = none
  · simp [host]
  · by_cases peer : w.memory.client.peer = none
    · simp [host, peer]
    · simp [host, peer, Option.isSome_iff_ne_none]

theorem wp_isIngame {post : Bool → World → Prop} :
    wp (steps self env) isIngame post w ↔ post (decide w.memory.client.IsIngame) w := by
  unfold isIngame
  simp only [wp_bind, wp_isOpen, wp_client, wp_ite, Program.pure_eq, wp_ret, Client.IsIngame]
  by_cases isOpen : w.memory.client.IsOpen
  · by_cases gameId : w.memory.client.gameId = 0
    · simp [isOpen, gameId]
    · simp [isOpen, gameId]
  · simp [isOpen]

theorem wp_hostCreate {peerCount channelLimit : Nat} {post : Option HostId → World → Prop}
    (after : ∀ reply e, e.resolve = w.enet.resolve → e.nextPeer = w.enet.nextPeer → post reply
      ((w.setEnet e).record self (.enet (.hostCreate peerCount channelLimit)) reply)) :
    @wp _ _ _ (steps self env) (Option HostId)
      (enet (.hostCreate peerCount channelLimit)) post w := by
  refine wp_enet.mpr fun reply e _ step => after reply e ?_ ?_
  · rcases step with ⟨-, rfl⟩ | ⟨-, rfl⟩ <;> rfl
  · rcases step with ⟨-, rfl⟩ | ⟨-, rfl⟩ <;> rfl

theorem wp_addressSetHost {name : CString} {post : Resolved → World → Prop}
    (after : ∀ resolved, (resolved.ok = true → w.enet.resolve name = some resolved.address) →
      post resolved (w.record self (.enet (.addressSetHost name)) resolved)) :
    @wp _ _ _ (steps self env) Resolved (enet (.addressSetHost name)) post w := by
  refine wp_enet.mpr ?_
  rintro resolved e - ⟨told, rfl⟩
  exact after resolved told

theorem wp_hostConnect {host : Option HostId} {address : Address} {port : UInt16}
    {channelCount : Nat} {post : Option PeerId → World → Prop}
    (failed : post none
      (w.record self (.enet (.hostConnect host address port channelCount)) none))
    (made : post (some w.enet.nextPeer) ((w.setEnet (w.enet.newPeer host address port)).record self
      (.enet (.hostConnect host address port channelCount)) (some w.enet.nextPeer))) :
    @wp _ _ _ (steps self env) (Option PeerId)
      (enet (.hostConnect host address port channelCount)) post w := by
  refine wp_enet.mpr ?_
  rintro reply e - (⟨rfl, rfl⟩ | ⟨rfl, rfl⟩)
  · exact failed
  · exact made

end Rules

section Connect

variable {self : ThreadId} {answers : (call : External) → World → call.Reply → Prop} {w : World}
  {host : StdString} {port gameId : UInt16}

structure Opened (caller : ThreadId) (host : StdString) (port : UInt16) (w u : World) : Prop where
  created : u.memory.client.client.isSome = true
  aside : u.memory.client.thread = w.memory.client.thread ∧ u.phase = w.phase
  peer : ∃ id peer resolved, u.memory.client.peer = some id ∧ u.enet.peers id = some peer ∧
    peer.address = resolved.address ∧ peer.port = port ∧ peer.connected = true ∧
    peer.reset = false ∧
    (resolved.ok = true → u.enet.resolve (cStr host) = some resolved.address) ∧
    ∃ entries, u.trace = entries ++ w.trace ∧
      ⟨caller, .enet (.addressSetHost (cStr host)), resolved⟩ ∈ entries

theorem not_isOpen_of_stopped {c : Client} (stopped : c.running = false) : ¬ c.IsOpen := by
  rintro ⟨-, -, running⟩
  simp [stopped] at running

structure Unconnected (w u : World) : Prop where
  shut : ¬ u.memory.client.IsOpen
  running : u.memory.client.running = true →
    w.memory.client.running = true ∧ u.memory.client.peer = w.memory.client.peer

theorem Unconnected.of_stopped {u : World} (stopped : u.memory.client.running = false) :
    Unconnected w u :=
  ⟨not_isOpen_of_stopped stopped, fun running => by simp [stopped] at running⟩

theorem closed_attended {v u : World} (attended : Attended w) (outsider : w.phase self = .unborn)
    (aborted : Aborted answers w v) (closed : Closed self v u) :
    Alone u ∧ u.phase self = .unborn := by
  obtain ⟨alone, outsider⟩ := aborted.alone attended outsider
  exact ⟨⟨closed.thread.trans alone.thread, fun id => closed.phase ▸ alone.ended id⟩,
    closed.phase ▸ outsider⟩

theorem wp_createConnection (attended : Attended w) (outsider : w.phase self = .unborn) :
    wp (steps self (.calling self answers)) (createConnection host port) (fun opened u =>
      Attended u ∧ u.phase self = .unborn ∧ (opened = false → Unconnected w u) ∧
        (opened = true → Opened self host port w u)) w := by
  have failing {v : World} (thread : v.memory.client.thread = w.memory.client.thread)
      (phase : v.phase = w.phase) : wp (steps self (.calling self answers)) close (fun _ u =>
        Attended u ∧ u.phase self = .unborn ∧ Unconnected w u) v := by
    have attended' : Attended v := attended.congr thread phase
    refine wp_mono ?_ (wp_close attended' (phase ▸ outsider))
    rintro _ u ⟨x, aborted, closed⟩
    obtain ⟨alone, outsider'⟩ := closed_attended attended' (phase ▸ outsider) aborted closed
    exact ⟨.of_alone alone, outsider', .of_stopped closed.running⟩
  unfold createConnection
  simp only [wp_bind]
  refine wp_hostCreate fun created e _ _ => ?_
  simp only [wp_setClient, wp_client, wp_ite, wp_bind, Program.pure_eq, wp_ret]
  split
  · refine ⟨attended.congr rfl rfl, outsider, fun _ => ⟨?_, fun running => ⟨running, rfl⟩⟩, by simp⟩
    rintro ⟨created, -⟩
    cases created
  · rename_i made
    change created ≠ none at made
    refine wp_addressSetHost fun resolved told => ?_
    refine wp_hostConnect ?_ ?_
    · simp only [World.setClient_client, if_true]
      refine wp_mono ?_ (failing rfl rfl)
      rintro _ u ⟨attended', outsider', shut⟩
      exact ⟨attended', outsider', fun _ => shut, by simp⟩
    · simp only [World.setClient_client, reduceCtorEq, if_false]
      refine wp_service fun serviced => ?_
      split
      · refine wp_mono ?_ (failing rfl rfl)
        rintro _ u ⟨attended', outsider', shut⟩
        exact ⟨attended', outsider', fun _ => shut, by simp⟩
      · rename_i connected
        rw [not_or, not_le, not_not] at connected
        refine ⟨attended.congr rfl rfl, outsider, by simp, fun _ => ?_⟩
        refine ⟨Option.isSome_iff_ne_none.mpr made, ⟨rfl, rfl⟩, e.nextPeer,
          ⟨created, resolved.address, port, true, false⟩, resolved, rfl, ?_, rfl, rfl, rfl, rfl, ?_,
          [_, _, _, _, _], rfl, by simp⟩
        · simp [connected, Enet.connected, Enet.newPeer]
        · intro ok
          simpa [connected, Enet.connected, Enet.newPeer] using told ok

structure Unattended (caller : ThreadId) (w u : World) : Prop where
  attended : Attended u
  ended : ∀ id, ¬ (u.phase id).Alive
  outsider : u.phase caller = .unborn
  trace : ∃ entries, u.trace = entries ++ w.trace

theorem trace_of_aborted {v : World} (aborted : Aborted answers w v) :
    ∃ entries, v.trace = entries ++ w.trace := by
  cases aborted with
  | none thread | finished id thread phase => exact ⟨[], rfl⟩
  | joined id thread alive u run =>
    obtain ⟨entries, trace, -⟩ := (Aborted.closed thread run).trace
    exact ⟨entries, trace⟩

theorem wp_reconnect (attended : Attended w) (outsider : w.phase self = .unborn)
    (connected : w.memory.client.peer ≠ none) {status : UInt32} :
    wp (steps self (.calling self answers)) (disconnect status)
      (fun _ u => Unattended self w u ∧ u.memory.client.running = false) w := by
  refine wp_mono ?_ (wp_disconnect_other attended outsider connected)
  rintro _ u ⟨v, aborted, closed⟩
  have asked : Attended
      (w.record self (.enet (.peerDisconnect w.memory.client.peer status)) ()) :=
    attended.congr rfl rfl
  obtain ⟨alone, outsider'⟩ := closed_attended asked outsider aborted closed
  obtain ⟨before, trace⟩ := trace_of_aborted aborted
  obtain ⟨entries, trace', -⟩ := closed.trace
  refine ⟨⟨.of_alone alone, alone.ended, outsider', ?_⟩, closed.running⟩
  refine ⟨entries ++ before ++
    [⟨self, .enet (.peerDisconnect w.memory.client.peer status), ()⟩], ?_⟩
  rw [trace', trace, World.record_trace]
  simp

theorem wp_openConnection (attended : Attended w) (outsider : w.phase self = .unborn)
    (ready : w.memory.client.IsOpen ∨ ∀ id, ¬ (w.phase id).Alive) :
    wp (steps self (.calling self answers)) (openConnection host port) (fun opened u =>
      Attended u ∧ u.phase self = .unborn ∧ (opened = false → Unconnected w u) ∧
        (opened = true → ∃ v, Unattended self w v ∧ Opened self host port v u)) w := by
  unfold openConnection
  rw [wp_bind, wp_isOpen]
  by_cases isOpen : w.memory.client.IsOpen
  · simp only [isOpen, decide_true, if_true, wp_bind]
    have connected := Option.isSome_iff_ne_none.mp isOpen.2.1
    refine wp_mono ?_ (wp_reconnect attended outsider connected)
    rintro _ v ⟨before, stopped⟩
    refine wp_mono ?_ (wp_createConnection before.attended before.outsider)
    rintro opened u ⟨attended', outsider', failed, made⟩
    refine ⟨attended', outsider', fun same => ⟨(failed same).shut, fun running => ?_⟩,
      fun same => ⟨v, before, made same⟩⟩
    have before := ((failed same).running running).1
    simp [stopped] at before
  · simp only [isOpen, decide_false, Bool.false_eq_true, if_false]
    refine wp_mono ?_ (wp_createConnection attended outsider)
    rintro opened u ⟨attended', outsider', failed, made⟩
    have before : Unattended self w w :=
      ⟨attended, ready.resolve_left isOpen, outsider, [], rfl⟩
    exact ⟨attended', outsider', failed, fun same => ⟨w, before, made same⟩⟩

structure Started (host : StdString) (port gameId : UInt16) (w u : World) : Prop where
  attended : Attended u
  client : u.memory.client.client = w.memory.client.client ∧
    u.memory.client.peer = w.memory.client.peer
  running : u.memory.client.running = true
  fields : u.memory.client.host = host ∧ u.memory.client.port = port ∧
    u.memory.client.gameId = gameId
  enet : u.enet = w.enet
  trace : u.trace = w.trace

theorem wp_startUpdate (attended : Attended w) (outsider : w.phase self = .unborn)
    (ended : ∀ id, ¬ (w.phase id).Alive) :
    wp (steps self (.calling self answers)) (startUpdate host port gameId)
      (fun _ u => Started host port gameId w u) w := by
  unfold startUpdate
  simp only [wp_bind, wp_setClient, World.setClient_setClient]
  refine wp_mono ?_ (wp_abortThread attended outsider)
  intro _ v aborted
  have same : v.memory.client.client = w.memory.client.client ∧
      v.memory.client.peer = w.memory.client.peer ∧ v.enet = w.enet ∧ v.trace = w.trace := by
    cases aborted with
    | none thread | finished id thread phase => exact ⟨rfl, rfl, rfl, rfl⟩
    | joined id thread alive u run => exact absurd alive (ended id)
  obtain ⟨alone, -⟩ := aborted.alone attended outsider
  rw [wp_spawn]
  intro id _ unborn
  refine ⟨⟨fun other live => ?_, ?_⟩, ⟨same.1, same.2.1⟩, rfl, ⟨rfl, rfl, rfl⟩,
    same.2.2.1, same.2.2.2⟩
  · by_cases new : other = id
    · subst new
      rfl
    · refine absurd live ?_
      simp only [World.setClient_phase, World.withPhase_phase, Function.update_of_ne new]
      exact alone.ended other
  · rintro _ ⟨⟩
    simp

theorem wp_sendProtocolMessage {env : Environment} {post : Unit → World → Prop}
    (after : ∀ packet, post () (w.record self (.enet (.peerSend w.memory.client.peer
      networkProtocolChannel (.protocol packet) true)) ()))
    (unsent : post () w) : wp (steps self env) sendProtocolMessage post w := by
  unfold sendProtocolMessage sendPacket
  simp only [wp_bind, wp_ite, Program.pure_eq, wp_ret, wp_client, wp_peerSend]
  split
  · exact unsent
  · exact fun _ _ => after _

theorem Started.connected {v u x y : World} {entries : List Entry}
    (started : Started host port gameId u x) (before : Unattended self w v)
    (opened : Opened self host port v u) (whole : y.trace = entries ++ w.trace)
    (resolves : entries.any Entry.unresolved = false) (memory : y.memory = x.memory)
    (phase : y.phase = x.phase) (enet : y.enet = x.enet)
    (later : ∃ sent, y.trace = sent ++ x.trace) :
    Orderly y ∧ ConnectedTo y host port gameId := by
  obtain ⟨id, peer, resolved, held, known, address, port', connected, reset, told, mine, trace,
    asked⟩ := opened.peer
  obtain ⟨earlier, trace'⟩ := before.trace
  obtain ⟨sent, later⟩ := later
  have all : entries = sent ++ (mine ++ earlier) := by
    refine List.append_cancel_right (whole.symm.trans ?_)
    rw [later, started.trace, trace, trace', List.append_assoc, List.append_assoc]
  have resolves' : Entry.unresolved ⟨self, .enet (.addressSetHost (cStr host)), resolved⟩ =
      false := by
    rw [List.any_eq_false] at resolves
    simpa using resolves _ (by simp [all, asked])
  have ok : resolved.ok = true := by simpa [Entry.unresolved] using resolves'
  have connected : ConnectedTo y host port gameId := by
    refine ⟨memory ▸ ⟨?_, ?_, started.running⟩, memory ▸ started.fields, id, peer, ?_, ?_, ?_,
      port', connected, reset⟩
    · rw [started.client.1]
      exact opened.created
    · rw [started.client.2, held]
      rfl
    · rw [memory, started.client.2, held]
    · rw [enet, started.enet, known]
    · rw [enet, started.enet, told ok, address]
  refine ⟨⟨started.attended.congr (by rw [memory]) phase, fun _ => ?_⟩, connected⟩
  obtain ⟨host', port', gameId'⟩ := connected.fields
  rwa [host', port', gameId']

theorem wp_connect (orderly : Orderly w) (outsider : w.phase self = .unborn)
    (ready : Ready w host port gameId) :
    wp (steps self (.calling self answers)) (connect host port gameId) (fun result u =>
      ∀ entries, u.trace = entries ++ w.trace → entries.any Entry.unresolved = false →
        Orderly u ∧ (result = true → ConnectedTo u host port gameId)) w := by
  unfold connect
  simp only [wp_bind, wp_client, wp_ite, Program.pure_eq, wp_ret]
  split
  · rename_i cached
    have isOpen : w.memory.client.IsOpen := ready.resolve_right fun other => other.1 cached
    intro _ _ _
    refine ⟨orderly, fun _ => ?_⟩
    obtain ⟨rfl, rfl, rfl⟩ := cached
    exact orderly.connected isOpen
  have alive : w.memory.client.IsOpen ∨ ∀ id, ¬ (w.phase id).Alive := ready.imp id And.right
  refine wp_mono ?_ (wp_openConnection orderly.attended outsider alive)
  rintro opened u ⟨attended, outsider', failed, made⟩
  cases opened with
  | false =>
    intro _ _ _
    exact ⟨⟨attended, fun isOpen => absurd isOpen (failed rfl).shut⟩, by simp⟩
  | true =>
    obtain ⟨v, before, opened⟩ := made rfl
    simp only [Bool.not_true, Bool.false_eq_true, if_false]
    refine wp_mono ?_ (wp_startUpdate attended outsider' fun id =>
      opened.aside.2 ▸ before.ended id)
    intro _ x started
    refine wp_sendProtocolMessage (fun packet => ?_) ?_
    · intro entries whole resolves
      have connected := started.connected before opened whole resolves rfl rfl rfl ⟨[_], rfl⟩
      exact ⟨connected.1, fun _ => connected.2⟩
    · intro entries whole resolves
      have connected := started.connected before opened whole resolves rfl rfl rfl ⟨[], rfl⟩
      exact ⟨connected.1, fun _ => connected.2⟩

end Connect

section Rounds

variable {id : ThreadId} {answers : (call : External) → World → call.Reply → Prop} {w u : World}

theorem Orderly.of_stopped (orderly : Orderly w) (stopped : u.memory.client.running = false)
    (thread : u.memory.client.thread = w.memory.client.thread) (phase : u.phase = w.phase) :
    Orderly u :=
  ⟨orderly.attended.congr thread phase, fun isOpen =>
    absurd isOpen (not_isOpen_of_stopped stopped)⟩

theorem Orderly.of_linked (orderly : Orderly w) (same : linked u.memory = linked w.memory)
    (phase : u.phase = w.phase)
    (enet : u.enet = w.enet ∨ ∃ host, u.enet = w.enet.connected host) : Orderly u := by
  refine ⟨orderly.attended.congr (linked_thread same) phase, fun isOpen => ?_⟩
  obtain ⟨client, running, host, port, gameId⟩ := linked_fields same
  have before : w.memory.client.IsOpen :=
    ⟨client ▸ isOpen.1, linked_peer same ▸ isOpen.2.1, running ▸ isOpen.2.2⟩
  obtain ⟨-, -, id, peer, held, known, resolved, port', connected, reset⟩ :=
    orderly.connected before
  have resolve : u.enet.resolve = w.enet.resolve := by
    rcases enet with enet | ⟨_, enet⟩
    · rw [enet]
    · rw [enet, Enet.connected]
  have still : ∃ peer', u.enet.peers id = some peer' ∧ peer'.address = peer.address ∧
      peer'.port = peer.port ∧ peer'.connected = true ∧ peer'.reset = false := by
    rcases enet with enet | ⟨at_host, enet⟩
    · exact ⟨peer, by rw [enet, known], rfl, rfl, connected, reset⟩
    · refine ⟨if peer.host = at_host then { peer with connected := true } else peer, ?_⟩
      simp only [enet, Enet.connected, known, Option.map_some, true_and]
      split
      · exact ⟨rfl, rfl, rfl, reset⟩
      · exact ⟨rfl, rfl, connected, reset⟩
  obtain ⟨peer', known', address', port'', connected', reset'⟩ := still
  refine ⟨isOpen, ⟨rfl, rfl, rfl⟩, id, peer', (linked_peer same).trans held, known', ?_, ?_,
    connected', reset'⟩
  · rw [resolve, host, resolved, address']
  · rw [port'', port', port]

theorem Attended.own (attended : Attended w) (alive : (w.phase id).Alive) :
    ∀ held ∈ w.memory.client.thread, held = id := by
  intro held same
  exact Option.some.inj (same.symm.trans (attended.alive id alive))

theorem orderly_message (orderly : Orderly w) (alive : (w.phase id).Alive) (channelID : UInt8)
    (packet : Bytes) : wp (steps id (.updating id answers)) (handleMessage channelID packet)
      (fun _ u => Orderly u) w := by
  by_cases rejected : ∃ status, cause channelID packet = .protocolRejected status
  · obtain ⟨status, rejected⟩ := rejected
    rw [handleMessage_rejected rejected, wp_bind]
    by_cases peer : w.memory.client.peer = none
    · exact wp_disconnect_none peer orderly
    · refine wp_mono ?_ (wp_disconnect_self updating_knows (orderly.attended.own alive) peer)
      intro _ u closed
      exact orderly.of_stopped closed.running closed.thread closed.phase
  · have kept : ∀ status, cause channelID packet ≠ .protocolRejected status := by
      intro status same
      exact rejected ⟨status, same⟩
    refine wp_mono ?_ (linking_rules.message kept _)
    intro _ u beside
    exact orderly.of_linked beside.memory beside.phase (.inl beside.enet)

theorem orderly_round (orderly : Orderly w) (alive : (w.phase id).Alive) :
    wp (steps id (.updating id answers)) updateRound
      (fun found u => Orderly u ∧ (found = some () → u = w)) w := by
  unfold updateRound
  simp only [wp_bind, wp_client, wp_ite, Program.pure_eq, wp_ret]
  split
  · exact ⟨orderly, by simp⟩
  split
  · exact ⟨orderly, by simp⟩
  refine wp_service fun serviced => ?_
  let v := ((w.record id (.enet (.serviceBegin w.memory.client.client 100)) ()).setEnet
    (if 0 < serviced.code ∧ serviced.event = .connect then w.enet.connected w.memory.client.client
      else w.enet)).record id (.enet (.serviceEnd w.memory.client.client 100)) serviced
  have served : Orderly v := by
    refine orderly.of_linked rfl rfl ?_
    by_cases connected : 0 < serviced.code ∧ serviced.event = .connect
    · exact .inr ⟨w.memory.client.client, if_pos connected⟩
    · exact .inl (if_neg connected)
  change if 0 < serviced.code then wp _ _ _ v else if serviced.code < 0 then wp _ _ _ v else _
  split
  · unfold handleEvent
    cases serviced.event with
    | none | connect => exact ⟨served, by simp⟩
    | disconnect =>
      rw [wp_setClient]
      exact ⟨served.of_stopped rfl rfl rfl, by simp⟩
    | receive channelID packet =>
      simp only [wp_bind, wp_client, wp_ite, wp_packetDestroy]
      split
      · exact fun _ _ => ⟨served.of_linked rfl rfl (.inl rfl), by simp⟩
      · refine wp_mono ?_ (orderly_message served alive channelID packet)
        exact fun _ u after _ _ => ⟨after.of_linked rfl rfl (.inl rfl), by simp⟩
  split
  · rw [wp_setClient]
    exact ⟨served.of_stopped rfl rfl rfl, by simp⟩
  · exact ⟨served, by simp⟩

theorem Attended.withPhase (attended : Attended w) (alive : (w.phase id).Alive) {phase : Phase}
    (born : phase ≠ .unborn) : Attended (w.withPhase id phase) := by
  refine ⟨fun other live => ?_, fun held same => ?_⟩
  · by_cases same : other = id
    · subst same
      exact attended.alive other alive
    · rw [World.withPhase_phase, Function.update_of_ne same] at live
      exact attended.alive other live
  · obtain rfl := attended.own alive held same
    simpa using born

theorem Orderly.withPhase (orderly : Orderly w) (alive : (w.phase id).Alive) {phase : Phase}
    (born : phase ≠ .unborn) : Orderly (w.withPhase id phase) := by
  refine ⟨orderly.attended.withPhase alive born, fun isOpen => ?_⟩
  obtain ⟨isOpen, fields, peer⟩ := orderly.connected isOpen
  exact ⟨isOpen, fields, peer⟩

end Rounds

structure ConnectCall where
  caller : ThreadId
  host : StdString
  port : UInt16
  gameId : UInt16

section Runs

variable (answers : (call : External) → World → call.Reply → Prop)

def ConnectCall.Returns (call : ConnectCall) (w : World) (result : Bool) (u : World) : Prop :=
  w.phase call.caller = .unborn ∧ Exec (steps call.caller (.calling call.caller answers))
    (connect call.host call.port call.gameId) w result u

-- The name is resolved, and the call starts with an open client, or with other cached fields and
-- no update thread that is not through.
def ConnectCall.Keeps (call : ConnectCall) (w u : World) : Prop :=
  Ready w call.host call.port call.gameId ∧
    ∀ entries, u.trace = entries ++ w.trace → entries.any Entry.unresolved = false

-- The steps of the client; `allowed` limits the calls of `connect()`.
inductive ClientStep (allowed : ConnectCall → World → World → Prop) : World → World → Prop where
  | connect {w u : World} (call : ConnectCall) (result : Bool)
      (step : call.Returns answers w result u)
      (ok : allowed call w u) : ClientStep allowed w u
  | disconnect {w u : World} (caller : ThreadId) (outsider : w.phase caller = .unborn)
      (status : UInt32)
      (step : Exec (steps caller (.calling caller answers)) (disconnect status) w () u) :
      ClientStep allowed w u
  | round {w u : World} (id : ThreadId) (looping : w.phase id = .looping)
      (step : Exec (steps id (.updating id answers)) updateRound w none u) : ClientStep allowed w u
  | leave {w u : World} (id : ThreadId) (looping : w.phase id = .looping)
      (step : Exec (steps id (.updating id answers)) updateRound w (some ()) u) :
      ClientStep allowed w (u.withPhase id .left)
  | close {w u : World} (id : ThreadId) (left : w.phase id = .left)
      (step : Exec (steps id (.updating id answers)) close w () u) :
      ClientStep allowed w (u.withPhase id .finished)

structure Fresh (w : World) : Prop where
  client : ∃ port, w.memory.client = .new port
  phase : ∀ id, w.phase id = .unborn

variable {answers}

theorem Fresh.orderly {w : World} (fresh : Fresh w) : Orderly w := by
  obtain ⟨port, client⟩ := fresh.client
  refine ⟨⟨fun id alive => ?_, fun id held => ?_⟩, ?_⟩
  · simp [fresh.phase, Phase.Alive] at alive
  · simp [client, Client.new] at held
  · rintro ⟨created, -⟩
    simp [client, Client.new] at created

theorem ConnectCall.Returns.outcome {call : ConnectCall} {w u : World} {result : Bool}
    (orderly : Orderly w) (returns : call.Returns answers w result u) (keeps : call.Keeps w u) :
    Orderly u ∧ (result = true → ConnectedTo u call.host call.port call.gameId) := by
  obtain ⟨outsider, run⟩ := returns
  obtain ⟨entries, trace⟩ := (run.stays (enduring_calling _)).trace
  exact run.wp (wp_connect orderly outsider keeps.1) entries trace (keeps.2 entries trace)

theorem ClientStep.orderly {w u : World} (step : ClientStep answers (ConnectCall.Keeps) w u)
    (before : Orderly w) : Orderly u := by
  cases step with
  | connect call result step keeps => exact (step.outcome before keeps).1
  | disconnect caller outsider status step =>
    by_cases peer : w.memory.client.peer = none
    · rw [disconnect_none peer step]
      exact before
    · obtain ⟨unattended, stopped⟩ := step.wp (wp_reconnect before.attended outsider peer)
      exact ⟨unattended.attended, fun isOpen => absurd isOpen (not_isOpen_of_stopped stopped)⟩
  | round id looping step =>
    have alive : (w.phase id).Alive := by simp [looping, Phase.Alive]
    exact (step.wp (orderly_round before alive)).1
  | leave id looping step =>
    have alive : (w.phase id).Alive := by simp [looping, Phase.Alive]
    obtain ⟨-, same⟩ := step.wp (orderly_round before alive)
    rw [same rfl]
    exact before.withPhase alive (by simp)
  | close id left step =>
    have alive : (w.phase id).Alive := by simp [left, Phase.Alive]
    have closed := step.wp (wp_closing_self updating_knows (before.attended.own alive))
    have after := before.of_stopped closed.running closed.thread closed.phase
    exact after.withPhase (closed.phase ▸ alive) (by simp)

theorem orderly_of_run {start w : World} (fresh : Fresh start)
    (run : ReflTransGen (ClientStep answers ConnectCall.Keeps) start w) : Orderly w := by
  induction run with
  | refl => exact fresh.orderly
  | tail _ step ih => exact step.orderly ih

/-- In every run in which all calls of `connect()` keep to the condition, a call that returns true
has connected the client. -/
theorem connect_connected (answers : (call : External) → World → call.Reply → Prop)
    (start w u : World) (fresh : Fresh start)
    (run : ReflTransGen (ClientStep answers ConnectCall.Keeps) start w) (call : ConnectCall)
    (returns : call.Returns answers w true u) (keeps : call.Keeps w u) :
    ConnectedTo u call.host call.port call.gameId :=
  (returns.outcome (orderly_of_run fresh run) keeps).2 rfl

end Runs

def starting (self id : ThreadId) : (call : ThreadCall) → World → Option (call.Reply × World)
  | .spawn, w => if w.phase id = .unborn then some (id, w.withPhase id .looping) else none
  | .selfId, w => some (self, w)
  | .joinable _, w => some (true, w)
  | .delete _, w | .exit, w => some ((), w)
  | .join _, _ => none

def connectReplies : Replies := ⟨obliging [1] .empty, connecting 1, starting 0 1⟩

theorem connectReplies_within : connectReplies.Within (.calling 0 fun _ _ _ => True) := by
  refine ⟨fun _ _ => trivial, fun _ _ => trivial, fun _ _ => trivial, ?_⟩
  intro call w reply w' answered
  cases call with
  | selfId | joinable =>
    obtain ⟨rfl, rfl⟩ := Prod.mk.inj (Option.some.inj answered)
    exact ⟨rfl, rfl⟩
  | delete | exit => exact (Prod.mk.inj (Option.some.inj answered)).2.symm
  | join => cases answered
  | spawn =>
    change (if w.phase 1 = .unborn then some (1, w.withPhase 1 .looping) else none) = _ at answered
    split at answered
    · rename_i unborn
      obtain ⟨rfl, rfl⟩ := Prod.mk.inj (Option.some.inj answered)
      exact ⟨by decide, unborn, rfl⟩
    · cases answered

def runConnect (call : ConnectCall) (w : World) : World :=
  ranPlugin 0 connectReplies (connect call.host call.port call.gameId) w

theorem returns_runConnect {call : ConnectCall} {w : World} (caller : call.caller = 0)
    (outsider : w.phase 0 = .unborn) (ran : ((runPlugin 0 connectReplies 60
      (connect call.host call.port call.gameId) w).map (·.1)) = some true) :
    call.Returns (fun _ _ _ => True) w true (runConnect call w) := by
  refine ⟨caller ▸ outsider, ?_⟩
  rw [caller]
  exact exec_ranPlugin connectReplies_within ran

theorem idle_fresh : Fresh .idle := ⟨⟨0, rfl⟩, fun _ => rfl⟩

theorem hostName_length : [(104 : UInt8)].length < 2 ^ 64 := by decide

def firstCall : ConnectCall := ⟨0, ⟨[104], hostName_length⟩, 1, 1⟩

theorem firstCall_returns : firstCall.Returns (fun _ _ _ => True) .idle true
    (runConnect firstCall .idle) :=
  returns_runConnect rfl rfl (by decide)

theorem firstCall_keeps : firstCall.Keeps .idle (runConnect firstCall .idle) := by
  refine ⟨.inr ⟨fun cached => ?_, fun _ => id⟩, fun entries trace => ?_⟩
  · exact absurd cached.1 (by decide)
  · change _ = entries ++ [] at trace
    rw [List.append_nil] at trace
    rw [← trace]
    decide

theorem connect_connected_first : ConnectedTo (runConnect firstCall .idle) firstCall.host 1 1 :=
  connect_connected (fun _ _ _ => True) .idle .idle _ idle_fresh .refl firstCall firstCall_returns
    firstCall_keeps

def cachedCall : ConnectCall := ⟨0, .empty, 0, 0⟩

-- The first call finds its arguments in the fields and returns true without a connection.
theorem connect_cached : ¬ ∀ (answers : (call : External) → World → call.Reply → Prop)
    (start w u : World), Fresh start →
      ReflTransGen (ClientStep answers fun _ _ _ => True) start w → ∀ call : ConnectCall,
        call.Returns answers w true u → ConnectedTo u call.host call.port call.gameId := by
  intro claimed
  have connected := claimed (fun _ _ _ => True) .idle .idle (runConnect cachedCall .idle) idle_fresh
    .refl cachedCall (returns_runConnect rfl rfl (by decide))
  have isOpen := connected.isOpen
  revert isOpen
  decide

end JustAnotherVoiceChat
