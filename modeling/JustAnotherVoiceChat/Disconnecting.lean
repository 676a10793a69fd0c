import JustAnotherVoiceChat.Joining
import JustAnotherVoiceChat.Scenario
import JustAnotherVoiceChat.Library.Interference
import JustAnotherVoiceChat.Library.Trace

set_option autoImplicit false

namespace JustAnotherVoiceChat

open Binary Interaction Relation

def External.Ends : External → Prop
  | .enet (.peerReset _) | .enet (.hostDestroy _) => True
  | _ => False

def Entry.Asks (caller : ThreadId) (status : UInt32) (e : Entry) : Prop :=
  e.thread = caller ∧ ∃ peer, e.call = .enet (.peerDisconnect peer status)

def Entry.Begins (host : Option HostId) (e : Entry) : Prop :=
  ∃ timeout, e.call = .enet (.serviceBegin host timeout)

def Entry.Stops (host : Option HostId) : Entry → Prop
  | ⟨_, .enet (.serviceEnd served timeout), ⟨code, event⟩⟩ =>
    served = host ∧ (0 < code ∧ event = .disconnect ∨ code ≤ 0 ∧ timeout = 3000)
  | _ => False

def Waited (host : Option HostId) (entries : List Entry) : Prop :=
  (∃ e ∈ entries, e.Begins host) ∧ ∃ e ∈ entries, e.Stops host

-- The first call that ends the connection after a request comes after the wait.
def WaitOk (caller : ThreadId) (status : UInt32) (host : Option HostId) (older : List Entry)
    (e : Entry) : Prop :=
  e.call.Ends → ∀ between asked before, older = between ++ asked :: before →
    asked.Asks caller status → (∀ x ∈ between, ¬ x.call.Ends) → Waited host between

def Waits (caller : ThreadId) (status : UInt32) (host : Option HostId) (w u : World) : Prop :=
  ∃ entries, u.trace = entries ++ w.trace ∧ Trace.Lawful (WaitOk caller status host) entries

def Environment.joining (self : ThreadId) : Environment :=
  .starting self (fun _ _ _ => True) (fun id w w' => w.phase id = .finished ∧ w' = w)
    (·.withPhase self .finished)

-- The caller of `disconnect()`, and the update thread, which is at the start of a round or before
-- its final `close()`.
def disconnecting (w : World) (caller : ThreadId) (status : UInt32) (id : ThreadId) : Plugin Unit :=
  if id = caller then disconnect status
  else match w.phase id with
    | .looping => do
      update
      thread .exit
    | .left => do
      close
      thread .exit
    | .unborn | .finished => return ()

abbrev DisconnectRun (w : World) (caller : ThreadId) (status : UInt32)
    (c : Config Op Op.Reply World ThreadId) : Prop :=
  ReflTransGen (Turn fun id => steps id (.joining id)) ⟨disconnecting w caller status, w⟩ c

def disconnectUntilClose (status : UInt32) : Plugin Bool := do
  if (← client).peer = none then
    return false
  enet (.peerDisconnect (← client).peer status)
  abortThread
  Program.repeatUntil awaitDisconnect
  setClient fun c => { c with host := .empty }
  setClient fun c => { c with port := 0 }
  setClient fun c => { c with gameId := 0 }
  setClient fun c => { c with teamspeakId := 0 }
  return true

theorem disconnect_eq (status : UInt32) : disconnect status = (do
    if ← disconnectUntilClose status then
      close) := by
  unfold disconnect disconnectUntilClose
  rw [bind_assoc]
  refine bind_congr fun c => ?_
  split
  · rfl
  simp only [bind_assoc]
  rfl

section Alone

variable {self : ThreadId} {status : UInt32} {host : Option HostId} {w u v : World}

theorem phase_of_threading {call : ThreadCall} {reply : call.Reply}
    (step : (Environment.joining self).threading call u reply v) :
    ∃ phase, v = { u with phase := phase } := by
  cases call with
  | selfId | joinable =>
    obtain ⟨-, rfl⟩ := step
    exact ⟨_, rfl⟩
  | join =>
    obtain ⟨_, -, -, rfl⟩ := step
    exact ⟨_, rfl⟩
  | spawn =>
    obtain ⟨-, -, rfl⟩ := step
    exact ⟨_, rfl⟩
  | delete | exit =>
    obtain rfl : v = _ := step
    exact ⟨_, rfl⟩

theorem trace_of_step {op : Op} {reply : op.Reply}
    (step : steps self (.joining self) op u reply v) :
    v.trace = u.trace ∨ ∃ call told, op = .external call ∧ v.trace =
    ⟨self, call, told⟩ :: u.trace := by
  cases op with
  | load =>
    obtain ⟨-, rfl⟩ := step
    exact .inl rfl
  | sleep | store =>
    obtain rfl : v = _ := step
    exact .inl rfl
  | thread call =>
    obtain ⟨phase, rfl⟩ := phase_of_threading step
    exact .inl rfl
  | external call =>
    obtain ⟨-, x, stepped, rfl⟩ := step
    exact .inr ⟨call, reply, rfl, congrArg (_ :: ·) stepped.frame.2.2⟩

theorem waits_step {op : Op} {reply : op.Reply} (goes : ∀ call, op = .external call → ¬ call.Ends)
    (before : Waits self status host w u) (step : steps self (.joining self) op u reply v) :
    Waits self status host w v := by
  obtain ⟨entries, trace, lawful⟩ := before
  rcases trace_of_step step with same | ⟨call, told, rfl, added⟩
  · exact ⟨entries, same.trans trace, lawful⟩
  · refine ⟨⟨self, call, told⟩ :: entries, by rw [added, trace]; rfl, ?_, lawful⟩
    intro ends
    exact absurd ends (goes call rfl)

structure Requested (caller : ThreadId) (status : UInt32) (w : World) (between : List Entry)
    (u : World) : Prop where
  trace : ∃ asked, u.trace = between ++ asked :: w.trace
  once : ∀ x ∈ between, ¬ x.Asks caller status

theorem Requested.cons {between : List Entry} {e : Entry}
    (requested : Requested self status w between u) (added : v.trace = e :: u.trace)
    (other : ¬ e.Asks self status) : Requested self status w (e :: between) v := by
  obtain ⟨⟨asked, trace⟩, once⟩ := requested
  refine ⟨⟨asked, by rw [added, trace]; rfl⟩, fun x member => ?_⟩
  rcases List.mem_cons.mp member with rfl | member
  · exact other
  · exact once x member

theorem waitOk_of_requested {asked e : Entry} {between : List Entry}
    (once : ∀ x ∈ between, ¬ x.Asks self status) (waited : Waited host between) :
    WaitOk self status host (between ++ [asked]) e := by
  intro _ since request before split asks _
  rcases List.append_eq_append_iff.mp split with ⟨more, rfl, rest⟩ | ⟨more, rfl, rest⟩
  · cases more with
    | nil => rwa [List.append_nil]
    | cons x more => simp at rest
  · cases more with
    | nil => rwa [List.append_nil] at waited
    | cons x more =>
      obtain ⟨rfl, -⟩ := List.cons.inj rest
      exact absurd asks (once request (by simp))

-- The wait is over.
def Settled (caller : ThreadId) (status : UInt32) (host : Option HostId) (w u : World) : Prop :=
  ∃ between, Requested caller status w between u ∧ Waited host between

theorem Waited.cons {e : Entry} {entries : List Entry} (waited : Waited host entries) :
    Waited host (e :: entries) := by
  obtain ⟨⟨x, member, begins⟩, y, member', stops⟩ := waited
  exact ⟨⟨x, List.mem_cons_of_mem _ member, begins⟩, y, List.mem_cons_of_mem _ member', stops⟩

theorem settled_step {op : Op} {reply : op.Reply}
    (goes : ∀ peer status, op ≠ .external (.enet (.peerDisconnect peer status)))
    (before : Waits self status host w u) (settled : Settled self status host w u)
    (step : steps self (.joining self) op u reply v) :
    Waits self status host w v ∧ Settled self status host w v := by
  obtain ⟨between, requested, waited⟩ := settled
  obtain ⟨asked, trace⟩ := requested.trace
  obtain ⟨entries, trace', lawful⟩ := before
  obtain rfl : entries = between ++ [asked] := by
    refine List.append_cancel_right (trace'.symm.trans (trace.trans ?_))
    simp
  rcases trace_of_step step with same | ⟨call, told, rfl, added⟩
  · exact ⟨⟨_, same.trans trace', lawful⟩, between, ⟨⟨asked, same.trans trace⟩, requested.once⟩,
      waited⟩
  · have other : ¬ (⟨self, call, told⟩ : Entry).Asks self status := by
      rintro ⟨-, peer, rfl⟩
      exact goes peer status rfl
    refine ⟨⟨⟨self, call, told⟩ :: (between ++ [asked]), by rw [added, trace']; rfl, ?_, lawful⟩,
      _, requested.cons added other, waited.cons⟩
    exact waitOk_of_requested requested.once waited

def Op.Local : Op → Prop
  | .load | .thread _ => True
  | .store update => ∀ m, (update m).client.client = m.client.client
  | .external _ | .sleep _ => False

theorem setClient_local {update : Client → Client} (same : ∀ c, (update c).client = c.client) :
    (setClient update).Calls Op.Local := ⟨fun m => same m.client, fun _ => trivial⟩

theorem thread_local (call : ThreadCall) : (thread call).Calls Op.Local :=
  ⟨trivial, fun _ => trivial⟩

theorem abortThread_local : abortThread.Calls Op.Local :=
  (PluginPrograms.of_load trivial).abortThread (fun call _ _ => thread_local call)
    (setClient_local fun _ => rfl) (setClient_local fun _ => rfl)

def Op.Open (op : Op) : Prop := ∀ call, op = .external call → ¬ call.Ends

theorem Op.Local.open {op : Op} (aside : op.Local) : op.Open := by
  rintro call rfl
  exact absurd aside id

theorem disconnectUntilClose_open (status : UInt32) :
    (disconnectUntilClose status).Calls Op.Open := by
  have parts : PluginPrograms (fun {_} p => p.Calls Op.Open) := .of_load (by simp [Op.Open])
  have aborting : abortThread.Calls Op.Open := abortThread_local.mono fun _ => Op.Local.open
  have storing (update : Client → Client) : (setClient update).Calls Op.Open :=
    ⟨by simp [Op.Open], fun _ => trivial⟩
  have calling {call : EnetCall} (goes : ¬ (External.enet call).Ends) :
    (enet call).Calls Op.Open := by
    refine ⟨fun _ same => ?_, fun _ => trivial⟩
    cases same
    exact goes
  have serving : (service 3000).Calls Op.Open :=
    parts.service (fun _ => calling id) fun _ => calling id
  have waiting : awaitDisconnect.Calls Op.Open := parts.awaitDisconnect serving (calling id)
  unfold disconnectUntilClose
  refine parts.bind parts.client fun c => ?_
  split
  · trivial
  refine parts.bind parts.client fun c => ?_
  refine parts.bind (calling id) fun _ => ?_
  refine parts.bind aborting fun _ => ?_
  refine parts.bind (repeatUntil_calls waiting) fun _ => ?_
  refine parts.bind (storing _) fun _ => ?_
  refine parts.bind (storing _) fun _ => ?_
  refine parts.bind (storing _) fun _ => ?_
  exact parts.bind (storing _) fun _ => trivial

def Op.Unasking (op : Op) : Prop :=
  ∀ peer status, op ≠ .external (.enet (.peerDisconnect peer status))

theorem close_unasking : close.Calls Op.Unasking := by
  have parts : PluginPrograms (fun {_} p => p.Calls Op.Unasking) := .of_load (by simp [Op.Unasking])
  have aborting : abortThread.Calls Op.Unasking :=
    abortThread_local.mono fun op aside peer status same => by simp [same, Op.Local] at aside
  have storing (update : Client → Client) : (setClient update).Calls Op.Unasking :=
    ⟨by simp [Op.Unasking], fun _ => trivial⟩
  have resetting (peer : Option PeerId) : (enet (.peerReset peer)).Calls Op.Unasking :=
    ⟨by simp [Op.Unasking], fun _ => trivial⟩
  have destroying (host : Option HostId) : (enet (.hostDestroy host)).Calls Op.Unasking :=
    ⟨by simp [Op.Unasking], fun _ => trivial⟩
  have restoring : resetTeamspeak.Calls Op.Unasking := by
    refine resetTeamspeak_calls.mono fun op keeping peer status same => ?_
    rw [same] at keeping
    cases keeping.1
  have closing : closeConnection.Calls Op.Unasking :=
    parts.closeConnection resetting destroying fun _ _ => storing _
  exact aborting.bind fun _ => closing.bind fun _ => restoring

def Requesting (caller : ThreadId) (status : UInt32) (host : Option HostId) (w u : World) : Prop :=
  u.memory.client.client = host ∧ ∃ between, Requested caller status w between u

theorem requesting_abort (requesting : Requesting self status host w u) :
    wp (steps self (.joining self)) abortThread
      (fun _ v => Requesting self status host w v) u := by
  refine wp_of_calls abortThread_local (fun op x reply y aside before step => ?_) requesting
  obtain ⟨served, between, ⟨asked, trace⟩, once⟩ := before
  have same : y.trace = x.trace := by
    rcases trace_of_step step with same | ⟨call, told, rfl, -⟩
    · exact same
    · cases aside
  have kept : y.memory.client.client = x.memory.client.client := by
    cases op with
    | load =>
      obtain ⟨-, rfl⟩ := step
      rfl
    | store update =>
      obtain rfl : y = _ := step
      exact aside x.memory
    | external | sleep => cases aside
    | thread call =>
      obtain ⟨phase, rfl⟩ := phase_of_threading step
      rfl
  exact ⟨kept.trans served, between, ⟨asked, same.trans trace⟩, once⟩

theorem requesting_await (created : host ≠ none) (requesting : Requesting self status host w u) :
    wp (steps self (.joining self)) awaitDisconnect (fun found v =>
      found.elim (Requesting self status host w v) fun _ => Settled self status host w v) u := by
  obtain ⟨served, between, requested⟩ := requesting
  unfold awaitDisconnect
  simp only [wp_bind, wp_client, wp_ite, Program.pure_eq, wp_ret]
  rw [if_neg (served.symm ▸ created)]
  refine wp_service fun serviced => ?_
  let begun := u.record self (.enet (.serviceBegin u.memory.client.client 3000)) ()
  let ended := (begun.setEnet (if 0 < serviced.code ∧ serviced.event = .connect then
    u.enet.connected u.memory.client.client else u.enet)).record self
    (.enet (.serviceEnd u.memory.client.client 3000)) serviced
  have requested : Requested self status w (⟨self, .enet (.serviceEnd u.memory.client.client 3000),
      serviced⟩ :: ⟨self, .enet (.serviceBegin u.memory.client.client 3000),
      ()⟩ :: between) ended := by
    have began : Requested self status w _ begun := requested.cons rfl (by simp [Entry.Asks])
    exact began.cons rfl (by simp [Entry.Asks])
  have settles (stops : (⟨self, .enet (.serviceEnd u.memory.client.client 3000), serviced⟩ :
      Entry).Stops host) : Settled self status host w ended := by
    refine ⟨_, requested, ⟨_, List.mem_cons_of_mem _ (List.mem_cons_self ..), 3000, ?_⟩, _,
      List.mem_cons_self .., stops⟩
    rw [served]
  obtain ⟨code, event⟩ := serviced
  split
  · rename_i nothing
    exact settles ⟨served, .inr ⟨nothing, rfl⟩⟩
  rename_i something
  rw [not_le] at something
  cases event with
  | disconnect => exact settles ⟨served, .inl ⟨something, rfl⟩⟩
  | none | connect => exact ⟨served, _, requested⟩
  | receive channelID packet =>
    simp only [wp_bind, wp_packetDestroy]
    intro _ _
    exact ⟨served, _, requested.cons rfl (by simp [Entry.Asks])⟩

theorem settled_until_close (created : w.memory.client.client ≠ none)
    (connected : w.memory.client.peer ≠ none) :
    wp (steps self (.joining self)) (disconnectUntilClose status)
      (fun _ u => Settled self status w.memory.client.client w u) w := by
  let asked := w.record self (.enet (.peerDisconnect w.memory.client.peer status)) ()
  have requesting : Requesting self status w.memory.client.client w asked :=
    ⟨rfl, [], ⟨_, rfl⟩, by simp⟩
  unfold disconnectUntilClose
  simp only [wp_bind, wp_client, wp_ite, wp_peerDisconnect, wp_setClient, Program.pure_eq, wp_ret]
  rw [if_neg connected]
  intro _ _
  refine wp_mono ?_ (requesting_abort requesting)
  intro _ v aborted
  refine wp_mono ?_ (wp_repeatUntil (Requesting self status w.memory.client.client w) aborted
    fun x before => requesting_await created before)
  rintro _ x ⟨between, ⟨asked, once⟩, waited⟩
  exact ⟨between, ⟨asked, once⟩, waited⟩

theorem safe_disconnect (created : w.memory.client.client ≠ none)
    (connected : w.memory.client.peer ≠ none) :
    Safe (steps self (.joining self))
      (.alone (Waits self status w.memory.client.client w)) (disconnect status)
      (fun _ _ => True) w := by
  have start : Waits self status w.memory.client.client w w := ⟨[], rfl, trivial⟩
  rw [disconnect_eq]
  refine Safe.bind start (Safe.mono ?_ (Safe.of_wp (disconnectUntilClose_open status) ?_ start
    (settled_until_close created connected)))
  · intro asked u before settled
    cases asked with
    | false => exact fun _ _ _ => trivial
    | true =>
      refine Safe.mono (fun _ _ _ _ => trivial) (Safe.of_calls (Contract.alone_stable
        (Settled self status w.memory.client.client w)) close_unasking ?_ before settled)
      intro op t reply x unasking waits settled step
      exact ⟨trivial, settled_step unasking waits settled step⟩
  · exact fun op t reply x goes waits step => waits_step goes waits step

end Alone

section Beaten

variable {self id : ThreadId} {status : UInt32} {w : World}

theorem exec_client : Exec (steps self (.joining self)) client w w.memory.client w :=
  .call ⟨rfl, rfl⟩ .ret

theorem exec_setClient {update : Client → Client} :
    Exec (steps self (.joining self)) (setClient update) w () (w.setClient update) :=
  .call rfl .ret

theorem exec_selfId :
    @Exec _ _ _ (steps self (.joining self)) ThreadId (thread .selfId) w self w :=
  .call ⟨rfl, rfl⟩ .ret

theorem exec_joinable {held : Option ThreadId} :
    @Exec _ _ _ (steps self (.joining self)) Bool (thread (.joinable held)) w true w :=
  .call ⟨rfl, rfl⟩ .ret

theorem exec_peerDisconnect {peer : Option PeerId} :
    @Exec _ _ _ (steps self (.joining self)) Unit (enet (.peerDisconnect peer status)) w ()
      (w.record self (.enet (.peerDisconnect peer status)) ()) :=
  .call ⟨trivial, w, ⟨w.enet, rfl, rfl⟩, rfl⟩ .ret

theorem exec_peerReset {peer : Option PeerId} :
    @Exec _ _ _ (steps self (.joining self)) Unit (enet (.peerReset peer)) w ()
      ((w.setEnet (w.enet.reset peer)).record self (.enet (.peerReset peer)) ()) :=
  .call ⟨trivial, _, ⟨_, rfl, rfl⟩, rfl⟩ .ret

theorem moves_abortThread (held : w.memory.client.thread = some id) (other : id ≠ self) :
    ∃ rest, Moves (steps self (.joining self)) abortThread w rest w.stopped := by
  apply Exists.intro
  unfold abortThread
  apply exec_client.before
  rw [if_neg (by simp [held])]
  apply exec_client.before
  apply exec_selfId.before
  rw [if_pos (by simp [held, other])]
  apply exec_client.before
  apply exec_joinable.before
  rw [if_pos rfl]
  apply exec_setClient.before
  exact .refl

theorem exec_abortThread (held : w.memory.client.thread = some id) :
    Exec (steps id (.joining id)) abortThread w () w := by
  unfold abortThread
  refine exec_client.bind ?_
  rw [if_neg (by simp [held])]
  refine exec_client.bind (exec_selfId.bind ?_)
  rw [if_neg (by simp [held])]
  exact .ret

theorem moves_disconnect (connected : w.memory.client.peer ≠ none)
    (held : w.memory.client.thread = some id) (other : id ≠ self) :
    ∃ rest, Moves (steps self (.joining self)) (disconnect status) w rest
      (w.record self (.enet (.peerDisconnect w.memory.client.peer status)) ()).stopped := by
  have same : (w.record self (.enet (.peerDisconnect w.memory.client.peer status))
      ()).memory.client.thread = some id := held
  obtain ⟨rest, aborting⟩ := moves_abortThread same other
  apply Exists.intro
  unfold disconnect
  apply exec_client.before
  rw [if_neg connected]
  apply exec_client.before
  apply exec_peerDisconnect.before
  exact aborting.bind _

theorem moves_close (connected : w.memory.client.peer ≠ none)
    (held : w.memory.client.thread = some id) :
    ∃ rest, Moves (steps id (.joining id)) close w rest
      ((w.setEnet (w.enet.reset w.memory.client.peer)).record id
        (.enet (.peerReset w.memory.client.peer)) ()) := by
  have resets : ∃ rest, Moves (steps id (.joining id)) closeConnection w rest
      ((w.setEnet (w.enet.reset w.memory.client.peer)).record id
        (.enet (.peerReset w.memory.client.peer)) ()) := by
    apply Exists.intro
    unfold closeConnection
    apply exec_client.before
    rw [if_pos connected]
    apply exec_client.before
    apply exec_peerReset.before
    exact .refl
  obtain ⟨rest, resets⟩ := resets
  apply Exists.intro
  unfold close
  exact (exec_abortThread held).before (resets.bind _)

theorem exec_update (stopped : w.memory.client.running = false) :
    Exec (steps id (.joining id)) (Program.repeatUntil updateRound) w () w := by
  have round : Exec (steps id (.joining id)) updateRound w (some ()) w := by
    unfold updateRound
    refine exec_client.bind ?_
    rw [if_pos stopped]
    exact .ret
  exact .leave round .ret

theorem moves_disconnecting {v : World} (connected : v.memory.client.peer ≠ none)
    (held : v.memory.client.thread = some id) (stopped : v.memory.client.running = false)
    (other : id ≠ self) (alive : (w.phase id).Alive) :
    ∃ rest, Moves (steps id (.joining id)) (disconnecting w self status id) v rest
      ((v.setEnet (v.enet.reset v.memory.client.peer)).record id
        (.enet (.peerReset v.memory.client.peer)) ()) := by
  obtain ⟨rest, resets⟩ := moves_close connected held
  unfold disconnecting
  rw [if_neg other]
  apply Exists.intro
  cases phase : w.phase id with
  | unborn | finished => simp [phase, Phase.Alive] at alive
  | left => exact resets.bind _
  | looping =>
    have ends : Moves (steps id (.joining id)) update v rest _ :=
      (exec_update stopped).before resets
    exact ends.bind _

theorem turns_of_moves {programs : ThreadId → Plugin Unit} {rest : Plugin Unit} {v : World}
    (moves : Moves (steps id (.joining id)) (programs id) w rest v) :
    ReflTransGen (Turn fun id => steps id (.joining id)) ⟨programs, w⟩
      ⟨Function.update programs id rest, v⟩ := by
  let sem : ThreadId → Semantics Op Op.Reply World := fun id => steps id (.joining id)
  have own : Moves (sem id) (programs id) w rest v := moves
  have turns := own.turns programs
  rwa [Function.update_eq_self] at turns

-- With another thread to join, the peer can be reset before the host is served once.
theorem unserved_of_alive (isOpen : w.memory.client.IsOpen) (attended : Attended w)
    (other : id ≠ self) (alive : (w.phase id).Alive) :
    ∃ c, DisconnectRun w self status c ∧ ¬ Waits self status w.memory.client.client w c.state := by
  have held := attended.alive id alive
  have connected := Option.isSome_iff_ne_none.mp isOpen.2.1
  obtain ⟨asking, asks⟩ := moves_disconnect connected held other
  have own : disconnecting w self status self = disconnect status := if_pos rfl
  rw [← own] at asks
  have first := turns_of_moves asks
  let asked := (w.record self (.enet (.peerDisconnect w.memory.client.peer status)) ()).stopped
  obtain ⟨closing, closes⟩ := @moves_disconnecting self id status w asked connected held
    rfl other alive
  have same : Function.update (disconnecting w self status) self asking id =
      disconnecting w self status id := Function.update_of_ne other _ _
  rw [← same] at closes
  have second := turns_of_moves closes
  refine ⟨_, first.trans second, ?_⟩
  rintro ⟨entries, trace, lawful⟩
  obtain rfl : entries = [⟨id, .enet (.peerReset w.memory.client.peer), ()⟩,
      ⟨self, .enet (.peerDisconnect w.memory.client.peer status), ()⟩] :=
    List.append_cancel_right trace.symm
  obtain ⟨⟨x, member, -⟩, -⟩ := lawful.1 trivial [] _ [] rfl ⟨rfl, _, rfl⟩ (by simp)
  simp at member

end Beaten

/-- For every open client: in every interleaving the host is served until the server can have
received the status, if and only if no other thread is the update thread. -/
theorem disconnect_waits (w : World) (caller : ThreadId) (status : UInt32)
    (isOpen : w.memory.client.IsOpen) (attended : Attended w) :
    (∀ c, DisconnectRun w caller status c →
      Waits caller status w.memory.client.client w c.state) ↔
    ∀ id, id ≠ caller → ¬ (w.phase id).Alive := by
  constructor
  · intro waits id other alive
    obtain ⟨c, run, unserved⟩ := unserved_of_alive isOpen attended other alive
    exact unserved (waits c run)
  · intro alone c run
    have created := Option.isSome_iff_ne_none.mp isOpen.1
    have connected := Option.isSome_iff_ne_none.mp isOpen.2.1
    have own : disconnecting w caller status caller = disconnect status := if_pos rfl
    have safe := @safe_disconnect caller status w created connected
    rw [← own] at safe
    refine (Safe.run_alone ⟨[], rfl, trivial⟩ (fun id other => ?_) safe run).1
    change disconnecting w caller status id = .ret ()
    unfold disconnecting
    rw [if_neg other]
    cases phase : w.phase id with
    | unborn | finished => rfl
    | looping | left =>
      refine absurd ?_ (alone id other)
      simp [phase, Phase.Alive]

def served : World :=
  (World.idle.setClient fun c =>
    { c with client := some 0, peer := some 0, thread := some 1, running := true }
  ).withPhase 1 .looping

theorem served_alive {id : ThreadId} (alive : (served.phase id).Alive) : id = 1 := by
  by_cases same : id = 1
  · exact same
  · simp [served, Function.update_of_ne same, World.idle, Phase.Alive] at alive

theorem served_attended : Attended served where
  alive id alive := by rw [served_alive alive]; rfl
  born := by
    rintro _ ⟨⟩
    decide

theorem disconnect_waits_own : ¬ ∃ c, DisconnectRun served 1 disconnectStatusOutdatedServer c ∧
    ¬ Waits 1 disconnectStatusOutdatedServer (some 0) served c.state := by
  rintro ⟨c, run, unserved⟩
  refine unserved ((disconnect_waits served 1 disconnectStatusOutdatedServer (by decide)
    served_attended).mpr ?_ c run)
  exact fun _ other alive => other (served_alive alive)

-- On a reconnect the update thread can reset the peer before the host is served.
theorem disconnect_unserved : ¬ ∀ (w : World) (caller : ThreadId) (status : UInt32),
    w.memory.client.IsOpen → Attended w → ∀ c, DisconnectRun w caller status c →
      Waits caller status w.memory.client.client w c.state := by
  intro claimed
  obtain ⟨c, run, unserved⟩ := @unserved_of_alive 0 1 disconnectStatusReconnect served (by decide)
    served_attended (by decide) (by decide)
  exact unserved (claimed served 0 disconnectStatusReconnect (by decide) served_attended c run)

end JustAnotherVoiceChat
