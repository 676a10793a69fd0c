import JustAnotherVoiceChat.ClientPrograms
import JustAnotherVoiceChat.Library.Ending
import JustAnotherVoiceChat.Library.Section

set_option autoImplicit false

namespace JustAnotherVoiceChat

open Binary Interaction Relation

namespace SubscriptionWait

structure Stream where
  external : Nat → (call : External) → call.Reply
  thread : Nat → (call : ThreadCall) → call.Reply

structure Machine where
  memory : Memory
  calls : Nat

def Machine.tick (m : Machine) : Machine := { m with calls := m.calls + 1 }

def runs (stream : Stream) (join : Machine → Machine → Prop) : Semantics Op Op.Reply Machine
  | .load, m, reply, m' => reply = m.memory ∧ m' = m
  | .store update, m, _, m' => m' = { m with memory := update m.memory }
  | .external call, m, reply, m' => reply = stream.external m.calls call ∧ m' = m.tick
  | .thread call, m, reply, m' => match call with
    | .join _ => join m m'
    | call => reply = stream.thread m.calls call ∧ m' = m.tick
  | .sleep _, m, _, m' => m' = m

def ended (m m' : Machine) : Prop := m' = m.tick

def awaits (left : Plugin Unit) (updates : Stream) (m m' : Machine) : Prop :=
  ∃ u, Exec (runs updates ended) left ⟨m.memory, 0⟩ () u ∧
    m' = { m.tick with memory := u.memory }

theorem runs_deterministic {stream : Stream} {join : Machine → Machine → Prop}
    (single : ∀ m t t', join m t → join m t' → t = t') : Deterministic (runs stream join) := by
  intro op m reply t reply' t' step step'
  cases op with
  | load => exact ⟨step.1.trans step'.1.symm, step.2.trans step'.2.symm⟩
  | store update => exact ⟨rfl, Eq.trans step step'.symm⟩
  | external call => exact ⟨step.1.trans step'.1.symm, step.2.trans step'.2.symm⟩
  | thread call =>
    cases call with
    | join thread => exact ⟨rfl, single m t t' step step'⟩
    | selfId | spawn | joinable | delete | exit =>
      exact ⟨step.1.trans step'.1.symm, step.2.trans step'.2.symm⟩
  | sleep milliseconds => exact ⟨rfl, Eq.trans step step'.symm⟩

theorem ended_single (m t t' : Machine) (returned : ended m t) (returned' : ended m t') : t = t' :=
  Eq.trans returned returned'.symm

theorem awaits_single {left : Plugin Unit} {updates : Stream} (m t t' : Machine)
    (returned : awaits left updates m t) (returned' : awaits left updates m t') : t = t' := by
  obtain ⟨u, run, rfl⟩ := returned
  obtain ⟨u', run', rfl⟩ := returned'
  rw [(run.unique (runs_deterministic ended_single) run').2]

def Unconfirmed (stream : Stream) (channelId : UInt64) (m : Machine) : Prop :=
  ∀ k, m.calls ≤ k → stream.external k (.teamspeak (.getChannelAreSubscribed
    m.memory.wrapper.serverConnectionHandler channelId)) = some (0 : Int32)

section Round

variable {stream : Stream} {join : Machine → Machine → Prop}

def answerPoll (stream : Stream) (channelId : UInt64) (m : Machine) : Option Int32 :=
  stream.external m.calls (.teamspeak
    (.getChannelAreSubscribed m.memory.wrapper.serverConnectionHandler channelId))

def pollFound : Option Int32 → Option Bool
  | none => some false
  | some isSubscribed => if isSubscribed = 0 then none else some true

theorem pollFound_none {reply : Option Int32} (found : pollFound reply = none) :
    reply = some 0 := by
  cases reply with
  | none => cases found
  | some isSubscribed =>
    by_cases unsubscribed : isSubscribed = 0
    · rw [unsubscribed]
    · simp [pollFound, unsubscribed] at found

theorem pollRound_exec (channelId : UInt64) (m : Machine) :
    Exec (runs stream join) (pollRound channelId) m (pollFound (answerPoll stream channelId m))
      m.tick := by
  have slept : runs stream join (.sleep 10) m () m := rfl
  apply Exec.call slept
  apply Exec.call ⟨rfl, rfl⟩
  apply Exec.call ⟨rfl, rfl⟩
  unfold answerPoll
  generalize stream.external m.calls _ = reply
  cases reply with
  | none => exact .ret
  | some isSubscribed => exact .ret

theorem unconfirmed_never {α : Type} {channelId : UInt64} {next : Bool → Plugin α} {m : Machine}
    (unconfirmed : Unconfirmed stream channelId m) (fixed : Deterministic (runs stream join)) :
    ¬ Ends (runs stream join) (.iterate (pollRound channelId) next) m := by
  intro ends
  obtain ⟨value, t, run⟩ := ends
  generalize same : Program.iterate (pollRound channelId) next = whole at run
  induction run with
  | ret => cases same
  | call => cases same
  | again round rest _ ih =>
    cases same
    have turn := (round.unique fixed (pollRound_exec channelId _)).2
    subst turn
    exact ih (fun k after => unconfirmed k (Nat.le_of_succ_le after)) rfl
  | leave round rest =>
    cases same
    have found := (round.unique fixed (pollRound_exec channelId _)).1
    have answered : answerPoll stream channelId _ = some 0 := unconfirmed _ le_rfl
    rw [answered] at found
    cases found

end Round

section Blocking

variable (stream : Stream) (join : Machine → Machine → Prop) (blocked : Machine → Prop)

-- At a wait that is never confirmed, or at a join that never returns.
inductive Held : {α : Type} → Plugin α → Machine → Prop where
  | poll {α : Type} {channelId : UInt64} {next : Bool → Plugin α} {m : Machine}
      (unconfirmed : Unconfirmed stream channelId m) :
      Held (.iterate (pollRound channelId) next) m
  | join {α : Type} {thread : Option ThreadId} {next : Unit → Plugin α} {m : Machine}
      (waiting : blocked m) : Held (.call (.thread (.join thread)) next) m

variable {stream join blocked}

theorem Held.bind {α β : Type} {p : Plugin α} {m : Machine} (held : Held stream blocked p m)
    (f : α → Plugin β) : Held stream blocked (p >>= f) m := by
  cases held with
  | poll unconfirmed => exact .poll unconfirmed
  | join waiting => exact .join waiting

def blocks (fixed : Deterministic (runs stream join))
    (never : ∀ m m', blocked m → ¬ join m m') : Barrier (runs stream join) where
  stuck := Held stream blocked
  bind f _ held := held.bind f
  never := by
    intro α p m held ends
    cases held with
    | poll unconfirmed => exact unconfirmed_never unconfirmed fixed ends
    | join waiting =>
      obtain ⟨value, t, run⟩ := ends
      cases run with
      | call step => exact never _ _ waiting step

end Blocking

def updateBarrier (updates : Stream) : Barrier (runs updates ended) :=
  blocks (runs_deterministic ended_single) fun _ _ (never : False) => never.elim

def UpdateHeld (left : Plugin Unit) (updates : Stream) (m : Machine) : Prop :=
  Comes (updateBarrier updates) left ⟨m.memory, 0⟩

theorem updateHeld_never {left : Plugin Unit} {updates : Stream} (m m' : Machine)
    (held : UpdateHeld left updates m) : ¬ awaits left updates m m' := by
  intro returned
  obtain ⟨u, run, -⟩ := returned
  exact held.not_ends (runs_deterministic ended_single) ⟨(), u, run⟩

def callerBarrier (stream updates : Stream) (left : Plugin Unit) :
    Barrier (runs stream (awaits left updates)) :=
  blocks (runs_deterministic awaits_single) updateHeld_never

def Op.Keeps (joins : Bool) : Op → Prop
  | .store update => ∀ m, m.client.running = false → (update m).client.running = false
  | .thread (.join _) => joins = true
  | _ => True

inductive Polling (joins loops : Bool) {α : Type} : Plugin α → Prop where
  | ret (value : α) : Polling joins loops (.ret value)
  | call {op : Op} {next : op.Reply → Plugin α} (keeps : Op.Keeps joins op)
      (rest : ∀ reply, Polling joins loops (next reply)) : Polling joins loops (.call op next)
  | poll {channelId : UInt64} {next : Bool → Plugin α}
      (rest : ∀ subscribed, Polling joins loops (next subscribed)) :
      Polling joins loops (.iterate (pollRound channelId) next)
  | await (allowed : loops = true) {next : Unit → Plugin α}
      (rest : ∀ value, Polling joins loops (next value)) :
      Polling joins loops (.iterate awaitDisconnect next)
  | loop (allowed : loops = true) {next : Unit → Plugin α}
      (rest : ∀ value, Polling joins loops (next value)) :
      Polling joins loops (.iterate updateRound next)

section Shape

variable {joins loops : Bool} {α β : Type}

theorem Polling.bind {p : Plugin α} {f : α → Plugin β} (first : Polling joins loops p)
    (rest : ∀ value, Polling joins loops (f value)) : Polling joins loops (p >>= f) := by
  induction first with
  | ret value => exact rest value
  | call keeps _ ih => exact .call keeps ih
  | poll _ ih => exact .poll ih
  | await allowed _ ih => exact .await allowed ih
  | loop allowed _ ih => exact .loop allowed ih

theorem polling_enet (call : EnetCall) : Polling joins loops (enet call) :=
  .call trivial fun reply => .ret reply

theorem polling_setClient {update : Client → Client}
    (keeps : ∀ c, c.running = false → (update c).running = false) :
    Polling joins loops (setClient update) :=
  .call (fun m stopped => keeps m.client stopped) fun _ => .ret ()

theorem polling_parts : PartPrograms (fun {_} p => Polling joins loops p) where
  pure := .ret
  bind := Polling.bind
  load := .call trivial fun m => .ret m
  sleepFor _ := .call trivial fun _ => .ret ()
  teamspeak _ := .call trivial fun reply => .ret reply
  poll _ _ _ := .poll fun subscribed => .ret subscribed
  setWrapper _ := .call (fun _ stopped => stopped) fun _ => .ret ()

theorem polling_handlers : HandlerPrograms (fun {_} p => Polling joins loops p) where
  toPartPrograms := polling_parts
  setClient same := polling_setClient fun c stopped =>
    (congrArg Client.running (same c)).trans stopped
  sendHandshake := polling_parts.sendHandshake (polling_parts.ts3GetClientIdentity trivial)
    fun _ => polling_parts.sendPacket fun _ => polling_enet _
  sendStatus := polling_parts.sendStatus fun _ => polling_parts.sendPacket fun _ => polling_enet _

theorem polling_reset (field : Client.Field) : Polling joins loops (setClient field.reset) :=
  polling_setClient fun _ => field.reset_running

theorem polling_closeConnection : Polling joins loops closeConnection :=
  polling_parts.closeConnection (fun _ => polling_enet _) (fun _ => polling_enet _)
    fun field _ => polling_reset field

theorem polling_resetTeamspeak : Polling joins loops resetTeamspeak :=
  polling_parts.resetTeamspeak (polling_setClient fun _ stopped => stopped)

theorem polling_abortThread : Polling true loops abortThread := by
  have threads (call : ThreadCall) : Polling true loops (thread call) := by
    cases call with
    | join thread => exact .call rfl fun _ => .ret ()
    | selfId | spawn | joinable | delete | exit => exact .call trivial fun reply => .ret reply
  exact polling_parts.abortThread (fun call _ _ => threads call) (polling_reset .running)
    (polling_reset .thread)

theorem polling_close : Polling true loops close :=
  polling_abortThread.bind fun _ => polling_closeConnection.bind fun _ => polling_resetTeamspeak

theorem polling_programs : ClientPrograms (fun {_} p => Polling true true p) where
  toPartPrograms := polling_parts
  enet call _ := polling_enet call
  setClient tame := polling_setClient tame.running
  await _ := .await rfl fun value => .ret value
  loop _ := .loop rfl fun value => .ret value
  abortThread := polling_abortThread
  handshakeResponse := polling_handlers.handshakeResponse
  reset := polling_resetTeamspeak

theorem Polling.again {body : Plugin (Option β)} {next : β → Plugin α}
    (round : Polling joins loops body) (again : Polling joins loops (.iterate body next))
    (rest : ∀ value, Polling joins loops (next value)) :
    Polling joins loops (body >>= fun found => found.elim (.iterate body next) next) := by
  apply round.bind
  intro found
  cases found with
  | none => exact again
  | some value => exact rest value

theorem Polling.goes {p q : Plugin α} (polling : Polling joins loops p)
    (whole : loops = true → joins = true) (goes : ReflTransGen Goes p q) :
    Polling joins loops q := by
  have session (allowed : loops = true) :
      SessionPrograms (fun {_} p => Polling joins loops p) := by
    cases allowed
    cases whole rfl
    exact polling_programs.session
  induction goes with
  | refl => exact polling
  | tail _ last ih =>
    cases last with
    | call reply =>
      cases ih with
      | call _ rest => exact rest reply
    | unfold =>
      cases ih with
      | poll rest => exact .again (polling_parts.pollRound trivial _) (.poll rest) rest
      | await allowed rest =>
        have programs := session allowed
        have round := programs.awaitDisconnect (programs.serving 3000) (polling_enet .packetDestroy)
        exact .again round (.await allowed rest) rest
      | loop allowed rest => exact .again (session allowed).round (.loop allowed rest) rest

end Shape

def Stopped (m : Machine) : Prop := m.memory.client.running = false

section Settling

variable {stream : Stream} {join : Machine → Machine → Prop} {blocked : Machine → Prop}
  {fixed : Deterministic (runs stream join)} {never : ∀ m m', blocked m → ¬ join m m'}

theorem settles_poll {α : Type} {channelId : UInt64} {next : Bool → Plugin α}
    {post : α → Machine → Prop} {m : Machine}
    (rest : ∀ subscribed t, t.memory = m.memory →
      Settles (blocks fixed never) (next subscribed) post t) :
    Settles (blocks fixed never) (.iterate (pollRound channelId) next) post m := by
  by_cases unconfirmed : Unconfirmed stream channelId m
  · exact .inr ⟨_, m, .refl, .poll unconfirmed⟩
  simp only [Unconfirmed, not_forall] at unconfirmed
  obtain ⟨k, after, answered⟩ := unconfirmed
  apply Settles.iterate (fun t => t.memory = m.memory ∧ t.calls ≤ k) (fun t => k - t.calls)
  · intro t inv
    obtain ⟨same, early⟩ := inv
    refine .inl ⟨_, t.tick, pollRound_exec channelId t, ?_⟩
    cases found : pollFound (answerPoll stream channelId t) with
    | some subscribed => exact rest subscribed t.tick same
    | none =>
      have asked := pollFound_none found
      have later : t.calls ≠ k := by
        intro now
        subst now
        rw [answerPoll, same] at asked
        exact answered asked
      refine ⟨⟨same, ?_⟩, ?_⟩ <;> simp only [Machine.tick] <;> omega
  · exact ⟨rfl, after⟩

def Stream.Quiet (stream : Stream) : Prop :=
  ∃ n, ∀ k, n ≤ k → ∀ host timeout,
    (stream.external k (.enet (.serviceEnd host timeout))).code ≤ 0 ∨
    (stream.external k (.enet (.serviceEnd host timeout))).event = .disconnect

theorem service_exec (timeout : Nat) (m : Machine) :
    Exec (runs stream join) (service timeout) m
      (stream.external (m.calls + 1) (.enet (.serviceEnd m.memory.client.client timeout)))
      m.tick.tick := by
  apply Exec.call ⟨rfl, rfl⟩
  have begun : runs stream join
      (.external (.enet (.serviceBegin m.memory.client.client timeout))) m () m.tick := ⟨rfl, rfl⟩
  apply Exec.call begun
  apply Exec.call ⟨rfl, rfl⟩
  exact .ret

theorem settles_await {α : Type} {next : Unit → Plugin α} {post : α → Machine → Prop} {m : Machine}
    (quiet : stream.Quiet) (rest : ∀ t, t.memory = m.memory →
      Settles (blocks fixed never) (next ()) post t) :
    Settles (blocks fixed never) (.iterate awaitDisconnect next) post m := by
  obtain ⟨n, quiet⟩ := quiet
  apply Settles.iterate (fun t => t.memory = m.memory) (fun t => n - t.calls) ?_ rfl
  intro t same
  have asked : Settles (blocks fixed never) client (fun c u => c = t.memory.client ∧ u = t) t :=
    .inl ⟨_, _, .call ⟨rfl, rfl⟩ .ret, rfl, rfl⟩
  apply asked.bind
  rintro c u ⟨rfl, rfl⟩
  split
  · exact .ret (rest u same)
  have served : Settles (blocks fixed never) (service 3000) (fun serviced v =>
      serviced = stream.external (u.calls + 1) (.enet (.serviceEnd u.memory.client.client 3000)) ∧
      v = u.tick.tick) u := .inl ⟨_, _, service_exec 3000 u, rfl, rfl⟩
  apply served.bind
  rintro serviced v ⟨answered, rfl⟩
  split
  · exact .ret (rest u.tick.tick same)
  rename_i positive
  -- the loop goes on only before the call from which on ENet is quiet
  have early (busy : serviced.event ≠ .disconnect) : u.calls + 1 < n := by
    by_contra late
    have returned := quiet (u.calls + 1) (Nat.not_lt.mp late) u.memory.client.client 3000
    rw [← answered] at returned
    obtain returned | returned := returned
    · exact positive returned
    · exact busy returned
  have goesOn (busy : serviced.event ≠ .disconnect) (t : Machine) (kept : t.memory = m.memory)
      (later : u.calls < t.calls) : t.memory = m.memory ∧ n - t.calls < n - u.calls := by
    have before := early busy
    exact ⟨kept, by omega⟩
  have ticked : u.calls < u.tick.tick.calls := by simp only [Machine.tick]; omega
  cases event : serviced.event with
  | disconnect => exact .ret (rest u.tick.tick same)
  | none => exact .ret (goesOn (by rw [event]; exact Event.noConfusion) _ same ticked)
  | connect => exact .ret (goesOn (by rw [event]; exact Event.noConfusion) _ same ticked)
  | receive channelID packet =>
    have destroyed : runs stream join (.external (.enet .packetDestroy))
        u.tick.tick () u.tick.tick.tick := ⟨rfl, rfl⟩
    apply Settles.call destroyed
    have other : serviced.event ≠ .disconnect := by rw [event]; exact Event.noConfusion
    exact .ret (goesOn other _ same (Nat.lt_succ_of_lt ticked))

theorem settles_loop {α : Type} {next : Unit → Plugin α} {post : α → Machine → Prop} {m : Machine}
    (stopped : Stopped m) (rest : Settles (blocks fixed never) (next ()) post m) :
    Settles (blocks fixed never) (.iterate updateRound next) post m := by
  have halted : m.memory.client.running = false := stopped
  have leaves : Exec (runs stream join) updateRound m (some ()) m := by
    apply Exec.call ⟨rfl, rfl⟩
    change Exec _ (if m.memory.client.running = false then .ret (some ()) else _) _ _ _
    rw [if_pos halted]
    exact .ret
  have round : Settles (blocks fixed never) updateRound
    (fun found t => found = some () ∧ t = m) m :=
    .inl ⟨_, _, leaves, rfl, rfl⟩
  apply round.unfold
  · intro t reached
    cases reached.1
  · rintro _ _ ⟨-, rfl⟩
    exact rest

theorem settles_polling {joins loops : Bool}
    (total : joins = true → ∀ m, ∃ m', join m m' ∧ (Stopped m → Stopped m'))
    (quiet : loops = true → stream.Quiet) {α : Type} {p : Plugin α}
    (polling : Polling joins loops p) (m : Machine) (stopped : loops = true → Stopped m) :
    Settles (blocks fixed never) p (fun _ t => Stopped m → Stopped t) m := by
  induction polling generalizing m with
  | ret value => exact .ret fun stopped => stopped
  | @call op next keeps _ ih =>
    have onward {reply : op.Reply} {t : Machine} (step : runs stream join op m reply t)
        (kept : Stopped m → Stopped t) :
        Settles (blocks fixed never) (.call op next) (fun _ u => Stopped m → Stopped u) m := by
      refine Settles.call step (Settles.mono ?_ (ih reply t fun allowed => kept (stopped allowed)))
      exact fun _ u later stopped => later (kept stopped)
    cases op with
    | load => exact onward ⟨rfl, rfl⟩ fun stopped => stopped
    | store update =>
      have stored : runs stream join (.store update) m ()
        { m with memory := update m.memory } := rfl
      exact onward stored fun stopped => keeps m.memory stopped
    | external call => exact onward ⟨rfl, rfl⟩ fun stopped => stopped
    | sleep milliseconds =>
      have slept : runs stream join (.sleep milliseconds) m () m := rfl
      exact onward slept fun stopped => stopped
    | thread call =>
      cases call with
      | join thread =>
        obtain ⟨m', returned, kept⟩ := total keeps m
        have waited : runs stream join (.thread (.join thread)) m () m' := returned
        exact onward waited kept
      | selfId | spawn | joinable | delete | exit =>
        exact onward ⟨rfl, rfl⟩ fun stopped => stopped
  | poll _ ih =>
    apply settles_poll
    intro subscribed t same
    have kept (stopped : Stopped m) : Stopped t := by
      rw [Stopped, same]
      exact stopped
    refine Settles.mono ?_ (ih subscribed t fun allowed => kept (stopped allowed))
    exact fun _ u later stopped => later (kept stopped)
  | await allowed _ ih =>
    apply settles_await (quiet allowed)
    intro t same
    have kept (stopped : Stopped m) : Stopped t := by
      rw [Stopped, same]
      exact stopped
    refine Settles.mono ?_ (ih () t fun allowed => kept (stopped allowed))
    exact fun _ u later stopped => later (kept stopped)
  | loop allowed _ ih => exact settles_loop (stopped allowed) (ih () m stopped)

end Settling

-- What can be left of it: anything, or while it handles a handshake response or is in its last
-- `close()` also where ENet does not fall quiet.
inductive Left (updates : Stream) : Plugin Unit → Prop where
  | ended : Left updates (.ret ())
  | handling {packet : Bytes} {rest : Plugin Unit}
      (inside : ReflTransGen Goes (handleHandshakeResponse packet) rest) :
      Left updates (rest >>= fun _ => enet .packetDestroy >>= fun _ => update)
  | closing {rest : Plugin Unit} (inside : ReflTransGen Goes close rest) : Left updates rest
  | updating {rest : Plugin Unit} (quiet : updates.Quiet)
      (inside : ReflTransGen Goes update rest) : Left updates rest

section Updating

variable {updates : Stream} {left : Plugin Unit} {m : Machine}

theorem ended_total (_ : true = true) (m : Machine) :
    ∃ m', ended m m' ∧ (Stopped m → Stopped m') :=
  ⟨m.tick, rfl, fun stopped => stopped⟩

theorem settles_part {α : Type} {p : Plugin α} (polling : Polling true false p) (m : Machine) :
    Settles (updateBarrier updates) p (fun _ t => Stopped m → Stopped t) m :=
  settles_polling ended_total (fun loops => Bool.noConfusion loops) polling m
    fun loops => Bool.noConfusion loops

theorem settles_update (stopped : Stopped m) :
    Settles (updateBarrier updates) update (fun _ _ => True) m := by
  have closes : Settles (updateBarrier updates) close (fun _ _ => True) m :=
    Settles.mono (fun _ _ _ => trivial) (settles_part polling_close m)
  exact settles_loop stopped closes

theorem Left.settles (within : Left updates left) (stopped : Stopped m) :
    Settles (updateBarrier updates) left (fun _ _ => True) m := by
  cases within with
  | ended => exact .ret trivial
  | @handling packet _ inside =>
    have polling : Polling true false (handleHandshakeResponse packet) :=
      polling_handlers.handshakeResponse packet
    apply Settles.bind (settles_part (polling.goes (fun loops => Bool.noConfusion loops) inside) m)
    intro _ t kept
    have stopped : Stopped t := kept stopped
    apply Settles.bind (settles_part (polling_enet .packetDestroy) t)
    intro _ u kept
    exact settles_update (kept stopped)
  | closing inside =>
    have polling : Polling true false close := polling_close
    have polling := polling.goes (fun loops => Bool.noConfusion loops) inside
    exact Settles.mono (fun _ _ _ => trivial) (settles_part polling m)
  | updating quiet inside =>
    have polling := polling_programs.session.update.goes (fun _ => rfl) inside
    have settled : Settles (updateBarrier updates) left (fun _ t => Stopped m → Stopped t) m :=
      settles_polling ended_total (fun _ => quiet) polling m fun _ => stopped
    exact Settles.mono (fun _ _ _ => trivial) settled

end Updating

section Caller

variable {stream updates : Stream} {left : Plugin Unit}

theorem settles_alone {α : Type} {p : Plugin α} (polling : Polling false false p) (m : Machine) :
    Settles (callerBarrier stream updates left) p (fun _ t => Stopped m → Stopped t) m :=
  settles_polling (fun joins => Bool.noConfusion joins)
  (fun loops => Bool.noConfusion loops) polling m
    fun loops => Bool.noConfusion loops

theorem polling_selfId : Polling false false (thread .selfId) := .call trivial fun id => .ret id

theorem polling_joinable (held : Option ThreadId) : Polling false false (thread (.joinable held)) :=
  .call trivial fun joinable => .ret joinable

theorem polling_delete (held : Option ThreadId) : Polling false false (thread (.delete held)) :=
  .call trivial fun _ => .ret ()

variable (within : Left updates left)

include within

theorem settles_join {thread : Option ThreadId} {m : Machine} (stopped : Stopped m) :
    Settles (callerBarrier stream updates left) (JustAnotherVoiceChat.thread (.join thread))
      (fun _ _ => True) m := by
  have begins : Stopped ⟨m.memory, 0⟩ := stopped
  have settled : Settles (updateBarrier updates) left (fun _ _ => True) ⟨m.memory, 0⟩ :=
    within.settles begins
  obtain ⟨_, u, run, -⟩ | held := settled
  · have returned : awaits left updates m { m.tick with memory := u.memory } := ⟨u, run, rfl⟩
    have joined : runs stream (awaits left updates) (.thread (.join thread)) m () _ := returned
    exact .call joined (.ret trivial)
  · exact .inr ⟨_, m, .refl, .join held⟩

-- Whoever waits for the update thread has stopped its loop.
theorem settles_abortThread (m : Machine) :
    Settles (callerBarrier stream updates left) abortThread (fun _ _ => True) m := by
  unfold abortThread
  apply Settles.bind (settles_alone polling_parts.client m)
  intro _ t _
  split
  · exact .ret trivial
  apply Settles.bind (settles_alone polling_parts.client t)
  intro _ t _
  apply Settles.bind (settles_alone polling_selfId t)
  intro _ t _
  split
  · apply Settles.bind (settles_alone polling_parts.client t)
    intro _ t _
    apply Settles.bind (settles_alone (polling_joinable _) t)
    intro joinable t _
    have deletes (t : Machine) : Settles (callerBarrier stream updates left) (do
        thread (.delete (← client).thread)
        setClient fun c => { c with thread := none }) (fun _ _ => True) t := by
      apply Settles.mono (fun _ _ _ => trivial) (settles_alone ?_ t)
      apply Polling.bind polling_parts.client
      intro c
      apply Polling.bind (polling_delete _)
      intro _
      exact polling_reset .thread
    cases joinable with
    | false => exact deletes t
    | true =>
      have stops : runs stream (awaits left updates) (.store fun m =>
          { m with client := { m.client with running := false } }) t () _ := rfl
      apply Settles.call stops
      apply Settles.bind (settles_alone polling_parts.client _)
      intro c t kept
      apply Settles.bind (settles_join within (kept rfl))
      intro _ t _
      exact deletes t
  · exact .ret trivial

theorem settles_close (m : Machine) :
    Settles (callerBarrier stream updates left) close (fun _ _ => True) m := by
  apply Settles.bind (settles_abortThread within m)
  intro _ t _
  have rest : Polling false false (closeConnection >>= fun _ => resetTeamspeak) :=
    polling_closeConnection.bind fun _ => polling_resetTeamspeak
  exact Settles.mono (fun _ _ _ => trivial) (settles_alone rest t)

omit within in
theorem settles_setClient (update : Client → Client) (m : Machine) :
    Settles (callerBarrier stream updates left) (setClient update) (fun _ _ => True) m := by
  have stored : runs stream (awaits left updates) (.store fun m =>
      { m with client := update m.client }) m () _ := rfl
  exact .call stored (.ret trivial)

theorem settles_disconnect (quiet : stream.Quiet) (status : UInt32) (m : Machine) :
    Settles (callerBarrier stream updates left) (disconnect status) (fun _ _ => True) m := by
  unfold disconnect
  apply Settles.bind (settles_alone polling_parts.client m)
  intro _ t _
  split
  · exact .ret trivial
  apply Settles.bind (settles_alone polling_parts.client t)
  intro _ t _
  apply Settles.bind (settles_alone (polling_enet _) t)
  intro _ t _
  apply Settles.bind (settles_abortThread within t)
  intro _ t _
  have awaits : Settles (callerBarrier stream updates left) (Program.repeatUntil awaitDisconnect)
      (fun _ _ => True) t := settles_await quiet fun _ _ => .ret trivial
  apply awaits.bind
  intro _ t _
  apply Settles.bind (settles_setClient _ t)
  intro _ t _
  apply Settles.bind (settles_setClient _ t)
  intro _ t _
  apply Settles.bind (settles_setClient _ t)
  intro _ t _
  apply Settles.bind (settles_setClient _ t)
  intro _ t _
  exact settles_close within t

end Caller

inductive Operation where
  | handshakeResponse (packet : Bytes)
  | close
  | disconnect (status : UInt32)

def Operation.program : Operation → Plugin Unit
  | .handshakeResponse packet => handleHandshakeResponse packet
  | .close => JustAnotherVoiceChat.close
  | .disconnect status => JustAnotherVoiceChat.disconnect status

-- It comes to a wait for a channel subscription from which on TeamSpeak answers every query "not
-- subscribed", or it waits for the update thread and that thread comes to such a wait.
def Operation.Stuck (operation : Operation) (stream updates : Stream) (left : Plugin Unit)
    (m : Machine) : Prop :=
  Comes (callerBarrier stream updates left) operation.program m

end SubscriptionWait

open SubscriptionWait

/-- An operation ends, whatever TeamSpeak answers to it and to the rest of the update thread,
exactly when it does not get stuck in the wait for a subscription. -/
theorem operation_ends (operation : Operation) (stream updates : Stream) (left : Plugin Unit)
    (m : Machine) (within : Left updates left)
    (quiet : ∀ status, operation = .disconnect status → stream.Quiet) :
    Ends (runs stream (awaits left updates)) operation.program m ↔
      ¬ operation.Stuck stream updates left m := by
  have fixed : Deterministic (runs stream (awaits left updates)) :=
    runs_deterministic awaits_single
  cases operation with
  | handshakeResponse packet =>
    exact (settles_alone (polling_handlers.handshakeResponse packet) m).ends_iff fixed
  | close => exact (settles_close within m).ends_iff fixed
  | disconnect status =>
    exact (settles_disconnect within (quiet status rfl) status m).ends_iff fixed

namespace SubscriptionWait

def granting (isSubscribed : Int32) : (call : External) → call.Reply
  | .teamspeak .getServerConnectionHandlerList => some ⟨0, [1]⟩
  | .teamspeak (.getServerUniqueIdentifier _) => some ⟨0, cStr .empty⟩
  | .teamspeak (.getConnectionStatus _) => some 1
  | .teamspeak (.getClientID _) => some 4
  | .teamspeak (.getChannelOfClient _ _) => some 3
  | .teamspeak (.getChannelAreSubscribed _ _) => some isSubscribed
  | .teamspeak (.getChannelClientList _ _) => some ⟨0, [0]⟩
  | .teamspeak (.getClientSelfVariableAsString _ _) => some ⟨0, cStr .empty⟩
  | .teamspeak (.getClientSelfVariableAsInt _ _) => some 1
  | .teamspeak (.freeMemory _) => ()
  | .teamspeak (.requestClientMove _ _ _ _) | .teamspeak (.requestMuteClients _ _)
  | .teamspeak (.requestUnmuteClients _ _) | .teamspeak (.requestChannelSubscribe _ _)
  | .teamspeak (.setClientSelfVariableAsString _ _ _)
  | .teamspeak (.setClientSelfVariableAsInt _ _ _) | .teamspeak (.flushClientSelfUpdates _)
  | .teamspeak (.channelset3DAttributes _ _ _) | .teamspeak (.systemset3DListenerAttributes _ _ _ _)
  | .teamspeak (.systemset3DSettings _ _ _) => true
  | .enet (.hostCreate _ _) | .enet (.hostConnect _ _ _ _) => none
  | .enet (.addressSetHost _) => ⟨false, 0⟩
  | .enet (.serviceEnd _ _) => ⟨0, .none⟩
  | .enet (.serviceBegin _ _) | .enet (.peerDisconnect _ _) | .enet (.peerReset _)
  | .enet (.hostDestroy _) | .enet .packetDestroy | .enet (.peerSend _ _ _ _) => ()
  | .object _ => ()

def threading (self : ThreadId) : (call : ThreadCall) → call.Reply
  | .selfId => self
  | .spawn => 0
  | .joinable _ => true
  | .join _ | .delete _ | .exit => ()

def grant (isSubscribed : Int32) (self : ThreadId) : Stream :=
  ⟨fun _ => granting isSubscribed, fun _ => threading self⟩

def respond (stream : Stream) (join : Machine → Option Machine) :
    (op : Op) → Machine → Option (op.Reply × Machine)
  | .load, m => some (m.memory, m)
  | .store update, m => some ((), { m with memory := update m.memory })
  | .external call, m => some (stream.external m.calls call, m.tick)
  | .thread (.join _), m => (join m).map fun m' => ((), m')
  | .thread .selfId, m => some (stream.thread m.calls .selfId, m.tick)
  | .thread (.joinable held), m => some (stream.thread m.calls (.joinable held), m.tick)
  | .thread (.delete _), m | .thread .exit, m => some ((), m.tick)
  | .thread .spawn, _ => none
  | .sleep _, m => some ((), m)

theorem respond_sound {stream : Stream} {joined : Machine → Option Machine}
    {join : Machine → Machine → Prop} (sound : ∀ m m', joined m = some m' → join m m') (op : Op)
    (m : Machine) (reply : op.Reply) (m' : Machine)
    (responded : respond stream joined op m = some (reply, m')) :
    runs stream join op m reply m' := by
  cases op with
  | thread call =>
    cases call with
    | join held =>
      obtain ⟨t, returned, same⟩ := Option.map_eq_some_iff.mp responded
      cases same
      exact sound m _ returned
    | selfId | joinable | delete | exit =>
      cases responded
      exact ⟨rfl, rfl⟩
    | spawn => cases responded
  | load | external =>
    cases responded
    exact ⟨rfl, rfl⟩
  | store | sleep =>
    cases responded
    rfl

theorem advance_comes {stream : Stream} {joined : Machine → Option Machine}
    {join : Machine → Machine → Prop} {barrier : Barrier (runs stream join)}
    (sound : ∀ m m', joined m = some m' → join m m') {p : Plugin Unit} {m : Machine} (fuel : Nat)
    (comes : barrier.stuck (advance (respond stream joined) fuel p m).1
      (advance (respond stream joined) fuel p m).2) : Comes barrier p m :=
  ⟨_, _, advance_moves (respond_sound sound) fuel p m, comes⟩

def acceptance : HandshakeResponsePacket := ⟨statusCodeOk, .empty, .empty, 2, .empty⟩

def acceptancePayload : Bytes := HandshakeResponsePacket.serialize.encode acceptance

def session (running : Bool) : Memory :=
  ⟨{ Client.new 1 with
      client := some 0, peer := some 0, thread := some 1, running := running, gameId := 1 },
    ⟨0, .empty, .empty⟩, ⟨.null, .live⟩⟩

def handling : Plugin Unit :=
  handleHandshakeResponse acceptancePayload >>= fun _ => enet .packetDestroy >>= fun _ => update

theorem handling_left {updates : Stream} : Left updates handling := .handling .refl

def noJoin (_ : Machine) : Option Machine := none

theorem noJoin_sound (join : Machine → Machine → Prop) (m m' : Machine)
    (joined : noJoin m = some m') : join m m' := by
  cases joined

theorem handshake_comes {join : Machine → Machine → Prop} {blocked : Machine → Prop}
    {fixed : Deterministic (runs (grant 0 1) join)} {never : ∀ m m', blocked m → ¬ join m m'}
    (running : Bool) :
    Comes (blocks fixed never) (handleHandshakeResponse acceptancePayload)
      ⟨session running, 0⟩ := by
  apply advance_comes (noJoin_sound join) 60
  have unconfirmed (m : Machine) : Unconfirmed (grant 0 1) 2 m := fun _ _ => rfl
  exact Held.poll (unconfirmed _)

theorem handling_held : UpdateHeld handling (grant 0 1) ⟨session false, 0⟩ :=
  (handshake_comes false).bind _

def runLeft (left : Plugin Unit) (updates : Stream) (m : Machine) : Option Machine :=
  (runWith (respond updates fun m => some m.tick) 200 left ⟨m.memory, 0⟩).map fun result =>
    { m.tick with memory := result.2.memory }

theorem runLeft_sound {left : Plugin Unit} {updates : Stream} (m m' : Machine)
    (joined : runLeft left updates m = some m') : awaits left updates m m' := by
  obtain ⟨⟨_, u⟩, run, rfl⟩ := Option.map_eq_some_iff.mp joined
  refine ⟨u, Exec.of_runWith (respond_sound ?_) run, rfl⟩
  intro t t' ticked
  cases ticked
  rfl

end SubscriptionWait

theorem operation_ends_confirmed :
    ¬ (Operation.disconnect 0).Stuck (grant 1 0) (grant 1 1) handling ⟨session true, 0⟩ := by
  have quiet : (grant 1 0).Quiet := ⟨0, fun _ _ _ _ => .inl (le_refl (0 : Int))⟩
  have iff := operation_ends (.disconnect 0) (grant 1 0) (grant 1 1) handling ⟨session true, 0⟩
    handling_left fun _ _ => quiet
  have ended : (runWith (respond (grant 1 0) (runLeft handling (grant 1 1))) 200
      (Operation.disconnect 0).program ⟨session true, 0⟩).isSome = true := by decide
  obtain ⟨⟨_, u⟩, run⟩ := Option.isSome_iff_exists.mp ended
  exact iff.mp ⟨(), u, Exec.of_runWith (respond_sound runLeft_sound) run⟩

-- When TeamSpeak never confirms the subscription, an accepted handshake response is handled for
-- ever, and whoever disconnects meanwhile waits for ever.
theorem operation_waits_for_ever :
    ¬ Ends (runs (grant 0 1) (awaits (.ret ()) (grant 0 1)))
      (Operation.handshakeResponse acceptancePayload).program ⟨session true, 0⟩ ∧
    ¬ Ends (runs (grant 0 0) (awaits handling (grant 0 1)))
      (Operation.disconnect 0).program ⟨session true, 0⟩ := by
  constructor
  · have comes : Comes (callerBarrier (grant 0 1) (grant 0 1) (.ret ()))
        (handleHandshakeResponse acceptancePayload) ⟨session true, 0⟩ := handshake_comes true
    exact comes.not_ends (runs_deterministic awaits_single)
  · have comes : Comes (callerBarrier (grant 0 0) (grant 0 1) handling)
        (Operation.disconnect 0).program ⟨session true, 0⟩ := by
      apply advance_comes (noJoin_sound _) 40
      exact Held.join handling_held
    exact comes.not_ends (runs_deterministic awaits_single)

end JustAnotherVoiceChat
