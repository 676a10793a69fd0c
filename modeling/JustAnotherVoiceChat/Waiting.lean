import Mathlib.Data.Set.Finite.Basic
import JustAnotherVoiceChat.Library.Terms
import JustAnotherVoiceChat.UpdateThread

set_option autoImplicit false

namespace JustAnotherVoiceChat

open Binary Interaction Relation

theorem TeamSpeakCall.Step.total (call : TeamSpeakCall) (t : TeamSpeak) :
    ∃ reply t', call.Step t reply t' := by
  cases call with
  | requestClientMove handle clientId channelId password =>
    exact ⟨false, t, by simp [TeamSpeakCall.Step]⟩
  | setClientSelfVariableAsString handle flag value =>
    exact ⟨false, t, by simp, rfl⟩
  | requestMuteClients | requestUnmuteClients | setClientSelfVariableAsInt
  | flushClientSelfUpdates | channelset3DAttributes => exact ⟨false, t, rfl⟩
  | requestChannelSubscribe | systemset3DListenerAttributes | systemset3DSettings =>
    exact ⟨false, t, rfl⟩
  | getClientID | getChannelOfClient | getChannelClientList | getClientSelfVariableAsString
  | getClientSelfVariableAsInt => exact ⟨none, t, by simp, rfl⟩
  | getServerConnectionHandlerList | getServerUniqueIdentifier | getChannelAreSubscribed
  | getConnectionStatus => exact ⟨none, t, rfl⟩
  | freeMemory address => exact ⟨(), t, rfl⟩

theorem EnetCall.Step.total (call : EnetCall) (e : Enet) : ∃ reply e', call.Step e reply e' := by
  cases call with
  | hostCreate | hostConnect => exact ⟨none, e, .inl ⟨rfl, rfl⟩⟩
  | addressSetHost name => exact ⟨⟨false, 0⟩, e, by simp, rfl⟩
  | serviceEnd host timeout => exact ⟨⟨0, .none⟩, _, rfl⟩
  | serviceBegin | peerDisconnect | peerReset | hostDestroy | packetDestroy | peerSend =>
    exact ⟨(), _, rfl⟩

theorem External.Step.total (call : External) (w : World) : ∃ reply w', call.Step w reply w' := by
  cases call with
  | teamspeak call =>
    obtain ⟨reply, t, step⟩ := TeamSpeakCall.Step.total call w.teamspeak
    exact ⟨reply, _, t, step, rfl⟩
  | enet call =>
    obtain ⟨reply, e, step⟩ := EnetCall.Step.total call w.enet
    exact ⟨reply, _, e, step, rfl⟩
  | object call => exact ⟨(), w, rfl⟩

namespace Threads

def terms (known : Option ThreadId → Prop) (starts : Bool) : Terms Op Op.Reply where
  may
    | .thread (.join thread) => known thread
    | .thread .spawn => starts
    | _ => True
  told
    | .load, m => known m.client.thread
    | _, _ => True

section Programs

variable {known : Option ThreadId → Prop} {starts : Bool} {α : Type}

theorem willing_client : (terms known starts).Kept client fun c => known c.thread :=
  ⟨trivial, fun _ told => told⟩

theorem willing_setClient (update : Client → Client) :
    (terms known starts).Kept (setClient update) fun _ => True :=
  ⟨trivial, fun _ _ => trivial⟩

theorem willing_thread {call : ThreadCall} (may : (terms known starts).may (.thread call)) :
    (terms known starts).Kept (thread call) fun _ => True :=
  ⟨may, fun _ _ => trivial⟩

theorem willing_aside {p : Plugin α} (calls : p.Calls Op.Aside) :
    (terms known starts).Kept p fun _ => True := by
  apply Terms.Kept.of_calls calls
  intro op aside
  cases op with
  | thread call => exact aside.elim
  | load | store | external | sleep => trivial

theorem willing_abortThread : (terms known starts).Kept abortThread fun _ => True := by
  have release : (terms known starts).Kept (do
      thread (.delete (← client).thread)
      setClient fun c => { c with thread := none }) fun _ => True := by
    apply willing_client.bind
    intro c _
    exact (willing_thread (by exact trivial)).bind fun _ _ => willing_setClient _
  unfold abortThread
  apply willing_client.bind
  intro c _
  split
  · trivial
  apply willing_client.bind
  intro c _
  apply (willing_thread (by exact trivial)).bind
  intro self _
  split
  · apply willing_client.bind
    intro c _
    apply (willing_thread (by exact trivial)).bind
    intro joinable _
    split
    · apply (willing_setClient _).bind
      intro _ _
      apply willing_client.bind
      intro c held
      exact (willing_thread (by exact held)).bind fun _ _ => release
    · exact release
  · trivial

theorem willing_programs :
    ClientPrograms (fun {_} p => (terms known starts).Kept p fun _ => True) where
  toPartPrograms := .of_wrapper
    (fun first rest => first.bind fun value _ => rest value) fun calls =>
    willing_aside (wrapper_aside calls)
  enet call _ := willing_aside (enet_aside call)
  setClient _ := willing_setClient _
  await round := (round.mono fun _ _ _ _ => trivial).repeatUntil
  loop round := (round.mono fun _ _ _ _ => trivial).repeatUntil
  abortThread := willing_abortThread
  handshakeResponse packet := willing_aside (aside_handlers.handshakeResponse packet)
  reset := willing_aside (aside_parts.resetTeamspeak (setClient_aside fun _ => rfl))

theorem willing_startUpdate (host : StdString) (port uniqueIdentifier : UInt16) :
    (terms known true).Kept (startUpdate host port uniqueIdentifier) fun _ => True := by
  have setting {update : Client → Client} {rest : Plugin Unit}
      (next : (terms known true).Kept rest fun _ => True) :
      (terms known true).Kept (do setClient update; rest) fun _ => True :=
    (willing_setClient update).bind fun _ _ => next
  apply willing_abortThread.bind
  intro _ _
  refine setting (setting (setting (setting (setting ?_))))
  exact (willing_thread (by exact rfl)).bind fun _ _ => willing_setClient _

theorem willing_updater : (terms known false).Kept (do update; thread .exit) fun _ => True :=
  willing_programs.session.update.bind fun _ _ => willing_thread trivial

end Programs

end Threads

namespace Process

variable {p q : Process}

structure Moved (phase phase' : Phase) : Prop where
  born : phase' ≠ .unborn
  ended : phase = .finished → phase' = .finished

def Passes (p q : Process) : Prop := ∃ changed : List ThreadId, ∀ id,
  q.world.phase id = p.world.phase id ∨
    id ∈ changed ∧ Moved (p.world.phase id) (q.world.phase id)

theorem Passes.of_same (same : q.world.phase = p.world.phase) : p.Passes q :=
  ⟨[], fun id => .inl (congrFun same id)⟩

theorem Passes.of_changed {id : ThreadId} {phase : Phase} (moved : Moved (p.world.phase id) phase)
    (same : q.world.phase = Function.update p.world.phase id phase) : p.Passes q := by
  refine ⟨[id], fun other => ?_⟩
  by_cases changed : other = id
  · subst changed
    exact .inr ⟨List.mem_cons_self, by simpa [same] using moved⟩
  · exact .inl (by simp [same, Function.update_of_ne changed])

theorem runs_passes {self : ThreadId} {op : Op} {reply : op.Reply}
    (step : runs self op p reply q) : p.Passes q := by
  cases op with
  | load =>
    obtain ⟨w, ⟨-, rfl⟩, rfl⟩ := step
    exact .of_same rfl
  | store update =>
    obtain rfl : q = _ := step
    split
    · exact .of_same rfl
    · exact .of_same rfl
  | sleep milliseconds =>
    obtain ⟨w, same, rfl⟩ := step
    obtain rfl : w = p.world := same
    exact .of_same rfl
  | external call =>
    obtain ⟨w, ⟨-, v, stepped, rfl⟩, rfl⟩ := step
    exact .of_same stepped.frame.2.1
  | thread call =>
    cases call with
    | selfId | joinable =>
      obtain ⟨-, rfl⟩ := step
      exact .of_same rfl
    | delete =>
      obtain rfl : q = _ := step
      exact .of_same rfl
    | join =>
      obtain ⟨-, rfl⟩ := step
      exact .of_same rfl
    | spawn =>
      obtain ⟨-, unborn, rfl⟩ := step
      exact .of_changed ⟨by simp, by simp [unborn]⟩ rfl
    | exit =>
      obtain rfl : q = _ := step
      exact .of_changed ⟨by simp, fun _ => rfl⟩ rfl

theorem sem_passes {i : Party} {op : Op} {reply : op.Reply}
    (step : i.sem op p reply q) : p.Passes q := by
  cases i with
  | caller =>
    have step : runs p.caller op { p with started := none } reply q := step
    exact (runs_passes step : Passes { p with started := none } q)
  | updater id => exact runs_passes step.2

theorem move_passes {i : Party} {program rest : Plugin Unit}
    (move : Move i.sem program p rest q) : p.Passes q := by
  cases move with
  | call step => exact sem_passes step
  | unfold => exact .of_same rfl

def Later (p q : Process) : Prop :=
  ∀ id, p.world.phase id ≠ .unborn → q.world.phase id ≠ .unborn

theorem Passes.later (passes : p.Passes q) : p.Later q := by
  obtain ⟨changed, each⟩ := passes
  intro id born
  rcases each id with same | ⟨-, moved⟩
  · rwa [same]
  · exact moved.born

theorem Passes.finished {id : ThreadId} (passes : p.Passes q)
    (finished : p.world.phase id = .finished) : q.world.phase id = .finished := by
  obtain ⟨changed, each⟩ := passes
  rcases each id with same | ⟨-, moved⟩
  · rwa [same]
  · exact moved.ended finished

theorem Passes.finite (passes : p.Passes q)
    (finite : {id | p.world.phase id ≠ .unborn}.Finite) :
    {id | q.world.phase id ≠ .unborn}.Finite := by
  obtain ⟨changed, each⟩ := passes
  refine (finite.union changed.finite_toSet).subset fun id born => ?_
  rcases each id with same | ⟨member, -⟩
  · have before : p.world.phase id ≠ .unborn := same ▸ born
    exact .inl before
  · exact .inr member

end Process

namespace Threads

-- The caller joins threads that were started, and an update thread none but itself.
def Born (p : Process) (thread : Option ThreadId) : Prop :=
  ∀ id ∈ thread, p.world.phase id ≠ .unborn

def Itself (self : ThreadId) (thread : Option ThreadId) : Prop := ∀ id ∈ thread, id = self

structure Willing (c : Threads) : Prop where
  caller : ∀ last, c.state.Later last →
    (terms (Born last) true).Kept (c.program .caller) fun _ => True
  updater : ∀ id, (terms (Itself id) false).Kept (c.program (.updater id)) fun _ => True
  ends : ∀ id, c.state.world.phase id = .finished ∨
    ∃ p : Plugin Unit, c.program (.updater id) = (p >>= fun _ => thread .exit)
  finite : {id | c.state.world.phase id ≠ .unborn}.Finite

section Reached

variable {c d : Threads} {post : Process → Prop}

theorem told_caller {p q last : Process} {op : Op} {reply : op.Reply} (ok : p.Ok)
    (later : p.Later last) (step : Party.sem .caller op p reply q) :
    (terms (Born last) true).told op reply := by
  cases op with
  | load =>
    obtain ⟨w, ⟨rfl, -⟩, -⟩ := step
    exact fun id held => later id (ok.born id held)
  | store | external | thread | sleep => trivial

theorem told_updater {self : ThreadId} {p q : Process} {op : Op} {reply : op.Reply} (ok : p.Ok)
    (step : Party.sem (.updater self) op p reply q) :
    (terms (Itself self) false).told op reply := by
  cases op with
  | load =>
    obtain ⟨alive, w, ⟨rfl, -⟩, -⟩ := step
    intro id held
    rcases ok.attended self alive with own | ⟨none, -⟩
    · exact Option.some.inj (held.symm.trans own)
    · cases held.symm.trans none
  | store | external | thread | sleep => trivial

theorem ends_move {self : ThreadId} {program rest : Plugin Unit} {s t : Process}
    (last : ∃ p : Plugin Unit, program = (p >>= fun _ => thread .exit))
    (move : Move (Party.sem (.updater self)) program s rest t) :
    t.world.phase self = .finished ∨ ∃ p : Plugin Unit, rest = (p >>= fun _ => thread .exit) := by
  obtain ⟨p, rfl⟩ := last
  by_cases unfinished : p = .ret ()
  · subst unfinished
    cases move with
    | call step =>
      obtain ⟨-, same⟩ := step
      obtain rfl : t = _ := same
      exact .inl (by simp)
  · obtain ⟨q, -, rfl⟩ := move.of_bind fun _ => unfinished
    exact .inr ⟨q, rfl⟩

theorem Willing.turn (willing : Willing c) (ok : c.state.Ok) (turn : Turn Party.sem c d) :
    Willing d := by
  cases turn with
  | @mk i rest q move =>
    have passes : c.state.Passes q := Process.move_passes move
    refine ⟨fun last later => ?_, fun id => ?_, fun id => ?_, passes.finite willing.finite⟩
    · have within : c.state.Later last := fun id born => later id (passes.later id born)
      have kept := willing.caller last within
      by_cases same : Party.caller = i
      · subst same
        simpa using kept.move move fun op reply _ step => told_caller ok within step
      · simpa [Function.update_of_ne same] using kept
    · have kept := willing.updater id
      by_cases same : Party.updater id = i
      · subst same
        simpa using kept.move move fun op reply _ step => told_updater ok step
      · simpa [Function.update_of_ne same] using kept
    · rcases willing.ends id with finished | last
      · exact .inl (passes.finished finished)
      by_cases same : Party.updater id = i
      · subst same
        simpa using ends_move last move
      · exact .inr (by simpa [Function.update_of_ne same] using last)

theorem Willing.elsewhere {w : World} (willing : Willing c)
    (phase : w.phase = c.state.world.phase) :
    Willing ⟨c.program, c.state.setWorld w⟩ := by
  have same : (c.state.setWorld w).world.phase = c.state.world.phase := phase
  refine ⟨fun last later => willing.caller last ?_, willing.updater, fun id => ?_, ?_⟩
  · intro id born
    exact later id (same ▸ born)
  · rw [same]
    exact willing.ends id
  · rw [same]
    exact willing.finite

theorem Willing.call {self : ThreadId} {p : Plugin Unit} (willing : Willing c)
    (kept : ∀ known, (terms known true).Kept p fun _ => True) : Willing (c.call self p) := by
  refine ⟨fun last _ => ?_, fun id => ?_, fun id => ?_, willing.finite⟩
  · simpa [Threads.call] using kept _
  · simpa [Threads.call] using willing.updater id
  · simpa [Threads.call] using willing.ends id

theorem Callable.kept {p : Plugin Unit} (callable : Callable p) (known : Option ThreadId → Prop) :
    (terms known true).Kept p fun _ => True := by
  refine holds_of_callable callable aside_events willing_aside (fun host port uniqueIdentifier => ?_)
    willing_programs.session.disconnect willing_programs.close
  have connecting : (terms known true).Kept
      (JustAnotherVoiceChat.connect host port uniqueIdentifier) fun _ => True :=
    willing_programs.connect host port uniqueIdentifier
      (willing_startUpdate host port uniqueIdentifier)
  exact connecting.bind fun _ _ => trivial

theorem Called.willing (called : Called c) : Willing c := by
  induction called with
  | start fresh =>
    refine ⟨fun last _ => ?_, fun id => ?_, fun id => ?_, ?_⟩
    · rw [fresh.idle]
      trivial
    · rw [fresh.updater]
      exact willing_updater
    · exact .inr ⟨_, fresh.updater id⟩
    · simp [fresh.unborn]
  | step called step ih =>
    cases step with
    | turn turn => exact ih.turn called.kept.ok turn
    | elsewhere w thread phase => exact ih.elsewhere phase
  | call _ self _ callable ih => exact ih.call callable.kept

end Reached

def CanGo (c : Threads) (i : Party) : Prop :=
  ∃ rest t, Move i.sem (c.program i) c.state rest t

def Awaits (c : Threads) (id : ThreadId) : Prop :=
  (c.state.world.phase id).Alive ∧
    ∃ next, c.program .caller = .call (.thread (.join (some id))) next

-- Only a new thread that is to be had nowhere, or one that has not ended, holds a call up.
theorem runs_total {self : ThreadId} {p : Process} {op : Op}
    (spawn : op = .thread .spawn → ∃ id, id ≠ p.caller ∧ p.world.phase id = .unborn)
    (join : ∀ id, op = .thread (.join (some id)) → id = self ∨ p.world.phase id = .finished) :
    ∃ reply q, Process.runs self op p reply q := by
  cases op with
  | load => exact ⟨p.world.memory, _, _, ⟨rfl, rfl⟩, rfl⟩
  | store update => exact ⟨(), _, rfl⟩
  | sleep milliseconds => exact ⟨(), _, _, rfl, rfl⟩
  | external call =>
    obtain ⟨reply, w, step⟩ := External.Step.total call p.world
    exact ⟨reply, _, _, ⟨trivial, w, step, rfl⟩, rfl⟩
  | thread call =>
    cases call with
    | selfId => exact ⟨self, p, rfl, rfl⟩
    | joinable thread => exact ⟨p.joinable thread, p, rfl, rfl⟩
    | delete thread => exact ⟨(), _, rfl⟩
    | exit => exact ⟨(), _, rfl⟩
    | spawn =>
      obtain ⟨id, other, unborn⟩ := spawn rfl
      exact ⟨id, _, other, unborn, rfl⟩
    | join thread =>
      refine ⟨(), _, fun id held => ?_, rfl⟩
      obtain rfl : thread = some id := held
      exact join id rfl

theorem Willing.goes {c : Threads} (willing : Willing c) {id : ThreadId}
    (alive : (c.state.world.phase id).Alive) : c.CanGo (.updater id) := by
  have able (op : Op) (may : (terms (Itself id) false).may op) :
      (∃ reply t, Party.sem (.updater id) op c.state reply t) ∨ False := by
    have total : ∃ reply t, Process.runs id op c.state reply t := by
      apply runs_total
      · rintro rfl
        cases may
      · rintro other rfl
        exact .inl (may other rfl)
    obtain ⟨reply, t, step⟩ := total
    exact .inl ⟨reply, t, alive, step⟩
  rcases (willing.updater id).goes able with ⟨value, done⟩ | goes | ⟨-, -, -, waits⟩
  · rcases willing.ends id with finished | ⟨p, last⟩
    · rw [finished] at alive
      cases alive
    · cases p <;> cases last.symm.trans done
  · exact goes
  · exact waits.elim

theorem Willing.calls {c : Threads} (willing : Willing c) :
    c.program .caller = .ret () ∨ c.CanGo .caller ∨ ∃ id, c.Awaits id := by
  have able (op : Op) (may : (terms (Born c.state) true).may op) :
      (∃ reply t, Party.sem .caller op c.state reply t) ∨
        ∃ id, op = .thread (.join (some id)) ∧ (c.state.world.phase id).Alive := by
    by_cases waits : ∃ id, op = .thread (.join (some id)) ∧ (c.state.world.phase id).Alive
    · exact .inr waits
    refine .inl (runs_total ?_ ?_)
    · rintro rfl
      obtain ⟨id, fresh⟩ := (willing.finite.insert c.state.caller).exists_notMem
      rw [Set.mem_insert_iff, not_or] at fresh
      exact ⟨id, fresh.1, not_not.mp fresh.2⟩
    · rintro id rfl
      have born : c.state.world.phase id ≠ .unborn := may id rfl
      cases phase : c.state.world.phase id with
      | unborn => exact absurd phase born
      | finished => exact .inr rfl
      | looping | left => exact absurd ⟨id, rfl, by rw [phase]; trivial⟩ waits
  rcases (willing.caller c.state fun _ born => born).goes able with
    ⟨⟨⟩, done⟩ | goes | ⟨op, next, same, id, rfl, alive⟩
  · exact .inl done
  · exact .inr (.inl goes)
  · exact .inr (.inr ⟨id, alive, next, same⟩)

end Threads

/-- On every run the update threads can always go on, and a call that cannot waits for one of them:
there is no deadlock. -/
theorem never_deadlocked {c : Threads} (called : Threads.Called c) :
    (∀ id, (c.state.world.phase id).Alive → c.CanGo (.updater id)) ∧
      (c.program .caller = .ret () ∨ c.CanGo .caller ∨ ∃ id, c.Awaits id) := by
  have willing := called.willing
  exact ⟨fun id alive => willing.goes alive, willing.calls⟩

theorem never_deadlocked_first :
    (Threads.connected.state.world.phase 1).Alive ∧ Threads.connected.CanGo (.updater 1) := by
  have begun : Threads.Called Threads.connecting :=
    .call (.start Threads.idle_fresh) 0 ⟨rfl, rfl⟩ (.connect _ _ _)
  have called : Threads.Called Threads.connected := begun.steps Threads.connected_steps
  have alive : (Threads.connected.state.world.phase 1).Alive := by decide
  exact ⟨alive, (never_deadlocked called).1 1 alive⟩

end JustAnotherVoiceChat
