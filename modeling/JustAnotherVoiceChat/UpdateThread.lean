import JustAnotherVoiceChat.Connecting
import JustAnotherVoiceChat.Library.Interference
import JustAnotherVoiceChat.Plugin

set_option autoImplicit false

namespace JustAnotherVoiceChat

open Binary Interaction Relation

def Op.Aside : Op → Prop
  | .store update => ∀ m, (update m).client.thread = m.client.thread
  | .thread _ => False
  | .load | .external _ | .sleep _ => True

theorem Op.OfWrapper.aside {op : Op} (ofWrapper : op.OfWrapper) : op.Aside := by
  apply ofWrapper.elim trivial fun _ => trivial
  · intro update same m
    rw [same m]
  · exact fun _ => trivial

section Aside

variable {α : Type}

theorem wrapper_aside {p : Plugin α} (calls : p.Calls Op.OfWrapper) : p.Calls Op.Aside :=
  calls.mono fun _ => Op.OfWrapper.aside

theorem setClient_aside {update : Client → Client} (same : ∀ c, (update c).thread = c.thread) :
    (setClient update).Calls Op.Aside := ⟨fun m => same m.client, fun _ => trivial⟩

theorem enet_aside (call : EnetCall) : (enet call).Calls Op.Aside := ⟨trivial, fun _ => trivial⟩

theorem aside_parts : PartPrograms (fun {_} p => p.Calls Op.Aside) :=
  .of_wrapper Program.Calls.bind wrapper_aside

theorem aside_sendPacket (packet : Outgoing) (channelId : UInt8) (reliable : Bool) :
    (sendPacket packet channelId reliable).Calls Op.Aside :=
  aside_parts.sendPacket fun _ => enet_aside _

theorem aside_handlers : HandlerPrograms (fun {_} p => p.Calls Op.Aside) where
  toPartPrograms := aside_parts
  setClient same := setClient_aside fun c => (unhandled_fields (same c)).1
  sendHandshake :=
    aside_parts.sendHandshake (wrapper_aside ts3GetClientIdentity_calls) fun _ =>
    aside_sendPacket _ _ _
  sendStatus := aside_parts.sendStatus fun _ => aside_sendPacket _ _ _

theorem aside_events : EventPrograms (fun {_} p => p.Calls Op.Aside) where
  toPartPrograms := aside_parts
  object _ := ⟨trivial, fun _ => trivial⟩
  setTalking _ := (setClient_aside fun _ => rfl).bind fun _ => aside_handlers.sendStatus
  setMicrophoneMuted _ := (setClient_aside fun _ => rfl).bind fun _ => aside_handlers.sendStatus
  setSpeakersMuted _ := (setClient_aside fun _ => rfl).bind fun _ => aside_handlers.sendStatus

end Aside

inductive Act where
  | join
  | delete
  | overwrite
deriving DecidableEq

-- What a thread does to a thread object, or to the field that holds it, and whether a joinable
-- thread is attached then.
structure Deed where
  actor : ThreadId
  act : Act
  thread : Option ThreadId
  joinable : Bool

structure Process where
  world : World
  joined : ThreadId → Bool
  deeds : List Deed
  caller : ThreadId
  started : Option ThreadId

namespace Process

abbrev thread (p : Process) : Option ThreadId := p.world.memory.client.thread

def joinable (p : Process) : Option ThreadId → Bool
  | none => false
  | some id => !p.joined id

def did (p : Process) (actor : ThreadId) (act : Act) (thread : Option ThreadId) : Process :=
  { p with deeds := ⟨actor, act, thread, p.joinable thread⟩ :: p.deeds }

def setWorld (p : Process) (w : World) : Process := { p with world := w }

@[simp] theorem setWorld_world (p : Process) (w : World) : (p.setWorld w).world = w := rfl
@[simp] theorem setWorld_thread (p : Process) (w : World) :
    (p.setWorld w).thread = w.memory.client.thread := rfl
@[simp] theorem setWorld_joined (p : Process) (w : World) : (p.setWorld w).joined = p.joined := rfl
@[simp] theorem setWorld_caller (p : Process) (w : World) : (p.setWorld w).caller = p.caller := rfl
@[simp] theorem setWorld_started (p : Process) (w : World) :
    (p.setWorld w).started = p.started := rfl

def join (p : Process) (thread : Option ThreadId) : Process :=
  { p with joined := fun id => p.joined id || thread = some id }

-- A thread that joins itself gets an error at once.
def threading (self : ThreadId) : (call : ThreadCall) → Process → call.Reply → Process → Prop
  | .selfId, p, reply, p' => reply = self ∧ p' = p
  | .spawn, p, id, p' => id ≠ p.caller ∧ p.world.phase id = .unborn ∧
    p' = { p.setWorld (p.world.withPhase id .looping) with started := some id }
  | .joinable thread, p, joinable, p' => joinable = p.joinable thread ∧ p' = p
  | .join thread, p, _, p' => (∀ id ∈ thread, id = self ∨ p.world.phase id = .finished) ∧
    p' = (p.did self .join thread).join thread
  | .delete thread, p, _, p' => p' = p.did self .delete thread
  | .exit, p, _, p' => p' = p.setWorld (p.world.withPhase self .finished)

def runs (self : ThreadId) : Semantics Op Op.Reply Process
  | .thread call, p, reply, p' => threading self call p reply p'
  | .store update, p, _, p' =>
    let stored := p.setWorld { p.world with memory := update p.world.memory }
    p' = if stored.thread = p.thread then stored else stored.did self .overwrite p.thread
  | op, p, reply, p' => ∃ w, steps self .any op p.world reply w ∧ p' = p.setWorld w

end Process

inductive Party where
  | caller
  | updater (id : ThreadId)
deriving DecidableEq

def Party.sem : Party → Semantics Op Op.Reply Process
  | .caller => fun op p reply p' => Process.runs p.caller op { p with started := none } reply p'
  | .updater id => fun op p reply p' => (p.world.phase id).Alive ∧ Process.runs id op p reply p'

abbrev Threads := Config Op Op.Reply Process Party

namespace Threads

structure Fresh (c : Threads) : Prop where
  client : ∃ port, c.state.world.memory.client = .new port
  unborn : ∀ id, c.state.world.phase id = .unborn
  unjoined : ∀ id, c.state.joined id = false
  deeds : c.state.deeds = []
  idle : c.program .caller = .ret ()
  updater : ∀ id, c.program (.updater id) = do
    update
    thread .exit

-- Whatever the rest of the process does, it leaves the threads of the client alone.
inductive Step : Threads → Threads → Prop where
  | turn {c d : Threads} (turn : Turn Party.sem c d) : Step c d
  | elsewhere {c : Threads} (w : World) (thread : w.memory.client.thread = c.state.thread)
      (phase : w.phase = c.state.world.phase) : Step c ⟨c.program, c.state.setWorld w⟩

def run (c : Threads) (call : Plugin Unit) : Threads :=
  { c with program := Function.update c.program .caller call }

@[simp] theorem run_caller (c : Threads) (call : Plugin Unit) :
    (c.run call).program .caller = call := by
  simp only [run, Function.update_self]

@[simp] theorem run_updater (c : Threads) (call : Plugin Unit) (id : ThreadId) :
    (c.run call).program (.updater id) = c.program (.updater id) := by
  simp only [run, ne_eq, reduceCtorEq, not_false_eq_true, Function.update_of_ne]

def call (c : Threads) (self : ThreadId) (call : Plugin Unit) : Threads :=
  { c.run call with state := { c.state with caller := self, started := none } }

structure Free (c : Threads) (id : ThreadId) : Prop where
  idle : c.program .caller = .ret ()
  outside : c.state.world.phase id = .unborn

inductive Reached : (serving : Bool) → Threads → Prop where
  | start {c : Threads} (fresh : c.Fresh) : Reached true c
  | step {serving : Bool} {c d : Threads} (reached : Reached serving c) (step : c.Step d) :
      Reached serving d
  | connect {c : Threads} (reached : Reached true c) (self : ThreadId) (free : c.Free self)
      (host : StdString) (port uniqueIdentifier : UInt16) :
      Reached true (c.call self (discard (connect host port uniqueIdentifier)))
  | stop {c : Threads} (reached : Reached true c) (idle : c.program .caller = .ret ()) :
      Reached false c
  | disconnect {c : Threads} (reached : Reached false c) (self : ThreadId) (free : c.Free self)
      (status : UInt32) : Reached false (c.call self (disconnect status))
  | destroy {c : Threads} (reached : Reached false c) (self : ThreadId) (free : c.Free self) :
      Reached false (c.call self close)

inductive Callable : Plugin Unit → Prop where
  | connect (host : StdString) (port uniqueIdentifier : UInt16) :
    Callable (discard (connect host port uniqueIdentifier))
  | disconnect (status : UInt32) : Callable (disconnect status)
  | close : Callable close
  | ingame : Callable (discard justAnotherVoiceChatIsIngame)
  | talkStatus (handle : UInt64) (status : TalkStatus) (clientID : AnyID) :
    Callable (ts3pluginOnTalkStatusChangeEvent handle status clientID)
  | selfVariable (handle : UInt64) (flag : SelfVariable) (newValue : CString) :
    Callable (ts3pluginOnClientSelfVariableUpdateEvent handle flag newValue)
  | clientMove (handle : UInt64) (clientID : AnyID) (oldChannelID newChannelID : UInt64) :
    Callable (ts3pluginOnClientMoveEvent handle clientID oldChannelID newChannelID)

theorem holds_of_callable {holds : Plugin Unit → Prop} {allowed : Op → Prop} {p : Plugin Unit}
    (callable : Callable p) (events : EventPrograms (fun {_} p => p.Calls allowed))
    (of_calls : ∀ {p : Plugin Unit}, p.Calls allowed → holds p)
    (connects : ∀ host port uniqueIdentifier, holds (discard (connect host port uniqueIdentifier)))
    (disconnects : ∀ status, holds (disconnect status)) (closes : holds close) : holds p := by
  cases callable with
  | connect host port uniqueIdentifier => exact connects host port uniqueIdentifier
  | disconnect status => exact disconnects status
  | close => exact closes
  | ingame => exact of_calls (discard_calls (events.ingame events.object))
  | talkStatus handle status clientID => exact of_calls (events.talkStatus handle status clientID)
  | selfVariable handle flag newValue => exact of_calls (events.selfVariable handle flag newValue)
  | clientMove handle clientID old new =>
    exact of_calls (events.clientMove events.object handle clientID old new)

inductive Called : Threads → Prop where
  | start {c : Threads} (fresh : c.Fresh) : Called c
  | step {c d : Threads} (called : Called c) (step : c.Step d) : Called d
  | call {c : Threads} (called : Called c) (self : ThreadId) (free : c.Free self)
      {p : Plugin Unit} (callable : Callable p) : Called (c.call self p)

theorem Reached.called {serving : Bool} {c : Threads} (reached : Reached serving c) :
    Called c := by
  induction reached with
  | start fresh => exact .start fresh
  | step _ step ih => exact .step ih step
  | stop _ _ ih => exact ih
  | connect _ self free host port uniqueIdentifier ih =>
    exact .call ih self free (.connect host port uniqueIdentifier)
  | disconnect _ self free status ih => exact .call ih self free (.disconnect status)
  | destroy _ self free ih => exact .call ih self free .close

end Threads

structure Threads.Tidy (c : Threads) : Prop where
  single : ∀ i j, (c.state.world.phase i).Alive → (c.state.world.phase j).Alive → i = j
  detached : ∀ deed ∈ c.state.deeds, deed.act ≠ .join → deed.joinable = false
  others : ∀ deed ∈ c.state.deeds, deed.act ≠ .overwrite → deed.thread ≠ some deed.actor
  -- A run that goes on from a call of `abortThread()` is still in it, or it passed its return.
  aborted : ∀ next d, c.program .caller = (abortThread >>= next) → ReflTransGen Threads.Step c d →
    (∃ rest, rest ≠ .ret () ∧ d.program .caller = (rest >>= next) ∧
      ReflTransGen Threads.Step (c.run abortThread) (d.run rest)) ∨
    ∃ e, ReflTransGen Threads.Step c e ∧ e.program .caller = next () ∧ Alone e.state.world ∧
      ReflTransGen Threads.Step e d

structure Process.Ok (p : Process) : Prop where
  attended : ∀ id, (p.world.phase id).Alive →
    p.thread = some id ∨ p.thread = none ∧ p.started = some id
  born : ∀ id ∈ p.thread, p.world.phase id ≠ .unborn
  ended : ∀ id, p.joined id = true → p.world.phase id = .finished
  outside : p.world.phase p.caller = .unborn
  lawful : ∀ deed ∈ p.deeds, (deed.act ≠ .join → deed.joinable = false) ∧
    (deed.act ≠ .overwrite → deed.thread ≠ some deed.actor)

structure Process.Retreats (p : Process) (id : ThreadId) (q : Process) : Prop where
  thread : q.thread = p.thread
  joined : q.joined = p.joined
  caller : q.caller = p.caller
  started : q.started = p.started
  others : ∀ other, other ≠ id → q.world.phase other = p.world.phase other
  own : q.world.phase id = p.world.phase id ∨
    (p.world.phase id).Alive ∧ q.world.phase id = .finished

def Process.Holds (p : Process) (id : ThreadId) (q : Process) : Prop :=
  (p.world.phase id).Alive → (q.world.phase id).Alive ∧ (p.thread = some id → q.thread = some id)

def Party.rely : Party → Process → Process → Prop
  | .caller => fun p q => ∃ id, p.Retreats id q
  | .updater id => fun p q => p.Holds id q

def Party.guar : Party → Process → Process → Prop
  | .caller => fun p q => ∀ id, p.Holds id q
  | .updater id => fun p q => p.Retreats id q

abbrev Party.contract (i : Party) : Contract Process := ⟨Process.Ok, i.rely, i.guar⟩

theorem contracts_fit (i j : Party) (p q : Process) (other : i ≠ j) (guar : i.guar p q) :
    j.rely p q := by
  cases i with
  | caller =>
    cases j with
    | caller => exact absurd rfl other
    | updater id => exact guar id
  | updater a =>
    cases j with
    | caller => exact ⟨a, guar⟩
    | updater b =>
      have different : b ≠ a := fun same => other (by rw [same])
      intro alive
      rw [guar.others b different, guar.thread]
      exact ⟨alive, id⟩

theorem contracts_rest (i : Party) (p : Process) : i.guar p p := by
  cases i with
  | caller => exact fun id alive => ⟨alive, fun held => held⟩
  | updater id => exact ⟨rfl, rfl, rfl, rfl, fun _ _ => rfl, .inl rfl⟩

namespace Process

variable {p q : Process} {w : World} {self id : ThreadId}

theorem Ok.setWorld (ok : p.Ok) (thread : w.memory.client.thread = p.thread)
    (phase : w.phase = p.world.phase) : (p.setWorld w).Ok where
  attended id alive := by
    rw [setWorld_world, phase] at alive
    rw [setWorld_thread, thread]
    exact ok.attended id alive
  born id held := by
    rw [setWorld_thread, thread] at held
    rw [setWorld_world, phase]
    exact ok.born id held
  ended id joined := by
    rw [setWorld_world, phase]
    exact ok.ended id joined
  outside := by
    rw [setWorld_world, phase]
    exact ok.outside
  lawful := ok.lawful

theorem Ok.cleared (ok : p.Ok) (attended : Attended p.world) : { p with started := none }.Ok where
  attended id alive := .inl (attended.alive id alive)
  born := ok.born
  ended := ok.ended
  outside := ok.outside
  lawful := ok.lawful

theorem Ok.attended_of_cleared (ok : { p with started := none }.Ok) : Attended p.world where
  alive id alive := by
    rcases ok.attended id alive with held | ⟨-, started⟩
    · exact held
    · cases started
  born := ok.born

theorem Ok.stranger (ok : p.Ok) (held : p.thread = some id) : id ≠ p.caller := by
  intro same
  exact ok.born id held (same ▸ ok.outside)

theorem Ok.did {act : Act} {thread : Option ThreadId} (ok : p.Ok)
    (lawful : (act ≠ .join → p.joinable thread = false) ∧
      (act ≠ .overwrite → thread ≠ some self)) : (p.did self act thread).Ok where
  attended := ok.attended
  born := ok.born
  ended := ok.ended
  outside := ok.outside
  lawful := by
    intro deed member
    rcases List.mem_cons.mp member with rfl | member
    · exact lawful
    · exact ok.lawful deed member

theorem Ok.join (ok : p.Ok) (finished : p.world.phase id = .finished) :
    (p.join (some id)).Ok where
  attended := ok.attended
  born := ok.born
  ended thread joined := by
    by_cases same : thread = id
    · rw [same]
      exact finished
    · apply ok.ended thread
      simpa [Process.join, Ne.symm same] using joined
  outside := ok.outside
  lawful := ok.lawful

theorem Retreats.setWorld (thread : w.memory.client.thread = p.thread)
    (phase : w.phase = p.world.phase) : p.Retreats id (p.setWorld w) where
  thread := thread
  joined := rfl
  caller := rfl
  started := rfl
  others other _ := congrFun phase other
  own := .inl (congrFun phase id)

theorem runs_aside {op : Op} {reply : op.Reply} (aside : op.Aside)
    (step : runs self op p reply q) :
    ∃ w, q = p.setWorld w ∧ w.memory.client.thread = p.thread ∧ w.phase = p.world.phase := by
  cases op with
  | load =>
    obtain ⟨w, ⟨-, rfl⟩, rfl⟩ := step
    exact ⟨_, rfl, rfl, rfl⟩
  | sleep milliseconds =>
    obtain ⟨w, same, rfl⟩ := step
    obtain rfl : w = p.world := same
    exact ⟨_, rfl, rfl, rfl⟩
  | thread call => cases aside
  | store update =>
    have same : (update p.world.memory).client.thread = p.thread := aside p.world.memory
    refine ⟨{ p.world with memory := update p.world.memory }, ?_, same, rfl⟩
    exact (show q = _ from step).trans (if_pos same)
  | external call =>
    obtain ⟨w, ⟨-, v, stepped, rfl⟩, rfl⟩ := step
    obtain ⟨memory, phase, -⟩ := stepped.frame
    refine ⟨_, rfl, ?_, phase⟩
    rw [World.record_memory, memory]

end Process

section Updater

variable {id : ThreadId} {α : Type} {p : Plugin α}

abbrev Updates (id : ThreadId) (pre : Process → Prop) (p : Plugin α)
    (post : α → Process → Prop) : Prop :=
  Triple (Party.sem (.updater id)) (Party.contract (.updater id)) pre p post

def Own (id : ThreadId) (p : Process) : Prop := (p.world.phase id).Alive ∧ p.thread = some id

theorem own_stable : (Party.contract (.updater id)).Stable (Own id) := by
  intro p q own _ _ holds
  obtain ⟨alive, keeps⟩ := holds own.1
  exact ⟨alive, keeps own.2⟩

theorem anything_stable {C : Contract Process} {fact : Prop} : C.Stable fun _ => fact :=
  fun _ _ holds _ _ _ => holds

theorem updates_aside (calls : p.Calls Op.Aside) :
    Updates id (fun _ => True) p (fun _ _ => True) := by
  apply Triple.of_calls anything_stable calls
  intro op p reply q aside ok _ step
  obtain ⟨w, rfl, thread, phase⟩ := Process.runs_aside aside step.2
  exact ⟨.setWorld thread phase, ok.setWorld thread phase, trivial⟩

theorem updates_load {pre : Process → Prop} {post : Memory → Process → Prop}
    (stable : (Party.contract (.updater id)).Stable pre)
    (after : ∀ m, (Party.contract (.updater id)).Stable (post m))
    (told : ∀ p : Process, p.Ok → pre p → (p.world.phase id).Alive → post p.world.memory p) :
    Updates id pre load post := by
  apply Triple.perform stable after
  intro p m q ok holds step
  obtain ⟨alive, w, ⟨rfl, rfl⟩, rfl⟩ := step
  exact ⟨.setWorld rfl rfl, ok, told p ok holds alive⟩

theorem updates_client : Updates id (fun _ => True) client
    (fun c p => c.thread ≠ none → Own id p) := by
  have after (m : Memory) : (Party.contract (.updater id)).Stable fun p =>
      m.client.thread ≠ none → Own id p := by
    intro p q holds ok ok' rely found
    exact own_stable p q (holds found) ok ok' rely
  apply Triple.bind (updates_load anything_stable after ?_)
  · intro m
    exact Triple.pure (after m) fun _ _ holds => holds
  intro p ok _ alive found
  rcases ok.attended id alive with held | ⟨none, -⟩
  · exact ⟨alive, held⟩
  · exact absurd none found

theorem updates_own : Updates id (Own id) client (fun c _ => c.thread = some id) := by
  have reading : Updates id (Own id) load (fun m _ => m.client.thread = some id) :=
    updates_load own_stable (fun _ => anything_stable) fun p _ own _ => own.2
  apply reading.bind
  intro m
  exact Triple.pure anything_stable fun _ _ holds => holds

theorem updates_selfId {fact : Prop} : @Triple _ _ _ ThreadId (Party.sem (.updater id))
    (Party.contract (.updater id)) (fun _ => fact) (thread .selfId)
    (fun self _ => self = id ∧ fact) := by
  apply Triple.perform anything_stable fun _ => anything_stable
  intro p self q ok holds step
  obtain ⟨-, rfl, rfl⟩ := step
  exact ⟨contracts_rest (.updater self) q, ok, rfl, holds⟩

theorem updates_abortThread : Updates id (fun _ => True) abortThread (fun _ _ => True) := by
  unfold abortThread
  apply updates_client.bind
  intro found
  by_cases thread : found.thread = none
  · rw [if_pos thread]
    exact Triple.mono (updates_aside trivial) (fun _ _ _ => trivial) fun _ _ _ _ => trivial
  rw [if_neg thread]
  refine Triple.mono (?_ : Updates id (Own id) _ fun _ _ => True) (fun _ _ holds => holds thread)
    fun _ _ _ _ => trivial
  apply updates_own.bind
  intro own
  apply updates_selfId.bind
  intro self
  apply Triple.assume (fun _ _ holds => holds)
  intro held
  rw [if_neg (by simp [held.1, held.2])]
  exact Triple.mono (updates_aside trivial) (fun _ _ _ => trivial) fun _ _ _ _ => trivial

abbrev Behaves (id : ThreadId) (p : Plugin α) : Prop :=
  Updates id (fun _ => True) p (fun _ _ => True)

theorem updates_programs : ClientPrograms (fun {_} p => Behaves id p) where
  toPartPrograms := .of_wrapper Triple.bind fun calls => updates_aside (wrapper_aside calls)
  enet call _ := updates_aside (enet_aside call)
  setClient tame := updates_aside (setClient_aside tame.thread)
  await := Triple.repeatUntil anything_stable
  loop := Triple.repeatUntil anything_stable
  abortThread := updates_abortThread
  handshakeResponse packet := updates_aside (aside_handlers.handshakeResponse packet)
  reset := updates_aside (aside_parts.resetTeamspeak (setClient_aside fun _ => rfl))

theorem Process.Ok.exit {p : Process} (ok : p.Ok) (alive : (p.world.phase id).Alive) :
    (p.setWorld (p.world.withPhase id .finished)).Ok where
  attended other live := by
    by_cases same : other = id
    · simp [same, Phase.Alive] at live
    · apply ok.attended
      simpa [Function.update_of_ne same] using live
  born other held := by
    by_cases same : other = id
    · simp [same]
    · simpa [Function.update_of_ne same] using ok.born other held
  ended other joined := by
    by_cases same : other = id
    · simp [same]
    · simpa [Function.update_of_ne same] using ok.ended other joined
  outside := by
    have other : p.caller ≠ id := by
      intro same
      rw [← same, ok.outside] at alive
      exact alive
    simpa [Function.update_of_ne other] using ok.outside
  lawful := ok.lawful

theorem behaves_exit : Behaves id (thread .exit) := by
  apply Triple.perform anything_stable fun _ => anything_stable
  intro p _ q ok _ step
  obtain ⟨alive, same⟩ := step
  obtain rfl : q = _ := same
  refine ⟨⟨rfl, rfl, rfl, rfl, fun other different => ?_, .inr ⟨alive, ?_⟩⟩, ok.exit alive, trivial⟩
  · simp [Function.update_of_ne different]
  · simp

theorem behaves_update : Behaves id (do update; thread .exit) :=
  Triple.bind updates_programs.session.update fun _ => behaves_exit

end Updater

structure Process.Lasts (assertion : Process → Prop) : Prop where
  attended : ∀ p, assertion p → Attended p.world
  keeps : ∀ p q : Process, assertion p → q.thread = p.thread → q.joined = p.joined →
    (∀ id, q.world.phase id = p.world.phase id ∨
      (p.world.phase id).Alive ∧ q.world.phase id = .finished) → assertion q

theorem Process.Retreats.phases {p q : Process} {id : ThreadId} (retreats : p.Retreats id q)
    (other : ThreadId) : q.world.phase other = p.world.phase other ∨
      (p.world.phase other).Alive ∧ q.world.phase other = .finished := by
  by_cases same : other = id
  · subst same
    exact retreats.own
  · exact .inl (retreats.others other same)

theorem Process.Lasts.stable {assertion : Process → Prop} (lasts : Process.Lasts assertion) :
    (Party.contract .caller).Stable assertion := by
  intro p q holds _ _ rely
  obtain ⟨id, retreats⟩ := rely
  exact lasts.keeps p q holds retreats.thread retreats.joined retreats.phases

theorem alive_before {phase phase' : Phase}
    (step : phase' = phase ∨ phase.Alive ∧ phase' = .finished) (alive : phase'.Alive) :
    phase.Alive := by
  rcases step with same | ⟨before, -⟩
  · rwa [same] at alive
  · exact before

theorem attended_lasts : Process.Lasts fun p => Attended p.world where
  attended _ holds := holds
  keeps p q holds thread _ phases := by
    constructor
    · intro id alive
      exact thread.trans (holds.alive id (alive_before (phases id) alive))
    · intro id held
      have born := holds.born id (thread.symm.trans held)
      rcases phases id with same | ⟨-, ended⟩
      · rwa [same]
      · simp [ended]

theorem Alone.attended {w : World} (alone : Alone w) : Attended w where
  alive id alive := absurd alive (alone.ended id)
  born id held := by simp [alone.thread] at held

theorem alone_lasts : Process.Lasts fun p => Alone p.world where
  attended _ alone := alone.attended
  keeps p q holds thread _ phases := by
    constructor
    · exact thread.trans holds.thread
    · exact fun id alive => holds.ended id (alive_before (phases id) alive)

structure Holding (id : ThreadId) (p : Process) : Prop where
  attended : Attended p.world
  thread : p.thread = some id

theorem holding_lasts (id : ThreadId) : Process.Lasts (Holding id) where
  attended _ holds := holds.attended
  keeps p q holds thread kept phases := by
    constructor
    · exact attended_lasts.keeps p q holds.attended thread kept phases
    · exact thread.trans holds.thread

structure Known (id : ThreadId) (joined : Bool) (p : Process) : Prop extends Holding id p where
  joined : p.joined id = joined

theorem known_lasts (id : ThreadId) (joined : Bool) : Process.Lasts (Known id joined) where
  attended _ holds := holds.attended
  keeps p q holds thread kept phases := by
    constructor
    · exact (holding_lasts id).keeps p q holds.toHolding thread kept phases
    · rw [kept]
      exact holds.joined

section Caller

variable {α : Type} {p : Plugin α} {assertion : Process → Prop} {id : ThreadId}

abbrev Makes (pre : Process → Prop) (p : Plugin α) (post : α → Process → Prop) : Prop :=
  Triple (Party.sem .caller) (Party.contract .caller) pre p post

theorem makes_aside (lasts : Process.Lasts assertion) (calls : p.Calls Op.Aside) :
    Makes assertion p (fun _ => assertion) := by
  apply Triple.of_calls lasts.stable calls
  intro op p reply q aside ok holds step
  obtain ⟨w, rfl, thread, phase⟩ := Process.runs_aside aside step
  have cleared := ok.cleared (lasts.attended p holds)
  refine ⟨fun id alive => ⟨?_, fun held => thread.trans held⟩, cleared.setWorld thread phase, ?_⟩
  · simpa [phase] using alive
  · exact lasts.keeps p _ holds thread rfl fun id => .inl (congrFun phase id)

theorem makes_client (lasts : Process.Lasts assertion) :
    Makes assertion client (fun c p => assertion p ∧ c.thread = p.thread) := by
  have after (m : Memory) : (Party.contract .caller).Stable fun p =>
      assertion p ∧ m.client.thread = p.thread := by
    intro p q holds ok ok' rely
    obtain ⟨id, retreats⟩ := rely
    exact ⟨lasts.stable p q holds.1 ok ok' ⟨id, retreats⟩, holds.2.trans retreats.thread.symm⟩
  have reading : Makes assertion load (fun m p => assertion p ∧ m.client.thread = p.thread) := by
    apply Triple.perform lasts.stable after
    intro p m q ok holds step
    obtain ⟨w, ⟨rfl, rfl⟩, rfl⟩ := step
    have cleared := ok.cleared (lasts.attended p holds)
    refine ⟨fun id alive => ⟨alive, fun held => held⟩, cleared, ?_, rfl⟩
    exact lasts.keeps p _ holds rfl rfl fun id => .inl rfl
  apply reading.bind
  intro m
  exact Triple.pure (after m) fun _ _ holds => holds

theorem makes_read {f : Client → Plugin α} {post : α → Process → Prop}
    (lasts : Process.Lasts assertion) (held : ∀ p, assertion p → p.thread = some id)
    (rest : ∀ c : Client, c.thread = some id → Makes assertion (f c) post) :
    Makes assertion (client >>= f) post := by
  apply (makes_client lasts).bind
  intro c
  apply Triple.assume (fun p _ holds => holds.2.trans (held p holds.1))
  intro same
  exact (rest c same).mono (fun _ _ holds => holds.1) fun _ _ _ holds => holds

theorem holds_rest (p : Process) (id : ThreadId) : p.Holds id p :=
  fun alive => ⟨alive, fun held => held⟩

theorem makes_selfId : @Triple _ _ _ ThreadId (Party.sem .caller) (Party.contract .caller)
    (Holding id) (thread .selfId) (fun self p => Holding id p ∧ self ≠ id) := by
  have after (self : ThreadId) : (Party.contract .caller).Stable fun p =>
      Holding id p ∧ self ≠ id := (holding_lasts id).stable.and anything_stable
  apply Triple.perform (holding_lasts id).stable after
  intro p self q ok holds step
  obtain ⟨rfl, rfl⟩ := step
  exact ⟨holds_rest p, ok.cleared holds.attended, ⟨holds.attended, holds.thread⟩,
    (ok.stranger holds.thread).symm⟩

theorem makes_joinable : @Triple _ _ _ Bool (Party.sem .caller) (Party.contract .caller)
    (Holding id) (thread (.joinable (some id))) (fun joinable p => Known id (!joinable) p) := by
  have after (joinable : Bool) : (Party.contract .caller).Stable (Known id !joinable) :=
    (known_lasts id _).stable
  apply Triple.perform (holding_lasts id).stable after
  intro p joinable q ok holds step
  obtain ⟨rfl, rfl⟩ := step
  refine ⟨holds_rest p, ok.cleared holds.attended, ⟨holds.attended, holds.thread⟩, ?_⟩
  simp [Process.joinable]

theorem makes_join : @Triple _ _ _ Unit (Party.sem .caller) (Party.contract .caller)
    (Holding id) (thread (.join (some id))) (fun _ => Known id true) := by
  apply Triple.perform (holding_lasts id).stable fun _ => (known_lasts id true).stable
  intro p _ q ok holds step
  obtain ⟨ended, rfl⟩ := step
  have other := ok.stranger holds.thread
  have finished : p.world.phase id = .finished := (ended id rfl).resolve_left other
  have cleared := ok.cleared holds.attended
  refine ⟨holds_rest p, (cleared.did ?_).join finished, ⟨holds.attended, holds.thread⟩, ?_⟩
  · simp [other]
  · simp [Process.join]

theorem makes_delete : @Triple _ _ _ Unit (Party.sem .caller) (Party.contract .caller)
    (Known id true) (thread (.delete (some id))) (fun _ => Known id true) := by
  apply Triple.perform (known_lasts id true).stable fun _ => (known_lasts id true).stable
  intro p _ q ok holds step
  obtain rfl : q = _ := step
  have other := ok.stranger holds.thread
  refine ⟨holds_rest p, (ok.cleared holds.attended).did ?_,
    ⟨holds.attended, holds.thread⟩, holds.joined⟩
  simp [Process.joinable, holds.joined, other]

theorem makes_clear : Makes (Known id true) (setClient fun c => { c with thread := none })
    (fun _ p => Alone p.world) := by
  apply Triple.perform (known_lasts id true).stable fun _ => alone_lasts.stable
  intro p _ q ok holds step
  have alone : ∀ other, ¬ (p.world.phase other).Alive := by
    intro other alive
    obtain rfl := Option.some.inj (holds.thread.symm.trans (holds.attended.alive other alive))
    rw [ok.ended id holds.joined] at alive
    exact alive
  have changed : ¬ none = p.thread := by simp [holds.thread]
  obtain rfl : q = _ := Eq.trans step (if_neg changed)
  refine ⟨fun other alive => absurd alive (alone other), Process.Ok.did ?_ ?_, rfl, alone⟩
  · have cleared := ok.cleared holds.attended
    exact ⟨fun other alive => absurd alive (alone other), fun _ held => (by cases held),
      cleared.ended, cleared.outside, cleared.lawful⟩
  · refine ⟨fun _ => ?_, by simp⟩
    change p.joinable p.thread = false
    rw [holds.thread]
    simp [Process.joinable, holds.joined]

theorem makes_release : Makes (Known id true) (do
    thread (.delete (← client).thread)
    setClient fun c => { c with thread := none }) (fun _ p => Alone p.world) := by
  apply makes_read (known_lasts id true) fun _ holds => holds.thread
  intro c held
  rw [held]
  exact makes_delete.bind fun _ => makes_clear

theorem makes_abortThread : Makes (fun p => Attended p.world) abortThread
    (fun _ p => Alone p.world) := by
  unfold abortThread
  apply (makes_client attended_lasts).bind
  intro found
  by_cases none : found.thread = none
  · rw [if_pos none]
    refine Triple.mono (Triple.pure alone_lasts.stable fun _ _ alone => alone) ?_
      fun _ _ _ alone => alone
    intro p _ holds
    have thread : p.thread = Option.none := holds.2.symm.trans none
    refine ⟨thread, fun id alive => ?_⟩
    cases thread.symm.trans (holds.1.alive id alive)
  obtain ⟨id, held⟩ := Option.ne_none_iff_exists'.mp none
  rw [if_neg none]
  refine Triple.mono (?_ : Makes (Holding id) _ fun _ p => Alone p.world) ?_
    fun _ _ _ alone => alone
  · apply makes_read (holding_lasts id) fun _ holds => holds.thread
    intro again same
    apply makes_selfId.bind
    intro self
    apply Triple.assume fun _ _ holds => holds.2
    intro other
    rw [if_pos (by simp [same, Ne.symm other])]
    refine Triple.mono (?_ : Makes (Holding id) _ _) (fun _ _ holds => holds.1)
      fun _ _ _ alone => alone
    apply makes_read (holding_lasts id) fun _ holds => holds.thread
    intro third same
    rw [same]
    apply makes_joinable.bind
    intro joinable
    cases joinable with
    | false => exact makes_release
    | true =>
      have stopping : Makes (Known id false) (setClient fun c => { c with running := false })
          (fun _ => Known id false) :=
        makes_aside (known_lasts id false) (setClient_aside fun _ => rfl)
      apply stopping.bind
      intro _
      apply makes_read (known_lasts id false) fun _ holds => holds.thread
      intro fourth same
      rw [same]
      have joining := @makes_join id
      apply (joining.mono (fun _ _ holds => holds.toHolding) fun _ _ _ holds => holds).bind
      exact fun _ => makes_release
  · intro p _ holds
    exact ⟨holds.1, holds.2.symm.trans held⟩

abbrev Attends (p : Plugin α) : Prop :=
  Makes (fun p => Attended p.world) p (fun _ p => Attended p.world)

theorem attends_aside (calls : p.Calls Op.Aside) : Attends p := makes_aside attended_lasts calls

theorem attends_programs : ClientPrograms (fun {_} p => Attends p) where
  toPartPrograms := .of_wrapper Triple.bind fun calls => attends_aside (wrapper_aside calls)
  enet call _ := attends_aside (enet_aside call)
  setClient tame := attends_aside (setClient_aside tame.thread)
  await := Triple.repeatUntil attended_lasts.stable
  loop := Triple.repeatUntil attended_lasts.stable
  abortThread := makes_abortThread.mono (fun _ _ holds => holds) fun _ _ _ alone => alone.attended
  handshakeResponse packet := attends_aside (aside_handlers.handshakeResponse packet)
  reset := attends_aside (aside_parts.resetTeamspeak (setClient_aside fun _ => rfl))

structure Spawned (id : ThreadId) (p : Process) : Prop where
  thread : p.thread = none
  started : p.started = some id
  born : p.world.phase id ≠ .unborn
  only : ∀ other, (p.world.phase other).Alive → other = id

theorem spawned_stable : (Party.contract .caller).Stable (Spawned id) := by
  intro p q spawned _ _ rely
  obtain ⟨other, retreats⟩ := rely
  constructor
  · exact retreats.thread.trans spawned.thread
  · exact retreats.started.trans spawned.started
  · rcases retreats.phases id with same | ⟨-, ended⟩
    · rw [same]
      exact spawned.born
    · simp [ended]
  · exact fun live alive => spawned.only live (alive_before (retreats.phases live) alive)

theorem makes_spawn : @Triple _ _ _ ThreadId (Party.sem .caller) (Party.contract .caller)
    (fun p => Alone p.world) (thread .spawn) Spawned := by
  apply Triple.perform alone_lasts.stable fun _ => spawned_stable
  intro p id q ok alone step
  obtain ⟨other, unborn, rfl⟩ := step
  have only : ∀ live, ((p.world.withPhase id .looping).phase live).Alive → live = id := by
    intro live alive
    by_contra different
    simp only [World.withPhase_phase, Function.update_of_ne different] at alive
    exact alone.ended live alive
  refine ⟨fun live alive => absurd alive (alone.ended live), ?_, alone.thread, rfl, ?_, only⟩
  · constructor
    · intro live alive
      exact .inr ⟨alone.thread, by rw [only live alive]⟩
    · intro held same
      cases alone.thread.symm.trans same
    · intro thread joined
      have different : thread ≠ id := by
        rintro rfl
        cases unborn.symm.trans (ok.ended thread joined)
      simpa [Function.update_of_ne different] using ok.ended thread joined
    · simpa [Function.update_of_ne other.symm] using ok.outside
    · exact ok.lawful
  · simp

theorem makes_keep : Makes (Spawned id) (setClient fun c => { c with thread := some id })
    (fun _ p => Attended p.world) := by
  apply Triple.perform spawned_stable fun _ => attended_lasts.stable
  intro p _ q ok spawned step
  have changed : ¬ some id = p.thread := by simp [spawned.thread]
  obtain rfl : q = _ := Eq.trans step (if_neg changed)
  have attended : ∀ live, (p.world.phase live).Alive → some id = some live := by
    intro live alive
    rw [spawned.only live alive]
  have born : ∀ held ∈ some id, p.world.phase held ≠ .unborn := by
    rintro _ ⟨⟩
    exact spawned.born
  refine ⟨fun live alive => ⟨alive, fun held => ?_⟩, Process.Ok.did ?_ ?_, attended, born⟩
  · cases spawned.thread.symm.trans held
  · exact ⟨fun live alive => .inl (attended live alive), born, ok.ended, ok.outside, ok.lawful⟩
  · refine ⟨fun _ => ?_, by simp⟩
    change p.joinable p.thread = false
    rw [spawned.thread]
    rfl

theorem attends_startUpdate (host : StdString) (port uniqueIdentifier : UInt16) :
    Attends (startUpdate host port uniqueIdentifier) := by
  have setting {update : Client → Client} {rest : Plugin Unit}
      (same : ∀ c, (update c).thread = c.thread)
      (next : Makes (fun p => Alone p.world) rest fun _ p => Attended p.world) :
      Makes (fun p => Alone p.world) (do setClient update; rest) fun _ p => Attended p.world :=
    (makes_aside alone_lasts (setClient_aside same)).bind fun _ => next
  apply makes_abortThread.bind
  intro _
  refine setting (fun _ => rfl) (setting (fun _ => rfl) (setting (fun _ => rfl) ?_))
  refine setting (fun _ => rfl) (setting (fun _ => rfl) ?_)
  exact makes_spawn.bind fun id => makes_keep

end Caller

namespace Threads

variable {c d : Threads} {post : Process → Prop}

structure Kept (post : Process → Prop) (c : Threads) : Prop where
  ok : c.state.Ok
  caller : Safe (Party.sem .caller) (Party.contract .caller) (c.program .caller)
    (fun _ => post) c.state
  updater : ∀ id, Safe (Party.sem (.updater id)) (Party.contract (.updater id))
    (c.program (.updater id)) (fun _ _ => True) c.state

def Kept.ends (post : Process → Prop) : Party → Process → Prop
  | .caller => post
  | .updater _ => fun _ => True

theorem Kept.step (kept : c.Kept post) (step : c.Step d) : d.Kept post := by
  cases step with
  | turn turn =>
    have safe (i : Party) : Safe (Party.sem i) (Party.contract i) (c.program i)
        (fun _ => Kept.ends post i) c.state := by
      cases i with
      | caller => exact kept.caller
      | updater id => exact kept.updater id
    obtain ⟨ok, safe⟩ := Safe.parallel (fun i p _ => contracts_rest i p)
      (fun i j p q other _ _ guar => contracts_fit i j p q other guar) kept.ok safe (.single turn)
    exact ⟨ok, safe .caller, fun id => safe (.updater id)⟩
  | elsewhere w thread phase =>
    have ok := kept.ok.setWorld thread phase
    refine ⟨ok, ?_, fun id => ?_⟩
    · exact kept.caller.between kept.ok (.single ⟨⟨0, .setWorld thread phase⟩, ok⟩)
    have holds : c.state.Holds id (c.state.setWorld w) := by
      intro alive
      rw [Process.setWorld_world, phase, Process.setWorld_thread, thread]
      exact ⟨alive, fun held => held⟩
    exact (kept.updater id).between kept.ok (.single ⟨holds, ok⟩)

theorem Kept.steps (kept : c.Kept post) (steps : ReflTransGen Step c d) : d.Kept post := by
  induction steps with
  | refl => exact kept
  | tail _ step ih => exact ih.step step

theorem Kept.ended (kept : c.Kept post) (idle : c.program .caller = .ret ()) : post c.state := by
  have safe := kept.caller
  rw [idle] at safe
  exact safe c.state .refl kept.ok

theorem Kept.run {pre next : Process → Prop} {p : Plugin Unit} (kept : c.Kept post)
    (makes : Makes pre p fun _ => next) (holds : pre c.state) : (c.run p).Kept next where
  ok := kept.ok
  caller := by
    rw [run_caller]
    exact makes c.state kept.ok holds
  updater id := by
    rw [run_updater]
    exact kept.updater id

theorem Kept.call {self : ThreadId} {p : Plugin Unit}
    (kept : c.Kept fun p => Attended p.world) (free : c.Free self) (attends : Attends p) :
    (c.call self p).Kept fun p => Attended p.world := by
  have attended := kept.ended free.idle
  have cleared := kept.ok.cleared attended
  have ok : { c.state with caller := self, started := none }.Ok :=
    ⟨cleared.attended, cleared.born, cleared.ended, free.outside, cleared.lawful⟩
  refine ⟨ok, ?_, fun id => ?_⟩
  · simp only [Threads.call, run_caller]
    exact attends _ ok attended
  · simp only [Threads.call, run_updater]
    exact (kept.updater id).between kept.ok (.single ⟨holds_rest c.state id, ok⟩)

theorem Fresh.kept (fresh : c.Fresh) : c.Kept fun p => Attended p.world := by
  obtain ⟨port, client⟩ := fresh.client
  have none : c.state.thread = none := by rw [Process.thread, client, Client.new]
  have attended : Attended c.state.world := by
    constructor
    · intro id alive
      rw [fresh.unborn id] at alive
      cases alive
    · intro id held
      cases none.symm.trans held
  have ok : c.state.Ok := by
    refine ⟨fun id alive => .inl (attended.alive id alive), attended.born, fun id joined => ?_,
      fresh.unborn _, ?_⟩
    · rw [fresh.unjoined id] at joined
      cases joined
    · simp [fresh.deeds]
  refine ⟨ok, ?_, fun id => ?_⟩
  · rw [fresh.idle]
    exact Safe.ret attended_lasts.stable ok attended fun _ _ holds => holds
  · rw [fresh.updater id]
    exact behaves_update c.state ok trivial

theorem Reached.steps {serving : Bool} (reached : Reached serving c)
    (steps : ReflTransGen Step c d) : Reached serving d := by
  induction steps with
  | refl => exact reached
  | tail _ step ih => exact ih.step step

theorem Callable.attends {p : Plugin Unit} (callable : Callable p) : Attends p := by
  refine holds_of_callable callable aside_events attends_aside (fun host port uniqueIdentifier => ?_)
    attends_programs.session.disconnect attends_programs.close
  have starts := attends_startUpdate host port uniqueIdentifier
  have attends := attends_programs.connect host port uniqueIdentifier starts
  exact attends.bind fun _ => attends_aside trivial

theorem Called.kept (called : Called c) : c.Kept fun p => Attended p.world := by
  induction called with
  | start fresh => exact fresh.kept
  | step _ step ih => exact ih.step step
  | call _ self free callable ih => exact ih.call free callable.attends

theorem Called.steps (called : Called c) (steps : ReflTransGen Step c d) : Called d := by
  induction steps with
  | refl => exact called
  | tail _ step ih => exact ih.step step

theorem Reached.kept {serving : Bool} (reached : Reached serving c) :
    c.Kept fun p => Attended p.world := reached.called.kept

theorem Kept.aborting {next : Unit → Plugin Unit} (kept : c.Kept post)
    (same : c.program .caller = (abortThread >>= next)) : Attended c.state.world := by
  have safe := kept.caller
  rw [same] at safe
  have loaded : Party.sem .caller .load c.state c.state.world.memory
      { c.state with started := none } := ⟨c.state.world, ⟨rfl, rfl⟩, rfl⟩
  obtain ⟨-, ok, -⟩ := safe c.state .refl kept.ok _ _ loaded
  exact Process.Ok.attended_of_cleared ok

theorem Kept.alone {next : Unit → Plugin Unit} (kept : c.Kept post)
    (same : c.program .caller = (abortThread >>= next))
    (run : ReflTransGen Step (c.run abortThread) (d.run (.ret ()))) : Alone d.state.world := by
  have begun := kept.run makes_abortThread (kept.aborting same)
  exact (begun.steps run).ended (run_caller ..)

theorem Step.within {rest : Plugin Unit} {next : Unit → Plugin Unit} (step : c.Step d)
    (same : c.program .caller = (rest >>= next)) (unfinished : rest ≠ .ret ()) :
    ∃ rest', d.program .caller = (rest' >>= next) ∧ (c.run rest).Step (d.run rest') := by
  cases step with
  | elsewhere w thread phase => exact ⟨rest, same, .elsewhere w thread phase⟩
  | turn turn =>
    cases turn with
    | mk i move =>
      cases i with
      | caller =>
        rw [same] at move
        obtain ⟨q, moved, rfl⟩ := move.of_bind fun _ => unfinished
        have goes : Function.update c.program .caller (q >>= next) .caller = (q >>= next) :=
          Function.update_self ..
        refine ⟨q, goes, .turn ?_⟩
        have turn : Turn Party.sem (c.run rest) _ :=
          .mk .caller (by simpa only [Threads.run, Function.update_self] using moved)
        simpa only [Threads.run, Function.update_idem] using turn
      | updater id =>
        have other : Party.caller ≠ .updater id := by simp
        rename_i left t
        have goes : Function.update c.program (.updater id) left .caller = (rest >>= next) :=
          (Function.update_of_ne other _ _).trans same
        refine ⟨rest, goes, .turn ?_⟩
        have moved : Move (Party.sem (.updater id)) ((c.run rest).program (.updater id)) c.state
            left t := by rwa [run_updater]
        have turn : Turn Party.sem (c.run rest) _ := .mk (.updater id) moved
        simpa only [Threads.run, Function.update_comm other] using turn

theorem Kept.aborted {next : Unit → Plugin Unit} (kept : c.Kept post)
    (same : c.program .caller = (abortThread >>= next)) (steps : ReflTransGen Step c d) :
    (∃ rest, rest ≠ .ret () ∧ d.program .caller = (rest >>= next) ∧
      ReflTransGen Step (c.run abortThread) (d.run rest)) ∨
    ∃ e, ReflTransGen Step c e ∧ e.program .caller = next () ∧ Alone e.state.world ∧
      ReflTransGen Step e d := by
  -- what is left of `abortThread()`, if it has not returned before
  have going : (∃ rest, d.program .caller = (rest >>= next) ∧
      ReflTransGen Step (c.run abortThread) (d.run rest)) ∨
      ∃ e, ReflTransGen Step c e ∧ e.program .caller = next () ∧ Alone e.state.world ∧
        ReflTransGen Step e d := by
    induction steps with
    | refl => exact .inl ⟨abortThread, same, .refl⟩
    | @tail d d' steps step ih =>
      rcases ih with ⟨rest, still, run⟩ | ⟨e, before, returned, alone, after⟩
      · by_cases done : rest = .ret ()
        · subst done
          exact .inr ⟨d, steps, still, kept.alone same run, .single step⟩
        · obtain ⟨rest', still', moved⟩ := step.within still done
          exact .inl ⟨rest', still', run.tail moved⟩
      · exact .inr ⟨e, before, returned, alone, after.tail step⟩
  rcases going with ⟨rest, still, run⟩ | passed
  · by_cases done : rest = .ret ()
    · subst done
      exact .inr ⟨d, steps, still, kept.alone same run, .refl⟩
    · exact .inl ⟨rest, done, still, run⟩
  · exact .inr passed

end Threads

/-- In every run at most one `update()` is running, thread objects are given up only after their
thread was joined, by another thread, and `abortThread()` leaves none. -/
theorem updateThread_joined {serving : Bool} {c : Threads} (reached : Threads.Reached serving c) :
    c.Tidy := by
  have kept := reached.kept
  refine ⟨fun i j alive alive' => ?_, fun deed member => (kept.ok.lawful deed member).1,
    fun deed member => (kept.ok.lawful deed member).2,
    fun _ _ same steps => kept.aborted same steps⟩
  rcases kept.ok.attended i alive with held | ⟨none, started⟩
  · rcases kept.ok.attended j alive' with held' | ⟨none', -⟩
    · exact Option.some.inj (held.symm.trans held')
    · cases held.symm.trans none'
  · rcases kept.ok.attended j alive' with held' | ⟨-, started'⟩
    · cases none.symm.trans held'
    · exact Option.some.inj (started.symm.trans started')

namespace Threads

def answerRuns (replies : Replies) (self : ThreadId) (op : Op) (p : Process) :
    Option (op.Reply × Process) :=
  match op with
  | .load => some (p.world.memory, p)
  | .sleep _ => some ((), p)
  | .store update =>
    let stored := p.setWorld { p.world with memory := update p.world.memory }
    some ((), if stored.thread = p.thread then stored else stored.did self .overwrite p.thread)
  | .external call => (answerOp self replies (.external call) p.world).map fun (reply, w) =>
    (reply, p.setWorld w)
  | .thread .selfId => some (self, p)
  | .thread .spawn =>
    if 1 ≠ p.caller ∧ p.world.phase 1 = .unborn then
      some ((1 : ThreadId), { p.setWorld (p.world.withPhase 1 .looping) with started := some 1 })
    else none
  | .thread (.joinable thread) => some (p.joinable thread, p)
  | .thread (.join thread) =>
    if thread.all fun id => id = self ∨ p.world.phase id = .finished then
      some ((), (p.did self .join thread).join thread)
    else none
  | .thread (.delete thread) => some ((), p.did self .delete thread)
  | .thread .exit => some ((), p.setWorld (p.world.withPhase self .finished))

theorem answerRuns_sound {replies : Replies} {self : ThreadId} {op : Op} {p q : Process}
    {reply : op.Reply} (answered : answerRuns replies self op p = some (reply, q)) :
    Process.runs self op p reply q := by
  cases op with
  | load =>
    obtain ⟨rfl, rfl⟩ := Prod.mk.inj (Option.some.inj answered)
    exact ⟨_, ⟨rfl, rfl⟩, rfl⟩
  | sleep =>
    obtain ⟨rfl, rfl⟩ := Prod.mk.inj (Option.some.inj answered)
    exact ⟨_, rfl, rfl⟩
  | store update =>
    obtain ⟨rfl, rfl⟩ := Prod.mk.inj (Option.some.inj answered)
    rfl
  | external call =>
    obtain ⟨⟨told, w⟩, given, same⟩ := Option.map_eq_some_iff.mp answered
    obtain ⟨rfl, rfl⟩ := Prod.mk.inj same
    exact ⟨w, answerOp_sound (Replies.within_any _) _ _ _ _ given, rfl⟩
  | thread call =>
    cases call with
    | selfId | joinable =>
      obtain ⟨rfl, rfl⟩ := Prod.mk.inj (Option.some.inj answered)
      exact ⟨rfl, rfl⟩
    | delete | exit =>
      obtain ⟨rfl, rfl⟩ := Prod.mk.inj (Option.some.inj answered)
      rfl
    | spawn =>
      simp only [answerRuns] at answered
      split at answered
      · rename_i free
        obtain ⟨rfl, rfl⟩ := Prod.mk.inj (Option.some.inj answered)
        exact ⟨free.1, free.2, rfl⟩
      · cases answered
    | join thread =>
      simp only [answerRuns] at answered
      split at answered
      · rename_i ended
        obtain ⟨rfl, rfl⟩ := Prod.mk.inj (Option.some.inj answered)
        refine ⟨fun id member => ?_, rfl⟩
        obtain rfl : thread = some id := member
        simpa using ended
      · cases answered

def answer (replies : Replies) : (i : Party) → (op : Op) → Process → Option (op.Reply × Process)
  | .caller, op, p => answerRuns replies p.caller op { p with started := none }
  | .updater id, op, p => if p.world.phase id = .looping then answerRuns replies id op p else none

theorem answer_sound {replies : Replies} (i : Party) (op : Op) (p : Process) (reply : op.Reply)
    (q : Process) (answered : answer replies i op p = some (reply, q)) : i.sem op p reply q := by
  cases i with
  | caller => exact answerRuns_sound answered
  | updater id =>
    simp only [answer] at answered
    split at answered
    · rename_i looping
      exact ⟨by simp [looping, Phase.Alive], answerRuns_sound answered⟩
    · cases answered

def idle : Threads where
  program
    | .caller => .ret ()
    | .updater _ => do
      update
      thread .exit
  state := ⟨.idle, fun _ => false, [], 0, none⟩

theorem idle_fresh : idle.Fresh where
  client := ⟨0, rfl⟩
  unborn _ := rfl
  unjoined _ := rfl
  deeds := rfl
  idle := rfl
  updater _ := rfl

def connecting : Threads :=
  idle.call 0 (discard (connect firstCall.host firstCall.port firstCall.gameId))

def ran : Option (Unit × Process) :=
  runWith (answer connectReplies .caller) 60 (connecting.program .caller) connecting.state

def connected : Threads where
  program := Function.update connecting.program .caller (.ret ())
  state := (ran.map (·.2)).getD connecting.state

theorem connected_ran : ran.isSome = true := by decide

theorem connected_steps : ReflTransGen Step connecting connected := by
  obtain ⟨⟨_, p⟩, computed⟩ := Option.isSome_iff_exists.mp connected_ran
  have run : Exec (Party.sem .caller) (connecting.program .caller) connecting.state () p :=
    Exec.of_runWith (answer_sound .caller) computed
  have same : connected = ⟨Function.update connecting.program .caller (.ret ()), p⟩ := by
    simp only [connected, computed, Option.map_some, Option.getD_some]
  rw [same]
  exact run.turns.lift id fun _ _ turn => Step.turn turn

end Threads

theorem updateThread_joined_first :
    Threads.connected.Tidy ∧ (Threads.connected.state.world.phase 1).Alive := by
  have begun : Threads.Reached true Threads.connecting :=
    .connect (.start Threads.idle_fresh) 0 ⟨rfl, rfl⟩ _ _ _
  exact ⟨updateThread_joined (begun.steps Threads.connected_steps), by decide⟩

end JustAnotherVoiceChat
