import JustAnotherVoiceChat.Library.Ending
import JustAnotherVoiceChat.Library.Ledger
import JustAnotherVoiceChat.Library.Product
import JustAnotherVoiceChat.UpdateThread

set_option autoImplicit false

namespace JustAnotherVoiceChat

open Binary Interaction Relation

namespace Handles

inductive Kind where
  | host
  | peer
deriving DecidableEq

structure Handle where
  kind : Kind
  id : Nat
deriving DecidableEq

def Kind.field : Kind → Client → Option Nat
  | .host, c => c.client
  | .peer, c => c.peer

def Kind.put : Kind → Option Nat → Client → Client
  | .host, handle, c => { c with client := handle }
  | .peer, handle, c => { c with peer := handle }

def Kind.release : Kind → Option Nat → EnetCall
  | .host, handle => .hostDestroy handle
  | .peer, handle => .peerReset handle

def Has (c : Client) (h : Handle) : Prop := h.kind.field c = some h.id

def peerAt (host : HostId) : Entry → Option PeerId
  | ⟨_, .enet (.hostConnect (some other) _ _ _), peer⟩ => if other = host then peer else none
  | _ => none

-- What ENet gives back with a handle: `enet_host_destroy` frees the peers of the host.
def belonging (older : List Entry) (there : List Handle) : Kind → Nat → List Handle
  | .host, host => there.filter fun h =>
    h.kind = .peer ∧ older.any fun entry => peerAt host entry = some h.id
  | .peer, _ => []

def givenBack (older : List Entry) (there : List Handle) (k : Kind) :
    Option Nat → List (Ledger.Transfer Handle)
  | none => []
  | some id => .returned ⟨k, id⟩ :: (belonging older there k id).map .returned

def deal (older : List Entry) (there : List Handle) :
    (call : External) → call.Reply → List (Ledger.Transfer Handle)
  | .enet (.hostCreate _ _), created => (created.map fun id => .taken ⟨.host, id⟩).toList
  | .enet (.hostConnect _ _ _ _), peer => (peer.map fun id => .taken ⟨.peer, id⟩).toList
  | .enet (.hostDestroy host), _ => givenBack older there .host host
  | .enet (.peerReset peer), _ => givenBack older there .peer peer
  | _, _ => []

def dealt : List Entry → List (Ledger.Transfer Handle)
  | [] => []
  | entry :: older =>
    deal older (Ledger.held (dealt older)) entry.call entry.reply ++ dealt older

def deals (w : World) : List (Ledger.Transfer Handle) := dealt w.trace

def live (w : World) : List Handle := Ledger.held (deals w)

theorem deals_record (w : World) (self : ThreadId) (call : External) (reply : call.Reply) :
    deals (w.record self call reply) = deal w.trace (live w) call reply ++ deals w := rfl

theorem deal_release (older : List Entry) (there : List Handle) (k : Kind) (handle : Option Nat)
    (reply : (k.release handle).Reply) :
    deal older there (.enet (k.release handle)) reply = givenBack older there k handle := by
  cases k <;> rfl

theorem belonging_sublist (older : List Entry) (there : List Handle) (k : Kind) (id : Nat) :
    (belonging older there k id).Sublist there := by
  cases k with
  | host => exact List.filter_sublist
  | peer => exact List.nil_sublist there

theorem belonging_kind {older : List Entry} {there : List Handle} {k : Kind} {id : Nat} {h : Handle}
    (member : h ∈ belonging older there k id) : h.kind = .peer ∧ k = .host := by
  cases k with
  | host =>
    have filtered := (List.mem_filter.mp member).2
    simp only [Bool.decide_and, Bool.and_eq_true, decide_eq_true_eq] at filtered
    exact ⟨filtered.1, rfl⟩
  | peer => cases member

theorem has_put {k : Kind} {handle : Option Nat} {c : Client} {h : Handle} :
    Has (k.put handle c) h ↔ if h.kind = k then handle = some h.id else Has c h := by
  obtain ⟨kind, id⟩ := h
  cases k <;> cases kind <;> simp [Has, Kind.field, Kind.put]

theorem field_put (k other : Kind) (handle : Option Nat) (c : Client) :
    other.field (k.put handle c) = if other = k then handle else other.field c := by
  cases k <;> cases other <;> rfl

def Resting (p : Process) : Prop := ∀ id, ¬ (p.world.phase id).Alive

def makesHost : Op → Bool
  | .external (.enet (.hostCreate _ _)) => true
  | _ => false

-- A host is made only while no update thread is running.
def sem (i : Party) : Semantics Op Op.Reply Process := fun op p reply q =>
  i.sem op p reply q ∧ (makesHost op = true → Resting p)

abbrev clientOf (p : Process) : Client := p.world.memory.client

theorem sem_process (i : Party) (op : Op) (p : Process) (reply : op.Reply) (q : Process)
    (step : sem i op p reply q) : i.sem op p reply q := step.1

theorem sem_runs {i : Party} {op : Op} {p q : Process} {reply : op.Reply}
    (step : sem i op p reply q) :
    ∃ self before, before.world = p.world ∧ Process.runs self op before reply q := by
  obtain ⟨step, -⟩ := step
  cases i with
  | caller => exact ⟨p.caller, { p with started := none }, rfl, step⟩
  | updater id => exact ⟨id, p, rfl, step.2⟩

theorem sem_world {i : Party} {op : Op} {p q : Process} {reply : op.Reply}
    (aside : ∀ call, op ≠ .thread call) (step : sem i op p reply q) :
    ∃ self, steps self .any op p.world reply q.world := by
  obtain ⟨self, before, same, ran⟩ := sem_runs step
  refine ⟨self, ?_⟩
  rw [← same]
  cases op with
  | thread call => exact absurd rfl (aside call)
  | load | sleep | external =>
    obtain ⟨w, stepped, rfl⟩ := ran
    exact stepped
  | store update =>
    rw [show q = _ from ran]
    dsimp only
    split <;> rfl

def Lawful (p : Process) : Prop := Ledger.Honest (deals p.world)

def Clean (p : Process) : Prop := ∀ h, Has (clientOf p) h → h ∈ live p.world

structure Same (p q : Process) : Prop where
  live : live q.world = live p.world
  field : ∀ k : Kind, k.field (clientOf q) = k.field (clientOf p)

structure Gives (id : ThreadId) (p q : Process) : Prop where
  others : ∀ other, other ≠ id → q.world.phase other = p.world.phase other
  own : q.world.phase id = p.world.phase id ∨
    (p.world.phase id).Alive ∧ q.world.phase id = .finished ∧ Clean q
  idle : ¬ (p.world.phase id).Alive → Same p q

structure Leaves (id : ThreadId) (p q : Process) : Prop where
  alive : (p.world.phase id).Alive → (q.world.phase id).Alive ∧ Same p q
  born : ¬ (p.world.phase id).Alive → (q.world.phase id).Alive → Clean q

def rely : Party → Process → Process → Prop
  | .caller => fun p q => ∃ id, Gives id p q
  | .updater id => Leaves id

def guar : Party → Process → Process → Prop
  | .caller => fun p q => ∀ id, Leaves id p q
  | .updater id => Gives id

def contract (i : Party) : Contract Process := ⟨Lawful, rely i, guar i⟩

section Steps

variable {p q : Process} {id : ThreadId}

theorem Same.has (same : Same p q) (h : Handle) : Has (clientOf q) h ↔ Has (clientOf p) h := by
  rw [Has, same.field h.kind, Has]

theorem Same.clean (same : Same p q) (clean : Clean p) : Clean q := by
  intro h has
  rw [same.live]
  exact clean h ((same.has h).mp has)

theorem Gives.phases (gives : Gives id p q) (other : ThreadId) :
    q.world.phase other = p.world.phase other ∨
      (p.world.phase other).Alive ∧ q.world.phase other = .finished := by
  by_cases same : other = id
  · subst same
    exact gives.own.imp_right fun ended => ⟨ended.1, ended.2.1⟩
  · exact .inl (gives.others other same)

theorem Gives.resting (gives : Gives id p q) (resting : Resting p) : Resting q := by
  intro other alive
  exact resting other (alive_before (gives.phases other) alive)

end Steps

-- No update thread that is running may have given back a handle that the client still has.
def Calm (p : Process) : Prop := Resting p → Clean p

theorem calm_stable : (contract .caller).Stable Calm := by
  rintro p q calm - - ⟨id, gives⟩ resting
  by_cases alive : (p.world.phase id).Alive
  · rcases gives.own with same | ⟨-, -, clean⟩
    · rw [← same] at alive
      exact absurd alive (resting id)
    · exact clean
  · have same := gives.idle alive
    refine same.clean (calm fun other running => ?_)
    have different : other ≠ id := by
      rintro rfl
      exact alive running
    rw [← gives.others other different] at running
    exact resting other running

-- Whoever may give handles back: the caller while no update thread is running, and an update
-- thread.
structure Able (i : Party) (able : Process → Prop) : Prop where
  kept : ∀ p q, able p → rely i p q → able q ∧ Same p q
  own : ∀ p q, able p → q.world.phase = p.world.phase → able q ∧ guar i p q

theorem able_caller : Able .caller Resting where
  kept := by
    rintro p q resting ⟨id, gives⟩
    exact ⟨gives.resting resting, gives.idle (resting id)⟩
  own p q resting phase := by
    have still : Resting q := fun id => phase ▸ resting id
    exact ⟨still, fun id => ⟨fun alive => absurd alive (resting id),
      fun _ alive => absurd alive (still id)⟩⟩

abbrev Running (id : ThreadId) (p : Process) : Prop := (p.world.phase id).Alive

theorem able_updater (id : ThreadId) : Able (.updater id) (Running id) where
  kept p q running leaves := leaves.alive running
  own p q running phase := by
    refine ⟨?_, fun _ _ => congrFun phase _, .inl (congrFun phase _), absurd running⟩
    rw [Running, phase]
    exact running

def Passing : Op → Prop
  | .store update => ∀ m (k : Kind), k.field (update m).client = k.field m.client
  | .external call => ∀ older there reply, deal older there call reply = []
  | .thread call => call ≠ .spawn ∧ call ≠ .exit
  | .load | .sleep _ => True

structure Passed (p q : Process) : Prop extends Same p q where
  deals : deals q.world = deals p.world
  phase : q.world.phase = p.world.phase

section Passing

variable {i : Party} {op : Op} {p q : Process} {reply : op.Reply}

theorem thread_world {call : ThreadCall} (other : call ≠ .spawn ∧ call ≠ .exit)
    {reply : call.Reply} (step : sem i (.thread call) p reply q) : q.world = p.world := by
  obtain ⟨self, before, same, step⟩ := sem_runs step
  rw [← same]
  cases call with
  | selfId | joinable => rw [step.2]
  | join =>
    rw [step.2]
    rfl
  | delete =>
    rw [show q = _ from step]
    rfl
  | spawn => exact absurd rfl other.1
  | exit => exact absurd rfl other.2

theorem external_world {call : External} {reply : call.Reply}
    (step : sem i (.external call) p reply q) :
    q.world.memory = p.world.memory ∧ q.world.phase = p.world.phase ∧
      deals q.world = deal p.world.trace (live p.world) call reply ++ deals p.world := by
  obtain ⟨self, -, v, stepped, same⟩ := sem_world (by simp) step
  obtain ⟨memory, phase, trace⟩ := stepped.frame
  rw [same]
  refine ⟨memory, phase, ?_⟩
  rw [deals_record, live, deals, trace]
  rfl

theorem passing_world (passing : Passing op) (step : sem i op p reply q) :
    deals q.world = deals p.world ∧ q.world.phase = p.world.phase ∧
      ∀ k : Kind, k.field (clientOf q) = k.field (clientOf p) := by
  cases op with
  | thread call =>
    have same := thread_world passing step
    exact ⟨by rw [same], by rw [same], fun k => by rw [clientOf, same]⟩
  | load | sleep =>
    obtain ⟨self, moved⟩ := sem_world (by simp) step
    have same : q.world = p.world := by
      first | exact moved.2 | exact moved
    exact ⟨by rw [same], by rw [same], fun k => by rw [clientOf, same]⟩
  | store update =>
    obtain ⟨self, moved⟩ := sem_world (by simp) step
    have same : q.world = { p.world with memory := update p.world.memory } := moved
    refine ⟨by rw [same]; rfl, by rw [same], fun k => ?_⟩
    rw [clientOf, same]
    exact passing p.world.memory k
  | external call =>
    obtain ⟨memory, phase, dealing⟩ := external_world step
    refine ⟨by rw [dealing, passing]; rfl, phase, fun k => ?_⟩
    rw [clientOf, memory]

theorem passed (passing : Passing op) (step : sem i op p reply q) : Passed p q := by
  obtain ⟨deals, phase, field⟩ := passing_world passing step
  exact ⟨⟨by rw [live, deals, live], field⟩, deals, phase⟩

theorem Passed.lawful (passed : Passed p q) (lawful : Lawful p) : Lawful q := by
  rw [Lawful, passed.deals]
  exact lawful

theorem Passed.guar (passed : Passed p q) : guar i p q := by
  cases i with
  | caller =>
    intro id
    refine ⟨fun alive => ⟨?_, passed.toSame⟩, fun rests alive => ?_⟩
    · rwa [passed.phase]
    · rw [passed.phase] at alive
      exact absurd alive rests
  | updater id =>
    refine ⟨fun other _ => ?_, .inl ?_, fun _ => passed.toSame⟩
    · rw [passed.phase]
    · rw [passed.phase]

theorem passes {α : Type} {program : Plugin α} {pre : Process → Prop}
    (stable : (contract i).Stable pre) (keeps : ∀ p q, Passed p q → pre p → pre q)
    (calls : program.Calls Passing) : Triple (sem i) (contract i) pre program fun _ => pre := by
  apply Triple.of_calls stable calls
  intro op p reply q passing lawful holds step
  have passed := passed passing step
  exact ⟨passed.guar, passed.lawful lawful, keeps p q passed holds⟩

end Passing

section Closing

variable {i : Party} {able : Process → Prop} (is_able : Able i able)

def Ready (k : Kind) (p : Process) : Prop := k = .host → (clientOf p).peer = none

structure Loaded (k : Kind) (handle : Option Nat) (p : Process) : Prop where
  clean : Clean p
  ready : Ready k p
  field : k.field (clientOf p) = handle

structure Freed (k : Kind) (p : Process) : Prop where
  ready : Ready k p
  others : ∀ h, Has (clientOf p) h → h.kind ≠ k → h ∈ live p.world

theorem Ready.same {k : Kind} {p q : Process} (ready : Ready k p) (same : Same p q) :
    Ready k q := by
  intro host
  rw [← ready host]
  exact same.field .peer

theorem Loaded.given {k : Kind} {handle : Option Nat} {p q : Process} (loaded : Loaded k handle p)
    (lawful : Lawful p) (client : clientOf q = clientOf p) (dealing : deals q.world =
      givenBack p.world.trace (live p.world) k handle ++ deals p.world) :
    Lawful q ∧ Freed k q := by
  have ready : Ready k q := fun host => client ▸ loaded.ready host
  cases handle with
  | none =>
    have same : deals q.world = deals p.world := dealing
    have honest : Ledger.Honest (deals q.world) := same ▸ lawful
    refine ⟨honest, ready, fun h has _ => ?_⟩
    rw [client] at has
    rw [live, same]
    exact loaded.clean h has
  | some id =>
    have there : ⟨k, id⟩ ∈ live p.world := loaded.clean ⟨k, id⟩ loaded.field
    have within := belonging_sublist p.world.trace (live p.world) k id
    have honest := Ledger.Honest.returned lawful within.subperm
    have remains {h : Handle} (member : h ∈ live p.world)
        (apart : h ∉ belonging p.world.trace (live p.world) k id) :
        h ∈ Ledger.held ((belonging p.world.trace (live p.world) k id).map .returned ++
          deals p.world) := by
      rw [Ledger.held_returned]
      exact List.mem_diff_of_mem member apart
    refine ⟨?_, ready, fun h has other => ?_⟩
    · change Ledger.Honest (deals q.world)
      rw [dealing]
      refine ⟨remains there fun member => ?_, honest⟩
      -- only peers are given back with it, and it is a host then
      obtain ⟨peer, host⟩ := belonging_kind member
      cases peer.symm.trans host
    · rw [client] at has
      have still := remains (loaded.clean h has) fun member => by
        obtain ⟨peer, host⟩ := belonging_kind member
        rw [Has, peer] at has
        cases (loaded.ready host).symm.trans has
      rw [live, dealing]
      exact (List.mem_erase_of_ne fun same => other (by rw [same])).mpr still

include is_able

theorem Able.stable {assertion : Process → Prop}
    (keeps : ∀ p q, Same p q → assertion p → assertion q) :
    (contract i).Stable fun p => able p ∧ assertion p := by
  intro p q holds _ _ rely
  obtain ⟨able, same⟩ := is_able.kept p q holds.1 rely
  exact ⟨able, keeps p q same holds.2⟩

theorem Able.clean_stable : (contract i).Stable fun p => able p ∧ Clean p :=
  is_able.stable fun _ _ same => same.clean

theorem Able.ready_stable (k : Kind) : (contract i).Stable fun p => able p ∧ Clean p ∧ Ready k p :=
  is_able.stable fun _ _ same holds => ⟨same.clean holds.1, holds.2.same same⟩

theorem Able.loaded_stable (k : Kind) (handle : Option Nat) :
    (contract i).Stable fun p => able p ∧ Loaded k handle p := by
  apply is_able.stable
  intro p q same loaded
  exact ⟨same.clean loaded.clean, loaded.ready.same same, (same.field k).trans loaded.field⟩

theorem Able.freed_stable (k : Kind) : (contract i).Stable fun p => able p ∧ Freed k p := by
  apply is_able.stable
  intro p q same freed
  refine ⟨freed.ready.same same, fun h has other => ?_⟩
  rw [same.live]
  exact freed.others h ((same.has h).mp has) other

theorem Able.passes {α : Type} {program : Plugin α} (calls : program.Calls Passing) :
    Triple (sem i) (contract i) (fun p => able p ∧ Clean p) program
      fun _ p => able p ∧ Clean p := by
  apply Handles.passes is_able.clean_stable ?_ calls
  intro p q passed holds
  exact ⟨(is_able.own p q holds.1 passed.phase).1, passed.clean holds.2⟩

theorem Able.reads (k : Kind) {post : Process → Prop} {f : Client → Plugin Unit}
    (rest : ∀ c, Triple (sem i) (contract i) (fun p => able p ∧ Loaded k (k.field c) p) (f c)
      fun _ => post) :
    Triple (sem i) (contract i) (fun p => able p ∧ Clean p ∧ Ready k p) (client >>= f)
      fun _ => post := by
  have after (m : Memory) : (contract i).Stable fun p => able p ∧ Loaded k (k.field m.client) p :=
    is_able.loaded_stable k _
  have reading : Triple (sem i) (contract i) (fun p => able p ∧ Clean p ∧ Ready k p) load
      fun m p => able p ∧ Loaded k (k.field m.client) p := by
    apply Triple.perform (is_able.ready_stable k) after
    rintro p m q lawful ⟨able, clean, ready⟩ step
    have passing : Passing .load := trivial
    have passed := passed passing step
    obtain ⟨self, told, same⟩ := sem_world (by simp) step
    obtain ⟨still, guar⟩ := is_able.own p q able passed.phase
    refine ⟨guar, passed.lawful lawful, still, passed.clean clean, ready.same passed.toSame, ?_⟩
    rw [clientOf, same, ← told]
  have found : Triple (sem i) (contract i) (fun p => able p ∧ Clean p ∧ Ready k p) client
      fun c p => able p ∧ Loaded k (k.field c) p :=
    reading.bind fun m => Triple.pure (after m) fun _ _ holds => holds
  exact found.bind rest

theorem Able.frees (k : Kind) (handle : Option Nat) :
    Triple (sem i) (contract i) (fun p => able p ∧ Loaded k handle p)
      (enet (k.release handle)) fun _ p => able p ∧ Freed k p := by
  apply Triple.perform (is_able.loaded_stable k _) fun _ => is_able.freed_stable k
  rintro p reply q lawful ⟨able, loaded⟩ step
  obtain ⟨memory, phase, dealing⟩ := external_world step
  rw [deal_release] at dealing
  obtain ⟨honest, freed⟩ := loaded.given lawful (congrArg Memory.client memory) dealing
  obtain ⟨still, guar⟩ := is_able.own p q able phase
  exact ⟨guar, honest, still, freed⟩

theorem Able.forgets (k : Kind) :
    Triple (sem i) (contract i) (fun p => able p ∧ Freed k p) (setClient (k.put none))
      fun _ p => able p ∧ Loaded k none p := by
  apply Triple.perform (is_able.freed_stable k) fun _ => is_able.loaded_stable k none
  rintro p _ q lawful ⟨able, freed⟩ step
  obtain ⟨self, moved⟩ := sem_world (by simp) step
  have same : q.world = { p.world with memory :=
      { p.world.memory with client := k.put none p.world.memory.client } } := moved
  have dealing : deals q.world = deals p.world := by
    rw [same]
    rfl
  have field (other : Kind) :
      other.field (clientOf q) = if other = k then none else other.field (clientOf p) := by
    rw [clientOf, same, field_put]
  obtain ⟨still, guar⟩ := is_able.own p q able (by rw [same])
  have honest : Ledger.Honest (deals q.world) := dealing ▸ lawful
  refine ⟨guar, honest, still, fun h has => ?_, fun host => ?_, ?_⟩
  · rw [Has, field] at has
    split at has
    · cases has
    · rename_i other
      rw [live, dealing]
      exact freed.others h has other
  · have apart : Kind.peer ≠ k := by
      rw [host]
      decide
    rw [← freed.ready host]
    exact (field .peer).trans (if_neg apart)
  · rw [field, if_pos rfl]

def releasing (k : Kind) (rest : Plugin Unit) : Plugin Unit := do
  if k.field (← client) ≠ none then
    let _ ← enet (k.release (k.field (← client)))
    setClient (k.put none)
  rest

theorem Able.releases (k : Kind) {rest : Plugin Unit} {post : Process → Prop}
    (later : Triple (sem i) (contract i) (fun p => able p ∧ Loaded k none p) rest fun _ => post) :
    Triple (sem i) (contract i) (fun p => able p ∧ Clean p ∧ Ready k p) (releasing k rest)
      fun _ => post := by
  have gives : Triple (sem i) (contract i) (fun p => able p ∧ Clean p ∧ Ready k p) (do
      let _ ← enet (k.release (k.field (← client)))
      setClient (k.put none)
      rest) fun _ => post := by
    apply is_able.reads k
    intro c
    apply (is_able.frees k (k.field c)).bind
    intro _
    exact (is_able.forgets k).bind fun _ => later
  apply is_able.reads k
  intro c
  split
  · apply Triple.mono gives ?_ fun _ _ _ holds => holds
    exact fun _ _ holds => ⟨holds.1, holds.2.clean, holds.2.ready⟩
  · rename_i found
    rw [not_not.mp found]
    exact later

theorem Able.closes :
    Triple (sem i) (contract i) (fun p => able p ∧ Clean p) closeConnection
      fun _ p => able p ∧ Clean p := by
  have forgetting : Triple (sem i) (contract i) (fun p => able p ∧ Clean p) (do
      setClient fun c => { c with running := false }
      setClient fun c => { c with host := .empty }
      setClient fun c => { c with port := 0 }
      setClient fun c => { c with gameId := 0 }
      setClient fun c => { c with teamspeakId := 0 }) fun _ p => able p ∧ Clean p := by
    have resets (field : Client.Field)
      (kept : ∀ c (k : Kind), k.field (field.reset c) = k.field c) :
        (setClient field.reset).Calls Passing := ⟨fun m => kept m.client, fun _ => trivial⟩
    apply is_able.passes
    refine (resets .running fun _ k => by cases k <;> rfl).bind fun _ => ?_
    refine (resets .host fun _ k => by cases k <;> rfl).bind fun _ => ?_
    refine (resets .port fun _ k => by cases k <;> rfl).bind fun _ => ?_
    refine (resets .gameId fun _ k => by cases k <;> rfl).bind fun _ => ?_
    exact resets .teamspeakId fun _ k => by cases k <;> rfl
  have last := Triple.mono forgetting
    (fun p _ (holds : able p ∧ Loaded .host none p) => ⟨holds.1, holds.2.clean⟩)
    fun _ _ _ holds => holds
  have second := Triple.mono (is_able.releases .host last)
    (fun p _ (holds : able p ∧ Loaded .peer none p) =>
      ⟨holds.1, holds.2.clean, fun _ => holds.2.field⟩)
    fun _ _ _ holds => holds
  apply Triple.mono (is_able.releases .peer second) ?_ fun _ _ _ holds => holds
  exact fun _ _ holds => ⟨holds.1, holds.2, fun host => by cases host⟩

end Closing

def Neutral (op : Op) : Prop := Passing op ∧ op.Aside

section Neutral

variable {α : Type}

theorem neutral_ofWrapper {program : Plugin α} (calls : program.Calls Op.OfWrapper) :
    program.Calls Neutral := by
  refine calls.mono fun op ofWrapper => ⟨?_, ofWrapper.aside⟩
  apply @Op.OfWrapper.elim Passing op ofWrapper trivial fun _ => trivial
  · intro update same m k
    rw [same m]
  · exact fun _ _ _ _ => rfl

theorem neutral_client : client.Calls Neutral := ⟨⟨trivial, trivial⟩, fun _ => trivial⟩

theorem neutral_setClient {update : Client → Client}
    (same : ∀ c, attached (update c) = attached c) :
    (setClient update).Calls Neutral := by
  refine ⟨⟨fun m k => ?_, fun m => congrArg (·.2.2) (same m.client)⟩, fun _ => trivial⟩
  cases k with
  | host => exact congrArg (·.1) (same m.client)
  | peer => exact congrArg (·.2.1) (same m.client)

theorem neutral_enet {call : EnetCall}
    (alone : ∀ older there reply, deal older there (.enet call) reply = []) :
    (enet call).Calls Neutral := ⟨⟨alone, trivial⟩, fun _ => trivial⟩

theorem neutral_serving (call : EnetCall) (serving : call.Serving) : (enet call).Calls Neutral := by
  apply neutral_enet
  cases call with
  | serviceBegin | serviceEnd | peerDisconnect | packetDestroy => exact fun _ _ _ => rfl
  | _ => cases serving

theorem neutral_sendPacket (packet : Outgoing) (channelId : UInt8) (reliable : Bool) :
    (sendPacket packet channelId reliable).Calls Neutral :=
  neutral_client.bind fun _ => neutral_enet fun _ _ _ => rfl

theorem neutral_parts : PartPrograms (fun {_} p => p.Calls Neutral) :=
  .of_wrapper Program.Calls.bind neutral_ofWrapper

theorem neutral_sendStatus : sendStatus.Calls Neutral :=
  neutral_parts.sendStatus fun _ => neutral_sendPacket _ _ _

theorem neutral_setStatus {update : Client → Client}
    (same : ∀ c, attached (update c) = attached c) :
    (do setClient update; sendStatus : Plugin Unit).Calls Neutral :=
  (neutral_setClient same).bind fun _ => neutral_sendStatus

theorem neutral_sendProtocolMessage : sendProtocolMessage.Calls Neutral :=
  neutral_parts.sendProtocolMessage fun _ => neutral_sendPacket _ _ _

theorem neutral_handlers : HandlerPrograms (fun {_} p => p.Calls Neutral) where
  toPartPrograms := neutral_parts
  setClient same := by
    refine neutral_setClient fun c => ?_
    have same := same c
    simp only [unhandled, Client.mk.injEq] at same
    rw [attached, attached, same.1, same.2.1, same.2.2.1]
  sendHandshake := neutral_parts.sendHandshake (neutral_ofWrapper ts3GetClientIdentity_calls)
    fun _ => neutral_sendPacket _ _ _
  sendStatus := neutral_sendStatus

theorem neutral_reset : resetTeamspeak.Calls Neutral :=
  neutral_parts.resetTeamspeak (neutral_setClient fun _ => rfl)

theorem neutral_events : EventPrograms (fun {_} p => p.Calls Neutral) where
  toPartPrograms := neutral_parts
  object _ := ⟨⟨fun _ _ _ => rfl, trivial⟩, fun _ => trivial⟩
  setTalking _ := neutral_setStatus fun _ => rfl
  setMicrophoneMuted _ := neutral_setStatus fun _ => rfl
  setSpeakersMuted _ := neutral_setStatus fun _ => rfl

theorem passing_abortThread : abortThread.Calls Passing := by
  have storing {update : Client → Client}
      (same : ∀ c (k : Kind), k.field (update c) = k.field c) :
      (setClient update).Calls Passing := ⟨fun m => same m.client, fun _ => trivial⟩
  have threads (call : ThreadCall) (spawns : call ≠ .spawn) (exits : call ≠ .exit) :
      (thread call).Calls Passing := ⟨⟨spawns, exits⟩, fun _ => trivial⟩
  have parts : PluginPrograms (fun {_} p => p.Calls Passing) := .of_load trivial
  apply parts.abortThread threads
  · exact storing fun _ k => by cases k <;> rfl
  · exact storing fun _ k => by cases k <;> rfl

end Neutral

theorem session_programs {holds : {α : Type} → Plugin α → Prop}
    (bind : ∀ {α β : Type} {p : Plugin α} {f : α → Plugin β}, holds p →
      (∀ value, holds (f value)) → holds (p >>= f))
    (repeatUntil : ∀ {α : Type} {body : Plugin (Option α)}, holds body →
      holds (Program.repeatUntil body))
    (neutral : ∀ {α : Type} {p : Plugin α}, p.Calls Neutral → holds p)
    (abortThread : holds abortThread) (close : holds close) : SessionPrograms holds where
  toPartPrograms := .of_wrapper bind fun calls => neutral (neutral_ofWrapper calls)
  enet call serving := neutral (neutral_serving call serving)
  reset _ same := neutral (neutral_setClient same)
  await := repeatUntil
  loop := repeatUntil
  abortThread := abortThread
  close := close
  sendHandshake statusCode := neutral (neutral_handlers.sendHandshake statusCode)
  handshakeResponse packet := neutral (neutral_handlers.handshakeResponse packet)

section Updater

variable {id : ThreadId} {α : Type}

def Behaves (id : ThreadId) (program : Plugin α) : Prop :=
  Triple (sem (.updater id)) (contract (.updater id)) (fun p => Running id p → Clean p) program
    fun _ p => Running id p → Clean p

theorem updater_stable :
    (contract (.updater id)).Stable fun p => Running id p → Clean p := by
  intro p q clean _ _ leaves running
  by_cases before : Running id p
  · exact (leaves.alive before).2.clean (clean before)
  · exact leaves.born before running

theorem running_call {op : Op} {next : op.Reply → Plugin α} {post : α → Process → Prop}
    (triple : Triple (sem (.updater id)) (contract (.updater id))
      (fun p => Running id p ∧ Clean p) (.call op next) post) :
    Triple (sem (.updater id)) (contract (.updater id)) (fun p => Running id p → Clean p)
      (.call op next) post := by
  intro p lawful holds q between lawful' reply r step
  have clean := (updater_stable.between between lawful holds).1
  have running : Running id q := step.1.1
  exact triple q lawful' ⟨running, clean running⟩ q .refl lawful' reply r step

theorem behaves_programs : SessionPrograms (fun {_} p => Behaves id p) := by
  have keeps (p q : Process) (passed : Passed p q) (clean : Running id p → Clean p)
      (running : Running id q) : Clean q := by
    rw [Running, passed.phase] at running
    exact passed.clean (clean running)
  have neutral {α : Type} {program : Plugin α} (calls : program.Calls Neutral) :
      Behaves id program := passes updater_stable keeps (calls.mono fun _ => And.left)
  have aborts : Behaves id abortThread := passes updater_stable keeps passing_abortThread
  have leaves : Behaves id closeConnection := by
    apply Triple.mono (running_call (able_updater id).closes) (fun _ _ clean => clean)
    exact fun _ _ _ holds _ => holds.2
  have closes : Behaves id close :=
    aborts.bind fun _ => leaves.bind fun _ => neutral neutral_reset
  exact session_programs Triple.bind (Triple.repeatUntil updater_stable) neutral aborts closes

theorem finished_clean : Triple (sem (.updater id)) (contract (.updater id))
    (fun p => Running id p → Clean p) (thread .exit) fun _ _ => True := by
  apply running_call
  have anything : (contract (.updater id)).Stable fun _ => True := fun _ _ _ _ _ _ => trivial
  apply Triple.perform (able_updater id).clean_stable fun _ => anything
  rintro p _ q lawful ⟨running, clean⟩ step
  have same : q.world = p.world.withPhase id .finished := by
    obtain ⟨⟨-, moved⟩, -⟩ := step
    rw [show q = _ from moved]
    rfl
  have client : clientOf q = clientOf p := by
    rw [clientOf, same]
    rfl
  have dealing : deals q.world = deals p.world := by
    rw [same]
    rfl
  have honest : Ledger.Honest (deals q.world) := dealing ▸ lawful
  have ended : q.world.phase id = .finished := by
    rw [same, World.withPhase_phase, Function.update_self]
  have still : Clean q := by
    intro h has
    rw [client] at has
    rw [live, dealing]
    exact clean h has
  refine ⟨⟨fun other different => ?_, .inr ⟨running, ended, still⟩, absurd running⟩,
    honest, trivial⟩
  rw [same, World.withPhase_phase, Function.update_of_ne different]

theorem behaves_thread : Triple (sem (.updater id)) (contract (.updater id))
    (fun p => Running id p → Clean p) (do update; thread .exit) fun _ _ => True :=
  Triple.bind behaves_programs.update fun _ => finished_clean

end Updater

section Caller

variable {α : Type}

abbrev Calling (pre : Process → Prop) (program : Plugin α) (post : α → Process → Prop) : Prop :=
  Triple (sem .caller) (contract .caller) pre program post

theorem calm_passed {p q : Process} (passed : Passed p q) (calm : Calm p) : Calm q := by
  intro resting
  refine passed.clean (calm fun id => ?_)
  rw [← passed.phase]
  exact resting id

def Alone (p : Process) : Prop := Resting p ∧ Clean p

theorem alone_stable : (contract .caller).Stable Alone := able_caller.clean_stable

def Made (k : Kind) (handle : Option Nat) (p : Process) : Prop :=
  Alone p ∧ ∀ id ∈ handle, ⟨k, id⟩ ∈ live p.world

theorem made_stable (k : Kind) (handle : Option Nat) :
    (contract .caller).Stable (Made k handle) := by
  intro p q made lawful lawful' rely
  obtain ⟨resting, same⟩ := able_caller.kept p q made.1.1 rely
  refine ⟨⟨resting, same.clean made.1.2⟩, fun id member => ?_⟩
  rw [same.live]
  exact made.2 id member

theorem calling_makes (k : Kind) {call : EnetCall} {pre : Process → Prop}
    (stable : (contract .caller).Stable pre) (made : call.Reply → Option Nat)
    (dealing : ∀ older there reply, deal older there (.enet call) reply =
      ((made reply).map fun id => Ledger.Transfer.taken ⟨k, id⟩).toList)
    (starts : ∀ p, pre p → (makesHost (.external (.enet call)) = true → Resting p) → Alone p) :
    Calling pre (enet call) fun reply => Made k (made reply) := by
  apply Triple.perform stable fun reply => made_stable k (made reply)
  intro p reply q lawful holds step
  obtain ⟨resting, clean⟩ := starts p holds step.2
  obtain ⟨memory, phase, dealt⟩ := external_world step
  rw [dealing] at dealt
  have client : clientOf q = clientOf p := congrArg Memory.client memory
  have honest : Ledger.Honest (deals q.world) := by
    rw [dealt]
    cases made reply <;> exact lawful
  have kept (h : Handle) (member : h ∈ live p.world) : h ∈ live q.world := by
    rw [live, dealt]
    cases made reply with
    | none => exact member
    | some id => exact List.mem_cons_of_mem _ member
  obtain ⟨still, guar⟩ := able_caller.own p q resting phase
  refine ⟨guar, honest, ⟨still, fun h has => kept h (clean h (client ▸ has))⟩, fun id member => ?_⟩
  rw [live, dealt, show made reply = some id from member]
  exact List.mem_cons_self

theorem calling_puts (k : Kind) (handle : Option Nat) :
    Calling (Made k handle) (setClient (k.put handle)) fun _ => Alone := by
  apply Triple.perform (made_stable k handle) fun _ => alone_stable
  rintro p _ q lawful ⟨⟨resting, clean⟩, made⟩ step
  obtain ⟨self, moved⟩ := sem_world (by simp) step
  have same : q.world = { p.world with memory :=
      { p.world.memory with client := k.put handle p.world.memory.client } } := moved
  have dealing : deals q.world = deals p.world := by
    rw [same]
    rfl
  have honest : Ledger.Honest (deals q.world) := dealing ▸ lawful
  obtain ⟨still, guar⟩ := able_caller.own p q resting (by rw [same])
  refine ⟨guar, honest, still, fun h has => ?_⟩
  rw [live, dealing]
  rw [clientOf, same, has_put] at has
  split at has
  · rename_i kind
    obtain ⟨_, id⟩ := h
    subst kind
    exact made id has
  · exact clean h has

theorem calling_spawn : @Triple _ _ _ ThreadId (sem .caller) (contract .caller)
    Alone (thread .spawn) fun _ => Calm := by
  apply Triple.perform alone_stable fun _ => calm_stable
  rintro p id q lawful ⟨resting, clean⟩ step
  have same : q.world = p.world.withPhase id .looping := by
    obtain ⟨⟨-, -, moved⟩, -⟩ := step
    rw [show q = _ from moved]
    rfl
  have dealing : deals q.world = deals p.world := by
    rw [same]
    rfl
  have honest : Ledger.Honest (deals q.world) := dealing ▸ lawful
  have still : Clean q := by
    intro h has
    rw [clientOf, same] at has
    rw [live, dealing]
    exact clean h has
  exact ⟨fun other => ⟨fun alive => absurd alive (resting other), fun _ _ => still⟩, honest,
    fun _ => still⟩

end Caller

section Outside

variable {α : Type}

abbrev whole (i : Party) : Contract Process := i.contract.and (contract i)

abbrev Both (pre pre' : Process → Prop) (program : Plugin α) (post post' : α → Process → Prop) :
    Prop :=
  Triple (sem .caller) (whole .caller) (fun p => pre p ∧ pre' p) program
    fun value p => post value p ∧ post' value p

theorem both {pre pre' : Process → Prop} {program : Plugin α} {post post' : α → Process → Prop}
    (makes : Makes pre program post) (calling : Calling pre' program post') :
    Both pre pre' program post post' :=
  (makes.fewer (sem_process .caller)).and calling

abbrev Fits (program : Plugin α) : Prop :=
  Both (fun p => Attended p.world) Calm program (fun _ p => Attended p.world) fun _ => Calm

theorem fits_abortThread : Both (fun p => Attended p.world) Calm abortThread
    (fun _ p => JustAnotherVoiceChat.Alone p.world) fun _ => Alone := by
  have passing : Calling Calm abortThread fun _ => Calm :=
    passes calm_stable (fun _ _ => calm_passed) passing_abortThread
  apply Triple.mono (both makes_abortThread passing) (fun _ _ holds => holds)
  intro _ p _ holds
  exact ⟨holds.1, holds.1.ended, holds.2 holds.1.ended⟩

theorem fits_neutral {program : Plugin α} (calls : program.Calls Neutral) : Fits program :=
  both (attends_aside (calls.mono fun _ => And.right))
    (passes calm_stable (fun _ _ => calm_passed) (calls.mono fun _ => And.left))

theorem fits_programs : SessionPrograms (fun {_} p => Fits p) := by
  have stable : (whole .caller).Stable fun p => Attended p.world ∧ Calm p :=
    Contract.Stable.both attended_lasts.stable calm_stable
  have leaves : Both (fun p => JustAnotherVoiceChat.Alone p.world) Alone closeConnection
      (fun _ p => Attended p.world) fun _ => Calm := by
    apply Triple.mono (both attends_programs.leave able_caller.closes)
    · exact fun _ _ holds => ⟨holds.1.attended, holds.2⟩
    · exact fun _ _ _ holds => ⟨holds.1, fun _ => holds.2.2⟩
  have aborts : Fits abortThread := by
    apply Triple.mono fits_abortThread (fun _ _ holds => holds)
    exact fun _ _ _ holds => ⟨holds.1.attended, fun _ => holds.2.2⟩
  have closes : Fits close :=
    fits_abortThread.bind fun _ => leaves.bind fun _ => fits_neutral neutral_reset
  exact session_programs Triple.bind (Triple.repeatUntil stable) fits_neutral aborts closes

abbrev Apart (program : Plugin α) : Prop :=
  Both (fun p => Attended p.world) Alone program (fun _ p => Attended p.world) fun _ => Alone

theorem apart_neutral {program : Plugin α} (calls : program.Calls Neutral) : Apart program :=
  both (attends_aside (calls.mono fun _ => And.right))
    (able_caller.passes (calls.mono fun _ => And.left))

theorem Apart.fits {post : α → Process → Prop} {program : Plugin α}
    (fits : Both (fun p => Attended p.world) Calm program (fun _ p => Attended p.world) post) :
    Both (fun p => Attended p.world) Alone program (fun _ p => Attended p.world) post :=
  Triple.mono fits (fun _ _ holds => ⟨holds.1, fun _ => holds.2.2⟩) fun _ _ _ holds => holds

theorem fits_makes (k : Kind) {call : EnetCall} {pre : Process → Prop}
    (stable : (contract .caller).Stable pre) (made : call.Reply → Option Nat)
    (dealing : ∀ older there reply, deal older there (.enet call) reply =
      ((made reply).map fun id => Ledger.Transfer.taken ⟨k, id⟩).toList)
    (starts : ∀ p, pre p → (makesHost (.external (.enet call)) = true → Resting p) → Alone p) :
    Both (fun p => Attended p.world) pre (enet call) (fun _ p => Attended p.world)
      fun reply => Made k (made reply) :=
  both (attends_aside (enet_aside call)) (calling_makes k stable made dealing starts)

theorem fits_put (k : Kind) (handle : Option Nat) :
    Both (fun p => Attended p.world) (Made k handle) (setClient (k.put handle))
      (fun _ p => Attended p.world) fun _ => Alone := by
  have same (c : Client) : (k.put handle c).thread = c.thread := by cases k <;> rfl
  exact both (attends_aside (setClient_aside same)) (calling_puts k handle)

theorem fits_createConnection (host : StdString) (port : UInt16) :
    Fits (createConnection host port) := by
  have closing : Fits (do
      close
      return false) := fits_programs.bind fits_programs.close fun _ => fits_programs.pure false
  have serviced : Fits (do
      let serviced ← service 5000
      if serviced.code ≤ 0 ∨ serviced.event ≠ .connect then
        close
        return false
      return true) := by
    apply fits_programs.bind (fits_programs.serving 5000)
    intro outcome
    split
    · exact closing
    · exact fits_programs.pure true
  have clearing : Both (fun p => Attended p.world) Alone (do
      setClient fun c => { c with client := none }
      return false) (fun _ p => Attended p.world) fun _ => Calm := by
    have cleared : Apart (setClient (Kind.host.put none)) := by
      apply Triple.mono (fits_put .host none) ?_ fun _ _ _ holds => holds
      exact fun _ _ holds => ⟨holds.1, holds.2, fun _ member => by cases member⟩
    exact cleared.bind fun _ => Apart.fits (fits_programs.pure false)
  have reading : Apart client := apart_neutral neutral_client
  unfold createConnection
  refine Triple.bind (fits_makes .host calm_stable (fun created => created) (fun _ _ _ => rfl)
    fun p calm rests => ⟨rests rfl, calm (rests rfl)⟩) fun created => ?_
  refine (fits_put .host created).bind fun _ => reading.bind fun c => ?_
  split
  · exact clearing
  have resolving : Apart (enet (.addressSetHost (cStr host))) :=
    apart_neutral (neutral_enet fun _ _ _ => rfl)
  refine resolving.bind fun resolved => reading.bind fun c => ?_
  refine Triple.bind (fits_makes .peer alone_stable (fun peer => peer) (fun _ _ _ => rfl)
    fun p alone _ => alone) fun peer => ?_
  refine (fits_put .peer peer).bind fun _ => reading.bind fun c => ?_
  split
  · exact Apart.fits closing
  · exact Apart.fits serviced

theorem fits_startUpdate (host : StdString) (port uniqueIdentifier : UInt16) :
    Fits (startUpdate host port uniqueIdentifier) := by
  have setting {update : Client → Client} {rest : Plugin Unit}
      (same : ∀ c, attached (update c) = attached c)
      (next : Both (fun p => JustAnotherVoiceChat.Alone p.world) Alone rest
        (fun _ p => Attended p.world) fun _ => Calm) :
      Both (fun p => JustAnotherVoiceChat.Alone p.world) Alone (do setClient update; rest)
        (fun _ p => Attended p.world) fun _ => Calm := by
    have set := both
      (makes_aside alone_lasts (setClient_aside fun c => congrArg (·.2.2) (same c)))
      (able_caller.passes ((neutral_setClient same).mono fun _ => And.left))
    exact set.bind fun _ => next
  have keeping (id : ThreadId) : Both (Spawned id) Calm
      (setClient fun c => { c with thread := some id }) (fun _ p => Attended p.world)
      fun _ => Calm := by
    apply both makes_keep
    apply passes calm_stable fun _ _ => calm_passed
    exact ⟨fun m k => by cases k <;> rfl, fun _ => trivial⟩
  have starting : Both (fun p => JustAnotherVoiceChat.Alone p.world) Alone (do
      let started ← thread .spawn
      setClient fun c => { c with thread := some started }) (fun _ p => Attended p.world)
      fun _ => Calm := (both makes_spawn calling_spawn).bind keeping
  unfold startUpdate
  apply fits_abortThread.bind
  intro _
  refine setting (fun _ => rfl) (setting (fun _ => rfl) ?_)
  refine setting (fun _ => rfl) (setting (fun _ => rfl) ?_)
  exact setting (fun _ => rfl) starting

theorem fits_connect (host : StdString) (port uniqueIdentifier : UInt16) :
    Fits (connect host port uniqueIdentifier) :=
  fits_programs.connect host port uniqueIdentifier (fits_createConnection host port)
    (fits_startUpdate host port uniqueIdentifier) (fits_neutral neutral_sendProtocolMessage)

theorem fits_callable {program : Plugin Unit} (callable : Threads.Callable program) :
    Fits program := by
  refine Threads.holds_of_callable callable neutral_events fits_neutral (fun host port uniqueIdentifier => ?_)
    fits_programs.disconnect fits_programs.close
  exact fits_programs.bind (fits_connect host port uniqueIdentifier) fun _ => fits_programs.pure ()

end Outside

structure Beside (w w' : World) : Prop where
  thread : w'.memory.client.thread = w.memory.client.thread
  field : ∀ k : Kind, k.field w'.memory.client = k.field w.memory.client
  phase : w'.phase = w.phase
  deals : deals w' = deals w

-- Every run of one caller at a time in which hosts are made while no update thread is running.
inductive Reached : Threads → Prop where
  | start {c : Threads} (fresh : c.Fresh) (unused : deals c.state.world = []) : Reached c
  | turn {c d : Threads} (reached : Reached c) (turn : Turn sem c d) : Reached d
  | elsewhere {c : Threads} (reached : Reached c) (w : World) (beside : Beside c.state.world w) :
      Reached ⟨c.program, c.state.setWorld w⟩
  | call {c : Threads} (reached : Reached c) (self : ThreadId) (free : c.Free self)
      {program : Plugin Unit} (callable : Threads.Callable program) : Reached (c.call self program)

theorem single {p : Process} (ok : p.Ok) {i j : ThreadId} (alive : (p.world.phase i).Alive)
    (alive' : (p.world.phase j).Alive) : i = j := by
  rcases ok.attended i alive with held | ⟨none, started⟩
  · rcases ok.attended j alive' with held' | ⟨none, -⟩
    · exact Option.some.inj (held.symm.trans held')
    · cases held.symm.trans none
  · rcases ok.attended j alive' with held | ⟨-, started'⟩
    · cases none.symm.trans held
    · exact Option.some.inj (started.symm.trans started')

theorem fits_other {i j : Party} {p q : Process} (other : i ≠ j) (ok : p.Ok)
    (step : guar i p q) : rely j p q := by
  cases i with
  | caller =>
    cases j with
    | caller => exact absurd rfl other
    | updater id => exact step id
  | updater a =>
    cases j with
    | caller => exact ⟨a, step⟩
    | updater b =>
      have different : b ≠ a := fun same => other (by rw [same])
      have still := step.others b different
      refine ⟨fun alive => ⟨?_, ?_⟩, fun rests alive => ?_⟩
      · rwa [still]
      · exact step.idle fun running => different (single ok alive running)
      · rw [still] at alive
        exact absurd alive rests

theorem whole_fits (i j : Party) (p q : Process) (other : i ≠ j) (inv : (whole i).inv p)
    (_ : (whole i).inv q) (step : (whole i).guar p q) : (whole j).rely p q :=
  ⟨contracts_fit i j p q other step.1, fits_other other inv.1 step.2⟩

theorem Passed.rest (p : Process) : Passed p p := ⟨⟨rfl, fun _ => rfl⟩, rfl, rfl⟩

def ends : Party → Process → Prop
  | .caller => fun p => Attended p.world ∧ Calm p
  | .updater _ => fun _ => True

structure Kept (c : Threads) : Prop where
  ok : c.state.Ok
  lawful : Lawful c.state
  safe : ∀ i, Safe (sem i) (whole i) (c.program i) (fun _ => ends i) c.state

section Runs

variable {c d : Threads}

theorem Kept.turn (kept : Kept c) (turn : Turn sem c d) : Kept d := by
  have reflexive (i : Party) (p : Process) (_ : (whole i).inv p) : (whole i).guar p p :=
    ⟨contracts_rest i p, (Passed.rest p).guar⟩
  have started : (whole .caller).inv c.state := ⟨kept.ok, kept.lawful⟩
  obtain ⟨⟨ok, lawful⟩, safe⟩ := Safe.parallel reflexive whole_fits started kept.safe (.single turn)
  exact ⟨ok, lawful, safe⟩

theorem Kept.elsewhere (kept : Kept c) {w : World} (beside : Beside c.state.world w) :
    Kept ⟨c.program, c.state.setWorld w⟩ := by
  have passed : Passed c.state (c.state.setWorld w) :=
    ⟨⟨congrArg Ledger.held beside.deals, beside.field⟩, beside.deals, beside.phase⟩
  have ok := kept.ok.setWorld beside.thread beside.phase
  have lawful := passed.lawful kept.lawful
  refine ⟨ok, lawful, fun i => ?_⟩
  refine (kept.safe i).between ⟨kept.ok, kept.lawful⟩ (.single ⟨?_, ok, lawful⟩)
  cases i with
  | caller =>
    -- as an update thread might have done
    exact ⟨⟨0, .setWorld beside.thread beside.phase⟩, 0, @Passed.guar (.updater 0) _ _ passed⟩
  | updater id =>
    refine ⟨fun alive => ?_, @Passed.guar .caller _ _ passed id⟩
    change ((w.phase id).Alive) ∧ (_ → w.memory.client.thread = some id)
    rw [beside.phase, beside.thread]
    exact ⟨alive, fun held => held⟩

theorem Kept.ended (kept : Kept c) (idle : c.program .caller = .ret ()) :
    Attended c.state.world ∧ Calm c.state := by
  have done := kept.safe .caller
  rw [idle] at done
  exact done _ .refl ⟨kept.ok, kept.lawful⟩

theorem Kept.call {self : ThreadId} {program : Plugin Unit} (kept : Kept c) (free : c.Free self)
    (fits : Fits program) : Kept (c.call self program) := by
  obtain ⟨attended, calm⟩ := kept.ended free.idle
  have cleared := kept.ok.cleared attended
  have ok : { c.state with caller := self, started := none }.Ok :=
    ⟨cleared.attended, cleared.born, cleared.ended, free.outside, cleared.lawful⟩
  have passed : Passed c.state { c.state with caller := self, started := none } :=
    ⟨⟨rfl, fun _ => rfl⟩, rfl, rfl⟩
  have lawful := passed.lawful kept.lawful
  refine ⟨ok, lawful, fun i => ?_⟩
  cases i with
  | caller =>
    change Safe _ _ ((c.run program).program .caller) _ _
    rw [Threads.run_caller]
    exact fits _ ⟨ok, lawful⟩ ⟨attended, calm_passed passed calm⟩
  | updater id =>
    change Safe _ _ ((c.run program).program (.updater id)) _ _
    rw [Threads.run_updater]
    exact (kept.safe (.updater id)).between ⟨kept.ok, kept.lawful⟩
      (.single ⟨⟨holds_rest c.state id, @Passed.guar .caller _ _ passed id⟩, ok, lawful⟩)

theorem Fresh.kept (fresh : c.Fresh) (unused : deals c.state.world = []) : Kept c := by
  have known := fresh.kept
  obtain ⟨port, client⟩ := fresh.client
  have clean : Clean c.state := by
    rintro ⟨kind, id⟩ has
    cases kind <;> simp [Has, Kind.field, client, Client.new] at has
  have lawful : Lawful c.state := by
    rw [Lawful, unused]
    trivial
  refine ⟨known.ok, lawful, fun i => ?_⟩
  cases i with
  | caller =>
    rw [fresh.idle]
    have stable : (whole .caller).Stable fun p => Attended p.world ∧ Calm p :=
      Contract.Stable.both attended_lasts.stable calm_stable
    exact Safe.ret stable ⟨known.ok, lawful⟩ ⟨known.ended fresh.idle, fun _ => clean⟩
      fun _ _ holds => holds
  | updater id =>
    rw [fresh.updater id]
    have behaves := (behaves_update.fewer (sem_process (.updater id))).and (@behaves_thread id)
    apply Safe.mono fun _ _ _ _ => trivial
    exact behaves _ ⟨known.ok, lawful⟩ ⟨trivial, fun _ => clean⟩

theorem Reached.kept (reached : Reached c) : Kept c := by
  induction reached with
  | start fresh unused => exact Fresh.kept fresh unused
  | turn _ turn ih => exact ih.turn turn
  | elsewhere _ w beside ih => exact ih.elsewhere beside
  | call _ self free callable ih => exact ih.call free (fits_callable callable)

end Runs

section Runs

variable {replies : Replies} {c : Threads} {i : Party}

def once (replies : Replies) (i : Party) (c : Threads) : Threads :=
  match c.program i with
  | .call op next => (Threads.answer replies i op c.state).elim c fun (reply, q) =>
    ⟨Function.update c.program i (next reply), q⟩
  | _ => c

def goOn (answer : (i : Party) → (op : Op) → Process → Option (op.Reply × Process)) (steps : Nat)
    (i : Party) (c : Threads) : Threads :=
  let (rest, p) := advance (answer i) steps (unroll (c.program i)) c.state
  ⟨Function.update c.program i rest, p⟩

theorem goOn_turns {answer : (i : Party) → (op : Op) → Process → Option (op.Reply × Process)}
    {steps : Party → Semantics Op Op.Reply Process} (sound : ∀ i op p reply q,
      answer i op p = some (reply, q) → steps i op p reply q) (many : Nat) :
    ReflTransGen (Turn steps) c (goOn answer many i c) := by
  have moves := advance_moves (sound i) many (unroll (c.program i)) c.state
  have turns := ((unroll_moves (c.program i) c.state).trans moves).turns c.program
  rwa [Function.update_eq_self] at turns

def orderly (replies : Replies) (i : Party) (op : Op) (p : Process) :
    Option (op.Reply × Process) :=
  if makesHost op then none else Threads.answer replies i op p

theorem orderly_sound (i : Party) (op : Op) (p : Process) (reply : op.Reply) (q : Process)
    (answered : orderly replies i op p = some (reply, q)) : sem i op p reply q := by
  simp only [orderly] at answered
  split at answered
  · cases answered
  · exact ⟨Threads.answer_sound i op p reply q answered, fun makes => absurd makes ‹_›⟩

theorem Reached.goOn (reached : Reached c) (steps : Nat) :
    Reached (Handles.goOn (orderly replies) steps i c) := by
  have run {d : Threads} (turns : ReflTransGen (Turn sem) c d) : Reached d := by
    induction turns with
    | refl => exact reached
    | tail _ turn ih => exact ih.turn turn
  exact run (goOn_turns orderly_sound steps)

theorem Reached.once (reached : Reached c) (resting : Resting c.state) :
    Reached (Handles.once replies i c) := by
  unfold Handles.once
  split
  · rename_i op next head
    cases answered : Threads.answer replies i op c.state with
    | none => exact reached
    | some result =>
      refine reached.turn (.mk i ?_)
      rw [head]
      exact .call ⟨Threads.answer_sound i op c.state _ _ answered, fun _ => resting⟩
  · exact reached

theorem called_goOn (called : Threads.Called c) (steps : Nat) :
    Threads.Called (Handles.goOn (Threads.answer replies) steps i c) :=
  called.steps ((goOn_turns Threads.answer_sound steps).lift id fun _ _ turn => .turn turn)

end Runs

def making : Threads := goOn (orderly connectReplies) 100 .caller Threads.connecting

def connected : Threads :=
  goOn (orderly connectReplies) 100 .caller (once connectReplies .caller making)

def closed : Threads :=
  goOn (orderly connectReplies) 100 .caller (goOn (orderly connectReplies) 100 (.updater 1)
    (goOn (orderly connectReplies) 100 .caller (connected.call 0 close)))

theorem reached_closed : Reached closed := by
  have begun : Reached Threads.connecting :=
    .call (.start Threads.idle_fresh rfl) 0 ⟨rfl, rfl⟩ (.connect _ _ _)
  have resting : Resting making.state := fun _ alive => alive
  have opened : Reached connected := ((begun.goOn 100).once resting).goOn 100
  have closing : Reached (connected.call 0 close) := opened.call 0 ⟨rfl, rfl⟩ .close
  exact ((closing.goOn 100).goOn 100).goOn 100

def breaking : (call : EnetCall) → World → call.Reply
  | .serviceEnd host timeout, _ =>
    if host = some 0 ∧ timeout = 5000 then ⟨1, .connect⟩ else ⟨-1, .none⟩
  | call, w => connecting 1 call w

def replies : Replies := { connectReplies with enet := breaking }

def halfway : Threads :=
  goOn (Threads.answer replies) 8 (.updater 1) (goOn (Threads.answer replies) 100 (.updater 1)
    (goOn (Threads.answer replies) 100 .caller Threads.connecting))

-- The caller connects once more. The update thread destroys the second host with its peer, and the
-- caller resets that peer afterwards.
def dangling : Threads :=
  goOn (Threads.answer replies) 100 .caller (goOn (Threads.answer replies) 100 (.updater 1)
    (goOn (Threads.answer replies) 100 .caller
      (halfway.call 0 (discard (connect firstCall.host 2 1)))))

theorem called_dangling : Threads.Called dangling := by
  have begun : Threads.Called Threads.connecting :=
    .call (.start Threads.idle_fresh) 0 ⟨rfl, rfl⟩ (.connect _ _ _)
  have left : Threads.Called halfway :=
    called_goOn (called_goOn (called_goOn begun 100) 100) 8
  have again : Threads.Called (halfway.call 0 (discard (connect firstCall.host 2 1))) :=
    .call left 0 ⟨rfl, rfl⟩ (.connect _ _ _)
  exact called_goOn (called_goOn (called_goOn again 100) 100) 100

end Handles

open Handles in
/-- As long as hosts are made only while no update thread is running, no host is destroyed and no
peer is reset that was not made, or that was given back before, by itself or with its host; and
where neither a call nor an update thread is running, the client has no host or peer that was given
back. -/
theorem handles_returned {c : Threads} (reached : Handles.Reached c) :
    Ledger.Honest (deals c.state.world) ∧
      (c.program .caller = .ret () → (∀ id, ¬ (c.state.world.phase id).Alive) →
        ∀ h, Has c.state.world.memory.client h → h ∈ live c.state.world) := by
  have kept := reached.kept
  exact ⟨kept.lawful, fun idle resting => (kept.ended idle).2 resting⟩

open Handles in
theorem handles_returned_closed :
    deals closed.state.world = [.returned ⟨.host, 0⟩, .returned ⟨.peer, 0⟩, .taken ⟨.peer, 0⟩,
      .taken ⟨.host, 0⟩] ∧ Ledger.Honest (deals closed.state.world) :=
  ⟨rfl, (handles_returned reached_closed).1⟩

open Handles in
-- Without the condition `connect()` may make a host that an ending update thread destroys, and a
-- peer is given back twice.
theorem handles_dangling : ∃ c, Threads.Called c ∧ ¬ Ledger.Honest (deals c.state.world) := by
  refine ⟨dangling, called_dangling, ?_⟩
  have given : deals dangling.state.world = [.returned ⟨.peer, 1⟩, .returned ⟨.host, 1⟩,
      .returned ⟨.peer, 1⟩, .taken ⟨.peer, 1⟩, .taken ⟨.host, 1⟩, .returned ⟨.peer, 0⟩,
      .taken ⟨.peer, 0⟩, .taken ⟨.host, 0⟩] := rfl
  rw [given]
  simp [Ledger.Honest, Ledger.held]

end JustAnotherVoiceChat
