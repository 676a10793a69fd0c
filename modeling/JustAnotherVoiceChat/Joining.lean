import JustAnotherVoiceChat.Handlers

set_option autoImplicit false

namespace JustAnotherVoiceChat

open Binary Interaction

def Phase.Alive : Phase → Prop
  | .looping | .left => True
  | .unborn | .finished => False

instance (phase : Phase) : Decidable phase.Alive :=
  match phase with
  | .looping | .left => .isTrue trivial
  | .unborn | .finished => .isFalse id

def World.withPhase (w : World) (id : ThreadId) (phase : Phase) : World :=
  { w with phase := Function.update w.phase id phase }

section Fields

variable (w : World) (id : ThreadId) (phase : Phase)

@[simp] theorem World.withPhase_memory : (w.withPhase id phase).memory = w.memory := rfl
@[simp] theorem World.withPhase_teamspeak : (w.withPhase id phase).teamspeak = w.teamspeak := rfl
@[simp] theorem World.withPhase_enet : (w.withPhase id phase).enet = w.enet := rfl
@[simp] theorem World.withPhase_trace : (w.withPhase id phase).trace = w.trace := rfl
@[simp] theorem World.withPhase_phase :
    (w.withPhase id phase).phase = Function.update w.phase id phase := rfl

end Fields

def Ended (answers : (call : External) → World → call.Reply → Prop) (id : ThreadId)
    (w w' : World) : Prop :=
  match w.phase id with
  | .unborn => False
  | .looping =>
    ∃ u, Exec (steps id (.updating id answers)) update w () u ∧ w' = u.withPhase id .finished
  | .left =>
    ∃ u, Exec (steps id (.updating id answers)) close w () u ∧ w' = u.withPhase id .finished
  | .finished => w' = w

-- A thread that starts the update thread and joins it: `joins` is what a join comes to, and `ends`
-- what the end of the thread itself leaves.
def Environment.starting (self : ThreadId)
    (answers : (call : External) → World → call.Reply → Prop)
    (joins : ThreadId → World → World → Prop) (ends : World → World) : Environment where
  answers := answers
  threading
    | .selfId, w, reply, w' => reply = self ∧ w' = w
    | .spawn, w, id, w' => id ≠ self ∧ w.phase id = .unborn ∧ w' = w.withPhase id .looping
    | .joinable _, w, joinable, w' => joinable = true ∧ w' = w
    | .join thread, w, _, w' => ∃ id, thread = some id ∧ joins id w w'
    | .delete _, w, _, w' => w' = w
    | .exit, w, _, w' => w' = ends w

-- A thread that connects or disconnects: what is left of the update thread runs while it joins it.
def Environment.calling (self : ThreadId)
    (answers : (call : External) → World → call.Reply → Prop) : Environment :=
  .starting self answers (Ended answers) id

structure Enduring (w u : World) : Prop where
  resolve : u.enet.resolve = w.enet.resolve
  peers : w.enet.nextPeer ≤ u.enet.nextPeer
  trace : ∃ entries, u.trace = entries ++ w.trace

instance : Std.Refl Enduring := ⟨fun _ => ⟨rfl, le_refl _, [], rfl⟩⟩

instance : IsTrans World Enduring where
  trans _ _ _ first second := by
    obtain ⟨resolve, peers, entries, trace⟩ := first
    obtain ⟨resolve', peers', more, trace'⟩ := second
    refine ⟨resolve'.trans resolve, le_trans peers peers', more ++ entries, ?_⟩
    rw [trace', trace, List.append_assoc]

structure Steady (w u : World) : Prop where
  enduring : Enduring w u
  phase : u.phase = w.phase

instance : Std.Refl Steady := ⟨fun w => ⟨Std.Refl.refl w, rfl⟩⟩

instance : IsTrans World Steady where
  trans _ _ _ first second :=
    ⟨IsTrans.trans _ _ _ first.enduring second.enduring, second.phase.trans first.phase⟩

theorem EnetCall.Step.enduring {call : EnetCall} {e e' : Enet} {reply : call.Reply}
    (step : call.Step e reply e') : e'.resolve = e.resolve ∧ e.nextPeer ≤ e'.nextPeer := by
  cases call with
  | hostCreate | hostConnect =>
    rcases step with ⟨-, rfl⟩ | ⟨-, rfl⟩
    · exact ⟨rfl, le_refl _⟩
    · exact ⟨rfl, by simp [Enet.newPeer]⟩
  | addressSetHost =>
    obtain ⟨-, rfl⟩ := step
    exact ⟨rfl, le_refl _⟩
  | serviceEnd host timeout =>
    obtain rfl : e' = _ := step
    split
    · exact ⟨rfl, le_refl _⟩
    · exact ⟨rfl, le_refl _⟩
  | serviceBegin | peerDisconnect | peerReset | hostDestroy | packetDestroy | peerSend =>
    obtain rfl : e' = _ := step
    exact ⟨rfl, le_refl _⟩

theorem External.Step.steady {call : External} {w u : World} {reply : call.Reply}
    (step : call.Step w reply u) : Steady w u := by
  cases call with
  | teamspeak call =>
    obtain ⟨t, -, rfl⟩ := step
    exact ⟨⟨rfl, le_refl _, [], rfl⟩, rfl⟩
  | object call =>
    obtain rfl : u = w := step
    exact Std.Refl.refl u
  | enet call =>
    obtain ⟨e, stepped, rfl⟩ := step
    obtain ⟨resolve, peers⟩ := stepped.enduring
    exact ⟨⟨resolve, peers, [], rfl⟩, rfl⟩

def KeptByCalls (relation : World → World → Prop) : Prop :=
  ∀ (self : ThreadId) (env : Environment) (op : Op) (w : World) (reply : op.Reply) (u : World),
    (∀ call, op ≠ .thread call) → steps self env op w reply u → relation w u

theorem KeptByCalls.of_calls {relation : World → World → Prop} [Std.Refl relation]
    (store : ∀ (w : World) (update : Memory → Memory),
      relation w { w with memory := update w.memory })
    (external : ∀ (self : ThreadId) (call : External) (w v : World) (reply : call.Reply),
      call.Step w reply v → relation w (v.record self call reply)) : KeptByCalls relation := by
  intro self env op w reply u other step
  cases op with
  | load =>
    obtain ⟨-, rfl⟩ := step
    exact Std.Refl.refl u
  | sleep milliseconds =>
    obtain rfl : u = w := step
    exact Std.Refl.refl u
  | store update =>
    obtain rfl : u = _ := step
    exact store w update
  | thread call => exact absurd rfl (other call)
  | external call =>
    obtain ⟨-, v, stepped, rfl⟩ := step
    exact external self call w v reply stepped

section Steps

variable {self : ThreadId} {answers : (call : External) → World → call.Reply → Prop} {α : Type}
  {relation : World → World → Prop}

theorem updating_same {call : ThreadCall} {w u : World} {reply : call.Reply}
    (told : (Environment.updating self answers).threading call w reply u) : u = w := by
  cases call with
  | selfId => exact told.2
  | spawn | joinable | join | delete | exit => exact told

theorem Ended.keeps [Std.Refl relation] [IsTrans World relation] {id : ThreadId} {w u : World}
    (updates : Stays (steps id (.updating id answers)) relation update)
    (closes : Stays (steps id (.updating id answers)) relation close)
    (phases : ∀ w phase, relation w (World.withPhase w id phase)) (ended : Ended answers id w u) :
    relation w u := by
  unfold Ended at ended
  split at ended
  · cases ended
  · obtain ⟨v, run, rfl⟩ := ended
    exact IsTrans.trans _ _ _ (run.stays updates) (phases v _)
  · obtain ⟨v, run, rfl⟩ := ended
    exact IsTrans.trans _ _ _ (run.stays closes) (phases v _)
  · subst ended
    exact Std.Refl.refl _

variable [Std.Refl relation] [IsTrans World relation] (keeps : KeptByCalls relation)

include keeps

theorem KeptByCalls.updating (p : Plugin α) :
    Stays (steps self (.updating self answers)) relation p := by
  refine Stays.of_steps (fun op w reply u step => ?_) p
  by_cases threads : ∃ call, op = .thread call
  · obtain ⟨call, rfl⟩ := threads
    rw [updating_same step]
    exact Std.Refl.refl w
  · exact keeps _ _ op w reply u (fun call same => threads ⟨call, same⟩) step

theorem KeptByCalls.calling (phases : ∀ w id phase, relation w (World.withPhase w id phase))
    (p : Plugin α) : Stays (steps self (.calling self answers)) relation p := by
  refine Stays.of_steps (fun op w reply u step => ?_) p
  by_cases threads : ∃ call, op = .thread call
  · obtain ⟨call, rfl⟩ := threads
    cases call with
    | selfId | joinable =>
      obtain ⟨-, rfl⟩ := step
      exact Std.Refl.refl u
    | spawn =>
      obtain ⟨-, -, rfl⟩ := step
      exact phases w reply _
    | join held =>
      obtain ⟨id, -, ended⟩ := step
      exact ended.keeps (keeps.updating _) (keeps.updating _) fun w => phases w id
    | delete | exit =>
      obtain rfl : u = w := step
      exact Std.Refl.refl u
  · exact keeps _ _ op w reply u (fun call same => threads ⟨call, same⟩) step

end Steps

theorem steady_calls : KeptByCalls Steady := by
  apply KeptByCalls.of_calls
  · intro w update
    exact ⟨⟨rfl, le_refl _, [], rfl⟩, rfl⟩
  · intro self call w v reply stepped
    obtain ⟨⟨resolve, peers, entries, trace⟩, phase⟩ := stepped.steady
    exact ⟨⟨resolve, peers, ⟨self, call, reply⟩ :: entries, by simp [trace]⟩, phase⟩

section Enduring

variable {self : ThreadId} {answers : (call : External) → World → call.Reply → Prop} {α : Type}

theorem steady_updating (p : Plugin α) :
    Stays (steps self (.updating self answers)) Steady p := steady_calls.updating p

theorem enduring_calls : KeptByCalls Enduring := by
  intro self env op w reply u other step
  exact (steady_calls self env op w reply u other step).enduring

theorem enduring_calling (p : Plugin α) :
    Stays (steps self (.calling self answers)) Enduring p :=
  enduring_calls.calling (fun _ _ _ => ⟨rfl, le_refl _, [], rfl⟩) p

end Enduring

structure Attended (w : World) : Prop where
  alive : ∀ id, (w.phase id).Alive → w.memory.client.thread = some id
  born : ∀ id ∈ w.memory.client.thread, w.phase id ≠ .unborn

structure Alone (w : World) : Prop where
  thread : w.memory.client.thread = none
  ended : ∀ id, ¬ (w.phase id).Alive

def World.stopped (w : World) : World := w.setClient fun c => { c with running := false }

def World.withoutThread (w : World) : World := w.setClient fun c => { c with thread := none }

inductive Aborted (answers : (call : External) → World → call.Reply → Prop) (w : World) :
    World → Prop where
  | none (thread : w.memory.client.thread = none) : Aborted answers w w
  | finished (id : ThreadId) (thread : w.memory.client.thread = some id)
      (phase : w.phase id = .finished) : Aborted answers w w.stopped.withoutThread
  | joined (id : ThreadId) (thread : w.memory.client.thread = some id) (alive : (w.phase id).Alive)
      (u : World) (run : Exec (steps id (.updating id answers)) close w.stopped () u) :
      Aborted answers w (u.withPhase id .finished).withoutThread

section Aborting

variable {self : ThreadId} {answers : (call : External) → World → call.Reply → Prop} {w : World}

theorem calling_knows : (Environment.calling self answers).Knows self := fun _ _ _ told => told

@[simp] theorem wp_selfId {post : ThreadId → World → Prop} :
    @wp _ _ _ (steps self (.calling self answers)) ThreadId (thread .selfId) post w ↔
      post self w := by
  constructor
  · intro h
    exact h self w ⟨rfl, rfl⟩
  · rintro h _ _ ⟨rfl, rfl⟩
    exact h

@[simp] theorem wp_joinable {id : Option ThreadId} {post : Bool → World → Prop} :
    @wp _ _ _ (steps self (.calling self answers)) Bool (thread (.joinable id)) post w ↔
      post true w := by
  constructor
  · intro h
    exact h true w ⟨rfl, rfl⟩
  · rintro h _ _ ⟨rfl, rfl⟩
    exact h

@[simp] theorem wp_delete {id : Option ThreadId} {post : Unit → World → Prop} :
    @wp _ _ _ (steps self (.calling self answers)) Unit (thread (.delete id)) post w ↔
      post () w := by
  constructor
  · intro h
    exact h () w rfl
  · rintro h _ _ rfl
    exact h

@[simp] theorem wp_join {held : Option ThreadId} {post : Unit → World → Prop} :
    @wp _ _ _ (steps self (.calling self answers)) Unit (thread (.join held)) post w ↔
      ∀ id u, held = some id → Ended answers id w u → post () u := by
  constructor
  · intro h id u same ended
    exact h () u ⟨id, same, ended⟩
  · rintro h _ u ⟨id, same, ended⟩
    exact h id u same ended

@[simp] theorem wp_spawn {post : ThreadId → World → Prop} :
    @wp _ _ _ (steps self (.calling self answers)) ThreadId (thread .spawn) post w ↔
      ∀ id, id ≠ self → w.phase id = .unborn → post id (w.withPhase id .looping) := by
  constructor
  · intro h id other unborn
    exact h id _ ⟨other, unborn, rfl⟩
  · rintro h id _ ⟨other, unborn, rfl⟩
    exact h id other unborn

theorem close_of_update {id : ThreadId} {env : Environment} {u : World}
    (stopped : w.memory.client.running = false) (run : Exec (steps id env) update w () u) :
    Exec (steps id env) close w () u := by
  have ends : wp (steps id env) update (fun _ u => Exec (steps id env) close w () u) w := by
    unfold update
    rw [wp_bind]
    refine wp_repeatUntil (· = w) rfl fun v same => ?_
    subst same
    unfold updateRound
    simp only [wp_bind, wp_client, wp_ite, stopped, if_true, Program.pure_eq, wp_ret]
    exact wp_exec close v
  exact run.wp ends

theorem Ended.close {id : ThreadId} {u : World} (stopped : w.memory.client.running = false)
    (alive : (w.phase id).Alive) (ended : Ended answers id w u) :
    ∃ v, Exec (steps id (.updating id answers)) JustAnotherVoiceChat.close w () v ∧
      u = v.withPhase id .finished := by
  unfold Ended at ended
  cases phase : w.phase id with
  | unborn | finished => simp [phase, Phase.Alive] at alive
  | looping =>
    simp only [phase] at ended
    obtain ⟨v, run, same⟩ := ended
    exact ⟨v, close_of_update stopped run, same⟩
  | left =>
    simp only [phase] at ended
    exact ended

theorem wp_abortThread (attended : Attended w) (outsider : w.phase self = .unborn) :
    wp (steps self (.calling self answers)) abortThread (fun _ u => Aborted answers w u) w := by
  unfold abortThread
  simp only [wp_bind, wp_client, wp_ite, Program.pure_eq, wp_ret]
  by_cases thread : w.memory.client.thread = none
  · rw [if_pos thread]
    exact .none thread
  rw [if_neg thread]
  obtain ⟨id, thread⟩ := Option.ne_none_iff_exists'.mp thread
  have born := attended.born id thread
  have other : self ≠ id := by
    rintro rfl
    exact born outsider
  simp only [wp_selfId, thread, ne_eq, Option.some.injEq, other.symm, not_false_eq_true, if_true,
    wp_joinable, wp_setClient, World.setClient_client, wp_join, wp_delete]
  rintro _ u ⟨⟩ ended
  change Ended answers id w.stopped u at ended
  by_cases alive : (w.phase id).Alive
  · have still : (w.stopped.phase id).Alive := alive
    obtain ⟨v, run, rfl⟩ := ended.close rfl still
    exact .joined id thread alive v run
  · have phase : w.phase id = .finished := by
      cases phase : w.phase id with
      | unborn => exact absurd phase born
      | looping | left => simp [phase, Phase.Alive] at alive
      | finished => rfl
    unfold Ended at ended
    simp only [World.stopped, World.setClient_phase, phase] at ended
    subst ended
    exact .finished id thread phase

theorem Aborted.closed {id : ThreadId} {u : World} (thread : w.memory.client.thread = some id)
    (run : Exec (steps id (.updating id answers)) close w.stopped () u) :
    Closed id w.stopped u := by
  refine run.wp (wp_closing_self updating_knows ?_)
  intro other held
  exact Option.some.inj (held.symm.trans thread)

theorem Aborted.alone {u : World} (attended : Attended w) (outsider : w.phase self = .unborn)
    (aborted : Aborted answers w u) : Alone u ∧ u.phase self = .unborn := by
  cases aborted with
  | none thread =>
    refine ⟨⟨thread, fun id alive => ?_⟩, outsider⟩
    simpa [thread] using attended.alive id alive
  | finished id thread phase =>
    refine ⟨⟨rfl, fun other alive => ?_⟩, outsider⟩
    obtain rfl := Option.some.inj (thread.symm.trans (attended.alive other alive))
    simp [World.withoutThread, World.stopped, phase, Phase.Alive] at alive
  | joined id thread alive v run =>
    have steady : v.phase = w.phase := (run.stays (steady_updating _)).phase
    refine ⟨⟨rfl, fun other live => ?_⟩, ?_⟩
    · by_cases same : other = id
      · simp [World.withoutThread, same, Phase.Alive] at live
      · have still : (w.phase other).Alive := by
          simpa [World.withoutThread, Function.update_of_ne same, steady] using live
        exact same (Option.some.inj (thread.symm.trans (attended.alive other still))).symm
    · have other : self ≠ id := by
        rintro rfl
        simp [outsider, Phase.Alive] at alive
      simp [World.withoutThread, Function.update_of_ne other, steady, outsider]

theorem wp_close (attended : Attended w) (outsider : w.phase self = .unborn) :
    wp (steps self (.calling self answers)) close
      (fun _ u => ∃ v, Aborted answers w v ∧ Closed self v u) w := by
  unfold close
  rw [wp_bind]
  refine wp_mono ?_ (wp_abortThread attended outsider)
  intro _ v aborted
  rw [wp_bind]
  refine wp_closeConnection (wp_mono ?_ wp_resetTeamspeak)
  exact fun _ u restored => ⟨v, aborted, Restored.closed restored⟩

theorem wp_disconnect_other {status : UInt32} (attended : Attended w)
    (outsider : w.phase self = .unborn) (connected : w.memory.client.peer ≠ none) :
    wp (steps self (.calling self answers)) (disconnect status) (fun _ u => ∃ v,
      Aborted answers (w.record self (.enet (.peerDisconnect w.memory.client.peer status)) ()) v ∧
        Closed self v u) w := by
  have asked : Attended
      (w.record self (.enet (.peerDisconnect w.memory.client.peer status)) ()) :=
    ⟨attended.alive, attended.born⟩
  refine wp_disconnect calling_knows connected (wp_mono ?_ (wp_abortThread asked outsider))
  · intro _ v aborted
    refine ⟨aborted, fun id held => ?_⟩
    simp [(aborted.alone asked outsider).1.thread] at held

end Aborting

end JustAnotherVoiceChat
