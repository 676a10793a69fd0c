import JustAnotherVoiceChat.HandshakeReplies
import JustAnotherVoiceChat.Library.Terms
import JustAnotherVoiceChat.Lifetime
import JustAnotherVoiceChat.Scenario

set_option autoImplicit false

namespace JustAnotherVoiceChat

open Binary Interaction Relation

-- What a thread may be asked to do: an entry point, or to be an update thread.
inductive Task where
  | host (call : HostCall)
  | disconnect
  | update

def Task.program : Task → Plugin Unit
  | .host call => call.program
  | .disconnect => justAnotherVoiceChatDisconnect
  | .update => do
    JustAnotherVoiceChat.update
    thread .exit

namespace System

inductive Happening where
  | began (thread : ThreadId) (task : Task)
  | answered (entry : Entry)

abbrev History := List Happening

structure State where
  world : World
  history : History

def New (self : ThreadId) (h : History) : Prop := ∀ task, .began self task ∉ h

-- A new thread has not done anything yet. Whether a thread is joinable is left open.
def threading (self : ThreadId) (h : History) :
    (call : ThreadCall) → World → call.Reply → World → Prop
  | .selfId, w, reply, w' => reply = self ∧ w' = w
  | .spawn, w, id, w' => w.phase id = .unborn ∧ New id h ∧
    w' = w.withPhase id .looping
  | .joinable _, w, _, w' | .delete _, w, _, w' => w' = w
  | .join thread, w, _, w' => (∀ id ∈ thread, id = self ∨ w.phase id = .finished) ∧ w' = w
  | .exit, w, _, w' => w' = w.withPhase self .finished

def environment (self : ThreadId) (h : History) : Environment :=
  ⟨fun _ _ _ => True, threading self h⟩

def happens (self : ThreadId) : (op : Op) → op.Reply → History
  | .external call, reply => [.answered ⟨self, call, reply⟩]
  | _, _ => []

def runs (self : ThreadId) : Semantics Op Op.Reply State := fun op s reply t =>
  ∃ w, steps self (environment self s.history) op s.world reply w ∧
    t = ⟨w, happens self op reply ++ s.history⟩

-- A thread that the client has started runs `update()`, and any other makes a call.
def Task.Ready (task : Task) (self : ThreadId) (s : State) : Prop :=
  match task with
  | .update => s.world.phase self = .looping ∧ New self s.history
  | .host _ | .disconnect => s.world.phase self = .unborn

def begins (self : ThreadId) (program : Plugin Unit) (s t : State) : Prop :=
  ∃ task : Task, program = task.program ∧ Task.Ready task self s ∧
    t = ⟨s.world, .began self task :: s.history⟩

def beside (s t : State) : Prop := ∃ teamspeak, t = ⟨s.world.setTeamspeak teamspeak, s.history⟩

abbrev scheduling : Scheduling Op Op.Reply State ThreadId := ⟨runs, begins, beside⟩

abbrev Threads := Config Op Op.Reply State ThreadId

structure Fresh (c : Threads) : Prop where
  client : ∃ port, c.state.world.memory.client = .new port
  wrapper : c.state.world.memory.wrapper = ⟨0, .empty, .empty⟩
  history : c.state.history = []
  idle : ∀ id, c.program id = .ret ()

def Reached (c : Threads) : Prop := ∃ start, Fresh start ∧ ReflTransGen scheduling.Step start c

def State.Grows (s t : State) : Prop := s.history <:+ t.history

theorem threading_world {self : ThreadId} {h : History} {call : ThreadCall} {w w' : World}
    {reply : call.Reply} (step : threading self h call w reply w') :
    w'.memory = w.memory ∧ w'.teamspeak = w.teamspeak ∧ w'.enet = w.enet := by
  cases call with
  | selfId | join =>
    obtain ⟨-, rfl⟩ := step
    exact ⟨rfl, rfl, rfl⟩
  | spawn =>
    obtain ⟨-, -, rfl⟩ := step
    exact ⟨rfl, rfl, rfl⟩
  | joinable | delete | exit =>
    obtain rfl : w' = _ := step
    exact ⟨rfl, rfl, rfl⟩

theorem runs_memory {self : ThreadId} {op : Op} {s t : State} {reply : op.Reply}
    (step : runs self op s reply t) : t.world.memory = match op with
      | .store update => update s.world.memory
      | _ => s.world.memory := by
  obtain ⟨w, step, rfl⟩ := step
  cases op with
  | load => exact congrArg World.memory step.2
  | store update | sleep milliseconds => exact congrArg World.memory step
  | thread call => exact (threading_world step).1
  | external call =>
    obtain ⟨-, v, stepped, rfl⟩ := step
    exact stepped.frame.1

section Steps

variable {self : ThreadId} {op : Op} {s t : State} {reply : op.Reply}

theorem runs_grows (step : runs self op s reply t) : s.Grows t := by
  obtain ⟨w, -, rfl⟩ := step
  exact List.suffix_append _ _

theorem begins_grows {program : Plugin Unit} (step : begins self program s t) : s.Grows t := by
  obtain ⟨task, -, -, rfl⟩ := step
  exact List.suffix_cons _ _

theorem beside_grows (step : beside s t) : s.Grows t := by
  obtain ⟨teamspeak, rfl⟩ := step
  exact List.suffix_rfl

end Steps

def idleAt (s : State) : Threads := ⟨fun _ => .ret (), s⟩

def isNew (self : ThreadId) (h : History) : Bool := h.all fun happening => match happening with
  | .began thread _ => thread ≠ self
  | .answered _ => true

theorem new_of_isNew {self : ThreadId} {h : History} (new : isNew self h = true) : New self h := by
  intro task member
  simpa using List.all_eq_true.mp new _ member

def answerThread (self fresh : ThreadId) (h : History) :
    (call : ThreadCall) → World → Option (call.Reply × World)
  | .selfId, w => some (self, w)
  | .spawn, w => if w.phase fresh = .unborn ∧ isNew fresh h = true then
      some (fresh, w.withPhase fresh .looping) else none
  | .joinable _, w => some (true, w)
  | .join thread, w => if thread.all fun id => id = self ∨ w.phase id = .finished then
      some ((), w) else none
  | .delete _, w => some ((), w)
  | .exit, w => some ((), w.withPhase self .finished)

def answer (self fresh : ThreadId) (replies : Replies) (op : Op) (s : State) :
    Option (op.Reply × State) :=
  (answerOp self { replies with thread := answerThread self fresh s.history } op s.world).map
    fun (reply, w) => (reply, ⟨w, happens self op reply ++ s.history⟩)

theorem answer_sound {self fresh : ThreadId} {replies : Replies} (op : Op) (s : State)
    (reply : op.Reply) (t : State) (answered : answer self fresh replies op s = some (reply, t)) :
    runs self op s reply t := by
  obtain ⟨⟨_, w⟩, told, same⟩ := Option.map_eq_some_iff.mp answered
  obtain ⟨rfl, rfl⟩ := Prod.mk.inj same
  refine ⟨w, answerOp_sound ⟨fun _ _ => trivial, fun _ _ => trivial, fun _ _ => trivial, ?_⟩ op
    s.world _ w told, rfl⟩
  intro call w reply w' answered
  cases call with
  | selfId | joinable | delete | exit =>
    obtain ⟨rfl, rfl⟩ := Prod.mk.inj (Option.some.inj answered)
    first | exact ⟨rfl, rfl⟩ | rfl
  | spawn =>
    simp only [answerThread] at answered
    split at answered
    · rename_i free
      obtain ⟨rfl, rfl⟩ := Prod.mk.inj (Option.some.inj answered)
      exact ⟨free.1, new_of_isNew free.2, rfl⟩
    · cases answered
  | join thread =>
    simp only [answerThread] at answered
    split at answered
    · rename_i ended
      obtain ⟨rfl, rfl⟩ := Prod.mk.inj (Option.some.inj answered)
      refine ⟨fun id member => ?_, rfl⟩
      obtain rfl : thread = some id := member
      simpa using ended
    · cases answered

def perform (self fresh : ThreadId) (replies : Replies) (task : Task) (s : State) :
    Option (Unit × State) :=
  runWith (answer self fresh replies) 300 task.program
    ⟨s.world, .began self task :: s.history⟩

def performed (self fresh : ThreadId) (replies : Replies) (task : Task) (s : State) : State :=
  ((perform self fresh replies task s).map (·.2)).getD s

theorem perform_eq {self fresh : ThreadId} {replies : Replies} {task : Task} {s : State}
    (ends : (perform self fresh replies task s).isSome = true) :
    perform self fresh replies task s = some ((), performed self fresh replies task s) := by
  obtain ⟨⟨_, t⟩, done⟩ := Option.isSome_iff_exists.mp ends
  simp [performed, done]

theorem run_performed {beside : State → State → Prop} {self fresh : ThreadId} {replies : Replies}
    {task : Task} {s : State} (ready : Task.Ready task self s)
    (ends : (System.perform self fresh replies task s).isSome = true) :
    ReflTransGen (Scheduling.Step ⟨runs, begins, beside⟩) (idleAt s)
      (idleAt (performed self fresh replies task s)) := by
  generalize same : performed self fresh replies task s = t
  have run : Exec (runs self) task.program ⟨s.world, .began self task :: s.history⟩ () t :=
    Exec.of_runWith answer_sound (same ▸ perform_eq ends)
  have idle : Function.update (idleAt s).program self (.ret ()) = (idleAt t).program := by
    funext id
    by_cases same : id = self <;> simp [idleAt, same]
  have turns := (run.moves .ret).turns (idleAt s).program
  rw [Program.bind_ret, idle] at turns
  exact .head (.begin rfl ⟨task, rfl, ready, rfl⟩) (turns.lift id fun _ _ turn => .turn turn)

def greeted : Replies where
  teamspeak := obliging [1, 0] .empty
  enet
    | .serviceEnd _ 100, w =>
      if w.trace.all (·.message.isNone) then ⟨1, .receive networkHandshakeChannel okPayload⟩
      else ⟨-1, .none⟩
    | call, w => connecting 1 call w
  thread := lone 0

def unloaded : State :=
  ⟨{ World.idle with memory := ⟨.new 0, ⟨0, .empty, .empty⟩, ⟨.null, .null⟩⟩ }, []⟩

def started : State := performed 0 5 greeted (.host (.init true 0)) unloaded

def hosted : State := performed 0 5 greeted (.host (.connect .empty 1 1)) started

def left : State := performed 5 6 greeted .update hosted

theorem reached_unloaded : Reached (idleAt unloaded) :=
  ⟨_, ⟨⟨0, rfl⟩, rfl, rfl, fun _ => rfl⟩, .refl⟩

theorem run_left {beside : State → State → Prop} :
    ReflTransGen (Scheduling.Step ⟨runs, begins, beside⟩) (idleAt unloaded) (idleAt left) := by
  have starting : ReflTransGen (Scheduling.Step ⟨runs, begins, beside⟩) (idleAt unloaded)
      (idleAt started) := run_performed rfl (by decide)
  have hosting : ReflTransGen (Scheduling.Step ⟨runs, begins, beside⟩) (idleAt started)
      (idleAt hosted) := run_performed rfl (by decide)
  have leaving : ReflTransGen (Scheduling.Step ⟨runs, begins, beside⟩) (idleAt hosted)
      (idleAt left) := run_performed ⟨rfl, new_of_isNew (by decide)⟩ (by decide)
  exact starting.trans (hosting.trans leaving)

theorem reached_left : Reached (idleAt left) := by
  obtain ⟨start, fresh, before⟩ := reached_unloaded
  exact ⟨start, fresh, before.trans run_left⟩

end System

end JustAnotherVoiceChat
