import JustAnotherVoiceChat.HttpServer
import JustAnotherVoiceChat.Library.Ending
import JustAnotherVoiceChat.Library.Trace

set_option autoImplicit false

namespace JustAnotherVoiceChat

open Binary Interaction Relation

variable {ι : Type} [DecidableEq ι]

structure Progress where
  entered : Bool
  left : Option Bool
  locked : Bool
  refused : Bool
  notIngame : Bool
  connecting : Bool
  responses : Nat
deriving DecidableEq

def Progress.initial : Progress := ⟨false, none, false, false, false, false, 0⟩

def Progress.after (p : Progress) : (op : HttpOp) → op.Reply → Progress
  | .enter, _ => { p with entered := true }
  | .leave thrown, _ => { p with left := some thrown }
  | .tryLock, locked => { p with locked := p.locked || locked, refused := p.refused || !locked }
  | .unlock, _ => { p with locked := false }
  | .isIngame, ingame => { p with notIngame := p.notIngame || !ingame }
  | .connect _ _ _, _ => { p with connecting := true }
  | .connected, _ => { p with connecting := false }
  | .queueResponse _ _, _ => { p with responses := p.responses + 1 }
  | _, _ => p

def progress (i : ι) : List (HttpEntry ι) → Progress
  | [] => .initial
  | ⟨request, op, reply⟩ :: older =>
    if request = i then (progress i older).after op reply else progress i older

@[simp] theorem progress_own (i : ι) (op : HttpOp) (reply : op.Reply) (older : List (HttpEntry ι)) :
    progress i (⟨i, op, reply⟩ :: older) = (progress i older).after op reply := by
  simp [progress]

theorem progress_other {i j : ι} (other : i ≠ j) (op : HttpOp) (reply : op.Reply)
    (older : List (HttpEntry ι)) : progress j (⟨i, op, reply⟩ :: older) = progress j older := by
  simp [progress, other]

-- The conversions that `handleRequest` would make of these arguments throw.
def Arguments.Throw (arguments : Arguments) : Prop :=
  ∃ host port uid, arguments.host = some host ∧ arguments.port = some port ∧
    arguments.uid = some uid ∧ ((stoi port).isOk = false ∨ (stoi uid).isOk = false)

def Progress.Active (p : Progress) : Prop := p.entered = true ∧ p.left = none

def EntryOk (arguments : ι → Arguments) (i : ι) (older : List (HttpEntry ι)) :
    (op : HttpOp) → op.Reply → Prop
  | .tryLock, locked => locked = false →
    ∃ j, i ≠ j ∧ (progress j older).entered = true ∧ (progress j older).left ≠ some false
  | .unlock, _ => (progress i older).locked = true
  | .connect _ _ _, _ => ∀ j, (progress j older).connecting = false
  | .queueResponse _ response, _ =>
    response.page = alreadyConnecting → (progress i older).refused = true
  | .leave false, _ => (progress i older).locked = false ∧ (progress i older).responses = 1
  | .leave true, _ => (progress i older).notIngame = true ∧ (arguments i).Throw
  | _, _ => True

def Lawful (arguments : ι → Arguments) : List (HttpEntry ι) → Prop :=
  Trace.Lawful fun older entry => EntryOk arguments entry.request older entry.op entry.reply

structure Point where
  calls : Nat
  progress : Progress

def Point.after (p : Point) (op : HttpOp) (reply : op.Reply) : Point :=
  ⟨p.calls + 1, p.progress.after op reply⟩

def calls (i : ι) (trace : List (HttpEntry ι)) : Nat := trace.countP (·.request = i)

def point (i : ι) (trace : List (HttpEntry ι)) : Point := ⟨calls i trace, progress i trace⟩

structure Timely (p : Point) : Prop where
  calls : p.calls ≤ 13
  holding : p.progress.locked = true → p.progress.left = none → p.calls ≤ 8

structure MutexInv (arguments : ι → Arguments) (w : HttpWorld ι) : Prop where
  holder : ∀ i, (progress i w.trace).locked = true ↔ w.holder = some i
  connecting : ∀ i, (progress i w.trace).connecting = true → (progress i w.trace).locked = true
  inside : ∀ i, (progress i w.trace).locked = true →
    (progress i w.trace).entered = true ∧ (progress i w.trace).left ≠ some false
  once : ∀ i, (progress i w.trace).responses ≤ 1
  timely : ∀ i, Timely (point i w.trace)
  lawful : Lawful arguments w.trace

def Allowed (arguments : Arguments) (p : Progress) : (op : HttpOp) → op.Reply → Prop
  | .tryLock, _ => p.locked = false ∧ p.entered = true ∧ p.left ≠ some false
  | .unlock, _ => p.locked = true ∧ p.connecting = false
  | .connect _ _ _, _ => p.locked = true ∧ p.connecting = false
  | .queueResponse _ response, _ =>
    p.responses = 0 ∧ (response.page = alreadyConnecting → p.refused = true)
  | .leave false, _ => p.locked = false ∧ p.responses = 1
  | .leave true, _ => p.notIngame = true ∧ arguments.Throw
  | _, _ => True

def Possible (arguments : Arguments) : (op : HttpOp) → op.Reply → Prop
  | .lookup argument, value => value = arguments.get argument
  | .createResponse page, response => response = ⟨page⟩
  | _, _ => True

def isCall : HttpOp → Bool
  | .connect _ _ _ => true
  | _ => false

def isReturn : HttpOp → Bool
  | .connected => true
  | _ => false

-- From the point on, the handler does what it may do, in time, whatever it is told; and right after
-- each call of the client comes its return.
def Keeps (arguments : Arguments) :
    {α : Type} → Handler α → (α → Point → Prop) → Point → Prop
  | _, .ret value, post, p => post value p
  | _, .call op next, post, p => isReturn op = p.progress.connecting ∧
    ∀ reply, Possible arguments op reply → Allowed arguments p.progress op reply ∧
      Timely (p.after op reply) ∧ Keeps arguments (next reply) post (p.after op reply)
  | _, .iterate _ _, _, _ => False

def requestContract (arguments : ι → Arguments) (i : ι) : Contract (HttpWorld ι) where
  inv := MutexInv arguments
  rely s t := point i t.trace = point i s.trace
  guar s t := ∀ j, i ≠ j → point j t.trace = point j s.trace

theorem at_stable (arguments : ι → Arguments) (i : ι) (p : Point) :
    (requestContract arguments i).Stable fun w => point i w.trace = p :=
  fun _ _ at_p _ _ same => Eq.trans same at_p

omit [DecidableEq ι] in
theorem requestSteps_possible {arguments : Arguments} {i : ι} {op : HttpOp} {w w' : HttpWorld ι}
    {reply : op.Reply} (step : requestSteps arguments i op w reply w') :
    Possible arguments op reply ∧ w'.trace = ⟨i, op, reply⟩ :: w.trace := by
  cases op <;> simp_all [requestSteps, Possible, HttpWorld.record]

omit [DecidableEq ι] in
theorem requestSteps_holder {arguments : Arguments} {i : ι} {op : HttpOp} {w w' : HttpWorld ι}
    {reply : op.Reply} (step : requestSteps arguments i op w reply w')
    (lock : op ≠ .tryLock) (unlock : op ≠ .unlock) : w'.holder = w.holder := by
  cases op <;> simp_all [requestSteps, HttpWorld.record]

theorem after_locked (p : Progress) {op : HttpOp} (reply : op.Reply) (lock : op ≠ .tryLock)
    (unlock : op ≠ .unlock) : (p.after op reply).locked = p.locked := by
  cases op <;> first | rfl | contradiction

theorem point_own (i : ι) (op : HttpOp) (reply : op.Reply) (older : List (HttpEntry ι)) :
    point i (⟨i, op, reply⟩ :: older) = (point i older).after op reply := by
  simp [point, calls, Point.after]

theorem point_other {i j : ι} (other : i ≠ j) (op : HttpOp) (reply : op.Reply)
    (older : List (HttpEntry ι)) : point j (⟨i, op, reply⟩ :: older) = point j older := by
  simp [point, calls, progress_other other, other]

theorem point_after {arguments : Arguments} {i : ι} {op : HttpOp} {w w' : HttpWorld ι}
    {reply : op.Reply} (step : requestSteps arguments i op w reply w') (j : ι) :
    point j w'.trace = if i = j then (point i w.trace).after op reply else point j w.trace := by
  rw [(requestSteps_possible step).2]
  by_cases same : i = j
  · subst same
    rw [point_own, if_pos rfl]
  · rw [point_other same, if_neg same]

theorem progress_after {arguments : Arguments} {i : ι} {op : HttpOp} {w w' : HttpWorld ι}
    {reply : op.Reply} (step : requestSteps arguments i op w reply w') (j : ι) :
    progress j w'.trace =
      if i = j then (progress i w.trace).after op reply else progress j w.trace := by
  have after := congrArg Point.progress (point_after step j)
  split <;> simp_all [point, Point.after]

theorem holder_step {arguments : ι → Arguments} {i : ι} {op : HttpOp} {w w' : HttpWorld ι}
    {reply : op.Reply} (inv : MutexInv arguments w)
    (step : requestSteps (arguments i) i op w reply w')
    (allowed : Allowed (arguments i) (progress i w.trace) op reply) (j : ι) :
    (progress j w'.trace).locked = true ↔ w'.holder = some j := by
  have before := inv.holder
  rw [progress_after step]
  by_cases lock : op = .tryLock
  · subst lock
    obtain ⟨free, rfl⟩ := step
    have mine : w.holder ≠ some i := by simpa [allowed.1] using (before i).not.mp
    by_cases same : i = j
    · subst same
      cases held : w.holder <;> simp_all [Progress.after, HttpWorld.record]
    · cases held : w.holder <;> simp_all [HttpWorld.record]
  by_cases unlock : op = .unlock
  · subst unlock
    obtain rfl : w' = _ := step
    have mine := (before i).mp allowed.1
    by_cases same : i = j <;> simp_all [Progress.after, HttpWorld.record]
  rw [requestSteps_holder step lock unlock, ← before j]
  by_cases same : i = j
  · subst same
    rw [if_pos rfl, after_locked _ _ lock unlock]
  · rw [if_neg same]

theorem entry_step {arguments : ι → Arguments} {i : ι} {op : HttpOp} {w w' : HttpWorld ι}
    {reply : op.Reply} (inv : MutexInv arguments w)
    (step : requestSteps (arguments i) i op w reply w')
    (allowed : Allowed (arguments i) (progress i w.trace) op reply) :
    EntryOk arguments i w.trace op reply := by
  cases op with
  | tryLock =>
    rintro rfl
    obtain ⟨held, -⟩ := step
    obtain ⟨j, holds⟩ : ∃ j, w.holder = some j := Option.isSome_iff_exists.mp (by simpa using held)
    have locked := (inv.holder j).mpr holds
    have other : i ≠ j := by
      rintro rfl
      simp [allowed.1] at locked
    exact ⟨j, other, inv.inside j locked⟩
  | unlock => exact allowed.1
  | connect host port identifier =>
    intro j
    by_contra connecting
    have locked := inv.connecting j (by simpa using connecting)
    have mine := (inv.holder i).mp allowed.1
    have same : i = j := Option.some.inj (mine.symm.trans ((inv.holder j).mp locked))
    subst same
    exact connecting allowed.2
  | queueResponse statusCode response => exact allowed.2
  | leave thrown => cases thrown <;> exact allowed
  | enter | isIngame | lookup | connected | createResponse | destroyResponse => trivial

theorem mutexInv_step {arguments : ι → Arguments} {i : ι} {op : HttpOp} {w w' : HttpWorld ι}
    {reply : op.Reply} (inv : MutexInv arguments w)
    (step : requestSteps (arguments i) i op w reply w')
    (allowed : Allowed (arguments i) (progress i w.trace) op reply)
    (timely : Timely ((point i w.trace).after op reply)) : MutexInv arguments w' where
  holder := holder_step inv step allowed
  connecting j := by
    have before := inv.connecting j
    rw [progress_after step]
    by_cases same : i = j
    · subst same
      cases op <;> simp_all [Progress.after, Allowed]
    · simpa [same] using before
  inside j := by
    have before := inv.inside j
    rw [progress_after step]
    by_cases same : i = j
    · subst same
      cases op with
      | leave thrown => cases thrown <;> simp_all [Progress.after, Allowed]
      | _ => simp_all [Progress.after, Allowed]
    · simpa [same] using before
  once j := by
    have before := inv.once j
    rw [progress_after step]
    by_cases same : i = j
    · subst same
      cases op <;> simp_all [Progress.after, Allowed]
    · simpa [same] using before
  timely j := by
    rw [point_after step]
    split
    · exact timely
    · exact inv.timely j
  lawful := by
    rw [(requestSteps_possible step).2]
    exact ⟨entry_step inv step allowed, inv.lawful⟩

section Requests

variable {arguments : Arguments} {α β : Type} {post : α → Point → Prop} {p : Point}

theorem Keeps.bind {program : Handler α} {f : α → Handler β} {after : β → Point → Prop}
    (first : Keeps arguments program post p)
    (rest : ∀ value q, post value q → Keeps arguments (f value) after q) :
    Keeps arguments (program >>= f) after p := by
  induction program generalizing p with
  | ret value => exact rest value p first
  | call op next ih =>
    refine ⟨first.1, fun reply possible => ?_⟩
    obtain ⟨allowed, timely, later⟩ := first.2 reply possible
    exact ⟨allowed, timely, ih reply later rest⟩
  | iterate => cases first

structure Answered (arguments : Arguments) (result : Except StoiError Int) (p : Point) : Prop where
  idle : p.progress.connecting = false
  early : p.calls ≤ 12
  done : match result with
    | .ok _ => p.progress.locked = false ∧ p.progress.responses = 1
    | .error _ => p.progress.notIngame = true ∧ arguments.Throw

structure Unanswered (p : Point) : Prop where
  idle : p.progress.connecting = false
  none_yet : p.progress.responses = 0
  unlocked : p.progress.locked = false
  early : p.calls ≤ 9

structure Locked (p : Point) : Prop where
  idle : p.progress.connecting = false
  none_yet : p.progress.responses = 0
  locked : p.progress.locked = true
  early : p.calls ≤ 8

omit [DecidableEq ι] in
theorem timely_early (early : p.calls ≤ 8) : Timely p := ⟨by omega, fun _ _ => early⟩

theorem timely_unlocked (few : p.calls ≤ 13) (unlocked : p.progress.locked = false) : Timely p := by
  refine ⟨few, fun locked => ?_⟩
  rw [unlocked] at locked
  cases locked

theorem keeps_answer {page : String} {statusCode : StatusCode} (unanswered : Unanswered p)
    (refused : page = alreadyConnecting → p.progress.refused = true) :
    Keeps arguments (sendResponse page statusCode >>= fun result => .ret (.ok result))
      (Answered arguments) p := by
  obtain ⟨idle, none_yet, unlocked, early⟩ := unanswered
  have few (more : Nat) (within : more ≤ 4) : p.calls + more ≤ 13 := by omega
  refine ⟨idle.symm, fun response same =>
    ⟨trivial, timely_unlocked (few 1 (by decide)) unlocked, ?_⟩⟩
  obtain rfl : response = ⟨page⟩ := same
  refine ⟨idle.symm, fun result _ =>
    ⟨⟨none_yet, refused⟩, timely_unlocked (few 2 (by decide)) unlocked, ?_⟩⟩
  refine ⟨idle.symm, fun _ _ => ⟨trivial, timely_unlocked (few 3 (by decide)) unlocked, ?_⟩⟩
  have responses : p.progress.responses + 1 = 1 := by rw [none_yet]
  have before : p.calls + 3 ≤ 12 := by omega
  exact ⟨idle, before, unlocked, responses⟩

theorem keeps_release {page : String} {statusCode : StatusCode} (held : Locked p)
    (other : page ≠ alreadyConnecting) : Keeps arguments
      (.call .unlock fun _ => sendResponse page statusCode >>= fun result => .ret (.ok result))
      (Answered arguments) p := by
  obtain ⟨idle, none_yet, locked, early⟩ := held
  have later : p.calls + 1 ≤ 9 := by omega
  have unlocked : Unanswered (p.after .unlock ()) := ⟨idle, none_yet, rfl, later⟩
  refine ⟨idle.symm, fun _ _ => ⟨⟨locked, idle⟩, timely_unlocked ?_ rfl, ?_⟩⟩
  · exact Nat.le_trans later (by decide)
  · exact keeps_answer unlocked fun same => absurd same other

theorem keeps_connect {host port uid : CString} (held : Locked p) (early : p.calls ≤ 6)
    (asked : p.progress.notIngame = true)
    (given : arguments = ⟨some host, some port, some uid⟩) : Keeps arguments
      (match stoi port, stoi uid with
      | .ok portValue, .ok identifierValue =>
        .call (.connect host (toUInt16 portValue) (toUInt16 identifierValue)) fun _ =>
          .call .connected fun (connected : Bool) =>
            if !connected then
              .call .unlock fun _ => sendResponse unableToConnect .badRequest >>= fun result =>
                .ret (.ok result)
            else
              .call .unlock fun _ =>
                sendResponse "<html><body>OK</body></html>" .ok >>= fun result =>
                .ret (.ok result)
      | .error thrown, _ => .ret (.error thrown)
      | .ok _, .error thrown => .ret (.error thrown) : Handler (Except StoiError Int))
      (Answered arguments) p := by
  obtain ⟨idle, none_yet, locked, -⟩ := held
  have thrown (error : StoiError) (bad : (stoi port).isOk = false ∨ (stoi uid).isOk = false) :
      Answered arguments (.error error) p :=
    ⟨idle, by omega, asked, host, port, uid, by rw [given], by rw [given], by rw [given], bad⟩
  cases parsedPort : stoi port with
  | error error => exact thrown error (.inl (by rw [parsedPort]; rfl))
  | ok portValue =>
    cases parsedUid : stoi uid with
    | error error => exact thrown error (.inr (by rw [parsedUid]; rfl))
    | ok identifierValue =>
      have called : p.calls + 1 ≤ 8 := by omega
      have returned : p.calls + 2 ≤ 8 := by omega
      refine ⟨idle.symm, fun _ _ => ⟨⟨locked, idle⟩, timely_early called, ?_⟩⟩
      refine ⟨rfl, fun connected _ => ⟨trivial, timely_early returned, ?_⟩⟩
      cases connected with
      | false => exact keeps_release ⟨rfl, none_yet, locked, returned⟩ (by decide)
      | true => exact keeps_release ⟨rfl, none_yet, locked, returned⟩ (by decide)

theorem keeps_handleRequest : Keeps arguments handleRequest (Answered arguments)
    ⟨1, Progress.initial.after .enter ()⟩ := by
  refine ⟨rfl, fun locked _ => ⟨⟨rfl, rfl, nofun⟩, timely_early (show 2 ≤ 8 by decide), ?_⟩⟩
  cases locked with
  | false => exact keeps_answer ⟨rfl, rfl, rfl, show 2 ≤ 9 by decide⟩ fun _ => rfl
  | true =>
    refine ⟨rfl, fun ingame _ => ⟨trivial, timely_early (show 3 ≤ 8 by decide), ?_⟩⟩
    cases ingame with
    | true => exact keeps_release ⟨rfl, rfl, rfl, show 3 ≤ 8 by decide⟩ (by decide)
    | false =>
      refine ⟨rfl, fun host hostGiven => ⟨trivial, timely_early (show 4 ≤ 8 by decide), ?_⟩⟩
      refine ⟨rfl, fun port portGiven => ⟨trivial, timely_early (show 5 ≤ 8 by decide), ?_⟩⟩
      refine ⟨rfl, fun uid uidGiven => ⟨trivial, timely_early (show 6 ≤ 8 by decide), ?_⟩⟩
      have early : 6 ≤ 8 := by decide
      cases host with
      | none => exact keeps_release ⟨rfl, rfl, rfl, early⟩ (by decide)
      | some host =>
        cases port with
        | none => exact keeps_release ⟨rfl, rfl, rfl, early⟩ (by decide)
        | some port =>
          cases uid with
          | none => exact keeps_release ⟨rfl, rfl, rfl, early⟩ (by decide)
          | some uid =>
            refine keeps_connect ⟨rfl, rfl, rfl, early⟩ (Nat.le_refl 6) rfl ?_
            exact congr (congr (congrArg Arguments.mk hostGiven.symm) portGiven.symm) uidGiven.symm

abbrev Keeping (arguments : Arguments) (program : Handler Unit) (p : Point) : Prop :=
  Keeps arguments program (fun _ q => q.progress.connecting = false) p

theorem keeping_serve : Keeping arguments serve ⟨0, .initial⟩ := by
  refine ⟨rfl, fun _ _ => ⟨trivial, timely_early (show 1 ≤ 8 by decide), ?_⟩⟩
  change Keeps arguments (handleRequest >>= fun result => match result with
    | .ok _ => perform (.leave false)
    | .error _ => perform (.leave true)) _ _
  apply keeps_handleRequest.bind
  rintro result q ⟨idle, early, done⟩
  have few : q.calls + 1 ≤ 13 := by omega
  cases result with
  | ok value => exact ⟨idle.symm, fun _ _ => ⟨done, timely_unlocked few done.1, idle⟩⟩
  | error thrown => exact ⟨idle.symm, fun _ _ => ⟨done, ⟨few, fun _ => nofun⟩, idle⟩⟩

theorem Keeps.safe {arguments : ι → Arguments} {i : ι} {program : Handler α}
    (keeps : Keeps (arguments i) program post p) {w : HttpWorld ι} (inv : MutexInv arguments w)
    (at_p : point i w.trace = p) :
    Safe (requestSteps (arguments i) i) (requestContract arguments i) program
      (fun _ _ => True) w := by
  induction program generalizing p w with
  | ret value => exact Safe.ret (at_stable arguments i p) inv at_p fun _ _ _ => trivial
  | call op next ih =>
    refine Safe.call (at_stable arguments i p) inv at_p fun t inv' at_p' reply u step => ?_
    obtain ⟨allowed, timely, rest⟩ := keeps.2 reply (requestSteps_possible step).1
    have progressed : progress i t.trace = p.progress := congrArg Point.progress at_p'
    have kept : MutexInv arguments u :=
      mutexInv_step inv' step (by rw [progressed]; exact allowed) (by rw [at_p']; exact timely)
    refine ⟨fun j other => ?_, kept, ih reply rest kept ?_⟩
    · rw [point_after step, if_neg other]
    · rw [point_after step, if_pos rfl, at_p']
  | iterate => cases keeps

theorem Keeps.move {i : ι} {program rest : Handler α} {w w' : HttpWorld ι}
    (keeps : Keeps arguments program post (point i w.trace))
    (move : Move (requestSteps arguments i) program w rest w') :
    Keeps arguments rest post (point i w'.trace) := by
  cases move with
  | call step =>
    obtain ⟨possible, trace⟩ := requestSteps_possible step
    rw [trace, point_own]
    exact (keeps.2 _ possible).2.2
  | unfold => cases keeps

theorem move_other {i j : ι} {program rest : Handler α} {w w' : HttpWorld ι}
    (move : Move (requestSteps arguments i) program w rest w') (other : i ≠ j) :
    point j w'.trace = point j w.trace := by
  cases move with
  | call step => rw [point_after step, if_neg other]
  | unfold => rfl

end Requests

def Requests.initial (ι : Type) : Config HttpOp HttpOp.Reply (HttpWorld ι) ι :=
  ⟨fun _ => serve, .initial ι⟩

def Requests.Reachable (arguments : ι → Arguments)
    (c : Config HttpOp HttpOp.Reply (HttpWorld ι) ι) :
    Prop :=
  ReflTransGen (Turn fun i => requestSteps (arguments i) i) (Requests.initial ι) c

theorem mutexInv_initial (arguments : ι → Arguments) : MutexInv arguments (.initial ι) where
  holder _ := by simp [HttpWorld.initial, progress, Progress.initial]
  connecting _ := by simp [HttpWorld.initial, progress, Progress.initial]
  inside _ := by simp [HttpWorld.initial, progress, Progress.initial]
  once _ := Nat.zero_le 1
  timely _ := timely_early (Nat.zero_le 8)
  lawful := trivial

theorem mutexInv_reachable {arguments : ι → Arguments}
    {c : Config HttpOp HttpOp.Reply (HttpWorld ι) ι} (run : Requests.Reachable arguments c) :
    MutexInv arguments c.state := by
  have start (i : ι) : Safe (requestSteps (arguments i) i) (requestContract arguments i) serve
      (fun _ _ => True) (HttpWorld.initial ι) := keeping_serve.safe (mutexInv_initial arguments) rfl
  exact (Safe.parallel (fun _ _ _ _ _ => rfl) (fun i j s t other _ _ guar => guar j other)
    (mutexInv_initial arguments) start run).1

-- No request that found the client not in-game has arguments that `std::stoi` rejects.
def Converts (arguments : ι → Arguments) (trace : List (HttpEntry ι)) : Prop :=
  ∀ i, ⟨i, .isIngame, false⟩ ∈ trace → ¬ (arguments i).Throw

theorem notIngame_mem {i : ι} {trace : List (HttpEntry ι)}
    (asked : (progress i trace).notIngame = true) : ⟨i, .isIngame, false⟩ ∈ trace := by
  induction trace with
  | nil => cases asked
  | cons entry older ih =>
    obtain ⟨request, op, reply⟩ := entry
    by_cases same : request = i
    · subst same
      rw [progress_own] at asked
      cases op with
      | isIngame =>
        cases reply with
        | false => exact List.mem_cons_self
        | true => exact List.mem_cons_of_mem _ (ih (by simpa [Progress.after] using asked))
      | _ => exact List.mem_cons_of_mem _ (ih asked)
    · rw [progress_other same] at asked
      exact List.mem_cons_of_mem _ (ih asked)

theorem not_thrown {arguments : ι → Arguments} {trace : List (HttpEntry ι)}
    (lawful : Lawful arguments trace) (converts : Converts arguments trace) (i : ι) :
    (progress i trace).left ≠ some true := by
  induction trace with
  | nil => exact nofun
  | cons entry older ih =>
    obtain ⟨request, op, reply⟩ := entry
    have before := ih lawful.2 fun j member => converts j (List.mem_cons_of_mem _ member)
    by_cases same : request = i
    · subst same
      rw [progress_own]
      cases op with
      | leave thrown =>
        cases thrown with
        | false => exact nofun
        | true =>
          obtain ⟨asked, throws⟩ : (progress request older).notIngame = true ∧ _ := lawful.1
          exact absurd throws (converts request (List.mem_cons_of_mem _ (notIngame_mem asked)))
      | _ => exact before
    · rw [progress_other same]
      exact before

theorem answered_of_left {arguments : ι → Arguments} {trace : List (HttpEntry ι)}
    (lawful : Lawful arguments trace) (i : ι) (left : (progress i trace).left = some false) :
    1 ≤ (progress i trace).responses := by
  induction trace with
  | nil => cases left
  | cons entry older ih =>
    obtain ⟨request, op, reply⟩ := entry
    by_cases same : request = i
    · subst same
      rw [progress_own] at left ⊢
      cases op with
      | leave thrown =>
        cases thrown with
        | true => cases left
        | false =>
          obtain ⟨-, one⟩ : _ ∧ (progress request older).responses = 1 := lawful.1
          exact one.ge
      | queueResponse statusCode response => exact Nat.le_add_left 1 _
      | _ => exact ih lawful.2 left
    · rw [progress_other same] at left ⊢
      exact ih lawful.2 left

theorem refused_split {i : ι} {trace : List (HttpEntry ι)}
    (refused : (progress i trace).refused = true) :
    ∃ newer older, trace = newer ++ ⟨i, .tryLock, false⟩ :: older := by
  induction trace with
  | nil => cases refused
  | cons entry rest ih =>
    have later (before : (progress i rest).refused = true) :
        ∃ newer older, entry :: rest = newer ++ ⟨i, .tryLock, false⟩ :: older := by
      obtain ⟨newer, older, split⟩ := ih before
      exact ⟨entry :: newer, older, by rw [split]; rfl⟩
    obtain ⟨request, op, reply⟩ := entry
    by_cases same : request = i
    · subst same
      rw [progress_own] at refused
      cases op with
      | tryLock =>
        cases reply with
        | false => exact ⟨[], rest, rfl⟩
        | true => exact later (by simpa [Progress.after] using refused)
      | _ => exact later refused
    · rw [progress_other same] at refused
      exact later refused

structure MutexLaw (trace : List (HttpEntry ι)) : Prop where
  one_inside : ∀ i j, (progress i trace).locked = true → (progress j trace).locked = true → i = j
  one_connecting : ∀ i j, (progress i trace).connecting = true →
    (progress j trace).connecting = true → i = j
  own_unlock : ∀ i newer older, trace = newer ++ ⟨i, .unlock, ()⟩ :: older →
    (progress i older).locked = true
  left_unlocked : ∀ i, (progress i trace).left ≠ none → (progress i trace).locked = false
  -- who is told that another request is connecting found one inside when it asked for the lock
  overlapped : ∀ i statusCode result newer older,
    trace = newer ++ ⟨i, .queueResponse statusCode ⟨alreadyConnecting⟩, result⟩ :: older →
    ∃ between before, older = between ++ ⟨i, .tryLock, false⟩ :: before ∧
      ∃ j, i ≠ j ∧ (progress j before).Active
  one_response : ∀ i, (progress i trace).responses ≤ 1 ∧
    ((progress i trace).left ≠ none → (progress i trace).responses = 1)

theorem active_of_refused {arguments : ι → Arguments} {trace newer older : List (HttpEntry ι)}
    (lawful : Lawful arguments trace) (converts : Converts arguments trace) {i : ι}
    (split : trace = newer ++ ⟨i, .tryLock, false⟩ :: older) :
    ∃ j, i ≠ j ∧ (progress j older).Active := by
  subst split
  obtain ⟨entry, lawful'⟩ := Trace.lawful_split lawful
  obtain ⟨j, other, entered, inside⟩ := entry rfl
  have kept := not_thrown lawful' (fun k member => converts k (by simp [member])) j
  refine ⟨j, other, entered, ?_⟩
  cases left : (progress j older).left with
  | none => rfl
  | some thrown => cases thrown <;> simp_all

/-- However the requests interleave, as long as no conversion throws, one of them at a time holds the
lock, and whoever leaves has given it back and queued one response. -/
theorem handleRequest_exclusive (arguments : ι → Arguments)
    (c : Config HttpOp HttpOp.Reply (HttpWorld ι) ι) (run : Requests.Reachable arguments c)
    (converts : Converts arguments c.state.trace) : MutexLaw c.state.trace := by
  have inv := mutexInv_reachable run
  have left_false (i : ι) (left : (progress i c.state.trace).left ≠ none) :
      (progress i c.state.trace).left = some false := by
    have thrown := not_thrown inv.lawful converts i
    cases value : (progress i c.state.trace).left with
    | none => contradiction
    | some thrown => cases thrown <;> simp_all
  have one_inside (i j : ι) (first : (progress i c.state.trace).locked = true)
      (second : (progress j c.state.trace).locked = true) : i = j :=
    Option.some.inj (((inv.holder i).mp first).symm.trans ((inv.holder j).mp second))
  refine ⟨one_inside, ?_, ?_, ?_, ?_, ?_⟩
  · intro i j first second
    exact one_inside i j (inv.connecting i first) (inv.connecting j second)
  · intro i newer older split
    exact (Trace.lawful_split (split ▸ inv.lawful)).1
  · intro i left
    by_contra locked
    exact (inv.inside i (by simpa using locked)).2 (left_false i left)
  · intro i statusCode result newer older split
    obtain ⟨entry, lawful⟩ := Trace.lawful_split (split ▸ inv.lawful)
    obtain ⟨between, before, split'⟩ := refused_split (entry rfl)
    refine ⟨between, before, split', active_of_refused lawful ?_ split'⟩
    intro j member
    exact converts j (by simp [split, member])
  · intro i
    refine ⟨inv.once i, fun left => ?_⟩
    exact le_antisymm (inv.once i) (answered_of_left inv.lawful i (left_false i left))

def answerRequest {κ : Type} (arguments : Arguments) (self : κ) (op : HttpOp) (w : HttpWorld κ) :
    Option (op.Reply × HttpWorld κ) :=
  match op with
  | .tryLock => some (w.holder.isNone,
      { w with holder := if w.holder.isNone then some self else w.holder }.record self .tryLock
        w.holder.isNone)
  | .unlock => some ((), { w with holder := none }.record self .unlock ())
  | .lookup argument =>
    some (arguments.get argument, w.record self (.lookup argument) (arguments.get argument))
  | .createResponse page => some (⟨page⟩, w.record self (.createResponse page) ⟨page⟩)
  | .isIngame => some (false, w.record self .isIngame false)
  | .connected => some (true, w.record self .connected true)
  | .queueResponse statusCode response =>
    some (1, w.record self (.queueResponse statusCode response) 1)
  | .connect host port uid => some ((), w.record self (.connect host port uid) ())
  | .destroyResponse response => some ((), w.record self (.destroyResponse response) ())
  | .enter => some ((), w.record self .enter ())
  | .leave thrown => some ((), w.record self (.leave thrown) ())

theorem answerRequest_sound {κ : Type} (arguments : Arguments) (self : κ) (op : HttpOp)
    (w : HttpWorld κ) (reply : op.Reply) (w' : HttpWorld κ)
    (answered : answerRequest arguments self op w = some (reply, w')) :
    requestSteps arguments self op w reply w' := by
  cases op <;> cases answered <;> simp [requestSteps]

def serveFrom (arguments : Bool → Arguments) (i : Bool) (w : HttpWorld Bool) : HttpWorld Bool :=
  ((runWith (answerRequest (arguments i) i) 20 serve w).map (·.2)).getD w

def servedInTurn (arguments : Bool → Arguments) : HttpWorld Bool :=
  serveFrom arguments true (serveFrom arguments false (.initial Bool))

theorem servedInTurn_reachable (arguments : Bool → Arguments)
    (first : (runWith (answerRequest (arguments false) false) 20 serve
    (.initial Bool)).isSome = true)
    (second : (runWith (answerRequest (arguments true) true) 20 serve
      (serveFrom arguments false (.initial Bool))).isSome = true) :
    ∃ c, Requests.Reachable arguments c ∧ c.state = servedInTurn arguments := by
  obtain ⟨⟨_, w⟩, run⟩ := Option.isSome_iff_exists.mp first
  have mid : serveFrom arguments false (.initial Bool) = w := by simp [serveFrom, run]
  rw [mid] at second
  obtain ⟨⟨_, v⟩, run'⟩ := Option.isSome_iff_exists.mp second
  have last : servedInTurn arguments = v := by
    rw [servedInTurn, mid]
    simp [serveFrom, run']
  have alone {i : Bool} {c : Config HttpOp HttpOp.Reply (HttpWorld Bool) Bool} {t : HttpWorld Bool}
      (run : Exec (requestSteps (arguments i) i) (c.program i) c.state () t) :
      ReflTransGen (Turn fun i => requestSteps (arguments i) i) c
        ⟨Function.update c.program i (.ret ()), t⟩ :=
    Exec.turns run
  let mid : Config HttpOp HttpOp.Reply (HttpWorld Bool) Bool :=
    ⟨Function.update (Requests.initial Bool).program false (.ret ()), w⟩
  have first : ReflTransGen _ (Requests.initial Bool) mid :=
    alone (Exec.of_runWith (answerRequest_sound _ false) run)
  have second : ReflTransGen _ mid ⟨Function.update mid.program true (.ret ()), v⟩ :=
    alone (Exec.of_runWith (answerRequest_sound _ true) run')
  exact ⟨_, first.trans second, last.symm⟩

def query (port : UInt8) : Arguments :=
  ⟨some (cStr ⟨[104], by decide⟩), some (cStr ⟨[port], by simp⟩), some (cStr ⟨[49], by decide⟩)⟩

theorem handleRequest_exclusive_ports : ∃ c, Requests.Reachable (fun _ : Bool => query 55) c ∧
    (∀ i, (progress i c.state.trace).left = some false) ∧ MutexLaw c.state.trace := by
  obtain ⟨c, run, state⟩ := servedInTurn_reachable (fun _ => query 55) (by decide) (by decide)
  have converts : Converts (fun _ => query 55) c.state.trace := by
    rintro i - ⟨host, port, uid, -, givenPort, givenUid, bad⟩
    cases givenPort
    cases givenUid
    revert bad
    decide
  refine ⟨c, run, ?_, handleRequest_exclusive _ c run converts⟩
  rw [state]
  decide

-- The port `x` makes `std::stoi` throw: the first request leaves with the lock and no response.
-- Nothing in the source catches the exception, so a real process ends there.
theorem handleRequest_keeps_lock : ∃ c, Requests.Reachable (fun _ : Bool => query 120) c ∧
    (progress false c.state.trace).left = some true ∧
    (progress false c.state.trace).locked = true ∧
    (progress false c.state.trace).responses = 0 ∧
    (progress true c.state.trace).refused = true ∧ ¬ MutexLaw c.state.trace := by
  obtain ⟨c, run, state⟩ := servedInTurn_reachable (fun _ => query 120) (by decide) (by decide)
  have left : (progress false c.state.trace).left = some true := by rw [state]; decide
  have locked : (progress false c.state.trace).locked = true := by rw [state]; decide
  refine ⟨c, run, left, locked, by rw [state]; decide, by rw [state]; decide, fun law => ?_⟩
  have unlocked := law.left_unlocked false (by simp [left])
  simp [locked] at unlocked

end JustAnotherVoiceChat
