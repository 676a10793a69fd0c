import JustAnotherVoiceChat.ConnectionMutex
import JustAnotherVoiceChat.Conversation
import JustAnotherVoiceChat.Library.Ending
import JustAnotherVoiceChat.Library.Linking

set_option autoImplicit false

namespace JustAnotherVoiceChat

open Binary Interaction Relation Computability

namespace Answers

inductive Front where
  | http (op : HttpOp)
  | told (op : HttpOp) (reply : op.Reply)

@[reducible] def Front.Reply : Front → Type
  | .http op => op.Reply
  | .told _ _ => Unit

abbrev Linked := Program (Front ⊕ Op) (Either Front.Reply Op.Reply)

def ask (op : HttpOp) : Linked op.Reply := .call (.inl (.http op)) .ret

def tell (op : HttpOp) (reply : op.Reply) : Linked Unit := .call (.inl (.told op reply)) .ret

-- A handler for a connection that calls the client; `connected` is what the last call of
-- `JustAnotherVoiceChat_connect` returned. There are no loops.
def linked (connection : Arguments) : {α : Type} → Handler α → Bool → Linked α
  | _, .ret value, _ => .ret value
  | _, .call .isIngame next, connected =>
    (justAnotherVoiceChatIsIngame.right : Linked Bool) >>= fun ingame =>
      tell .isIngame ingame >>= fun _ => linked connection (next ingame) connected
  | _, .call (.connect host port uniqueIdentifier) next, _ =>
    tell (.connect host port uniqueIdentifier) () >>= fun _ =>
      (justAnotherVoiceChatConnect host.text port uniqueIdentifier).right >>= fun connected =>
        linked connection (next ()) connected
  | _, .call .connected next, connected =>
    tell .connected connected >>= fun _ => linked connection (next connected) connected
  | _, .call (.lookup argument) next, connected =>
    tell (.lookup argument) (connection.get argument) >>= fun _ =>
      linked connection (next (connection.get argument)) connected
  | _, .call (.createResponse page) next, connected =>
    tell (.createResponse page) ⟨page⟩ >>= fun _ => linked connection (next ⟨page⟩) connected
  | _, .call op next, connected =>
    ask op >>= fun reply => linked connection (next reply) connected
  | _, .iterate body next, connected =>
    .iterate (linked connection body connected) fun value =>
      linked connection (next value) connected

inductive Letter where
  | locked (ok : Bool)
  | unlocked
  | returned (connected : Bool)
  | answered (page : String) (statusCode : StatusCode)
  | left (thrown : Bool)
  | said (sign : System.Sign)
deriving DecidableEq

def letter : (op : HttpOp) → op.Reply → List Letter
  | .tryLock, ok => [.locked ok]
  | .unlock, _ => [.unlocked]
  | .connected, connected => [.returned connected]
  | .queueResponse statusCode response, _ => [.answered response.page statusCode]
  | .leave thrown, _ => [.left thrown]
  | _, _ => []

def letters : (op : Front ⊕ Op) → Either Front.Reply Op.Reply op → List Letter
  | .inl (.http op), reply => letter op reply
  | .inl (.told op reply), _ => letter op reply
  | .inr op, reply => (System.notes op reply).map .said

-- What a call of the client says that returns `connected`. Where there is no client, or one that
-- is connected as it should, nothing is said.
def talk (connected : Bool) : Language System.Sign := 1 + System.connects connected

def okPage : String := "<html><body>OK</body></html>"

def outcome : (connected : Bool) → Letter
  | true => .answered okPage .ok
  | false => .answered unableToConnect .badRequest

def calling : Language Letter :=
  ⨆ connected, Language.map .said (talk connected) *
    {[.returned connected, .unlocked, outcome connected, .left false]}

-- The lock is held and the client is not in-game. An exception leaves it held.
def serving (connection : Arguments) : Language Letter :=
  match connection.host, connection.port, connection.uid with
  | some _, some port, some uniqueIdentifier =>
    match stoi port, stoi uniqueIdentifier with
    | .ok _, .ok _ => calling
    | _, _ => {[.left true]}
  | _, _, _ => {[.unlocked, .answered missingParameters .badRequest, .left false]}

def exchange (connection : Arguments) : Language Letter :=
  {[.locked false, .answered alreadyConnecting .imUsed, .left false]} +
    {[.locked true]} *
      ({[.unlocked, .answered alreadyIngame .accepted, .left false]} + serving connection)

section Follows

variable {connection : Arguments} {connected : Bool} {α β : Type}

theorem follows_ask {op : HttpOp} (some : op.Reply) :
    Follows letters (ask op) fun reply => {letters (.inl (.http op)) reply} :=
  .perform some fun _ => rfl

theorem follows_tell {op : HttpOp} {reply : op.Reply} (nothing : letter op reply = []) :
    Follows letters (tell op reply) fun _ => 1 :=
  .perform () fun _ => nothing

theorem follows_plugin {p : Plugin α} {L : α → Language System.Sign}
    (follows : Follows System.notes p L) :
    Follows letters p.right fun value => Language.map .said (L value) :=
  follows.right fun _ _ => rfl

theorem follows_talk {host : StdString} {port uniqueIdentifier : UInt16} :
    Follows System.notes (justAnotherVoiceChatConnect host port uniqueIdentifier) talk := by
  unfold justAnotherVoiceChatConnect
  refine .after System.follows_load fun m => ?_
  dsimp only
  split
  · exact .pure (.inl rfl)
  · refine .after (System.follows_quiet () (System.quiet_object _)) fun _ => ?_
    exact System.follows_connects.mono fun _ => le_add_self

theorem follows_sendResponse (page : String) (statusCode : StatusCode) {rest : Int → Handler α}
    {M : α → Language Letter}
    (after : ∀ result, Follows letters (linked connection (rest result) connected) M) :
    Follows letters (linked connection (sendResponse page statusCode >>= rest) connected)
      fun value => {[.answered page statusCode]} * M value := by
  change Follows letters (tell (.createResponse page) ⟨page⟩ >>= fun _ =>
    ask (.queueResponse statusCode ⟨page⟩) >>= fun result =>
      ask (.destroyResponse ⟨page⟩) >>= fun _ => linked connection (rest result) connected) _
  refine .after (follows_tell rfl) fun _ => ?_
  refine .seq (follows_ask (0 : Int)) fun result => ?_
  exact .after (follows_ask ()) fun _ => after result

theorem follows_leave (thrown : Bool) :
    Follows letters (linked connection (perform (.leave thrown)) connected)
      fun _ => {[.left thrown]} := follows_ask ()

theorem follows_answer (page : String) (statusCode : StatusCode) :
    Follows letters (linked connection
        (sendResponse page statusCode >>= fun _ => perform (.leave false)) connected)
      fun _ => {[.answered page statusCode, .left false]} := by
  apply (follows_sendResponse page statusCode fun _ => follows_leave false).mono
  rintro _ _ ⟨_, rfl, _, rfl, rfl⟩
  rfl

theorem follows_unlock (page : String) (statusCode : StatusCode) :
    Follows letters (linked connection (perform .unlock >>= fun _ =>
        sendResponse page statusCode >>= fun _ => perform (.leave false)) connected)
      fun _ => {[.unlocked, .answered page statusCode, .left false]} := by
  change Follows letters (ask .unlock >>= fun _ => linked connection
    (sendResponse page statusCode >>= fun _ => perform (.leave false)) connected) _
  have unlocking : Follows letters (ask .unlock) fun _ => {[.unlocked]} := follows_ask ()
  apply (unlocking.seq fun _ => follows_answer page statusCode).mono
  rintro _ _ ⟨_, rfl, _, rfl, rfl⟩
  rfl

def leaving : Except StoiError Int → Handler Unit
  | .ok _ => perform (.leave false)
  | .error _ => perform (.leave true)

theorem follows_calling (host : CString) (port uniqueIdentifier : UInt16) :
    Follows letters (linked connection ((do
        perform (.connect host port uniqueIdentifier)
        if !(← perform .connected) then
          perform .unlock
          return .ok (← sendResponse unableToConnect .badRequest)
        perform .unlock
        return .ok (← sendResponse okPage .ok)) >>= leaving) connected)
      fun _ => calling := by
  have talking := follows_plugin (@follows_talk host.text port uniqueIdentifier)
  apply (follows_tell rfl).after
  intro _
  apply talking.bind
  intro connected
  have returning : Follows letters (tell .connected connected)
      fun _ => {[.returned connected]} := .perform () fun _ => rfl
  have told {page : String} {statusCode : StatusCode}
      (same : outcome connected = .answered page statusCode) :
      ({[.returned connected]} : Language Letter) * {[.unlocked, .answered page statusCode,
        .left false]} ≤ {[.returned connected, .unlocked, outcome connected, .left false]} := by
    rintro _ ⟨_, rfl, _, rfl, rfl⟩
    rw [same]
    rfl
  cases connected with
  | false =>
    exact (returning.seq fun _ => follows_unlock unableToConnect .badRequest).mono fun _ => told rfl
  | true => exact (returning.seq fun _ => follows_unlock okPage .ok).mono fun _ => told rfl

theorem follows_numbers (host : CString) (port uniqueIdentifier : Except StoiError Int) :
    Follows letters (linked connection ((match port, uniqueIdentifier with
        | .ok portValue, .ok identifierValue => do
          perform (.connect host (toUInt16 portValue) (toUInt16 identifierValue))
          if !(← perform .connected) then
            perform .unlock
            return .ok (← sendResponse unableToConnect .badRequest)
          perform .unlock
          return .ok (← sendResponse okPage .ok)
        | .error thrown, _ => return .error thrown
        | .ok _, .error thrown => return .error thrown) >>= leaving) connected)
      fun _ => match port, uniqueIdentifier with
        | .ok _, .ok _ => calling
        | _, _ => {[.left true]} := by
  cases port with
  | error => exact follows_leave true
  | ok portValue =>
    cases uniqueIdentifier with
    | error => exact follows_leave true
    | ok identifierValue => exact follows_calling host _ _

theorem follows_serving :
    Follows letters (linked connection ((do
        let host ← perform (.lookup .host)
        let port ← perform (.lookup .port)
        let uniqueIdentifier ← perform (.lookup .uid)
        match host, port, uniqueIdentifier with
        | some host, some port, some uniqueIdentifier =>
          match stoi port, stoi uniqueIdentifier with
          | .ok portValue, .ok identifierValue =>
            perform (.connect host (toUInt16 portValue) (toUInt16 identifierValue))
            if !(← perform .connected) then
              perform .unlock
              return .ok (← sendResponse unableToConnect .badRequest)
            perform .unlock
            return .ok (← sendResponse okPage .ok)
          | .error thrown, _ => return .error thrown
          | .ok _, .error thrown => return .error thrown
        | _, _, _ =>
          perform .unlock
          return .ok (← sendResponse missingParameters .badRequest)) >>= leaving) connected)
      fun _ => serving connection := by
  change Follows letters (tell (.lookup .host) connection.host >>= fun _ =>
    tell (.lookup .port) connection.port >>= fun _ =>
      tell (.lookup .uid) connection.uid >>= _) _
  iterate 3 refine .after (follows_tell rfl) fun _ => ?_
  obtain ⟨host, port, uniqueIdentifier⟩ := connection
  cases host with
  | none => exact follows_unlock missingParameters .badRequest
  | some host =>
  cases port with
  | none => exact follows_unlock missingParameters .badRequest
  | some port =>
  cases uniqueIdentifier with
  | none => exact follows_unlock missingParameters .badRequest
  | some uniqueIdentifier => exact follows_numbers host (stoi port) (stoi uniqueIdentifier)

theorem follows_exchange :
    Follows letters (linked connection serve connected) fun _ => exchange connection := by
  change Follows letters (ask .enter >>= fun _ => ask .tryLock >>= _) _
  have entering : Follows letters (ask .enter) fun _ => 1 := follows_ask ()
  have locking : Follows letters (ask .tryLock) fun locked => {[.locked locked]} := follows_ask true
  refine entering.after fun _ => locking.onward fun locked => ?_
  cases locked with
  | false =>
    have refused := @follows_answer connection connected alreadyConnecting .imUsed
    apply refused.mono
    rintro _ _ rfl _ rfl
    exact .inl rfl
  | true =>
    have asking : Follows letters (justAnotherVoiceChatIsIngame.right : Linked Bool)
        fun _ => 1 := by
      have quiet := follows_plugin
        (System.follows_quiet false (System.quiet_parts.ingame System.quiet_object))
      simpa using quiet
    refine asking.after fun ingame => (follows_tell rfl).after fun _ => ?_
    -- the rest of the word of a request that holds the lock
    have after {L : Language Letter} (within : L ≤
        {[.unlocked, .answered alreadyIngame .accepted, .left false]} + serving connection) :
        L ≤ {more | ∀ word ∈ ({[.locked true]} : Language Letter),
          word ++ more ∈ exchange connection} := by
      rintro more member _ rfl
      exact .inr (Language.append_mem_mul rfl (within member))
    cases ingame with
    | true => exact (follows_unlock alreadyIngame .accepted).mono fun _ => after le_self_add
    | false => exact follows_serving.mono fun _ => after le_add_self

end Follows

structure State (ι : Type) where
  world : World
  requests : HttpWorld ι
  said : ι → List Letter

variable {ι : Type} [DecidableEq ι]

def carries (arguments : ι → Arguments) (ids : ι → ThreadId) (env : Environment) (i : ι) :
    (op : Front ⊕ Op) → State ι → Either Front.Reply Op.Reply op → World → HttpWorld ι → Prop
  | .inl (.http op), s, reply, w, h =>
    w = s.world ∧ requestSteps (arguments i) i op s.requests reply h
  | .inl (.told op reply), s, _, w, h =>
    w = s.world ∧ requestSteps (arguments i) i op s.requests reply h
  | .inr op, s, reply, w, h => steps (ids i) env op s.world reply w ∧ h = s.requests

def runs (arguments : ι → Arguments) (ids : ι → ThreadId) (env : Environment) (i : ι) :
    Semantics (Front ⊕ Op) (Either Front.Reply Op.Reply) (State ι) :=
  fun op s reply t => ∃ w h, carries arguments ids env i op s reply w h ∧
    t = ⟨w, h, Function.update s.said i (s.said i ++ letters op reply)⟩

def scheduling (arguments : ι → Arguments) (ids : ι → ThreadId) (env : Environment) :
    Scheduling (Front ⊕ Op) (Either Front.Reply Op.Reply) (State ι) ι where
  sem := runs arguments ids env
  begins _ _ _ _ := False
  beside s t := ∃ w, t = { s with world := w }

abbrev Connections (ι : Type) := Config (Front ⊕ Op) (Either Front.Reply Op.Reply) (State ι) ι

def arrived (arguments : ι → Arguments) (w : World) : Connections ι :=
  ⟨fun i => linked (arguments i) serve false, ⟨w, .initial ι, fun _ => []⟩⟩

def Reached (arguments : ι → Arguments) (ids : ι → ThreadId) (env : Environment)
    (c : Connections ι) : Prop :=
  ∃ w, ReflTransGen (scheduling arguments ids env).Step (arrived arguments w) c

variable {arguments : ι → Arguments} {ids : ι → ThreadId} {env : Environment} {c : Connections ι}

def conversation (arguments : ι → Arguments) : Dialogue (State ι) ι Letter where
  own i s := s.said i
  grammar i _ := exchange (arguments i)

theorem conversation_fits :
    (conversation arguments).Fits letters (scheduling arguments ids env) where
  steps := by
    rintro i op s reply t ⟨w, h, -, rfl⟩
    refine ⟨Function.update_self .., fun j other => ?_, fun _ => rfl⟩
    exact Function.update_of_ne other ..
  begins := by
    rintro _ _ _ _ ⟨⟩
  beside := by
    rintro s t ⟨w, rfl⟩ j
    exact ⟨rfl, rfl⟩

-- A linked program is at the same point as the handler, or in the middle of a call of the client
-- for it.
inductive Carries (connection : Arguments) : Linked Unit → Handler Unit → Prop where
  | same {p : Handler Unit} {at_p : Point} {connected : Bool}
      (keeping : Keeping connection p at_p) :
      Carries connection (linked connection p connected) p
  | asking {next : Bool → Handler Unit} {at_p : Bool → Point} {connected : Bool} (p : Plugin Bool)
      (keeping : ∀ ingame, Keeping connection (next ingame) (at_p ingame)) :
      Carries connection
        (p.right >>= fun ingame => tell .isIngame ingame >>= fun _ =>
          linked connection (next ingame) connected)
        (.call .isIngame next)
  | connecting {rest : Handler Unit} {at_p : Point} (p : Plugin Bool)
      (keeping : Keeping connection rest at_p) :
      Carries connection (p.right >>= fun connected => linked connection rest connected) rest

theorem calls_client {i : ι} {p : Plugin Bool} {f : Bool → Linked Unit} {rest : Linked Unit}
    {s t : State ι} (move : Move (runs arguments ids env i) (p.right >>= f) s rest t) :
    (∃ value, p = .ret value) ∨
      (t.requests = s.requests ∧ ∃ q : Plugin Bool, rest = q.right >>= f) := by
  by_cases returned : ∃ value, p = .ret value
  · exact .inl returned
  have going (value : Bool) : (p.right : Linked Bool) ≠ .ret value := by
    cases p with
    | ret value => exact absurd ⟨value, rfl⟩ returned
    | call | iterate => rintro ⟨⟩
  obtain ⟨q, alone, rfl⟩ := move.of_bind going
  obtain ⟨p', rfl, moved⟩ := alone.of_right
  refine .inr ⟨?_, p', rfl⟩
  cases moved with
  | call step =>
    obtain ⟨w, h, ⟨-, rfl⟩, rfl⟩ := step
    rfl
  | unfold => rfl

def Seen (arguments : ι → Arguments) (i : ι) (p : Handler Unit) (s : State ι) (rest : Linked Unit)
    (t : State ι) : Prop :=
  (t.requests = s.requests ∧ Carries (arguments i) rest p) ∨
    ∃ rest', Move (requestSteps (arguments i) i) p s.requests rest' t.requests ∧
      Carries (arguments i) rest rest'

theorem seen_asking {i : ι} {next : Bool → Handler Unit} {at_p : Bool → Point} {connected : Bool}
    {rest : Linked Unit} {s t : State ι} (p : Plugin Bool)
    (keeping : ∀ ingame, Keeping (arguments i) (next ingame) (at_p ingame))
    (move : Move (runs arguments ids env i) (p.right >>= fun ingame => tell .isIngame ingame >>=
      fun _ => linked (arguments i) (next ingame) connected) s rest t) :
    Seen arguments i (.call .isIngame next) s rest t := by
  rcases calls_client move with ⟨ingame, rfl⟩ | ⟨still, q, rfl⟩
  · cases move with
    | call step =>
      obtain ⟨w, h, ⟨rfl, step⟩, rfl⟩ := step
      exact .inr ⟨next ingame, .call step, .same (keeping ingame)⟩
  · exact .inl ⟨still, .asking q keeping⟩

theorem seen_same {i : ι} {p : Handler Unit} {at_p : Point} {connected : Bool} {rest : Linked Unit}
    {s t : State ι} (keeping : Keeping (arguments i) p at_p)
    (move : Move (runs arguments ids env i) (linked (arguments i) p connected) s rest t) :
    Seen arguments i p s rest t := by
  cases p with
  | ret value => cases move
  | iterate body next => cases keeping
  | call op next =>
    have later {reply : op.Reply} {w w' : HttpWorld ι}
        (step : requestSteps (arguments i) i op w reply w') :
        Keeping (arguments i) (next reply) (at_p.after op reply) :=
      (keeping.2 reply (requestSteps_possible step).1).2.2
    cases op with
    | isIngame =>
      have each (ingame : Bool) := (keeping.2 ingame trivial).2.2
      exact seen_asking justAnotherVoiceChatIsIngame each move
    | connect host port uniqueIdentifier =>
      cases move with
      | call step =>
        obtain ⟨w, h, ⟨rfl, step⟩, rfl⟩ := step
        exact .inr ⟨_, .call step, .connecting _ (later step)⟩
    | _ =>
      cases move with
      | call step =>
        obtain ⟨w, h, ⟨rfl, step⟩, rfl⟩ := step
        exact .inr ⟨_, .call step, .same (later step)⟩

theorem carries_move {i : ι} {q rest : Linked Unit} {p : Handler Unit} {s t : State ι}
    (carries : Carries (arguments i) q p) (move : Move (runs arguments ids env i) q s rest t) :
    Seen arguments i p s rest t := by
  cases carries with
  | same keeping => exact seen_same keeping move
  | asking p keeping => exact seen_asking p keeping move
  | connecting p keeping =>
    rcases calls_client move with ⟨connected, rfl⟩ | ⟨still, q, rfl⟩
    · exact seen_same keeping move
    · exact .inl ⟨still, .connecting q keeping⟩

theorem carries_simulates : Simulates (runs arguments ids env)
    (fun i => requestSteps (arguments i) i) State.requests
    fun i => Carries (arguments i) where
  move carries move := carries_move carries move

theorem Reached.carried (reached : Reached arguments ids env c) :
    ∃ handlers : ι → Handler Unit,
      Requests.Reachable arguments ⟨handlers, c.state.requests⟩ ∧
        ∀ i, Carries (arguments i) (c.program i) (handlers i) := by
  obtain ⟨w, run⟩ := reached
  have start : Behind State.requests (fun i => Carries (arguments i)) (arrived arguments w)
      (Requests.initial ι) := ⟨rfl, fun _ => .same keeping_serve⟩
  have simulates : Simulates (runs arguments ids env) _ _ _ := carries_simulates
  have unseen (s t : State ι) (moved : (scheduling arguments ids env).beside s t) :
      t.requests = s.requests := by
    obtain ⟨w, rfl⟩ := moved
    rfl
  obtain ⟨⟨handlers, h⟩, reachable, rfl, carries⟩ := simulates.run unseen start run
  exact ⟨handlers, reachable, carries⟩

def holding (held : Bool) : Letter → Bool
  | .locked ok => held || ok
  | .unlocked => false
  | _ => held

def held (word : List Letter) : Bool := word.foldl holding false

def Conversing (word : List Letter) : Prop := .locked true ∈ word ∧ .unlocked ∉ word

theorem held_append (word : List Letter) (op : HttpOp) (reply : op.Reply) (p : Progress)
    (same : held word = p.locked) : held (word ++ letter op reply) = (p.after op reply).locked := by
  cases op <;> simp_all [held, holding, letter, Progress.after, List.foldl_append]

theorem held_said (word : List Letter) (signs : List System.Sign) :
    held (word ++ signs.map .said) = held word := by
  rw [held, List.foldl_append, ← held]
  generalize held word = before
  induction signs with
  | nil => rfl
  | cons sign rest ih => exact ih

theorem Conversing.held {word : List Letter} (conversing : Conversing word) : held word = true := by
  have fold (word : List Letter) (before : Bool) (kept : .unlocked ∉ word)
      (taken : before = true ∨ .locked true ∈ word) : word.foldl holding before = true := by
    induction word generalizing before with
    | nil => simpa using taken
    | cons letter rest ih =>
      obtain ⟨other, kept⟩ := not_or.mp (mt List.mem_cons.mpr kept)
      apply ih _ kept
      cases letter <;> simp_all [holding, or_assoc]
  exact fold word false conversing.2 (.inr conversing.1)

def Tells (s : State ι) : Prop := ∀ i, held (s.said i) = (progress i s.requests.trace).locked

theorem Tells.front {i j : ι} {s : State ι} (tells : Tells s) {op : HttpOp} {reply : op.Reply}
    {h : HttpWorld ι} (step : requestSteps (arguments i) i op s.requests reply h) :
    held (Function.update s.said i (s.said i ++ letter op reply) j) =
      (progress j h.trace).locked := by
  rw [(requestSteps_possible step).2]
  by_cases same : j = i
  · subst same
    rw [Function.update_self, progress_own]
    exact held_append _ op reply _ (tells j)
  · rw [Function.update_of_ne same, progress_other (Ne.symm same)]
    exact tells j

theorem Tells.move {i : ι} {q rest : Linked Unit} {s t : State ι} (tells : Tells s)
    (move : Move (runs arguments ids env i) q s rest t) : Tells t := by
  intro j
  cases move with
  | unfold => exact tells j
  | call step =>
    rename_i op _ reply
    obtain ⟨w, h, carried, rfl⟩ := step
    cases op with
    | inl front =>
      cases front with
      | http op => exact tells.front carried.2
      | told op reply => exact tells.front carried.2
    | inr op =>
      obtain ⟨-, rfl⟩ := carried
      by_cases same : j = i
      · subst same
        dsimp only
        rw [Function.update_self]
        exact (held_said _ _).trans (tells j)
      · dsimp only
        rw [Function.update_of_ne same]
        exact tells j

theorem Reached.tells (reached : Reached arguments ids env c) : Tells c.state := by
  obtain ⟨w, run⟩ := reached
  induction run with
  | refl => exact fun _ => rfl
  | tail _ step ih =>
    cases step with
    | begin _ begins => exact begins.elim
    | beside moved =>
      obtain ⟨w, rfl⟩ := moved
      exact ih
    | turn turn =>
      cases turn with
      | mk i move => exact ih.move move

def calm : Replies where
  teamspeak := obliging [1] .empty
  enet := connecting 1
  thread
    | .spawn, w => some (5, w)
    | call, w => lone 0 call w

def possible (connection : Arguments) : (op : HttpOp) → op.Reply → Bool
  | .tryLock, _ | .unlock, _ => false
  | .lookup argument, value => value = connection.get argument
  | .createResponse page, response => response = ⟨page⟩
  | _, _ => true

def answer (connection : Arguments) (i : Bool) (op : Front ⊕ Op) (s : State Bool) :
    Option (Either Front.Reply Op.Reply op × State Bool) :=
  let noted (w : World) (h : HttpWorld Bool) (word : List Letter) : State Bool :=
    ⟨w, h, Function.update s.said i (s.said i ++ word)⟩
  match op with
  | .inl (.http op) => (answerRequest connection i op s.requests).map fun (reply, h) =>
    (reply, noted s.world h (letter op reply))
  | .inl (.told op reply) =>
    if possible connection op reply then
      some ((), noted s.world (s.requests.record i op reply) (letter op reply))
    else none
  | .inr op => (answerOp 0 calm op s.world).map fun (reply, w) =>
    (reply, noted w s.requests ((System.notes op reply).map .said))

theorem answer_sound (connection : Arguments) (i : Bool) (op : Front ⊕ Op) (s : State Bool)
    (reply : Either Front.Reply Op.Reply op) (t : State Bool)
    (answered : answer connection i op s = some (reply, t)) :
    runs (fun _ => connection) (fun _ => 0) .any i op s reply t := by
  cases op with
  | inl front =>
    cases front with
    | http op =>
      obtain ⟨⟨reply, h⟩, told, same⟩ := Option.map_eq_some_iff.mp answered
      obtain ⟨rfl, rfl⟩ := Prod.mk.inj same
      exact ⟨_, h, ⟨rfl, answerRequest_sound _ _ _ _ _ _ told⟩, rfl⟩
    | told op given =>
      simp only [answer] at answered
      split at answered
      · rename_i fits
        obtain ⟨rfl, rfl⟩ := Prod.mk.inj (Option.some.inj answered)
        refine ⟨_, _, ⟨rfl, ?_⟩, rfl⟩
        cases op <;> simp_all [possible, requestSteps]
      · cases answered
  | inr op =>
    obtain ⟨⟨reply, w⟩, told, same⟩ := Option.map_eq_some_iff.mp answered
    obtain ⟨rfl, rfl⟩ := Prod.mk.inj same
    exact ⟨w, _, ⟨answerOp_sound calm.within_any op s.world _ w told, rfl⟩, rfl⟩

def onTheWay (steps : Nat) : Linked Unit × State Bool :=
  advance (answer (query 55) false) steps (linked (query 55) serve false)
    ⟨World.idle, .initial Bool, fun _ => []⟩

theorem reached_onTheWay (steps : Nat) : Reached (fun _ : Bool => query 55) (fun _ => 0) .any
    ⟨Function.update (fun _ => linked (query 55) serve false) false (onTheWay steps).1,
      (onTheWay steps).2⟩ := by
  have moves := advance_moves (answer_sound (query 55) false) steps (linked (query 55) serve false)
    ⟨World.idle, .initial Bool, fun _ => []⟩
  have turns := moves.turns fun _ => linked (query 55) serve false
  rw [Function.update_eq_self] at turns
  exact ⟨World.idle, turns.lift id fun _ _ turn => .turn turn⟩

example : (onTheWay 80).1 = .ret () := rfl

end Answers

open Answers in
/-- Whatever the other requests and the rest of the plugin do, a request keeps to what is expected
of it: it takes the lock before it calls the client and gives it back before its page, and the page
tells what the call of the client returned. -/
theorem request_served {ι : Type} [DecidableEq ι] {arguments : ι → Arguments} {ids : ι → ThreadId}
    {env : Environment} {c : Connections ι} (reached : Reached arguments ids env c) (i : ι) :
    (∃ later, c.state.said i ++ later ∈ exchange (arguments i)) ∧
      (c.program i = .ret () → c.state.said i ∈ exchange (arguments i)) := by
  obtain ⟨w, run⟩ := reached
  have start : (conversation arguments).Spoken letters (arrived arguments w) := by
    intro i
    exact .of_follows follows_exchange
  exact start.run conversation_fits run i

open Answers in
theorem request_served_connected :
    .answered okPage .ok ∈ (onTheWay 80).2.said false ∧
      (onTheWay 80).2.said false ∈ exchange (query 55) :=
  ⟨by decide, (request_served (reached_onTheWay 80) false).2 rfl⟩

open Answers in
/-- The HTTP server serves the requests as it does when nothing is known of the client, and so no
two of them talk to the voice server at the same time. -/
theorem conversations_apart {ι : Type} [DecidableEq ι] {arguments : ι → Arguments}
    {ids : ι → ThreadId} {env : Environment} {c : Connections ι}
    (reached : Reached arguments ids env c) :
    (∃ handlers, Requests.Reachable arguments ⟨handlers, c.state.requests⟩) ∧
      ∀ i j, Conversing (c.state.said i) → Conversing (c.state.said j) → i = j := by
  obtain ⟨handlers, reachable, -⟩ := reached.carried
  refine ⟨⟨handlers, reachable⟩, fun i j first second => ?_⟩
  have holder (i : ι) (conversing : Conversing (c.state.said i)) :
      c.state.requests.holder = some i := by
    apply ((mutexInv_reachable reachable).holder i).mp
    rw [← reached.tells i]
    exact conversing.held
  exact Option.some.inj ((holder i first).symm.trans (holder j second))

open Answers in
theorem conversations_apart_connecting :
    Conversing ((onTheWay 30).2.said false) ∧ ¬ Conversing ((onTheWay 30).2.said true) := by
  have conversing : Conversing ((onTheWay 30).2.said false) := ⟨by decide, by decide⟩
  refine ⟨conversing, fun other => ?_⟩
  cases (conversations_apart (reached_onTheWay 30)).2 _ _ conversing other

end JustAnotherVoiceChat
