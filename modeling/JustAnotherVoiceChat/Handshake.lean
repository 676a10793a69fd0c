import JustAnotherVoiceChat.Wrapper

set_option autoImplicit false

namespace JustAnotherVoiceChat

open Binary Interaction

def Topic.Asks : Topic → Prop
  | .server | .ownId | .channel | .readString | .readInt | .sound | .memory => True
  | .move | .mute | .writeString | .writeInt | .position => False

theorem TeamSpeakCall.Step.asks {call : TeamSpeakCall} {t t' : TeamSpeak} {reply : call.Reply}
    (step : call.Step t reply t') (asks : call.topic.Asks) : t' = t := by
  cases call with
  | requestClientMove | requestMuteClients | requestUnmuteClients | setClientSelfVariableAsString
  | setClientSelfVariableAsInt | flushClientSelfUpdates | channelset3DAttributes => cases asks
  | getClientID | getChannelOfClient | getChannelClientList | getClientSelfVariableAsString
  | getClientSelfVariableAsInt => exact step.2
  | _ => exact step

def External.About (topics : List Topic) : External → Prop
  | .teamspeak call => call.topic ∈ topics
  | _ => False

-- Operations that keep a part of the memory and make calls about these topics only.
abbrev Op.On {α : Type} (part : Memory → α) (topics : List Topic) : Op → Prop :=
  Op.Keeping part (External.About topics)

section Calls

open Program

variable {α : Type} {part : Memory → α} {topics : List Topic}

theorem teamspeak_on {call : TeamSpeakCall} (about : call.topic ∈ topics) :
    (teamspeak call).Calls (Op.On part topics) :=
  ⟨⟨about, rfl⟩, fun _ => trivial⟩

theorem sleepFor_on (milliseconds : Nat) : (sleepFor milliseconds).Calls (Op.On part topics) :=
  ⟨trivial, fun _ => trivial⟩

theorem setWrapper_on {update : Wrapper → Wrapper}
    (keeps : ∀ m : Memory, part { m with wrapper := update m.wrapper } = part m) :
    (setWrapper update).Calls (Op.On part topics) :=
  ⟨keeps, fun _ => trivial⟩

theorem calls_of_on {holds : Op → Prop} {β : Type} {p : Plugin β}
    (calls : p.Calls (Op.On part topics))
    (loads : holds .load) (sleeps : ∀ milliseconds, holds (.sleep milliseconds))
    (stores : ∀ update, (∀ m, part (update m) = part m) → holds (.store update))
    (asks : ∀ call : TeamSpeakCall, call.topic ∈ topics → holds (.external (.teamspeak call))) :
    p.Calls holds := by
  apply calls.mono
  intro op on
  cases op with
  | load => exact loads
  | sleep milliseconds => exact sleeps milliseconds
  | store update => exact stores update on
  | thread => cases on
  | external call =>
    cases call with
    | enet | object => cases on.1
    | teamspeak call => exact asks call on.1

theorem wrapperPrograms_on :
    WrapperPrograms (· ∈ topics) (fun {_} p => p.Calls (Op.On part topics)) where
  toPluginPrograms := .of_load trivial
  sleepFor := sleepFor_on
  teamspeak := teamspeak_on
  poll _ _ := repeatUntil_calls

theorem Op.On.more {less more : List Topic} (included : ∀ t ∈ less, t ∈ more) {β : Type}
    {p : Plugin β} (calls : p.Calls (Op.On part less)) : p.Calls (Op.On part more) :=
  calls_of_on calls trivial (fun _ => trivial) (fun _ keeping => keeping)
    fun _ about => ⟨included _ about, rfl⟩

theorem ts3ClientId_on (handle : UInt64) : (ts3ClientId handle).Calls (Op.On part [.ownId]) :=
  wrapperPrograms_on.ts3ClientId (by decide) handle

theorem ts3ChannelId_on (handle : UInt64) :
    (ts3ChannelId handle).Calls (Op.On part [.ownId, .channel]) :=
  wrapperPrograms_on.ts3ChannelId (by decide) (by decide) handle

theorem ts3MoveToChannel_on (channelId : UInt64) (password : StdString) :
    (ts3MoveToChannel channelId password).Calls (Op.On part [.ownId, .move]) :=
  wrapperPrograms_on.ts3MoveToChannel (by decide) (by decide) channelId password

theorem ts3ClientsInChannel_on (channelId : UInt64) :
    (ts3ClientsInChannel channelId).Calls (Op.On part [.channel, .memory]) :=
  wrapperPrograms_on.ts3ClientsInChannel (by decide) (by decide) channelId

theorem ts3IsInputMuted_on (handle : UInt64) :
    (ts3IsInputMuted handle).Calls (Op.On part [.readInt]) :=
  wrapperPrograms_on.ts3IsInputMuted (by decide) handle

theorem ts3IsOutputMuted_on (handle : UInt64) :
    (ts3IsOutputMuted handle).Calls (Op.On part [.readInt]) :=
  wrapperPrograms_on.ts3IsOutputMuted (by decide) handle

theorem ts3SetOutputMuted_on (handle : UInt64) (muted : Bool) :
    (ts3SetOutputMuted handle muted).Calls (Op.On part [.writeInt]) :=
  wrapperPrograms_on.ts3SetOutputMuted (by decide) handle muted

theorem ts3GetClientIdentity_on : ts3GetClientIdentity.Calls (Op.On part [.readString]) :=
  wrapperPrograms_on.ts3GetClientIdentity (by decide)

theorem ts3ResetListenerPosition_on : ts3ResetListenerPosition.Calls (Op.On part [.sound]) :=
  wrapperPrograms_on.ts3ResetListenerPosition (by decide)

theorem ts3Set3DSettings_on (distanceFactor rolloffScale : Single) :
    (ts3Set3DSettings distanceFactor rolloffScale).Calls (Op.On part [.sound]) :=
  wrapperPrograms_on.ts3Set3DSettings (by decide) distanceFactor rolloffScale

def apartFromMuted (m : Memory) : Memory :=
  { m with wrapper := { m.wrapper with mutedClients := .empty } }

theorem ts3MuteClients_on (clients : SortedSet AnyID) (mute : Bool) :
    (ts3MuteClients clients mute).Calls (Op.On apartFromMuted [.mute]) :=
  wrapperPrograms_on.ts3MuteClients (by decide) (fun _ => setWrapper_on fun _ => rfl) clients mute

def apartFromHandler (m : Memory) : Memory :=
  { m with wrapper := { m.wrapper with serverConnectionHandler := 0 } }

theorem findServer_on (uniqueIdentifier : StdString) (serverList : List UInt64) :
    (findServer uniqueIdentifier serverList).Calls (Op.On apartFromHandler [.server, .memory]) :=
  wrapperPrograms_on.findServer (by decide) (by decide) (fun _ => setWrapper_on fun _ => rfl) _ _

theorem ts3VerifyServer_on (uniqueIdentifier : StdString) :
    (ts3VerifyServer uniqueIdentifier).Calls (Op.On apartFromHandler [.server, .memory]) :=
  wrapperPrograms_on.ts3VerifyServer (by decide) (by decide) (fun _ => setWrapper_on fun _ => rfl)
    uniqueIdentifier

end Calls

def Only (topics : List Topic) (caller : ThreadId) (answers : List Entry) : Prop :=
  ∀ e ∈ answers, e.thread = caller ∧ e.call.About topics

def Asked (topics : List Topic) (caller : ThreadId) (w u : World) : Prop :=
  ∃ answers, u = w.logged answers ∧ Only topics caller answers

section Asked

variable {topics : List Topic} {self : ThreadId} {env : Environment} {w : World}

theorem asked_step (asks : ∀ t ∈ topics, t.Asks) {op : Op} {u v : World} {reply : op.Reply}
    (on : op.On id topics) (before : Asked topics self w u) (step : steps self env op u reply v) :
    Asked topics self w v := by
  obtain ⟨answers, rfl, told⟩ := before
  cases op with
  | load =>
    obtain ⟨-, rfl⟩ := step
    exact ⟨answers, rfl, told⟩
  | sleep milliseconds =>
    obtain rfl : v = _ := step
    exact ⟨answers, rfl, told⟩
  | store update =>
    obtain rfl : v = _ := step
    refine ⟨answers, ?_, told⟩
    change { w.logged answers with memory := update w.memory } = _
    rw [show update w.memory = w.memory from on w.memory]
    rfl
  | thread call => cases on
  | external call =>
    cases call with
    | enet call | object call => cases on.1
    | teamspeak call =>
      obtain ⟨-, x, ⟨t, stepped, rfl⟩, rfl⟩ := step
      obtain rfl := stepped.asks (asks _ on.1)
      refine ⟨⟨self, .teamspeak call, reply⟩ :: answers, rfl, fun e member => ?_⟩
      rcases List.mem_cons.mp member with rfl | member
      · exact ⟨rfl, on.1⟩
      · exact told e member

theorem Asked.teamspeak {u : World} (asked : Asked topics self w u) :
    u.teamspeak = w.teamspeak := by
  obtain ⟨answers, rfl, -⟩ := asked
  rfl

theorem wp_asking {α : Type} {p : Plugin α} (calls : p.Calls (Op.On id topics))
    (asks : ∀ t ∈ topics, t.Asks) : wp (steps self env) p (fun _ u => Asked topics self w u) w :=
  wp_of_calls calls (fun _ _ _ _ on before step => asked_step asks on before step)
    ⟨[], rfl, by simp [Only]⟩

theorem wp_samePart {α β γ : Type} (field : Connection → γ) {part : Memory → β} {p : Plugin α}
    (calls : p.Calls (Op.On part topics)) (keeps : ∀ call : TeamSpeakCall, call.topic ∈ topics →
      ∀ f, call.Effect f → ∀ c, field (f c) = field c) :
    wp (steps self env) p
      (fun _ u => ∀ handle, field (u.teamspeak handle) = field (w.teamspeak handle)) w := by
  have keep (op : Op) (s : World) (reply : op.Reply) (t : World) (on : op.On part topics)
      (before : ∀ handle, field (s.teamspeak handle) = field (w.teamspeak handle))
      (step : steps self env op s reply t) :
      ∀ handle, field (t.teamspeak handle) = field (w.teamspeak handle) := by
    cases op with
    | load =>
      obtain ⟨-, rfl⟩ := step
      exact before
    | store update | sleep milliseconds =>
      obtain rfl : t = _ := step
      exact before
    | thread call => cases on
    | external call =>
      cases call with
      | enet call | object call => cases on.1
      | teamspeak call =>
        obtain ⟨-, _, ⟨t', stepped, rfl⟩, rfl⟩ := step
        intro handle
        exact (stepped.part field (keeps call on.1) handle).trans (before handle)
  exact wp_of_calls calls keep fun _ => rfl

end Asked

def Entry.ownId : Entry → Option AnyID
  | ⟨_, .teamspeak (.getConnectionStatus _), none⟩ => some 0
  | ⟨_, .teamspeak (.getConnectionStatus _), some status⟩ => if status ≤ 0 then some 0 else none
  | ⟨_, .teamspeak (.getClientID _), clientID⟩ => some (clientID.getD 0)
  | _ => none

def Entry.moved : Entry → Bool
  | ⟨_, .teamspeak (.requestClientMove _ _ _ _), ok⟩ => ok
  | _ => false

def Entry.movedOn : Entry → Option UInt64
  | ⟨_, .teamspeak (.requestClientMove handle _ _ _), ok⟩ => if ok then some handle else none
  | _ => none

def Entry.handshake : Entry → Option HandshakePacket
  | ⟨_, .enet (.peerSend _ _ (.handshake packet) _), _⟩ => some packet
  | _ => none

section Answers

variable {caller : ThreadId} {topics : List Topic} {answers : List Entry}

theorem Only.nil : Only topics caller [] := by simp [Only]

theorem Only.cons {call : TeamSpeakCall} {reply : call.Reply} (about : call.topic ∈ topics)
    (only : Only topics caller answers) :
    Only topics caller (⟨caller, .teamspeak call, reply⟩ :: answers) := by
  intro e member
  rcases List.mem_cons.mp member with rfl | member
  · exact ⟨rfl, about⟩
  · exact only e member

theorem Only.mono {more : List Topic} (included : ∀ t ∈ topics, t ∈ more)
    (only : Only topics caller answers) : Only more caller answers := by
  intro e member
  obtain ⟨own, about⟩ := only e member
  refine ⟨own, ?_⟩
  cases call : e.call with
  | teamspeak call' =>
    rw [call] at about
    exact included _ about
  | enet call' | object call' =>
    rw [call] at about
    cases about

theorem Only.append {others : List Entry} (first : Only topics caller answers)
    (second : Only topics caller others) : Only topics caller (answers ++ others) :=
  fun e member => (List.mem_append.mp member).elim (first e) (second e)

theorem Only.elim {holds : Entry → Prop} (only : Only topics caller answers)
    (each : ∀ (call : TeamSpeakCall) (reply : call.Reply), call.topic ∈ topics →
      holds ⟨caller, .teamspeak call, reply⟩) : ∀ e ∈ answers, holds e := by
  intro e member
  obtain ⟨own, about⟩ := only e member
  obtain ⟨thread, call, reply⟩ := e
  obtain rfl : thread = caller := own
  cases call with
  | teamspeak call => exact each call reply about
  | enet call | object call => cases about

theorem Only.hides {shows : Entry → Bool} {topic : Topic} (only : Only topics caller answers)
    (other : topic ∉ topics)
    (hidden : ∀ (call : TeamSpeakCall) (reply : call.Reply), call.topic ≠ topic →
      shows ⟨caller, .teamspeak call, reply⟩ = false) : answers.any shows = false := by
  rw [List.any_eq_false]
  refine only.elim ?_
  intro call reply about
  rw [hidden call reply fun same => other (same ▸ about)]
  exact Bool.false_ne_true

theorem Only.silent {β : Type} {tells : Entry → Option β} {topic : Topic}
    (only : Only topics caller answers) (other : topic ∉ topics)
    (hidden : ∀ (call : TeamSpeakCall) (reply : call.Reply), call.topic ≠ topic →
      tells ⟨caller, .teamspeak call, reply⟩ = none) : answers.findSome? tells = none := by
  rw [List.findSome?_eq_none_iff]
  refine only.elim ?_
  intro call reply about
  exact hidden call reply fun same => other (same ▸ about)

theorem Only.ownId (only : Only topics caller answers) (other : .ownId ∉ topics) :
    answers.findSome? Entry.ownId = none := by
  refine only.silent other ?_
  intro call _ unlike
  cases call with
  | getConnectionStatus | getClientID => exact absurd rfl unlike
  | _ => rfl

theorem Only.moved (only : Only topics caller answers) (other : .move ∉ topics) :
    answers.any Entry.moved = false := by
  refine only.hides other ?_
  intro call _ unlike
  cases call with
  | requestClientMove => exact absurd rfl unlike
  | _ => rfl

theorem movedOn_of_moved (stayed : answers.any Entry.moved = false) :
    answers.findSome? Entry.movedOn = none := by
  rw [List.findSome?_eq_none_iff]
  intro e member
  have stayed : ¬ e.moved = true := List.any_eq_false.mp stayed e member
  obtain ⟨thread, call, reply⟩ := e
  cases call with
  | enet call | object call => rfl
  | teamspeak call =>
    cases call with
    | requestClientMove => exact if_neg stayed
    | _ => rfl

theorem Only.listRefused (only : Only topics caller answers) (other : .server ∉ topics) :
    answers.any Entry.listRefused = false := by
  refine only.hides other ?_
  intro call _ unlike
  cases call with
  | getServerConnectionHandlerList => exact absurd rfl unlike
  | _ => rfl

theorem Only.named (only : Only topics caller answers) (other : .server ∉ topics)
    (identifier : StdString) : answers.findSome? (Entry.named identifier) = none := by
  refine only.silent other ?_
  intro call _ unlike
  cases call with
  | getServerUniqueIdentifier => exact absurd rfl unlike
  | _ => rfl

theorem Only.handshake (only : Only topics caller answers) :
    answers.filterMap Entry.handshake = [] := by
  rw [List.filterMap_eq_nil_iff]
  refine only.elim ?_
  intro _ _ _
  rfl

end Answers

section Parts

variable {self : ThreadId} {env : Environment} {w : World}

structure Looked (identifier : StdString) (caller : ThreadId) (found : Bool) (w u : World)
    (answers : List Entry) : Prop where
  after : u = (w.withHandler u.memory.wrapper.serverConnectionHandler).logged answers
  named : found = true → u.memory.wrapper.serverConnectionHandler ≠ 0 ∧
    answers.findSome? (Entry.named identifier) = some u.memory.wrapper.serverConnectionHandler
  unnamed : found = false → answers.findSome? (Entry.named identifier) = none
  refused : answers.any Entry.listRefused = true →
    u.memory.wrapper.serverConnectionHandler = w.memory.wrapper.serverConnectionHandler
  only : Only [.server, .memory] caller answers

-- The identifier of the handle 0 is never asked for.
def External.Handled (call : External) : Prop := call ≠ .teamspeak (.getServerUniqueIdentifier 0)

theorem findServer_handled (identifier : StdString) (serverList : List UInt64) :
    (findServer identifier serverList).Calls (Op.Keeping (fun m => m.client) External.Handled) := by
  have freeing (address : Nat) : (teamspeak (.freeMemory address)).Calls
      (Op.Keeping (fun m => m.client) External.Handled) :=
    ⟨⟨by simp [External.Handled], rfl⟩, fun _ => trivial⟩
  induction serverList with
  | nil => trivial
  | cons handle rest ih =>
    unfold findServer setHandler
    split
    · trivial
    rename_i nonzero
    refine Program.Calls.bind ⟨⟨by simpa [External.Handled] using nonzero, rfl⟩,
      fun _ => trivial⟩ ?_
    intro uid
    cases uid with
    | none => exact ih
    | some uid =>
      dsimp only
      split
      · exact Program.Calls.bind ⟨fun _ => rfl, fun _ => trivial⟩ fun _ => freeing _
      · exact (freeing _).bind fun _ => ih

theorem findSome_named_ne {identifier : StdString} {answers : List Entry}
    (handled : ∀ e ∈ answers, e.call.Handled) :
    answers.findSome? (Entry.named identifier) ≠ some 0 := by
  intro found
  obtain ⟨e, member, named⟩ := List.exists_of_findSome?_eq_some found
  have handled := handled e member
  obtain ⟨thread, call, reply⟩ := e
  cases call with
  | enet call | object call => cases named
  | teamspeak call =>
    cases call with
    | getServerUniqueIdentifier handle =>
      cases reply with
      | none => cases named
      | some uid =>
        unfold Entry.named at named
        dsimp only at named
        split at named
        · exact handled (by rw [Option.some.inj named])
        · cases named
    | _ => cases named

theorem wp_lookup (identifier : StdString) :
    wp (steps self env) (ts3VerifyServer identifier)
      (fun found u => ∃ answers, Looked identifier self found w u answers) w := by
  unfold ts3VerifyServer
  rw [wp_bind, wp_getServerConnectionHandlerList]
  rintro (_ | serverList) -
  · exact ⟨[_], rfl, by simp, fun _ => rfl, fun _ => rfl,
      .cons (by simp [TeamSpeakCall.topic]) .nil⟩
  simp only [wp_bind, setHandler, wp_setWrapper, Program.pure_eq, wp_ret, wp_freeMemory, wp_wrapper]
  refine wp_mono ?_ (wp_and (wp_findServer serverList.contents rfl)
    (wp_and (wp_keeping (findServer_handled identifier serverList.contents))
      (wp_keeping (findServer_on identifier serverList.contents))))
  rintro _ _ ⟨⟨answers, listing, rfl⟩, handled, only⟩ ⟨⟩ -
  let freed : Entry := ⟨self, .teamspeak (.freeMemory serverList.address), ()⟩
  let listed : Entry := ⟨self, .teamspeak .getServerConnectionHandlerList, some serverList⟩
  have known : answers.findSome? (Entry.named identifier) ≠ some 0 := by
    obtain ⟨told, trace, told'⟩ := handled.trace
    obtain rfl : answers = told := List.append_cancel_right trace
    exact findSome_named_ne fun e member => (told' e member).2
  have about : Only [.server, .memory] self answers := by
    obtain ⟨told, trace, told'⟩ := only.trace
    obtain rfl : answers = told := List.append_cancel_right trace
    exact told'
  have named : (freed :: (answers ++ [listed])).findSome? (Entry.named identifier) =
      answers.findSome? (Entry.named identifier) := by
    rw [List.findSome?_cons_of_isNone rfl, List.findSome?_append]
    exact Option.or_none
  have given : (freed :: (answers ++ [listed])).any Entry.listRefused = false := by
    simp only [List.any_cons, List.any_append, listing]
    rfl
  refine ⟨freed :: (answers ++ [listed]), ?_, ?_, ?_, by simp [given], ?_⟩
  · simp [World.logged, World.withHandler, World.setWrapper, World.record, freed, listed]
  · rw [named]
    cases found : answers.findSome? (Entry.named identifier) with
    | none => simp
    | some handle =>
      have nonzero : handle ≠ 0 := fun zero => known (zero ▸ found)
      simp [nonzero]
  · rw [named]
    cases found : answers.findSome? (Entry.named identifier) with
    | none => simp
    | some handle =>
      have nonzero : handle ≠ 0 := fun zero => known (zero ▸ found)
      simp [nonzero]
  · have single : Only [.server, .memory] self [listed] :=
      .cons (by simp [TeamSpeakCall.topic]) .nil
    exact .cons (by simp [TeamSpeakCall.topic]) (about.append single)

structure Identified (handle : UInt64) (id : AnyID) (w : World) (answers : List Entry) : Prop where
  told : handle ≠ 0 → answers.findSome? Entry.ownId = some id
  own : id ≠ 0 → handle ≠ 0 ∧ id = (w.teamspeak handle).ownId

theorem wp_identify (handle : UInt64) :
    wp (steps self env) (ts3ClientId handle) (fun id u => ∃ answers, u = w.logged answers ∧
      Only [.ownId] self answers ∧ Identified handle id w answers) w := by
  unfold ts3ClientId
  rw [wp_ite]
  split
  · rename_i zero
    exact ⟨[], rfl, .nil, fun nonzero => absurd zero nonzero, fun nonzero => absurd rfl nonzero⟩
  rename_i nonzero
  have only (call : TeamSpeakCall) (reply : call.Reply) (about : call.topic ∈ [Topic.ownId]) :
      Only [.ownId] self [⟨self, .teamspeak call, reply⟩] := .cons about .nil
  rw [wp_bind, wp_getConnectionStatus]
  rintro (_ | status) -
  · exact ⟨[_], rfl, .cons (by simp [TeamSpeakCall.topic]) .nil, fun _ => rfl, by simp⟩
  dsimp only
  rw [wp_ite]
  split
  · rename_i offline
    refine ⟨[_], rfl, .cons (by simp [TeamSpeakCall.topic]) .nil, fun _ => ?_, by simp⟩
    simp [Entry.ownId, offline]
  rw [wp_bind, wp_getClientID]
  rintro (_ | id) - told
  · exact ⟨[_, _], rfl, .cons (by simp [TeamSpeakCall.topic])
      (.cons (by simp [TeamSpeakCall.topic]) .nil), fun _ => rfl, by simp⟩
  · exact ⟨[_, _], rfl, .cons (by simp [TeamSpeakCall.topic])
      (.cons (by simp [TeamSpeakCall.topic]) .nil), fun _ => rfl, fun _ => ⟨nonzero, told id rfl⟩⟩

structure Moved (ok : Bool) (caller : ThreadId) (channelId : UInt64) (w u : World)
    (answers : List Entry) : Prop where
  memory : u.memory = w.memory
  trace : u.trace = answers ++ w.trace
  only : Only [.ownId, .move] caller answers
  answered : ok = answers.any Entry.moved
  on : ok = true →
    answers.findSome? Entry.movedOn = some w.memory.wrapper.serverConnectionHandler
  refused : ok = false → u.teamspeak = w.teamspeak
  moved : ok = true → w.memory.wrapper.serverConnectionHandler ≠ 0 ∧
    (u.teamspeak = w.teamspeak.on w.memory.wrapper.serverConnectionHandler
        (·.requestMove channelId) ∨
      u.teamspeak = w.teamspeak.on w.memory.wrapper.serverConnectionHandler
        fun c => (c.requestMove channelId).arrive channelId)

theorem wp_move (channelId : UInt64) (password : StdString) :
    wp (steps self env) (ts3MoveToChannel channelId password)
      (fun ok u => ∃ answers, Moved ok self channelId w u answers) w := by
  unfold ts3MoveToChannel
  rw [wp_bind, wp_wrapper, wp_bind]
  refine wp_mono ?_ (wp_identify w.memory.wrapper.serverConnectionHandler)
  rintro id _ ⟨answers, rfl, only, identified⟩
  have quiet : answers.any Entry.moved = false := only.moved (by simp)
  have only' : Only [.ownId, .move] self answers := only.mono (by simp)
  rw [wp_ite]
  split
  · exact ⟨answers, rfl, rfl, only', quiet.symm, by simp, fun _ => rfl, by simp⟩
  rename_i nonzero
  obtain ⟨handle, own⟩ := identified.own nonzero
  rw [wp_bind, wp_wrapper, wp_teamspeak]
  intro ok t _ step
  let asked : TeamSpeakCall := .requestClientMove w.memory.wrapper.serverConnectionHandler id
    channelId (cStr password)
  refine ⟨⟨self, .teamspeak asked, ok⟩ :: answers, rfl, rfl,
    .cons (by simp [TeamSpeakCall.topic, asked]) only', ?_, ?_, ?_, ?_⟩
  · simp [Entry.moved, quiet, asked]
  · rintro rfl
    simp [Entry.movedOn, asked]
  · rintro rfl
    simpa [TeamSpeakCall.Step] using step
  · rintro rfl
    refine ⟨handle, ?_⟩
    simpa [TeamSpeakCall.Step, own] using step

def World.handshakeSent (w : World) (caller : ThreadId) (statusCode : Int32)
    (identity : StdString) : Entry :=
  ⟨caller, .enet (.peerSend w.memory.client.peer networkHandshakeChannel (.handshake
    ⟨w.memory.client.gameId, w.memory.client.teamspeakId, statusCode, identity⟩) true), ()⟩

def World.statusSent (w : World) (caller : ThreadId) : Entry :=
  ⟨caller, .enet (.peerSend w.memory.client.peer networkStatusChannel (.status
    ⟨w.memory.client.talking, w.memory.client.microphoneMuted, w.memory.client.speakersMuted⟩)
    true), ()⟩

theorem wp_sendHandshake (statusCode : Int32) :
    wp (steps self env) (sendHandshake statusCode) (fun _ u => ∃ answers identity,
      u = w.logged (w.handshakeSent self statusCode identity :: answers) ∧
        Only [.readString] self answers) w := by
  unfold sendHandshake sendPacket
  simp only [wp_bind, wp_client]
  refine wp_mono ?_ (wp_asking ts3GetClientIdentity_on (by simp [Topic.Asks]))
  rintro identity _ ⟨answers, rfl, only⟩
  simp only [serializePacket, Bool.true_eq_false, if_false, wp_bind, wp_client, wp_peerSend]
  intro _ _
  exact ⟨answers, identity, rfl, only⟩

theorem wp_sendStatus :
    wp (steps self env) sendStatus (fun _ u => u = w.logged [w.statusSent self]) w := by
  unfold sendStatus sendPacket
  simp only [wp_bind, wp_client, serializePacket, Bool.true_eq_false, if_false, wp_peerSend]
  intro _ _
  rfl

end Parts

section Runs

variable (caller : ThreadId) (env : Environment)

-- The questions before the move, after which an own client that hears is muted for a while.
inductive Prepared (handle lastChannelId : UInt64) (muted : Bool) : World → World → Prop where
  | mk {w x y u : World} (channel : Exec (steps caller env) (ts3ChannelId handle) w lastChannelId x)
      (output : Exec (steps caller env) (ts3IsOutputMuted handle) x muted y)
      (silenced : if muted then u = y else
        ∃ ok, Exec (steps caller env) (ts3SetOutputMuted handle true) y ok u) :
      Prepared handle lastChannelId muted w u

inductive Announced (handle : UInt64) : World → World → Prop where
  | mk {w a b c d e u : World} {microphoneMuted speakersMuted reset set : Bool}
      (reply : Exec (steps caller env) (sendHandshake statusCodeOk) w () a)
      (input : Exec (steps caller env) (ts3IsInputMuted handle) a microphoneMuted b)
      (output : Exec (steps caller env) (ts3IsOutputMuted handle)
        (b.setClient fun m => { m with microphoneMuted := microphoneMuted }) speakersMuted c)
      (status : Exec (steps caller env) sendStatus
        (c.setClient fun m => { m with speakersMuted := speakersMuted }) () d)
      (listener : Exec (steps caller env) ts3ResetListenerPosition d reset e)
      (settings : Exec (steps caller env) (ts3Set3DSettings 0x40000000 0x40400000) e set u) :
      Announced handle w u

inductive Entered (handle lastChannelId channelId : UInt64) (tempMute : Bool) :
    World → World → Prop where
  | mk {w a b c d u : World} {clients : SortedSet AnyID} {teamspeakId : AnyID}
      (listing : Exec (steps caller env) (ts3ClientsInChannel channelId) w clients a)
      (muting : Exec (steps caller env)
        (forM clients.elems fun id => discard (ts3MuteClient id true)) a () b)
      (unsilenced : if tempMute then
        ∃ ok, Exec (steps caller env) (ts3SetOutputMuted handle false) b ok c else c = b)
      (own : Exec (steps caller env) (ts3ClientId handle) c teamspeakId d)
      (announced : Announced caller env handle
        (d.setClient fun m => { m with teamspeakId := teamspeakId, lastChannelId := lastChannelId })
        u) :
      Entered handle lastChannelId channelId tempMute w u

inductive HandshakeRun (p : HandshakeResponsePacket) : World → World → Prop where
  | unknown {w v u : World} (lookup : Exec (steps caller env)
        (ts3VerifyServer p.teamspeakServerUniqueIdentifier) w false v)
      (reply : Exec (steps caller env) (sendHandshake statusCodeNotConnectedToServer) v () u) :
      HandshakeRun p w u
  | refused {w v x y u : World} {lastChannelId : UInt64} {muted : Bool}
      (lookup : Exec (steps caller env)
        (ts3VerifyServer p.teamspeakServerUniqueIdentifier) w true v)
      (prepared : Prepared caller env v.memory.wrapper.serverConnectionHandler lastChannelId muted
        v x)
      (move : Exec (steps caller env) (ts3MoveToChannel p.channelId p.channelPassword) x false y)
      (reply : Exec (steps caller env) (sendHandshake statusCodeNotMovedToChannel) y () u) :
      HandshakeRun p w u
  | entered {w v x y u : World} {lastChannelId : UInt64} {muted : Bool}
      (lookup : Exec (steps caller env)
        (ts3VerifyServer p.teamspeakServerUniqueIdentifier) w true v)
      (prepared : Prepared caller env v.memory.wrapper.serverConnectionHandler lastChannelId muted
        v x)
      (move : Exec (steps caller env) (ts3MoveToChannel p.channelId p.channelPassword) x true y)
      (entered : Entered caller env v.memory.wrapper.serverConnectionHandler lastChannelId
        p.channelId (!muted) y u) :
      HandshakeRun p w u

end Runs

section Inversion

variable {self : ThreadId} {env : Environment} {w : World}

theorem wp_enterChannel (handle lastChannelId channelId : UInt64) (tempMute : Bool) :
    wp (steps self env) (enterChannel handle lastChannelId channelId tempMute)
      (fun _ u => Entered self env handle lastChannelId channelId tempMute w u) w := by
  have later {c b a : World} {clients : SortedSet AnyID}
      (listing : Exec (steps self env) (ts3ClientsInChannel channelId) w clients a)
      (muting : Exec (steps self env)
        (forM clients.elems fun id => discard (ts3MuteClient id true)) a () b)
      (unsilenced : if tempMute then
        ∃ ok, Exec (steps self env) (ts3SetOutputMuted handle false) b ok c else c = b) :
      wp (steps self env) (do
        let teamspeakId ← ts3ClientId handle
        setClient fun c => { c with teamspeakId := teamspeakId }
        setClient fun c => { c with lastChannelId := lastChannelId }
        sendHandshake statusCodeOk
        let microphoneMuted ← ts3IsInputMuted handle
        setClient fun c => { c with microphoneMuted := microphoneMuted }
        let speakersMuted ← ts3IsOutputMuted handle
        setClient fun c => { c with speakersMuted := speakersMuted }
        sendStatus
        discard ts3ResetListenerPosition
        discard (ts3Set3DSettings 0x40000000 0x40400000))
        (fun _ u => Entered self env handle lastChannelId channelId tempMute w u) c := by
    rw [wp_bind]
    refine wp_mono (fun teamspeakId d own => ?_) (wp_exec _ _)
    rw [wp_bind, wp_setClient, wp_bind, wp_setClient, World.setClient_setClient, wp_bind]
    refine wp_mono (fun _ e reply => ?_) (wp_exec _ _)
    rw [wp_bind]
    refine wp_mono (fun microphoneMuted f input => ?_) (wp_exec _ _)
    rw [wp_bind, wp_setClient, wp_bind]
    refine wp_mono (fun speakersMuted g output => ?_) (wp_exec _ _)
    rw [wp_bind, wp_setClient, wp_bind]
    refine wp_mono (fun _ h status => ?_) (wp_exec _ _)
    rw [wp_bind, wp_discard]
    refine wp_mono (fun reset i listener => ?_) (wp_exec _ _)
    rw [wp_discard]
    refine wp_mono (fun set u settings => ?_) (wp_exec _ _)
    exact .mk listing muting unsilenced own (.mk reply input output status listener settings)
  unfold enterChannel
  rw [wp_bind]
  refine wp_mono (fun clients a listing => ?_) (wp_exec _ _)
  rw [wp_bind]
  refine wp_mono (fun _ b muting => ?_) (wp_exec _ _)
  cases tempMute with
  | false => exact later listing muting rfl
  | true =>
    simp only [if_true]
    rw [wp_bind, wp_sleepFor, wp_bind, wp_discard]
    refine wp_mono (fun ok c unsilenced => ?_) (wp_exec _ _)
    exact later listing muting ⟨ok, unsilenced⟩

theorem wp_handshake_ignored {packet : Bytes}
    (ignored : ∀ p, receive HandshakeResponsePacket.serialize packet = some p →
      p.statusCode ≠ statusCodeOk) :
    wp (steps self env) (handleHandshakeResponse packet) (fun _ u => u = w) w := by
  unfold handleHandshakeResponse
  cases received : receive HandshakeResponsePacket.serialize packet with
  | none => exact rfl
  | some p =>
    dsimp only
    rw [if_pos (ignored p received)]
    exact rfl

theorem wp_handshake {packet : Bytes} {p : HandshakeResponsePacket}
    (received : receive HandshakeResponsePacket.serialize packet = some p)
    (accepted : p.statusCode = statusCodeOk) :
    wp (steps self env) (handleHandshakeResponse packet)
      (fun _ u => HandshakeRun self env p w u) w := by
  unfold handleHandshakeResponse
  rw [received]
  simp only [accepted, ne_eq, not_true, if_false]
  rw [wp_bind]
  refine wp_mono (fun found v lookup => ?_) (wp_exec _ _)
  cases found with
  | false =>
    simp only [Bool.not_false, if_true]
    rw [wp_bind]
    exact wp_mono (fun _ u reply => .unknown lookup reply) (wp_exec _ _)
  | true =>
    simp only [Bool.not_true, Bool.false_eq_true, if_false]
    have moving {muted : Bool} {lastChannelId : UInt64} {x : World} (prepared : Prepared self env
        v.memory.wrapper.serverConnectionHandler lastChannelId muted v x) :
        wp (steps self env) (do
          if !(← ts3MoveToChannel p.channelId p.channelPassword) then
            sendHandshake statusCodeNotMovedToChannel
            return ()
          enterChannel v.memory.wrapper.serverConnectionHandler lastChannelId p.channelId (!muted))
          (fun _ u => HandshakeRun self env p w u) x := by
      rw [wp_bind]
      refine wp_mono (fun moved y move => ?_) (wp_exec _ _)
      cases moved with
      | false =>
        simp only [Bool.not_false, if_true]
        rw [wp_bind]
        exact wp_mono (fun _ u reply => .refused lookup prepared move reply) (wp_exec _ _)
      | true =>
        simp only [Bool.not_true, Bool.false_eq_true, if_false]
        exact wp_mono (fun _ u entered => .entered lookup prepared move entered)
          (wp_enterChannel _ _ _ _)
    unfold ts3ServerConnectionHandle
    simp only [wp_bind, wp_wrapper, Program.pure_eq, wp_ret]
    refine wp_mono (fun lastChannelId x channel => ?_) (wp_exec _ _)
    refine wp_mono (fun muted y output => ?_) (wp_exec _ _)
    cases muted with
    | true => exact moving (.mk channel output rfl)
    | false =>
      simp only [Bool.not_false, if_true, wp_bind, wp_discard]
      refine wp_mono (fun ok z silenced => ?_) (wp_exec _ _)
      rw [wp_sleepFor, ← wp_bind]
      exact moving (.mk channel output ⟨ok, silenced⟩)

end Inversion

end JustAnotherVoiceChat
