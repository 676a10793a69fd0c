import JustAnotherVoiceChat.ClientPrograms
import JustAnotherVoiceChat.Execution

set_option autoImplicit false

namespace JustAnotherVoiceChat

open Binary Interaction

namespace World

def logged (w : World) (entries : List Entry) : World := { w with trace := entries ++ w.trace }

def withHandler (w : World) (handle : UInt64) : World :=
  w.setWrapper fun m => { m with serverConnectionHandler := handle }

def withMuted (w : World) (muted : SortedSet AnyID) : World :=
  w.setWrapper fun m => { m with mutedClients := muted }

section Fields

variable (w : World) (entries : List Entry) (handle : UInt64) (muted : SortedSet AnyID)

@[simp] theorem logged_memory : (w.logged entries).memory = w.memory := rfl
@[simp] theorem logged_teamspeak : (w.logged entries).teamspeak = w.teamspeak := rfl
@[simp] theorem logged_enet : (w.logged entries).enet = w.enet := rfl
@[simp] theorem logged_trace : (w.logged entries).trace = entries ++ w.trace := rfl

@[simp] theorem logged_logged (more : List Entry) :
    (w.logged entries).logged more = w.logged (more ++ entries) := by
  simp [logged]

@[simp] theorem withHandler_client : (w.withHandler handle).memory.client = w.memory.client := rfl
@[simp] theorem withHandler_wrapper : (w.withHandler handle).memory.wrapper =
    { w.memory.wrapper with serverConnectionHandler := handle } := rfl
@[simp] theorem withHandler_teamspeak : (w.withHandler handle).teamspeak = w.teamspeak := rfl
@[simp] theorem withHandler_trace : (w.withHandler handle).trace = w.trace := rfl

@[simp] theorem withMuted_client : (w.withMuted muted).memory.client = w.memory.client := rfl
@[simp] theorem withMuted_wrapper : (w.withMuted muted).memory.wrapper =
    { w.memory.wrapper with mutedClients := muted } := rfl
@[simp] theorem withMuted_teamspeak : (w.withMuted muted).teamspeak = w.teamspeak := rfl
@[simp] theorem withMuted_trace : (w.withMuted muted).trace = w.trace := rfl

end Fields

-- The cache is cleared whatever the answer.
def unmutedAll (w : World) (self : ThreadId) (ok : Bool) : World :=
  let handle := w.memory.wrapper.serverConnectionHandler
  let clients := w.memory.wrapper.mutedClients
  ((w.request handle (·.setMuted (untilZero (clientIdArray clients)) false) ok).asked
    self (.requestUnmuteClients handle (clientIdArray clients)) ok).withMuted .empty

end World

theorem untilZero_clientIdArray {clients : SortedSet AnyID} (nonzero : 0 ∉ clients) :
    untilZero (clientIdArray clients) = clients.elems := by
  have kept : ∀ id ∈ clients.elems, decide (id ≠ 0) = true := by
    intro id member
    have other : id ≠ 0 := by
      rintro rfl
      exact nonzero member
    simpa using other
  rw [untilZero, clientIdArray, List.takeWhile_append_of_pos kept]
  simp

section Muting

variable {self : ThreadId} {env : Environment} {w : World}

def mutingEntry (caller : ThreadId) (mute : Bool) (handle : UInt64) (clients : SortedSet AnyID)
    (ok : Bool) : Entry :=
  match mute with
  | true => ⟨caller, .teamspeak (.requestMuteClients handle (clientIdArray clients)), ok⟩
  | false => ⟨caller, .teamspeak (.requestUnmuteClients handle (clientIdArray clients)), ok⟩

def Environment.tellsMuting (env : Environment) (mute : Bool) (handle : UInt64)
    (clients : SortedSet AnyID) (w : World) (ok : Bool) : Prop :=
  match mute with
  | true => env.tells (.requestMuteClients handle (clientIdArray clients)) w ok
  | false => env.tells (.requestUnmuteClients handle (clientIdArray clients)) w ok

structure MuteRequested (caller : ThreadId) (mute : Bool) (clients : SortedSet AnyID) (ok : Bool)
    (w u : World) : Prop where
  client : u.memory.client = w.memory.client
  globals : u.memory.globals = w.memory.globals
  handler : u.memory.wrapper.serverConnectionHandler = w.memory.wrapper.serverConnectionHandler
  nickname : u.memory.wrapper.originalNickname = w.memory.wrapper.originalNickname
  cache : ∀ id, id ∈ u.memory.wrapper.mutedClients ↔
    if ok = true ∧ id ∈ clients then mute = true else id ∈ w.memory.wrapper.mutedClients
  teamspeak : u.teamspeak = accepted w.teamspeak w.memory.wrapper.serverConnectionHandler
    (·.setMuted (untilZero (clientIdArray clients)) mute) ok
  trace : u.trace =
    mutingEntry caller mute w.memory.wrapper.serverConnectionHandler clients ok :: w.trace

theorem wp_eachMuted (change : AnyID → SortedSet AnyID → SortedSet AnyID) (ids : List AnyID)
    {post : Unit → World → Prop} :
    wp (steps self env) (forM ids fun id => setMutedClients (change id)) post w ↔
      post () (w.withMuted
        (ids.foldl (fun cache id => change id cache) w.memory.wrapper.mutedClients)) := by
  induction ids generalizing w with
  | nil => rfl
  | cons id rest ih =>
    rw [List.forM_cons, wp_bind, setMutedClients, wp_setWrapper, ih]
    rfl

theorem requested_cached (mute : Bool) (clients cache : SortedSet AnyID) (ok : Bool)
    (cached : ok = true → ∀ id, id ∈ cache ↔
      if id ∈ clients then mute = true else id ∈ w.memory.wrapper.mutedClients) :
    let handle := w.memory.wrapper.serverConnectionHandler
    let asked := (w.request handle (·.setMuted (untilZero (clientIdArray clients)) mute) ok).logged
      [mutingEntry self mute handle clients ok]
    MuteRequested self mute clients ok w (if ok then asked.withMuted cache else asked) := by
  cases ok with
  | false => exact ⟨rfl, rfl, rfl, rfl, fun id => by simp, rfl, rfl⟩
  | true => exact ⟨rfl, rfl, rfl, rfl, fun id => by simpa using cached rfl id, rfl, rfl⟩

theorem wp_muting (mute : Bool) {clients : SortedSet AnyID} {post : Bool → World → Prop}
    (nobody : clients.isEmpty = true → post true w)
    (asked : ∀ ok u, ¬ clients.isEmpty = true →
      env.tellsMuting mute w.memory.wrapper.serverConnectionHandler clients w ok →
        MuteRequested self mute clients ok w u → post ok u) :
    wp (steps self env) (ts3MuteClients clients mute) post w := by
  unfold ts3MuteClients
  rw [wp_ite]
  split
  · exact nobody ‹_›
  rename_i somebody
  cases mute with
  | true =>
    simp only [if_true, wp_bind, wp_wrapper, wp_requestMuteClients]
    intro ok told
    have requested := asked ok _ somebody told (requested_cached true clients
      (w.memory.wrapper.mutedClients.insertAll clients.elems) ok fun _ id => by
        by_cases named : id ∈ clients <;> simp [named, SortedSet.mem_elems])
    cases ok with
    | false => exact requested
    | true =>
      rw [if_pos rfl, wp_bind, wp_eachMuted]
      exact requested
  | false =>
    simp only [Bool.false_eq_true, if_false, wp_bind, wp_wrapper, wp_requestUnmuteClients]
    intro ok told
    have requested := asked ok _ somebody told (requested_cached false clients
      (w.memory.wrapper.mutedClients.eraseAll clients.elems) ok fun _ id => by
        by_cases named : id ∈ clients <;> simp [named, SortedSet.mem_elems])
    cases ok with
    | false => exact requested
    | true =>
      rw [if_pos rfl, wp_bind, wp_eachMuted]
      exact requested

theorem wp_ts3UnmuteAllClients {post : Bool → World → Prop} :
    wp (steps self env) ts3UnmuteAllClients post w ↔
      if w.memory.wrapper.mutedClients.isEmpty then post true w
      else ∀ ok, env.tells (.requestUnmuteClients w.memory.wrapper.serverConnectionHandler
        (clientIdArray w.memory.wrapper.mutedClients)) w ok → post ok (w.unmutedAll self ok) := by
  unfold ts3UnmuteAllClients
  simp [wp_bind, setMutedClients, World.unmutedAll]
  rfl

end Muting

theorem wp_ts3SetClientPosition {self : ThreadId} {env : Environment} {w : World}
    {clientId : AnyID} {x y z : Single} {post : Bool → World → Prop} :
    wp (steps self env) (ts3SetClientPosition clientId x y z) post w ↔
      if w.memory.wrapper.serverConnectionHandler = 0 then post false w
      else wp (steps self env) (teamspeak (.channelset3DAttributes
        w.memory.wrapper.serverConnectionHandler clientId ⟨x, y, z⟩)) post w := by
  unfold ts3SetClientPosition
  simp only [wp_bind, wp_wrapper, wp_ite, Program.pure_eq, wp_ret]

def Entry.named (uniqueIdentifier : StdString) : Entry → Option UInt64
  | ⟨_, .teamspeak (.getServerUniqueIdentifier handle), some uid⟩ =>
    if uniqueIdentifier = uid.contents.text then some handle else none
  | _ => none

def Entry.listRefused : Entry → Bool
  | ⟨_, .teamspeak .getServerConnectionHandlerList, none⟩ => true
  | _ => false

-- The handle that a lookup ends with, from the answers it got and the handle before it.
def serverAfter (uniqueIdentifier : StdString) (current : UInt64) (answers : List Entry) : UInt64 :=
  if answers.any Entry.listRefused then current
  else (answers.findSome? (Entry.named uniqueIdentifier)).getD 0

section Server

variable {self : ThreadId} {env : Environment} {w : World} {uniqueIdentifier : StdString}

theorem wp_findServer (serverList : List UInt64)
    (before : w.memory.wrapper.serverConnectionHandler = 0) :
    wp (steps self env) (findServer uniqueIdentifier serverList) (fun _ u => ∃ answers,
      answers.any Entry.listRefused = false ∧
      u = (w.withHandler
        ((answers.findSome? (Entry.named uniqueIdentifier)).getD 0)).logged answers)
      w := by
  induction serverList generalizing w with
  | nil => exact ⟨[], rfl, by simp [World.logged, World.withHandler, World.setWrapper, ← before]⟩
  | cons handle rest ih =>
    have later (v : World) (answers : List Entry) (same : v = w.logged answers)
        (quiet : answers.any Entry.listRefused = false)
        (unnamed : answers.findSome? (Entry.named uniqueIdentifier) = none) :
        wp (steps self env) (findServer uniqueIdentifier rest) (fun _ u => ∃ answers,
          answers.any Entry.listRefused = false ∧ u = (w.withHandler
            ((answers.findSome? (Entry.named uniqueIdentifier)).getD 0)).logged answers) v := by
      subst same
      refine wp_mono ?_ (ih before)
      rintro _ _ ⟨more, still, rfl⟩
      refine ⟨more ++ answers, by simp [quiet, still], ?_⟩
      simp [unnamed, World.logged, World.withHandler, World.setWrapper]
    unfold findServer
    by_cases zero : handle = 0
    · rw [if_pos zero]
      exact ⟨[], rfl, by simp [World.logged, World.withHandler, World.setWrapper, ← before]⟩
    rw [if_neg zero, wp_bind, wp_getServerUniqueIdentifier]
    rintro (_ | uid) -
    · exact later _ [_] rfl rfl rfl
    by_cases same : uniqueIdentifier = uid.contents.text
    · simp only [if_pos same, wp_bind, setHandler, wp_setWrapper, wp_freeMemory]
      rintro ⟨⟩ -
      let freed : Entry := ⟨self, .teamspeak (.freeMemory uid.address), ()⟩
      let named : Entry := ⟨self, .teamspeak (.getServerUniqueIdentifier handle), some uid⟩
      have found : [freed, named].findSome? (Entry.named uniqueIdentifier) = some handle := by
        have matched : Entry.named uniqueIdentifier named = some handle := if_pos same
        rw [List.findSome?_cons_of_isNone rfl, List.findSome?_cons_of_isSome (by simp [matched]),
          matched]
      refine ⟨[freed, named], rfl, ?_⟩
      rw [found]
      rfl
    · simp only [if_neg same, wp_bind, wp_freeMemory]
      rintro ⟨⟩ -
      exact later _ [_, _] rfl rfl (by simp [Entry.named, same])

theorem wp_ts3VerifyServer :
    wp (steps self env) (ts3VerifyServer uniqueIdentifier) (fun found u => ∃ answers,
      u = (w.withHandler (serverAfter uniqueIdentifier w.memory.wrapper.serverConnectionHandler
        answers)).logged answers ∧
      (answers.any Entry.listRefused = false →
        found = decide (u.memory.wrapper.serverConnectionHandler ≠ 0)) ∧
      (answers.any Entry.listRefused = true → found = false)) w := by
  unfold ts3VerifyServer
  rw [wp_bind, wp_getServerConnectionHandlerList]
  rintro (_ | serverList) -
  · let refused : Entry := ⟨self, .teamspeak .getServerConnectionHandlerList, none⟩
    have denied : [refused].any Entry.listRefused = true := rfl
    exact ⟨[refused], rfl, fun given => by simp [denied] at given, fun _ => rfl⟩
  simp only [wp_bind, setHandler, wp_setWrapper, Program.pure_eq, wp_ret, wp_freeMemory, wp_wrapper]
  refine wp_mono ?_ (wp_findServer serverList.contents rfl)
  rintro _ _ ⟨answers, quiet, rfl⟩ ⟨⟩ -
  let freed : Entry := ⟨self, .teamspeak (.freeMemory serverList.address), ()⟩
  let listed : Entry := ⟨self, .teamspeak .getServerConnectionHandlerList, some serverList⟩
  have still : (freed :: (answers ++ [listed])).any Entry.listRefused = false := by
    simp only [List.any_cons, List.any_append, quiet]
    rfl
  have named : (freed :: (answers ++ [listed])).findSome? (Entry.named uniqueIdentifier) =
      answers.findSome? (Entry.named uniqueIdentifier) := by
    rw [List.findSome?_cons_of_isNone rfl, List.findSome?_append]
    exact Option.or_none
  refine ⟨freed :: (answers ++ [listed]), ?_, fun _ => by simp, by simp [still]⟩
  rw [serverAfter, if_neg (by simp [still]), named]
  simp [World.logged, World.withHandler, World.setWrapper, World.record, freed, listed]

end Server

def External.isTeamspeak : External → Bool
  | .teamspeak _ => true
  | _ => false

def External.leavesEnet : External → Bool
  | .enet (.hostCreate _ _) | .enet (.hostConnect _ _ _ _) | .enet (.serviceEnd _ _)
  | .enet (.peerReset _) => false
  | _ => true

def Op.Keeping {α : Type} (part : Memory → α) (calls : External → Prop) : Op → Prop
  | .load | .sleep _ => True
  | .store update => ∀ m, part (update m) = part m
  | .external call => calls call ∧ call.leavesEnet = true
  | .thread _ => False

theorem Op.Keeping.mono {α β : Type} {part : Memory → α} {less : Memory → β}
    {calls : External → Prop} (f : α → β) (part_of : ∀ m, less m = f (part m)) {op : Op}
    (keeping : op.Keeping part calls) : op.Keeping less calls := by
  cases op with
  | store update =>
    intro m
    rw [part_of, part_of, keeping m]
  | load | sleep | external call | thread call => exact keeping

def Op.OfWrapper : Op → Prop :=
  Op.Keeping (fun m => (m.client, m.globals)) fun call => call.isTeamspeak = true

theorem Op.OfWrapper.elim {holds : Op → Prop} {op : Op} (ofWrapper : op.OfWrapper)
    (loads : holds .load) (sleeps : ∀ milliseconds, holds (.sleep milliseconds))
    (stores : ∀ update : Memory → Memory, (∀ m, (update m).client = m.client) →
      holds (.store update))
    (asks : ∀ call : TeamSpeakCall, holds (.external (.teamspeak call))) : holds op := by
  cases op with
  | load => exact loads
  | sleep milliseconds => exact sleeps milliseconds
  | store update => exact stores update fun m => congrArg Prod.fst (ofWrapper m)
  | thread => cases ofWrapper
  | external call =>
    cases call with
    | teamspeak call => exact asks call
    | enet | object => cases ofWrapper.1

section Calls

open Program

theorem load_calls : load.Calls Op.OfWrapper := ⟨trivial, fun _ => trivial⟩

theorem teamspeak_calls (call : TeamSpeakCall) : (teamspeak call).Calls Op.OfWrapper :=
  ⟨⟨rfl, rfl⟩, fun _ => trivial⟩

theorem sleepFor_calls (milliseconds : Nat) : (sleepFor milliseconds).Calls Op.OfWrapper :=
  ⟨trivial, fun _ => trivial⟩

theorem setWrapper_calls (update : Wrapper → Wrapper) : (setWrapper update).Calls Op.OfWrapper :=
  ⟨fun _ => rfl, fun _ => trivial⟩

theorem discard_calls {α : Type} {allowed : Op → Prop} {p : Plugin α} (calls : p.Calls allowed) :
    (discard p).Calls allowed :=
  calls.bind fun _ => trivial

theorem repeatUntil_calls {α : Type} {allowed : Op → Prop} {body : Plugin (Option α)}
    (calls : body.Calls allowed) : (repeatUntil body).Calls allowed :=
  ⟨calls, fun _ => trivial⟩

theorem wrapperPrograms_calls :
    WrapperPrograms (fun _ => True) (fun {_} p => p.Calls Op.OfWrapper) where
  toPluginPrograms := .of_load trivial
  sleepFor := sleepFor_calls
  teamspeak _ := teamspeak_calls _
  poll _ _ := repeatUntil_calls

theorem pollRound_calls (channelId : UInt64) : (pollRound channelId).Calls Op.OfWrapper :=
  wrapperPrograms_calls.pollRound trivial channelId

theorem ts3ServerConnectionHandle_calls : ts3ServerConnectionHandle.Calls Op.OfWrapper :=
  wrapperPrograms_calls.ts3ServerConnectionHandle

theorem ts3VerifyServer_calls (uniqueIdentifier : StdString) :
    (ts3VerifyServer uniqueIdentifier).Calls Op.OfWrapper :=
  wrapperPrograms_calls.ts3VerifyServer trivial trivial (fun _ => setWrapper_calls _) _

theorem ts3ClientId_calls (handle : UInt64) : (ts3ClientId handle).Calls Op.OfWrapper :=
  wrapperPrograms_calls.ts3ClientId trivial handle

theorem ts3ChannelId_calls (handle : UInt64) : (ts3ChannelId handle).Calls Op.OfWrapper :=
  wrapperPrograms_calls.ts3ChannelId trivial trivial handle

theorem ts3MoveToChannel_calls (channelId : UInt64) (password : StdString) :
    (ts3MoveToChannel channelId password).Calls Op.OfWrapper :=
  wrapperPrograms_calls.ts3MoveToChannel trivial trivial channelId password

theorem ts3MuteClients_calls (clients : SortedSet AnyID) (mute : Bool) :
    (ts3MuteClients clients mute).Calls Op.OfWrapper :=
  wrapperPrograms_calls.ts3MuteClients trivial (fun _ => setWrapper_calls _) clients mute

theorem ts3MuteClient_calls (clientId : AnyID) (mute : Bool) :
    (ts3MuteClient clientId mute).Calls Op.OfWrapper :=
  ts3MuteClients_calls _ mute

theorem ts3UnmuteAllClients_calls : ts3UnmuteAllClients.Calls Op.OfWrapper :=
  wrapperPrograms_calls.ts3UnmuteAllClients trivial fun _ => setWrapper_calls _

theorem ts3ClientsInChannel_calls (channelId : UInt64) :
    (ts3ClientsInChannel channelId).Calls Op.OfWrapper :=
  wrapperPrograms_calls.ts3ClientsInChannel trivial trivial channelId

theorem ts3ResetNickname_calls : ts3ResetNickname.Calls Op.OfWrapper :=
  wrapperPrograms_calls.ts3ResetNickname trivial trivial fun _ => setWrapper_calls _

theorem ts3GetClientIdentity_calls : ts3GetClientIdentity.Calls Op.OfWrapper :=
  wrapperPrograms_calls.ts3GetClientIdentity trivial

theorem ts3SetClientPosition_calls (clientId : AnyID) (x y z : Single) :
    (ts3SetClientPosition clientId x y z).Calls Op.OfWrapper :=
  wrapperPrograms_calls.ts3SetClientPosition trivial clientId x y z

theorem ts3ResetListenerPosition_calls : ts3ResetListenerPosition.Calls Op.OfWrapper :=
  wrapperPrograms_calls.ts3ResetListenerPosition trivial

theorem ts3Set3DSettings_calls (distanceFactor rolloffScale : Single) :
    (ts3Set3DSettings distanceFactor rolloffScale).Calls Op.OfWrapper :=
  wrapperPrograms_calls.ts3Set3DSettings trivial distanceFactor rolloffScale

theorem ts3ResetClients3DPositions_calls : ts3ResetClients3DPositions.Calls Op.OfWrapper :=
  wrapperPrograms_calls.ts3ResetClients3DPositions trivial trivial trivial trivial

theorem ts3IsInputMuted_calls (handle : UInt64) : (ts3IsInputMuted handle).Calls Op.OfWrapper :=
  wrapperPrograms_calls.ts3IsInputMuted trivial handle

theorem ts3IsOutputMuted_calls (handle : UInt64) : (ts3IsOutputMuted handle).Calls Op.OfWrapper :=
  wrapperPrograms_calls.ts3IsOutputMuted trivial handle

theorem ts3SetOutputMuted_calls (handle : UInt64) (muted : Bool) :
    (ts3SetOutputMuted handle muted).Calls Op.OfWrapper :=
  wrapperPrograms_calls.ts3SetOutputMuted trivial handle muted

theorem handleUpdateMessage_calls (packet : Bytes) :
    (handleUpdateMessage packet).Calls Op.OfWrapper :=
  wrapperPrograms_calls.updateMessage trivial trivial (fun _ => setWrapper_calls _) packet

theorem handleControlMessage_calls (packet : Bytes) :
    (handleControlMessage packet).Calls Op.OfWrapper :=
  wrapperPrograms_calls.controlMessage trivial trivial trivial (fun _ => setWrapper_calls _) packet

theorem handlePositionMessage_calls (packet : Bytes) :
    (handlePositionMessage packet).Calls Op.OfWrapper :=
  wrapperPrograms_calls.positionMessage trivial packet

theorem PartPrograms.of_wrapper {holds : {α : Type} → Plugin α → Prop}
    (bind : ∀ {α β : Type} {p : Plugin α} {f : α → Plugin β}, holds p →
      (∀ value, holds (f value)) → holds (p >>= f))
    (ofWrapper : ∀ {α : Type} {p : Plugin α}, p.Calls Op.OfWrapper → holds p) :
    PartPrograms holds where
  pure _ := ofWrapper trivial
  bind := bind
  load := ofWrapper load_calls
  sleepFor milliseconds := ofWrapper (sleepFor_calls milliseconds)
  teamspeak _ := ofWrapper (teamspeak_calls _)
  poll _ channelId _ := ofWrapper (repeatUntil_calls (pollRound_calls channelId))
  setWrapper update := ofWrapper (setWrapper_calls update)

end Calls

structure Beside {α : Type} (part : Memory → α) (calls : External → Prop) (caller : ThreadId)
    (w u : World) : Prop where
  memory : part u.memory = part w.memory
  enet : u.enet = w.enet
  phase : u.phase = w.phase
  trace : ∃ entries, u.trace = entries ++ w.trace ∧ ∀ e ∈ entries, e.thread = caller ∧ calls e.call

section Beside

variable {α : Type} {part : Memory → α} {calls : External → Prop} {self : ThreadId}
  {env : Environment} {w : World}

instance : Std.Refl (Beside part calls self) := ⟨fun _ => ⟨rfl, rfl, rfl, [], rfl, by simp⟩⟩

instance : IsTrans World (Beside part calls self) where
  trans _ _ _ first second := by
    obtain ⟨entries, trace, told⟩ := first.trace
    obtain ⟨more, trace', told'⟩ := second.trace
    refine ⟨second.memory.trans first.memory, second.enet.trans first.enet,
      second.phase.trans first.phase, more ++ entries, by simp [trace, trace'], ?_⟩
    intro e member
    exact (List.mem_append.mp member).elim (told' e) (told e)

theorem External.Step.leaves {call : External} {u v : World} {reply : call.Reply}
    (step : call.Step u reply v) (leaves : call.leavesEnet = true) :
    v.enet = u.enet ∧ v.memory = u.memory ∧ v.phase = u.phase ∧ v.trace = u.trace := by
  cases call with
  | teamspeak call =>
    obtain ⟨t, -, rfl⟩ := step
    exact ⟨rfl, rfl, rfl, rfl⟩
  | object call =>
    obtain rfl : v = u := step
    exact ⟨rfl, rfl, rfl, rfl⟩
  | enet call =>
    obtain ⟨e, stepped, rfl⟩ := step
    refine ⟨?_, rfl, rfl, rfl⟩
    cases call with
    | hostCreate | hostConnect | serviceEnd | peerReset => cases leaves
    | addressSetHost => exact stepped.2
    | serviceBegin | peerDisconnect | hostDestroy | packetDestroy | peerSend => exact stepped

theorem beside_step {op : Op} {u v : World} {reply : op.Reply} (keeping : op.Keeping part calls)
    (before : Beside part calls self w u) (step : steps self env op u reply v) :
    Beside part calls self w v := by
  cases op with
  | load =>
    obtain ⟨-, rfl⟩ := step
    exact before
  | sleep milliseconds =>
    obtain rfl : v = u := step
    exact before
  | store update =>
    obtain rfl : v = _ := step
    exact ⟨(keeping u.memory).trans before.memory, before.enet, before.phase, before.trace⟩
  | thread call => cases keeping
  | external call =>
    obtain ⟨-, x, stepped, rfl⟩ := step
    obtain ⟨enet, memory, phase, trace⟩ := stepped.leaves keeping.2
    obtain ⟨entries, trace', told⟩ := before.trace
    refine ⟨(congrArg part memory).trans before.memory, enet.trans before.enet,
      phase.trans before.phase, ⟨self, call, reply⟩ :: entries, ?_, ?_⟩
    · simp [trace, trace']
    · intro e member
      rcases List.mem_cons.mp member with rfl | member
      · exact ⟨rfl, keeping.1⟩
      · exact told e member

theorem wp_keeping {β : Type} {p : Plugin β} (keeping : p.Calls (Op.Keeping part calls)) :
    wp (steps self env) p (fun _ u => Beside part calls self w u) w :=
  wp_of_calls keeping (fun _ _ _ _ keeping before step => beside_step keeping before step)
    (Std.Refl.refl w)

end Beside

end JustAnotherVoiceChat
