import JustAnotherVoiceChat.Connecting
import JustAnotherVoiceChat.MuteCache
import JustAnotherVoiceChat.Plugin

set_option autoImplicit false

namespace JustAnotherVoiceChat

open Binary Interaction

namespace MoveEvents

-- A client moves; only the channel may be 0, for a client that connects or disconnects.
structure MoveEvent where
  client : AnyID
  oldChannel : UInt64
  newChannel : UInt64
  nonzero : client ≠ 0

def MoveEvent.handler (event : MoveEvent) (connection : UInt64) : Plugin Unit :=
  ts3pluginOnClientMoveEvent connection event.client event.oldChannel event.newChannel

structure Ingame (connection : UInt64) (w : World) : Prop where
  created : w.memory.globals.client ≠ .null
  ingame : w.memory.client.IsIngame
  handle : w.memory.wrapper.serverConnectionHandler = connection

def told {β : Type} (part : Entry → Option β) (answers : List Entry) : List β :=
  answers.reverse.filterMap part

def identity : Entry → Option (Option AnyID)
  | ⟨_, .teamspeak (.getConnectionStatus _), reply⟩ => match reply with
    | none => some none
    | some status => if status ≤ 0 then some none else none
  | ⟨_, .teamspeak (.getClientID _), reply⟩ => some reply
  | _ => none

def channel : Entry → Option (Option UInt64)
  | ⟨_, .teamspeak (.getChannelOfClient _ _), reply⟩ => some reply
  | _ => none

def request : Entry → Option TeamSpeakCall
  | ⟨_, .teamspeak (.requestMuteClients handle ids), _⟩ => some (.requestMuteClients handle ids)
  | ⟨_, .teamspeak (.requestUnmuteClients handle ids), _⟩ => some (.requestUnmuteClients handle ids)
  | ⟨_, .teamspeak (.channelset3DAttributes handle id position), _⟩ =>
    some (.channelset3DAttributes handle id position)
  | _ => none

def firstId (answers : List Entry) : Option AnyID := (told identity answers)[0]?.join

def secondId (answers : List Entry) : Option AnyID := (told identity answers)[1]?.join

def ownChannel (answers : List Entry) : Option UInt64 := (told channel answers)[0]?.join

-- The second own id is the one with which the own channel is asked for.
def Determined (answers : List Entry) : Prop :=
  (secondId answers).isSome = true ∧ (ownChannel answers).isSome = true

instance (answers : List Entry) : Decidable (Determined answers) :=
  inferInstanceAs (Decidable (_ ∧ _))

def expected (connection : UInt64) (event : MoveEvent) (w : World) (answers : List Entry) :
    List TeamSpeakCall :=
  if event.client = (w.teamspeak connection).ownId then []
  else if ¬ Determined answers then []
  else if (w.teamspeak connection).ownChannel = event.newChannel then
    [.requestMuteClients connection [event.client, 0]]
  else if (w.teamspeak connection).ownChannel = event.oldChannel then
    [.channelset3DAttributes connection event.client ⟨0, 0, 0⟩,
      .requestUnmuteClients connection [event.client, 0]]
  else []

structure Untouched (connection : UInt64) (clients : AnyID → Prop) (w u : World) : Prop where
  muted : ∀ handle id, handle ≠ connection ∨ clients id →
    (u.teamspeak handle).muted id = (w.teamspeak handle).muted id
  position : ∀ handle id, handle ≠ connection ∨ clients id →
    (u.teamspeak handle).position id = (w.teamspeak handle).position id
  cache : ∀ id, clients id →
    (id ∈ u.memory.wrapper.mutedClients ↔ id ∈ w.memory.wrapper.mutedClients)

structure Proper (connection : UInt64) (event : MoveEvent) (w u : World) (answers : List Entry) :
    Prop where
  requests : told request answers = expected connection event w answers
  nothing : expected connection event w answers = [] → Untouched connection (fun _ => True) w u
  others : Untouched connection (· ≠ event.client) w u

-- The questions are answered as it takes: the own client is known as such when the event is about
-- it, the own channel is known when the event is about another client, or what is taken for the own
-- channel, 0 if it is unknown, has nothing to do with the event.
def Told (connection : UInt64) (event : MoveEvent) (w : World) (answers : List Entry) : Prop :=
  (event.client = (w.teamspeak connection).ownId ∧ (firstId answers).isSome = true) ∨
    (event.client ≠ (w.teamspeak connection).ownId ∧ Determined answers) ∨
      (ownChannel answers).getD 0 ≠ event.oldChannel ∧
        (ownChannel answers).getD 0 ≠ event.newChannel

section Told

variable {β : Type} {part : Entry → Option β}

theorem told_append (newer older : List Entry) :
    told part (newer ++ older) = told part older ++ told part newer := by
  simp [told]

end Told

theorem Untouched.refl (connection : UInt64) (clients : AnyID → Prop) (w : World) :
    Untouched connection clients w w := ⟨fun _ _ _ => rfl, fun _ _ _ => rfl, fun _ _ => Iff.rfl⟩

theorem Untouched.trans {connection : UInt64} {clients : AnyID → Prop} {w u v : World}
    (first : Untouched connection clients w u) (second : Untouched connection clients u v) :
    Untouched connection clients w v :=
  ⟨fun handle id other => (second.muted handle id other).trans (first.muted handle id other),
    fun handle id other => (second.position handle id other).trans (first.position handle id other),
    fun id other => (second.cache id other).trans (first.cache id other)⟩

section Runs

variable {self : ThreadId} {env : Environment} {w : World} {connection : UInt64}

structure Asks (handle : UInt64) (outcome : Option AnyID) (w : World) (answers : List Entry) :
    Prop where
  own : ∀ id ∈ outcome, id = (w.teamspeak handle).ownId ∧ handle ≠ 0
  identities : told identity answers = if handle = 0 then [] else [outcome]
  channels : told channel answers = []
  requests : told request answers = []

theorem wp_ask (handle : UInt64) : wp (steps self env) (ts3ClientId handle) (fun id u =>
    ∃ answers outcome, u = w.logged answers ∧ id = outcome.getD 0 ∧
      Asks handle outcome w answers) w := by
  unfold ts3ClientId
  rw [wp_ite]
  split
  · rename_i zero
    exact ⟨[], none, rfl, rfl, by simp, (if_pos zero).symm, rfl, rfl⟩
  rename_i known
  rw [wp_bind, wp_getConnectionStatus]
  intro status _
  cases status with
  | none => exact ⟨[_], none, rfl, rfl, by simp, (if_neg known).symm, rfl, rfl⟩
  | some status =>
    dsimp only
    rw [wp_ite]
    split
    · rename_i offline
      refine ⟨[_], none, rfl, rfl, by simp, ?_, rfl, rfl⟩
      simp [told, identity, offline, known]
    · rename_i online
      rw [wp_bind, wp_getClientID]
      intro id _ own
      cases id with
      | none =>
        refine ⟨[_, _], none, rfl, rfl, by simp, ?_, rfl, rfl⟩
        simp [told, identity, online, known]
      | some id =>
        refine ⟨[_, _], some id, rfl, rfl, fun id given => ⟨own id given, known⟩, ?_, rfl, rfl⟩
        simp [told, identity, online, known]

structure AsksChannel (handle : UInt64) (outcome : Option AnyID) (reply : Option UInt64)
    (w : World) (answers : List Entry) : Prop where
  own : ∀ id ∈ outcome, ∀ channelId ∈ reply,
    channelId = (w.teamspeak handle).ownChannel ∧ handle ≠ 0
  identities : told identity answers = if handle = 0 then [] else [outcome]
  channels : told channel answers = [reply]
  requests : told request answers = []

theorem wp_askChannel (handle : UInt64) : wp (steps self env) (ts3ChannelId handle) (fun id u =>
    ∃ answers outcome reply, u = w.logged answers ∧ id = reply.getD 0 ∧
      AsksChannel handle outcome reply w answers) w := by
  unfold ts3ChannelId
  rw [wp_bind]
  apply wp_mono ?_ (wp_ask handle)
  intro id u asked
  obtain ⟨answers, outcome, rfl, rfl, asks⟩ := asked
  rw [wp_bind, wp_getChannelOfClient]
  intro reply _ actual
  let question : Entry :=
    ⟨self, .teamspeak (.getChannelOfClient handle (outcome.getD 0)), reply⟩
  have identities : told identity (question :: answers) = told identity answers := by
    rw [← List.singleton_append, told_append, show told identity [question] = [] from rfl,
      List.append_nil]
  have channels : told channel (question :: answers) = [reply] := by
    rw [← List.singleton_append, told_append, asks.channels]
    rfl
  have requests : told request (question :: answers) = [] := by
    rw [← List.singleton_append, told_append, asks.requests]
    rfl
  have asksChannel : AsksChannel handle outcome reply w (question :: answers) := by
    refine ⟨?_, ?_, channels, requests⟩
    · intro id known channelId given
      obtain ⟨own, nonzero⟩ := asks.own id known
      refine ⟨actual channelId given ?_, nonzero⟩
      rw [Option.mem_def.mp known]
      exact own
    · rw [identities]
      exact asks.identities
  cases reply with
  | none => exact ⟨_, outcome, none, rfl, rfl, asksChannel⟩
  | some channelId => exact ⟨_, outcome, some channelId, rfl, rfl, asksChannel⟩

structure Requests (connection : UInt64) (client : AnyID) (calls : List TeamSpeakCall) (w u : World)
    (answers : List Entry) : Prop where
  trace : u.trace = answers ++ w.trace
  requests : told request answers = calls
  identities : told identity answers = []
  channels : told channel answers = []
  others : Untouched connection (· ≠ client) w u
  client : u.memory.client = w.memory.client
  globals : u.memory.globals = w.memory.globals
  handle : u.memory.wrapper.serverConnectionHandler = w.memory.wrapper.serverConnectionHandler

theorem Requests.nil (connection : UInt64) (client : AnyID) (w : World) :
    Requests connection client [] w w [] :=
  ⟨rfl, rfl, rfl, rfl, .refl _ _ w, rfl, rfl, rfl⟩

theorem Requests.trans {client : AnyID} {first second : List TeamSpeakCall} {u v : World}
    {older newer : List Entry} (before : Requests connection client first w u older)
    (after : Requests connection client second u v newer) :
    Requests connection client (first ++ second) w v (newer ++ older) := by
  refine ⟨?_, ?_, ?_, ?_, before.others.trans after.others, after.client.trans before.client,
    after.globals.trans before.globals, after.handle.trans before.handle⟩
  · rw [after.trace, before.trace, List.append_assoc]
  · rw [told_append, before.requests, after.requests]
  · rw [told_append, before.identities, after.identities]
    rfl
  · rw [told_append, before.channels, after.channels]
    rfl

theorem untilZero_single {client : AnyID} (nonzero : client ≠ 0) :
    untilZero (clientIdArray (.singleton client)) = [client] := by
  have absent : 0 ∉ SortedSet.singleton client := by
    simpa using Ne.symm nonzero
  exact untilZero_clientIdArray absent

theorem singleton_some (client : AnyID) : ¬ (SortedSet.singleton client).isEmpty = true := by
  rw [SortedSet.isEmpty_iff]
  intro none
  exact none client (SortedSet.mem_singleton.mpr rfl)

theorem untouched_requested {client : AnyID} {mute ok : Bool} {u : World} (nonzero : client ≠ 0)
    (requested : MuteRequested self mute (.singleton client) ok w u) :
    Untouched w.memory.wrapper.serverConnectionHandler (· ≠ client) w u := by
  refine ⟨fun handle id other => ?_, fun handle id _ => ?_, fun id other => ?_⟩
  · rw [requested.teamspeak, accepted_muted, untilZero_single nonzero]
    apply if_neg
    intro touched
    rcases other with elsewhere | another
    · exact elsewhere touched.2.1
    · exact another (List.mem_singleton.mp touched.2.2)
  · rw [requested.teamspeak]
    apply congrFun (accepted_part Connection.position _ _ _ ?_ handle) id
    exact fun _ => rfl
  · have another : ¬ (ok = true ∧ id ∈ SortedSet.singleton client) :=
      fun touched => other (SortedSet.mem_singleton.mp touched.2)
    rw [requested.cache, if_neg another]

theorem wp_requestMuting {client : AnyID} (nonzero : client ≠ 0) (mute : Bool)
    (handle : w.memory.wrapper.serverConnectionHandler = connection) :
    wp (steps self env) (ts3MuteClient client mute)
      (fun _ u => ∃ answers, Requests connection client
      [if mute = true then .requestMuteClients connection [client, 0]
        else .requestUnmuteClients connection [client, 0]] w u answers) w := by
  subst handle
  apply wp_muting
  · intro none
    exact absurd none (singleton_some client)
  · intro ok u _ _ requested
    refine ⟨[_], requested.trace, ?_, ?_, ?_, untouched_requested nonzero requested,
      requested.client, requested.globals, requested.handler⟩
    all_goals cases mute <;> rfl

theorem wp_requestPlace (client : AnyID) (position : Vector3)
    (handle : w.memory.wrapper.serverConnectionHandler = connection) :
    wp (steps self env) (ts3SetClientPosition client position.x position.y position.z)
      (fun _ u => ∃ answers, Requests connection client (if connection = 0 then [] else
        [.channelset3DAttributes connection client position]) w u answers) w := by
  subst handle
  rw [wp_ts3SetClientPosition]
  split
  · exact ⟨[], .nil _ _ w⟩
  · rw [wp_channelset3DAttributes]
    intro ok _
    refine ⟨[_], rfl, rfl, rfl, rfl, ⟨?_, ?_, fun _ _ => Iff.rfl⟩, rfl, rfl, rfl⟩
    · intro handle id other
      have same : (accepted w.teamspeak w.memory.wrapper.serverConnectionHandler
          (·.setPosition client position) ok handle).muted = (w.teamspeak handle).muted := by
        apply accepted_part Connection.muted _ _ _ ?_ handle
        exact fun _ => rfl
      exact congrFun same id
    · intro handle id other
      rcases accepted_cases w.teamspeak w.memory.wrapper.serverConnectionHandler
        (·.setPosition client position) ok with same | same
      · exact congrFun (congrArg Connection.position (congrFun same handle)) id
      · change ((accepted w.teamspeak _ _ ok) handle).position id = _
        rw [same]
        by_cases here : handle = w.memory.wrapper.serverConnectionHandler
        · have another : id ≠ client := other.resolve_left (not_not.mpr here)
          subst here
          simp [TeamSpeak.on, Connection.setPosition, another]
        · simp [TeamSpeak.on, here]

theorem wp_justAnotherVoiceChatIsIngame {post : Bool → World → Prop}
    (ingame : Ingame connection w) (continues : ∀ answers, told identity answers = [] →
      told channel answers = [] → told request answers = [] → post true (w.logged answers)) :
    wp (steps self env) justAnotherVoiceChatIsIngame post w := by
  unfold justAnotherVoiceChatIsIngame clientIsOpen
  simp only [wp_bind, wp_load, wp_ite, if_neg ingame.created]
  rw [wp_object]
  intro _
  rw [wp_isOpen]
  have isOpen : w.memory.client.IsOpen := ingame.ingame.1
  let use : Entry := ⟨self, .object (.use .client w.memory.globals.client), ()⟩
  simp only [World.record_memory, isOpen, decide_true, Bool.not_true, Bool.false_eq_true, if_false,
    wp_object]
  intro _
  rw [wp_isIngame]
  simp only [World.record_memory, ingame.ingame, decide_true]
  exact continues [use, use] rfl rfl rfl

def MoveEvent.requests (event : MoveEvent) (connection channelId : UInt64) : List TeamSpeakCall :=
  if channelId = event.newChannel then [.requestMuteClients connection [event.client, 0]]
  else if channelId = event.oldChannel then
    (if connection = 0 then [] else
      [.channelset3DAttributes connection event.client ⟨0, 0, 0⟩]) ++
        [.requestUnmuteClients connection [event.client, 0]]
  else []

theorem MoveEvent.requests_eq_nil {event : MoveEvent} {channelId : UInt64} :
    event.requests connection channelId = [] ↔
      channelId ≠ event.oldChannel ∧ channelId ≠ event.newChannel := by
  unfold MoveEvent.requests
  split
  · rename_i new
    simp [new]
  split
  · rename_i old
    simp [old]
  · rename_i new old
    simp [new, old]

def MoveEvent.act (event : MoveEvent) (channelId : UInt64) : Plugin Unit := do
  if channelId = event.newChannel then
    discard (ts3MuteClient event.client true)
    return ()
  if channelId = event.oldChannel then
    discard (ts3SetClientPosition event.client 0 0 0)
    discard (ts3MuteClient event.client false)
    return ()

theorem MoveEvent.handler_eq (connection : UInt64) (event : MoveEvent) :
    event.handler connection = (do
      if connection ≠ (← ts3ServerConnectionHandle) then
        return ()
      if event.client = (← ts3ClientId connection) then
        return ()
      if !(← justAnotherVoiceChatIsIngame) then
        return ()
      event.act (← ts3ChannelId connection)) := rfl

theorem wp_act (event : MoveEvent) (channelId : UInt64)
    (handle : w.memory.wrapper.serverConnectionHandler = connection) :
    wp (steps self env) (event.act channelId) (fun _ u => ∃ answers, Requests connection
      event.client (event.requests connection channelId) w u answers ∧
        (event.requests connection channelId = [] → u = w)) w := by
  unfold MoveEvent.act MoveEvent.requests
  rw [wp_ite]
  split
  · rw [wp_bind, wp_discard]
    apply wp_mono ?_ (wp_requestMuting event.nonzero true handle)
    intro _ u requested
    obtain ⟨answers, requests⟩ := requested
    exact ⟨answers, requests, by simp⟩
  rw [wp_ite]
  split
  · rw [wp_bind, wp_discard]
    apply wp_mono ?_ (wp_requestPlace event.client ⟨0, 0, 0⟩ handle)
    intro _ u placed
    obtain ⟨older, first⟩ := placed
    rw [wp_bind, wp_discard]
    apply wp_mono ?_ (wp_requestMuting event.nonzero false (first.handle.trans handle))
    intro _ v unmuted
    obtain ⟨newer, second⟩ := unmuted
    exact ⟨newer ++ older, first.trans second, by simp⟩
  · exact ⟨[], .nil _ _ w, fun _ => rfl⟩

structure Handled (connection : UInt64) (event : MoveEvent) (w u : World) (answers : List Entry) :
    Prop where
  own : event.client = (w.teamspeak connection).ownId → firstId answers = none
  determined : Determined answers →
    ownChannel answers = some (w.teamspeak connection).ownChannel ∧ connection ≠ 0
  requests : told request answers = event.requests connection ((ownChannel answers).getD 0)
  others : Untouched connection (· ≠ event.client) w u
  nothing : event.requests connection ((ownChannel answers).getD 0) = [] →
    Untouched connection (fun _ => True) w u

theorem Handled.exact {event : MoveEvent} {u : World} {answers : List Entry}
    (handled : Handled connection event w u answers) :
    Proper connection event w u answers ↔ Told connection event w answers := by
  by_cases concerned : event.requests connection ((ownChannel answers).getD 0) = []
  · have elsewhere := MoveEvent.requests_eq_nil.mp concerned
    have nothing : expected connection event w answers = [] := by
      unfold expected
      split
      · rfl
      split
      · rfl
      · rename_i determined
        obtain ⟨told, -⟩ := handled.determined (not_not.mp determined)
        rw [told, Option.getD_some] at elsewhere
        rw [if_neg elsewhere.2, if_neg elsewhere.1]
    apply iff_of_true _ (.inr (.inr elsewhere))
    refine ⟨?_, fun _ => handled.nothing concerned, handled.others⟩
    rw [handled.requests, concerned, nothing]
  · have about : ¬ ((ownChannel answers).getD 0 ≠ event.oldChannel ∧
        (ownChannel answers).getD 0 ≠ event.newChannel) :=
      fun elsewhere => concerned (MoveEvent.requests_eq_nil.mpr elsewhere)
    by_cases own : event.client = (w.teamspeak connection).ownId
    · apply iff_of_false
      · intro proper
        have requests := handled.requests.symm.trans proper.requests
        rw [expected, if_pos own] at requests
        exact concerned requests
      · intro told
        rcases told with ⟨-, known⟩ | ⟨other, -⟩ | elsewhere
        · rw [handled.own own] at known
          cases known
        · exact other own
        · exact about elsewhere
    · by_cases determined : Determined answers
      · obtain ⟨channelId, nonzero⟩ := handled.determined determined
        have same : event.requests connection ((ownChannel answers).getD 0) =
            expected connection event w answers := by
          rw [channelId, Option.getD_some, expected, if_neg own, if_neg (not_not.mpr determined),
            MoveEvent.requests, if_neg nonzero]
          rfl
        apply iff_of_true _ (.inr (.inl ⟨own, determined⟩))
        refine ⟨handled.requests.trans same, ?_, handled.others⟩
        intro nothing
        exact absurd (same.trans nothing) concerned
      · apply iff_of_false
        · intro proper
          have requests := handled.requests.symm.trans proper.requests
          rw [expected, if_neg own, if_pos determined] at requests
          exact concerned requests
        · intro told
          rcases told with ⟨same, -⟩ | ⟨-, known⟩ | elsewhere
          · exact own same
          · exact determined known
          · exact about elsewhere

theorem exact_recognised {event : MoveEvent} {answers : List Entry} {outcome : Option AnyID}
    (asks : Asks connection outcome w answers) (same : event.client = outcome.getD 0) :
    Proper connection event w (w.logged answers) answers ↔ Told connection event w answers := by
  cases outcome with
  | none => exact absurd same event.nonzero
  | some id =>
    obtain ⟨own, nonzero⟩ := asks.own id rfl
    have itself : event.client = (w.teamspeak connection).ownId := same.trans own
    have first : firstId answers = some id := by
      rw [firstId, asks.identities, if_neg nonzero]
      rfl
    have nothing : expected connection event w answers = [] := if_pos itself
    apply iff_of_true _ (.inl ⟨itself, by rw [first]; rfl⟩)
    exact ⟨by rw [asks.requests, nothing], fun _ => ⟨fun _ _ _ => rfl, fun _ _ _ => rfl,
      fun _ _ => Iff.rfl⟩, ⟨fun _ _ _ => rfl, fun _ _ _ => rfl, fun _ _ => Iff.rfl⟩⟩

theorem wp_moveEvent (event : MoveEvent) (ingame : Ingame connection w) :
    wp (steps self env) (event.handler connection) (fun _ u => ∃ answers,
      u.trace = answers ++ w.trace ∧ Ingame connection u ∧
        (Proper connection event w u answers ↔ Told connection event w answers)) w := by
  rw [MoveEvent.handler_eq]
  unfold ts3ServerConnectionHandle
  simp only [wp_bind, wp_wrapper, wp_ite, Program.pure_eq, wp_ret]
  rw [if_neg (not_not.mpr ingame.handle.symm)]
  apply wp_mono ?_ (wp_ask connection)
  intro id u asked
  obtain ⟨first, outcome, rfl, rfl, asks⟩ := asked
  split
  · rename_i same
    exact ⟨first, rfl, ⟨ingame.created, ingame.ingame, ingame.handle⟩, exact_recognised asks same⟩
  rename_i other
  have still : Ingame connection (w.logged first) :=
    ⟨ingame.created, ingame.ingame, ingame.handle⟩
  apply wp_justAnotherVoiceChatIsIngame still
  intro uses noIdentity noChannel noRequest
  simp only [Bool.not_true, Bool.false_eq_true, if_false]
  apply wp_mono ?_ (wp_askChannel connection)
  intro channelId v channelAsked
  obtain ⟨second, outcome', reply, rfl, rfl, asks'⟩ := channelAsked
  have here : (((w.logged first).logged uses).logged
      second).memory.wrapper.serverConnectionHandler = connection := ingame.handle
  apply wp_mono ?_ (wp_act event (reply.getD 0) here)
  intro _ x acted
  obtain ⟨last, requests, unconcerned⟩ := acted
  let answers : List Entry := last ++ (second ++ (uses ++ first))
  have identities : told identity answers =
      if connection = 0 then [] else [outcome, outcome'] := by
    simp only [answers, told_append, requests.identities, asks'.identities, noIdentity,
      asks.identities]
    split <;> rfl
  have channels : told channel answers = [reply] := by
    simp only [answers, told_append, requests.channels, asks'.channels, noChannel, asks.channels]
    rfl
  have channelTold : ownChannel answers = reply := by
    rw [ownChannel, channels]
    rfl
  have trace : x.trace = answers ++ w.trace := by
    rw [requests.trace]
    simp [answers]
  refine ⟨answers, trace, ⟨?_, ?_, ?_⟩, Handled.exact ⟨?_, ?_, ?_, ?_, ?_⟩⟩
  · rw [requests.globals]
    exact ingame.created
  · rw [requests.client]
    exact ingame.ingame
  · rw [requests.handle]
    exact ingame.handle
  · intro itself
    cases outcome with
    | some id => exact absurd (itself.trans (asks.own id rfl).1.symm) other
    | none =>
      rw [firstId, identities]
      split <;> rfl
  · intro determined
    obtain ⟨known, given⟩ := determined
    rw [secondId, identities] at known
    rw [channelTold] at given ⊢
    split at known
    · cases known
    · obtain ⟨id, same⟩ := Option.isSome_iff_exists.mp known
      obtain ⟨channelId, told⟩ := Option.isSome_iff_exists.mp given
      obtain ⟨actual, nonzero⟩ := asks'.own id same channelId told
      exact ⟨by rw [told, actual]; rfl, nonzero⟩
  · rw [channelTold]
    simp only [answers, told_append, requests.requests, asks'.requests, noRequest, asks.requests]
    rfl
  · exact ⟨requests.others.muted, requests.others.position, requests.others.cache⟩
  · rw [channelTold]
    intro nothing
    rw [unconcerned nothing]
    exact ⟨fun _ _ _ => rfl, fun _ _ _ => rfl, fun _ _ => Iff.rfl⟩

end Runs

-- The states of a game in which move events are handled one after another; in between TeamSpeak
-- can change in any way.
inductive Run (self : ThreadId) (env : Environment) (connection : UInt64) (start : World) :
    World → Prop where
  | start : Run self env connection start start
  | event {w w' : World} (run : Run self env connection start w) (event : MoveEvent)
      (step : Exec (steps self env) (event.handler connection) w () w') :
      Run self env connection start w'
  | meanwhile {w : World} (run : Run self env connection start w) (t : TeamSpeak) :
      Run self env connection start (w.setTeamspeak t)

theorem Run.ingame {self : ThreadId} {env : Environment} {connection : UInt64} {start w : World}
    (ingame : Ingame connection start) (run : Run self env connection start w) :
    Ingame connection w := by
  induction run with
  | start => exact ingame
  | event _ event step ih =>
    obtain ⟨-, -, still, -⟩ := step.wp (wp_moveEvent event ih)
    exact still
  | meanwhile _ t ih => exact ⟨ih.created, ih.ingame, ih.handle⟩

end MoveEvents

open MoveEvents in
/-- In game every move event does what it should, exactly when the questions that it takes are
answered. -/
theorem moveEvent_proper (self : ThreadId) (env : Environment) (connection : UInt64)
    (start w u : World) (event : MoveEvent) (answers : List Entry)
    (ingame : Ingame connection start)
    (run : Run self env connection start w)
    (step : Exec (steps self env) (event.handler connection) w () u)
    (trace : u.trace = answers ++ w.trace) :
    Proper connection event w u answers ↔ Told connection event w answers := by
  obtain ⟨given, grown, -, exact⟩ := step.wp (wp_moveEvent event (run.ingame ingame))
  obtain rfl : given = answers := List.append_cancel_right (grown.symm.trans trace)
  exact exact

namespace MoveEvents

def game : World := .playing 1 0

theorem game_ingame : Ingame 1 game := ⟨by decide, by decide, rfl⟩

def answering : Replies := ⟨obliging [1] .empty, connecting 1, lone 2⟩

def clueless : Replies where
  teamspeak
    | .getChannelOfClient _ _, _ => none
    | call, w => obliging [1] .empty call w
  enet := connecting 1
  thread := lone 2

theorem five_nonzero : (5 : AnyID) ≠ 0 := by decide

def enters : MoveEvent := ⟨5, 3, 1, five_nonzero⟩

def disconnects : MoveEvent := ⟨5, 3, 0, five_nonzero⟩

def after (replies : Replies) (event : MoveEvent) : World :=
  ranPlugin 2 replies (event.handler 1) game

end MoveEvents

open MoveEvents in
theorem moveEvent_proper_enters :
    Proper 1 enters game (after answering enters) (after answering enters).trace :=
  (moveEvent_proper 2 .any 1 game game (after answering enters) enters
    (after answering enters).trace game_ingame .start
    (exec_ranPlugin answering.within_any (by decide)) (List.append_nil _).symm).mpr
    (.inr (.inl ⟨by decide, by decide⟩))

open MoveEvents in
-- A client that disconnects is muted when the own channel is unknown.
theorem moveEvent_mistaken : ¬ ∀ (self : ThreadId) (env : Environment) (connection : UInt64)
    (start w u : World) (event : MoveEvent) (answers : List Entry), Ingame connection start →
      Run self env connection start w →
        Exec (steps self env) (event.handler connection) w () u → u.trace = answers ++ w.trace →
          Proper connection event w u answers := by
  intro claimed
  have proper := claimed 2 .any 1 game game (after clueless disconnects) disconnects
    (after clueless disconnects).trace game_ingame .start
    (exec_ranPlugin clueless.within_any (by decide)) (List.append_nil _).symm
  have requests := proper.requests
  revert requests
  decide

end JustAnotherVoiceChat
