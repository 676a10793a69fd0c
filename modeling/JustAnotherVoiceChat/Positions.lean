import JustAnotherVoiceChat.Lifetime
import JustAnotherVoiceChat.SavedChannel

set_option autoImplicit false

namespace JustAnotherVoiceChat

open Binary Interaction Relation

def Entry.places (handle : UInt64) (id : AnyID) : Entry → Option Vector3
  | ⟨_, .teamspeak (.channelset3DAttributes target clientId position), ok⟩ =>
    if ok = true ∧ target = handle ∧ clientId = id then some position else none
  | _ => none

def lastPlace (handle : UInt64) (id : AnyID) (entries : List Entry) : Option Vector3 :=
  entries.findSome? (Entry.places handle id)

def Placed (w u : World) : Prop := ∃ entries, u.trace = entries ++ w.trace ∧ ∀ handle id,
  (u.teamspeak handle).position id =
    (lastPlace handle id entries).or ((w.teamspeak handle).position id)

instance : Std.Refl Placed := ⟨fun _ => ⟨[], rfl, fun _ _ => rfl⟩⟩

instance : IsTrans World Placed where
  trans _ _ _ first second := by
    obtain ⟨entries, trace, positions⟩ := first
    obtain ⟨more, trace', positions'⟩ := second
    refine ⟨more ++ entries, by rw [trace', trace, List.append_assoc], fun handle id => ?_⟩
    rw [positions', positions, lastPlace, lastPlace, lastPlace, List.findSome?_append,
      Option.or_assoc]

section Placed

variable {w u : World}

theorem Placed.of_same (trace : u.trace = w.trace) (positions : ∀ handle id,
    (u.teamspeak handle).position id = (w.teamspeak handle).position id) : Placed w u :=
  ⟨[], trace, fun handle id => (positions handle id).trans (Option.none_or).symm⟩

theorem TeamSpeakCall.Step.position {call : TeamSpeakCall} {t t' : TeamSpeak} {reply : call.Reply}
    (step : call.Step t reply t') (other : call.topic ≠ .position) (handle : UInt64) :
    (t' handle).position = (t handle).position := by
  apply step.part Connection.position
  intro f effect c
  cases call with
  | requestClientMove =>
    rcases effect with rfl | rfl
    · rfl
    · rfl
  | requestMuteClients | requestUnmuteClients | setClientSelfVariableAsString
  | setClientSelfVariableAsInt | flushClientSelfUpdates =>
    rw [show f = _ from effect]
    rfl
  | channelset3DAttributes => exact absurd rfl other
  | _ => cases effect

theorem position_placed (t : TeamSpeak) (self : ThreadId) (target : UInt64) (clientId : AnyID)
    (place : Vector3) (ok : Bool) (handle : UInt64) (id : AnyID) :
    (accepted t target (·.setPosition clientId place) ok handle).position id =
      (Entry.places handle id
        ⟨self, .teamspeak (.channelset3DAttributes target clientId place), ok⟩).or
          ((t handle).position id) := by
  cases ok with
  | false => simp [accepted, Entry.places]
  | true =>
    by_cases here : handle = target
    · subst here
      by_cases own : id = clientId
      · subst own
        simp [accepted, TeamSpeak.on, Connection.setPosition, Entry.places]
      · simp [accepted, TeamSpeak.on, Connection.setPosition, Entry.places, own, Ne.symm own]
    · simp [accepted, TeamSpeak.on, Entry.places, here, Ne.symm here]

theorem placed_calls : KeptByCalls Placed := by
  apply KeptByCalls.of_calls
  · intro w update
    exact .of_same rfl fun _ _ => rfl
  · intro self call w v reply stepped
    cases call with
    | object call =>
      obtain rfl : v = w := stepped
      exact ⟨[⟨self, .object call, reply⟩], rfl, fun _ _ => rfl⟩
    | enet call =>
      obtain ⟨e, -, rfl⟩ := stepped
      exact ⟨[⟨self, .enet call, reply⟩], rfl, fun _ _ => rfl⟩
    | teamspeak call =>
      obtain ⟨t, stepped, rfl⟩ := stepped
      refine ⟨[⟨self, .teamspeak call, reply⟩], rfl, fun handle id => ?_⟩
      cases call with
      | channelset3DAttributes target clientId place =>
        obtain rfl : t = _ := stepped
        rw [lastPlace, List.findSome?_cons]
        exact (position_placed _ self target clientId place reply handle id).trans
          (by cases Entry.places handle id _ <;> rfl)
      | _ => exact congrFun (stepped.position (by simp [TeamSpeakCall.topic]) handle) id

end Placed

def TeamSpeakCall.failed : (call : TeamSpeakCall) → call.Reply → Bool
  | .getServerConnectionHandlerList, reply => reply.isNone
  | .getServerUniqueIdentifier _, reply => reply.isNone
  | .getChannelClientList _ _, reply => reply.isNone
  | .getClientSelfVariableAsString _ _, reply => reply.isNone
  | .getClientSelfVariableAsInt _ _, reply => reply.isNone
  | .getChannelAreSubscribed _ _, reply => reply.isNone
  | .getConnectionStatus _, reply => reply.isNone
  | .getClientID _, reply => reply.isNone
  | .getChannelOfClient _ _, reply => reply.isNone
  | .freeMemory _, _ => false
  | .requestClientMove _ _ _ _, ok => !ok
  | .requestMuteClients _ _, ok => !ok
  | .requestUnmuteClients _ _, ok => !ok
  | .requestChannelSubscribe _ _, ok => !ok
  | .setClientSelfVariableAsString _ _ _, ok => !ok
  | .setClientSelfVariableAsInt _ _ _, ok => !ok
  | .flushClientSelfUpdates _, ok => !ok
  | .channelset3DAttributes _ _ _, ok => !ok
  | .systemset3DListenerAttributes _ _ _ _, ok => !ok
  | .systemset3DSettings _ _ _, ok => !ok

def Entry.failed : Entry → Bool
  | ⟨_, .teamspeak call, reply⟩ => call.failed reply
  | _ => false

section Reset

variable {self : ThreadId} {env : Environment} {w : World}

theorem Only.moves {topics : List Topic} {answers : List Entry}
    (only : Only topics self answers) (other : .move ∉ topics) :
    answers.any Entry.moves = false := by
  refine only.hides other ?_
  intro call _ unlike
  cases call with
  | requestClientMove => exact absurd rfl unlike
  | _ => rfl

theorem wp_clientsInChannel (channelId : UInt64) :
    wp (steps self env) (ts3ClientsInChannel channelId)
    (fun clients u => ∃ answers, u = w.logged answers ∧ answers.filterMap Entry.channel = [] ∧
      answers.any Entry.moves = false ∧ (answers.any Entry.failed = false → ∀ id,
        id ∈ clients ↔ id ≠ 0 ∧
          id ∈ (w.teamspeak w.memory.wrapper.serverConnectionHandler).members channelId)) w := by
  let told (subscribed : Bool) (v : World) : Prop := ∃ answers, v = w.logged answers ∧
    answers.filterMap Entry.channel = [] ∧ answers.any Entry.moves = false ∧
      (subscribed = false → answers.any Entry.failed = true)
  unfold ts3ClientsInChannel pollRound
  simp only [wp_bind, wp_wrapper, wp_ite, wp_requestChannelSubscribe, Program.pure_eq, wp_ret]
  rintro (_ | _) -
  · exact ⟨[_], rfl, rfl, rfl, by simp [Entry.failed, TeamSpeakCall.failed]⟩
  simp only [Bool.not_true, Bool.false_eq_true, if_false]
  have begun : told true (w.asked self (.requestChannelSubscribe
      w.memory.wrapper.serverConnectionHandler [channelId, 0]) true) :=
    ⟨[_], rfl, rfl, rfl, by simp⟩
  refine wp_mono (fun subscribed v (waited : told subscribed v) => ?_)
    (wp_repeatUntil (told true) begun fun v waiting => ?_)
  · obtain ⟨answers, rfl, channel, moves, refused⟩ := waited
    cases subscribed with
    | false =>
      refine ⟨answers, rfl, channel, moves, fun served => ?_⟩
      rw [refused rfl] at served
      cases served
    | true =>
      simp only [Bool.not_true, Bool.false_eq_true, if_false, wp_getChannelClientList]
      intro list _ members
      cases list with
      | none =>
        refine ⟨_ :: answers, rfl, channel, moves, fun served => ?_⟩
        simp [Entry.failed, TeamSpeakCall.failed] at served
      | some list =>
        simp only [wp_bind, wp_freeMemory, wp_ret]
        intro _ _
        refine ⟨_ :: _ :: answers, rfl, channel, moves, fun _ id => ?_⟩
        rw [SortedSet.mem_ofList]
        exact members list rfl id
  · obtain ⟨answers, rfl, channel, moves, -⟩ := waiting
    simp only [wp_bind, wp_sleepFor, wp_wrapper, wp_getChannelAreSubscribed]
    intro subscribed _
    cases subscribed with
    | none =>
      refine ⟨_ :: answers, rfl, channel, moves, fun _ => ?_⟩
      simp [Entry.failed, TeamSpeakCall.failed]
    | some isSubscribed =>
      simp only [wp_ret]
      by_cases waits : isSubscribed = 0
      · rw [if_pos waits]
        exact ⟨_ :: answers, rfl, channel, moves, by simp⟩
      · rw [if_neg waits]
        exact ⟨_ :: answers, rfl, channel, moves, by simp⟩

theorem wp_placeAll (place : Vector3) (ids : List AnyID)
    (known : w.memory.wrapper.serverConnectionHandler ≠ 0) :
    wp (steps self env)
      (forM ids fun id => discard (ts3SetClientPosition id place.x place.y place.z))
      (fun _ u => ∃ answers, u.trace = answers ++ w.trace ∧ Only [.position] self answers ∧
        (answers.any Entry.failed = false → ∀ handle id, (u.teamspeak handle).position id =
          if handle = w.memory.wrapper.serverConnectionHandler ∧ id ∈ ids then some place
          else (w.teamspeak handle).position id)) w := by
  induction ids generalizing w with
  | nil => exact ⟨[], rfl, .nil, fun _ _ _ => (if_neg (by simp)).symm⟩
  | cons id rest ih =>
    rw [List.forM_cons, wp_bind, wp_discard]
    rw [wp_ts3SetClientPosition, if_neg known, wp_channelset3DAttributes]
    intro ok _
    refine wp_mono ?_ (ih known)
    rintro _ u ⟨answers, trace, only, positions⟩
    refine ⟨answers ++ [⟨self, .teamspeak (.channelset3DAttributes
      w.memory.wrapper.serverConnectionHandler id place), ok⟩], by rw [trace]; simp, ?_, ?_⟩
    · exact only.append (.cons (by simp [TeamSpeakCall.topic]) .nil)
    intro served handle other
    simp only [List.any_append, Bool.or_eq_false_iff] at served
    have accepted : ok = true := by
      simpa [Entry.failed, TeamSpeakCall.failed] using served.2
    subst accepted
    rw [positions served.1]
    by_cases here : handle = w.memory.wrapper.serverConnectionHandler
    · subst here
      by_cases later : other ∈ rest
      · simp [later]
      · by_cases own : other = id
        · subst own
          simp [later, accepted, TeamSpeak.on, Connection.setPosition]
        · simp [later, own, accepted, TeamSpeak.on, Connection.setPosition]
    · simp [here, accepted, TeamSpeak.on]

def ResetIn (channelId : UInt64) (w u : World) : Prop := ∀ handle id,
  (u.teamspeak handle).position id =
    if handle = w.memory.wrapper.serverConnectionHandler ∧ id ≠ 0 ∧
        id ∈ (w.teamspeak handle).members channelId then some ⟨0, 0, 0⟩
    else (w.teamspeak handle).position id

theorem wp_resetPositions (known : w.memory.wrapper.serverConnectionHandler ≠ 0) :
    wp (steps self env) ts3ResetClients3DPositions (fun _ u => ∃ answers channelId,
      u.trace = answers ++ w.trace ∧ answers.findSome? Entry.channel = some channelId ∧
        answers.any Entry.moves = false ∧
          (answers.any Entry.failed = false → ResetIn channelId w u)) w := by
  unfold ts3ResetClients3DPositions
  simp only [wp_bind, wp_wrapper, wp_ite, if_neg known]
  refine wp_mono ?_ (wp_channelTold w.memory.wrapper.serverConnectionHandler)
  rintro channelId _ ⟨first, rfl, only, told⟩
  refine wp_mono ?_ (wp_clientsInChannel channelId)
  rintro clients _ ⟨second, rfl, silent, moves, listed⟩
  refine wp_mono ?_ (wp_placeAll ⟨0, 0, 0⟩ clients.elems known)
  rintro _ u ⟨third, trace, only', positions⟩
  refine ⟨third ++ (second ++ first), channelId, by simp [trace], ?_, ?_, ?_⟩
  · have silent' := only'.channel (by simp)
    rw [← List.head?_filterMap, List.filterMap_append, List.filterMap_append, silent', silent, told]
    rfl
  · simp [only.moves, only'.moves, moves]
  · intro served handle id
    simp only [List.any_append, Bool.or_eq_false_iff] at served
    rw [positions served.1]
    refine if_congr (and_congr_right fun here => ?_) rfl rfl
    rw [here]
    exact listed served.2.1 id

theorem ResetIn.of_same {channelId : UInt64} {u v x : World} (reset : ResetIn channelId v u)
    (handler : v.memory.wrapper.serverConnectionHandler = w.memory.wrapper.serverConnectionHandler)
    (before : ∀ handle, (v.teamspeak handle).position = (w.teamspeak handle).position ∧
      (v.teamspeak handle).members = (w.teamspeak handle).members)
    (after : ∀ handle, (x.teamspeak handle).position = (u.teamspeak handle).position) :
    ResetIn channelId w x := by
  intro handle id
  obtain ⟨position, members⟩ := before handle
  rw [after, reset, handler, position, members]

theorem moved_of_moves {answers : List Entry} (moves : answers.any Entry.moves = true)
    (served : answers.any Entry.failed = false) : answers.any Entry.moved = true := by
  obtain ⟨e, member, moves⟩ := List.any_eq_true.mp moves
  have served := List.any_eq_false.mp served e member
  refine List.any_eq_true.mpr ⟨e, member, ?_⟩
  obtain ⟨thread, call, ok⟩ := e
  cases call with
  | enet call | object call => cases moves
  | teamspeak call =>
    cases call with
    | requestClientMove => simpa [Entry.failed, TeamSpeakCall.failed, Entry.moved] using served
    | _ => cases moves

theorem restoring_on : (do
    discard ts3UnmuteAllClients
    discard ts3ResetNickname).Calls
      (Op.On (fun _ => ()) [.mute, .readString, .writeString, .writeInt]) := by
  have stores (update : Wrapper → Wrapper) : (setWrapper update).Calls
      (Op.On (fun _ => ()) [.mute, .readString, .writeString, .writeInt]) :=
      setWrapper_on fun _ => rfl
  have unmutes := wrapperPrograms_on.ts3UnmuteAllClients (by decide) fun _ => stores _
  have renames := wrapperPrograms_on.ts3ResetNickname (by decide) (by decide) fun _ => stores _
  exact (discard_calls unmutes).bind fun _ => discard_calls renames

-- A reset that asks for the move sets back the clients of the channel that it is told afterwards.
theorem wp_resetPlaces : wp (steps self env) resetTeamspeak (fun _ u => ∃ answers,
    u.trace = answers ++ w.trace ∧ (answers.any Entry.moves = true →
      answers.any Entry.failed = false → ∃ channelId,
        answers.findSome? Entry.channel = some channelId ∧ ResetIn channelId w u)) w := by
  have idle {answers : List Entry} {u : World} (moves : answers.any Entry.moves = false) :
      answers.any Entry.moves = true → answers.any Entry.failed = false → ∃ channelId,
        answers.findSome? Entry.channel = some channelId ∧ ResetIn channelId w u := by
    rw [moves]
    exact fun other => absurd other Bool.false_ne_true
  unfold resetTeamspeak ts3ServerConnectionHandle
  simp only [wp_bind, wp_client, wp_wrapper, wp_ite, Program.pure_eq, wp_ret]
  split
  · exact ⟨[], rfl, idle rfl⟩
  split
  · exact ⟨[], rfl, idle rfl⟩
  rename_i known
  refine wp_mono ?_ (wp_channelTold w.memory.wrapper.serverConnectionHandler)
  rintro channelId _ ⟨first, rfl, only, -⟩
  have still := only.moves (by simp)
  split
  · exact ⟨first, rfl, idle still⟩
  have same : wp (steps self env) (ts3MoveToChannel w.memory.client.lastChannelId .empty)
      (fun _ v => ∀ handle, ((v.teamspeak handle).position, (v.teamspeak handle).members) =
        ((w.teamspeak handle).position, (w.teamspeak handle).members)) (w.logged first) := by
    have moving : (ts3MoveToChannel w.memory.client.lastChannelId .empty).Calls
        (Op.On (fun _ => ()) [.ownId, .move]) := ts3MoveToChannel_on _ _
    apply wp_samePart (fun c => (c.position, c.members)) moving
    intro call about f effect c
    cases call with
    | requestClientMove =>
      rcases effect with rfl | rfl
      · rfl
      · rfl
    | getConnectionStatus | getClientID => cases effect
    | _ => simp [TeamSpeakCall.topic] at about
  refine wp_mono ?_ (wp_and (wp_move _ _) same)
  rintro ok v ⟨⟨second, moved⟩, same⟩
  split
  · rename_i refused
    rw [wp_setClient]
    refine ⟨second ++ first, by simp [moved.trace], fun moves served => ?_⟩
    simp only [List.any_append, still, Bool.or_false, Bool.or_eq_false_iff] at moves served
    have accepted := moved_of_moves moves served.1
    rw [← moved.answered] at accepted
    simp [accepted] at refused
  rw [wp_setClient]
  have known' : (v.setClient fun c =>
      { c with lastChannelId := 0 }).memory.wrapper.serverConnectionHandler ≠ 0 := by
    rw [World.setClient_wrapper, moved.memory]
    exact known
  refine wp_mono ?_ (wp_resetPositions known')
  rintro _ v' ⟨third, channelId, trace, told, moves', reset⟩
  simp only [← wp_bind]
  have positions : wp (steps self env) (do discard ts3UnmuteAllClients; discard ts3ResetNickname)
      (fun _ u => ∀ handle, (u.teamspeak handle).position = (v'.teamspeak handle).position) v' := by
    apply wp_samePart Connection.position restoring_on
    intro call about f effect c
    cases call with
    | requestMuteClients | requestUnmuteClients | setClientSelfVariableAsString
    | setClientSelfVariableAsInt | flushClientSelfUpdates =>
      rw [show f = _ from effect]
      rfl
    | getClientSelfVariableAsString => cases effect
    | _ => simp [TeamSpeakCall.topic] at about
  refine wp_mono ?_ (wp_and (wp_keeping restoring_on) positions)
  rintro _ u ⟨beside, positions⟩
  obtain ⟨fourth, trace', only'⟩ := beside.trace
  refine ⟨fourth ++ (third ++ (second ++ first)), ?_, fun _ served => ⟨channelId, ?_, ?_⟩⟩
  · simp [trace', trace, moved.trace]
  · have silent : fourth.filterMap Entry.channel = [] := Only.channel only' (by simp)
    rw [List.findSome?_append, ← List.head?_filterMap, silent, List.findSome?_append, told]
    rfl
  · simp only [List.any_append, Bool.or_eq_false_iff] at served
    refine (reset served.2.1).of_same ?_ (fun handle => Prod.mk.inj (same handle)) positions
    rw [World.setClient_wrapper, moved.memory]
    rfl

end Reset

section Sessions

variable (answers : (call : External) → World → call.Reply → Prop)

inductive SessionStep : World → World → Prop where
  | client {w u : World} (step : ClientStep answers (fun _ _ _ => True) w u) : SessionStep w u
  | event {w u : World} (call : HostCall) (event : call.isEvent = true) (caller : ThreadId)
      (step : Exec (steps caller (.calling caller answers)) call.program w () u) : SessionStep w u
  | teamspeak {w : World} (t : TeamSpeak)
      (positions : ∀ handle, (t handle).position = (w.teamspeak handle).position) :
      SessionStep w (w.setTeamspeak t)

variable {answers} {start w u : World}

theorem placed_phase (w : World) (id : ThreadId) (phase : Phase) :
    Placed w (w.withPhase id phase) :=
  .of_same rfl fun _ _ => rfl

theorem SessionStep.placed (step : SessionStep answers w u) : Placed w u := by
  cases step with
  | client step =>
    cases step with
    | connect call result step ok => exact step.2.stays (placed_calls.calling placed_phase _)
    | disconnect caller outsider status step =>
      exact step.stays (placed_calls.calling placed_phase _)
    | round id looping step => exact step.stays (placed_calls.updating _)
    | leave id looping step | close id left step =>
      exact IsTrans.trans _ _ _ (step.stays (placed_calls.updating _)) (placed_phase _ _ _)
  | event call event caller step => exact step.stays (placed_calls.calling placed_phase _)
  | teamspeak t positions => exact .of_same rfl fun handle id => congrFun (positions handle) id

theorem placed_of_run (run : ReflTransGen (SessionStep answers) start w) : Placed start w := by
  induction run with
  | refl => exact Std.Refl.refl start
  | tail _ step ih => exact IsTrans.trans _ _ _ ih step.placed

/-- A close that moves back sets back every client that the session placed if and only if those
still placed elsewhere are in the channel it is told after the request for the move. -/
theorem close_resetsPositions (answers : (call : External) → World → call.Reply → Prop)
    (start w u : World) (run : ReflTransGen (SessionStep answers) start w) (caller : ThreadId)
    (env : Environment) (step : Exec (steps caller env) resetTeamspeak w () u)
    (session closing : List Entry) (before : w.trace = session ++ start.trace)
    (trace : u.trace = closing ++ w.trace) (served : closing.any Entry.failed = false)
    (moves : closing.any Entry.moves = true) (channelId : UInt64)
    (told : closing.findSome? Entry.channel = some channelId) :
    (∀ handle id place, lastPlace handle id session = some place →
      (u.teamspeak handle).position id = some ⟨0, 0, 0⟩) ↔
    ∀ handle id place, lastPlace handle id session = some place → place ≠ ⟨0, 0, 0⟩ →
      handle = w.memory.wrapper.serverConnectionHandler ∧ id ≠ 0 ∧
        id ∈ (w.teamspeak handle).members channelId := by
  obtain ⟨entries, grown, positions⟩ := placed_of_run run
  obtain rfl : entries = session := List.append_cancel_right (grown.symm.trans before)
  obtain ⟨answers', grown', resets⟩ := step.wp wp_resetPlaces
  obtain rfl : answers' = closing := List.append_cancel_right (grown'.symm.trans trace)
  obtain ⟨asked, told', reset⟩ := resets moves served
  obtain rfl : asked = channelId := Option.some.inj (told'.symm.trans told)
  have final {handle : UInt64} {id : AnyID} {place : Vector3}
      (last : lastPlace handle id entries = some place) : (u.teamspeak handle).position id =
        if handle = w.memory.wrapper.serverConnectionHandler ∧ id ≠ 0 ∧
          id ∈ (w.teamspeak handle).members asked then some ⟨0, 0, 0⟩ else some place := by
    rw [reset, positions, last, Option.some_or]
  constructor
  · intro all handle id place last away
    by_contra missed
    have position := final last
    rw [if_neg missed, all handle id place last] at position
    exact away (Option.some.inj position).symm
  · intro listed handle id place last
    rw [final last]
    by_cases zero : place = ⟨0, 0, 0⟩
    · rw [zero, ite_self]
    · exact if_pos (listed handle id place last zero)

end Sessions

theorem oneUpdate_length : [(⟨5, 0x3F800000, 0, 0, 0⟩ : ClientPositionUpdate)].length < 2 ^ 64 := by
  decide

def awayPayload : Bytes :=
  PositionPacket.serialize.encode ⟨0, 0, 0, 0, ⟨[⟨5, 0x3F800000, 0, 0, 0⟩], oneUpdate_length⟩⟩

def awayReplies : Replies where
  teamspeak := obliging [1, 0] .empty
  enet call w :=
    match call with
    | .serviceEnd _ _ => ⟨1, .receive networkPositionChannel awayPayload⟩
    | call => connecting 1 call w
  thread := lone 1

def World.among (channels : List UInt64) : World :=
  { World.ingame with
    teamspeak := fun _ => { Connection.idle with
      members := fun channelId => if channelId ∈ channels then .singleton 5 else .empty }
    phase := fun id => if id = 1 then .looping else .unborn }

def spread (channels : List UInt64) : World := ranPlugin 1 awayReplies updateRound (.among channels)

theorem spread_of_run {channels : List UInt64}
    (ran : (runPlugin 1 awayReplies 60 updateRound (.among channels)).map (·.1) = some none) :
    ReflTransGen (SessionStep fun _ _ _ => True) (.among channels) (spread channels) :=
  .single (.client (.round 1 rfl (exec_ranPlugin (lone_within rfl) ran)))

theorem close_resetsPositions_along :
    (∀ handle id place, lastPlace handle id (spread [1, 3]).trace = some place →
      ((resetFrom (spread [1, 3])).teamspeak handle).position id = some ⟨0, 0, 0⟩) ↔
    ∀ handle id place, lastPlace handle id (spread [1, 3]).trace = some place →
      place ≠ ⟨0, 0, 0⟩ → handle = (spread [1, 3]).memory.wrapper.serverConnectionHandler ∧
        id ≠ 0 ∧ id ∈ ((spread [1, 3]).teamspeak handle).members 3 :=
  close_resetsPositions (fun _ _ _ => True) (.among [1, 3]) (spread [1, 3])
  (resetFrom (spread [1, 3]))
    (spread_of_run (by decide)) 1 .any (exec_resetFrom (by decide)) (spread [1, 3]).trace
    (newSince (spread [1, 3]) (resetFrom (spread [1, 3]))) (List.append_nil _).symm
    (trace_newSince (exec_resetFrom (by decide))) (by decide) (by decide) 3 (by decide)

-- The own client is moved back at once, and the client 5 stays where the session placed it.
theorem close_leavesPosition : ¬ ∀ (answers : (call : External) → World → call.Reply → Prop)
    (start w u : World), ReflTransGen (SessionStep answers) start w →
      ∀ (caller : ThreadId) (env : Environment), Exec (steps caller env) resetTeamspeak w () u →
        ∀ session closing : List Entry, w.trace = session ++ start.trace →
          u.trace = closing ++ w.trace → closing.any Entry.failed = false →
            closing.any Entry.moves = true → ∀ handle id place,
              lastPlace handle id session = some place →
                (u.teamspeak handle).position id = some ⟨0, 0, 0⟩ := by
  intro claimed
  have position := claimed (fun _ _ _ => True) (.among [1]) (spread [1]) (resetFrom (spread [1]))
    (spread_of_run (by decide)) 1 .any (exec_resetFrom (by decide)) (spread [1]).trace
    (newSince (spread [1]) (resetFrom (spread [1]))) (List.append_nil _).symm
    (trace_newSince (exec_resetFrom (by decide))) (by decide) (by decide) 1 5 ⟨0x3F800000, 0, 0⟩
    (by decide)
  revert position
  decide

end JustAnotherVoiceChat
