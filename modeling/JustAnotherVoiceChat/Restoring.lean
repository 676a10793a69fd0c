import JustAnotherVoiceChat.Ingame
import JustAnotherVoiceChat.MoveEvents
import JustAnotherVoiceChat.MuteCache
import JustAnotherVoiceChat.Nickname
import JustAnotherVoiceChat.PlainUpdate
import JustAnotherVoiceChat.Positions

set_option autoImplicit false

namespace JustAnotherVoiceChat

open Binary Interaction

namespace Restoring

-- Every request and every question succeeds, and no own id and no channel is 0.
structure Grants (answers : (call : External) → World → call.Reply → Prop) : Prop where
  succeeds : ∀ (call : TeamSpeakCall) w reply,
    answers (.teamspeak call) w reply → call.failed reply = false
  online : ∀ handle w (status : Int32),
    answers (.teamspeak (.getConnectionStatus handle)) w (some status) → ¬ status ≤ 0
  known : ∀ handle w (id : AnyID),
    answers (.teamspeak (.getClientID handle)) w (some id) → id ≠ 0
  inside : ∀ handle id w (channelId : UInt64),
    answers (.teamspeak (.getChannelOfClient handle id)) w (some channelId) → channelId ≠ 0

-- The clients in the cache are the muted ones, and the own nickname is the one of `names` where it
-- is not saved.
structure Kept (names : UInt64 → CString) (w : World) : Prop where
  exact : MutedExactly w
  nonzero : 0 ∉ w.memory.wrapper.mutedClients
  current : ∀ handle, w.memory.wrapper.originalNickname = .empty ∨
    handle ≠ w.memory.wrapper.serverConnectionHandler →
      (w.teamspeak handle).selfString .nickname = names handle
  saved : w.memory.wrapper.originalNickname ≠ .empty →
    w.memory.wrapper.serverConnectionHandler ≠ 0 ∧ w.memory.wrapper.originalNickname =
      (names w.memory.wrapper.serverConnectionHandler).text
  unstaged : ∀ handle, (w.teamspeak handle).stagedString .nickname = none

def naming (c : Connection) : CString × Option CString :=
  (c.selfString .nickname, c.stagedString .nickname)

section Kept

variable {names : UInt64 → CString} {w u : World}

theorem Kept.of_naming (holds : Kept names w) (exact : MutedExactly u)
    (nonzero : 0 ∉ u.memory.wrapper.mutedClients)
    (handler : u.memory.wrapper.serverConnectionHandler = w.memory.wrapper.serverConnectionHandler)
    (original : u.memory.wrapper.originalNickname = w.memory.wrapper.originalNickname)
    (same : ∀ handle, naming (u.teamspeak handle) = naming (w.teamspeak handle)) :
    Kept names u := by
  have fields (handle : UInt64) := same handle
  simp only [naming, Prod.mk.injEq] at fields
  constructor
  · exact exact
  · exact nonzero
  · intro handle
    rw [(fields handle).1, handler, original]
    exact holds.current handle
  · rw [handler, original]
    exact holds.saved
  · intro handle
    rw [(fields handle).2]
    exact holds.unstaged handle

theorem Kept.of_same (holds : Kept names w) (wrapper : u.memory.wrapper = w.memory.wrapper)
    (muted : ∀ handle, (u.teamspeak handle).muted = (w.teamspeak handle).muted)
    (same : ∀ handle, naming (u.teamspeak handle) = naming (w.teamspeak handle)) :
    Kept names u := by
  apply holds.of_naming
  · intro handle id
    rw [muted, wrapper]
    exact holds.exact handle id
  · rw [wrapper]
    exact holds.nonzero
  · rw [wrapper]
  · rw [wrapper]
  · exact same

theorem Kept.muting (holds : Kept names w) {self : ThreadId} {mute ok : Bool}
    {clients : SortedSet AnyID} (nonzero : 0 ∉ clients)
    (requested : MuteRequested self mute clients ok w u) : Kept names u := by
  apply holds.of_naming
  · exact mutedExactly_requested holds.exact nonzero requested
  · exact requested.nonzero nonzero holds.nonzero
  · exact requested.handler
  · exact requested.nickname
  · intro handle
    rw [requested.teamspeak]
    apply accepted_part naming _ _ _ ?_ handle
    exact fun _ => rfl

theorem Kept.unmutedAll (holds : Kept names w) (self : ThreadId) :
    Kept names (w.unmutedAll self true) := by
  apply holds.of_naming
  · exact mutedExactly_unmutedAll holds.exact holds.nonzero
  · exact SortedSet.not_mem_empty 0
  · rfl
  · rfl
  · intro handle
    apply accepted_part naming _ _ true ?_ handle
    exact fun _ => rfl

theorem Kept.requested (holds : Kept names w) (self : ThreadId) (call : TeamSpeakCall)
    (reply : call.Reply) (handle : UInt64) {f : Connection → Connection} (ok : Bool)
    (muted : ∀ c, (f c).muted = c.muted) (same : ∀ c, naming (f c) = naming c) :
    Kept names ((w.request handle f ok).asked self call reply) := by
  apply holds.of_same
  · rfl
  · exact fun h => accepted_part Connection.muted _ _ ok muted h
  · exact fun h => accepted_part naming _ _ ok same h

-- Another server can be taken only when nothing is to be restored on the current one.
theorem Kept.withHandler (holds : Kept names w) {handle : UInt64} (answers : List Entry)
    (bound : w.memory.wrapper.mutedClients.isEmpty = true ∧
        w.memory.wrapper.originalNickname = .empty ∨
      handle = w.memory.wrapper.serverConnectionHandler) :
    Kept names ((w.withHandler handle).logged answers) := by
  constructor
  · apply (mutedExactly_withHandler holds.exact handle answers).mpr
    exact bound.imp And.left id
  · exact holds.nonzero
  · intro h other
    apply holds.current h
    rcases bound with ⟨-, unsaved⟩ | same
    · exact .inl unsaved
    · subst same
      exact other
  · intro saved
    rcases bound with ⟨-, unsaved⟩ | same
    · exact absurd unsaved saved
    · subst same
      exact holds.saved saved
  · exact holds.unstaged

end Kept

structure Keeps (names : UInt64 → CString) (w u : World) : Prop where
  handler : u.memory.wrapper.serverConnectionHandler = w.memory.wrapper.serverConnectionHandler
  channel : u.memory.client.lastChannelId = w.memory.client.lastChannelId
  kept : Kept names w → Kept names u

section Keeps

variable {names : UInt64 → CString}

instance keeps_refl : Std.Refl (Keeps names) := ⟨fun _ => ⟨rfl, rfl, id⟩⟩

instance keeps_trans : IsTrans World (Keeps names) where
  trans _ _ _ first second := ⟨second.handler.trans first.handler,
    second.channel.trans first.channel, fun holds => second.kept (first.kept holds)⟩

theorem Keeps.of_same {w u : World} (wrapper : u.memory.wrapper = w.memory.wrapper)
    (channel : u.memory.client.lastChannelId = w.memory.client.lastChannelId)
    (teamspeak : u.teamspeak = w.teamspeak) : Keeps names w u := by
  refine ⟨congrArg Wrapper.serverConnectionHandler wrapper, channel, fun holds => ?_⟩
  apply holds.of_same wrapper
  · intro handle
    rw [teamspeak]
  · intro handle
    rw [teamspeak]

variable {self : ThreadId} {env : Environment}

theorem keeps_load : Stays (steps self env) (Keeps names) load := by
  intro w
  rw [wp_load]
  exact Std.Refl.refl w

theorem keeps_wrapper : Stays (steps self env) (Keeps names) wrapper := by
  intro w
  rw [wp_wrapper]
  exact Std.Refl.refl w

theorem keeps_object (call : ObjectCall) :
    Stays (steps self env) (Keeps names) (object call) := by
  intro w
  rw [wp_object]
  intro _
  exact .of_same rfl rfl rfl

theorem keeps_discard {α : Type} {p : Plugin α} (stays : Stays (steps self env) (Keeps names) p) :
    Stays (steps self env) (Keeps names) (discard p) :=
  stays.bind fun _ => Stays.ret ()

theorem keeps_asking {α : Type} {p : Plugin α} {topics : List Topic}
    (calls : p.Calls (Op.On id topics)) (asks : ∀ t ∈ topics, t.Asks) :
    Stays (steps self env) (Keeps names) p := by
  intro w
  apply wp_mono ?_ (wp_asking calls asks)
  intro _ u asked
  obtain ⟨answers, rfl, -⟩ := asked
  exact .of_same rfl rfl rfl

theorem keeps_muting {clients : SortedSet AnyID} (nonzero : 0 ∉ clients) (mute : Bool) :
    Stays (steps self env) (Keeps names) (ts3MuteClients clients mute) := by
  intro w
  apply wp_muting
  · intro _
    exact Std.Refl.refl w
  · intro ok u _ _ requested
    refine ⟨requested.handler, ?_, fun holds => holds.muting nonzero requested⟩
    rw [requested.client]

theorem keeps_muteClient {clientId : AnyID} (nonzero : clientId ≠ 0) (mute : Bool) :
    Stays (steps self env) (Keeps names) (ts3MuteClient clientId mute) := by
  have single : 0 ∉ SortedSet.singleton clientId := by
    simpa using Ne.symm nonzero
  exact keeps_muting single mute

theorem keeps_position (clientId : AnyID) (x y z : Single) :
    Stays (steps self env) (Keeps names) (ts3SetClientPosition clientId x y z) := by
  intro w
  rw [wp_ts3SetClientPosition]
  split
  · exact Std.Refl.refl w
  · rw [wp_channelset3DAttributes]
    intro ok _
    refine ⟨rfl, rfl, fun holds => ?_⟩
    exact holds.requested self _ ok _ ok (fun _ => rfl) fun _ => rfl

theorem keeps_positions (updates : List ClientPositionUpdate) :
    Stays (steps self env) (Keeps names) (setClientPositions updates) := by
  apply Stays.forM
  intro update _
  exact keeps_discard (keeps_position _ _ _ _)

theorem Kept.flushed {w : World} (holds : Kept names w) (call : TeamSpeakCall)
    (reply : call.Reply) (handle : UInt64) (ok : Bool) :
    Kept names ((w.request handle Connection.flush ok).asked self call reply) := by
  apply holds.of_same
  · rfl
  · intro h
    apply accepted_part Connection.muted w.teamspeak handle ok ?_ h
    exact fun _ => rfl
  · intro h
    change naming (accepted w.teamspeak handle Connection.flush ok h) = _
    rcases accepted_cases w.teamspeak handle Connection.flush ok with same | same
    · rw [same]
    · rw [same]
      by_cases here : h = handle
      · subst here
        simp [TeamSpeak.on, naming, Connection.flush, holds.unstaged h]
      · simp [TeamSpeak.on, here]

theorem keeps_outputMuted (handle : UInt64) (muted : Bool) :
    Stays (steps self env) (Keeps names) (ts3SetOutputMuted handle muted) := by
  intro w
  unfold ts3SetOutputMuted
  simp only [wp_bind, wp_wrapper, wp_ite, wp_setClientSelfVariableAsInt, wp_flushClientSelfUpdates,
    Program.pure_eq, wp_ret]
  intro ok _
  have staged (holds : Kept names w) : Kept names ((w.request handle
      (·.stageInt .outputMuted (if muted then 1 else 0)) ok).asked self
        (.setClientSelfVariableAsInt handle .outputMuted (if muted then 1 else 0)) ok) :=
    holds.requested self _ ok _ ok (fun _ => rfl) fun _ => rfl
  split
  · exact ⟨rfl, rfl, staged⟩
  · intro flushed _
    exact ⟨rfl, rfl, fun holds => (staged holds).flushed _ flushed _ flushed⟩

theorem keeps_move (channelId : UInt64) (password : StdString) :
    Stays (steps self env) (Keeps names) (ts3MoveToChannel channelId password) := by
  intro w
  apply wp_mono ?_ (wp_move channelId password)
  intro ok u run
  obtain ⟨answers, moved⟩ := run
  have parts {β : Type} (part : Connection → β)
      (requests : ∀ c, part (c.requestMove channelId) = part c)
      (arrives : ∀ c, part ((c.requestMove channelId).arrive channelId) = part c)
      (handle : UInt64) : part (u.teamspeak handle) = part (w.teamspeak handle) := by
    cases ok with
    | false => rw [moved.refused rfl]
    | true =>
      rcases (moved.moved rfl).2 with same | same
      · rw [same]
        exact on_part part _ handle requests
      · rw [same]
        exact on_part part _ handle arrives
  refine ⟨by rw [moved.memory], by rw [moved.memory], fun holds => ?_⟩
  apply holds.of_same
  · rw [moved.memory]
  · exact parts Connection.muted (fun _ => rfl) fun _ => rfl
  · exact parts naming (fun _ => rfl) fun _ => rfl

end Keeps

structure Renames (value : CString) (w u : World) : Prop where
  memory : u.memory = w.memory
  muted : ∀ handle, (u.teamspeak handle).muted = (w.teamspeak handle).muted
  here : naming (u.teamspeak w.memory.wrapper.serverConnectionHandler) = (value, none)
  elsewhere : ∀ handle, handle ≠ w.memory.wrapper.serverConnectionHandler →
    u.teamspeak handle = w.teamspeak handle

theorem renames_flushed (w : World) (self : ThreadId) (value : CString) :
    Renames value w ((w.staged self value true).flushed self true) := by
  constructor
  · rfl
  · intro handle
    change (accepted (accepted w.teamspeak _ _ true) _ Connection.flush true handle).muted = _
    calc (accepted (accepted w.teamspeak _ _ true) _ Connection.flush true handle).muted
      _ = (accepted w.teamspeak _ (·.stageString .nickname value) true handle).muted := by
        apply accepted_part Connection.muted _ _ true ?_ handle
        exact fun _ => rfl
      _ = (w.teamspeak handle).muted := by
        apply accepted_part Connection.muted _ _ true ?_ handle
        exact fun _ => rfl
  · simp [World.staged, World.flushed, accepted, TeamSpeak.on, naming, Connection.flush,
      Connection.stageString]
  · intro handle other
    simp [World.staged, World.flushed, accepted, TeamSpeak.on, other]

section Renaming

variable {names : UInt64 → CString} {value : CString} {w u : World}

theorem Renames.exact (renames : Renames value w u) (exact : MutedExactly w) : MutedExactly u := by
  intro handle id
  rw [renames.muted, renames.memory]
  exact exact handle id

theorem Kept.renamed (holds : Kept names w) (saved : w.memory.wrapper.originalNickname ≠ .empty)
    (renames : Renames value w u) : Kept names u := by
  constructor
  · exact renames.exact holds.exact
  · rw [renames.memory]
    exact holds.nonzero
  · intro handle other
    rw [renames.memory] at other
    have apart := other.resolve_left saved
    rw [renames.elsewhere handle apart]
    exact holds.current handle other
  · rw [renames.memory]
    exact holds.saved
  · intro handle
    by_cases here : handle = w.memory.wrapper.serverConnectionHandler
    · rw [here]
      exact congrArg Prod.snd renames.here
    · rw [renames.elsewhere handle here]
      exact holds.unstaged handle

theorem Kept.unrenamed (holds : Kept names w) (saved : w.memory.wrapper.originalNickname ≠ .empty)
    (renames : Renames (cStr w.memory.wrapper.originalNickname) w u) :
    Kept names (u.setWrapper fun m => { m with originalNickname := .empty }) := by
  have name : cStr w.memory.wrapper.originalNickname =
      names w.memory.wrapper.serverConnectionHandler := by
    rw [(holds.saved saved).2, cStr_text]
  constructor
  · exact renames.exact holds.exact
  · rw [World.setWrapper_wrapper, renames.memory]
    exact holds.nonzero
  · intro handle _
    change (u.teamspeak handle).selfString .nickname = _
    by_cases here : handle = w.memory.wrapper.serverConnectionHandler
    · rw [here, ← name]
      exact congrArg Prod.fst renames.here
    · rw [renames.elsewhere handle here]
      exact holds.current handle (.inr here)
  · intro unsaved
    exact absurd rfl unsaved
  · intro handle
    change (u.teamspeak handle).stagedString .nickname = _
    by_cases here : handle = w.memory.wrapper.serverConnectionHandler
    · rw [here]
      exact congrArg Prod.snd renames.here
    · rw [renames.elsewhere handle here]
      exact holds.unstaged handle

theorem Kept.saving (holds : Kept names w)
    (known : w.memory.wrapper.serverConnectionHandler ≠ 0)
    (unsaved : w.memory.wrapper.originalNickname = .empty)
    {nickname : CString} (read : nickname =
      (w.teamspeak w.memory.wrapper.serverConnectionHandler).selfString .nickname) :
    Kept names (w.setWrapper fun m => { m with originalNickname := nickname.text }) := by
  constructor
  · exact holds.exact
  · exact holds.nonzero
  · intro handle _
    exact holds.current handle (.inl unsaved)
  · intro _
    refine ⟨known, ?_⟩
    change nickname.text = _
    rw [read, holds.current _ (.inl unsaved)]
    rfl
  · exact holds.unstaged

variable {self : ThreadId} {env : Environment} (grants : Grants env.answers)

include grants

theorem Grants.accepted {ok : Bool} {call : TeamSpeakCall} {reply : call.Reply}
    (told : env.tells call w reply) (failed : call.failed reply = !ok) : ok = true := by
  have succeeded := grants.succeeds call w reply told
  rw [failed] at succeeded
  simpa using succeeded

theorem Grants.answered {α : Type} {call : TeamSpeakCall} {reply : call.Reply}
    {value : Option α} (told : env.tells call w reply) (failed : call.failed reply = value.isNone) :
    ∃ given, value = some given := by
  have succeeded := grants.succeeds call w reply told
  rw [failed] at succeeded
  exact Option.isSome_iff_exists.mp (by simpa using succeeded)

theorem wp_stage (value : CString) : wp (steps self env) (do
    if !(← teamspeak (.setClientSelfVariableAsString (← wrapper).serverConnectionHandler .nickname
        value)) then
      return false
    teamspeak (.flushClientSelfUpdates (← wrapper).serverConnectionHandler))
    (fun result u => result = true ∧ Renames value w u) w := by
  simp only [wp_bind, wp_wrapper, wp_ite, Program.pure_eq, wp_ret, wp_setClientSelfVariableAsString,
    wp_flushClientSelfUpdates]
  intro ok told _
  obtain rfl := grants.accepted told rfl
  simp only [Bool.not_true, Bool.false_eq_true, if_false]
  intro ok told
  obtain rfl := grants.accepted told rfl
  exact ⟨rfl, renames_flushed w self value⟩

theorem keeps_nickname (named : ∀ handle, (names handle).text ≠ .empty) (nickname : StdString) :
    Stays (steps self env) (Keeps names) (ts3SetNickname nickname) := by
  intro w
  have changing {v : World} (wrapper : v.memory.wrapper.serverConnectionHandler =
        w.memory.wrapper.serverConnectionHandler)
      (channel : v.memory.client.lastChannelId = w.memory.client.lastChannelId)
      (ready : Kept names w → Kept names v ∧ v.memory.wrapper.originalNickname ≠ .empty) :
      wp (steps self env) (do
        if !(← teamspeak (.setClientSelfVariableAsString
            (← JustAnotherVoiceChat.wrapper).serverConnectionHandler .nickname
            (cStr nickname))) then
          return false
        teamspeak (.flushClientSelfUpdates
          (← JustAnotherVoiceChat.wrapper).serverConnectionHandler))
        (fun _ u => Keeps names w u) v := by
    apply wp_mono ?_ (wp_stage grants (cStr nickname))
    intro _ u renamed
    refine ⟨?_, ?_, fun holds => ?_⟩
    · rw [renamed.2.memory, wrapper]
    · rw [renamed.2.memory, channel]
    · exact (ready holds).1.renamed (ready holds).2 renamed.2
  unfold ts3SetNickname setOriginalNickname
  rw [wp_bind, wp_wrapper, wp_ite]
  split
  · exact Std.Refl.refl w
  rename_i known
  rw [wp_bind, wp_wrapper, wp_bind, wp_getClientSelfVariableAsString]
  intro reply told read
  obtain ⟨current, rfl⟩ := grants.answered told rfl
  have read := read current rfl
  dsimp only
  rw [wp_ite]
  split
  · exact .of_same rfl rfl rfl
  rw [wp_bind, wp_wrapper, wp_ite]
  split
  · rename_i unsaved
    rw [wp_bind, wp_setWrapper]
    apply changing
    · rfl
    · rfl
    intro holds
    have same : (w.teamspeak w.memory.wrapper.serverConnectionHandler).selfString .nickname =
        names w.memory.wrapper.serverConnectionHandler := holds.current _ (.inl unsaved)
    have logged : Kept names (w.logged [⟨self, .teamspeak (.getClientSelfVariableAsString
        w.memory.wrapper.serverConnectionHandler .nickname), some current⟩]) :=
      holds.of_same rfl (fun _ => rfl) fun _ => rfl
    refine ⟨logged.saving known unsaved read, ?_⟩
    change current.contents.text ≠ .empty
    rw [read, same]
    exact named _
  · rename_i saved
    apply changing
    · rfl
    · rfl
    intro holds
    exact ⟨holds.of_same rfl (fun _ => rfl) fun _ => rfl, saved⟩

theorem wp_unrename (holds : Kept names w)
    (known : w.memory.wrapper.serverConnectionHandler ≠ 0) :
    wp (steps self env) ts3ResetNickname (fun _ u => Kept names u ∧
      u.memory.wrapper.originalNickname = .empty ∧
      u.memory.wrapper.mutedClients = w.memory.wrapper.mutedClients) w := by
  unfold ts3ResetNickname setOriginalNickname
  rw [wp_bind, wp_wrapper, wp_ite, if_neg known, wp_bind, wp_wrapper, wp_ite]
  split
  · rename_i unsaved
    exact ⟨holds, unsaved, rfl⟩
  rename_i saved
  simp only [wp_bind, wp_wrapper, wp_ite, Program.pure_eq, wp_ret, wp_setClientSelfVariableAsString,
    wp_flushClientSelfUpdates, wp_setWrapper]
  intro ok told _
  obtain rfl := grants.accepted told rfl
  simp only [Bool.not_true, Bool.false_eq_true, if_false]
  intro ok told
  obtain rfl := grants.accepted told rfl
  simp only [Bool.not_true, Bool.false_eq_true, if_false]
  exact ⟨holds.unrenamed saved (renames_flushed w self _), rfl, rfl⟩

end Renaming

structure Greeted (names : UInt64 → CString) (w u : World) (answers : List Entry) : Prop where
  kept : ∃ before, Kept names
    ((w.withHandler u.memory.wrapper.serverConnectionHandler).logged before) → Kept names u
  welcomed : answers.any Entry.welcomes = true →
    u.memory.wrapper.serverConnectionHandler ≠ 0 ∧ u.memory.client.lastChannelId ≠ 0 ∧
      u.memory.client.lastChannelId =
        (w.teamspeak u.memory.wrapper.serverConnectionHandler).ownChannel
  unwelcome : answers.any Entry.welcomes = false →
    u.memory.client.lastChannelId = w.memory.client.lastChannelId

section Handshake

variable {names : UInt64 → CString} {self : ThreadId} {env : Environment} {w u : World}

theorem keeps_sendHandshake (statusCode : Int32) :
    Stays (steps self env) (Keeps names) (sendHandshake statusCode) := by
  intro w
  apply wp_mono ?_ (wp_sendHandshake statusCode)
  intro _ u sent
  obtain ⟨answers, identity, rfl, -⟩ := sent
  exact .of_same rfl rfl rfl

theorem keeps_sendStatus : Stays (steps self env) (Keeps names) sendStatus := by
  intro w
  apply wp_mono ?_ wp_sendStatus
  intro _ u sent
  subst sent
  exact .of_same rfl rfl rfl

theorem wp_listed (channelId : UInt64) : wp (steps self env) (ts3ClientsInChannel channelId)
    (fun clients _ => 0 ∉ clients) w := by
  rw [ts3ClientsInChannel, wp_bind, wp_wrapper, wp_bind, wp_requestChannelSubscribe]
  intro _ _
  rw [wp_ite]
  split
  · exact SortedSet.not_mem_empty 0
  have waits (v : World) : wp (steps self env) (Program.repeatUntil (pollRound channelId))
      (fun _ _ => True) v := wp_mono (fun _ _ _ => trivial) (wp_exec _ v)
  rw [wp_bind]
  apply wp_mono ?_ (waits _)
  intro subscribed v _
  rw [wp_ite]
  split
  · exact SortedSet.not_mem_empty 0
  rw [wp_bind, wp_wrapper, wp_bind, wp_getChannelClientList]
  intro list _ _
  cases list with
  | none => exact SortedSet.not_mem_empty 0
  | some list =>
    rw [wp_bind, wp_freeMemory]
    intro _ _
    change 0 ∉ SortedSet.ofList (untilZero list.contents)
    rw [SortedSet.mem_ofList]
    exact fun zero => mem_untilZero_ne zero rfl

theorem announced_keeps {handle : UInt64} (announced : Announced self env handle w u) :
    Keeps names w u := by
  obtain ⟨reply, input, output, status, listener, settings⟩ := announced
  rename_i a b c d e microphoneMuted speakersMuted reset set
  have first : Keeps names w a := reply.stays (keeps_sendHandshake _)
  have second : Keeps names a b :=
    input.stays (keeps_asking (ts3IsInputMuted_on handle) (by simp [Topic.Asks]))
  have third : Keeps names b (b.setClient fun m => { m with microphoneMuted := microphoneMuted }) :=
    .of_same rfl rfl rfl
  have fourth : Keeps names _ c :=
    output.stays (keeps_asking (ts3IsOutputMuted_on handle) (by simp [Topic.Asks]))
  have fifth : Keeps names c (c.setClient fun m => { m with speakersMuted := speakersMuted }) :=
    .of_same rfl rfl rfl
  have sixth : Keeps names _ d := status.stays keeps_sendStatus
  have seventh : Keeps names d e :=
    listener.stays (keeps_asking ts3ResetListenerPosition_on (by simp [Topic.Asks]))
  have last : Keeps names e u :=
    settings.stays (keeps_asking (ts3Set3DSettings_on _ _) (by simp [Topic.Asks]))
  exact IsTrans.trans _ _ _ first (IsTrans.trans _ _ _ second (IsTrans.trans _ _ _ third
    (IsTrans.trans _ _ _ fourth (IsTrans.trans _ _ _ fifth (IsTrans.trans _ _ _ sixth
      (IsTrans.trans _ _ _ seventh last))))))

theorem prepared_keeps {handle lastChannelId : UInt64} {muted : Bool}
    (prepared : Prepared self env handle lastChannelId muted w u) : Keeps names w u := by
  obtain ⟨channel, output, silenced⟩ := prepared
  rename_i x y
  have first : Keeps names w x :=
    channel.stays (keeps_asking (ts3ChannelId_on handle) (by simp [Topic.Asks]))
  have second : Keeps names x y :=
    output.stays (keeps_asking (ts3IsOutputMuted_on handle) (by simp [Topic.Asks]))
  have third : Keeps names y u := by
    cases muted with
    | true =>
      obtain rfl := silenced
      exact Std.Refl.refl u
    | false =>
      obtain ⟨ok, silenced⟩ := silenced
      exact silenced.stays (keeps_outputMuted handle true)
  exact IsTrans.trans _ _ _ first (IsTrans.trans _ _ _ second third)

theorem entered_kept {handle lastChannelId channelId : UInt64} {tempMute : Bool}
    (entered : Entered self env handle lastChannelId channelId tempMute w u) :
    u.memory.wrapper.serverConnectionHandler = w.memory.wrapper.serverConnectionHandler ∧
      u.memory.client.lastChannelId = lastChannelId ∧ (Kept names w → Kept names u) := by
  obtain ⟨listing, muting, unsilenced, own, announced⟩ := entered
  rename_i a b c d clients teamspeakId
  have nonzero : 0 ∉ clients := listing.wp (wp_listed channelId)
  have mutes : Stays (steps self env) (Keeps names)
      (forM clients.elems fun id => discard (ts3MuteClient id true)) := by
    apply Stays.forM
    intro id member
    apply keeps_discard
    apply keeps_muteClient
    intro zero
    exact nonzero (zero ▸ member)
  have first : Keeps names w a :=
    listing.stays (keeps_asking (ts3ClientsInChannel_on channelId) (by simp [Topic.Asks]))
  have second : Keeps names a b := muting.stays mutes
  have third : Keeps names b c := by
    cases tempMute with
    | true =>
      obtain ⟨ok, unsilenced⟩ := unsilenced
      exact unsilenced.stays (keeps_outputMuted handle false)
    | false =>
      obtain rfl := unsilenced
      exact Std.Refl.refl c
  have fourth : Keeps names c d :=
    own.stays (keeps_asking (ts3ClientId_on handle) (by simp [Topic.Asks]))
  have before : Keeps names w d := IsTrans.trans _ _ _ first
    (IsTrans.trans _ _ _ second (IsTrans.trans _ _ _ third fourth))
  have after : Keeps names (d.setClient fun m =>
    { m with teamspeakId := teamspeakId, lastChannelId := lastChannelId }) u :=
    announced_keeps announced
  refine ⟨after.handler.trans before.handler, after.channel, fun holds => after.kept ?_⟩
  exact (before.kept holds).of_same rfl (fun _ => rfl) fun _ => rfl

variable (grants : Grants env.answers)

include grants

theorem wp_ownId {handle : UInt64} (known : handle ≠ 0) : wp (steps self env) (ts3ClientId handle)
    (fun id u => id ≠ 0 ∧ id = (w.teamspeak handle).ownId ∧ ∃ answers, u = w.logged answers) w := by
  unfold ts3ClientId
  rw [wp_ite, if_neg known, wp_bind, wp_getConnectionStatus]
  intro reply told
  obtain ⟨status, rfl⟩ := grants.answered told rfl
  dsimp only
  rw [wp_ite, if_neg (grants.online _ _ _ told), wp_bind, wp_getClientID]
  intro reply told own
  obtain ⟨id, rfl⟩ := grants.answered told rfl
  exact ⟨grants.known _ _ _ told, own id rfl, [_, _], rfl⟩

theorem wp_ownChannel {handle : UInt64} (known : handle ≠ 0) :
    wp (steps self env) (ts3ChannelId handle) (fun channelId u => channelId ≠ 0 ∧
      channelId = (w.teamspeak handle).ownChannel ∧ ∃ answers, u = w.logged answers) w := by
  unfold ts3ChannelId
  rw [wp_bind]
  apply wp_mono ?_ (wp_ownId grants known)
  intro id v asked
  obtain ⟨-, own, answers, rfl⟩ := asked
  rw [wp_bind, wp_getChannelOfClient]
  intro reply told channel
  obtain ⟨channelId, rfl⟩ := grants.answered told rfl
  exact ⟨grants.inside _ _ _ _ told, channel channelId rfl own, _ :: answers, rfl⟩

theorem wp_moving (known : w.memory.wrapper.serverConnectionHandler ≠ 0) (channelId : UInt64)
    (password : StdString) : wp (steps self env) (ts3MoveToChannel channelId password)
      (fun ok _ => ok = true) w := by
  unfold ts3MoveToChannel
  rw [wp_bind, wp_wrapper, wp_bind]
  apply wp_mono ?_ (wp_ownId grants known)
  intro id v asked
  rw [wp_ite, if_neg asked.1, wp_bind, wp_wrapper, wp_teamspeak]
  intro ok _ told _
  exact grants.accepted told rfl

theorem prepared_saves {handle lastChannelId : UInt64} {muted : Bool}
    (prepared : Prepared self env handle lastChannelId muted w u) (known : handle ≠ 0) :
    lastChannelId ≠ 0 ∧ lastChannelId = (w.teamspeak handle).ownChannel := by
  obtain ⟨channel, -, -⟩ := prepared
  obtain ⟨nonzero, own, -⟩ := channel.wp (wp_ownChannel grants known)
  exact ⟨nonzero, own⟩

theorem handshake_greeted {p : HandshakeResponsePacket} {answers : List Entry}
    (run : HandshakeRun self env p w u) (trace : u.trace = answers ++ w.trace) :
    Greeted names w u answers := by
  cases run with
  | @unknown v _ lookup reply =>
    obtain ⟨first, looked⟩ := lookup.wp (wp_lookup _)
    have sends : Keeps names v u := reply.stays (keeps_sendHandshake _)
    obtain ⟨_, _, trace', declined⟩ := declined_unknown lookup reply
    obtain rfl := List.append_cancel_right (trace.symm.trans trace')
    constructor
    · refine ⟨first, fun holds => sends.kept ?_⟩
      rw [looked.after, ← sends.handler]
      exact holds
    · intro welcome
      rw [declined.unwelcome] at welcome
      cases welcome
    · intro _
      rw [declined.memory]
      rfl
  | @refused v x y _ _ _ lookup prepared move reply =>
    obtain ⟨first, looked⟩ := lookup.wp (wp_lookup _)
    have prepares : Keeps names v x := prepared_keeps prepared
    have known : x.memory.wrapper.serverConnectionHandler ≠ 0 := by
      rw [prepares.handler]
      exact (looked.named rfl).1
    have moved := move.wp (wp_moving grants known _ _)
    cases moved
  | @entered v x y _ _ _ lookup prepared move entered =>
    obtain ⟨first, looked⟩ := lookup.wp (wp_lookup _)
    have known := (looked.named rfl).1
    obtain ⟨nonzero, own⟩ := prepared_saves grants prepared known
    have prepares : Keeps names v x := prepared_keeps prepared
    have moves : Keeps names x y := move.stays (keeps_move _ _)
    obtain ⟨handler, saved, enters⟩ : u.memory.wrapper.serverConnectionHandler =
        y.memory.wrapper.serverConnectionHandler ∧ u.memory.client.lastChannelId = _ ∧
          (Kept names y → Kept names u) := entered_kept entered
    have before : v = (w.withHandler v.memory.wrapper.serverConnectionHandler).logged first :=
      looked.after
    have server : u.memory.wrapper.serverConnectionHandler =
        v.memory.wrapper.serverConnectionHandler :=
      handler.trans (moves.handler.trans prepares.handler)
    have teamspeak : v.teamspeak = w.teamspeak := by
      rw [before]
      rfl
    constructor
    · refine ⟨first, fun holds => enters (moves.kept (prepares.kept ?_))⟩
      rw [before, ← server]
      exact holds
    · intro _
      rw [server, saved, ← teamspeak]
      exact ⟨known, nonzero, own⟩
    · intro unwelcome
      obtain ⟨_, _, trace', welcomed⟩ := welcomed_entered lookup prepared move entered
      obtain rfl := List.append_cancel_right (trace.symm.trans trace')
      rw [welcomed.welcome] at unwelcome
      cases unwelcome

end Handshake

inductive Action where
  | message (channelID : UInt8) (packet : Bytes)
      (continues : ∀ status, cause channelID packet ≠ .protocolRejected status)
  | moved (connection : UInt64) (event : MoveEvents.MoveEvent)

def Action.program : Action → Plugin Unit
  | .message channelID packet _ => handleMessage channelID packet
  | .moved connection event => event.handler connection

-- The connection and the channel of the first handshake that was handled successfully.
structure Home where
  handle : UInt64
  channel : UInt64
deriving DecidableEq

def Action.home (action : Action) (home : Option Home) (w u : World) : Option Home :=
  match action with
  | .message channelID _ _ =>
    if channelID = networkHandshakeChannel ∧ (newSince w u).any Entry.welcomes = true then
      home.or (some ⟨u.memory.wrapper.serverConnectionHandler,
        (w.teamspeak u.memory.wrapper.serverConnectionHandler).ownChannel⟩)
    else home
  | .moved _ _ => home

def Bound (home : Option Home) (w : World) : Prop :=
  home ≠ none ∨ ¬ w.memory.wrapper.mutedClients.isEmpty = true ∨
    w.memory.wrapper.originalNickname ≠ .empty

-- A handshake response comes while the own client is in the channel to come back to, and names the
-- server on which there is something to restore.
def Repeats (home : Option Home) (w : World) (answers : List Entry)
    (p : HandshakeResponsePacket) : Prop :=
  (∀ h ∈ home, (w.teamspeak h.handle).ownChannel = h.channel) ∧
    (Bound home w → answers.findSome? (Entry.named p.teamspeakServerUniqueIdentifier) =
      some w.memory.wrapper.serverConnectionHandler)

def Action.Careful (action : Action) (home : Option Home) (w u : World) : Prop :=
  match action with
  | .message channelID packet _ =>
    (channelID = networkHandshakeChannel → ∀ p,
      receive HandshakeResponsePacket.serialize packet = some p → p.statusCode = statusCodeOk →
        Repeats home w (newSince w u) p) ∧
    (channelID = networkUpdateChannel → ∀ p, receive UpdatePacket.serialize packet = some p →
      ∀ update ∈ p.audioUpdates.items, update.teamspeakId ≠ 0)
  | .moved _ _ => True

structure Elsewhere (w u : World) : Prop where
  wrapper : u.memory.wrapper = w.memory.wrapper
  channel : u.memory.client.lastChannelId = w.memory.client.lastChannelId
  muted : ∀ handle, (u.teamspeak handle).muted = (w.teamspeak handle).muted
  naming : ∀ handle, naming (u.teamspeak handle) = naming (w.teamspeak handle)

inductive Session (answers : (call : External) → World → call.Reply → Prop)
    (allowed : Action → Option Home → World → World → Prop) (start : World) :
    Option Home → World → Prop where
  | start : Session answers allowed start none start
  | act {home : Option Home} {w u : World} (before : Session answers allowed start home w)
      (action : Action) (caller : ThreadId)
      (threading : (call : ThreadCall) → World → call.Reply → World → Prop)
      (step : Exec (steps caller ⟨answers, threading⟩) action.program w () u)
      (ok : allowed action home w u) : Session answers allowed start (action.home home w u) u
  | elsewhere {home : Option Home} {w u : World} (before : Session answers allowed start home w)
      (same : Elsewhere w u) : Session answers allowed start home u

structure Holds (names : UInt64 → CString) (home : Option Home) (w : World) : Prop where
  kept : Kept names w
  home : ∀ h ∈ home, h.handle ≠ 0 ∧ h.channel ≠ 0 ∧
    w.memory.wrapper.serverConnectionHandler = h.handle ∧ w.memory.client.lastChannelId = h.channel

section Sessions

variable {names : UInt64 → CString} {self : ThreadId} {env : Environment} {w u : World}
  {home : Option Home}

theorem Holds.keeps (holds : Holds names home w) (keeps : Keeps names w u) :
    Holds names home u := by
  refine ⟨keeps.kept holds.kept, fun h member => ?_⟩
  rw [keeps.handler, keeps.channel]
  exact holds.home h member

theorem Holds.elsewhere (holds : Holds names home w) (same : Elsewhere w u) :
    Holds names home u := by
  refine ⟨holds.kept.of_same same.wrapper same.muted same.naming, fun h member => ?_⟩
  rw [same.wrapper, same.channel]
  exact holds.home h member

theorem keeps_event (connection : UInt64) (event : MoveEvents.MoveEvent) :
    Stays (steps self env) (Keeps names) (event.handler connection) := by
  have parts : PluginPrograms (fun {_} p => Stays (steps self env) (Keeps names) p) :=
    ⟨Stays.pure, Stays.bind, keeps_load⟩
  have own : Stays (steps self env) (Keeps names) (ts3ClientId connection) :=
    keeps_asking (ts3ClientId_on connection) (by simp [Topic.Asks])
  have channel : Stays (steps self env) (Keeps names) (ts3ChannelId connection) :=
    keeps_asking (ts3ChannelId_on connection) (by simp [Topic.Asks])
  exact parts.move (parts.ingame keeps_object) channel (keeps_muteClient event.nonzero)
    (keeps_position _ _ _ _) own

theorem keeps_update {packet : Bytes} (nonzero : ∀ p,
    receive UpdatePacket.serialize packet = some p →
      ∀ update ∈ p.audioUpdates.items, update.teamspeakId ≠ 0) :
    Stays (steps self env) (Keeps names) (handleUpdateMessage packet) := by
  unfold handleUpdateMessage
  cases received : receive UpdatePacket.serialize packet with
  | none => exact Stays.pure _
  | some p =>
    obtain ⟨mutes, unmutes⟩ := PlainUpdate.nonzero_split (nonzero p received)
    apply (keeps_discard (keeps_muting mutes true)).bind
    intro _
    apply (keeps_discard (keeps_muting unmutes false)).bind
    intro _
    exact keeps_positions _

theorem keeps_message (grants : Grants env.answers)
    (named : ∀ handle, (names handle).text ≠ .empty) {channelID : UInt8} {packet : Bytes}
    (continues : ∀ status, cause channelID packet ≠ .protocolRejected status)
    (other : channelID ≠ networkHandshakeChannel)
    (nonzero : channelID = networkUpdateChannel → ∀ p,
      receive UpdatePacket.serialize packet = some p →
        ∀ update ∈ p.audioUpdates.items, update.teamspeakId ≠ 0) :
    Stays (steps self env) (Keeps names) (handleMessage channelID packet) := by
  unfold handleMessage
  split
  · rename_i protocol
    subst protocol
    rcases handleProtocolResponse_kept packet continues with same | same
    · rw [same]
      exact Stays.pure _
    · rw [same]
      exact keeps_sendHandshake _
  split
  · rename_i updates
    exact keeps_update (nonzero updates)
  split
  · unfold handleControlMessage
    split
    · exact Stays.pure _
    split
    · exact keeps_discard (keeps_nickname grants named _)
    · exact Stays.pure _
  split
  · unfold handlePositionMessage
    split
    · exact Stays.pure _
    · exact keeps_positions _
  · exact Stays.pure _

theorem Holds.greeted (holds : Holds names home w) {p : HandshakeResponsePacket}
    {answers : List Entry} (greeted : Greeted names w u answers)
    (settling : Settling p w u answers) (repeats : Repeats home w answers p) :
    Holds names (if answers.any Entry.welcomes = true then
      home.or (some ⟨u.memory.wrapper.serverConnectionHandler,
        (w.teamspeak u.memory.wrapper.serverConnectionHandler).ownChannel⟩) else home) u := by
  have server : Bound home w → u.memory.wrapper.serverConnectionHandler =
      w.memory.wrapper.serverConnectionHandler := by
    intro bound
    have found := repeats.2 bound
    cases settling with
    | refused client unwelcome unmoved server => exact server (.inr found)
    | settled fields welcome found' on own => exact Option.some.inj (found'.symm.trans found)
  have kept : Kept names u := by
    obtain ⟨before, keeps⟩ := greeted.kept
    apply keeps
    apply holds.kept.withHandler before
    by_cases bound : Bound home w
    · exact .inr (server bound)
    · simp only [Bound, not_or, not_not] at bound
      exact .inl bound.2
  refine ⟨kept, fun h member => ?_⟩
  cases welcome : answers.any Entry.welcomes with
  | false =>
    rw [welcome] at member
    have member : h ∈ home := by simpa using member
    have bound : Bound home w := by
      refine .inl ?_
      rintro rfl
      cases member
    rw [server bound, greeted.unwelcome welcome]
    exact holds.home h member
  | true =>
    rw [welcome] at member
    obtain ⟨known, nonzero, channel⟩ := greeted.welcomed welcome
    cases home with
    | none =>
      obtain rfl : _ = h := Option.some.inj member
      exact ⟨known, channel ▸ nonzero, rfl, channel⟩
    | some home =>
      obtain rfl : home = h := Option.some.inj member
      obtain ⟨known, inside, handle, -⟩ := holds.home home rfl
      have same := (server (.inl (Option.some_ne_none home))).trans handle
      refine ⟨known, inside, same, ?_⟩
      rw [channel, same]
      exact repeats.1 home rfl

theorem Holds.handshake (grants : Grants env.answers) (holds : Holds names home w)
    {packet : Bytes} (continues : ∀ status,
      cause networkHandshakeChannel packet ≠ .protocolRejected status)
    (step : Exec (steps self env) (handleMessage networkHandshakeChannel packet) w () u)
    (repeats : ∀ p, receive HandshakeResponsePacket.serialize packet = some p →
      p.statusCode = statusCodeOk → Repeats home w (newSince w u) p) :
    Holds names ((Action.message networkHandshakeChannel packet continues).home home w u) u := by
  have step : Exec (steps self env) (handleHandshakeResponse packet) w () u := step
  by_cases handled : ∃ p, receive HandshakeResponsePacket.serialize packet = some p ∧
      p.statusCode = statusCodeOk
  · obtain ⟨p, received, accepted⟩ := handled
    have run : HandshakeRun self env p w u := step.wp (wp_handshake received accepted)
    have beside : Linking self w u := step.wp (linking_rules.handshakeResponse packet w)
    obtain ⟨answers, trace, -⟩ := beside.trace
    have trace : u.trace = newSince w u ++ w.trace := newSince_grown ⟨answers, trace⟩
    have after := holds.greeted (handshake_greeted grants run trace) (run.settling trace)
      (repeats p received accepted)
    simpa [Action.home] using after
  · have ignored : ∀ p, receive HandshakeResponsePacket.serialize packet = some p →
        p.statusCode ≠ statusCodeOk := fun p received accepted => handled ⟨p, received, accepted⟩
    obtain rfl := step.wp (wp_handshake_ignored ignored)
    have silent : newSince u u = [] := by simp [newSince]
    simpa [Action.home, silent] using holds

theorem Session.holds {answers : (call : External) → World → call.Reply → Prop} {start : World}
    (grants : Grants answers) (named : ∀ handle, (names handle).text ≠ .empty)
    (begins : Kept names start) (session : Session answers Action.Careful start home w) :
    Holds names home w := by
  induction session with
  | start => exact ⟨begins, fun h member => by cases member⟩
  | elsewhere before same ih => exact ih.elsewhere same
  | @act home w u before action caller threading step ok ih =>
    cases action with
    | moved connection event => exact ih.keeps (step.stays (keeps_event connection event))
    | message channelID packet continues =>
      by_cases handshake : channelID = networkHandshakeChannel
      · subst handshake
        exact ih.handshake grants continues step (ok.1 rfl)
      · have same : (Action.message channelID packet continues).home home w u = home := by
          simp [Action.home, handshake]
        rw [same]
        exact ih.keeps (step.stays (keeps_message grants named continues handshake ok.2))

end Sessions

structure Recovered (names : UInt64 → CString) (home : Home) (w : World) : Prop where
  channel : (w.teamspeak home.handle).ownChannel = home.channel ∨
    (w.teamspeak home.handle).requested = some home.channel
  cache : w.memory.wrapper.mutedClients = .empty
  unmuted : ∀ handle id, (w.teamspeak handle).muted id = false
  nickname : ∀ handle, (w.teamspeak handle).selfString .nickname = names handle

def Away (home : Home) (w : World) : Prop :=
  (w.teamspeak home.handle).ownChannel ≠ home.channel ∨
    w.memory.wrapper.mutedClients.isEmpty = true ∧ w.memory.wrapper.originalNickname = .empty

inductive Closing (names : UInt64 → CString) (home : Home) (w : World) : Prop where
  | before (holds : Holds names (some home) w) (away : Away home w)
  | after (kept : Kept names w) (recovered : Recovered names home w)
      (unsaved : w.memory.wrapper.originalNickname = .empty)
      (forgotten : w.memory.client.lastChannelId = 0)

structure Done (names : UInt64 → CString) (home : Home) (w : World) : Prop where
  closing : Closing names home w
  kept : Kept names w
  recovered : Recovered names home w
  unsaved : w.memory.wrapper.originalNickname = .empty

section Reset

variable {names : UInt64 → CString} {self : ThreadId} {env : Environment} {w u : World}
  {home : Home}

theorem recovered_of_clean (kept : Kept names w)
    (channel : (w.teamspeak home.handle).ownChannel = home.channel ∨
      (w.teamspeak home.handle).requested = some home.channel)
    (empty : w.memory.wrapper.mutedClients.isEmpty = true)
    (unsaved : w.memory.wrapper.originalNickname = .empty) : Recovered names home w := by
  have none : ∀ id, id ∉ w.memory.wrapper.mutedClients := SortedSet.isEmpty_iff.mp empty
  constructor
  · exact channel
  · exact SortedSet.eq_empty_iff.mpr none
  · intro handle id
    have muted := kept.exact handle id
    simpa [none id] using muted
  · intro handle
    exact kept.current handle (.inl unsaved)

theorem keeps_resetPositions :
    Stays (steps self env) (Keeps names) ts3ResetClients3DPositions := by
  have channel (handle : UInt64) : Stays (steps self env) (Keeps names) (ts3ChannelId handle) :=
    keeps_asking (ts3ChannelId_on handle) (by simp [Topic.Asks])
  have listing (channelId : UInt64) :
      Stays (steps self env) (Keeps names) (ts3ClientsInChannel channelId) :=
    keeps_asking (ts3ClientsInChannel_on channelId) (by simp [Topic.Asks])
  have placing (ids : List AnyID) : Stays (steps self env) (Keeps names)
      (forM ids fun id => discard (ts3SetClientPosition id 0 0 0)) := by
    apply Stays.forM
    intro id _
    exact keeps_discard (keeps_position _ _ _ _)
  unfold ts3ResetClients3DPositions
  apply keeps_wrapper.bind
  intro m
  split
  · exact Stays.pure ()
  apply keeps_wrapper.bind
  intro m
  apply (channel _).bind
  intro channelId
  apply (listing channelId).bind
  intro clients
  exact placing clients.elems

theorem resetPositions_on : ts3ResetClients3DPositions.Calls
    (Op.On (fun _ => ()) [.ownId, .channel, .memory, .position]) :=
  wrapperPrograms_on.ts3ResetClients3DPositions (by decide) (by decide) (by decide) (by decide)

def restore : Plugin Unit := do
  ts3ResetClients3DPositions
  discard ts3UnmuteAllClients
  discard ts3ResetNickname

theorem restore_on : restore.Calls (Op.On (fun _ => ())
    [.ownId, .channel, .memory, .position, .mute, .readString, .writeString, .writeInt]) :=
  (Op.On.more (by decide) resetPositions_on).bind fun _ => Op.On.more (by decide) restoring_on

theorem restore_calls : restore.Calls Op.OfWrapper :=
  ts3ResetClients3DPositions_calls.bind fun _ =>
    (discard_calls ts3UnmuteAllClients_calls).bind fun _ => discard_calls ts3ResetNickname_calls

theorem wp_requested : wp (steps self env) restore (fun _ u => ∀ handle,
    (u.teamspeak handle).requested = (w.teamspeak handle).requested) w := by
  apply wp_samePart Connection.requested restore_on
  intro call about f effect c
  cases call with
  | requestMuteClients | requestUnmuteClients | setClientSelfVariableAsString
  | setClientSelfVariableAsInt | flushClientSelfUpdates | channelset3DAttributes =>
    rw [show f = _ from effect]
    rfl
  | requestClientMove => simp [TeamSpeakCall.topic] at about
  | _ => cases effect

variable (grants : Grants env.answers)

include grants

theorem wp_unmuteAll (kept : Kept names w) : wp (steps self env) ts3UnmuteAllClients (fun _ u =>
    Kept names u ∧ u.memory.wrapper.mutedClients.isEmpty = true ∧
      u.memory.wrapper.serverConnectionHandler = w.memory.wrapper.serverConnectionHandler) w := by
  rw [wp_ts3UnmuteAllClients]
  split
  · rename_i empty
    exact ⟨kept, empty, rfl⟩
  · intro ok told
    obtain rfl := grants.accepted told rfl
    exact ⟨kept.unmutedAll self, rfl, rfl⟩

theorem wp_restore (kept : Kept names w)
    (known : w.memory.wrapper.serverConnectionHandler ≠ 0) :
    wp (steps self env) restore (fun _ u => Kept names u ∧
      u.memory.wrapper.mutedClients.isEmpty = true ∧
        u.memory.wrapper.originalNickname = .empty) w := by
  have placing : Stays (steps self env) (Keeps names) ts3ResetClients3DPositions :=
    keeps_resetPositions
  unfold restore
  rw [wp_bind]
  apply wp_mono ?_ (placing w)
  intro _ v placed
  rw [wp_bind, wp_discard]
  apply wp_mono ?_ (wp_unmuteAll grants (placed.kept kept))
  intro _ x unmuted
  obtain ⟨kept, empty, handler⟩ := unmuted
  rw [wp_discard]
  apply wp_mono ?_ (wp_unrename grants kept ?_)
  · intro _ u renamed
    obtain ⟨kept, unsaved, cache⟩ := renamed
    rw [cache]
    exact ⟨kept, empty, unsaved⟩
  · rw [handler, placed.handler]
    exact known

theorem wp_goesBack (holds : Holds names (some home) w) :
    wp (steps self env) (ts3MoveToChannel w.memory.client.lastChannelId .empty) (fun ok u =>
      ok = true ∧ Keeps names w u ∧
        (u.teamspeak home.handle).requested = some home.channel) w := by
  obtain ⟨known, -, handle, channel⟩ := holds.home home rfl
  have known' : w.memory.wrapper.serverConnectionHandler ≠ 0 := handle ▸ known
  have moving : Stays (steps self env) (Keeps names)
      (ts3MoveToChannel w.memory.client.lastChannelId .empty) := keeps_move _ _
  apply wp_mono ?_ (wp_and (wp_moving grants known' _ _) (wp_and (moving w) (wp_move _ _)))
  intro ok u both
  obtain ⟨rfl, keeps, answers, moved⟩ := both
  refine ⟨rfl, keeps, ?_⟩
  rcases (moved.moved rfl).2 with same | same
  · rw [same, handle, channel]
    simp [TeamSpeak.on, Connection.requestMove]
  · rw [same, handle, channel]
    simp [TeamSpeak.on, Connection.requestMove, Connection.arrive]

theorem wp_resets (closing : Closing names home w) :
    wp (steps self env) resetTeamspeak (fun _ u => Done names home u) w := by
  unfold resetTeamspeak ts3ServerConnectionHandle
  rw [wp_bind, wp_client, wp_ite]
  cases closing with
  | after kept recovered unsaved forgotten =>
    rw [if_pos forgotten]
    exact ⟨.after kept recovered unsaved forgotten, kept, recovered, unsaved⟩
  | before holds away =>
    obtain ⟨known, inside, handle, channel⟩ := holds.home home rfl
    have saved : w.memory.client.lastChannelId ≠ 0 := channel ▸ inside
    have known' : w.memory.wrapper.serverConnectionHandler ≠ 0 := handle ▸ known
    rw [if_neg saved]
    simp only [wp_bind, wp_wrapper, wp_ite, Program.pure_eq, wp_ret, if_neg known']
    apply wp_mono ?_ (wp_ownChannel grants known')
    intro channelId v asked
    obtain ⟨-, own, answers, rfl⟩ := asked
    rw [wp_client]
    have still : Keeps names w (w.logged answers) := .of_same rfl rfl rfl
    split
    · rename_i there
      have back : (w.teamspeak home.handle).ownChannel = home.channel := by
        rw [← handle, ← own, ← channel]
        exact there
      obtain ⟨empty, unsaved⟩ := away.resolve_left fun gone => gone back
      have kept := still.kept holds.kept
      exact ⟨.before (holds.keeps still) (.inr ⟨empty, unsaved⟩), kept,
        recovered_of_clean kept (.inl back) empty unsaved, unsaved⟩
    rw [wp_client]
    apply wp_mono ?_ (wp_goesBack grants (holds.keeps still))
    intro ok x moved
    obtain ⟨rfl, keeps, requested⟩ := moved
    simp only [Bool.not_true, Bool.false_eq_true, if_false]
    rw [wp_setClient]
    let y := x.setClient fun c => { c with lastChannelId := 0 }
    have kept : Kept names y :=
      (keeps.kept (still.kept holds.kept)).of_same rfl (fun _ => rfl) fun _ => rfl
    have known : y.memory.wrapper.serverConnectionHandler ≠ 0 := by
      change x.memory.wrapper.serverConnectionHandler ≠ 0
      rw [keeps.handler]
      exact known'
    simp only [← wp_bind]
    change wp (steps self env) restore (fun _ u => Done names home u) y
    apply wp_mono ?_ (wp_and (wp_restore grants kept known)
      (wp_and wp_requested (wp_keeping restore_calls)))
    intro _ u restored
    obtain ⟨⟨kept, empty, unsaved⟩, requested', beside⟩ := restored
    have forgotten : u.memory.client.lastChannelId = 0 :=
      congrArg (fun m => m.1.lastChannelId) beside.memory
    have recovered : Recovered names home u :=
      recovered_of_clean kept (.inr ((requested' home.handle).trans requested)) empty unsaved
    exact ⟨.after kept recovered unsaved forgotten, kept, recovered, unsaved⟩

end Reset

structure Advances (names : UInt64 → CString) (home : Home) (w u : World) : Prop where
  closing : Closing names home w → Closing names home u
  done : Done names home w → Done names home u

section Endings

variable {names : UInt64 → CString} {home : Home}

instance advances_refl : Std.Refl (Advances names home) := ⟨fun _ => ⟨id, id⟩⟩

instance advances_trans : IsTrans World (Advances names home) where
  trans _ _ _ first second :=
    ⟨fun closing => second.closing (first.closing closing), fun done =>
    second.done (first.done done)⟩

theorem Advances.of_same {w u : World} (wrapper : u.memory.wrapper = w.memory.wrapper)
    (channel : u.memory.client.lastChannelId = w.memory.client.lastChannelId)
    (teamspeak : u.teamspeak = w.teamspeak) : Advances names home w u := by
  have keeps : Keeps names w u := .of_same wrapper channel teamspeak
  have recovers (recovered : Recovered names home w) : Recovered names home u := by
    constructor
    · rw [teamspeak]
      exact recovered.channel
    · rw [wrapper]
      exact recovered.cache
    · rw [teamspeak]
      exact recovered.unmuted
    · rw [teamspeak]
      exact recovered.nickname
  have closes (closing : Closing names home w) : Closing names home u := by
    cases closing with
    | before holds away =>
      apply Closing.before (holds.keeps keeps)
      rw [Away, wrapper, teamspeak]
      exact away
    | after kept recovered unsaved forgotten =>
      exact .after (keeps.kept kept) (recovers recovered) (wrapper ▸ unsaved)
        (channel.trans forgotten)
  exact ⟨closes, fun done => ⟨closes done.closing, keeps.kept done.kept, recovers done.recovered,
    wrapper ▸ done.unsaved⟩⟩

section Steps

variable {self : ThreadId} {env : Environment} {w : World}

theorem advances_load : Stays (steps self env) (Advances names home) load := by
  intro w
  rw [wp_load]
  exact Std.Refl.refl w

theorem advances_parts : PluginPrograms
    (fun {_} p => Stays (steps self env) (Advances names home) p) :=
  ⟨Stays.pure, Stays.bind, advances_load⟩

theorem advances_setClient {update : Client → Client}
    (channel : ∀ c, (update c).lastChannelId = c.lastChannelId) :
    Stays (steps self env) (Advances names home) (setClient update) := by
  intro w
  rw [wp_setClient]
  exact .of_same rfl (channel w.memory.client) rfl

theorem advances_setGlobals (update : Globals → Globals) :
    Stays (steps self env) (Advances names home) (setGlobals update) := by
  intro w _ u step
  obtain rfl : u = _ := step
  exact .of_same rfl rfl rfl

theorem advances_object (call : ObjectCall) :
    Stays (steps self env) (Advances names home) (object call) := by
  intro w
  rw [wp_object]
  intro _
  exact .of_same rfl rfl rfl

theorem advances_enet (call : EnetCall) :
    Stays (steps self env) (Advances names home) (enet call) := by
  intro w
  rw [wp_enet]
  intro _ _ _ _
  exact .of_same rfl rfl rfl

theorem advances_awaitDisconnect :
    Stays (steps self env) (Advances names home) (Program.repeatUntil awaitDisconnect) := by
  intro w
  apply wp_mono ?_ wp_drain
  intro _ u drained
  have memory := drained.memory
  exact .of_same (by rw [memory]) (by rw [memory]) drained.teamspeak

theorem advances_closeConnection :
    Stays (steps self env) (Advances names home) closeConnection := by
  intro w
  apply wp_closeConnection
  apply Advances.of_same
  · rw [World.closed_wrapper]
  · rw [World.closed_client]
  · rw [World.closed_teamspeak]

theorem advances_sendProtocolMessage :
    Stays (steps self env) (Advances names home) sendProtocolMessage :=
  advances_parts.sendProtocolMessage fun _ => advances_parts.sendPacket fun _ => advances_enet _

theorem advances_lasting {update : Client → Client} (same : ∀ c, lasting (update c) = lasting c) :
    Stays (steps self env) (Advances names home) (setClient update) :=
  advances_setClient fun c => congrArg (·.1) (same c)

theorem wp_first {α β : Type} {p : Plugin α} {f : α → Plugin β} {post : β → World → Prop}
    (stays : Stays (steps self env) (Advances names home) p) (closing : Closing names home w)
    (rest : ∀ value u, Closing names home u → wp (steps self env) (f value) post u) :
    wp (steps self env) (p >>= f) post w := by
  rw [wp_bind]
  apply wp_mono ?_ (stays w)
  intro value u advances
  exact rest value u (advances.closing closing)

theorem wp_last {α : Type} {p : Plugin α}
    (stays : Stays (steps self env) (Advances names home) p) (done : Done names home w) :
    wp (steps self env) p (fun _ u => Done names home u) w := by
  apply wp_mono ?_ (stays w)
  intro _ u advances
  exact advances.done done

variable (grants : Grants env.answers)
  (aborts : Stays (steps self env) (Advances names home) abortThread)

include grants

theorem advances_reset : Stays (steps self env) (Advances names home) resetTeamspeak := by
  intro w
  apply wp_iff_exec.mpr
  intro _ u run
  refine ⟨fun closing => ?_, fun done => run.wp (wp_resets grants done.closing)⟩
  exact (run.wp (wp_resets grants closing)).closing

include aborts

theorem wp_closes (closing : Closing names home w) :
    wp (steps self env) close (fun _ u => Done names home u) w := by
  apply wp_first aborts closing
  intro _ v closing
  apply wp_first advances_closeConnection closing
  intro _ u closing
  exact wp_resets grants closing

theorem advances_close : Stays (steps self env) (Advances names home) close :=
  aborts.bind fun _ => advances_closeConnection.bind fun _ => advances_reset grants

theorem wp_disconnects (status : UInt32) (connected : w.memory.client.peer ≠ none)
    (closing : Closing names home w) :
    wp (steps self env) (disconnect status) (fun _ u => Done names home u) w := by
  unfold disconnect
  rw [wp_bind, wp_client, wp_ite, if_neg connected]
  apply wp_first advances_parts.client closing
  intro _ v closing
  apply wp_first (advances_enet _) closing
  intro _ v closing
  apply wp_first aborts closing
  intro _ v closing
  apply wp_first advances_awaitDisconnect closing
  intro _ v closing
  iterate 4
    apply wp_first (advances_setClient (by simp)) closing
    intro _ v closing
  exact wp_closes grants aborts closing

theorem advances_createConnection (host : StdString) (port : UInt16) :
    Stays (steps self env) (Advances names home) (createConnection host port) :=
  advances_parts.createConnection (fun call _ => advances_enet call)
    (fun tame => advances_lasting tame.lasting) (advances_close grants aborts) host port

theorem wp_reconnects (spawns : Stays (steps self env) (Advances names home) (thread .spawn))
    {host : StdString} {port gameId : UInt16} (isOpen : w.memory.client.IsOpen)
    (other : ¬ w.memory.client.Caches host port gameId) (closing : Closing names home w) :
    wp (steps self env) (connect host port gameId) (fun _ u => Done names home u) w := by
  have starts : Stays (steps self env) (Advances names home) (do
      startUpdate host port gameId
      sendProtocolMessage
      return true) := by
    apply (advances_parts.startUpdate aborts spawns advances_lasting host port gameId).bind
    intro _
    exact advances_sendProtocolMessage.bind fun _ => Stays.pure true
  have connected : w.memory.client.peer ≠ none := Option.isSome_iff_ne_none.mp isOpen.2.1
  unfold connect openConnection
  simp only [wp_bind, wp_client, wp_ite]
  have fresh : ¬ (host = w.memory.client.host ∧ w.memory.client.port = port ∧
      w.memory.client.gameId = gameId) := other
  rw [if_neg fresh, wp_isOpen]
  simp only [isOpen, decide_true, if_true]
  apply wp_mono ?_ (wp_disconnects grants aborts _ connected closing)
  intro _ v done
  apply wp_mono ?_ (wp_last (advances_createConnection grants aborts host port) done)
  intro created x done
  split
  · exact done
  · simp only [← wp_bind]
    exact wp_last starts done

end Steps

section Joined

variable {answers : (call : External) → World → call.Reply → Prop}

theorem aborts_updating (self : ThreadId) :
    Stays (steps self (.updating self answers)) (Advances names home) abortThread :=
  advances_parts.abortThread (fun call _ _ => stays_updating self call)
    (advances_setClient fun _ => rfl) (advances_setClient fun _ => rfl)

variable (grants : Grants answers)

include grants

theorem advances_joined {id : ThreadId} {w u : World} (stopped : w.memory.client.running = false)
    (ended : Ended answers id w u) : Advances names home w u := by
  have closes : Stays (steps id (.updating id answers)) (Advances names home) close :=
    advances_close grants (aborts_updating id)
  have finishes (v : World) : Advances names home v (v.withPhase id .finished) :=
    .of_same rfl rfl rfl
  by_cases alive : (w.phase id).Alive
  · obtain ⟨v, run, rfl⟩ := ended.close stopped alive
    exact IsTrans.trans _ _ _ (run.stays closes) (finishes v)
  · unfold Ended at ended
    cases phase : w.phase id with
    | unborn => simp [phase] at ended
    | looping | left => simp [phase, Phase.Alive] at alive
    | finished =>
      simp only [phase] at ended
      subst ended
      exact Std.Refl.refl u

theorem aborts_calling (caller : ThreadId) :
    Stays (steps caller (.calling caller answers)) (Advances names home) abortThread := by
  intro w
  unfold abortThread
  simp only [wp_bind, wp_client, wp_ite, Program.pure_eq, wp_ret, wp_selfId, wp_joinable,
    wp_setClient, wp_join, wp_delete, if_true]
  split
  · exact Std.Refl.refl w
  split
  · intro id u _ ended
    have stops : Advances names home w w.stopped := .of_same rfl rfl rfl
    have joined : Advances names home w.stopped u := advances_joined grants rfl ended
    have forgets : Advances names home u u.withoutThread := .of_same rfl rfl rfl
    exact IsTrans.trans _ _ _ stops (IsTrans.trans _ _ _ joined forgets)
  · exact Std.Refl.refl w

end Joined

-- What ends a session: the update thread leaves its loop, or the protocol response is rejected
-- there; and the calls that disconnect, connect elsewhere or delete the client.
inductive Ending (answers : (call : External) → World → call.Reply → Prop) (w u : World) :
    Prop where
  | left (self : ThreadId) (step : Exec (steps self (.updating self answers)) close w () u)
  | rejected (self : ThreadId) (status : UInt32) (connected : w.memory.client.peer ≠ none)
      (step : Exec (steps self (.updating self answers)) (disconnect status) w () u)
  | disconnected (caller : ThreadId) (connected : w.memory.client.peer ≠ none)
      (step : Exec (steps caller (.calling caller answers)) (disconnect disconnectStatusOk) w () u)
  | reconnected (caller : ThreadId) (host : StdString) (port gameId : UInt16)
      (isOpen : w.memory.client.IsOpen) (other : ¬ w.memory.client.Caches host port gameId)
      (result : Bool)
      (step : Exec (steps caller (.calling caller answers)) (connect host port gameId) w result u)
  | deleted (caller : ThreadId)
      (step : Exec (steps caller (.calling caller answers)) deleteClient w () u)

section Theorem

variable {answers : (call : External) → World → call.Reply → Prop} {w u : World}

theorem Ending.done (grants : Grants answers) (ending : Ending answers w u)
    (closing : Closing names home w) : Done names home u := by
  cases ending with
  | left self step => exact step.wp (wp_closes grants (aborts_updating self) closing)
  | rejected self status connected step =>
    exact step.wp (wp_disconnects grants (aborts_updating self) status connected closing)
  | disconnected caller connected step =>
    exact step.wp (wp_disconnects grants (aborts_calling grants caller) _ connected closing)
  | reconnected caller host port gameId isOpen other result step =>
    have spawns : Stays (steps caller (.calling caller answers)) (Advances names home)
        (thread .spawn) := by
      intro w
      rw [wp_spawn]
      intro id _ _
      exact .of_same rfl rfl rfl
    exact step.wp (wp_reconnects grants (aborts_calling grants caller) spawns isOpen other closing)
  | deleted caller step =>
    have deletes : wp (steps caller (.calling caller answers)) deleteClient
        (fun _ u => Done names home u) w := by
      unfold deleteClient
      apply wp_first advances_load closing
      intro _ v closing
      apply wp_first (advances_object _) closing
      intro _ v closing
      rw [wp_bind]
      apply wp_mono ?_ (wp_closes grants (aborts_calling grants caller) closing)
      intro _ x done
      exact wp_last (advances_setGlobals _) done
    exact step.wp deletes

structure Begins (w : World) : Prop where
  exact : MutedExactly w
  nonzero : 0 ∉ w.memory.wrapper.mutedClients
  unsaved : w.memory.wrapper.originalNickname = .empty
  unstaged : ∀ handle, (w.teamspeak handle).stagedString .nickname = none
  named : ∀ handle, ((w.teamspeak handle).selfString .nickname).text ≠ .empty

def nicknames (w : World) (handle : UInt64) : CString := (w.teamspeak handle).selfString .nickname

theorem Begins.kept (begins : Begins w) : Kept (nicknames w) w where
  exact := begins.exact
  nonzero := begins.nonzero
  current _ _ := rfl
  saved saved := absurd begins.unsaved saved
  unstaged := begins.unstaged

theorem Done.begins (done : Done names home w) (named : ∀ handle, (names handle).text ≠ .empty) :
    Begins w where
  exact := done.kept.exact
  nonzero := done.kept.nonzero
  unsaved := done.unsaved
  unstaged := done.kept.unstaged
  named handle := by
    rw [done.recovered.nickname]
    exact named handle

/-- After a session of careful actions, a close that finds the own client elsewhere, or finds
nothing else to restore, restores everything, and the next session may begin. -/
theorem close_restores (answers : (call : External) → World → call.Reply → Prop)
    (grants : Grants answers) (start w u : World) (begins : Begins start) (home : Home)
    (session : Session answers Action.Careful start (some home) w) (away : Away home w)
    (ending : Ending answers w u) : Recovered (nicknames start) home u ∧ Begins u := by
  have holds : Holds (nicknames start) (some home) w :=
    session.holds grants begins.named begins.kept
  have done := ending.done grants (.before holds away)
  exact ⟨done.recovered, done.begins begins.named⟩

end Theorem

end Endings

def Succeeds : (call : TeamSpeakCall) → call.Reply → Prop
  | .getConnectionStatus _, some status => status = 1
  | .getClientID _, some id => id ≠ 0
  | .getChannelOfClient _ _, some channelId => channelId ≠ 0
  | call, reply => call.failed reply = false

def successes (call : External) (_ : World) (reply : call.Reply) : Prop :=
  match call, reply with
  | .teamspeak call, reply => Succeeds call reply
  | _, _ => True

theorem successes_grants : Grants successes := by
  constructor
  · intro call w reply told
    have told : Succeeds call reply := told
    cases call with
    | getConnectionStatus | getClientID | getChannelOfClient =>
      cases reply with
      | none => exact told
      | some value => rfl
    | _ => exact told
  · intro handle w status told
    obtain rfl : status = 1 := told
    decide
  · intro handle w id told
    exact told
  · intro handle id w channelId told
    exact told

def granting : Replies where
  teamspeak
    | .getClientID handle, w =>
      some (if (w.teamspeak handle).ownId = 0 then 1 else (w.teamspeak handle).ownId)
    | .getChannelOfClient handle _, w =>
      some (if (w.teamspeak handle).ownChannel = 0 then 1 else (w.teamspeak handle).ownChannel)
    | .setClientSelfVariableAsString _ _ _, _ => true
    | call, w => obliging [1, 0] .empty call w
  enet := connecting 1
  thread := lone 1

theorem granting_within : granting.Within (.updating 1 successes) := by
  have threads : granting.Within (.updating 1 fun _ _ _ => True) := lone_within rfl
  refine ⟨fun call w => ?_, fun _ _ => trivial, fun _ _ => trivial, threads.2.2.2⟩
  change Succeeds call (granting.teamspeak call w)
  cases call with
  | getClientID handle =>
    change (if (w.teamspeak handle).ownId = 0 then 1 else (w.teamspeak handle).ownId) ≠ 0
    split
    · decide
    · assumption
  | getChannelOfClient handle clientId =>
    change (if (w.teamspeak handle).ownChannel = 0 then 1 else (w.teamspeak handle).ownChannel) ≠ 0
    split
    · decide
    · assumption
  | _ => rfl

def hosting : World :=
  { World.opened with
    teamspeak := fun _ => { Connection.idle with
      members := fun channelId => if channelId = 2 then .singleton 5 else .empty
      selfString := fun _ => firstName } }

theorem hosting_begins : Begins hosting where
  exact handle id := by
    have none : id ∉ hosting.memory.wrapper.mutedClients := SortedSet.not_mem_empty id
    have unmuted : (hosting.teamspeak handle).muted id = false := rfl
    simp [none, unmuted]
  nonzero := SortedSet.not_mem_empty 0
  unsaved := rfl
  unstaged _ := rfl
  named _ := by
    change firstName.text ≠ .empty
    decide

def hosted : World :=
  ranPlugin 1 granting (handleMessage networkHandshakeChannel okPayload) hosting

theorem okPayload_continues (status : UInt32) :
    cause networkHandshakeChannel okPayload ≠ .protocolRejected status := by
  have accepted : cause networkHandshakeChannel okPayload = .handshakeAccepted := by decide
  rw [accepted]
  exact Cause.noConfusion

theorem hosted_session {allowed : Action → Option Home → World → World → Prop}
    (ok : allowed (.message networkHandshakeChannel okPayload okPayload_continues) none hosting
      hosted) : Session successes allowed hosting (some ⟨1, 1⟩) hosted := by
  have run : Exec (steps 1 (.updating 1 successes))
      (handleMessage networkHandshakeChannel okPayload) hosting () hosted :=
    exec_ranPlugin granting_within (by decide)
  have session := Session.act .start
    (.message networkHandshakeChannel okPayload okPayload_continues) 1 _ run ok
  have home : (Action.message networkHandshakeChannel okPayload okPayload_continues).home none
      hosting hosted = some ⟨1, 1⟩ := by decide
  rw [home] at session
  exact session

theorem hosted_careful :
    (Action.message networkHandshakeChannel okPayload okPayload_continues).Careful none hosting
      hosted := by
  constructor
  · intro _ p _ _
    constructor
    · intro h member
      cases member
    · intro bound
      have unbound : ¬ Bound none hosting := by
        simp [Bound, hosting, World.opened, World.ingame, World.playing, World.setClient]
        rfl
      exact absurd bound unbound
  · intro other
    exact absurd other (by decide)

def closedFrom (w : World) : World := ranPlugin 1 granting close w

theorem close_restores_hosted :
    Recovered (nicknames hosting) ⟨1, 1⟩ (closedFrom hosted) ∧ Begins (closedFrom hosted) :=
  close_restores successes successes_grants hosting hosted (closedFrom hosted) hosting_begins
    ⟨1, 1⟩ (hosted_session hosted_careful) (.inl (by decide))
    (.left 1 (exec_ranPlugin granting_within (by decide)))

-- The user goes back himself before the session ends, and the client 5 stays muted.
theorem close_leaves : ¬ ∀ answers : (call : External) → World → call.Reply → Prop,
    Grants answers → ∀ (start w u : World) (home : Home), Begins start →
      Session answers (fun _ _ _ _ => True) start (some home) w → Ending answers w u →
        Recovered (nicknames start) home u := by
  intro claimed
  have visits : Elsewhere hosted (hosted.visiting 1) :=
    ⟨rfl, rfl, fun _ => rfl, fun _ => rfl⟩
  have session : Session successes (fun _ _ _ _ => True) hosting (some ⟨1, 1⟩)
      (hosted.visiting 1) := (hosted_session trivial).elsewhere visits
  have ending : Ending successes (hosted.visiting 1) (closedFrom (hosted.visiting 1)) :=
    .left 1 (exec_ranPlugin granting_within (by decide))
  have recovered := claimed successes successes_grants hosting (hosted.visiting 1)
    (closedFrom (hosted.visiting 1)) ⟨1, 1⟩ hosting_begins session ending
  have unmuted := recovered.unmuted 1 5
  revert unmuted
  decide

end Restoring

end JustAnotherVoiceChat
