import JustAnotherVoiceChat.Scenario
import JustAnotherVoiceChat.Wrapper

set_option autoImplicit false

namespace JustAnotherVoiceChat

open Binary Interaction

theorem accepted_muted (t : TeamSpeak) (handle : UInt64) (ids : List AnyID) (mute ok : Bool)
    (h : UInt64) (id : AnyID) :
    (accepted t handle (·.setMuted ids mute) ok h).muted id =
      if ok = true ∧ h = handle ∧ id ∈ ids then mute else (t h).muted id := by
  unfold accepted
  cases ok with
  | false => simp
  | true =>
    by_cases same : h = handle
    · subst same
      simp [TeamSpeak.on, Connection.setMuted]
    · simp [TeamSpeak.on, same]

-- The clients that are muted are the cached ones, on the connection of the current handle.
def MutedExactly (w : World) : Prop :=
  ∀ handle id, (w.teamspeak handle).muted id = true ↔
    handle = w.memory.wrapper.serverConnectionHandler ∧ id ∈ w.memory.wrapper.mutedClients

inductive MuteCall where
  | muteClient (clientId : AnyID) (mute : Bool)
  | muteClients (clients : SortedSet AnyID) (mute : Bool)
  | unmuteAllClients
  | verifyServer (uniqueIdentifier : StdString)

def MuteCall.run : MuteCall → Plugin Bool
  | .muteClient clientId mute => ts3MuteClient clientId mute
  | .muteClients clients mute => ts3MuteClients clients mute
  | .unmuteAllClients => ts3UnmuteAllClients
  | .verifyServer uniqueIdentifier => ts3VerifyServer uniqueIdentifier

def MuteCall.Nonzero : MuteCall → Prop
  | .muteClient clientId _ => clientId ≠ 0
  | .muteClients clients _ => 0 ∉ clients
  | _ => True

def Entry.unmuteRefused : Entry → Bool
  | ⟨_, .teamspeak (.requestUnmuteClients _ _), ok⟩ => !ok
  | _ => false

-- A cache that is not empty is not cleared by a refused request and not taken to another server.
def MuteCall.Keeps (call : MuteCall) (w : World) (answers : List Entry) : Prop :=
  match call with
  | .unmuteAllClients => w.memory.wrapper.mutedClients.isEmpty = true ∨
      answers.any Entry.unmuteRefused = false
  | .verifyServer uniqueIdentifier => w.memory.wrapper.mutedClients.isEmpty = true ∨
      serverAfter uniqueIdentifier w.memory.wrapper.serverConnectionHandler answers =
        w.memory.wrapper.serverConnectionHandler
  | _ => True

section Step

variable {self : ThreadId} {env : Environment} {w : World}

def MuteOutcome (call : MuteCall) (w u : World) : Prop :=
  ∃ answers, u.trace = answers ++ w.trace ∧ 0 ∉ u.memory.wrapper.mutedClients ∧
    (MutedExactly u ↔ call.Keeps w answers)

theorem mutedExactly_requested {mute ok : Bool} {clients : SortedSet AnyID} {u : World}
    (exact : MutedExactly w) (nonzero : 0 ∉ clients)
    (requested : MuteRequested self mute clients ok w u) : MutedExactly u := by
  intro handle id
  rw [requested.teamspeak, accepted_muted, untilZero_clientIdArray nonzero, requested.handler,
    requested.cache]
  simp only [SortedSet.mem_elems]
  by_cases here : handle = w.memory.wrapper.serverConnectionHandler
  · by_cases named : ok = true ∧ id ∈ clients
    · simp [here, named]
    · have untouched : ¬ (ok = true ∧ handle = w.memory.wrapper.serverConnectionHandler ∧
          id ∈ clients) := fun asked => named ⟨asked.1, asked.2.2⟩
      rw [if_neg untouched, if_neg named]
      exact exact handle id
  · have untouched : ¬ (ok = true ∧ handle = w.memory.wrapper.serverConnectionHandler ∧
        id ∈ clients) := fun asked => here asked.2.1
    rw [if_neg untouched, exact handle id]
    simp [here]

theorem MuteRequested.nonzero {mute ok : Bool} {clients : SortedSet AnyID} {u : World}
    (requested : MuteRequested self mute clients ok w u) (nonzero : 0 ∉ clients)
    (before : 0 ∉ w.memory.wrapper.mutedClients) : 0 ∉ u.memory.wrapper.mutedClients := by
  rw [requested.cache, if_neg (fun asked => nonzero asked.2)]
  exact before

theorem mutedExactly_unmutedAll (exact : MutedExactly w)
    (nonzero : 0 ∉ w.memory.wrapper.mutedClients) :
    MutedExactly (w.unmutedAll self true) := by
  intro handle id
  have before := exact handle id
  simp only [World.unmutedAll, untilZero_clientIdArray nonzero]
  simp only [World.withMuted_teamspeak, World.record_teamspeak, World.setTeamspeak_teamspeak,
    accepted_muted, World.withMuted_wrapper, World.record_memory, World.setTeamspeak_memory,
    SortedSet.not_mem_empty, and_false, iff_false]
  by_cases muted : handle = w.memory.wrapper.serverConnectionHandler ∧
      id ∈ w.memory.wrapper.mutedClients.elems
  · simp [muted]
  · simp only [muted, and_false, if_false, before]
    exact muted

theorem not_mutedExactly_refused (exact : MutedExactly w)
    (cached : ¬ w.memory.wrapper.mutedClients.isEmpty = true) :
    ¬ MutedExactly (w.unmutedAll self false) := by
  intro after
  rw [SortedSet.isEmpty_iff] at cached
  obtain ⟨id, member⟩ := not_forall_not.mp cached
  have still := (exact w.memory.wrapper.serverConnectionHandler id).mpr ⟨rfl, member⟩
  have gone := (after w.memory.wrapper.serverConnectionHandler id).mp
    (by simpa [World.unmutedAll, accepted_muted] using still)
  exact SortedSet.not_mem_empty id gone.2

theorem mutedExactly_withHandler (exact : MutedExactly w) (handle : UInt64)
    (answers : List Entry) : MutedExactly ((w.withHandler handle).logged answers) ↔
      w.memory.wrapper.mutedClients.isEmpty = true ∨
      handle = w.memory.wrapper.serverConnectionHandler := by
  constructor
  · intro after
    by_contra changed
    rw [not_or, SortedSet.isEmpty_iff] at changed
    obtain ⟨cached, other⟩ := changed
    obtain ⟨id, member⟩ := not_forall_not.mp cached
    have still := (exact w.memory.wrapper.serverConnectionHandler id).mpr ⟨rfl, member⟩
    have moved := (after w.memory.wrapper.serverConnectionHandler id).mp still
    exact other moved.1.symm
  · rintro (empty | same) h id
    · have none := (SortedSet.isEmpty_iff.mp empty) id
      have before := exact h id
      simp only [none, and_false] at before
      simpa [none] using before
    · simpa [same] using exact h id

theorem wp_muteCall (call : MuteCall) (nonzero : call.Nonzero) (exact : MutedExactly w)
    (cacheNonzero : 0 ∉ w.memory.wrapper.mutedClients) :
    wp (steps self env) call.run (fun _ u => MuteOutcome call w u) w := by
  have muting (clients : SortedSet AnyID) (mute : Bool) (nonzero : 0 ∉ clients) :
      wp (steps self env) (ts3MuteClients clients mute) (fun _ u => ∃ answers,
        u.trace = answers ++ w.trace ∧ 0 ∉ u.memory.wrapper.mutedClients ∧ MutedExactly u) w := by
    apply wp_muting
    · intro _
      exact ⟨[], rfl, cacheNonzero, exact⟩
    · intro ok u _ _ requested
      exact ⟨[_], requested.trace, requested.nonzero nonzero cacheNonzero,
        mutedExactly_requested exact nonzero requested⟩
  cases call with
  | muteClient clientId mute =>
    have single : (0 : AnyID) ∉ SortedSet.singleton clientId := by
      simpa using Ne.symm nonzero
    refine wp_mono ?_ (muting (.singleton clientId) mute single)
    rintro _ u ⟨answers, trace, zero, exact⟩
    exact ⟨answers, trace, zero, iff_of_true exact trivial⟩
  | muteClients clients mute =>
    refine wp_mono ?_ (muting clients mute nonzero)
    rintro _ u ⟨answers, trace, zero, exact⟩
    exact ⟨answers, trace, zero, iff_of_true exact trivial⟩
  | unmuteAllClients =>
    change wp _ ts3UnmuteAllClients _ w
    rw [wp_ts3UnmuteAllClients]
    split
    · rename_i empty
      exact ⟨[], rfl, cacheNonzero, iff_of_true exact (.inl empty)⟩
    · rename_i cached
      intro ok _
      refine ⟨[_], rfl, by simp [World.unmutedAll], ?_⟩
      cases ok with
      | true => exact iff_of_true (mutedExactly_unmutedAll exact cacheNonzero) (.inr rfl)
      | false =>
        refine iff_of_false (not_mutedExactly_refused exact cached) ?_
        rintro (empty | accepted)
        · exact cached empty
        · cases accepted
  | verifyServer uniqueIdentifier =>
    refine wp_mono ?_ wp_ts3VerifyServer
    rintro _ _ ⟨answers, rfl, -⟩
    exact ⟨answers, rfl, cacheNonzero, mutedExactly_withHandler exact _ answers⟩

end Step

inductive MuteRun (self : ThreadId) (env : Environment) (start : World) : World → Prop where
  | start : MuteRun self env start start
  | call {w w' : World} (run : MuteRun self env start w) (call : MuteCall) (result : Bool)
      (answers : List Entry) (nonzero : call.Nonzero)
      (step : Exec (steps self env) call.run w result w') (trace : w'.trace = answers ++ w.trace)
      (keeps : call.Keeps w answers) : MuteRun self env start w'

structure MuteStart (w : World) : Prop where
  cache : w.memory.wrapper.mutedClients = .empty
  unmuted : ∀ handle id, (w.teamspeak handle).muted id = false

theorem muteRun_exact {self : ThreadId} {env : Environment} {start w : World}
    (fresh : MuteStart start) (run : MuteRun self env start w) :
    MutedExactly w ∧ 0 ∉ w.memory.wrapper.mutedClients := by
  induction run with
  | start =>
    refine ⟨fun handle id => ?_, by simp [fresh.cache]⟩
    simp [fresh.cache, fresh.unmuted]
  | call run call result answers nonzero step trace keeps ih =>
    obtain ⟨answers', trace', zero, exact⟩ := step.wp (wp_muteCall call nonzero ih.1 ih.2)
    obtain rfl : answers' = answers := List.append_cancel_right (trace'.symm.trans trace)
    exact ⟨exact.mpr keeps, zero⟩

/-- The cache names the clients that are muted, and nobody is muted after an unmute of all clients
that returns true. -/
theorem mutedClients_exact (self : ThreadId) (env : Environment) (start w : World)
    (fresh : MuteStart start) (run : MuteRun self env start w) :
    MutedExactly w ∧ ∀ w', Exec (steps self env) ts3UnmuteAllClients w true w' →
      ∀ handle id, (w'.teamspeak handle).muted id = false := by
  obtain ⟨exact, nonzero⟩ := muteRun_exact fresh run
  refine ⟨exact, fun w' step handle id => ?_⟩
  have unmuted : wp (steps self env) ts3UnmuteAllClients (fun result u => result = true →
      MutedExactly u ∧ u.memory.wrapper.mutedClients.isEmpty = true) w := by
    rw [wp_ts3UnmuteAllClients]
    split
    · rename_i empty
      exact fun _ => ⟨exact, empty⟩
    · rintro ok - rfl
      exact ⟨mutedExactly_unmutedAll exact nonzero, rfl⟩
  obtain ⟨after, empty⟩ := step.wp unmuted rfl
  have none := (SortedSet.isEmpty_iff.mp empty) id
  have before := after handle id
  simpa [none] using before

def mutingReplies (accepts : Bool) : Replies where
  teamspeak call w :=
    match call with
    | .requestUnmuteClients _ _ => accepts
    | call => obliging [1] .empty call w
  enet := connecting 1
  thread := lone 0

def runMute (accepts : Bool) (call : MuteCall) (w : World) : World :=
  ((runPlugin 0 (mutingReplies accepts) 40 call.run w).map (·.2)).getD w

def mutedOne : World := runMute true (.muteClient 5 true) .idle

theorem muteRun_runMute {start w : World} {accepts : Bool} {call : MuteCall}
    (run : MuteRun 0 .any start w) (answers : List Entry) (nonzero : call.Nonzero)
    (ran : (runPlugin 0 (mutingReplies accepts) 40 call.run w).isSome = true)
    (trace : (runMute accepts call w).trace = answers ++ w.trace) (keeps : call.Keeps w answers) :
    MuteRun 0 .any start (runMute accepts call w) := by
  obtain ⟨⟨result, w'⟩, computed⟩ := Option.isSome_iff_exists.mp ran
  have same : runMute accepts call w = w' := by simp [runMute, computed]
  rw [same] at trace ⊢
  have step := exec_of_runPlugin (mutingReplies accepts).within_any computed
  exact .call run call result answers nonzero step trace keeps

theorem idle_muteStart : MuteStart .idle := ⟨rfl, fun _ _ => rfl⟩

theorem mutedOne_run : MuteRun 0 .any .idle mutedOne :=
  muteRun_runMute .start mutedOne.trace (show (5 : AnyID) ≠ 0 by decide) (by decide)
    (List.append_nil _).symm trivial

theorem mutedClients_exact_one : MutedExactly mutedOne ∧
    5 ∈ mutedOne.memory.wrapper.mutedClients :=
  ⟨(mutedClients_exact 0 .any .idle mutedOne idle_muteStart mutedOne_run).1, by decide⟩

-- A refused request to unmute empties the cache although client 5 stays muted.
theorem mutedClients_refused : ∃ (start w w' : World) (result : Bool), MuteStart start ∧
    MuteRun 0 .any start w ∧ MutedExactly w ∧
    Exec (steps 0 .any) ts3UnmuteAllClients w result w' ∧ ¬ MutedExactly w' := by
  obtain ⟨⟨result, w'⟩, computed⟩ := Option.isSome_iff_exists.mp (show
    (runPlugin 0 (mutingReplies false) 40 ts3UnmuteAllClients mutedOne).isSome = true by decide)
  have same : runMute false .unmuteAllClients mutedOne = w' := by
    change ((runPlugin 0 (mutingReplies false) 40 ts3UnmuteAllClients
      mutedOne).map (·.2)).getD _ = _
    rw [computed]
    rfl
  refine ⟨.idle, mutedOne, w', result, idle_muteStart, mutedOne_run,
    (muteRun_exact idle_muteStart mutedOne_run).1,
    exec_of_runPlugin (mutingReplies false).within_any computed, ?_⟩
  rw [← same]
  intro exact
  have still := (exact 0 5).mp (by decide)
  revert still
  decide

end JustAnotherVoiceChat
