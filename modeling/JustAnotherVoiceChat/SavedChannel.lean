import JustAnotherVoiceChat.Closing
import JustAnotherVoiceChat.HandshakeReplies
import JustAnotherVoiceChat.Scenario

set_option autoImplicit false

namespace JustAnotherVoiceChat

open Binary Interaction Relation

def Entry.Requests (e : Entry) : Prop := ∃ call, e.call = .teamspeak call ∧ ¬ call.topic.Asks

def Entry.channel : Entry → Option UInt64
  | ⟨_, .teamspeak (.getChannelOfClient _ _), channelId⟩ => some (channelId.getD 0)
  | _ => none

def Entry.welcomes (e : Entry) : Bool :=
  e.handshake.any fun reply => reply.statusCode = statusCodeOk

-- The state that `close()` finds lets it go through with the reset: nothing is saved, or the own
-- client is not, as far as the first question tells, in the saved channel of a known connection.
def Thorough (w u : World) : Prop :=
  w.memory.client.lastChannelId = 0 ∨ w.memory.wrapper.serverConnectionHandler ≠ 0 ∧
    ∀ entries, u.trace = entries ++ w.trace →
      (entries.filterMap Entry.channel).getLast? ≠ some w.memory.client.lastChannelId

section Reset

variable {self : ThreadId} {env : Environment} {w : World}

theorem Only.channel {topics : List Topic} {answers : List Entry}
    (only : Only topics self answers) (other : .channel ∉ topics) :
    answers.filterMap Entry.channel = [] := by
  rw [List.filterMap_eq_nil_iff]
  refine only.elim ?_
  intro call reply about
  cases call with
  | getChannelOfClient => exact absurd about other
  | _ => rfl

theorem wp_channelTold (handle : UInt64) :
    wp (steps self env) (ts3ChannelId handle) (fun channelId u => ∃ answers,
      u = w.logged answers ∧ Only [.ownId, .channel] self answers ∧
        answers.filterMap Entry.channel = [channelId]) w := by
  unfold ts3ChannelId
  rw [wp_bind]
  refine wp_mono ?_ (wp_identify handle)
  rintro clientId _ ⟨answers, rfl, only, -⟩
  have silent : answers.filterMap Entry.channel = [] := only.channel (by simp)
  have only' : Only [.ownId, .channel] self answers := only.mono (by simp)
  rw [wp_bind, wp_getChannelOfClient]
  rintro (_ | channelId) - -
  · refine ⟨_ :: answers, rfl, .cons (by simp [TeamSpeakCall.topic]) only', ?_⟩
    simp [Entry.channel, silent]
  · refine ⟨_ :: answers, rfl, .cons (by simp [TeamSpeakCall.topic]) only', ?_⟩
    simp [Entry.channel, silent]

structure ResetEnds (w u : World) : Prop where
  unsaved : w.memory.client.lastChannelId = 0 → u = w
  thorough : Thorough w u → u.memory.client.lastChannelId = 0

theorem ResetEnds.of_saved {u : World} (saved : w.memory.client.lastChannelId ≠ 0)
    (reset : u.memory.client.lastChannelId = 0) : ResetEnds w u :=
  ⟨fun unsaved => absurd unsaved saved, fun _ => reset⟩

theorem wp_resetEnds : wp (steps self env) resetTeamspeak (fun _ u => ResetEnds w u) w := by
  have restoring : (do
      ts3ResetClients3DPositions
      discard ts3UnmuteAllClients
      discard ts3ResetNickname).Calls Op.OfWrapper :=
    ts3ResetClients3DPositions_calls.bind fun _ =>
      (discard_calls ts3UnmuteAllClients_calls).bind fun _ => discard_calls ts3ResetNickname_calls
  unfold resetTeamspeak ts3ServerConnectionHandle
  simp only [wp_bind, wp_client, wp_wrapper, wp_ite, Program.pure_eq, wp_ret]
  split
  · rename_i unsaved
    refine ⟨fun _ => rfl, fun _ => unsaved⟩
  rename_i saved
  split
  · rename_i unknown
    refine ⟨fun _ => rfl, ?_⟩
    rintro (unsaved | ⟨known, -⟩)
    · exact unsaved
    · exact absurd unknown known
  refine wp_mono ?_ (wp_channelTold w.memory.wrapper.serverConnectionHandler)
  rintro channelId _ ⟨answers, rfl, -, told⟩
  split
  · rename_i there
    refine ⟨fun unsaved => absurd unsaved saved, ?_⟩
    rintro (unsaved | ⟨-, elsewhere⟩)
    · exact unsaved
    · refine absurd ?_ (elsewhere answers rfl)
      rw [told]
      exact congrArg some there
  refine wp_mono ?_ (wp_move _ _)
  rintro moved v ⟨_, -⟩
  split
  · rw [wp_setClient]
    exact .of_saved saved rfl
  rw [wp_setClient]
  simp only [← wp_bind]
  refine wp_mono ?_ (wp_keeping restoring)
  intro _ u beside
  refine .of_saved saved ?_
  rw [show u.memory.client = _ from congrArg Prod.fst beside.memory]
  rfl

end Reset

-- The runs of the plugin, cut where a handshake response is handled and where `close()` comes to
-- TeamSpeak; `handled` tells whether a response was handled to its end since the last close. What
-- happens otherwise, in the plugin or in TeamSpeak, leaves the saved channel alone.
inductive History (allowed : World → World → Prop) (start : World) : Bool → World → Prop where
  | start : History allowed start false start
  | handshake {handled : Bool} {w u : World} (before : History allowed start handled w)
      (caller : ThreadId) (env : Environment) (packet : Bytes) (answers : List Entry)
      (step : Exec (steps caller env) (handleHandshakeResponse packet) w () u)
      (trace : u.trace = answers ++ w.trace) :
      History allowed start (handled || answers.any Entry.welcomes) u
  | close {handled : Bool} {w u : World} (before : History allowed start handled w)
      (caller : ThreadId) (env : Environment)
      (step : Exec (steps caller env) resetTeamspeak w () u) (ok : allowed w u) :
      History allowed start false u
  | other {handled : Bool} {w u : World} (before : History allowed start handled w)
      (same : u.memory.client.lastChannelId = w.memory.client.lastChannelId) :
      History allowed start handled u

section Histories

variable {caller : ThreadId} {env : Environment} {start w u : World}

theorem any_welcomes (answers : List Entry) : answers.any Entry.welcomes =
    (answers.filterMap Entry.handshake).any fun reply => reply.statusCode = statusCodeOk := by
  induction answers with
  | nil => rfl
  | cons e rest ih =>
    cases sent : e.handshake with
    | none => simp [sent, ih, Entry.welcomes]
    | some reply => simp [sent, ih, Entry.welcomes]

theorem Declined.unwelcome {p : HandshakeResponsePacket} {found : Bool} {answers : List Entry}
    {reply : HandshakePacket} (declined : Declined p found w u answers reply) :
    answers.any Entry.welcomes = false := by
  rw [any_welcomes, declined.replied]
  simp [declined.status]

theorem Welcomed.welcome {p : HandshakeResponsePacket} {answers : List Entry}
    {reply : HandshakePacket} (welcomed : Welcomed p w u answers reply) :
    answers.any Entry.welcomes = true := by
  rw [any_welcomes, welcomed.replied]
  simp [welcomed.status]

theorem HandshakeRun.saves {p : HandshakeResponsePacket} {answers : List Entry}
    (run : HandshakeRun caller env p w u) (trace : u.trace = answers ++ w.trace) :
    answers.any Entry.welcomes = true ∨
      u.memory.client.lastChannelId = w.memory.client.lastChannelId := by
  obtain ⟨reply, ⟨found, declined⟩ | welcomed⟩ := run.outcome_of trace
  · rw [declined.memory]
    exact .inr rfl
  · exact .inl welcomed.welcome

theorem handshake_saves {packet : Bytes} {answers : List Entry}
    (run : Exec (steps caller env) (handleHandshakeResponse packet) w () u)
    (trace : u.trace = answers ++ w.trace) : answers.any Entry.welcomes = true ∨
      u.memory.client.lastChannelId = w.memory.client.lastChannelId := by
  by_cases handled : ∃ p, receive HandshakeResponsePacket.serialize packet = some p ∧
      p.statusCode = statusCodeOk
  · obtain ⟨p, received, accepted⟩ := handled
    exact (run.wp (wp_handshake received accepted)).saves trace
  · have ignored : ∀ p, receive HandshakeResponsePacket.serialize packet = some p →
        p.statusCode ≠ statusCodeOk := fun p received accepted => handled ⟨p, received, accepted⟩
    obtain rfl := run.wp (wp_handshake_ignored ignored)
    exact .inr rfl

theorem History.saved {handled : Bool} (fresh : start.memory.client.lastChannelId = 0)
    (history : History Thorough start handled w) :
    w.memory.client.lastChannelId ≠ 0 → handled = true := by
  induction history with
  | start => exact fun saved => absurd fresh saved
  | handshake before caller env packet answers step trace ih =>
    intro saved
    rcases handshake_saves step trace with welcomed | same
    · simp [welcomed]
    · simp [ih (same ▸ saved)]
  | close before caller env step ok ih =>
    exact fun saved => absurd ((step.wp wp_resetEnds).thorough ok) saved
  | other before same ih =>
    intro saved
    exact ih (same ▸ saved)

/-- When every close finds nothing saved, or the own client outside the saved channel, a close makes
requests only after a handshake response that was handled to its end since the last one. -/
theorem close_after_handshake (start w u : World) (handled : Bool)
    (fresh : start.memory.client.lastChannelId = 0) (history : History Thorough start handled w)
    (caller : ThreadId) (env : Environment)
    (step : Exec (steps caller env) resetTeamspeak w () u) (entries : List Entry)
    (trace : u.trace = entries ++ w.trace) (requested : ∃ e ∈ entries, e.Requests) :
    handled = true := by
  refine history.saved fresh fun unsaved => ?_
  obtain rfl := (step.wp wp_resetEnds).unsaved unsaved
  obtain rfl : entries = [] := by simpa using trace
  simp at requested

end Histories

def World.opened : World :=
  World.ingame.setClient fun c => { c with teamspeakId := 0, lastChannelId := 0 }

def World.visiting (w : World) (channelId : UInt64) : World :=
  w.setTeamspeak fun handle => (w.teamspeak handle).arrive channelId

def joined : World := ranPlugin 1 accepting (handleHandshakeResponse okPayload) .opened

def resetFrom (w : World) : World := ranPlugin 1 accepting resetTeamspeak w

theorem exec_joined : Exec (steps 1 .any) (handleHandshakeResponse okPayload) .opened () joined :=
  exec_ranPlugin (Replies.within_any _) (by decide)

theorem history_joined {allowed : World → World → Prop} :
    History allowed .opened (false || joined.trace.any Entry.welcomes) joined :=
  History.start.handshake 1 .any okPayload joined.trace exec_joined (List.append_nil _).symm

theorem trace_newSince {w u : World} (run : Exec (steps 1 .any) resetTeamspeak w () u) :
    u.trace = newSince w u ++ w.trace := by
  obtain ⟨entries, trace, -⟩ := (run.wp wp_resetTeamspeak).trace
  exact newSince_grown ⟨entries, trace⟩

def Entry.moves : Entry → Bool
  | ⟨_, .teamspeak (.requestClientMove _ _ _ _), _⟩ => true
  | _ => false

theorem requests_of_moves {entries : List Entry} (moves : entries.any Entry.moves = true) :
    ∃ e ∈ entries, e.Requests := by
  obtain ⟨e, member, moves⟩ := List.any_eq_true.mp moves
  refine ⟨e, member, ?_⟩
  obtain ⟨thread, call, reply⟩ := e
  cases call with
  | enet call | object call => cases moves
  | teamspeak call =>
    refine ⟨call, rfl, ?_⟩
    cases call with
    | requestClientMove => exact id
    | _ => cases moves

theorem exec_resetFrom {w : World}
    (ran : (runPlugin 1 accepting 60 resetTeamspeak w).map (·.1) = some ()) :
    Exec (steps 1 .any) resetTeamspeak w () (resetFrom w) :=
  exec_ranPlugin (Replies.within_any _) ran

theorem close_after_handshake_first : (false || joined.trace.any Entry.welcomes) = true :=
  close_after_handshake .opened joined (resetFrom joined) _ rfl history_joined 1 .any
    (exec_resetFrom (by decide)) (newSince joined (resetFrom joined))
    (trace_newSince (exec_resetFrom (by decide))) (requests_of_moves (by decide))

def wentBack : World := resetFrom (joined.visiting 1)

def elsewhere : World := wentBack.visiting 5

-- A close that finds the own client in the saved channel leaves that channel to the next one.
theorem close_without_handshake : ¬ ∀ (start w u : World) (handled : Bool),
    start.memory.client.lastChannelId = 0 → History (fun _ _ => True) start handled w →
      ∀ (caller : ThreadId) (env : Environment), Exec (steps caller env) resetTeamspeak w () u →
        ∀ entries : List Entry, u.trace = entries ++ w.trace → (∃ e ∈ entries, e.Requests) →
          handled = true := by
  intro claimed
  have ended : Exec (steps 1 .any) resetTeamspeak (joined.visiting 1) () wentBack :=
    exec_resetFrom (by decide)
  have visited : History (fun _ _ => True) .opened _ (joined.visiting 1) := history_joined.other rfl
  have back : History (fun _ _ => True) .opened false wentBack :=
    visited.close 1 .any ended trivial
  have history : History (fun _ _ => True) .opened false elsewhere := back.other rfl
  have ended' : Exec (steps 1 .any) resetTeamspeak elsewhere () (resetFrom elsewhere) :=
    exec_resetFrom (by decide)
  have handled := claimed .opened elsewhere (resetFrom elsewhere) false rfl history 1 .any ended'
    (newSince elsewhere (resetFrom elsewhere)) (trace_newSince ended')
    (requests_of_moves (by decide))
  cases handled

end JustAnotherVoiceChat
