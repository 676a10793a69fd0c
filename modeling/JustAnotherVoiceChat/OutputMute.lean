import JustAnotherVoiceChat.HandshakeReplies

set_option autoImplicit false

namespace JustAnotherVoiceChat

open Binary Interaction

def SameInts (w u : World) : Prop :=
  ∀ handle, (u.teamspeak handle).selfInt = (w.teamspeak handle).selfInt

theorem TeamSpeakCall.Effect.selfInt {call : TeamSpeakCall} {f : Connection → Connection}
    (effect : call.Effect f) (other : call.topic ≠ .writeInt) (c : Connection) :
    (f c).selfInt = c.selfInt := by
  cases call with
  | requestClientMove =>
    rcases effect with rfl | rfl
    · rfl
    · rfl
  | requestMuteClients | requestUnmuteClients | setClientSelfVariableAsString
  | channelset3DAttributes =>
    rw [show f = _ from effect]
    rfl
  | setClientSelfVariableAsInt | flushClientSelfUpdates => exact absurd rfl other
  | _ => cases effect

section Parts

variable {self : ThreadId} {env : Environment} {w u : World}

theorem wp_sameInts {α β : Type} {part : Memory → β} {topics : List Topic} {p : Plugin α}
    (calls : p.Calls (Op.On part topics)) (other : .writeInt ∉ topics) :
    wp (steps self env) p (fun _ u => SameInts w u) w := by
  apply wp_samePart Connection.selfInt calls
  intro call about f effect c
  exact effect.selfInt (fun same => other (same ▸ about)) c

def Entry.outputFailed : Entry → Bool
  | ⟨_, .teamspeak (.getClientSelfVariableAsInt _ .outputHardware), value⟩ => value.isNone
  | ⟨_, .teamspeak (.getClientSelfVariableAsInt _ .outputMuted), value⟩ => value.isNone
  | ⟨_, .teamspeak (.setClientSelfVariableAsInt _ _ _), ok⟩ => !ok
  | ⟨_, .teamspeak (.flushClientSelfUpdates _), ok⟩ => !ok
  | _ => false

def Connection.deaf (c : Connection) : Bool :=
  c.selfInt .outputHardware = 0 || c.selfInt .outputMuted = 1

theorem wp_outputMuted (handle : UInt64) : wp (steps self env) (ts3IsOutputMuted handle)
    (fun muted u => ∃ answers, u = w.logged answers ∧
      (answers.any Entry.outputFailed = false → muted = (w.teamspeak handle).deaf)) w := by
  unfold ts3IsOutputMuted
  rw [wp_bind, wp_getClientSelfVariableAsInt]
  rintro (_ | hardware) - told
  · exact ⟨[_], rfl, by simp [Entry.outputFailed]⟩
  have known := told hardware rfl
  dsimp only
  rw [wp_ite]
  split
  · rename_i disabled
    exact ⟨[_], rfl, fun _ => by simp [Connection.deaf, ← known, disabled]⟩
  rename_i enabled
  rw [wp_bind, wp_getClientSelfVariableAsInt]
  rintro (_ | muted) - told
  · exact ⟨[_, _], rfl, by simp [Entry.outputFailed]⟩
  have known' := told muted rfl
  refine ⟨[_, _], rfl, fun _ => ?_⟩
  simp only [World.record_teamspeak] at known'
  simp [Connection.deaf, ← known, ← known', enabled]

structure OutputSet (handle : UInt64) (muted : Bool) (w u : World) (answers : List Entry) :
    Prop where
  memory : u.memory = w.memory
  trace : u.trace = answers ++ w.trace
  set : answers.any Entry.outputFailed = false →
    (u.teamspeak handle).selfInt .outputMuted = (if muted then 1 else 0) ∧
      ∀ other, other ≠ handle → u.teamspeak other = w.teamspeak other

theorem wp_setOutput {handle : UInt64} (muted : Bool)
    (current : w.memory.wrapper.serverConnectionHandler = handle) :
    wp (steps self env) (ts3SetOutputMuted handle muted)
      (fun _ u => ∃ answers, OutputSet handle muted w u answers) w := by
  unfold ts3SetOutputMuted
  rw [wp_bind, wp_setClientSelfVariableAsInt]
  intro ok _
  cases ok with
  | false => exact ⟨[_], rfl, rfl, by simp [Entry.outputFailed]⟩
  | true =>
    simp only [Bool.not_true, Bool.false_eq_true, if_false, wp_bind, wp_wrapper,
      wp_flushClientSelfUpdates]
    intro ok' _
    cases ok' with
    | false => exact ⟨[_, _], rfl, rfl, by simp [Entry.outputFailed]⟩
    | true =>
      refine ⟨[_, _], rfl, rfl, fun _ => ⟨?_, fun other differs => ?_⟩⟩
      · simp [current, accepted, TeamSpeak.on, Connection.stageInt, Connection.flush]
      · simp [current, accepted, TeamSpeak.on, differs]

def SameOutputs (w u : World) (except : UInt64 → Prop) : Prop := ∀ handle, ¬ except handle →
  (u.teamspeak handle).selfInt .outputMuted = (w.teamspeak handle).selfInt .outputMuted

theorem SameOutputs.trans {v : World} {except : UInt64 → Prop} (first : SameOutputs w v except)
    (second : SameOutputs v u except) : SameOutputs w u except :=
  fun handle other => (second handle other).trans (first handle other)

theorem SameInts.outputs {except : UInt64 → Prop} (same : SameInts w u) :
    SameOutputs w u except := fun handle _ => congrFun (same handle) .outputMuted

theorem SameOutputs.of_eq {except : UInt64 → Prop} (same : u.teamspeak = w.teamspeak) :
    SameOutputs w u except := fun handle _ => by rw [same]

theorem OutputSet.outputs {handle : UInt64} {muted : Bool} {answers : List Entry}
    (set : OutputSet handle muted w u answers) (served : answers.any Entry.outputFailed = false) :
    SameOutputs w u (· = handle) := fun other differs => by rw [(set.set served).2 other differs]

theorem Prepared.output {handle lastChannelId : UInt64} {muted : Bool}
    (current : w.memory.wrapper.serverConnectionHandler = handle)
    (prepared : Prepared self env handle lastChannelId muted w u) :
    ∃ answers, u.trace = answers ++ w.trace ∧ (answers.any Entry.outputFailed = false →
      muted = (w.teamspeak handle).deaf ∧ SameOutputs w u (muted = false ∧ · = handle) ∧
        (muted = false → (u.teamspeak handle).selfInt .outputMuted = 1)) := by
  obtain ⟨channel, output, silenced⟩ := prepared
  obtain ⟨first, rfl, only⟩ := channel.wp
    (wp_asking (ts3ChannelId_on handle) (by simp [Topic.Asks]))
  obtain ⟨second, rfl, known⟩ := output.wp (wp_outputMuted handle)
  cases muted with
  | true =>
    obtain rfl := silenced
    refine ⟨second ++ first, by simp, fun served => ?_⟩
    rw [List.any_append, Bool.or_eq_false_iff] at served
    exact ⟨known served.1, fun _ _ => rfl, by simp⟩
  | false =>
    obtain ⟨ok, silenced⟩ := silenced
    obtain ⟨third, set⟩ := silenced.wp (wp_setOutput true current)
    refine ⟨third ++ (second ++ first), by simp [set.trace], fun served => ?_⟩
    simp only [List.any_append, Bool.or_eq_false_iff] at served
    refine ⟨known served.2.1, fun other differs => ?_, fun _ => (set.set served.1).1⟩
    exact set.outputs served.1 other fun same => differs ⟨rfl, same⟩

theorem Entered.output {handle lastChannelId channelId : UInt64} {tempMute : Bool}
    (current : w.memory.wrapper.serverConnectionHandler = handle)
    (entered : Entered self env handle lastChannelId channelId tempMute w u) :
    ∃ answers, u.trace = answers ++ w.trace ∧ (answers.any Entry.outputFailed = false →
      SameOutputs w u (tempMute = true ∧ · = handle) ∧
        (tempMute = true → (u.teamspeak handle).selfInt .outputMuted = 0)) := by
  obtain ⟨listing, muting, unsilenced, own, announced⟩ := entered
  rename_i b c d clients teamspeakId
  obtain ⟨listed, rfl, only⟩ :=
    listing.wp (wp_asking (ts3ClientsInChannel_on channelId) (by simp [Topic.Asks]))
  have mutes : (forM clients.elems fun id => discard (ts3MuteClient id true)).Calls
      (Op.On apartFromMuted [.mute]) :=
    Program.Calls.forM fun _ _ => discard_calls (ts3MuteClients_on _ true)
  have beside := muting.wp (wp_keeping mutes)
  have same := muting.wp (wp_sameInts mutes (by simp))
  obtain ⟨muted, trace, -⟩ := beside.trace
  have handler := congrArg (fun m => m.wrapper.serverConnectionHandler) beside.memory
  obtain ⟨owned, rfl, -, -⟩ := own.wp (wp_identify handle)
  obtain ⟨teamspeak, _, named, identity, -, rfl, after⟩ := announced.outcome
  obtain ⟨-, -, last, trace', -⟩ := after
  have grown : ∃ later, u.trace = later ++ c.trace := by
    let entered := (c.logged owned).setClient fun m =>
      { m with teamspeakId := teamspeakId, lastChannelId := lastChannelId }
    refine ⟨last ++ (entered.handshakeSent self statusCodeOk identity :: (named ++ owned)), ?_⟩
    rw [trace']
    simp [entered]
  obtain ⟨later, whole⟩ := grown
  have before : SameOutputs w b (tempMute = true ∧ · = handle) := same.outputs
  have after : SameOutputs c u (tempMute = true ∧ · = handle) := .of_eq teamspeak
  cases tempMute with
  | false =>
    obtain rfl : c = b := unsilenced
    refine ⟨later ++ (muted ++ listed), by simp [whole, trace], fun _ => ?_⟩
    exact ⟨before.trans after, by simp⟩
  | true =>
    obtain ⟨ok, unsilenced⟩ := unsilenced
    obtain ⟨third, set⟩ := unsilenced.wp (wp_setOutput false (handler.trans current))
    refine ⟨later ++ (third ++ (muted ++ listed)), by simp [whole, set.trace, trace],
      fun served => ?_⟩
    simp only [List.any_append, Bool.or_eq_false_iff] at served
    have between : SameOutputs b c (true = true ∧ · = handle) := fun other differs =>
      set.outputs served.2.1 other fun same => differs ⟨rfl, same⟩
    refine ⟨(before.trans between).trans after, fun _ => ?_⟩
    rw [teamspeak]
    exact (set.set served.2.1).1

end Parts

def LeftDeaf (packet : Bytes) (w : World) (answers : List Entry) : Prop :=
  ∃ p found, receive HandshakeResponsePacket.serialize packet = some p ∧
    p.statusCode = statusCodeOk ∧
    answers.findSome? (Entry.named p.teamspeakServerUniqueIdentifier) = some found ∧
    (w.teamspeak found).deaf = false ∧ answers.any Entry.moved = false

-- `MUTEOUTPUT_NONE` and `MUTEOUTPUT_MUTED` are the only values.
def Connection.Enumerated (c : Connection) : Prop :=
  c.selfInt .outputMuted = 0 ∨ c.selfInt .outputMuted = 1

section Handler

variable {caller : ThreadId} {env : Environment} {w v x y u : World}

def OutputRestored (w u : World) : Prop := ∀ handle,
  (u.teamspeak handle).selfInt .outputMuted = (w.teamspeak handle).selfInt .outputMuted

theorem SameOutputs.restored {except : UInt64 → Prop} (same : SameOutputs w u except)
    (none : ∀ handle, ¬ except handle) : OutputRestored w u :=
  fun handle => same handle (none handle)

theorem Connection.deaf_of_muted {c : Connection} (muted : c.selfInt .outputMuted = 1) :
    c.deaf = true := by
  simp [Connection.deaf, muted]

theorem Connection.Enumerated.unmuted {c : Connection} (enumerated : c.Enumerated)
    (hears : c.deaf = false) : c.selfInt .outputMuted = 0 := by
  rcases enumerated with zero | one
  · exact zero
  · rw [Connection.deaf_of_muted one] at hears
    cases hears

-- A refused move leaves the output as it is, or muted when the own client was made deaf for it.
theorem output_refused {p : HandshakeResponsePacket} {answers : List Entry} {muted : Bool}
    {lastChannelId : UInt64} (lookup : Exec (steps caller env)
      (ts3VerifyServer p.teamspeakServerUniqueIdentifier) w true v)
    (prepared : Prepared caller env v.memory.wrapper.serverConnectionHandler lastChannelId muted
      v x)
    (move : Exec (steps caller env) (ts3MoveToChannel p.channelId p.channelPassword) x false y)
    (reply : Exec (steps caller env) (sendHandshake statusCodeNotMovedToChannel) y () u)
    (trace : u.trace = answers ++ w.trace) (served : answers.any Entry.outputFailed = false) :
    muted = (w.teamspeak v.memory.wrapper.serverConnectionHandler).deaf ∧
      (muted = true → OutputRestored w u) ∧ (muted = false →
        (u.teamspeak v.memory.wrapper.serverConnectionHandler).selfInt .outputMuted = 1) := by
  obtain ⟨first, looked⟩ := lookup.wp (wp_lookup _)
  have before : v.teamspeak = w.teamspeak := by rw [looked.after]; rfl
  obtain ⟨second, trace₂, output⟩ := prepared.output rfl
  obtain ⟨third, moved⟩ := move.wp (wp_move _ _)
  obtain ⟨told, identity, rfl, -⟩ := reply.wp (wp_sendHandshake _)
  let sent := y.handshakeSent caller statusCodeNotMovedToChannel identity
  have whole : answers = (sent :: told) ++ (third ++ (second ++ first)) := by
    refine List.append_cancel_right (trace.symm.trans ?_)
    rw [World.logged_trace, moved.trace, trace₂, looked.after]
    simp [sent]
  have served' : second.any Entry.outputFailed = false := by
    simp only [whole, List.any_append, Bool.or_eq_false_iff] at served
    exact served.2.2.1
  obtain ⟨known, outputs, silenced⟩ := output served'
  have after : (y.logged (sent :: told)).teamspeak = x.teamspeak := moved.refused rfl
  rw [before] at known
  refine ⟨known, fun deaf handle => ?_, fun hears => ?_⟩
  · have restored : OutputRestored v (y.logged (sent :: told)) :=
      (outputs.trans (.of_eq after)).restored (by simp [deaf])
    rw [restored handle, before]
  · rw [after]
    exact silenced hears

theorem restored_entered {p : HandshakeResponsePacket} {answers : List Entry} {muted : Bool}
    {lastChannelId : UInt64} (enumerated : ∀ handle, (w.teamspeak handle).Enumerated)
    (lookup : Exec (steps caller env)
      (ts3VerifyServer p.teamspeakServerUniqueIdentifier) w true v)
    (prepared : Prepared caller env v.memory.wrapper.serverConnectionHandler lastChannelId muted
      v x)
    (move : Exec (steps caller env) (ts3MoveToChannel p.channelId p.channelPassword) x true y)
    (entered : Entered caller env v.memory.wrapper.serverConnectionHandler lastChannelId
      p.channelId (!muted) y u)
    (trace : u.trace = answers ++ w.trace) (served : answers.any Entry.outputFailed = false) :
    OutputRestored w u := by
  obtain ⟨first, looked⟩ := lookup.wp (wp_lookup _)
  have before : v.teamspeak = w.teamspeak := by rw [looked.after]; rfl
  have start : v.trace = first ++ w.trace := by rw [looked.after]; rfl
  obtain ⟨second, trace₂, output⟩ := prepared.output rfl
  obtain ⟨third, moved⟩ := move.wp (wp_move _ _)
  have current : y.memory.wrapper.serverConnectionHandler =
      v.memory.wrapper.serverConnectionHandler := by rw [moved.memory, prepared.outcome.1]
  obtain ⟨last, trace₄, output'⟩ := entered.output current
  have moves : (ts3MoveToChannel p.channelId p.channelPassword).Calls
      (Op.On id [.ownId, .move]) := ts3MoveToChannel_on _ _
  have between : SameInts x y := move.wp (wp_sameInts moves (by simp))
  have whole : answers = last ++ (third ++ (second ++ first)) := by
    refine List.append_cancel_right (trace.symm.trans ?_)
    rw [trace₄, moved.trace, trace₂, start]
    simp
  have served' : last.any Entry.outputFailed = false ∧ second.any Entry.outputFailed = false := by
    simp only [whole, List.any_append, Bool.or_eq_false_iff] at served
    exact ⟨served.1, served.2.2.1⟩
  obtain ⟨known, outputs, -⟩ := output served'.2
  obtain ⟨outputs', unsilenced⟩ := output' served'.1
  rw [before] at known
  have all : SameOutputs v u (muted = false ∧ · = v.memory.wrapper.serverConnectionHandler) :=
    (outputs.trans between.outputs).trans fun other differs =>
      outputs' other (by simpa using differs)
  intro handle
  by_cases target : muted = false ∧ handle = v.memory.wrapper.serverConnectionHandler
  · obtain ⟨rfl, rfl⟩ := target
    rw [unsilenced rfl]
    exact ((enumerated _).unmuted known.symm).symm
  · rw [all handle target, before]

theorem HandshakeRun.output {p : HandshakeResponsePacket} {packet : Bytes} {answers : List Entry}
    (received : receive HandshakeResponsePacket.serialize packet = some p)
    (accepted : p.statusCode = statusCodeOk)
    (enumerated : ∀ handle, (w.teamspeak handle).Enumerated)
    (run : HandshakeRun caller env p w u) (trace : u.trace = answers ++ w.trace)
    (served : answers.any Entry.outputFailed = false) :
    OutputRestored w u ↔ ¬ LeftDeaf packet w answers := by
  have same {p' : HandshakeResponsePacket}
      (received' : receive HandshakeResponsePacket.serialize packet = some p') : p' = p :=
    Option.some.inj (received'.symm.trans received)
  cases run with
  | @unknown v _ lookup reply =>
    obtain ⟨first, looked⟩ := lookup.wp (wp_lookup _)
    obtain ⟨_, _, trace', declined⟩ := declined_unknown lookup reply
    obtain rfl := List.append_cancel_right (trace.symm.trans trace')
    obtain ⟨told, identity, rfl, -⟩ := reply.wp (wp_sendHandshake _)
    have restored : OutputRestored w
        (v.logged (v.handshakeSent caller statusCodeNotConnectedToServer identity :: told)) := by
      intro handle
      rw [World.logged_teamspeak, looked.after]
      rfl
    refine iff_of_true restored ?_
    rintro ⟨p', found, received', -, named', -⟩
    obtain rfl := same received'
    simp [declined.named] at named'
  | @refused v x y _ _ muted lookup prepared move reply =>
    obtain ⟨known, restored, silenced⟩ :=
      output_refused lookup prepared move reply trace served
    obtain ⟨_, _, trace', declined⟩ := declined_refused lookup prepared move reply
    obtain rfl := List.append_cancel_right (trace.symm.trans trace')
    have found : answers.findSome? (Entry.named p.teamspeakServerUniqueIdentifier) =
        some v.memory.wrapper.serverConnectionHandler := by
      obtain ⟨_, moved⟩ := move.wp (wp_move _ _)
      obtain ⟨_, _, rfl, -⟩ := reply.wp (wp_sendHandshake _)
      rw [declined.named, World.logged_memory, moved.memory, prepared.outcome.1]
      rfl
    cases muted with
    | true =>
      refine iff_of_true (restored rfl) ?_
      rintro ⟨p', found', received', -, named', hears, -⟩
      obtain rfl := same received'
      obtain rfl := Option.some.inj (found.symm.trans named')
      simp [← known] at hears
    | false =>
      have left : LeftDeaf packet w answers :=
        ⟨p, _, received, accepted, found, known.symm, declined.unmoved⟩
      refine iff_of_false (fun restored => ?_) (not_not_intro left)
      have value : (w.teamspeak v.memory.wrapper.serverConnectionHandler).selfInt .outputMuted =
          1 := by
        rw [← restored]
        exact silenced rfl
      simp [Connection.deaf_of_muted value] at known
  | entered lookup prepared move entered =>
    obtain ⟨_, _, trace', welcomed⟩ := welcomed_entered lookup prepared move entered
    obtain rfl := List.append_cancel_right (trace.symm.trans trace')
    refine iff_of_true (restored_entered enumerated lookup prepared move entered trace served) ?_
    rintro ⟨_, _, -, -, -, -, stayed⟩
    simp [welcomed.moved] at stayed

/-- When all questions and requests about the output succeed, the handler restores its mute state
unless the move was refused after it had made the own client deaf. -/
theorem handshakeResponse_restoresOutput (caller : ThreadId) (env : Environment) (packet : Bytes)
    (w u : World) (answers : List Entry) (enumerated : ∀ handle, (w.teamspeak handle).Enumerated)
    (run : Exec (steps caller env) (handleHandshakeResponse packet) w () u)
    (trace : u.trace = answers ++ w.trace) (served : answers.any Entry.outputFailed = false) :
    OutputRestored w u ↔ ¬ LeftDeaf packet w answers := by
  by_cases handled : ∃ p, receive HandshakeResponsePacket.serialize packet = some p ∧
      p.statusCode = statusCodeOk
  · obtain ⟨p, received, accepted⟩ := handled
    exact (run.wp (wp_handshake received accepted)).output received accepted enumerated trace served
  · have ignored : ∀ p, receive HandshakeResponsePacket.serialize packet = some p →
        p.statusCode ≠ statusCodeOk := fun p received accepted => handled ⟨p, received, accepted⟩
    obtain rfl := run.wp (wp_handshake_ignored ignored)
    refine iff_of_true (fun _ => rfl) ?_
    rintro ⟨p, _, received, accepted, -⟩
    exact ignored p received accepted

end Handler

def World.hearing : World :=
  { World.ingame with
    teamspeak := fun _ => { Connection.idle with
      selfInt := fun flag => if flag = .outputHardware then 1 else 0 } }

def heard (replies : Replies) : World :=
  ranPlugin 1 replies (handleHandshakeResponse okPayload) .hearing

theorem exec_heard {replies : Replies} (ran : (runPlugin 1 replies 60
    (handleHandshakeResponse okPayload) .hearing).map (·.1) = some ()) :
    Exec (steps 1 .any) (handleHandshakeResponse okPayload) .hearing () (heard replies) :=
  exec_ranPlugin (Replies.within_any _) ran

theorem hearing_enumerated (handle : UInt64) : (World.hearing.teamspeak handle).Enumerated :=
  .inl rfl

theorem heard_accepted : ¬ LeftDeaf okPayload .hearing (heard accepting).trace := by
  rintro ⟨_, _, -, -, -, -, stayed⟩
  revert stayed
  decide

theorem handshakeResponse_restoresOutput_accepted : OutputRestored .hearing (heard accepting) :=
  (handshakeResponse_restoresOutput 1 .any okPayload .hearing _ (heard accepting).trace
    hearing_enumerated (exec_heard (by decide)) (List.append_nil _).symm (by decide)).mpr
    heard_accepted

-- A refused move leaves the own client without sound.
theorem handshakeResponse_leftDeaf : ¬ ∀ (caller : ThreadId) (env : Environment) (packet : Bytes)
    (w u : World) (answers : List Entry), (∀ handle, (w.teamspeak handle).Enumerated) →
      Exec (steps caller env) (handleHandshakeResponse packet) w () u →
        u.trace = answers ++ w.trace → answers.any Entry.outputFailed = false →
          OutputRestored w u := by
  intro claimed
  have restored := claimed 1 .any okPayload .hearing (heard refusing) (heard refusing).trace
    hearing_enumerated (exec_heard (by decide)) (List.append_nil _).symm (by decide) 1
  revert restored
  decide

end JustAnotherVoiceChat
