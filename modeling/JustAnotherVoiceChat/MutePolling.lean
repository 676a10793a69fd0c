import JustAnotherVoiceChat.MuteState

set_option autoImplicit false

namespace JustAnotherVoiceChat

open Binary Interaction Relation Replay

namespace MuteState

section Polling

variable {connection : UInt64} {self : ThreadId} {s t : Session}

theorem Still.polled (still : Still connection s t) :
    t.polled connection = s.polled connection := polled_same still.selfInts

theorem Still.ok (still : Still connection s t) (ok : Ok connection s) : Ok connection t := by
  apply ok.kept (congrArg footing still.memory) (congrArg Memory.wrapper still.memory)
    still.reports still.selfInts
  rw [Session.stage, still.signs]
  exact id

theorem Still.proceeds (still : Still connection s t) : Proceeds connection s t where
  left polling := by
    rw [Session.stage, still.signs]
    exact fun early => absurd (polling.symm.trans early) (by decide)
  stays _ := still
  arrives late early := by
    rw [Session.stage, still.signs] at late
    exact absurd late early

theorem still_of_asking {call : TeamSpeakCall} {reply : call.Reply}
    (other : call.topic ≠ .writeInt) (quiet : signs connection (.external (.teamspeak call)) = [])
    (step : sem connection self (.external (.teamspeak call)) s reply t) :
    Still connection s t := by
  have signs : t.signs = signs connection (.external (.teamspeak call)) ++ s.signs := step.2.1
  obtain ⟨-, x, ⟨u, asked, rfl⟩, same⟩ := step.1
  have selfInts : t.selfInts connection = s.selfInts connection := by
    rw [Session.selfInts, same]
    exact asked.part Connection.selfInt (fun f effect c => effect.selfInt other c) connection
  refine ⟨memory_of_step step.1, selfInts, unreported step selfInts, ?_⟩
  rw [signs, quiet, List.nil_append]

theorem value_of_asking {flag : SelfInt} {reply : Option Int32}
    (step : sem connection self
      (.external (.teamspeak (.getClientSelfVariableAsInt connection flag))) s reply t) :
    reply = some (t.selfInts connection flag) := by
  obtain ⟨answered, x, ⟨u, ⟨value, rfl⟩, rfl⟩, same⟩ := step.1
  rw [Session.selfInts, same]
  cases reply with
  | none => cases answered
  | some answer => exact congrArg some (value answer rfl)

-- The value was read while the handshake polls, and it is what the reports that are not handled
-- yet leave of it.
def Reads (connection : UInt64) (device : Device) (value : Bool) (s : Session) : Prop :=
  s.stage = .polling ∧ ∀ known : Device → Bool, known device = value →
    replay known (writes s.reports) device = s.polled connection device

theorem reads_stable (device : Device) (value : Bool) :
    (contract connection).Stable (Reads connection device value) := by
  intro s t reads _ _ apart
  obtain ⟨news, reports, polled⟩ := apart.told reads.1
  refine ⟨apart.stage.trans reads.1, fun known same => ?_⟩
  have added : writes t.reports = writes s.reports ++ writes news := by
    rw [reports, writes, List.filterMap_append]
  rw [added, replay_append, polled]
  exact replay_at (reads.2 known same)

theorem reads_now {device : Device} {value : Bool} (ok : Ok connection s)
    (polling : s.stage = .polling) (now : s.polled connection device = value) :
    Reads connection device value s := by
  have settled : s.Settled connection :=
    ok.settled fun early => absurd (polling.symm.trans early) (by decide)
  refine ⟨polling, fun known same => ?_⟩
  exact settled.reads (same.trans now.symm)

theorem Reads.still {device : Device} {value : Bool} (reads : Reads connection device value s)
    (still : Still connection s t) : Reads connection device value t := by
  unfold Reads Session.stage
  rw [still.signs, still.reports, still.polled]
  exact reads

-- While the handshake polls, with a variable that no change may touch then.
def Holds (connection : UInt64) (flag : SelfInt) (known : Int32 → Prop) (s : Session) : Prop :=
  s.stage = .polling ∧ known (s.selfInts connection flag)

theorem holds_stable {flag : SelfInt} (known : Int32 → Prop) (input : flag ≠ .inputMuted)
    (output : flag ≠ .outputMuted) :
    (contract connection).Stable (Holds connection flag known) := by
  intro s t holds _ _ apart
  refine ⟨apart.stage.trans holds.1, ?_⟩
  rw [apart.combined holds.1 flag input output]
  exact holds.2

theorem Holds.still {flag : SelfInt} {known : Int32 → Prop}
    (holds : Holds connection flag known s) (still : Still connection s t) :
    Holds connection flag known t := by
  unfold Holds Session.stage
  rw [still.signs, still.selfInts]
  exact holds

variable {pre : Session → Prop} {mid post : Int32 → Session → Prop} {α : Type}
  {rest : Option Int32 → Plugin α} {after : α → Session → Prop}

theorem handshakes_ask {flag : SelfInt} (other : flag ≠ .inputHardware)
    (stable : (contract connection).Stable pre)
    (stable' : ∀ value, (contract connection).Stable (mid value))
    (asked : ∀ s t, Ok connection t → pre s → Still connection s t →
      mid (t.selfInts connection flag) t)
    (continues : ∀ value, Handshakes connection (mid value) (rest (some value)) after) :
    Handshakes connection pre
      (teamspeak (.getClientSelfVariableAsInt connection flag) >>= rest) after := by
  have ask : Handshakes connection pre (teamspeak (.getClientSelfVariableAsInt connection flag))
      (fun reply s => ∃ value, reply = some value ∧ mid value s) := by
    apply Triple.perform stable
    · intro reply s t holds ok ok' apart
      obtain ⟨value, same, holds⟩ := holds
      exact ⟨value, same, stable' value s t holds ok ok' apart⟩
    · intro s reply t ok holds step
      have quiet : signs connection
          (.external (.teamspeak (.getClientSelfVariableAsInt connection flag))) = [] := by
        cases flag <;> first | rfl | exact absurd rfl other
      have still := still_of_asking (by simp [TeamSpeakCall.topic]) quiet step.1
      exact ⟨still.proceeds, still.ok ok, _, value_of_asking step.1,
        asked s t (still.ok ok) holds still⟩
  apply ask.bind
  intro reply
  apply Triple.exists
  intro value
  apply Triple.known
  rintro rfl
  exact continues value

def Met (handle : UInt64) (s : Session) : Prop :=
  s.stage = .before ∧ s.wrapper.serverConnectionHandler = handle

theorem met_stable (handle : UInt64) : (contract connection).Stable (Met handle) := by
  intro s t met _ _ apart
  refine ⟨apart.stage.trans met.1, ?_⟩
  rw [apart.wrapper]
  exact met.2

theorem handshakes_askHardware (continues : ∀ value,
      Handshakes connection (Holds connection .inputHardware (· = value))
        (rest (some value)) after) :
    Handshakes connection (Met connection)
      (teamspeak (.getClientSelfVariableAsInt connection .inputHardware) >>= rest) after := by
  have ask : Handshakes connection (Met connection)
      (teamspeak (.getClientSelfVariableAsInt connection .inputHardware))
      (fun reply s => ∃ value, reply = some value ∧
        Holds connection .inputHardware (· = value) s) := by
    apply Triple.perform (met_stable connection)
    · intro reply s t holds ok ok' apart
      obtain ⟨value, same, holds⟩ := holds
      exact ⟨value, same, holds_stable _ (by decide) (by decide) s t holds ok ok' apart⟩
    · intro s reply t ok met step
      obtain ⟨step, settled⟩ := step
      have begun : signs connection
          (.external (.teamspeak (.getClientSelfVariableAsInt connection .inputHardware))) =
            [.polled] := if_pos rfl
      have signs := step.2.1
      have memory : t.world.memory = s.world.memory := memory_of_step step.1
      have selfInts : t.selfInts connection = s.selfInts connection := by
        obtain ⟨-, x, ⟨u, ⟨-, rfl⟩, rfl⟩, same⟩ := step.1
        rw [Session.selfInts, same]
        rfl
      have reports := unreported step selfInts
      have polling : t.stage = .polling := by
        rw [Session.stage, signs, begun]
        rfl
      refine ⟨?_, ok.moved (congrArg footing memory) (fun _ => ?_) fun _ => ?_, _,
        value_of_asking step, polling, rfl⟩
      · exact ⟨fun late => absurd (met.1.symm.trans late) (by decide),
          fun late => absurd (met.1.symm.trans late) (by decide),
          fun late => absurd (polling.symm.trans late) (by decide)⟩
      · rw [Session.wrapper, memory]
        exact met.2
      · rw [Session.Settled, reports, polled_same selfInts]
        exact settled met.1 polling
  apply ask.bind
  intro reply
  apply Triple.exists
  intro value
  apply Triple.known
  rintro rfl
  exact continues value

theorem handshakes_isInputMuted : Handshakes connection (Met connection)
    (ts3IsInputMuted connection) (Reads connection .microphone) := by
  have hardware_stable (known : Int32 → Prop) :
      (contract connection).Stable (Holds connection .inputHardware known) :=
    holds_stable known (by decide) (by decide)
  have deactivated_stable (known : Int32 → Prop) :
      (contract connection).Stable (Holds connection .inputDeactivated known) :=
    holds_stable known (by decide) (by decide)
  unfold ts3IsInputMuted
  apply handshakes_askHardware
  intro hardware
  dsimp only
  split
  · rename_i disabled
    apply Triple.pure (hardware_stable _)
    intro s ok holds
    have value : s.selfInts connection .inputHardware = 0 := holds.2.trans disabled
    exact reads_now ok holds.1 (by simp [polled, dumb, value])
  rename_i enabled
  apply handshakes_ask (by decide) (hardware_stable _)
    fun deactivated => (hardware_stable (· ≠ 0)).and (deactivated_stable (· = deactivated))
  · intro s t ok holds still
    have holds' := holds.still still
    exact ⟨⟨holds'.1, fun zero => enabled (holds'.2.symm.trans zero)⟩, holds'.1, rfl⟩
  intro deactivated
  dsimp only
  split
  · rename_i off
    apply Triple.pure ((hardware_stable _).and (deactivated_stable _))
    intro s ok holds
    have value : s.selfInts connection .inputDeactivated = 1 := holds.2.2.trans off
    exact reads_now ok holds.2.1 (by simp [polled, dumb, value])
  rename_i on
  apply handshakes_ask (by decide) ((hardware_stable _).and (deactivated_stable _))
    fun muted => reads_stable .microphone (decide (muted = 1))
  · intro s t ok holds still
    have enabled : t.selfInts connection .inputHardware ≠ 0 := (holds.1.still still).2
    have active : t.selfInts connection .inputDeactivated ≠ 1 :=
      fun one => on ((holds.2.still still).2.symm.trans one)
    apply reads_now ok (holds.1.still still).1
    simp [polled, dumb, enabled, active]
  intro muted
  apply Triple.pure (reads_stable _ _)
  exact fun _ _ reads => reads

def Kept (connection : UInt64) (muted : Bool) (s : Session) : Prop :=
  Reads connection .microphone muted s ∧ s.client.microphoneMuted = muted

theorem kept_stable (muted : Bool) : (contract connection).Stable (Kept connection muted) := by
  intro s t kept ok ok' apart
  refine ⟨reads_stable _ _ s t kept.1 ok ok' apart, ?_⟩
  exact (congrFun (apart.stored kept.1.1) .microphone).trans kept.2

theorem Kept.still {muted : Bool} (kept : Kept connection muted s)
    (still : Still connection s t) : Kept connection muted t := by
  refine ⟨kept.1.still still, ?_⟩
  rw [Session.client, still.memory]
  exact kept.2

theorem handshakes_isOutputMuted (microphone : Bool) :
    Handshakes connection (Kept connection microphone) (ts3IsOutputMuted connection)
      (fun speakers s => Kept connection microphone s ∧ Reads connection .speakers speakers s) := by
  have hardware_stable (known : Int32 → Prop) :
      (contract connection).Stable (Holds connection .outputHardware known) :=
    holds_stable known (by decide) (by decide)
  have both_stable (known : Int32 → Prop) : (contract connection).Stable fun s =>
      Kept connection microphone s ∧ Holds connection .outputHardware known s :=
    (kept_stable microphone).and (hardware_stable known)
  unfold ts3IsOutputMuted
  apply handshakes_ask (by decide) (kept_stable _) fun hardware => both_stable (· = hardware)
  · intro s t ok kept still
    exact ⟨kept.still still, (kept.still still).1.1, rfl⟩
  intro hardware
  dsimp only
  split
  · rename_i disabled
    apply Triple.pure (both_stable _)
    intro s ok holds
    have value : s.selfInts connection .outputHardware = 0 := holds.2.2.trans disabled
    exact ⟨holds.1, reads_now ok holds.2.1 (by simp [polled, Connection.deaf, value])⟩
  rename_i enabled
  apply handshakes_ask (by decide) (both_stable _)
    fun muted => (kept_stable microphone).and (reads_stable .speakers (decide (muted = 1)))
  · intro s t ok holds still
    have enabled : t.selfInts connection .outputHardware ≠ 0 :=
      fun zero => enabled ((holds.2.still still).2.symm.trans zero)
    refine ⟨holds.1.still still, reads_now ok (holds.2.still still).1 ?_⟩
    simp [polled, Connection.deaf, enabled]
  intro muted
  apply Triple.pure ((kept_stable _).and (reads_stable _ _))
  exact fun _ _ holds => holds

theorem still_but_client {update : Client → Client} {reply : Unit}
    (step : sem connection self
      (.store fun m => { m with client := update m.client }) s reply t) :
    t.world.memory = { s.world.memory with client := update s.client } ∧
      t.selfInts connection = s.selfInts connection ∧ t.reports = s.reports ∧
        t.signs = s.signs := by
  have selfInts : t.selfInts connection = s.selfInts connection := by
    rw [Session.selfInts, show t.world = _ from step.1]
  exact ⟨memory_of_step step.1, selfInts, unreported step selfInts, step.2.1⟩

theorem handshakes_setClient {update : Client → Client} {pre post : Session → Prop}
    (keeps : ∀ c, (update c).client = c.client ∧ (update c).peer = c.peer ∧
      (update c).running = c.running)
    (stable : (contract connection).Stable pre) (stable' : (contract connection).Stable post)
    (polling : ∀ s, pre s → s.stage = .polling)
    (stores : ∀ s t, pre s → t.client = update s.client →
      t.selfInts connection = s.selfInts connection → t.reports = s.reports →
        t.signs = s.signs → post t) :
    Handshakes connection pre (setClient update) (fun _ => post) := by
  apply Triple.perform stable fun _ => stable'
  intro s reply t ok holds step
  obtain ⟨memory, selfInts, reports, signs⟩ := still_but_client step.1
  have client : t.client = update s.client := by rw [Session.client, memory]
  have now : s.stage = .polling := polling s holds
  have polling' : t.stage = .polling := by rwa [Session.stage, signs]
  have late : s.stage ≠ .before := fun early => absurd (now.symm.trans early) (by decide)
  obtain ⟨host, peer, running⟩ := keeps s.client
  refine ⟨⟨fun _ early => absurd (polling'.symm.trans early) (by decide),
    fun late => absurd (now.symm.trans late) (by decide),
    fun late => absurd (polling'.symm.trans late) (by decide)⟩, ?_,
    stores s t holds client selfInts reports signs⟩
  apply ok.kept ?_ (by rw [Session.wrapper, memory]) reports selfInts fun _ => late
  simp only [memory, footing, host, peer, running]

theorem Reads.moved {device : Device} {value : Bool} (reads : Reads connection device value s)
    (selfInts : t.selfInts connection = s.selfInts connection) (reports : t.reports = s.reports)
    (signs : t.signs = s.signs) : Reads connection device value t := by
  unfold Reads Session.stage
  rw [signs, reports, polled_same selfInts]
  exact reads

def Complete (connection : UInt64) (microphone speakers : Bool) (s : Session) : Prop :=
  (Kept connection microphone s ∧ Reads connection .speakers speakers s) ∧
    s.client.speakersMuted = speakers

theorem complete_stable (microphone speakers : Bool) :
    (contract connection).Stable (Complete connection microphone speakers) := by
  intro s t complete ok ok' apart
  refine ⟨(kept_stable _).and (reads_stable _ _) s t complete.1 ok ok' apart, ?_⟩
  exact (congrFun (apart.stored complete.1.2.1) .speakers).trans complete.2

theorem Complete.still {microphone speakers : Bool}
    (complete : Complete connection microphone speakers s) (still : Still connection s t) :
    Complete connection microphone speakers t := by
  refine ⟨⟨complete.1.1.still still, complete.1.2.still still⟩, ?_⟩
  rw [Session.client, still.memory]
  exact complete.2

theorem handshakes_client {microphone speakers : Bool} :
    Handshakes connection (Complete connection microphone speakers) client
      (fun c s => Complete connection microphone speakers s ∧
        c.microphoneMuted = microphone ∧ c.speakersMuted = speakers) := by
  have loads : Handshakes connection (Complete connection microphone speakers) load
      (fun m s => Complete connection microphone speakers s ∧
        m.client.microphoneMuted = microphone ∧ m.client.speakersMuted = speakers) := by
    apply Triple.perform (complete_stable _ _)
    · intro m s t holds ok ok' apart
      exact ⟨complete_stable _ _ s t holds.1 ok ok' apart, holds.2⟩
    · intro s m t ok complete step
      obtain ⟨step, -⟩ := step
      have world : t.world = s.world := step.1.2
      have selfInts : t.selfInts connection = s.selfInts connection := by
        rw [Session.selfInts, world]
      have still : Still connection s t :=
        ⟨congrArg World.memory world, selfInts, unreported step selfInts, step.2.1⟩
      refine ⟨still.proceeds, still.ok ok, complete.still still, ?_⟩
      rw [show m = s.world.memory from step.1.1]
      exact ⟨complete.1.1.2, complete.2⟩
  apply loads.bind
  intro m
  apply Triple.pure
  · intro s t holds ok ok' apart
    exact ⟨complete_stable _ _ s t holds.1 ok ok' apart, holds.2⟩
  · exact fun _ _ holds => holds

def Late (s : Session) : Prop := s.stage = .after

theorem late_stable : (contract connection).Stable Late :=
  fun _ _ late _ _ apart => apart.stage.trans late

theorem handshakes_send {microphone speakers : Bool} (peer : Option PeerId) (talking : Bool) :
    Handshakes connection (Complete connection microphone speakers)
      (enet (.peerSend peer networkStatusChannel (.status ⟨talking, microphone, speakers⟩) true))
      (fun _ => Late) := by
  apply Triple.perform (complete_stable _ _) fun _ => late_stable
  intro s reply t ok complete step
  obtain ⟨step, -⟩ := step
  have memory : t.world.memory = s.world.memory := memory_of_step step.1
  have signs : t.signs = .status ⟨talking, microphone, speakers⟩ :: s.signs := step.2.1
  have selfInts : t.selfInts connection = s.selfInts connection := by
    obtain ⟨-, x, ⟨e, -, rfl⟩, same⟩ := step.1
    rw [Session.selfInts, same]
    rfl
  have reports := unreported step selfInts
  have polling : s.stage = .polling := complete.1.2.1
  have late : s.stage ≠ .before := fun early => absurd (polling.symm.trans early) (by decide)
  have arrived : t.stage = .after := by
    rw [Session.stage, signs]
    exact if_neg late
  have known : Known connection t := by
    refine ⟨?_, _, by rw [signs]; rfl, ?_⟩
    · rw [reports, polled_same selfInts]
      funext device
      cases device with
      | microphone =>
        apply complete.1.1.1.2
        rw [Session.stored, Session.client, memory]
        exact complete.1.1.2
      | speakers =>
        apply complete.1.2.2
        rw [Session.stored, Session.client, memory]
        exact complete.2
    · rw [Session.stored, Session.client, memory]
      funext device
      cases device with
      | microphone => exact complete.1.1.2.symm
      | speakers => exact complete.2.symm
  refine ⟨⟨fun _ early => absurd (arrived.symm.trans early) (by decide),
    fun late => absurd (polling.symm.trans late) (by decide), fun _ _ => ⟨polling, known⟩⟩,
    ?_, arrived⟩
  exact ok.kept (congrArg footing memory) (congrArg Memory.wrapper memory) reports selfInts
    fun _ => late

theorem handshakes_sendStatus {microphone speakers : Bool} :
    Handshakes connection (Complete connection microphone speakers) sendStatus
      (fun _ => Late) := by
  have knowing {α : Type} {c : Client} {p : Plugin α} {post : α → Session → Prop}
      (triple : c.microphoneMuted = microphone → c.speakersMuted = speakers →
        Handshakes connection (Complete connection microphone speakers) p post) :
      Handshakes connection (fun s => Complete connection microphone speakers s ∧
        c.microphoneMuted = microphone ∧ c.speakersMuted = speakers) p post := by
    apply Triple.assume fun _ _ holds => holds.2
    intro known
    exact (triple known.1 known.2).mono (fun _ _ holds => holds.1) fun _ _ _ holds => holds
  unfold sendStatus sendPacket
  apply handshakes_client.bind
  intro first
  apply knowing
  intro _ _
  apply handshakes_client.bind
  intro second
  apply knowing
  intro microphone_read _
  apply handshakes_client.bind
  intro third
  apply knowing
  intro _ speakers_read
  subst microphone_read speakers_read
  simp only [serializePacket, Bool.true_eq_false, if_false]
  apply handshakes_client.bind
  intro last
  apply knowing
  intro _ _
  exact handshakes_send last.peer first.talking

def initialStatus (serverHandle : UInt64) : Plugin Unit := do
  let microphoneMuted ← ts3IsInputMuted serverHandle
  setClient fun c => { c with microphoneMuted := microphoneMuted }
  let speakersMuted ← ts3IsOutputMuted serverHandle
  setClient fun c => { c with speakersMuted := speakersMuted }
  sendStatus
  discard ts3ResetListenerPosition
  discard (ts3Set3DSettings 0x40000000 0x40400000)

theorem quiet_initialStatus {α : Type} {kind : External → Prop} {part : Memory → α}
    {handle : UInt64} (asks : ∀ flag, kind (.teamspeak (.getClientSelfVariableAsInt handle flag)))
    (sends : ∀ peer packet,
      kind (.enet (.peerSend peer networkStatusChannel (.status packet) true)))
    (sounds : ∀ call : TeamSpeakCall, call.topic ∈ [Topic.sound] → kind (.teamspeak call))
    (microphone : ∀ (m : Memory) muted,
      part { m with client := { m.client with microphoneMuted := muted } } = part m)
    (speakers : ∀ (m : Memory) muted,
      part { m with client := { m.client with speakersMuted := muted } } = part m) :
    (initialStatus handle).Calls (Op.Quiet kind part) := by
  unfold initialStatus
  apply (quiet_isInputMuted asks).bind
  intro muted
  apply (quiet_setClient fun m => microphone m muted).bind
  intro _
  apply (quiet_isOutputMuted (asks _) (asks _)).bind
  intro muted
  apply (quiet_setClient fun m => speakers m muted).bind
  intro _
  apply (quiet_sendStatus sends).bind
  intro _
  apply (quiet_of_asking (discard_calls ts3ResetListenerPosition_on) sounds).bind
  intro _
  exact quiet_of_asking (discard_calls (ts3Set3DSettings_on _ _)) sounds

theorem handshakes_late {α : Type} {p : Plugin α} (calls : p.Calls (Op.On id [.sound])) :
    Handshakes connection Late p (fun _ => Late) := by
  apply Triple.of_calls late_stable calls
  intro op s reply t on ok late step
  have still : Still connection s t := by
    obtain ⟨step, -⟩ := step
    cases op with
    | load =>
      have world : t.world = s.world := step.1.2
      have selfInts : t.selfInts connection = s.selfInts connection := by
        rw [Session.selfInts, world]
      exact ⟨congrArg World.memory world, selfInts, unreported step selfInts, step.2.1⟩
    | sleep =>
      have world : t.world = s.world := step.1
      have selfInts : t.selfInts connection = s.selfInts connection := by
        rw [Session.selfInts, world]
      exact ⟨congrArg World.memory world, selfInts, unreported step selfInts, step.2.1⟩
    | store update =>
      have world : t.world = { s.world with memory := update s.world.memory } := step.1
      have selfInts : t.selfInts connection = s.selfInts connection := by
        rw [Session.selfInts, world]
      exact ⟨(congrArg World.memory world).trans (on _), selfInts, unreported step selfInts,
        step.2.1⟩
    | thread => cases on
    | external call =>
      cases call with
      | enet | object => cases on.1
      | teamspeak call =>
        have sound : call.topic = .sound := List.mem_singleton.mp on.1
        apply still_of_asking ?_ ?_ step
        · rw [sound]
          decide
        · cases call <;> first | rfl | cases sound
  refine ⟨still.proceeds, still.ok ok, ?_⟩
  rw [Late, Session.stage, still.signs]
  exact late

theorem handshakes_initialStatus :
    Handshakes connection (Met connection) (initialStatus connection) (fun _ => Late) := by
  have keepsMicrophone (muted : Bool) : Handshakes connection (Reads connection .microphone muted)
      (setClient fun c => { c with microphoneMuted := muted })
      (fun _ => Kept connection muted) := by
    apply handshakes_setClient ?_ (reads_stable _ _) (kept_stable _) fun s reads => reads.1
    · intro s t reads client selfInts reports signs
      exact ⟨reads.moved selfInts reports signs, by rw [client]⟩
    · exact fun c => ⟨rfl, rfl, rfl⟩
  have keepsSpeakers (microphone speakers : Bool) : Handshakes connection
      (fun s => Kept connection microphone s ∧ Reads connection .speakers speakers s)
      (setClient fun c => { c with speakersMuted := speakers })
      (fun _ => Complete connection microphone speakers) := by
    apply handshakes_setClient ?_ ((kept_stable _).and (reads_stable _ _)) (complete_stable _ _)
      fun s holds => holds.2.1
    · intro s t holds client selfInts reports signs
      have microphone_kept : Kept connection microphone t :=
        ⟨holds.1.1.moved selfInts reports signs, by rw [client]; exact holds.1.2⟩
      exact ⟨⟨microphone_kept, holds.2.moved selfInts reports signs⟩, by rw [client]⟩
    · exact fun c => ⟨rfl, rfl, rfl⟩
  unfold initialStatus
  apply handshakes_isInputMuted.bind
  intro microphone
  apply (keepsMicrophone microphone).bind
  intro _
  apply (handshakes_isOutputMuted microphone).bind
  intro speakers
  apply (keepsSpeakers microphone speakers).bind
  intro _
  apply handshakes_sendStatus.bind
  intro _
  apply (handshakes_late (discard_calls ts3ResetListenerPosition_on)).bind
  intro _
  exact handshakes_late (discard_calls (ts3Set3DSettings_on _ _))

abbrev Unpolled (connection : UInt64) : Op → Prop :=
  Op.Quiet (fun call => .polled ∉ signs connection (.external call)) bound

theorem stage_unpolled {news older : List Sign} (unpolled : .polled ∉ news)
    (early : MuteState.stage older = .before) : MuteState.stage (news ++ older) = .before := by
  induction news with
  | nil => exact early
  | cons sign rest ih =>
    rw [List.mem_cons, not_or] at unpolled
    cases sign with
    | welcomed => exact ih unpolled.2
    | polled => exact absurd rfl unpolled.1
    | status packet => exact if_pos (ih unpolled.2)

theorem unpolled_step {op : Op} {reply : op.Reply} (unpolled : Unpolled connection op)
    (step : sem connection self op s reply t) (early : s.stage = .before) :
    bound t.world.memory = bound s.world.memory ∧ t.stage = .before := by
  refine ⟨unpolled.kept step.1, ?_⟩
  rw [Session.stage, step.2.1]
  cases op with
  | load | sleep | store => exact stage_unpolled List.not_mem_nil early
  | thread => cases unpolled
  | external call => exact stage_unpolled unpolled early

theorem handshakes_met {handle : UInt64} {α : Type} {p : Plugin α}
    (calls : p.Calls (Unpolled connection)) :
    Handshakes connection (Met handle) p (fun _ => Met handle) := by
  apply Triple.of_calls (met_stable handle) calls
  intro op s reply t unpolled ok met step
  obtain ⟨kept, early⟩ := unpolled_step unpolled step.1 met.1
  exact ⟨.early met.1 early, ok.early (congrArg Prod.fst kept) early, early,
    (congrArg Prod.snd kept).trans met.2⟩

theorem unpolled_of_topics {topics : List Topic} (unread : .readInt ∉ topics)
    (call : TeamSpeakCall) (about : call.topic ∈ topics) :
    .polled ∉ signs connection (.external (.teamspeak call)) := by
  rw [unsigned unread call about]
  exact List.not_mem_nil

theorem unpolled_sendHandshake (statusCode : Int32) :
    (sendHandshake statusCode).Calls (Unpolled connection) := by
  refine quiet_sendHandshake (unpolled_of_topics (by decide)) fun peer packet _ => ?_
  simp only [signs]
  split <;> simp

theorem unpolled_initialStatus {handle : UInt64} (other : handle ≠ connection) :
    (initialStatus handle).Calls (Unpolled connection) := by
  refine quiet_initialStatus (fun flag => ?_) (fun _ _ => ?_) (unpolled_of_topics (by decide))
    (fun _ _ => rfl) fun _ _ => rfl
  · cases flag <;> simp [signs, other]
  · simp [signs]

def enter (serverHandle lastChannelId channelId : UInt64) (tempMute : Bool) : Plugin Unit := do
  let clients ← ts3ClientsInChannel channelId
  forM clients.elems fun id => discard (ts3MuteClient id true)
  if tempMute then
    sleepFor 500
    discard (ts3SetOutputMuted serverHandle false)
  let teamspeakId ← ts3ClientId serverHandle
  setClient fun c => { c with teamspeakId := teamspeakId }
  setClient fun c => { c with lastChannelId := lastChannelId }

theorem enterChannel_program (serverHandle lastChannelId channelId : UInt64) (tempMute : Bool) :
    enterChannel serverHandle lastChannelId channelId tempMute =
      enter serverHandle lastChannelId channelId tempMute >>= fun _ =>
        sendHandshake statusCodeOk >>= fun _ => initialStatus serverHandle := by
  have branches (p q : Plugin Unit) (f : Unit → Plugin Unit) :
      (if tempMute = true then p else q) >>= f =
        if tempMute = true then p >>= f else q >>= f := by
    split <;> rfl
  unfold enterChannel enter initialStatus
  simp only [Program.bind_assoc, branches]

theorem quiet_enter (serverHandle lastChannelId channelId : UInt64) (tempMute : Bool) :
    (enter serverHandle lastChannelId channelId tempMute).Calls (Quiet bound connection) := by
  have muting (ids : List AnyID) :
      (forM ids fun id => discard (ts3MuteClient id true) : Plugin PUnit).Calls
        (Quiet bound connection) :=
    Program.Calls.forM fun _ _ => discard_calls (quiet_muteClient _ _)
  have asking {α : Type} {p : Plugin α} {topics : List Topic} (calls : p.Calls (Op.On id topics))
      (silent : .readInt ∉ topics) : p.Calls (Quiet bound connection) :=
    quiet_of_asking calls (unsigned silent)
  have settling : (do
      let teamspeakId ← ts3ClientId serverHandle
      setClient fun c => { c with teamspeakId := teamspeakId }
      setClient fun c => { c with lastChannelId := lastChannelId }).Calls
        (Quiet bound connection) := by
    refine (asking (ts3ClientId_on serverHandle) (by decide)).bind fun teamspeakId => ?_
    exact (quiet_setClient fun _ => rfl).bind fun _ => quiet_setClient fun _ => rfl
  unfold enter
  refine (asking (ts3ClientsInChannel_on channelId) (by decide)).bind fun clients => ?_
  refine (muting clients.elems).bind fun _ => ?_
  split
  · refine (quiet_sleepFor 500).bind fun _ => ?_
    have hears := asking (discard_calls (ts3SetOutputMuted_on serverHandle false)) (by decide)
    exact hears.bind fun _ => settling
  · exact settling

theorem handshakes_enterChannel {handle : UInt64} (lastChannelId channelId : UInt64)
    (tempMute : Bool) : Handshakes connection (Found handle)
      (enterChannel handle lastChannelId channelId tempMute) (fun _ => Finished connection) := by
  rw [enterChannel_program]
  apply (handshakes_found (quiet_enter handle lastChannelId channelId tempMute)).bind
  intro _
  have replies : Handshakes connection (Found handle) (sendHandshake statusCodeOk)
      (fun _ => Met handle) :=
    (handshakes_met (unpolled_sendHandshake statusCodeOk)).mono
      (fun s ok found => ⟨found.1.1, found.2⟩) fun _ _ _ met => met
  apply replies.bind
  intro _
  by_cases own : handle = connection
  · subst own
    exact handshakes_initialStatus.mono (fun _ _ met => met) fun _ _ _ late _ _ => late
  · apply (handshakes_met (unpolled_initialStatus own)).mono (fun _ _ met => met)
    intro _ s ok met current
    exact absurd (met.2.symm.trans current) own

theorem handshakes_handle : Handshakes connection Unwelcome ts3ServerConnectionHandle Found := by
  have loads : Handshakes connection Unwelcome load
      (fun m => Found m.wrapper.serverConnectionHandler) := by
    apply Triple.perform unwelcome_stable fun _ => found_stable
    intro s m t ok unwelcome step
    obtain ⟨step, -⟩ := step
    have memory : t.world.memory = s.world.memory := memory_of_step step.1
    have signs : t.signs = s.signs := step.2.1
    have early : t.stage = .before := by
      rw [Session.stage, signs]
      exact unwelcome.1
    refine ⟨.early unwelcome.1 early, ok.early (congrArg footing memory) early, ⟨early, ?_⟩, ?_⟩
    · rw [signs]
      exact unwelcome.2
    · rw [Session.wrapper, memory, show m = s.world.memory from step.1.1]
  have reads : Handshakes connection Unwelcome wrapper
      (fun w => Found w.serverConnectionHandler) :=
    loads.bind fun m => Triple.pure found_stable fun _ _ found => found
  exact reads.bind fun w => Triple.pure found_stable fun _ _ found => found

theorem Unwelcome.finished (unwelcome : Unwelcome s) : Finished connection s :=
  fun _ welcomed => absurd welcomed unwelcome.2

theorem handshakes_response (packet : Bytes) : Handshakes connection Unwelcome
    (handleHandshakeResponse packet) (fun _ => Finished connection) := by
  have done {pre : Session → Prop} (stable : (contract connection).Stable pre)
      (unwelcome : ∀ s, pre s → Unwelcome s) :
      Handshakes connection pre (Pure.pure () : Plugin Unit) (fun _ => Finished connection) :=
    Triple.pure stable fun s _ holds => (unwelcome s holds).finished
  have fails {pre : Session → Prop} (unwelcome : ∀ s, pre s → Unwelcome s) {statusCode : Int32}
      (failed : statusCode ≠ statusCodeOk) : Handshakes connection pre
        (sendHandshake statusCode >>= fun _ => Pure.pure ()) (fun _ => Finished connection) := by
    have sends : Handshakes connection pre (sendHandshake statusCode) (fun _ => Unwelcome) :=
      (handshakes_quiet (quiet_sendHandshake (unsigned (by decide))
      (unsigned_handshake failed))).mono
        (fun s _ holds => unwelcome s holds) fun _ _ _ holds => holds
    apply sends.bind
    intro _
    exact done unwelcome_stable fun _ holds => holds
  have found {handle : UInt64} {α : Type} {p : Plugin α}
    (calls : p.Calls (Quiet bound connection)) :
      Handshakes connection (Found handle) p (fun _ => Found handle) := handshakes_found calls
  unfold handleHandshakeResponse
  cases receive HandshakeResponsePacket.serialize packet with
  | none => exact done unwelcome_stable fun _ holds => holds
  | some p =>
    dsimp only
    split
    · exact done unwelcome_stable fun _ holds => holds
    apply (handshakes_quiet (quiet_verifyServer _)).bind
    intro verified
    split
    · exact fails (fun _ holds => holds) (by decide)
    apply handshakes_handle.bind
    intro handle
    apply (found (quiet_of_asking (ts3ChannelId_on handle) (unsigned (by decide)))).bind
    intro lastChannelId
    apply (found (quiet_isOutputMuted rfl rfl)).bind
    intro muted
    have moves : Handshakes connection (Found handle)
        (ts3MoveToChannel p.channelId p.channelPassword >>= fun moved =>
          if (!moved) = true then sendHandshake statusCodeNotMovedToChannel >>= fun _ => pure ()
          else enterChannel handle lastChannelId p.channelId (!muted))
        (fun _ => Finished connection) := by
      apply (found (quiet_of_asking (ts3MoveToChannel_on _ _) (unsigned (by decide)))).bind
      intro moved
      split
      · exact fails (fun _ holds => holds.1) (by decide)
      · exact handshakes_enterChannel _ _ _
    split
    · apply (found (quiet_of_asking (discard_calls (ts3SetOutputMuted_on handle true))
        (unsigned (by decide)))).bind
      intro _
      exact (found (quiet_sleepFor 500)).bind fun _ => moves
    · exact moves

end Polling

end MuteState

end JustAnotherVoiceChat
