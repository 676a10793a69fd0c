import JustAnotherVoiceChat.MutePolling

set_option autoImplicit false

namespace JustAnotherVoiceChat

open Binary Interaction Relation Replay

namespace MuteState

def footed (m : Memory) : (Option HostId × Option PeerId × Bool × Pointer) × Wrapper :=
  (footing m, m.wrapper)

def Handling : Op → Prop
  | .load => True
  | .store update => ∀ m, footed (update m) = footed m
  | .external (.object _) | .external (.enet (.peerSend _ _ (.status _) _)) => True
  | _ => False

section Handling

variable {connection : UInt64} {self : ThreadId} {s t : Session} {α : Type} {p : Plugin α}

theorem handling_step {op : Op} {reply : op.Reply} (handling : Handling op)
    (step : sem connection self op s reply t) :
    footed t.world.memory = footed s.world.memory ∧
      t.selfInts connection = s.selfInts connection ∧
        (t.signs = s.signs ∨ ∃ packet, t.signs = .status packet :: s.signs) := by
  have signs : t.signs = signs connection op ++ s.signs := step.2.1
  cases op with
  | load =>
    have world : t.world = s.world := step.1.2
    exact ⟨by rw [world], by rw [Session.selfInts, world], .inl signs⟩
  | sleep | thread => cases handling
  | store update =>
    have world : t.world = { s.world with memory := update s.world.memory } := step.1
    exact ⟨(congrArg footed (memory_of_step step.1)).trans (handling _),
      by rw [Session.selfInts, world], .inl signs⟩
  | external call =>
    have memory := congrArg footed (memory_of_step step.1)
    cases call with
    | teamspeak => cases handling
    | object call =>
      obtain ⟨-, x, moved, same⟩ := step.1
      obtain rfl : x = s.world := moved
      exact ⟨memory, by rw [Session.selfInts, same]; rfl, .inl signs⟩
    | enet call =>
      obtain ⟨-, x, ⟨e, -, rfl⟩, same⟩ := step.1
      have selfInts : t.selfInts connection = s.selfInts connection := by
        rw [Session.selfInts, same]
        rfl
      cases call with
      | peerSend peer channelID packet reliable =>
        cases packet with
        | status packet => exact ⟨memory, selfInts, .inr ⟨packet, signs⟩⟩
        | protocol | handshake => cases handling
      | _ => cases handling

-- The event handler does not disturb the handshake, unless this one polls.
theorem handling_apart {op : Op} {reply : op.Reply} (handling : Handling op)
    (ok : Ok connection s) (idle : s.stage ≠ .polling)
    (step : sem connection self op s reply t) : Apart connection s t ∧ Ok connection t := by
  obtain ⟨memory, selfInts, signs⟩ := handling_step handling step
  have reports := unreported step selfInts
  have wrapper : t.wrapper = s.wrapper := congrArg Prod.snd memory
  have welcomed : .welcomed ∈ t.signs ↔ .welcomed ∈ s.signs := by
    rcases signs with same | ⟨packet, same⟩ <;> simp [same]
  have stage : t.stage = s.stage := by
    rcases signs with same | ⟨packet, same⟩
    · rw [Session.stage, same]
    · rw [Session.stage, same]
      by_cases early : s.stage = .before
      · exact (if_pos early).trans early.symm
      · have late : s.stage = .after := by
          cases stage : s.stage with
          | before => exact absurd stage early
          | polling => exact absurd stage idle
          | after => rfl
        exact (if_neg early).trans late.symm
  refine ⟨⟨wrapper, welcomed, stage, fun polling => absurd polling idle,
    fun polling => absurd polling idle, fun polling => absurd polling idle⟩, ?_⟩
  apply ok.kept (congrArg Prod.fst memory) wrapper reports selfInts
  rw [stage]
  exact id

theorem handling_parts : PluginPrograms (fun {_} p => p.Calls Handling) := .of_load trivial

theorem handling_sendStatus : sendStatus.Calls Handling :=
  handling_parts.sendStatus fun _ => handling_parts.sendPacket fun _ => ⟨trivial, fun _ => trivial⟩

theorem handling_method {update : Client → Client}
    (keeps : ∀ c, (update c).client = c.client ∧ (update c).peer = c.peer ∧
      (update c).running = c.running) : Program.Calls Handling (do
      if !(← clientIsOpen) then
        return ()
      useClient do
        setClient update
        sendStatus) := by
  have stores : (setClient update).Calls Handling := by
    refine ⟨fun m => ?_, fun _ => trivial⟩
    obtain ⟨client, peer, running⟩ := keeps m.client
    simp only [footed, footing, client, peer, running]
  have uses (call : ObjectCall) : (object call).Calls Handling := ⟨trivial, fun _ => trivial⟩
  exact handling_parts.whileOpen uses (stores.bind fun _ => handling_sendStatus)

theorem handling_handler (report : Report) : (report.handler connection).Calls Handling := by
  unfold Report.handler ts3pluginOnClientSelfVariableUpdateEvent
  apply handling_parts.ts3ServerConnectionHandle.bind
  intro handle
  dsimp only
  split
  · trivial
  split
  · exact handling_method fun _ => ⟨rfl, rfl, rfl⟩
  · exact handling_method fun _ => ⟨rfl, rfl, rfl⟩
  · trivial

abbrev handlerContract (connection : UInt64) : Contract Session where
  inv s := Ok connection s ∧ s.stage = .after
  rely s t := t.world.memory = s.world.memory ∧ t.signs = s.signs
  guar _ _ := True

abbrev Handles (connection : UInt64) (pre : Session → Prop) (p : Plugin α)
    (post : α → Session → Prop) : Prop :=
  Triple (sem connection 2) (handlerContract connection) pre p post

def At (m : Memory) (older : List Sign) (s : Session) : Prop :=
  s.world.memory = m ∧ s.signs = older

variable {m : Memory} {older : List Sign} {post : α → Session → Prop}

theorem at_stable (m : Memory) (older : List Sign) :
    (handlerContract connection).Stable (At m older) :=
  fun _ _ here _ _ rely => ⟨rely.1.trans here.1, rely.2.trans here.2⟩

theorem handles_call {op : Op} {m' : Memory} {rest : op.Reply → Plugin α}
    (handling : Handling op)
    (moved : ∀ s reply t, sem connection 2 op s reply t → s.world.memory = m →
      t.world.memory = m' ∧
        Handles connection (At m' (signs connection op ++ older)) (rest reply) post) :
    Handles connection (At m older) (.call op rest) post := by
  intro s held here
  apply Safe.call (at_stable m older) held here
  intro t held here reply u step
  obtain ⟨memory, continues⟩ := moved t reply u step here.1
  have idle : t.stage ≠ .polling :=
    fun polling => absurd (held.2.symm.trans polling) (by decide)
  obtain ⟨apart, ok⟩ := handling_apart handling held.1 idle step
  have kept : Ok connection u ∧ u.stage = .after := ⟨ok, apart.stage.trans held.2⟩
  refine ⟨trivial, kept, continues u kept ⟨memory, ?_⟩⟩
  rw [show u.signs = _ from step.2.1, here.2]

theorem handles_load {rest : Memory → Plugin α}
    (continues : Handles connection (At m older) (rest m) post) :
    Handles connection (At m older) (load >>= rest) post := by
  have handling : Handling .load := trivial
  apply handles_call handling
  intro s reply t step here
  have read : reply = m := step.1.1.trans here
  rw [read]
  exact ⟨(memory_of_step step.1).trans here, continues⟩

theorem handles_object {call : ObjectCall} {rest : Unit → Plugin α}
    (continues : Handles connection (At m older) (rest ()) post) :
    Handles connection (At m older) (object call >>= rest) post := by
  have handling : Handling (.external (.object call)) := trivial
  apply handles_call handling
  intro s reply t step here
  exact ⟨(memory_of_step step.1).trans here, continues⟩

theorem handles_setClient {update : Client → Client} {rest : Unit → Plugin α}
    (keeps : ∀ c, (update c).client = c.client ∧ (update c).peer = c.peer ∧
      (update c).running = c.running)
    (continues : Handles connection (At { m with client := update m.client } older) (rest ())
      post) : Handles connection (At m older) (setClient update >>= rest) post := by
  have handling : Handling (.store fun m => { m with client := update m.client }) := by
    intro m
    obtain ⟨client, peer, running⟩ := keeps m.client
    simp only [footed, footing, client, peer, running]
  apply handles_call handling
  intro s reply t step here
  refine ⟨(memory_of_step step.1).trans ?_, continues⟩
  rw [here]

theorem handles_sendStatus :
    Handles connection (At m older) sendStatus (fun _ s => At m (.status ⟨m.client.talking,
      m.client.microphoneMuted, m.client.speakersMuted⟩ :: older) s) := by
  unfold sendStatus sendPacket client
  simp only [Program.bind_assoc, serializePacket, Bool.true_eq_false, if_false]
  apply handles_load
  apply handles_load
  apply handles_load
  apply handles_load
  have handling : Handling (.external (.enet (.peerSend m.client.peer networkStatusChannel
    (.status ⟨m.client.talking, m.client.microphoneMuted, m.client.speakersMuted⟩) true))) :=
      trivial
  apply handles_call handling
  intro s reply t step here
  exact ⟨(memory_of_step step.1).trans here, Triple.pure (at_stable _ _) fun _ _ here => here⟩

theorem handles_isOpen {rest : Bool → Plugin α} (opened : m.client.IsOpen)
    (continues : Handles connection (At m older) (rest true) post) :
    Handles connection (At m older) (isOpen >>= rest) post := by
  obtain ⟨host, peer, running⟩ := opened
  have host' : m.client.client ≠ none := Option.isSome_iff_ne_none.mp host
  have peer' : m.client.peer ≠ none := Option.isSome_iff_ne_none.mp peer
  unfold isOpen client
  simp only [Program.bind_assoc]
  apply handles_load
  simp only [Program.pure_eq, Program.ret_bind]
  rw [if_neg host', Program.bind_assoc]
  apply handles_load
  rw [if_neg peer', Program.bind_assoc]
  apply handles_load
  simp only [Program.ret_bind, running]
  exact continues

def Told (known : Device → Bool) (s : Session) : Prop :=
  s.stored = known ∧ ∃ packet, lastStatus s.signs = some packet ∧ packed packet = known

theorem handles_method {update : Client → Client}
    (keeps : ∀ c, (update c).client = c.client ∧ (update c).peer = c.peer ∧
      (update c).running = c.running)
    (created : m.globals.client ≠ .null) (opened : m.client.IsOpen) :
    Handles connection (At m older) (do
      if !(← clientIsOpen) then
        return ()
      useClient do
        setClient update
        sendStatus) (fun _ => Told (stored (update m.client))) := by
  unfold clientIsOpen useClient
  simp only [Program.bind_assoc]
  apply handles_load
  rw [if_neg created, Program.bind_assoc]
  apply handles_object
  apply handles_isOpen opened
  simp only [Bool.not_true, Bool.false_eq_true, if_false]
  apply handles_load
  apply handles_object
  apply handles_setClient keeps
  apply handles_sendStatus.mono (fun _ _ here => here)
  intro _ s held here
  obtain ⟨memory, signs⟩ := here
  refine ⟨by rw [Session.stored, Session.client, memory], _, by rw [signs]; rfl, ?_⟩
  funext device
  cases device <;> rfl

theorem handles_handler (report : Report) (known : Device → Bool) :
    Handles connection (Told known) (report.handler connection)
      (fun _ => Told (replay known report.write.toList)) := by
  intro s held told
  have current := held.1.handle fun early => absurd (held.2.symm.trans early) (by decide)
  have method {update : Client → Client} {device : Device} {muted : Bool}
      (keeps : ∀ c, (update c).client = c.client ∧ (update c).peer = c.peer ∧
        (update c).running = c.running)
      (writes : report.write = some (device, muted))
      (stores : stored (update s.client) = Function.update (stored s.client) device muted) :
      Handles connection (At s.world.memory s.signs) (do
        if !(← clientIsOpen) then
          return ()
        useClient do
          setClient update
          sendStatus : Plugin Unit) (fun _ => Told (replay known report.write.toList)) := by
    have same : replay known report.write.toList = stored (update s.client) := by
      rw [writes, stores, ← told.1]
      rfl
    rw [same]
    exact handles_method keeps held.1.created held.1.isOpen
  have nothing (unwritten : report.write = none) :
      Handles connection (At s.world.memory s.signs) (Pure.pure () : Plugin Unit)
        (fun _ => Told (replay known report.write.toList)) := by
    rw [unwritten]
    apply Triple.pure (at_stable _ _)
    intro t _ here
    rw [Told, Session.stored, Session.client, here.1, here.2]
    exact told
  have handled : Handles connection (At s.world.memory s.signs) (report.handler connection)
      (fun _ => Told (replay known report.write.toList)) := by
    unfold Report.handler ts3pluginOnClientSelfVariableUpdateEvent ts3ServerConnectionHandle
      wrapper
    simp only [Program.bind_assoc]
    apply handles_load
    simp only [Program.pure_eq, Program.ret_bind]
    rw [if_neg (not_not.mpr current.symm)]
    cases flag : report.flag with
    | inputMuted =>
      have writes : report.write = some (.microphone, decide (report.value = 1)) := by
        rw [Report.write, flag]
      refine method ?_ writes ?_
      · exact fun _ => ⟨rfl, rfl, rfl⟩
      · funext device
        cases device <;> simp [stored, report.shown]
    | outputMuted =>
      have writes : report.write = some (.speakers, decide (report.value = 1)) := by
        rw [Report.write, flag]
      refine method ?_ writes ?_
      · exact fun _ => ⟨rfl, rfl, rfl⟩
      · funext device
        cases device <;> simp [stored, report.shown]
    | inputHardware | inputDeactivated | outputHardware =>
      exact nothing (by rw [Report.write, flag])
  exact handled s held ⟨rfl, rfl⟩

end Handling

section Runs

variable {connection : UInt64} {handshake events rest : Plugin Unit} {s t : Session}

-- The handler that goes on will have told what the reports after it lead to what is polled from.
def Listens (connection : UInt64) (events : Plugin Unit) (s : Session) : Prop :=
  ∃ known, replay known (writes s.reports) = s.polled connection ∧
    Safe (sem connection 2) (handlerContract connection) events (fun _ => Told known) s

structure Agreeing (connection : UInt64) (handshake events : Plugin Unit) (s : Session) :
    Prop where
  ok : Ok connection s
  handshake : Safe (careful connection 1) (contract connection) handshake
    (fun _ => Finished connection) s
  handling : events.Calls Handling
  waits : s.stage = .polling → events = .ret ()
  listens : s.stage = .after → Listens connection events s

theorem Begins.agreeing {packet : Bytes} {c : Sessions} (begins : Begins packet c) :
    Agreeing connection (c.program .handshake) (c.program .events) c.state := by
  have early : c.state.stage = .before := by
    rw [Session.stage, begins.signs]
    rfl
  have ok : Ok connection c.state := ⟨begins.isOpen, begins.created,
    fun late => absurd early late, fun late => absurd early late⟩
  refine ⟨ok, ?_, ?_, fun _ => begins.events, fun late => ?_⟩
  · rw [begins.handshake]
    apply handshakes_response packet c.state ok ⟨early, ?_⟩
    rw [begins.signs]
    exact List.not_mem_nil
  · rw [begins.events]
    trivial
  · exact absurd (early.symm.trans late) (by decide)

theorem told_stable (known : Device → Bool) :
    (handlerContract connection).Stable (Told known) := by
  intro s t told _ _ rely
  rw [Told, Session.stored, Session.client, rely.1, rely.2]
  exact told

theorem Known.listens (known : Known connection s) (ok : Ok connection s)
    (late : s.stage = .after) : Listens connection (.ret ()) s :=
  ⟨s.stored, known.catches, Safe.ret (told_stable _) ⟨ok, late⟩ ⟨rfl, known.told⟩
    fun _ _ told => told⟩

theorem Listens.between {news : List Report} (listens : Listens connection events s)
    (ok : Ok connection s) (ok' : Ok connection t) (late : s.stage = .after)
    (memory : t.world.memory = s.world.memory) (signs : t.signs = s.signs)
    (reports : t.reports = s.reports ++ news)
    (polled : t.polled connection = replay (s.polled connection) (writes news)) :
    Listens connection events t := by
  obtain ⟨known, catches, safe⟩ := listens
  have late' : t.stage = .after := by rwa [Session.stage, signs]
  have added : writes t.reports = writes s.reports ++ writes news := by
    rw [reports, writes, List.filterMap_append]
  refine ⟨known, ?_, safe.between ⟨ok, late⟩ (.single ⟨⟨memory, signs⟩, ok', late'⟩)⟩
  rw [added, replay_append, catches, polled]

theorem Listens.still (listens : Listens connection events s) (still : Still connection s t)
    (ok : Ok connection s) (late : s.stage = .after) : Listens connection events t := by
  have reports : t.reports = s.reports ++ [] := by rw [still.reports, List.append_nil]
  exact listens.between ok (still.ok ok) late still.memory still.signs reports still.polled

theorem Still.apart (still : Still connection s t) : Apart connection s t where
  wrapper := congrArg Memory.wrapper still.memory
  welcomed := by rw [still.signs]
  stage := congrArg MuteState.stage still.signs
  stored _ := by rw [Session.stored, Session.client, still.memory]
  combined _ flag _ _ := congrFun still.selfInts flag
  told _ := ⟨[], by simp [still.reports], still.polled⟩

theorem Agreeing.still (agreeing : Agreeing connection handshake events s)
    (still : Still connection s t) : Agreeing connection handshake events t := by
  have ok := still.ok agreeing.ok
  refine ⟨ok, agreeing.handshake.between agreeing.ok (.single ⟨still.apart, ok⟩),
    agreeing.handling, fun polling => ?_, fun late => ?_⟩
  · rw [Session.stage, still.signs] at polling
    exact agreeing.waits polling
  · rw [Session.stage, still.signs] at late
    exact (agreeing.listens late).still still agreeing.ok late

theorem Agreeing.handshakes (agreeing : Agreeing connection handshake events s)
    (move : Move (sem connection 1) handshake s rest t)
    (begins : s.stage = .before → t.stage = .polling →
      events = .ret () ∧ s.Settled connection) : Agreeing connection rest events t := by
  have carefully : Move (careful connection 1) handshake s rest t := by
    cases move with
    | call step => exact .call ⟨step, fun early polling => (begins early polling).2⟩
    | unfold => exact .unfold
  have reflexive (u : Session) (_ : Ok connection u) : Proceeds connection u u :=
    Still.proceeds ⟨rfl, rfl, rfl, rfl⟩
  obtain ⟨proceeds, ok, safe⟩ := Safe.move agreeing.ok reflexive agreeing.handshake carefully
  refine ⟨ok, safe, agreeing.handling, fun polling => ?_, fun late => ?_⟩
  · cases stage : s.stage with
    | before => exact (begins stage polling).1
    | polling => exact agreeing.waits stage
    | after =>
      rw [Session.stage, (proceeds.stays stage).signs] at polling
      exact absurd (stage.symm.trans polling) (by decide)
  · by_cases stage : s.stage = .after
    · exact (agreeing.listens stage).still (proceeds.stays stage) agreeing.ok stage
    · obtain ⟨polling, known⟩ := proceeds.arrives late stage
      rw [agreeing.waits polling]
      exact known.listens ok late

theorem Agreeing.handled (agreeing : Agreeing connection handshake events s)
    (move : Move (sem connection 2) events s rest t) (idle : s.stage ≠ .polling) :
    Agreeing connection handshake rest t := by
  have moved : (Apart connection s t ∧ Ok connection t) ∧ rest.Calls Handling ∧
      t.reports = s.reports ∧ t.polled connection = s.polled connection := by
    have handling := agreeing.handling
    cases move with
    | call step =>
      have selfInts := (handling_step handling.1 step).2.1
      exact ⟨handling_apart handling.1 agreeing.ok idle step, handling.2 _,
        unreported step selfInts, polled_same selfInts⟩
    | unfold =>
      refine ⟨⟨Still.apart ⟨rfl, rfl, rfl, rfl⟩, agreeing.ok⟩, ?_, rfl, rfl⟩
      apply handling.1.bind
      intro found
      cases found with
      | none => exact handling
      | some value => exact handling.2 value
  obtain ⟨⟨apart, ok⟩, handling, reports, polled⟩ := moved
  refine ⟨ok, agreeing.handshake.between agreeing.ok (.single ⟨apart, ok⟩), handling,
    fun polling => absurd (apart.stage.symm.trans polling) idle, fun late => ?_⟩
  have late' : s.stage = .after := apart.stage.symm.trans late
  obtain ⟨known, catches, safe⟩ := agreeing.listens late'
  have inv : (handlerContract connection).inv s := ⟨agreeing.ok, late'⟩
  refine ⟨known, ?_, (Safe.move inv (fun _ _ => trivial) safe move).2.2⟩
  rw [reports, polled]
  exact catches

theorem Agreeing.next {report : Report} {reports : List Report}
    (agreeing : Agreeing connection handshake (.ret ()) s) (idle : s.stage ≠ .polling)
    (waiting : s.reports = report :: reports) :
    Agreeing connection handshake (report.handler connection) { s with reports := reports } := by
  have settled (late : s.stage ≠ .before) :
      Session.Settled { s with reports := reports } connection := by
    have all := agreeing.ok.settled late
    rw [Session.Settled, waiting] at all
    exact settled_handle all
  have ok : Ok connection { s with reports := reports } :=
    ⟨agreeing.ok.isOpen, agreeing.ok.created, agreeing.ok.handle, settled⟩
  have apart : Apart connection s { s with reports := reports } :=
    ⟨rfl, Iff.rfl, rfl, fun _ => rfl, fun _ _ _ _ => rfl, fun polling => absurd polling idle⟩
  refine ⟨ok, agreeing.handshake.between agreeing.ok (.single ⟨apart, ok⟩),
    handling_handler report, fun polling => absurd polling idle, fun late => ?_⟩
  obtain ⟨known, catches, safe⟩ := agreeing.listens late
  have told : Told known s := safe s .refl ⟨agreeing.ok, late⟩
  refine ⟨replay known report.write.toList, ?_, ?_⟩
  · rw [waiting] at catches
    rw [← replay_append]
    refine Eq.trans ?_ catches
    cases write : report.write <;> simp [writes, write]
  · exact handles_handler report known { s with reports := reports } ⟨ok, late⟩ told

theorem Agreeing.changed {report : Report} (agreeing : Agreeing connection handshake events s)
    (changes : Changes connection report s t)
    (shows : s.stage ≠ .before → (s.stage = .polling → report.Plain) ∧
      t.polled connection = replay (s.polled connection) report.write.toList) :
    Agreeing connection handshake events t := by
  have stage : t.stage = s.stage := congrArg MuteState.stage changes.signs
  have polled (late : s.stage ≠ .before) :
      t.polled connection = replay (s.polled connection) (writes [report]) := by
    rw [(shows late).2]
    cases write : report.write <;> simp [writes, write]
  have ok : Ok connection t := by
    apply agreeing.ok.moved (congrArg footing changes.memory)
    · rw [stage, Session.wrapper, changes.memory]
      exact agreeing.ok.handle
    · rw [stage]
      intro late
      rw [Session.Settled, (shows late).2, changes.reports]
      exact settled_change report (agreeing.ok.settled late)
  have apart : Apart connection s t := by
    refine ⟨congrArg Memory.wrapper changes.memory, by rw [changes.signs], stage,
      fun _ => ?_, fun polling flag input output => ?_, fun polling => ?_⟩
    · rw [Session.stored, Session.client, changes.memory]
    · have late : s.stage ≠ .before := fun early => absurd (polling.symm.trans early) (by decide)
      have other : flag ≠ report.flag := by
        rcases (shows late).1 polling with same | same <;> rw [same] <;> assumption
      rw [changes.selfInts, Function.update_of_ne other]
    · exact ⟨[report], changes.reports,
        polled fun early => absurd (polling.symm.trans early) (by decide)⟩
  refine ⟨ok, agreeing.handshake.between agreeing.ok (.single ⟨apart, ok⟩), agreeing.handling,
    fun polling => agreeing.waits (stage.symm.trans polling), fun late => ?_⟩
  have late' : s.stage = .after := stage.symm.trans late
  apply (agreeing.listens late').between agreeing.ok ok late' changes.memory changes.signs
    changes.reports
  exact polled fun early => absurd (late'.symm.trans early) (by decide)

theorem Agreeing.step {act : Act} {c d : Sessions}
    (agreeing : Agreeing connection (c.program .handshake) (c.program .events) c.state)
    (step : Step connection act c d) (careful : Careful connection act c d) :
    Agreeing connection (d.program .handshake) (d.program .events) d.state := by
  cases step with
  | turn side move =>
    cases side with
    | handshake =>
      have moved := agreeing.handshakes move careful
      simpa using moved
    | events =>
      have moved := agreeing.handled move careful
      simpa using moved
  | change changes => exact agreeing.changed changes careful
  | handle reports idle =>
    rw [idle] at agreeing
    have next := agreeing.next careful reports
    simpa using next
  | elsewhere w memory selfInts => exact agreeing.still ⟨memory, selfInts, rfl, rfl⟩

theorem Agreeing.run {c d : Sessions}
    (agreeing : Agreeing connection (c.program .handshake) (c.program .events) c.state)
    (run : ReflTransGen (fun c d => ∃ act, Step connection act c d ∧ Careful connection act c d)
      c d) : Agreeing connection (d.program .handshake) (d.program .events) d.state := by
  induction run with
  | refl => exact agreeing
  | tail _ step ih =>
    obtain ⟨act, step, careful⟩ := step
    exact ih.step step careful

end Runs

structure Done (connection : UInt64) (d : Sessions) : Prop where
  handshake : d.program .handshake = .ret ()
  events : d.program .events = .ret ()
  reports : d.state.reports = []
  welcomed : .welcomed ∈ d.state.signs
  ingame : d.state.wrapper.serverConnectionHandler = connection

structure Agrees (connection : UInt64) (s : Session) : Prop where
  microphone : ∀ self muted w, Exec (steps self (answering self)) (ts3IsInputMuted connection)
    s.world muted w → s.client.microphoneMuted = muted
  speakers : ∀ self muted w, Exec (steps self (answering self)) (ts3IsOutputMuted connection)
    s.world muted w → s.client.speakersMuted = muted
  status : ∃ packet, lastStatus s.signs = some packet ∧
    packet.microphoneMuted = s.client.microphoneMuted ∧
      packet.speakersMuted = s.client.speakersMuted

theorem wp_selfInt {self : ThreadId} {w : World} {connection : UInt64} {flag : SelfInt}
    {rest : Option Int32 → Plugin Bool} {post : Bool → World → Prop}
    (continues : ∀ u, u.teamspeak = w.teamspeak → wp (steps self (answering self))
      (rest (some ((w.teamspeak connection).selfInt flag))) post u) :
    wp (steps self (answering self))
      (teamspeak (.getClientSelfVariableAsInt connection flag) >>= rest) post w := by
  rw [wp_bind, wp_getClientSelfVariableAsInt]
  intro value answered told
  obtain ⟨value, rfl⟩ := Option.isSome_iff_exists.mp answered
  rw [told value rfl]
  exact continues _ rfl

theorem wp_inputMuted {self : ThreadId} {w : World} (connection : UInt64) :
    wp (steps self (answering self)) (ts3IsInputMuted connection)
      (fun muted _ => dumb (w.teamspeak connection) = muted) w := by
  unfold ts3IsInputMuted
  apply wp_selfInt
  intro u same
  dsimp only
  rw [wp_ite]
  split
  · rename_i disabled
    exact by simp [dumb, disabled]
  rename_i enabled
  apply wp_selfInt
  intro v same'
  rw [same]
  dsimp only
  rw [wp_ite]
  split
  · rename_i off
    exact by simp [dumb, off]
  rename_i on
  apply wp_selfInt
  intro _ _
  rw [same', same]
  exact by simp [dumb, enabled, on]

theorem wp_outputMuted {self : ThreadId} {w : World} (connection : UInt64) :
    wp (steps self (answering self)) (ts3IsOutputMuted connection)
      (fun muted _ => (w.teamspeak connection).deaf = muted) w := by
  unfold ts3IsOutputMuted
  apply wp_selfInt
  intro u same
  dsimp only
  rw [wp_ite]
  split
  · rename_i disabled
    exact by simp [Connection.deaf, disabled]
  rename_i enabled
  apply wp_selfInt
  intro _ _
  rw [same]
  exact by simp [Connection.deaf, enabled]

theorem agrees_of_told {connection : UInt64} {s : Session}
    (told : Told (s.polled connection) s) : Agrees connection s := by
  obtain ⟨same, packet, last, packed⟩ := told
  refine ⟨fun self muted w ran => ?_, fun self muted w ran => ?_, packet, last, ?_, ?_⟩
  · exact (congrFun same .microphone).trans (ran.wp (wp_inputMuted connection))
  · exact (congrFun same .speakers).trans (ran.wp (wp_outputMuted connection))
  · exact (congrFun packed .microphone).trans (congrFun same .microphone).symm
  · exact (congrFun packed .speakers).trans (congrFun same .speakers).symm

end MuteState

open MuteState in
/-- Events and polling agree when all is handled, as long as the changes are told as they show. -/
theorem muteState_agrees (connection : UInt64) (packet : Bytes) (c d : Sessions)
    (begins : Begins packet c)
    (run : ReflTransGen (fun c d => ∃ act, Step connection act c d ∧ Careful connection act c d)
      c d) (done : Done connection d) : Agrees connection d.state := by
  have agreeing := begins.agreeing.run run
  have finished : Finished connection d.state := by
    have safe := agreeing.handshake
    rw [done.handshake] at safe
    exact safe d.state .refl agreeing.ok
  have late : d.state.stage = .after := finished done.ingame done.welcomed
  obtain ⟨known, catches, safe⟩ := agreeing.listens late
  rw [done.events] at safe
  have told : Told known d.state := safe d.state .refl ⟨agreeing.ok, late⟩
  rw [done.reports, show writes [] = [] from rfl, replay_nil] at catches
  rw [catches] at told
  exact agrees_of_told told

namespace MuteState

def Alone (program : Side → Plugin Unit) (s : Session) : Side → Prop
  | .handshake => program .events = .ret () ∧ s.reports = []
  | .events => s.stage ≠ .polling

def calm (connection : UInt64) (side : Side) : Semantics Op Op.Reply Session :=
  fun op s reply t => sem connection side.id op s reply t ∧
    ∀ program, Alone program s side → Alone program t side

section Steps

variable {connection : UInt64} {side : Side} {p q : Plugin Unit} {s t : Session}

theorem steps_of_moves (moves : Moves (calm connection side) p s q t)
    (program : Side → Plugin Unit) (alone : Alone program s side) :
    ReflTransGen (fun c d => ∃ act, Step connection act c d ∧ Careful connection act c d)
      ⟨Function.update program side p, s⟩ ⟨Function.update program side q, t⟩ := by
  induction moves with
  | refl => exact .refl
  | @head p q r s t u move rest ih =>
    have moved : Move (sem connection side.id) p s q t ∧ Alone program t side := by
      cases move with
      | call step => exact ⟨.call step.1, step.2 program alone⟩
      | unfold => exact ⟨.unfold, alone⟩
    let c : Sessions := ⟨Function.update program side p, s⟩
    have first : Step connection (.turn side) c ⟨Function.update c.program side q, t⟩ :=
      .turn side (by simpa [c] using moved.1)
    have same : Function.update c.program side q = Function.update program side q :=
      Function.update_idem _ _ _
    rw [same] at first
    refine .head ⟨_, first, ?_⟩ (ih moved.2)
    cases side with
    | events => exact alone
    | handshake =>
      refine fun _ _ => ⟨?_, ?_⟩
      · have other : Side.events ≠ .handshake := by decide
        have untouched : Function.update program .handshake p .events = program .events :=
          Function.update_of_ne other _ _
        exact untouched.trans alone.1
      · rw [Session.Settled, alone.2]
        rfl

end Steps

def flags : List SelfInt :=
  [.inputHardware, .inputDeactivated, .inputMuted, .outputHardware, .outputMuted]

def replies : Replies := ⟨obliging [1, 0] .empty, connecting 1, fun _ _ => none⟩

theorem replies_within (side : Side) : replies.Within (answering side.id) := by
  refine ⟨fun call w => ?_, fun call w => ?_, fun call w => ?_, ?_⟩
  · cases call <;> trivial
  · trivial
  · trivial
  · intro call w reply w' answered
    cases answered

-- The side goes on with these replies, unless a variable changes or the events meet the poll.
def answer (side : Side) (op : Op) (s : Session) : Option (op.Reply × Session) :=
  (answerOp side.id replies op s.world).bind fun (reply, w) =>
    let t : Session := ⟨w, s.reports, signs 1 op ++ s.signs⟩
    if (flags.all fun flag => t.selfInts 1 flag = s.selfInts 1 flag) ∧
        (side = .handshake ∨ t.stage ≠ .polling) then some (reply, t) else none

theorem answer_sound (side : Side) (op : Op) (s : Session) (reply : op.Reply) (t : Session)
    (answered : answer side op s = some (reply, t)) : calm 1 side op s reply t := by
  obtain ⟨⟨told, w⟩, given, same⟩ := Option.bind_eq_some_iff.mp answered
  dsimp only at same
  split at same
  · rename_i both
    obtain ⟨rfl, rfl⟩ := Prod.mk.inj (Option.some.inj same)
    have kept (flag : SelfInt) : (w.teamspeak 1).selfInt flag = s.selfInts 1 flag := by
      have member : flag ∈ flags := by cases flag <;> decide
      simpa using List.all_eq_true.mp both.1 flag member
    refine ⟨⟨answerOp_sound (replies_within side) _ _ _ _ given, rfl, [], ⟨?_, ?_, ?_⟩, ?_⟩, ?_⟩
    · exact fun _ member => absurd member List.not_mem_nil
    · exact fun flag differs => absurd (kept flag).symm differs
    · exact List.nodup_nil
    · exact (List.append_nil _).symm
    · intro program alone
      cases side with
      | handshake => exact alone
      | events => exact both.2.resolve_left (by decide)
  · cases same

def ran (side : Side) (p : Plugin Unit) (s : Session) : Session :=
  ((runWith (answer side) 60 p s).map (·.2)).getD s

theorem moves_ran {side : Side} {p : Plugin Unit} {s : Session}
    (computed : (runWith (answer side) 60 p s).isSome = true) :
    Moves (calm 1 side) p s (.ret ()) (ran side p s) := by
  obtain ⟨⟨_, t⟩, whole⟩ := Option.isSome_iff_exists.mp computed
  have run : Exec (calm 1 side) p s () t := Exec.of_runWith (answer_sound side) whole
  have moves := run.moves .ret
  rw [Program.bind_ret] at moves
  rwa [ran, whole]

def waiting : World :=
  { World.idle with
    memory := ⟨{ Client.new 1 with client := some 0, peer := some 0, running := true, gameId := 1 },
      ⟨0, .empty, .empty⟩, ⟨.live, .live⟩⟩ }

def begun : Sessions where
  program
    | .handshake => handleHandshakeResponse okPayload
    | .events => .ret ()
  state := ⟨waiting, [], []⟩

theorem begun_begins : Begins okPayload begun := ⟨rfl, rfl, rfl, rfl, by decide, by decide⟩

def welcomed : Sessions :=
  ⟨Function.update begun.program .handshake (.ret ()),
    ran .handshake (begun.program .handshake) begun.state⟩

theorem steps_welcomed : ReflTransGen
    (fun c d => ∃ act, Step 1 act c d ∧ Careful 1 act c d) begun welcomed := by
  have moves : Moves (calm 1 .handshake) (begun.program .handshake) begun.state (.ret ())
      (ran .handshake (begun.program .handshake) begun.state) := moves_ran (by decide)
  have steps := steps_of_moves moves begun.program ⟨rfl, rfl⟩
  rwa [Function.update_eq_self] at steps

def changed (c : Sessions) (report : Report) : Sessions :=
  let t : TeamSpeak := c.state.world.teamspeak.on 1 fun connection =>
    { connection with selfInt := Function.update connection.selfInt report.flag report.value }
  ⟨c.program, ⟨c.state.world.setTeamspeak t, c.state.reports ++ [report], c.state.signs⟩⟩

theorem step_changed (c : Sessions) (report : Report) :
    Step 1 (.change report) c (changed c report) := by
  refine .change ⟨rfl, ?_, rfl, rfl⟩
  simp [Session.selfInts, TeamSpeak.on]

def handled (c : Sessions) (report : Report) : Sessions :=
  ⟨Function.update (Function.update c.program .events (report.handler 1)) .events (.ret ()),
    ran .events (report.handler 1) { c.state with reports := [] }⟩

theorem steps_handled {c : Sessions} {report : Report} (reports : c.state.reports = [report])
    (idle : c.program .events = .ret ()) (apart : c.state.stage ≠ .polling)
    (computed : (runWith (answer .events) 60 (report.handler 1)
      { c.state with reports := [] }).isSome = true) : ReflTransGen
    (fun c d => ∃ act, Step 1 act c d ∧ Careful 1 act c d) c (handled c report) := by
  have moves : Moves (calm 1 .events) (report.handler 1) { c.state with reports := [] } (.ret ())
      (ran .events (report.handler 1) { c.state with reports := [] }) := moves_ran computed
  have steps := steps_of_moves moves (Function.update c.program .events (report.handler 1)) apart
  rw [Function.update_idem] at steps
  exact .head ⟨_, .handle reports idle, apart⟩ steps

theorem one_no_nul : (0 : UInt8) ∉ [(49 : UInt8)] := by decide

theorem one_length : [(49 : UInt8)].length < 2 ^ 64 := by decide

theorem one_shown : [(49 : UInt8)] = [49] ↔ (1 : Int32) = 1 := by decide

def report (flag : SelfInt) : Report := ⟨flag, 1, ⟨⟨[49], one_length⟩, one_no_nul⟩, one_shown⟩

def muted : Sessions :=
  handled (changed welcomed (report .inputMuted)) (report .inputMuted)

def enabled : Sessions :=
  handled (changed welcomed (report .inputHardware)) (report .inputHardware)

theorem steps_muted : ReflTransGen
    (fun c d => ∃ act, Step 1 act c d ∧ Careful 1 act c d) begun muted := by
  have change : Step 1 (.change (report .inputMuted)) welcomed
      (changed welcomed (report .inputMuted)) := step_changed _ _
  have careful : Careful 1 (.change (report .inputMuted)) welcomed
      (changed welcomed (report .inputMuted)) := by
    refine fun _ => ⟨fun _ => .inl rfl, ?_⟩
    funext device
    cases device <;> decide
  exact steps_welcomed.trans (.head ⟨_, change, careful⟩
    (steps_handled (by rfl) rfl (by decide) (by decide)))

theorem steps_enabled : ReflTransGen (fun c d => ∃ act, Step 1 act c d) begun enabled := by
  have freely {c d : Sessions}
      (steps : ReflTransGen (fun c d => ∃ act, Step 1 act c d ∧ Careful 1 act c d) c d) :
      ReflTransGen (fun c d => ∃ act, Step 1 act c d) c d := by
    apply steps.lift (fun e => e)
    intro c d step
    obtain ⟨act, step, -⟩ := step
    exact ⟨act, step⟩
  have change : Step 1 (.change (report .inputHardware)) welcomed
      (changed welcomed (report .inputHardware)) := step_changed _ _
  exact (freely steps_welcomed).trans (.head ⟨_, change⟩
    (freely (steps_handled (by rfl) rfl (by decide) (by decide))))

theorem enabled_polled : (runPlugin 1 replies 60 (ts3IsInputMuted 1) enabled.state.world).map (·.1)
    = some false := by decide

end MuteState

open MuteState in
theorem muteState_agrees_muted : Agrees 1 muted.state :=
  muteState_agrees 1 okPayload begun muted begun_begins steps_muted
    ⟨rfl, rfl, by decide, by decide, by decide⟩

open MuteState in
-- The input hardware is enabled in game, which is reported and not looked at.
theorem muteState_differs : ¬ ∀ (connection : UInt64) (packet : Bytes) (c d : Sessions),
    Begins packet c → ReflTransGen (fun c d => ∃ act, Step connection act c d) c d →
      Done connection d → Agrees connection d.state := by
  intro claimed
  have agrees := claimed 1 okPayload begun enabled begun_begins steps_enabled
    ⟨rfl, rfl, by decide, by decide, by decide⟩
  have unmuted := agrees.microphone 1 false _
    (exec_ranPlugin (replies_within .handshake) enabled_polled)
  revert unmuted
  decide

end JustAnotherVoiceChat
