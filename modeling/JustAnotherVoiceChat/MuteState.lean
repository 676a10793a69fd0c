import JustAnotherVoiceChat.Disconnecting
import JustAnotherVoiceChat.OutputMute
import JustAnotherVoiceChat.Plugin
import JustAnotherVoiceChat.Quiet
import JustAnotherVoiceChat.Library.Replay

set_option autoImplicit false

namespace JustAnotherVoiceChat

open Binary Interaction Relation Replay

namespace MuteState

inductive Device where
  | microphone
  | speakers
deriving DecidableEq

def dumb (c : Connection) : Bool :=
  c.selfInt .inputHardware = 0 || c.selfInt .inputDeactivated = 1 || c.selfInt .inputMuted = 1

def polled (c : Connection) : Device → Bool
  | .microphone => dumb c
  | .speakers => c.deaf

def stored (c : Client) : Device → Bool
  | .microphone => c.microphoneMuted
  | .speakers => c.speakersMuted

def packed (packet : StatusPacket) : Device → Bool
  | .microphone => packet.microphoneMuted
  | .speakers => packet.speakersMuted

structure Report where
  flag : SelfInt
  value : Int32
  newValue : CString
  shown : newValue.text.items = [49] ↔ value = 1

def Report.write (report : Report) : Option (Device × Bool) :=
  match report.flag with
  | .inputMuted => some (.microphone, report.value = 1)
  | .outputMuted => some (.speakers, report.value = 1)
  | .inputHardware | .inputDeactivated | .outputHardware => none

abbrev writes (reports : List Report) : List (Device × Bool) := reports.filterMap Report.write

-- Every variable that differs is reported once, with its new value.
structure Reported (before after : SelfInt → Int32) (news : List Report) : Prop where
  changed : ∀ report ∈ news,
    before report.flag ≠ report.value ∧ after report.flag = report.value
  complete : ∀ flag, before flag ≠ after flag → ∃ report ∈ news, report.flag = flag
  once : (news.map Report.flag).Nodup

theorem Reported.nothing {before after : SelfInt → Int32} {news : List Report}
    (reported : Reported before after news) (same : after = before) : news = [] := by
  rw [List.eq_nil_iff_forall_not_mem]
  intro report member
  obtain ⟨differs, now⟩ := reported.changed report member
  rw [same] at now
  exact differs now

inductive Sign where
  | welcomed
  | polled
  | status (packet : StatusPacket)
deriving DecidableEq

inductive Stage where
  | before
  | polling
  | after
deriving DecidableEq

-- From the newest sign on: the handshake polls up to its status packet.
def stage : List Sign → Stage
  | [] => .before
  | .welcomed :: older => stage older
  | .polled :: _ => .polling
  | .status _ :: older => if stage older = .before then .before else .after

def lastStatus : List Sign → Option StatusPacket
  | [] => none
  | .status packet :: _ => some packet
  | .welcomed :: older | .polled :: older => lastStatus older

def signs (connection : UInt64) : Op → List Sign
  | .external (.teamspeak (.getClientSelfVariableAsInt handle .inputHardware)) =>
    if handle = connection then [.polled] else []
  | .external (.enet (.peerSend _ _ (.handshake packet) _)) =>
    if packet.statusCode = statusCodeOk then [.welcomed] else []
  | .external (.enet (.peerSend _ _ (.status packet) _)) => [.status packet]
  | _ => []

structure Session where
  world : World
  reports : List Report
  signs : List Sign

namespace Session

abbrev client (s : Session) : Client := s.world.memory.client

abbrev wrapper (s : Session) : Wrapper := s.world.memory.wrapper

abbrev stage (s : Session) : Stage := MuteState.stage s.signs

abbrev selfInts (s : Session) (connection : UInt64) : SelfInt → Int32 :=
  (s.world.teamspeak connection).selfInt

abbrev polled (s : Session) (connection : UInt64) : Device → Bool :=
  MuteState.polled (s.world.teamspeak connection)

abbrev stored (s : Session) : Device → Bool := MuteState.stored s.client

end Session

def answering (self : ThreadId) : Environment where
  answers
    | .teamspeak (.getClientSelfVariableAsInt _ _), _, reply => reply.isSome = true
    | _, _, _ => True
  threading := (Environment.joining self).threading

def sem (connection : UInt64) (self : ThreadId) : Semantics Op Op.Reply Session :=
  fun op s reply t => steps self (answering self) op s.world reply t.world ∧
    t.signs = signs connection op ++ s.signs ∧
    ∃ news, Reported (s.selfInts connection) (t.selfInts connection) news ∧
      t.reports = s.reports ++ news

inductive Side where
  | handshake
  | events
deriving DecidableEq

def Side.id : Side → ThreadId
  | .handshake => 1
  | .events => 2

abbrev Sessions := Config Op Op.Reply Session Side

def Report.handler (report : Report) (connection : UInt64) : Plugin Unit :=
  ts3pluginOnClientSelfVariableUpdateEvent connection (.int report.flag) report.newValue

structure Begins (packet : Bytes) (c : Sessions) : Prop where
  handshake : c.program .handshake = handleHandshakeResponse packet
  events : c.program .events = .ret ()
  reports : c.state.reports = []
  signs : c.state.signs = []
  isOpen : c.state.client.IsOpen
  created : c.state.world.memory.globals.client ≠ .null

inductive Act where
  | turn (side : Side)
  | change (report : Report)
  | handle
  | elsewhere

structure Changes (connection : UInt64) (report : Report) (s t : Session) : Prop where
  memory : t.world.memory = s.world.memory
  selfInts : t.selfInts connection =
    Function.update (s.selfInts connection) report.flag report.value
  reports : t.reports = s.reports ++ [report]
  signs : t.signs = s.signs

inductive Step (connection : UInt64) : Act → Sessions → Sessions → Prop where
  | turn {c : Sessions} (side : Side) {rest : Plugin Unit} {t : Session}
      (move : Move (sem connection side.id) (c.program side) c.state rest t) :
      Step connection (.turn side) c ⟨Function.update c.program side rest, t⟩
  | change {c : Sessions} {report : Report} {t : Session}
      (changes : Changes connection report c.state t) :
      Step connection (.change report) c ⟨c.program, t⟩
  | handle {c : Sessions} {report : Report} {rest : List Report}
      (reports : c.state.reports = report :: rest) (idle : c.program .events = .ret ()) :
      Step connection .handle c
        ⟨Function.update c.program .events (report.handler connection),
          { c.state with reports := rest }⟩
  | elsewhere {c : Sessions} (w : World) (memory : w.memory = c.state.world.memory)
      (selfInts : (w.teamspeak connection).selfInt = c.state.selfInts connection) :
      Step connection .elsewhere c ⟨c.program, { c.state with world := w }⟩

def Session.Settled (s : Session) (connection : UInt64) : Prop :=
  Replay.Settled (s.polled connection) (writes s.reports)

def Report.Plain (report : Report) : Prop :=
  report.flag = .inputMuted ∨ report.flag = .outputMuted

-- From the first question of the handshake for the initial status on, the changes show in what is
-- polled exactly as they are reported; up to the status packet no report is handled.
def Careful (connection : UInt64) : Act → Sessions → Sessions → Prop
  | .turn .handshake, c, d => c.state.stage = .before → d.state.stage = .polling →
    c.program .events = .ret () ∧ c.state.Settled connection
  | .turn .events, c, _ | .handle, c, _ => c.state.stage ≠ .polling
  | .change report, c, d => c.state.stage ≠ .before →
    (c.state.stage = .polling → report.Plain) ∧
      d.state.polled connection = replay (c.state.polled connection) report.write.toList
  | .elsewhere, _, _ => True

section Steps

variable {connection : UInt64}

@[simp] theorem writes_append (reports : List Report) (report : Report) :
    writes (reports ++ [report]) = writes reports ++ report.write.toList := by
  cases write : report.write <;> simp [writes, write]

theorem settled_change {known : Device → Bool} {reports : List Report} (report : Report)
    (settled : Replay.Settled known (writes reports)) :
    Replay.Settled (replay known report.write.toList) (writes (reports ++ [report])) := by
  rw [writes_append]
  cases report.write with
  | none => simpa using settled
  | some write => exact settled.snoc write

theorem settled_handle {known : Device → Bool} {report : Report} {reports : List Report}
    (settled : Replay.Settled known (writes (report :: reports))) :
    Replay.Settled known (writes reports) := by
  cases write : report.write with
  | none => simpa [writes, write] using settled
  | some w =>
    have first : writes (report :: reports) = w :: writes reports := by simp [writes, write]
    rw [first] at settled
    exact settled.tail

structure Ok (connection : UInt64) (s : Session) : Prop where
  isOpen : s.client.IsOpen
  created : s.world.memory.globals.client ≠ .null
  handle : s.stage ≠ .before → s.wrapper.serverConnectionHandler = connection
  settled : s.stage ≠ .before → s.Settled connection

structure Apart (connection : UInt64) (s t : Session) : Prop where
  wrapper : t.wrapper = s.wrapper
  welcomed : .welcomed ∈ t.signs ↔ .welcomed ∈ s.signs
  stage : t.stage = s.stage
  stored : s.stage = .polling → t.stored = s.stored
  combined : s.stage = .polling → ∀ flag, flag ≠ .inputMuted → flag ≠ .outputMuted →
    t.selfInts connection flag = s.selfInts connection flag
  told : s.stage = .polling → ∃ news, t.reports = s.reports ++ news ∧
    t.polled connection = replay (s.polled connection) (writes news)

-- The client will know what is polled, and has told it as far as it knows.
structure Known (connection : UInt64) (s : Session) : Prop where
  catches : replay s.stored (writes s.reports) = s.polled connection
  told : ∃ packet, lastStatus s.signs = some packet ∧ packed packet = s.stored

structure Still (connection : UInt64) (s t : Session) : Prop where
  memory : t.world.memory = s.world.memory
  selfInts : t.selfInts connection = s.selfInts connection
  reports : t.reports = s.reports
  signs : t.signs = s.signs

structure Proceeds (connection : UInt64) (s t : Session) : Prop where
  left : s.stage = .polling → t.stage ≠ .before
  stays : s.stage = .after → Still connection s t
  arrives : t.stage = .after → s.stage ≠ .after → s.stage = .polling ∧ Known connection t

def Finished (connection : UInt64) (s : Session) : Prop :=
  s.wrapper.serverConnectionHandler = connection → .welcomed ∈ s.signs → s.stage = .after

def careful (connection : UInt64) (self : ThreadId) : Semantics Op Op.Reply Session :=
  fun op s reply t => sem connection self op s reply t ∧
    (s.stage = .before → t.stage = .polling → s.Settled connection)

abbrev contract (connection : UInt64) : Contract Session :=
  ⟨Ok connection, Apart connection, Proceeds connection⟩

abbrev Handshakes {α : Type} (connection : UInt64) (pre : Session → Prop) (p : Plugin α)
    (post : α → Session → Prop) : Prop :=
  Triple (careful connection 1) (contract connection) pre p post

end Steps

def footing (m : Memory) : Option HostId × Option PeerId × Bool × Pointer :=
  (m.client.client, m.client.peer, m.client.running, m.globals.client)

def bound (m : Memory) : (Option HostId × Option PeerId × Bool × Pointer) × UInt64 :=
  (footing m, m.wrapper.serverConnectionHandler)

abbrev Quiet {α : Type} (part : Memory → α) (connection : UInt64) : Op → Prop :=
  Op.Quiet (fun call => signs connection (.external call) = []) part

section Calls

variable {connection handle : UInt64} {self : ThreadId} {op : Op} {reply : op.Reply}
  {s t : Session}

theorem quiet_step {α : Type} {part : Memory → α} (quiet : Quiet part connection op)
    (step : sem connection self op s reply t) :
    part t.world.memory = part s.world.memory ∧ t.signs = s.signs := by
  refine ⟨quiet.kept step.1, ?_⟩
  have signs : t.signs = signs connection op ++ s.signs := step.2.1
  cases op with
  | load | sleep | store => exact signs
  | thread => cases quiet
  | external call => rwa [show MuteState.signs connection (.external call) = [] from quiet] at signs

theorem unreported (step : sem connection self op s reply t)
    (same : t.selfInts connection = s.selfInts connection) : t.reports = s.reports := by
  obtain ⟨-, -, news, reported, reports⟩ := step
  rw [reports, reported.nothing same, List.append_nil]

theorem polled_same (same : t.selfInts connection = s.selfInts connection) :
    t.polled connection = s.polled connection := by
  funext device
  cases device <;> simp [MuteState.polled, dumb, Connection.deaf, same]

theorem Ok.moved (ok : Ok connection s) (footing : footing t.world.memory = footing s.world.memory)
    (handle : t.stage ≠ .before → t.wrapper.serverConnectionHandler = connection)
    (settled : t.stage ≠ .before → t.Settled connection) : Ok connection t := by
  simp only [MuteState.footing, Prod.mk.injEq] at footing
  obtain ⟨client, peer, running, created⟩ := footing
  refine ⟨?_, ?_, handle, settled⟩
  · have isOpen := ok.isOpen
    rwa [Client.IsOpen, ← client, ← peer, ← running] at isOpen
  · rw [created]
    exact ok.created

theorem Ok.early (ok : Ok connection s) (footing : footing t.world.memory = footing s.world.memory)
    (early : t.stage = .before) : Ok connection t :=
  ok.moved footing (fun late => absurd early late) fun late => absurd early late

theorem Ok.kept (ok : Ok connection s) (footing : footing t.world.memory = footing s.world.memory)
    (wrapper : t.wrapper = s.wrapper) (reports : t.reports = s.reports)
    (selfInts : t.selfInts connection = s.selfInts connection)
    (late : t.stage ≠ .before → s.stage ≠ .before) : Ok connection t := by
  apply ok.moved footing
  · intro later
    rw [wrapper]
    exact ok.handle (late later)
  · intro later
    rw [Session.Settled, reports, polled_same selfInts]
    exact ok.settled (late later)

theorem Proceeds.early (before : s.stage = .before) (after : t.stage = .before) :
    Proceeds connection s t where
  left polling := absurd (before.symm.trans polling) (by decide)
  stays late := absurd (before.symm.trans late) (by decide)
  arrives late := absurd (after.symm.trans late) (by decide)

def Unwelcome (s : Session) : Prop := s.stage = .before ∧ .welcomed ∉ s.signs

def Found (handle : UInt64) (s : Session) : Prop :=
  Unwelcome s ∧ s.wrapper.serverConnectionHandler = handle

theorem unwelcome_stable : (contract connection).Stable Unwelcome := by
  intro s t unwelcome _ _ apart
  exact ⟨apart.stage.trans unwelcome.1, mt apart.welcomed.mp unwelcome.2⟩

theorem found_stable : (contract connection).Stable (Found handle) := by
  intro s t found ok ok' apart
  refine ⟨unwelcome_stable s t found.1 ok ok' apart, ?_⟩
  rw [apart.wrapper]
  exact found.2

section Quiet

variable {α : Type} {p : Plugin α}

theorem handshakes_quiet (calls : p.Calls (Quiet footing connection)) :
    Handshakes connection Unwelcome p (fun _ => Unwelcome) := by
  apply Triple.of_calls unwelcome_stable calls
  intro op s reply t quiet ok unwelcome step
  obtain ⟨kept, signs⟩ := quiet_step quiet step.1
  have early : t.stage = .before := by
    rw [Session.stage, signs]
    exact unwelcome.1
  refine ⟨.early unwelcome.1 early, ok.early kept early, early, ?_⟩
  rw [signs]
  exact unwelcome.2

theorem handshakes_found (calls : p.Calls (Quiet bound connection)) :
    Handshakes connection (Found handle) p (fun _ => Found handle) := by
  apply Triple.of_calls found_stable calls
  intro op s reply t quiet ok found step
  obtain ⟨kept, signs⟩ := quiet_step quiet step.1
  have early : t.stage = .before := by
    rw [Session.stage, signs]
    exact found.1.1
  refine ⟨.early found.1.1 early, ok.early (congrArg Prod.fst kept) early, ⟨early, ?_⟩, ?_⟩
  · rw [signs]
    exact found.1.2
  · exact (congrArg Prod.snd kept).trans found.2

end Quiet

theorem unsigned {topics : List Topic} (unread : .readInt ∉ topics) (call : TeamSpeakCall)
    (about : call.topic ∈ topics) : signs connection (.external (.teamspeak call)) = [] := by
  cases call with
  | getClientSelfVariableAsInt => exact absurd about unread
  | _ => rfl

theorem quiet_verifyServer (uniqueIdentifier : StdString) :
    (ts3VerifyServer uniqueIdentifier).Calls (Quiet footing connection) := by
  apply quiet_of_on (ts3VerifyServer_on uniqueIdentifier) (unsigned (by decide))
  intro m m' same
  simp only [apartFromHandler, Memory.mk.injEq] at same
  rw [footing, footing, same.1, same.2.2]

theorem quiet_muteClient (id : AnyID) (mute : Bool) :
    (ts3MuteClient id mute).Calls (Quiet bound connection) := by
  apply quiet_of_on (ts3MuteClients_on _ mute) (unsigned (by decide))
  intro m m' same
  simp only [apartFromMuted, Memory.mk.injEq, Wrapper.mk.injEq] at same
  rw [bound, bound, footing, footing, same.1, same.2.1.1, same.2.2]

theorem unsigned_handshake {statusCode : Int32} (failed : statusCode ≠ statusCodeOk)
    (peer : Option PeerId) (packet : HandshakePacket) (status : packet.statusCode = statusCode) :
    signs connection
      (.external (.enet (.peerSend peer networkHandshakeChannel (.handshake packet) true))) = [] :=
  if_neg (status ▸ failed)

end Calls

end MuteState

end JustAnotherVoiceChat
