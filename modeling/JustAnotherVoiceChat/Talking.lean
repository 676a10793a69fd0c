import JustAnotherVoiceChat.Disconnecting
import JustAnotherVoiceChat.Library.Section
import JustAnotherVoiceChat.Ingame
import JustAnotherVoiceChat.Lifetime

set_option autoImplicit false

namespace JustAnotherVoiceChat

open Binary Interaction Relation

inductive Sign where
  | talk (talking : Bool)
  | status (packet : StatusPacket)
deriving DecidableEq

-- From the newest sign on; nobody talks before the first report.
def lastTalk : List Sign → Bool
  | [] => false
  | .talk talking :: _ => talking
  | .status _ :: older => lastTalk older

def StatusOk (older : List Sign) (sign : Sign) : Prop :=
  ∀ packet, sign = .status packet → packet.talking = lastTalk older

def External.sign : External → Option Sign
  | .enet (.peerSend _ _ (.status packet) _) => some (.status packet)
  | _ => none

def Entry.sign (e : Entry) : Option Sign := e.call.sign

def Op.signs : Op → List Sign
  | .external call => call.sign.toList
  | _ => []

structure Speech where
  world : World
  signs : List Sign

abbrev Speech.client (s : Speech) : Client := s.world.memory.client

def Speech.sem (self : ThreadId) : Semantics Op Op.Reply Speech := fun op s reply t =>
  steps self (.joining self) op s.world reply t.world ∧ t.signs = op.signs ++ s.signs

theorem signs_of_step {self : ThreadId} {op : Op} {reply : op.Reply} {u v : World}
    (step : steps self (.joining self) op u reply v) :
    ∃ entries, v.trace = entries ++ u.trace ∧ entries.filterMap Entry.sign = op.signs := by
  cases op with
  | load =>
    obtain ⟨-, rfl⟩ := step
    exact ⟨[], rfl, rfl⟩
  | sleep | store =>
    obtain rfl : v = _ := step
    exact ⟨[], rfl, rfl⟩
  | thread call =>
    rcases trace_of_step step with same | ⟨call, told, other, -⟩
    · exact ⟨[], same, rfl⟩
    · cases other
  | external call =>
    obtain ⟨-, x, stepped, rfl⟩ := step
    refine ⟨[⟨self, call, reply⟩], congrArg (_ :: ·) stepped.frame.2.2, ?_⟩
    cases sign : call.sign with
    | none => simp [Entry.sign, Op.signs, sign]
    | some sign' => simp [Entry.sign, Op.signs, sign]

theorem Exec.project {self : ThreadId} {α : Type} {p : Plugin α} {s t : Speech} {value : α}
    (run : Exec (Speech.sem self) p s value t) :
    Exec (steps self (.joining self)) p s.world value t.world ∧
      ∃ entries, t.world.trace = entries ++ s.world.trace ∧
        t.signs = entries.filterMap Entry.sign ++ s.signs := by
  have joined {s u t : Speech} {first second : List Entry}
      (trace : u.world.trace = first ++ s.world.trace)
      (signs : u.signs = first.filterMap Entry.sign ++ s.signs)
      (trace' : t.world.trace = second ++ u.world.trace)
      (signs' : t.signs = second.filterMap Entry.sign ++ u.signs) :
      ∃ entries, t.world.trace = entries ++ s.world.trace ∧
        t.signs = entries.filterMap Entry.sign ++ s.signs := by
    refine ⟨second ++ first, ?_, ?_⟩
    · rw [trace', trace, List.append_assoc]
    · rw [signs', signs, List.filterMap_append, List.append_assoc]
  induction run with
  | ret => exact ⟨.ret, [], rfl, rfl⟩
  | call step _ ih =>
    obtain ⟨moved, signs⟩ := step
    obtain ⟨entries, trace, same⟩ := signs_of_step moved
    obtain ⟨rest, more, trace', signs'⟩ := ih
    exact ⟨.call moved rest, joined trace (by rw [signs, same]) trace' signs'⟩
  | again _ _ ihRound ihRest =>
    obtain ⟨round, first, trace, signs⟩ := ihRound
    obtain ⟨rest, more, trace', signs'⟩ := ihRest
    exact ⟨.again round rest, joined trace signs trace' signs'⟩
  | leave _ _ ihRound ihRest =>
    obtain ⟨round, first, trace, signs⟩ := ihRound
    obtain ⟨rest, more, trace', signs'⟩ := ihRest
    exact ⟨.leave round rest, joined trace signs trace' signs'⟩

def Speech.Ok (s : Speech) : Prop :=
  s.client.talking = lastTalk s.signs ∧ Trace.Lawful StatusOk s.signs

def Speech.Same (s t : Speech) : Prop := t.client.talking = s.client.talking

def Op.Still : Op → Prop
  | .store update => ∀ m, (update m).client.talking = m.client.talking
  | .external call => call.sign = none
  | .load | .thread _ | .sleep _ => True

section Programs

variable {self : ThreadId} {op : Op} {reply : op.Reply} {s t : Speech} {α : Type} {p : Plugin α}

theorem still_step (still : op.Still) (step : Speech.sem self op s reply t) :
    s.Same t ∧ t.signs = s.signs := by
  obtain ⟨moved, signs⟩ := step
  cases op with
  | load =>
    obtain ⟨-, same⟩ := moved
    exact ⟨by rw [Speech.Same, Speech.client, same], signs⟩
  | sleep milliseconds =>
    have same : t.world = s.world := moved
    exact ⟨by rw [Speech.Same, Speech.client, same], signs⟩
  | store update =>
    have same : t.world = _ := moved
    refine ⟨?_, signs⟩
    rw [Speech.Same, Speech.client, same]
    exact still s.world.memory
  | external call =>
    obtain ⟨-, x, stepped, same⟩ := moved
    refine ⟨?_, ?_⟩
    · rw [Speech.Same, Speech.client, same, World.record_memory, stepped.frame.1]
    · rw [signs, Op.signs, show call.sign = none from still]
      rfl
  | thread call =>
    refine ⟨?_, signs⟩
    obtain ⟨phase, same⟩ := phase_of_threading moved
    rw [Speech.Same, Speech.client, same]

theorem still_keeps (still : op.Still) (ok : s.Ok) (step : Speech.sem self op s reply t) :
    s.Same t ∧ t.Ok := by
  obtain ⟨same, signs⟩ := still_step still step
  refine ⟨same, ?_, ?_⟩
  · rw [same, signs]
    exact ok.1
  · rw [signs]
    exact ok.2

abbrev Speaks (self : ThreadId) (pre : Speech → Prop) (p : Plugin α)
    (post : α → Speech → Prop) : Prop :=
  Triple (Speech.sem self) (.shared Speech.Ok Speech.Same) pre p post

theorem said_stable (talking : Bool) :
    (Contract.shared Speech.Ok Speech.Same).Stable fun s => talking = s.client.talking :=
  fun _ _ holds _ _ same => holds.trans same.symm

theorem speaks_still {talking : Bool} (calls : p.Calls Op.Still) :
    Speaks self (fun s => talking = s.client.talking) p
      (fun _ s => talking = s.client.talking) := by
  apply Triple.of_calls (said_stable talking) calls
  intro op s reply t still ok holds step
  obtain ⟨same, ok'⟩ := still_keeps still ok step
  exact ⟨same, ok', holds.trans same.symm⟩

theorem client_still : client.Calls Op.Still := ⟨trivial, fun _ => trivial⟩

theorem speaks_load : Speaks self (fun _ => True) load
    (fun m s => m.client.talking = s.client.talking) := by
  have after (m : Memory) := said_stable m.client.talking
  apply Triple.perform (fun _ _ _ _ _ _ => trivial) after
  intro s m t ok _ step
  have still : Op.Still .load := trivial
  obtain ⟨same, ok'⟩ := still_keeps still ok step
  obtain ⟨⟨rfl, -⟩, -⟩ := step
  exact ⟨same, ok', same.symm⟩

theorem speaks_status (peer : Option PeerId) (channelID : UInt8) (packet : StatusPacket)
    (reliable : Bool) : @Triple _ _ _ Unit (Speech.sem self) (.shared Speech.Ok Speech.Same)
      (fun s => packet.talking = s.client.talking)
      (enet (.peerSend peer channelID (.status packet) reliable)) (fun _ _ => True) := by
  apply Triple.perform (said_stable packet.talking) fun _ _ _ _ _ _ _ => trivial
  intro s _ t ok holds step
  obtain ⟨⟨-, x, stepped, same⟩, signs⟩ := step
  have kept : s.Same t := by
    rw [Speech.Same, Speech.client, same, World.record_memory, stepped.frame.1]
  refine ⟨kept, ⟨?_, ?_⟩, trivial⟩
  · rw [kept, signs]
    exact ok.1
  · rw [signs]
    refine ⟨?_, ok.2⟩
    rintro _ ⟨⟩
    exact holds.trans ok.1

theorem speaks_client : Speaks self (fun _ => True) client
    (fun c s => c.talking = s.client.talking) :=
  speaks_load.bind fun m => Triple.pure (said_stable m.client.talking) fun _ _ holds => holds

theorem speaks_sendStatus : Speaks self (fun _ => True) sendStatus (fun _ _ => True) := by
  unfold sendStatus sendPacket
  apply speaks_client.bind
  intro first
  apply (speaks_still client_still).bind
  intro second
  apply (speaks_still client_still).bind
  intro third
  dsimp only
  split
  · exact Triple.pure (said_stable first.talking) fun _ _ _ => trivial
  · apply (speaks_still client_still).bind
    intro last
    exact speaks_status last.peer networkStatusChannel
      ⟨first.talking, second.microphoneMuted, third.speakersMuted⟩ true

end Programs

abbrev Spoken {α : Type} (p : Plugin α) : Prop := Composed Op.Still (· = sendStatus) p

section Spoken

variable {α : Type} {p : Plugin α}

theorem Op.OfWrapper.still {op : Op} (ofWrapper : op.OfWrapper) : op.Still := by
  apply ofWrapper.elim trivial fun _ => trivial
  · intro update same m
    rw [same m]
  · exact fun _ => rfl

theorem spoken_ofWrapper (calls : p.Calls Op.OfWrapper) : Spoken p :=
  .of_calls (calls.mono fun _ => Op.OfWrapper.still)

theorem spoken_setClient {update : Client → Client} (same : ∀ c, (update c).talking = c.talking) :
    Spoken (setClient update) := .of_calls ⟨fun m => same m.client, fun _ => trivial⟩

theorem spoken_enet (call : EnetCall) (plain : call.Plain) : Spoken (enet call) := by
  refine .of_calls ⟨?_, fun _ => trivial⟩
  cases call with
  | peerSend peer channelID packet reliable =>
    cases packet with
    | protocol | handshake => rfl
    | status => cases plain
  | _ => rfl

theorem spoken_thread (call : ThreadCall) : Spoken (thread call) :=
  .of_calls ⟨trivial, fun _ => trivial⟩

theorem spoken_parts : PartPrograms (fun {_} p => Spoken p) :=
  .of_wrapper Composed.bind spoken_ofWrapper

theorem spoken_abortThread : Spoken abortThread :=
  spoken_parts.abortThread (fun call _ _ => spoken_thread call) (spoken_setClient fun _ => rfl)
    (spoken_setClient fun _ => rfl)

theorem spoken_handlers : HandlerPrograms (fun {_} p => Spoken p) where
  toPartPrograms := spoken_parts
  setClient same := spoken_setClient fun c => (unhandled_fields (same c)).2
  sendHandshake := spoken_parts.sendHandshake (spoken_ofWrapper ts3GetClientIdentity_calls)
    fun _ => spoken_parts.sendPacket fun _ => spoken_enet _ trivial
  sendStatus := .of_part rfl

theorem spoken_lasting {update : Client → Client} (same : ∀ c, lasting (update c) = lasting c) :
    Spoken (setClient update) :=
  spoken_setClient fun c => congrArg (·.2.1) (same c)

theorem spoken_programs : ClientPrograms (fun {_} p => Spoken p) where
  toPartPrograms := spoken_parts
  enet := spoken_enet
  setClient tame := spoken_lasting tame.lasting
  await := Composed.repeatUntil
  loop := Composed.repeatUntil
  abortThread := spoken_abortThread
  handshakeResponse := spoken_handlers.handshakeResponse
  reset := spoken_parts.resetTeamspeak (spoken_setClient fun _ => rfl)

theorem spoken_startUpdate (host : StdString) (port uniqueIdentifier : UInt16) :
    Spoken (startUpdate host port uniqueIdentifier) :=
  spoken_parts.startUpdate spoken_abortThread (spoken_thread .spawn) spoken_lasting _ _ _

theorem spoken_load : Spoken load := .of_calls ⟨trivial, fun _ => trivial⟩

theorem spoken_object (call : ObjectCall) : Spoken (object call) := .call rfl fun _ => .ret ()

theorem spoken_clientIsOpen : Spoken clientIsOpen := spoken_parts.clientIsOpen spoken_object

theorem spoken_useClient {method : Plugin Unit} (spoken : Spoken method) :
    Spoken (useClient method) :=
  spoken_load.bind fun _ => .call rfl fun _ => spoken

theorem spoken_sendStatus : Spoken sendStatus := .of_part rfl

theorem spoken_openMethod {update : Client → Client}
    (same : ∀ c, (update c).talking = c.talking) : Spoken (do
      if !(← clientIsOpen) then
        return ()
      useClient do
        setClient update
        sendStatus) := by
  apply spoken_clientIsOpen.bind
  intro isOpen
  split
  · exact .ret _
  · exact spoken_useClient ((spoken_setClient same).bind fun _ => spoken_sendStatus)

theorem spoken_selfVariable (handle : UInt64) (flag : SelfVariable) (newValue : CString) :
    Spoken (ts3pluginOnClientSelfVariableUpdateEvent handle flag newValue) := by
  unfold ts3pluginOnClientSelfVariableUpdateEvent
  apply (spoken_ofWrapper ts3ServerConnectionHandle_calls).bind
  intro own
  dsimp only
  split
  · exact .ret _
  split
  · exact spoken_openMethod fun _ => rfl
  · exact spoken_openMethod fun _ => rfl
  · exact .ret _

end Spoken

structure TalkEvent where
  handle : UInt64
  status : TalkStatus
  clientID : AnyID

def TalkEvent.talking (event : TalkEvent) : Bool := event.status = .talking

def TalkEvent.program (event : TalkEvent) : Plugin Unit :=
  ts3pluginOnTalkStatusChangeEvent event.handle event.status event.clientID

-- The handler up to the new talk status, and whether it comes so far.
def TalkEvent.store (event : TalkEvent) : Plugin Bool := do
  if event.handle ≠ (← ts3ServerConnectionHandle) then
    return false
  let ownId ← ts3ClientId event.handle
  if event.clientID ≠ ownId then
    return false
  if !(← clientIsOpen) then
    return false
  object (.use .client (← load).globals.client)
  setClient fun c => { c with talking := event.talking }
  return true

def TalkEvent.finish (stored : Bool) : Plugin Unit :=
  if stored then sendStatus else return ()

theorem talkEvent_program (event : TalkEvent) :
    event.program = event.store >>= TalkEvent.finish := by
  have ends (p : Plugin Bool) (c : Prop) [Decidable c] :
      (if c then (do return false) else p : Plugin Bool) >>= TalkEvent.finish =
        if c then (do return ()) else p >>= TalkEvent.finish := by
    split <;> rfl
  unfold TalkEvent.program TalkEvent.store ts3pluginOnTalkStatusChangeEvent
    justAnotherVoiceChatUpdateTalking useClient setTalking
  simp only [bind_assoc, ends]
  rfl

def TalkEvent.Own (event : TalkEvent) (connection : UInt64) (w : World) : Prop :=
  event.handle = connection ∧ event.clientID = (w.teamspeak connection).ownId

def TalkEvent.Passes (event : TalkEvent) (w : World) (entries : List Entry) : Prop :=
  event.handle = w.memory.wrapper.serverConnectionHandler ∧
    event.clientID = firstOwnId event.handle entries ∧
      w.memory.globals.client ≠ .null ∧ w.memory.client.IsOpen

structure Stored (event : TalkEvent) (stored : Bool) (w u : World) (entries : List Entry) :
    Prop where
  trace : u.trace = entries ++ w.trace
  unsigned : entries.filterMap Entry.sign = []
  passes : stored = true ↔ event.Passes w entries
  talking : u.memory.client.talking =
    if stored then event.talking else w.memory.client.talking

theorem spoken_finish (stored : Bool) : Spoken (TalkEvent.finish stored) := by
  cases stored with
  | false => exact .ret _
  | true => exact spoken_sendStatus

section Events

variable {self : ThreadId} {env : Environment} {w : World}

theorem only_unsigned {topics : List Topic} {entries : List Entry}
    (only : Only topics self entries) : entries.filterMap Entry.sign = [] := by
  rw [List.filterMap_eq_nil_iff]
  refine only.elim ?_
  intro _ _ _
  rfl

theorem wp_store (event : TalkEvent) : wp (steps self env) event.store
    (fun stored u => ∃ entries, Stored event stored w u entries) w := by
  unfold TalkEvent.store clientIsOpen ts3ServerConnectionHandle
  simp only [wp_bind, wp_wrapper, wp_ite, Program.pure_eq, wp_ret]
  split
  · rename_i elsewhere
    have dropped (passes : event.Passes w []) : false = true := absurd passes.1 elsewhere
    exact ⟨[], rfl, rfl, ⟨Bool.noConfusion, dropped⟩, rfl⟩
  rename_i here
  apply wp_mono ?_ (wp_and (wp_firstOwnId event.handle) (wp_identify event.handle))
  rintro id _ ⟨⟨-, answers, rfl, first⟩, answers', same, only, -⟩
  obtain rfl : answers = answers' :=
    List.append_cancel_right (congrArg World.trace same)
  have unsigned : answers.filterMap Entry.sign = [] := only_unsigned only
  split
  · rename_i other
    have dropped (passes : event.Passes w answers) : false = true :=
      absurd (passes.2.1.trans (first [])) other
    exact ⟨answers, rfl, unsigned, ⟨Bool.noConfusion, dropped⟩, rfl⟩
  rename_i own
  simp only [wp_load]
  change if w.memory.globals.client = .null then _ else _
  by_cases null : w.memory.globals.client = .null
  · have dropped (passes : event.Passes w answers) : false = true := absurd null passes.2.2.1
    rw [if_pos null]
    exact ⟨answers, rfl, unsigned, ⟨Bool.noConfusion, dropped⟩, rfl⟩
  rw [if_neg null, wp_object]
  intro _
  rw [wp_isOpen]
  let use : Entry := ⟨self, .object (.use .client w.memory.globals.client), ()⟩
  have answered (later : List Entry) :
      event.clientID = firstOwnId event.handle (later ++ answers) :=
    (not_not.mp own).trans (first later).symm
  by_cases isOpen : w.memory.client.IsOpen
  · have passes : event.Passes w ([use, use] ++ answers) :=
      ⟨not_not.mp here, answered _, null, isOpen⟩
    rw [if_neg (by simp [isOpen]), wp_object]
    intro _
    rw [wp_setClient]
    exact ⟨[use, use] ++ answers, rfl, unsigned, ⟨fun _ => passes, fun _ => rfl⟩, rfl⟩
  · have dropped (passes : event.Passes w (use :: answers)) : false = true :=
      absurd passes.2.2.2 isOpen
    rw [if_pos (by simp [isOpen])]
    exact ⟨use :: answers, rfl, unsigned, ⟨Bool.noConfusion, dropped⟩, rfl⟩

end Events

inductive ClientCall where
  | connect (host : StdString) (port uniqueIdentifier : UInt16)
  | disconnect (status : UInt32)
  | destroy
  | update
  | selfVariable (handle : UInt64) (flag : SelfVariable) (newValue : CString)

def ClientCall.program : ClientCall → Plugin Unit
  | .connect host port uniqueIdentifier =>
    discard (JustAnotherVoiceChat.connect host port uniqueIdentifier)
  | .disconnect status => JustAnotherVoiceChat.disconnect status
  | .destroy => close
  | .update => do
    JustAnotherVoiceChat.update
    thread .exit
  | .selfVariable handle flag newValue =>
    ts3pluginOnClientSelfVariableUpdateEvent handle flag newValue

abbrev Talks := Config Op Op.Reply Speech ThreadId

instance (event : TalkEvent) (connection : UInt64) (w : World) :
    Decidable (event.Own connection w) := inferInstanceAs (Decidable (_ ∧ _))

def Speech.hears (s : Speech) (connection : UInt64) (event : TalkEvent) : Speech :=
  if event.Own connection s.world then { s with signs := .talk event.talking :: s.signs } else s

namespace Talks

structure Fresh (c : Talks) : Prop where
  client : ∃ port, c.state.client = .new port
  signs : c.state.signs = []
  idle : ∀ id, c.program id = .ret ()

-- Threads of the client go on call by call, also those that handle events. Of a talk event, the
-- report and the handler up to the new status are one step. `keeps` limits the talk events;
-- `connection` is the one that the signs are about.
inductive Step (connection : UInt64) (keeps : Talks → TalkEvent → List Entry → Prop) :
    Talks → Talks → Prop where
  | turn {c d : Talks} (turn : Turn Speech.sem c d) : Step connection keeps c d
  | call {c : Talks} (id : ThreadId) (idle : c.program id = .ret ()) (call : ClientCall) :
      Step connection keeps c ⟨Function.update c.program id call.program, c.state⟩
  | talk {c : Talks} (id : ThreadId) (idle : c.program id = .ret ()) (event : TalkEvent)
      {stored : Bool} {entries : List Entry} {t : Speech}
      (run : Exec (Speech.sem id) event.store (c.state.hears connection event) stored t)
      (trace : t.world.trace = entries ++ c.state.world.trace) (keep : keeps c event entries) :
      Step connection keeps c ⟨Function.update c.program id (TalkEvent.finish stored), t⟩
  | elsewhere {c : Talks} (w : World)
      (kept : w.memory.client.talking = c.state.client.talking) :
      Step connection keeps c ⟨c.program, { c.state with world := w }⟩

-- The own events on the connection that bring something new pass, while no thread reads and sends
-- the status, and no other event that brings something new does.
def Heeded (connection : UInt64) (c : Talks) (event : TalkEvent) (entries : List Entry) : Prop :=
  event.talking = c.state.client.talking ∨
  (event.Own connection c.state.world ∧ event.Passes c.state.world entries ∧
    ∀ id, ¬ Inside (· = sendStatus) (c.program id)) ∨
  (¬ event.Own connection c.state.world ∧ ¬ event.Passes c.state.world entries)

structure Truthful (c : Talks) : Prop where
  ok : c.state.Ok
  stage : ∀ id, Stage (Speech.sem id) (.shared Speech.Ok Speech.Same) Op.Still (· = sendStatus)
    (c.program id) c.state

theorem spoken_call (call : ClientCall) : Spoken call.program := by
  cases call with
  | connect host port uniqueIdentifier =>
    exact (spoken_programs.connect host port uniqueIdentifier (spoken_startUpdate _ _ _)).bind
      fun _ => .ret _
  | disconnect status => exact spoken_programs.session.disconnect status
  | destroy => exact spoken_programs.close
  | update => exact spoken_programs.session.update.bind fun _ => spoken_thread .exit
  | selfVariable handle flag newValue => exact spoken_selfVariable handle flag newValue

variable {connection : UInt64} {c d : Talks}

theorem hears_world (s : Speech) (event : TalkEvent) :
    (s.hears connection event).world = s.world := by
  by_cases own : event.Own connection s.world <;> simp [Speech.hears, own]

theorem hears_own {s : Speech} {event : TalkEvent} (own : event.Own connection s.world)
    (lawful : Trace.Lawful StatusOk s.signs) :
    lastTalk (s.hears connection event).signs = event.talking ∧
      Trace.Lawful StatusOk (s.hears connection event).signs := by
  have heard : s.hears connection event = { s with signs := .talk event.talking :: s.signs } :=
    if_pos own
  rw [heard]
  refine ⟨rfl, ?_, lawful⟩
  intro packet same
  cases same

theorem Truthful.talk {id : ThreadId} {event : TalkEvent} {stored : Bool}
    {entries : List Entry} {t : Speech} (truthful : c.Truthful)
    (run : Exec (Speech.sem id) event.store (c.state.hears connection event) stored t)
    (trace : t.world.trace = entries ++ c.state.world.trace)
    (heeded : Heeded connection c event entries) :
    Truthful ⟨Function.update c.program id (TalkEvent.finish stored), t⟩ := by
  obtain ⟨⟨known, lawful⟩, stage⟩ := truthful
  obtain ⟨ran, entries', trace', signs⟩ := Exec.project run
  rw [hears_world] at ran trace'
  obtain rfl : entries = entries' := List.append_cancel_right (trace.symm.trans trace')
  obtain ⟨answers, handled⟩ := ran.wp (wp_store event)
  obtain rfl : entries = answers :=
    List.append_cancel_right (trace.symm.trans handled.trace)
  rw [handled.unsigned, List.nil_append] at signs
  have talking : t.client.talking =
      if stored then event.talking else c.state.client.talking := handled.talking
  have continues (ok : t.Ok) (others : ∀ other, Stage (Speech.sem other)
      (.shared Speech.Ok Speech.Same) Op.Still (· = sendStatus) (c.program other) t) :
      Truthful ⟨Function.update c.program id (TalkEvent.finish stored), t⟩ := by
    refine ⟨ok, fun other => ?_⟩
    by_cases same : other = id
    · subst same
      simp only [Function.update_self]
      exact .outside (spoken_finish stored)
    · simp only [Function.update_of_ne same]
      exact others other
  have undisturbed (same : t.client.talking = c.state.client.talking)
      (last : lastTalk (c.state.hears connection event).signs = c.state.client.talking)
      (lawful' : Trace.Lawful StatusOk (c.state.hears connection event).signs) :
      Truthful ⟨Function.update c.program id (TalkEvent.finish stored), t⟩ := by
    rw [← signs] at last lawful'
    have ok : t.Ok := ⟨same.trans last.symm, lawful'⟩
    exact continues ok fun other => (stage other).other ⟨known, lawful⟩ ok same
  by_cases own : event.Own connection c.state.world
  · obtain ⟨last, lawful'⟩ := hears_own own lawful
    by_cases news : event.talking = c.state.client.talking
    · -- the status is what it was, handled or not
      rw [news, ite_self] at talking
      exact undisturbed talking (last.trans news) lawful'
    · obtain ⟨passes, apart⟩ : event.Passes c.state.world entries ∧
          ∀ other, ¬ Inside (· = sendStatus) (c.program other) := by
        rcases heeded with same | ⟨-, passes, apart⟩ | ⟨elsewhere, -⟩
        · exact absurd same news
        · exact ⟨passes, apart⟩
        · exact absurd own elsewhere
      rw [if_pos (handled.passes.mpr passes)] at talking
      rw [← signs] at last lawful'
      exact continues ⟨talking.trans last.symm, lawful'⟩
        fun other => (stage other).apart (apart other)
  · have silent : c.state.hears connection event = c.state := if_neg own
    have same : t.client.talking = c.state.client.talking := by
      rcases heeded with same | ⟨own', -⟩ | ⟨-, dropped⟩
      · rwa [same, ite_self] at talking
      · exact absurd own' own
      · rwa [if_neg (mt handled.passes.mp dropped)] at talking
    rw [silent] at undisturbed
    exact undisturbed same known.symm lawful

theorem Fresh.truthful (fresh : c.Fresh) : c.Truthful := by
  obtain ⟨port, client⟩ := fresh.client
  refine ⟨⟨?_, ?_⟩, fun id => ?_⟩
  · rw [client, fresh.signs]
    rfl
  · rw [fresh.signs]
    trivial
  · rw [fresh.idle id]
    exact .outside (.ret ())

theorem Truthful.step (truthful : c.Truthful) (step : Step connection (Heeded connection) c d) :
    d.Truthful := by
  obtain ⟨ok, stage⟩ := truthful
  have undisturbed {t : Speech} (same : c.state.Same t) (ok' : t.Ok) : Truthful ⟨c.program, t⟩ :=
    ⟨ok', fun id => (stage id).other ok ok' same⟩
  cases step with
  | turn turn =>
    cases turn with
    | mk id move =>
      have reflexive (u : Speech) (_ : u.Ok) : u.Same u := rfl
      have keeps (op : Op) (u : Speech) (reply : op.Reply) (v : Speech) (still : op.Still)
          (ok : u.Ok) (step : Speech.sem id op u reply v) : u.Same v ∧ v.Ok :=
        still_keeps still ok step
      have safe (whole : Plugin Unit) (u : Speech) (same : whole = sendStatus) (ok : u.Ok) :
          Safe (Speech.sem id) (.shared Speech.Ok Speech.Same) whole (fun _ _ => True) u := by
        subst same
        exact speaks_sendStatus u ok trivial
      obtain ⟨same, ok', moved⟩ := (stage id).move reflexive keeps safe ok move
      refine ⟨ok', fun other => ?_⟩
      by_cases own : other = id
      · subst own
        simpa using moved
      · simp only [Function.update_of_ne own]
        exact (stage other).other ok ok' same
  | call id idle call =>
    refine ⟨ok, fun other => ?_⟩
    by_cases own : other = id
    · subst own
      simp only [Function.update_self]
      exact .outside (spoken_call call)
    · simp only [Function.update_of_ne own]
      exact stage other
  | talk id idle event run trace heeded => exact Truthful.talk ⟨ok, stage⟩ run trace heeded
  | elsewhere w kept => exact undisturbed kept ⟨kept.trans ok.1, ok.2⟩

theorem Truthful.run (truthful : c.Truthful)
    (run : ReflTransGen (Step connection (Heeded connection)) c d) : d.Truthful := by
  induction run with
  | refl => exact truthful
  | tail _ step ih => exact ih.step step

end Talks

def Speech.Faithful (s : Speech) : Prop :=
  ∀ newer packet older, s.signs = newer ++ .status packet :: older →
    packet.talking = lastTalk older

/-- In runs whose talk events are heeded, each status packet carries the reported status. -/
theorem status_talking (connection : UInt64) (c d : Talks) (fresh : c.Fresh)
    (run : ReflTransGen (Talks.Step connection (Talks.Heeded connection)) c d) :
    d.state.Faithful := by
  intro newer packet older split
  have lawful := (fresh.truthful.run run).ok.2
  rw [split] at lawful
  exact (Trace.lawful_split lawful).1 packet rfl

namespace Speech

def answer (thread : ThreadId) (replies : Replies) (op : Op) (s : Speech) :
    Option (op.Reply × Speech) :=
  (answerOp thread replies op s.world).map fun (reply, w) => (reply, ⟨w, op.signs ++ s.signs⟩)

def ran (thread : ThreadId) (replies : Replies) {α : Type} (p : Plugin α) (s : Speech) : Speech :=
  ((runWith (answer thread replies) 60 p s).map (·.2)).getD s

variable {thread : ThreadId} {replies : Replies}

theorem answer_sound (within : replies.Within (.joining thread)) (op : Op) (s : Speech)
    (reply : op.Reply) (t : Speech) (answered : answer thread replies op s = some (reply, t)) :
    Speech.sem thread op s reply t := by
  obtain ⟨⟨told, w⟩, given, same⟩ := Option.map_eq_some_iff.mp answered
  obtain ⟨rfl, rfl⟩ := Prod.mk.inj same
  exact ⟨answerOp_sound within _ _ _ _ given, rfl⟩

theorem exec_ran (within : replies.Within (.joining thread)) {α : Type} {p : Plugin α} {s : Speech}
    {value : α} (computed :
      (runWith (answer thread replies) 60 p s).map (·.1) = some value) :
    Exec (Speech.sem thread) p s value (ran thread replies p s) := by
  obtain ⟨⟨value', t⟩, whole, rfl⟩ := Option.map_eq_some_iff.mp computed
  have same : ran thread replies p s = t := by
    rw [ran, whole]
    rfl
  rw [same]
  exact Exec.of_runWith (answer_sound within) whole

end Speech

def spawning (caller : ThreadId) : (call : ThreadCall) → World → Option (call.Reply × World)
  | .spawn, w =>
    if (1 : ThreadId) ≠ caller ∧ w.phase 1 = .unborn then
      some ((1 : ThreadId), w.withPhase 1 .looping)
    else none
  | .selfId, _ | .joinable _, _ | .join _, _ | .delete _, _ | .exit, _ => none

theorem spawning_within {caller : ThreadId} {replies : Replies}
    (thread : replies.thread = spawning caller) : replies.Within (.joining caller) := by
  refine ⟨fun _ _ => trivial, fun _ _ => trivial, fun _ _ => trivial, ?_⟩
  rw [thread]
  intro call w reply w' answered
  cases call with
  | spawn =>
    simp only [spawning] at answered
    split at answered
    · rename_i free
      obtain ⟨rfl, rfl⟩ := Prod.mk.inj (Option.some.inj answered)
      exact ⟨free.1, free.2, rfl⟩
    · cases answered
  | selfId | joinable | join | delete | exit => cases answered

def reached (caller : ThreadId) : Replies := ⟨obliging [1] .empty, connecting 1, spawning caller⟩

def welcomed : Replies := { greeting [1] with thread := spawning 1 }

namespace Talks

variable {connection : UInt64} {keeps : Talks → TalkEvent → List Entry → Prop} {c : Talks}
  {id : ThreadId} {replies : Replies}

def called (c : Talks) (id : ThreadId) (call : ClientCall) : Talks :=
  ⟨Function.update c.program id call.program, c.state⟩

def completed (c : Talks) (id : ThreadId) (replies : Replies) : Talks :=
  ⟨Function.update c.program id (.ret ()), Speech.ran id replies (c.program id) c.state⟩

theorem steps_completed (within : replies.Within (.joining id)) (computed :
    (runWith (Speech.answer id replies) 60 (c.program id) c.state).map (·.1) = some ()) :
    ReflTransGen (Step connection keeps) c (c.completed id replies) :=
  (Speech.exec_ran within computed).turns.lift (fun d => d) fun _ _ turn => .turn turn

def rounded (c : Talks) : Talks := ⟨c.program, Speech.ran 1 welcomed updateRound c.state⟩

def ended : Unit → Plugin Unit := fun _ => do
  close
  thread .exit

theorem steps_rounded (looping : c.program 1 = .iterate updateRound ended) (computed :
    (runWith (Speech.answer 1 welcomed) 60 updateRound c.state).map (·.1) = some none) :
    ReflTransGen (Step connection keeps) c c.rounded := by
  have run := Speech.exec_ran (spawning_within rfl) computed
  have moves : Moves (Speech.sem 1) (.iterate updateRound ended) c.state
      (.iterate updateRound ended) c.rounded.state := .head .unfold (run.moves _)
  have turns := moves.turns c.program
  rw [← looping, Function.update_eq_self] at turns
  exact turns.lift (fun d => d) fun _ _ turn => .turn turn

def told (c : Talks) (connection : UInt64) (event : TalkEvent) (stored : Bool) : Talks :=
  ⟨Function.update c.program 2 (TalkEvent.finish stored),
    Speech.ran 2 (reached 2) event.store
      (c.state.hears connection event)⟩

theorem step_told {event : TalkEvent} {stored : Bool} (idle : c.program 2 = .ret ())
    (computed : (runWith (Speech.answer 2 (reached 2)) 60 event.store
      (c.state.hears connection event)).map (·.1) = some stored)
    (keep : ∀ entries, (stored = true ↔ event.Passes c.state.world entries) →
      keeps c event entries) :
    Step connection keeps c (c.told connection event stored) := by
  have run := Speech.exec_ran (spawning_within rfl) computed
  obtain ⟨ran, -⟩ := Exec.project run
  rw [hears_world] at ran
  obtain ⟨entries, handled⟩ := ran.wp (wp_store event)
  exact .talk 2 idle event run handled.trace (keep entries handled.passes)

def idle : Talks := ⟨fun _ => .ret (), ⟨.idle, []⟩⟩

theorem idle_fresh : idle.Fresh := ⟨⟨0, rfl⟩, rfl, fun _ => rfl⟩

def connects (c : Talks) : Talks :=
  c.called 0 (.connect firstCall.host firstCall.port firstCall.gameId)

def begun (c : Talks) : Talks := (c.connects.completed 0 (reached 0)).called 1 .update

theorem steps_begun (caller : c.program 0 = .ret ()) (updater : c.program 1 = .ret ())
    (computed : (runWith (Speech.answer 0 (reached 0)) 60 (c.connects.program 0)
      c.connects.state).map (·.1) = some ()) : ReflTransGen (Step connection keeps) c c.begun := by
  have connect : Step connection keeps c c.connects := .call 0 caller _
  have finish : ReflTransGen (Step connection keeps) c.connects
    (c.connects.completed 0 (reached 0)) :=
    steps_completed (spawning_within rfl) computed
  have free : (c.connects.completed 0 (reached 0)).program 1 = .ret () := updater
  have begin' : Step connection keeps (c.connects.completed 0 (reached 0)) c.begun :=
    .call 1 free .update
  exact .head connect (finish.tail begin')

def ownTalk : TalkEvent := ⟨1, .talking, 1⟩

def early : Talks := (idle.told 1 ownTalk false).begun.rounded

theorem steps_early : ReflTransGen (Step 1 fun _ _ _ => True) idle early := by
  have first : Step 1 (fun _ _ _ => True) idle (idle.told 1 ownTalk false) :=
    step_told rfl (by decide) fun _ _ => trivial
  have begins : ReflTransGen (Step 1 fun _ _ _ => True) (idle.told 1 ownTalk false)
      (idle.told 1 ownTalk false).begun := steps_begun rfl rfl (by decide)
  have greets : ReflTransGen (Step 1 fun _ _ _ => True) (idle.told 1 ownTalk false).begun early :=
    steps_rounded rfl (by decide)
  exact .head first (begins.trans greets)

def ingame : Talks := idle.begun.rounded

def late : Talks := (ingame.told 1 ownTalk true).completed 2 (reached 2)

theorem sendStatus_straight : Straight sendStatus := by
  have client_straight : Straight client := .call fun m => .ret m.client
  unfold sendStatus sendPacket
  apply client_straight.bind
  intro first
  apply client_straight.bind
  intro second
  apply client_straight.bind
  intro third
  dsimp only
  split
  · exact .ret _
  · exact client_straight.bind fun _ => .call .ret

theorem ingame_apart (id : ThreadId) : ¬ Inside (· = sendStatus) (ingame.program id) := by
  by_cases updater : id = 1
  · rw [updater]
    have straight (whole : Plugin Unit) (same : whole = sendStatus) : Straight whole :=
      same ▸ sendStatus_straight
    exact not_inside_iterate straight updateRound ended
  · have silent : ingame.program id = .ret () := by
      change Function.update (Function.update (Function.update _ 0 _) 0 _) 1 _ id = _
      rw [Function.update_of_ne updater, Function.update_idem]
      by_cases caller : id = 0
      · rw [caller, Function.update_self]
      · rw [Function.update_of_ne caller]
        rfl
    rw [silent]
    exact not_inside_ret ()

theorem steps_late : ReflTransGen (Step 1 (Heeded 1)) idle late := by
  have begins : ReflTransGen (Step 1 (Heeded 1)) idle idle.begun :=
    steps_begun rfl rfl (by decide)
  have greets : ReflTransGen (Step 1 (Heeded 1)) idle.begun ingame :=
    steps_rounded rfl (by decide)
  have heard : Step 1 (Heeded 1) ingame (ingame.told 1 ownTalk true) := by
    apply step_told rfl (by decide)
    intro entries passes
    exact .inr (.inl ⟨⟨rfl, by decide⟩, passes.mp rfl, ingame_apart⟩)
  have finishes : ReflTransGen (Step 1 (Heeded 1)) (ingame.told 1 ownTalk true) late :=
    steps_completed (spawning_within rfl) (by decide)
  exact begins.trans (greets.trans (.head heard finishes))

end Talks

theorem status_talking_late : Talks.late.state.Faithful :=
  status_talking 1 Talks.idle Talks.late Talks.idle_fresh Talks.steps_late

-- Talk events before the first connect are dropped.
theorem status_early : ¬ ∀ (connection : UInt64) (c d : Talks), c.Fresh →
    ReflTransGen (Talks.Step connection fun _ _ _ => True) c d → d.state.Faithful := by
  intro claimed
  have faithful := claimed 1 Talks.idle Talks.early Talks.idle_fresh Talks.steps_early
  have signs : Talks.early.state.signs = [.status ⟨false, true, true⟩, .talk true] := by decide
  have talking := faithful [] _ _ signs
  revert talking
  decide

end JustAnotherVoiceChat
