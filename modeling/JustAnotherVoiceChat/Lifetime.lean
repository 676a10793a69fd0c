import JustAnotherVoiceChat.ClientRules
import JustAnotherVoiceChat.Connecting
import JustAnotherVoiceChat.Handshake
import JustAnotherVoiceChat.Library.Trace
import JustAnotherVoiceChat.Plugin

set_option autoImplicit false

namespace JustAnotherVoiceChat

open Binary Interaction Relation

def Entry.object : Entry → Option ObjectCall
  | ⟨_, .object call, _⟩ => some call
  | _ => none

def World.objects (w : World) : List ObjectCall := w.trace.filterMap Entry.object

def stands (g : Global) : List ObjectCall → Bool
  | [] => false
  | .create made :: older => if made = g then true else stands g older
  | .destroy gone _ :: older => if gone = g then false else stands g older
  | .use _ _ :: older => stands g older

-- Only an object that is there is used or deleted, and none is made while the last one is there.
def ObjectOk (older : List ObjectCall) : ObjectCall → Prop
  | .create g => stands g older = false
  | .use g pointer | .destroy g pointer => pointer = .live ∧ stands g older = true

structure Untouched (w u : World) : Prop where
  globals : u.memory.globals = w.memory.globals
  trace : ∃ entries, u.trace = entries ++ w.trace ∧ entries.filterMap Entry.object = []

instance : Std.Refl Untouched := ⟨fun _ => ⟨rfl, [], rfl, rfl⟩⟩

instance : IsTrans World Untouched where
  trans _ _ _ first second := by
    obtain ⟨globals, entries, trace, silent⟩ := first
    obtain ⟨globals', more, trace', silent'⟩ := second
    refine ⟨globals'.trans globals, more ++ entries, ?_, ?_⟩
    · rw [trace', trace, List.append_assoc]
    · rw [List.filterMap_append, silent', silent, List.append_nil]

section Untouched

variable {self : ThreadId} {env : Environment} {w u : World}

theorem objects_record (call : ObjectCall) :
    (w.record self (.object call) ()).objects = call :: w.objects := rfl

theorem Untouched.objects (untouched : Untouched w u) : u.objects = w.objects := by
  obtain ⟨-, entries, trace, silent⟩ := untouched
  rw [World.objects, trace, List.filterMap_append, silent]
  rfl

theorem untouched_ofWrapper {α : Type} {p : Plugin α} (calls : p.Calls Op.OfWrapper) :
    Stays (steps self env) Untouched p := by
  intro w
  refine wp_mono ?_ (wp_keeping calls)
  intro _ u beside
  obtain ⟨entries, trace, told⟩ := beside.trace
  refine ⟨congrArg Prod.snd beside.memory, entries, trace, ?_⟩
  rw [List.filterMap_eq_nil_iff]
  intro e member
  have teamspeak := (told e member).2
  obtain ⟨thread, call, reply⟩ := e
  cases call with
  | enet call | object call => cases teamspeak
  | teamspeak call => rfl

theorem untouched_setClient (update : Client → Client) :
    Stays (steps self env) Untouched (setClient update) :=
  fun _ => wp_setClient.mpr ⟨rfl, [], rfl, rfl⟩

theorem untouched_enet (call : EnetCall) : Stays (steps self env) Untouched (enet call) := by
  intro w
  rw [wp_enet]
  intro reply e _ _
  exact ⟨rfl, [⟨self, .enet call, reply⟩], rfl, rfl⟩

theorem untouched_handlers : HandlerRules (steps self env) Untouched where
  ofWrapper := untouched_ofWrapper
  setClient _ := untouched_setClient _
  sendPacket _ _ _ := Stays.bind stays_client fun _ => untouched_enet _

theorem untouched_reset : Stays (steps self env) Untouched resetTeamspeak :=
  untouched_handlers.parts.resetTeamspeak (untouched_setClient _)

theorem untouched_rules (threads : ∀ call, Stays (steps self env) Untouched (thread call)) :
    ClientRules (steps self env) Untouched where
  ofWrapper := untouched_ofWrapper
  setClient _ := untouched_setClient _
  enet := untouched_enet
  thread := threads
  handshakeResponse := untouched_handlers.handshakeResponse
  reset := untouched_reset

variable {answers : (call : External) → World → call.Reply → Prop}

theorem untouched_updating (id : ThreadId) :
    ClientRules (steps id (.updating id answers)) Untouched :=
  untouched_rules (stays_updating id)

theorem untouched_calling (caller : ThreadId) :
    ClientRules (steps caller (.calling caller answers)) Untouched :=
  untouched_rules (stays_calling untouched_updating (fun _ _ _ => ⟨rfl, [], rfl, rfl⟩) caller)

end Untouched

structure Uses (w u : World) : Prop where
  globals : u.memory.globals = w.memory.globals
  trace : ∃ entries n, u.trace = entries ++ w.trace ∧
    entries.filterMap Entry.object = List.replicate n (.use .client w.memory.globals.client) ∧
      (w.memory.globals.client = .null → n = 0)

theorem Untouched.uses {w u : World} (untouched : Untouched w u) : Uses w u := by
  obtain ⟨globals, entries, trace, silent⟩ := untouched
  exact ⟨globals, entries, 0, trace, silent, fun _ => rfl⟩

instance : Std.Refl Uses := ⟨fun w => (Std.Refl.refl w : Untouched w w).uses⟩

instance : IsTrans World Uses where
  trans _ _ _ first second := by
    obtain ⟨globals, entries, n, trace, used, null⟩ := first
    obtain ⟨globals', more, m, trace', used', null'⟩ := second
    rw [globals] at used' null'
    refine ⟨globals'.trans globals, more ++ entries, m + n, ?_, ?_, fun none => ?_⟩
    · rw [trace', trace, List.append_assoc]
    · rw [List.filterMap_append, used', used, List.replicate_append_replicate]
    · rw [null' none, null none]

section Uses

variable {self : ThreadId} {env : Environment} {w u : World}

theorem stays_uses {α : Type} {p : Plugin α} (stays : Stays (steps self env) Untouched p) :
    Stays (steps self env) Uses p :=
  fun w => wp_mono (fun _ _ untouched => untouched.uses) (stays w)

theorem Uses.used (nonnull : w.memory.globals.client ≠ .null) :
    Uses w (w.record self (.object (.use .client w.memory.globals.client)) ()) :=
  ⟨rfl, [_], 1, rfl, rfl, fun null => absurd null nonnull⟩

theorem uses_method {α : Type} {method : Plugin α} (absent : α)
    (stays : Stays (steps self env) Uses method) :
    Stays (steps self env) Uses (do
      if !(← clientIsOpen) then
        return absent
      object (.use .client (← load).globals.client)
      method) := by
  intro w
  unfold clientIsOpen
  simp only [wp_bind, wp_load, wp_ite, wp_object, Program.pure_eq, wp_ret]
  split
  · exact Std.Refl.refl w
  rename_i nonnull
  intro _
  have used : Uses w (w.record self (.object (.use .client w.memory.globals.client)) ()) :=
    .used nonnull
  rw [wp_isOpen]
  split
  · exact used
  intro _
  refine wp_mono ?_ (stays _)
  intro _ u uses
  exact IsTrans.trans _ _ _ used (IsTrans.trans _ _ _ (.used nonnull) uses)

theorem uses_open {method : Plugin Unit} (untouched : Stays (steps self env) Untouched method) :
    Stays (steps self env) Uses (do
      if !(← clientIsOpen) then
        return ()
      useClient method) :=
  uses_method () (stays_uses untouched)

theorem uses_isIngame : Stays (steps self env) Uses justAnotherVoiceChatIsIngame := by
  apply uses_method false
  intro w
  rw [wp_isIngame]
  exact Std.Refl.refl w

theorem uses_connect {answers : (call : External) → World → call.Reply → Prop}
    (host : StdString) (port uniqueIdentifier : UInt16) :
    Stays (steps self (.calling self answers)) Uses
      (justAnotherVoiceChatConnect host port uniqueIdentifier) := by
  intro w
  unfold justAnotherVoiceChatConnect
  simp only [wp_bind, wp_load, wp_ite, wp_object, Program.pure_eq, wp_ret]
  split
  · exact Std.Refl.refl w
  rename_i nonnull
  intro _
  refine wp_mono ?_ ((untouched_calling self).connect host port uniqueIdentifier _)
  intro _ u untouched
  exact IsTrans.trans _ _ _ (.used nonnull) untouched.uses

end Uses

inductive HostCall where
  | init (initialized : Bool) (port : UInt16)
  | shutdown
  | talkStatus (handle : UInt64) (status : TalkStatus) (clientID : AnyID)
  | selfVariable (handle : UInt64) (flag : SelfVariable) (newValue : CString)
  | clientMove (handle : UInt64) (clientID : AnyID) (oldChannelID newChannelID : UInt64)
  | isIngame
  | connect (host : StdString) (port uniqueIdentifier : UInt16)

def HostCall.program : HostCall → Plugin Unit
  | .init initialized port => discard (ts3pluginInit initialized port)
  | .shutdown => ts3pluginShutdown
  | .talkStatus handle status clientID => ts3pluginOnTalkStatusChangeEvent handle status clientID
  | .selfVariable handle flag newValue =>
    ts3pluginOnClientSelfVariableUpdateEvent handle flag newValue
  | .clientMove handle clientID oldChannelID newChannelID =>
    ts3pluginOnClientMoveEvent handle clientID oldChannelID newChannelID
  | .isIngame => discard justAnotherVoiceChatIsIngame
  | .connect host port uniqueIdentifier =>
    discard (justAnotherVoiceChatConnect host port uniqueIdentifier)

def HostCall.isRequest : HostCall → Bool
  | .isIngame | .connect _ _ _ => true
  | _ => false

def HostCall.isEvent : HostCall → Bool
  | .talkStatus _ _ _ | .selfVariable _ _ _ | .clientMove _ _ _ _ => true
  | _ => false

def firstOwnId (handle : UInt64) (entries : List Entry) : AnyID :=
  if handle = 0 then 0 else ((entries.filterMap Entry.ownId).getLast?).getD 0

def HostCall.Reaches (call : HostCall) (w : World) (entries : List Entry) : Prop :=
  match call with
  | .talkStatus handle _ clientID =>
    handle = w.memory.wrapper.serverConnectionHandler ∧ clientID = firstOwnId handle entries
  | .selfVariable handle flag _ => handle = w.memory.wrapper.serverConnectionHandler ∧
    (flag = .int .inputMuted ∨ flag = .int .outputMuted)
  | .clientMove handle clientID _ _ =>
    handle = w.memory.wrapper.serverConnectionHandler ∧ clientID ≠ firstOwnId handle entries
  | _ => False

section Events

variable {self : ThreadId} {env : Environment} {w u : World}

theorem wp_firstOwnId (handle : UInt64) : wp (steps self env) (ts3ClientId handle)
    (fun id u => Untouched w u ∧ ∃ answers, u = w.logged answers ∧
      ∀ later, firstOwnId handle (later ++ answers) = id) w := by
  have once : wp (steps self env) (ts3ClientId handle)
      (fun id u => ∃ answers, u = w.logged answers ∧
        ∀ later, firstOwnId handle (later ++ answers) = id) w := by
    have told {id : AnyID} {answers : List Entry} (nonzero : handle ≠ 0)
        (once : answers.filterMap Entry.ownId = [id]) (later : List Entry) :
        firstOwnId handle (later ++ answers) = id := by
      simp [firstOwnId, nonzero, once]
    unfold ts3ClientId
    rw [wp_ite]
    split
    · rename_i zero
      exact ⟨[], rfl, fun later => if_pos zero⟩
    rename_i nonzero
    rw [wp_bind, wp_getConnectionStatus]
    rintro (_ | status) -
    · exact ⟨[_], rfl, told nonzero rfl⟩
    dsimp only
    rw [wp_ite]
    split
    · rename_i offline
      exact ⟨[_], rfl, told nonzero (by simp [Entry.ownId, offline])⟩
    rename_i online
    rw [wp_bind, wp_getClientID]
    rintro (_ | id) - -
    · exact ⟨[_, _], rfl, told nonzero (by simp [Entry.ownId, online])⟩
    · exact ⟨[_, _], rfl, told nonzero (by simp [Entry.ownId, online])⟩
  exact wp_and (untouched_ofWrapper (ts3ClientId_calls handle) w) once

def Noticed (call : HostCall) (w u : World) : Prop :=
  Uses w u ∧ ∀ entries, u.trace = entries ++ w.trace → ¬ call.Reaches w entries → Untouched w u

theorem Untouched.noticed {call : HostCall} (untouched : Untouched w u) : Noticed call w u :=
  ⟨untouched.uses, fun _ _ _ => untouched⟩

theorem noticed_onward {call : HostCall} {p : Plugin Unit} {v : World} (before : Untouched w v)
    (stays : Stays (steps self env) Uses p)
    (reaches : ∀ later entries, later ++ v.trace = entries ++ w.trace → call.Reaches w entries) :
    wp (steps self env) p (fun _ u => Noticed call w u) v := by
  refine wp_mono ?_ (stays v)
  intro _ u uses
  obtain ⟨later, n, grown, -⟩ := uses.trace
  refine ⟨IsTrans.trans _ _ _ before.uses uses, fun entries trace apart => absurd ?_ apart⟩
  exact reaches later entries (grown.symm.trans trace)

theorem noticed_talkStatus (handle : UInt64) (status : TalkStatus) (clientID : AnyID) :
    wp (steps self env) (ts3pluginOnTalkStatusChangeEvent handle status clientID)
      (fun _ u => Noticed (.talkStatus handle status clientID) w u) w := by
  unfold ts3pluginOnTalkStatusChangeEvent ts3ServerConnectionHandle
  simp only [wp_bind, wp_wrapper, wp_ite, Program.pure_eq, wp_ret]
  split
  · exact (Std.Refl.refl w : Untouched w w).noticed
  rename_i here
  refine wp_mono ?_ (wp_firstOwnId handle)
  rintro id _ ⟨untouched, answers, rfl, first⟩
  split
  · exact untouched.noticed
  rename_i own
  refine noticed_onward untouched (uses_open (untouched_handlers.setTalking _)) ?_
  intro later entries trace
  obtain rfl : entries = later ++ answers := by
    rw [World.logged_trace, ← List.append_assoc] at trace
    exact (List.append_cancel_right trace).symm
  exact ⟨not_not.mp here, (not_not.mp own).trans (first later).symm⟩

theorem noticed_selfVariable (handle : UInt64) (flag : SelfVariable) (newValue : CString) :
    wp (steps self env) (ts3pluginOnClientSelfVariableUpdateEvent handle flag newValue)
      (fun _ u => Noticed (.selfVariable handle flag newValue) w u) w := by
  unfold ts3pluginOnClientSelfVariableUpdateEvent ts3ServerConnectionHandle
  simp only [wp_bind, wp_wrapper, wp_ite, Program.pure_eq, wp_ret]
  split
  · exact (Std.Refl.refl w : Untouched w w).noticed
  rename_i here
  split
  · apply noticed_onward (Std.Refl.refl w) (uses_open (untouched_handlers.setMicrophoneMuted _))
    exact fun _ _ _ => ⟨not_not.mp here, .inl rfl⟩
  · apply noticed_onward (Std.Refl.refl w) (uses_open (untouched_handlers.setSpeakersMuted _))
    exact fun _ _ _ => ⟨not_not.mp here, .inr rfl⟩
  · exact (Std.Refl.refl w : Untouched w w).noticed

theorem noticed_clientMove (handle : UInt64) (clientID : AnyID)
    (oldChannelID newChannelID : UInt64) :
    wp (steps self env) (ts3pluginOnClientMoveEvent handle clientID oldChannelID newChannelID)
      (fun _ u => Noticed (.clientMove handle clientID oldChannelID newChannelID) w u) w := by
  unfold ts3pluginOnClientMoveEvent ts3ServerConnectionHandle
  rw [wp_bind, wp_bind, wp_wrapper, Program.pure_eq, wp_ret, wp_ite]
  split
  · exact (Std.Refl.refl w : Untouched w w).noticed
  rename_i here
  rw [wp_bind]
  refine wp_mono ?_ (wp_firstOwnId handle)
  rintro id _ ⟨untouched, answers, rfl, first⟩
  rw [wp_ite]
  split
  · exact untouched.noticed
  rename_i other
  apply noticed_onward untouched
  · have wrapping {α : Type} {p : Plugin α} (calls : p.Calls Op.OfWrapper) :
        Stays (steps self env) Uses p := stays_uses (untouched_ofWrapper calls)
    exact PluginPrograms.otherMove ⟨Stays.pure, Stays.bind, wrapping load_calls⟩ uses_isIngame
      (wrapping (ts3ChannelId_calls handle))
      (fun muted => wrapping (ts3MuteClient_calls clientID muted))
      (wrapping (ts3SetClientPosition_calls clientID 0 0 0))
  · intro later entries trace
    obtain rfl : entries = later ++ answers := by
      rw [World.logged_trace, ← List.append_assoc] at trace
      exact (List.append_cancel_right trace).symm
    exact ⟨not_not.mp here, fun same => other (same.trans (first later))⟩

theorem wp_event (call : HostCall) (event : call.isEvent = true) :
    wp (steps self env) call.program (fun _ u => Noticed call w u) w := by
  cases call with
  | talkStatus handle status clientID => exact noticed_talkStatus handle status clientID
  | selfVariable handle flag newValue => exact noticed_selfVariable handle flag newValue
  | clientMove handle clientID oldChannelID newChannelID =>
    exact noticed_clientMove handle clientID oldChannelID newChannelID
  | init | shutdown | isIngame | connect => cases event

end Events

def World.setGlobals (w : World) (update : Globals → Globals) : World :=
  { w with memory := { w.memory with globals := update w.memory.globals } }

section StartStop

variable {self : ThreadId} {answers : (call : External) → World → call.Reply → Prop} {w : World}

theorem wp_setGlobals {env : Environment} {update : Globals → Globals}
    {post : Unit → World → Prop} :
    wp (steps self env) (setGlobals update) post w ↔ post () (w.setGlobals update) := by
  constructor
  · intro h
    exact h () _ rfl
  · rintro h ⟨⟩ _ rfl
    exact h

structure Made (w u : World) : Prop where
  globals : u.memory.globals = ⟨.live, .live⟩
  objects : u.objects = [.use .httpServer .live, .create .httpServer, .create .client] ++ w.objects

theorem wp_init_failed (port : UInt16) :
    wp (steps self (.calling self answers)) (HostCall.init false port).program
      (fun _ u => u = w) w := by
  unfold HostCall.program ts3pluginInit justAnotherVoiceChatStart
  simp [Program.pure_eq]

theorem wp_init (port : UInt16) (new : w.memory.globals.client = .null) :
    wp (steps self (.calling self answers)) (HostCall.init true port).program
      (fun _ u => Made w u) w := by
  unfold HostCall.program ts3pluginInit justAnotherVoiceChatStart
  simp only [wp_discard, wp_bind, wp_ite, wp_load, wp_object, wp_setClient, wp_setGlobals,
    Program.pure_eq, wp_ret, new, ne_eq, not_true_eq_false, Bool.not_true, Bool.false_eq_true,
    if_false]
  exact fun _ _ _ => ⟨rfl, rfl⟩

structure Gone (w u : World) : Prop where
  globals : u.memory.globals = ⟨.deleted, .deleted⟩
  objects : u.objects = [.destroy .client .live, .use .client .live, .destroy .httpServer .live,
    .use .httpServer .live] ++ w.objects

theorem wp_shutdown (made : w.memory.globals = ⟨.live, .live⟩) :
    wp (steps self (.calling self answers)) ts3pluginShutdown (fun _ u => Gone w u) w := by
  have rules : ClientRules (steps self (.calling self answers)) Untouched := untouched_calling self
  unfold ts3pluginShutdown justAnotherVoiceChatStop deleteHttpServer useClient deleteClient
  simp only [wp_bind, wp_load, wp_object, wp_setGlobals]
  intro _ _ _
  refine wp_mono ?_ (rules.disconnect _ _)
  intro _ v disconnected _
  refine wp_mono ?_ (rules.close _)
  intro _ u closed
  have globals : v.memory.globals = ⟨.deleted, .live⟩ := by
    rw [disconnected.globals]
    simp [World.setGlobals, World.record, made]
  have kept : u.memory.globals = v.memory.globals := closed.globals
  constructor
  · simp [World.setGlobals, kept, globals]
  · change u.objects = _
    rw [closed.objects, objects_record, globals, disconnected.objects, objects_record]
    simp [World.setGlobals, World.objects, World.record, Entry.object, made]

end StartStop

section Runs

variable (answers : (call : External) → World → call.Reply → Prop)
  (allowed : HostCall → World → List Entry → Prop)

-- The steps of the process: a call from outside, for the HTTP server only while it is there, the
-- update thread, and what happens in TeamSpeak; `allowed` limits the calls.
inductive HostStep : World → World → Prop where
  | call {w u : World} (call : HostCall) (caller : ThreadId)
      (served : call.isRequest = true → w.memory.globals.httpServer = .live)
      (step : Exec (steps caller (.calling caller answers)) call.program w () u)
      (entries : List Entry) (trace : u.trace = entries ++ w.trace) (ok : allowed call w entries) :
      HostStep w u
  | round {w u : World} (id : ThreadId) (found : Option Unit) (phase : Phase)
      (step : Exec (steps id (.updating id answers)) updateRound w found u) :
      HostStep w (u.withPhase id phase)
  | close {w u : World} (id : ThreadId)
      (step : Exec (steps id (.updating id answers)) close w () u) :
      HostStep w (u.withPhase id .finished)
  | teamspeak {w : World} (t : TeamSpeak) : HostStep w (w.setTeamspeak t)

structure Kept (w : World) : Prop where
  lawful : Trace.Lawful ObjectOk w.objects
  globals : w.memory.globals = ⟨.null, .null⟩ ∨ w.memory.globals = ⟨.live, .live⟩ ∨
    w.memory.globals = ⟨.deleted, .deleted⟩
  standing : ∀ g, stands g w.objects = decide (w.memory.globals.client = .live)

structure Loaded (w : World) : Prop where
  globals : w.memory.globals = ⟨.null, .null⟩
  objects : w.objects = []

-- The plugin starts at most once, stops only when it has started, and no event that concerns the
-- client comes after that.
def HostCall.InTime (call : HostCall) (w : World) (entries : List Entry) : Prop :=
  match call with
  | .init initialized _ => initialized = true → w.memory.globals.client = .null
  | .shutdown => w.memory.globals.client = .live
  | .isIngame | .connect _ _ _ => True
  | call => w.memory.globals.client = .deleted → ¬ call.Reaches w entries

variable {answers} {allowed} {w u : World}

theorem Kept.of_untouched (kept : Kept w) (untouched : Untouched w u) : Kept u := by
  obtain ⟨lawful, globals, standing⟩ := kept
  rw [← untouched.objects] at lawful standing
  rw [← untouched.globals] at globals standing
  exact ⟨lawful, globals, standing⟩

theorem stands_used (g : Global) (n : Nat) (pointer : Pointer) (older : List ObjectCall) :
    stands g (List.replicate n (.use .client pointer) ++ older) = stands g older := by
  induction n with
  | zero => rfl
  | succ n ih => exact ih

theorem lawful_used {older : List ObjectCall} (lawful : Trace.Lawful ObjectOk older)
    (there : stands .client older = true) (n : Nat) :
    Trace.Lawful ObjectOk (List.replicate n (.use .client .live) ++ older) := by
  induction n with
  | zero => exact lawful
  | succ n ih =>
    have used : ObjectOk (List.replicate n (.use .client .live) ++ older) (.use .client .live) :=
      ⟨rfl, (stands_used .client n .live older).trans there⟩
    exact ⟨used, ih⟩

theorem Kept.of_uses (kept : Kept w) (uses : Uses w u)
    (there : w.memory.globals.client ≠ .deleted) : Kept u := by
  obtain ⟨lawful, globals, standing⟩ := kept
  obtain ⟨same, entries, n, trace, used, null⟩ := uses
  have objects : u.objects = List.replicate n (.use .client w.memory.globals.client) ++
      w.objects := by
    rw [World.objects, trace, List.filterMap_append, used]
    rfl
  have lawful' : Trace.Lawful ObjectOk u.objects := by
    rw [objects]
    cases held : w.memory.globals.client with
    | null =>
      obtain rfl := null held
      exact lawful
    | live => exact lawful_used lawful (by rw [standing, held]; rfl) n
    | deleted => exact absurd held there
  refine ⟨lawful', same ▸ globals, fun g => ?_⟩
  rw [objects, stands_used, same, standing]

theorem Kept.of_made (kept : Kept w) (new : w.memory.globals.client = .null) (made : Made w u) :
    Kept u := by
  have none (g : Global) : stands g w.objects = false := by
    rw [kept.standing, new]
    rfl
  obtain ⟨globals, objects⟩ := made
  refine ⟨?_, .inr (.inl globals), fun g => ?_⟩
  · rw [objects]
    refine ⟨⟨rfl, rfl⟩, ?_, none .client, kept.lawful⟩
    simp [ObjectOk, stands, none]
  · rw [objects, globals]
    cases g <;> rfl

theorem Kept.made (kept : Kept w) (there : w.memory.globals.client = .live) :
    w.memory.globals = ⟨.live, .live⟩ := by
  rcases kept.globals with globals | globals | globals
  · rw [globals] at there
    cases there
  · exact globals
  · rw [globals] at there
    cases there

theorem Kept.of_gone (kept : Kept w) (there : w.memory.globals.client = .live)
    (gone : Gone w u) : Kept u ∧ ∀ g, stands g u.objects = false := by
  have all (g : Global) : stands g w.objects = true := by
    rw [kept.standing, there]
    rfl
  obtain ⟨globals, objects⟩ := gone
  have none (g : Global) : stands g u.objects = false := by
    rw [objects]
    cases g <;> rfl
  refine ⟨⟨?_, .inr (.inr globals), fun g => ?_⟩, none⟩
  · rw [objects]
    refine ⟨⟨rfl, ?_⟩, ⟨rfl, ?_⟩, ⟨rfl, all _⟩, ⟨rfl, all _⟩, kept.lawful⟩
    · simp [stands, all]
    · simp [stands, all]
  · rw [none, globals]
    rfl

theorem HostStep.kept (step : HostStep answers HostCall.InTime w u) (kept : Kept w) : Kept u := by
  cases step with
  | call call caller served step entries trace ok =>
    have event (event : call.isEvent = true) (late : w.memory.globals.client = .deleted →
        ¬ call.Reaches w entries) : Kept u := by
      obtain ⟨uses, apart⟩ := step.wp (wp_event call event)
      by_cases there : w.memory.globals.client = .deleted
      · exact kept.of_untouched (apart entries trace (late there))
      · exact kept.of_uses uses there
    have request (requested : call.isRequest = true) (uses : Uses w u) : Kept u := by
      refine kept.of_uses uses ?_
      have there := served requested
      rcases kept.globals with globals | globals | globals
      · rw [globals] at there
        cases there
      · simp [globals]
      · rw [globals] at there
        cases there
    cases call with
    | init initialized port =>
      cases initialized with
      | false =>
        rw [step.wp (wp_init_failed port)]
        exact kept
      | true => exact kept.of_made (ok rfl) (step.wp (wp_init port (ok rfl)))
    | shutdown =>
      have made : w.memory.globals = ⟨.live, .live⟩ := kept.made ok
      exact (kept.of_gone ok (step.wp (wp_shutdown made))).1
    | talkStatus | selfVariable | clientMove => exact event rfl ok
    | isIngame => exact request rfl (step.stays (Stays.bind uses_isIngame fun _ => .ret _))
    | connect host port uniqueIdentifier =>
      exact request rfl (step.stays (Stays.bind (uses_connect _ _ _) fun _ => .ret _))
  | round id found phase step =>
    have round := step.stays (untouched_updating id).round
    exact kept.of_untouched (IsTrans.trans _ _ _ round ⟨rfl, [], rfl, rfl⟩)
  | close id step =>
    have closed := step.stays (untouched_updating id).close
    exact kept.of_untouched (IsTrans.trans _ _ _ closed ⟨rfl, [], rfl, rfl⟩)
  | teamspeak t => exact kept.of_untouched ⟨rfl, [], rfl, rfl⟩

/-- When every call is in time, no object is used or deleted that is not there, each is deleted
before the next one is made, and the next shutdown leaves none. -/
theorem objects_kept (answers : (call : External) → World → call.Reply → Prop) (start w : World)
    (loaded : Loaded start) (run : ReflTransGen (HostStep answers HostCall.InTime) start w) :
    Trace.Lawful ObjectOk w.objects ∧ ∀ (caller : ThreadId) (u : World),
      Exec (steps caller (.calling caller answers)) HostCall.shutdown.program w () u →
        w.memory.globals.client = .live → ∀ g, stands g u.objects = false := by
  have kept : Kept w := by
    induction run with
    | refl =>
      obtain ⟨globals, objects⟩ := loaded
      refine ⟨by rw [objects]; trivial, .inl globals, fun g => ?_⟩
      rw [objects, globals]
      rfl
    | tail _ step ih => exact step.kept ih
  refine ⟨kept.lawful, fun caller u shutdown there => ?_⟩
  exact (kept.of_gone there (shutdown.wp (wp_shutdown (kept.made there)))).2

end Runs

def World.loaded : World :=
  { World.idle with memory := ⟨.new 0, ⟨0, .empty, .empty⟩, ⟨.null, .null⟩⟩ }

def calledFrom (call : HostCall) (w : World) : World := ranPlugin 0 connectReplies call.program w

theorem exec_calledFrom {call : HostCall} {w : World}
    (ran : (runPlugin 0 connectReplies 60 call.program w).map (·.1) = some ()) :
    Exec (steps 0 (.calling 0 fun _ _ _ => True)) call.program w () (calledFrom call w) :=
  exec_ranPlugin connectReplies_within ran

theorem hostStep_calledFrom {allowed : HostCall → World → List Entry → Prop} {call : HostCall}
    {w : World} (own : call.isRequest = false)
    (ran : (runPlugin 0 connectReplies 60 call.program w).map (·.1) = some ())
    (ok : allowed call w (newSince w (calledFrom call w))) :
    HostStep (fun _ _ _ => True) allowed w (calledFrom call w) :=
  .call call 0 (by simp [own]) (exec_calledFrom ran) _
    (newSince_grown ((exec_calledFrom ran).stays (enduring_calling _)).trace) ok

def started : World := calledFrom (.init true 0) .loaded

def stopped : World := calledFrom .shutdown started

def restarted : World := calledFrom (.init true 0) stopped

theorem objects_kept_once :
    Trace.Lawful ObjectOk started.objects ∧ ∀ g, stands g stopped.objects = false := by
  have kept := objects_kept (fun _ _ _ => True) .loaded started ⟨rfl, rfl⟩
    (.single (hostStep_calledFrom rfl (by decide) fun _ => rfl))
  exact ⟨kept.1, kept.2 0 stopped (exec_calledFrom (by decide)) (by decide)⟩

-- The second start deletes the client that the shutdown has deleted.
theorem objects_deleted_twice : ¬ ∀ (answers : (call : External) → World → call.Reply → Prop)
    (start w : World), Loaded start →
      ReflTransGen (HostStep answers fun _ _ _ => True) start w →
        Trace.Lawful ObjectOk w.objects := by
  intro claimed
  have first : HostStep (fun _ _ _ => True) (fun _ _ _ => True) .loaded started :=
    hostStep_calledFrom rfl (by decide) trivial
  have second : HostStep (fun _ _ _ => True) (fun _ _ _ => True) started stopped :=
    hostStep_calledFrom rfl (by decide) trivial
  have third : HostStep (fun _ _ _ => True) (fun _ _ _ => True) stopped restarted :=
    hostStep_calledFrom rfl (by decide) trivial
  have lawful := claimed _ _ _ ⟨rfl, rfl⟩ (((ReflTransGen.single first).tail second).tail third)
  have objects : restarted.objects =
      [.use .httpServer .live, .create .httpServer, .create .client] ++
        .destroy .client .deleted :: stopped.objects := by decide
  rw [objects] at lawful
  have twice := (Trace.lawful_split lawful).1.1
  cases twice

end JustAnotherVoiceChat
