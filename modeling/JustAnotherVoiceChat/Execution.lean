import JustAnotherVoiceChat.TeamSpeak

set_option autoImplicit false

namespace JustAnotherVoiceChat

open Binary Interaction

namespace World

def setClient (w : World) (update : Client → Client) : World :=
  { w with memory := { w.memory with client := update w.memory.client } }

def setWrapper (w : World) (update : Wrapper → Wrapper) : World :=
  { w with memory := { w.memory with wrapper := update w.memory.wrapper } }

def setTeamspeak (w : World) (t : TeamSpeak) : World := { w with teamspeak := t }

def setEnet (w : World) (e : Enet) : World := { w with enet := e }

section Fields

variable (w : World) (f : Client → Client) (g : Wrapper → Wrapper) (t : TeamSpeak) (e : Enet)
  (self : ThreadId) (call : External) (reply : call.Reply)

@[simp] theorem setClient_client : (w.setClient f).memory.client = f w.memory.client := rfl
@[simp] theorem setClient_wrapper : (w.setClient f).memory.wrapper = w.memory.wrapper := rfl
@[simp] theorem setClient_globals : (w.setClient f).memory.globals = w.memory.globals := rfl
@[simp] theorem setClient_teamspeak : (w.setClient f).teamspeak = w.teamspeak := rfl
@[simp] theorem setClient_enet : (w.setClient f).enet = w.enet := rfl
@[simp] theorem setClient_phase : (w.setClient f).phase = w.phase := rfl
@[simp] theorem setClient_trace : (w.setClient f).trace = w.trace := rfl

@[simp] theorem setClient_setClient (f' : Client → Client) :
    (w.setClient f).setClient f' = w.setClient fun c => f' (f c) := rfl

@[simp] theorem setWrapper_client : (w.setWrapper g).memory.client = w.memory.client := rfl
@[simp] theorem setWrapper_wrapper : (w.setWrapper g).memory.wrapper = g w.memory.wrapper := rfl
@[simp] theorem setWrapper_globals : (w.setWrapper g).memory.globals = w.memory.globals := rfl
@[simp] theorem setWrapper_teamspeak : (w.setWrapper g).teamspeak = w.teamspeak := rfl
@[simp] theorem setWrapper_enet : (w.setWrapper g).enet = w.enet := rfl
@[simp] theorem setWrapper_phase : (w.setWrapper g).phase = w.phase := rfl
@[simp] theorem setWrapper_trace : (w.setWrapper g).trace = w.trace := rfl

@[simp] theorem setTeamspeak_memory : (w.setTeamspeak t).memory = w.memory := rfl
@[simp] theorem setTeamspeak_teamspeak : (w.setTeamspeak t).teamspeak = t := rfl
@[simp] theorem setTeamspeak_enet : (w.setTeamspeak t).enet = w.enet := rfl
@[simp] theorem setTeamspeak_phase : (w.setTeamspeak t).phase = w.phase := rfl
@[simp] theorem setTeamspeak_trace : (w.setTeamspeak t).trace = w.trace := rfl

@[simp] theorem setEnet_memory : (w.setEnet e).memory = w.memory := rfl
@[simp] theorem setEnet_teamspeak : (w.setEnet e).teamspeak = w.teamspeak := rfl
@[simp] theorem setEnet_enet : (w.setEnet e).enet = e := rfl
@[simp] theorem setEnet_phase : (w.setEnet e).phase = w.phase := rfl
@[simp] theorem setEnet_trace : (w.setEnet e).trace = w.trace := rfl

@[simp] theorem record_memory : (w.record self call reply).memory = w.memory := rfl
@[simp] theorem record_teamspeak : (w.record self call reply).teamspeak = w.teamspeak := rfl
@[simp] theorem record_enet : (w.record self call reply).enet = w.enet := rfl
@[simp] theorem record_phase : (w.record self call reply).phase = w.phase := rfl
@[simp] theorem record_trace :
    (w.record self call reply).trace = ⟨self, call, reply⟩ :: w.trace := rfl

end Fields

end World

abbrev Environment.tells (env : Environment) (call : TeamSpeakCall) (w : World)
    (reply : call.Reply) : Prop := env.answers (.teamspeak call) w reply

abbrev World.asked (w : World) (self : ThreadId) (call : TeamSpeakCall) (reply : call.Reply) :
    World := w.record self (.teamspeak call) reply

abbrev World.request (w : World) (handle : UInt64) (f : Connection → Connection) (ok : Bool) :
    World := w.setTeamspeak (accepted w.teamspeak handle f ok)

-- What a call can change on its connection.
def TeamSpeakCall.Effect : TeamSpeakCall → (Connection → Connection) → Prop
  | .requestClientMove _ _ channelId _, f => f = (·.requestMove channelId) ∨
    f = fun c => (c.requestMove channelId).arrive channelId
  | .requestMuteClients _ ids, f => f = (·.setMuted (untilZero ids) true)
  | .requestUnmuteClients _ ids, f => f = (·.setMuted (untilZero ids) false)
  | .setClientSelfVariableAsString _ flag value, f => f = (·.stageString flag value)
  | .setClientSelfVariableAsInt _ flag value, f => f = (·.stageInt flag value)
  | .flushClientSelfUpdates _, f => f = Connection.flush
  | .channelset3DAttributes _ clientId position, f => f = (·.setPosition clientId position)
  | _, _ => False

theorem accepted_cases (t : TeamSpeak) (handle : UInt64) (f : Connection → Connection) (ok : Bool) :
    accepted t handle f ok = t ∨ accepted t handle f ok = t.on handle f := by
  cases ok with
  | false => exact .inl rfl
  | true => exact .inr rfl

theorem TeamSpeakCall.Step.effect {call : TeamSpeakCall} {t t' : TeamSpeak} {reply : call.Reply}
    (step : call.Step t reply t') : t' = t ∨ ∃ handle f, call.Effect f ∧ t' = t.on handle f := by
  have requested {handle : UInt64} {f : Connection → Connection} {ok : Bool}
    (effect : call.Effect f)
      (same : t' = accepted t handle f ok) :
      t' = t ∨ ∃ handle f, call.Effect f ∧ t' = t.on handle f := by
    rw [same]
    exact (accepted_cases t handle f ok).imp id fun on => ⟨handle, f, effect, on⟩
  cases call with
  | requestClientMove handle clientId channelId password =>
    simp only [TeamSpeakCall.Step] at step
    split at step
    · rcases step with step | step
      · exact .inr ⟨handle, _, .inl rfl, step⟩
      · exact .inr ⟨handle, _, .inr rfl, step⟩
    · exact .inl step
  | requestMuteClients | requestUnmuteClients | setClientSelfVariableAsInt
  | flushClientSelfUpdates | channelset3DAttributes => exact requested rfl step
  | setClientSelfVariableAsString => exact requested rfl step.2
  | getClientID | getChannelOfClient | getChannelClientList | getClientSelfVariableAsString
  | getClientSelfVariableAsInt => exact .inl step.2
  | _ => exact .inl step

theorem on_part {β : Type} (part : Connection → β) {t : TeamSpeak} {f : Connection → Connection}
    (target handle : UInt64) (keeps : ∀ c, part (f c) = part c) :
    part (t.on target f handle) = part (t handle) := by
  by_cases same : handle = target
  · subst same
    simp [TeamSpeak.on, keeps]
  · simp [TeamSpeak.on, same]

theorem accepted_part {β : Type} (part : Connection → β) (t : TeamSpeak) (handle : UInt64)
    {f : Connection → Connection} (ok : Bool) (keeps : ∀ c, part (f c) = part c) (h : UInt64) :
    part (accepted t handle f ok h) = part (t h) := by
  rcases accepted_cases t handle f ok with same | same
  · rw [same]
  · rw [same]
    exact on_part part handle h keeps

theorem TeamSpeakCall.Step.part {β : Type} (part : Connection → β) {call : TeamSpeakCall}
    {t t' : TeamSpeak} {reply : call.Reply} (step : call.Step t reply t')
    (keeps : ∀ f, call.Effect f → ∀ c, part (f c) = part c) (handle : UInt64) :
    part (t' handle) = part (t handle) := by
  rcases step.effect with same | ⟨target, f, effect, same⟩
  · rw [same]
  · rw [same]
    exact on_part part target handle (keeps f effect)

theorem External.Step.frame {call : External} {w u : World} {reply : call.Reply}
    (step : call.Step w reply u) : u.memory = w.memory ∧ u.phase = w.phase ∧ u.trace = w.trace := by
  cases call with
  | teamspeak | enet =>
    obtain ⟨_, -, rfl⟩ := step
    exact ⟨rfl, rfl, rfl⟩
  | object =>
    obtain rfl : u = w := step
    exact ⟨rfl, rfl, rfl⟩

section Rules

variable {self : ThreadId} {env : Environment} {α β : Type} {post : α → World → Prop}
  {w : World}

@[simp] theorem wp_load {post : Memory → World → Prop} :
    wp (steps self env) load post w ↔ post w.memory w := by
  constructor
  · intro h
    exact h w.memory w ⟨rfl, rfl⟩
  · rintro h _ _ ⟨rfl, rfl⟩
    exact h

@[simp] theorem wp_client {post : Client → World → Prop} :
    wp (steps self env) client post w ↔ post w.memory.client w := by
  change wp _ (load >>= fun m => .ret m.client) post w ↔ _
  rw [wp_bind, wp_load, wp_ret]

@[simp] theorem wp_wrapper {post : Wrapper → World → Prop} :
    wp (steps self env) wrapper post w ↔ post w.memory.wrapper w := by
  change wp _ (load >>= fun m => .ret m.wrapper) post w ↔ _
  rw [wp_bind, wp_load, wp_ret]

@[simp] theorem wp_setClient {update : Client → Client} {post : Unit → World → Prop} :
    wp (steps self env) (setClient update) post w ↔ post () (w.setClient update) := by
  constructor
  · intro h
    exact h () _ rfl
  · rintro h ⟨⟩ _ rfl
    exact h

@[simp] theorem wp_setWrapper {update : Wrapper → Wrapper} {post : Unit → World → Prop} :
    wp (steps self env) (setWrapper update) post w ↔ post () (w.setWrapper update) := by
  constructor
  · intro h
    exact h () _ rfl
  · rintro h ⟨⟩ _ rfl
    exact h

@[simp] theorem wp_sleepFor {milliseconds : Nat} {post : Unit → World → Prop} :
    wp (steps self env) (sleepFor milliseconds) post w ↔ post () w := by
  constructor
  · intro h
    exact h () w rfl
  · rintro h ⟨⟩ _ rfl
    exact h

theorem wp_teamspeak {call : TeamSpeakCall} {post : call.Reply → World → Prop} :
    wp (steps self env) (teamspeak call) post w ↔
      ∀ reply t, env.tells call w reply → call.Step w.teamspeak reply t →
        post reply ((w.setTeamspeak t).asked self call reply) := by
  constructor
  · intro h reply t answered step
    exact h reply _ ⟨answered, _, ⟨t, step, rfl⟩, rfl⟩
  · rintro h reply _ ⟨answered, _, ⟨t, step, rfl⟩, rfl⟩
    exact h reply t answered step

theorem wp_enet {call : EnetCall} {post : call.Reply → World → Prop} :
    wp (steps self env) (enet call) post w ↔
      ∀ reply e, env.answers (.enet call) w reply → call.Step w.enet reply e →
        post reply ((w.setEnet e).record self (.enet call) reply) := by
  constructor
  · intro h reply e answered step
    exact h reply _ ⟨answered, _, ⟨e, step, rfl⟩, rfl⟩
  · rintro h reply _ ⟨answered, _, ⟨e, step, rfl⟩, rfl⟩
    exact h reply e answered step

theorem wp_object {call : ObjectCall} {post : Unit → World → Prop} :
    wp (steps self env) (object call) post w ↔
      (env.answers (.object call) w () → post () (w.record self (.object call) ())) := by
  constructor
  · intro h answered
    exact h () _ ⟨answered, w, rfl, rfl⟩
  · rintro h ⟨⟩ _ ⟨answered, _, rfl, rfl⟩
    exact h answered

theorem wp_thread {call : ThreadCall} {post : call.Reply → World → Prop} :
    wp (steps self env) (thread call) post w ↔
      ∀ reply u, env.threading call w reply u → post reply u := Iff.rfl

@[simp] theorem wp_ite {c : Prop} [Decidable c] {p q : Plugin α} :
    wp (steps self env) (if c then p else q) post w ↔
      if c then wp (steps self env) p post w else wp (steps self env) q post w := by
  split <;> rfl

@[simp] theorem wp_discard {p : Plugin β} {post : Unit → World → Prop} :
    wp (steps self env) (discard p) post w ↔ wp (steps self env) p (fun _ u => post () u) w := by
  change wp _ (p >>= fun _ => .ret ()) post w ↔ _
  rw [wp_bind]
  rfl

end Rules

section TeamSpeakRules

variable {self : ThreadId} {env : Environment} {w : World} {handle channelId : UInt64}

theorem wp_reads (call : TeamSpeakCall) {post : call.Reply → World → Prop}
    (tells : TeamSpeak → call.Reply → Prop)
    (step : ∀ t reply t', call.Step t reply t' ↔ tells t reply ∧ t' = t) :
    wp (steps self env) (teamspeak call) post w ↔
      ∀ reply, env.tells call w reply → tells w.teamspeak reply →
        post reply (w.asked self call reply) := by
  rw [wp_teamspeak]
  refine forall_congr' fun reply => ⟨fun h answered told => ?_, fun h t answered stepped => ?_⟩
  · exact h w.teamspeak answered ((step _ _ _).mpr ⟨told, rfl⟩)
  · obtain ⟨told, rfl⟩ := (step _ _ _).mp stepped
    exact h answered told

theorem wp_changes (call : TeamSpeakCall) {post : call.Reply → World → Prop}
    (effect : TeamSpeak → call.Reply → TeamSpeak)
    (step : ∀ t reply t', call.Step t reply t' ↔ t' = effect t reply) :
    wp (steps self env) (teamspeak call) post w ↔
      ∀ reply, env.tells call w reply →
        post reply ((w.setTeamspeak (effect w.teamspeak reply)).asked self call reply) := by
  rw [wp_teamspeak]
  refine forall_congr' fun reply => ⟨fun h answered => ?_, fun h t answered stepped => ?_⟩
  · exact h _ answered ((step _ _ _).mpr rfl)
  · obtain rfl := (step _ _ _).mp stepped
    exact h answered

theorem wp_asks (call : TeamSpeakCall) {post : call.Reply → World → Prop}
    (step : ∀ t reply t', call.Step t reply t' ↔ t' = t) :
    wp (steps self env) (teamspeak call) post w ↔
      ∀ reply, env.tells call w reply →
        post reply (w.asked self call reply) := by
  rw [wp_reads call (fun _ _ => True) fun t reply t' =>
    (step t reply t').trans (true_and _).symm.to_iff]
  exact forall₂_congr fun _ _ => true_imp_iff

@[simp] theorem wp_getServerConnectionHandlerList
    {post : Option (Buffer (List UInt64)) → World → Prop} :
    @wp _ _ _ (steps self env) (Option (Buffer (List UInt64)))
      (teamspeak .getServerConnectionHandlerList) post w ↔
      ∀ reply, env.tells .getServerConnectionHandlerList w reply →
        post reply (w.asked self .getServerConnectionHandlerList reply) :=
  wp_asks .getServerConnectionHandlerList fun _ _ _ => Iff.rfl

@[simp] theorem wp_getServerUniqueIdentifier {post : Option (Buffer CString) → World → Prop} :
    @wp _ _ _ (steps self env) (Option (Buffer CString))
      (teamspeak (.getServerUniqueIdentifier handle)) post w ↔
      ∀ reply, env.tells (.getServerUniqueIdentifier handle) w reply →
        post reply (w.asked self (.getServerUniqueIdentifier handle) reply) :=
  wp_asks (.getServerUniqueIdentifier handle) fun _ _ _ => Iff.rfl

@[simp] theorem wp_requestChannelSubscribe {channelIds : List UInt64} {post : Bool → World → Prop} :
    @wp _ _ _ (steps self env) Bool
      (teamspeak (.requestChannelSubscribe handle channelIds)) post w ↔
      ∀ reply, env.tells (.requestChannelSubscribe handle channelIds) w reply →
        post reply (w.asked self (.requestChannelSubscribe handle channelIds) reply) :=
  wp_asks (.requestChannelSubscribe handle channelIds) fun _ _ _ => Iff.rfl

@[simp] theorem wp_getChannelAreSubscribed {post : Option Int32 → World → Prop} :
    @wp _ _ _ (steps self env) (Option Int32)
      (teamspeak (.getChannelAreSubscribed handle channelId)) post w ↔
      ∀ reply, env.tells (.getChannelAreSubscribed handle channelId) w reply →
        post reply (w.asked self (.getChannelAreSubscribed handle channelId) reply) :=
  wp_asks (.getChannelAreSubscribed handle channelId) fun _ _ _ => Iff.rfl

@[simp] theorem wp_systemset3DListenerAttributes {position forward up : Vector3}
    {post : Bool → World → Prop} :
    @wp _ _ _ (steps self env) Bool
      (teamspeak (.systemset3DListenerAttributes handle position forward up)) post w ↔
      ∀ reply, env.tells (.systemset3DListenerAttributes handle position forward up) w reply →
        post reply (w.asked self
          (.systemset3DListenerAttributes handle position forward up) reply) :=
  wp_asks (.systemset3DListenerAttributes handle position forward up) fun _ _ _ => Iff.rfl

@[simp] theorem wp_systemset3DSettings {distance rolloff : Single} {post : Bool → World → Prop} :
    @wp _ _ _ (steps self env) Bool
      (teamspeak (.systemset3DSettings handle distance rolloff)) post w ↔
      ∀ reply, env.tells (.systemset3DSettings handle distance rolloff) w reply →
        post reply (w.asked self (.systemset3DSettings handle distance rolloff) reply) :=
  wp_asks (.systemset3DSettings handle distance rolloff) fun _ _ _ => Iff.rfl

@[simp] theorem wp_getConnectionStatus {post : Option Int32 → World → Prop} :
    @wp _ _ _ (steps self env) (Option Int32) (teamspeak (.getConnectionStatus handle)) post w ↔
      ∀ reply, env.tells (.getConnectionStatus handle) w reply →
        post reply (w.asked self (.getConnectionStatus handle) reply) :=
  wp_asks (.getConnectionStatus handle) fun _ _ _ => Iff.rfl

@[simp] theorem wp_freeMemory {address : Nat} {post : Unit → World → Prop} :
    @wp _ _ _ (steps self env) Unit (teamspeak (.freeMemory address)) post w ↔
      ∀ reply, env.tells (.freeMemory address) w reply →
        post reply (w.asked self (.freeMemory address) reply) :=
  wp_asks (.freeMemory address) fun _ _ _ => Iff.rfl

@[simp] theorem wp_getClientID {post : Option AnyID → World → Prop} :
    @wp _ _ _ (steps self env) (Option AnyID) (teamspeak (.getClientID handle)) post w ↔
      ∀ reply, env.tells (.getClientID handle) w reply →
        (∀ id ∈ reply, id = (w.teamspeak handle).ownId) →
        post reply (w.asked self (.getClientID handle) reply) :=
  wp_reads (.getClientID handle)
    (fun t reply => ∀ id ∈ reply, id = (t handle).ownId)
    fun _ _ _ => Iff.rfl

@[simp] theorem wp_getChannelOfClient {clientId : AnyID} {post : Option UInt64 → World → Prop} :
    @wp _ _ _ (steps self env) (Option UInt64)
      (teamspeak (.getChannelOfClient handle clientId)) post w ↔
      ∀ reply, env.tells (.getChannelOfClient handle clientId) w reply →
        (∀ channel ∈ reply, clientId = (w.teamspeak handle).ownId →
          channel = (w.teamspeak handle).ownChannel) →
        post reply (w.asked self (.getChannelOfClient handle clientId) reply) :=
  wp_reads (.getChannelOfClient handle clientId)
    (fun t reply => ∀ channel ∈ reply, clientId = (t handle).ownId →
    channel = (t handle).ownChannel)
    fun _ _ _ => Iff.rfl

@[simp] theorem wp_getChannelClientList {post : Option (Buffer (List AnyID)) → World → Prop} :
    @wp _ _ _ (steps self env) (Option (Buffer (List AnyID)))
      (teamspeak (.getChannelClientList handle channelId)) post w ↔
      ∀ reply, env.tells (.getChannelClientList handle channelId) w reply →
        (∀ list ∈ reply, ∀ id, id ∈ untilZero list.contents ↔
          id ≠ 0 ∧ id ∈ (w.teamspeak handle).members channelId) →
        post reply (w.asked self (.getChannelClientList handle channelId) reply) :=
  wp_reads (.getChannelClientList handle channelId)
    (fun t reply => ∀ list ∈ reply, ∀ id, id ∈ untilZero list.contents ↔
    id ≠ 0 ∧ id ∈ (t handle).members channelId)
    fun _ _ _ => Iff.rfl

@[simp] theorem wp_getClientSelfVariableAsString {flag : SelfString}
    {post : Option (Buffer CString) → World → Prop} :
    @wp _ _ _ (steps self env) (Option (Buffer CString))
      (teamspeak (.getClientSelfVariableAsString handle flag)) post w ↔
      ∀ reply, env.tells (.getClientSelfVariableAsString handle flag) w reply →
        (∀ value ∈ reply, value.contents = (w.teamspeak handle).selfString flag) →
        post reply (w.asked self (.getClientSelfVariableAsString handle flag) reply) :=
  wp_reads (.getClientSelfVariableAsString handle flag)
    (fun t reply => ∀ value ∈ reply, value.contents = (t handle).selfString flag)
    fun _ _ _ => Iff.rfl

@[simp] theorem wp_getClientSelfVariableAsInt {flag : SelfInt}
    {post : Option Int32 → World → Prop} :
    @wp _ _ _ (steps self env) (Option Int32)
      (teamspeak (.getClientSelfVariableAsInt handle flag)) post w ↔
      ∀ reply, env.tells (.getClientSelfVariableAsInt handle flag) w reply →
        (∀ value ∈ reply, value = (w.teamspeak handle).selfInt flag) →
        post reply (w.asked self (.getClientSelfVariableAsInt handle flag) reply) :=
  wp_reads (.getClientSelfVariableAsInt handle flag)
    (fun t reply => ∀ value ∈ reply, value = (t handle).selfInt flag)
    fun _ _ _ => Iff.rfl

@[simp] theorem wp_requestMuteClients {ids : List AnyID} {post : Bool → World → Prop} :
    @wp _ _ _ (steps self env) Bool (teamspeak (.requestMuteClients handle ids)) post w ↔
      ∀ ok, env.tells (.requestMuteClients handle ids) w ok →
        post ok ((w.request handle (·.setMuted (untilZero ids) true) ok).asked self
          (.requestMuteClients handle ids) ok) :=
  wp_changes (.requestMuteClients handle ids)
    (fun t ok => accepted t handle (·.setMuted (untilZero ids) true) ok) fun _ _ _ => Iff.rfl

@[simp] theorem wp_requestUnmuteClients {ids : List AnyID} {post : Bool → World → Prop} :
    @wp _ _ _ (steps self env) Bool (teamspeak (.requestUnmuteClients handle ids)) post w ↔
      ∀ ok, env.tells (.requestUnmuteClients handle ids) w ok →
        post ok ((w.request handle (·.setMuted (untilZero ids) false) ok).asked self
          (.requestUnmuteClients handle ids) ok) :=
  wp_changes (.requestUnmuteClients handle ids)
    (fun t ok => accepted t handle (·.setMuted (untilZero ids) false) ok) fun _ _ _ => Iff.rfl

@[simp] theorem wp_setClientSelfVariableAsInt {flag : SelfInt} {value : Int32}
    {post : Bool → World → Prop} :
    @wp _ _ _ (steps self env) Bool
      (teamspeak (.setClientSelfVariableAsInt handle flag value)) post w ↔
      ∀ ok, env.tells (.setClientSelfVariableAsInt handle flag value) w ok →
        post ok ((w.request handle (·.stageInt flag value) ok).asked self
          (.setClientSelfVariableAsInt handle flag value) ok) :=
  wp_changes (.setClientSelfVariableAsInt handle flag value)
    (fun t ok => accepted t handle (·.stageInt flag value) ok) fun _ _ _ => Iff.rfl

@[simp] theorem wp_flushClientSelfUpdates {post : Bool → World → Prop} :
    @wp _ _ _ (steps self env) Bool (teamspeak (.flushClientSelfUpdates handle)) post w ↔
      ∀ ok, env.tells (.flushClientSelfUpdates handle) w ok →
        post ok ((w.request handle Connection.flush ok).asked self
          (.flushClientSelfUpdates handle) ok) :=
  wp_changes (.flushClientSelfUpdates handle)
    (fun t ok => accepted t handle Connection.flush ok) fun _ _ _ => Iff.rfl

@[simp] theorem wp_channelset3DAttributes {clientId : AnyID} {position : Vector3}
    {post : Bool → World → Prop} :
    @wp _ _ _ (steps self env) Bool
      (teamspeak (.channelset3DAttributes handle clientId position)) post w ↔
      ∀ ok, env.tells (.channelset3DAttributes handle clientId position) w ok →
        post ok ((w.request handle (·.setPosition clientId position) ok).asked self
          (.channelset3DAttributes handle clientId position) ok) :=
  wp_changes (.channelset3DAttributes handle clientId position)
    (fun t ok => accepted t handle (·.setPosition clientId position) ok) fun _ _ _ => Iff.rfl

@[simp] theorem wp_setClientSelfVariableAsString {flag : SelfString} {value : CString}
    {post : Bool → World → Prop} :
    @wp _ _ _ (steps self env) Bool
      (teamspeak (.setClientSelfVariableAsString handle flag value)) post w ↔
      ∀ ok, env.tells (.setClientSelfVariableAsString handle flag value) w ok →
        (ok = true → flag = .nickname → value.text ≠ .empty) →
        post ok ((w.request handle (·.stageString flag value) ok).asked self
          (.setClientSelfVariableAsString handle flag value) ok) := by
  rw [wp_teamspeak]
  refine forall_congr' fun ok => ⟨fun h answered told => ?_, fun h t answered step => ?_⟩
  · exact h _ answered ⟨told, rfl⟩
  · obtain ⟨told, rfl⟩ := step
    exact h answered told

end TeamSpeakRules

section EnetRules

variable {self : ThreadId} {env : Environment} {w : World}

theorem wp_leavesEnet (call : EnetCall) {post : call.Reply → World → Prop}
    (step : ∀ e reply e', call.Step e reply e' ↔ e' = e) :
    wp (steps self env) (enet call) post w ↔
      ∀ reply, env.answers (.enet call) w reply →
        post reply (w.record self (.enet call) reply) := by
  rw [wp_enet]
  refine forall_congr' fun reply => ⟨fun h answered => ?_, fun h e answered stepped => ?_⟩
  · exact h w.enet answered ((step _ _ _).mpr rfl)
  · obtain rfl := (step _ _ _).mp stepped
    exact h answered

@[simp] theorem wp_serviceBegin {host : Option HostId} {timeout : Nat}
    {post : Unit → World → Prop} :
    @wp _ _ _ (steps self env) Unit (enet (.serviceBegin host timeout)) post w ↔
      ∀ reply, env.answers (.enet (.serviceBegin host timeout)) w reply →
        post reply (w.record self (.enet (.serviceBegin host timeout)) reply) :=
  wp_leavesEnet (.serviceBegin host timeout) fun _ _ _ => Iff.rfl

@[simp] theorem wp_peerDisconnect {peer : Option PeerId} {status : UInt32}
    {post : Unit → World → Prop} :
    @wp _ _ _ (steps self env) Unit (enet (.peerDisconnect peer status)) post w ↔
      ∀ reply, env.answers (.enet (.peerDisconnect peer status)) w reply →
        post reply (w.record self (.enet (.peerDisconnect peer status)) reply) :=
  wp_leavesEnet (.peerDisconnect peer status) fun _ _ _ => Iff.rfl

@[simp] theorem wp_hostDestroy {host : Option HostId} {post : Unit → World → Prop} :
    @wp _ _ _ (steps self env) Unit (enet (.hostDestroy host)) post w ↔
      ∀ reply, env.answers (.enet (.hostDestroy host)) w reply →
        post reply (w.record self (.enet (.hostDestroy host)) reply) :=
  wp_leavesEnet (.hostDestroy host) fun _ _ _ => Iff.rfl

@[simp] theorem wp_packetDestroy {post : Unit → World → Prop} :
    @wp _ _ _ (steps self env) Unit (enet .packetDestroy) post w ↔
      ∀ reply, env.answers (.enet .packetDestroy) w reply →
        post reply (w.record self (.enet .packetDestroy) reply) :=
  wp_leavesEnet .packetDestroy fun _ _ _ => Iff.rfl

@[simp] theorem wp_peerSend {peer : Option PeerId} {channelID : UInt8} {packet : Outgoing}
    {reliable : Bool} {post : Unit → World → Prop} :
    @wp _ _ _ (steps self env) Unit (enet (.peerSend peer channelID packet reliable)) post w ↔
      ∀ reply, env.answers (.enet (.peerSend peer channelID packet reliable)) w reply →
        post reply (w.record self (.enet (.peerSend peer channelID packet reliable)) reply) :=
  wp_leavesEnet (.peerSend peer channelID packet reliable) fun _ _ _ => Iff.rfl

@[simp] theorem wp_peerReset {peer : Option PeerId} {post : Unit → World → Prop} :
    @wp _ _ _ (steps self env) Unit (enet (.peerReset peer)) post w ↔
      ∀ reply, env.answers (.enet (.peerReset peer)) w reply →
        post reply ((w.setEnet (w.enet.reset peer)).record self
        (.enet (.peerReset peer)) reply) := by
  rw [wp_enet]
  refine forall_congr' fun reply => ⟨fun h answered => h _ answered rfl, ?_⟩
  rintro h _ answered rfl
  exact h answered

@[simp] theorem wp_serviceEnd {host : Option HostId} {timeout : Nat}
    {post : Serviced → World → Prop} :
    @wp _ _ _ (steps self env) Serviced (enet (.serviceEnd host timeout)) post w ↔
      ∀ reply, env.answers (.enet (.serviceEnd host timeout)) w reply →
        post reply ((w.setEnet (if 0 < reply.code ∧ reply.event = .connect then
          w.enet.connected host else w.enet)).record self
            (.enet (.serviceEnd host timeout)) reply) := by
  rw [wp_enet]
  refine forall_congr' fun reply => ⟨fun h answered => h _ answered rfl, ?_⟩
  rintro h _ answered rfl
  exact h answered

end EnetRules

end JustAnotherVoiceChat
