import JustAnotherVoiceChat.ChannelMembers
import JustAnotherVoiceChat.Library.Ending
import JustAnotherVoiceChat.MutePolling

set_option autoImplicit false

namespace JustAnotherVoiceChat

open Binary Interaction Relation

namespace ChannelMembers

open MoveEvents (MoveEvent)
open Restoring (Grants granting granting_within hosting successes successes_grants)

def link (m : Memory) : UInt64 × AnyID :=
  (m.wrapper.serverConnectionHandler, m.client.teamspeakId)

structure Apart (s t : Session) : Prop where
  link : link t.world.memory = link s.world.memory
  notes : t.notes = s.notes

abbrev contract (connection channel : UInt64) : Contract Session :=
  ⟨Holds connection channel, Apart, fun _ _ => True⟩

def At (place : UInt64 × AnyID) (n : Notes) (s : Session) : Prop :=
  link s.world.memory = place ∧ s.notes = n

section Contract

variable {connection channel : UInt64} {place : UInt64 × AnyID} {n : Notes}

theorem noted_stable (n : Notes) : (contract connection channel).Stable (·.notes = n) := by
  intro s t noted _ _ apart
  exact apart.notes.trans noted

theorem at_stable (place : UInt64 × AnyID) (n : Notes) :
    (contract connection channel).Stable (At place n) := by
  intro s t here _ _ apart
  exact ⟨apart.link.trans here.1, apart.notes.trans here.2⟩

end Contract

def basis (m : Memory) :
    (Pointer × Option HostId × Option PeerId × Bool × UInt16) × SortedSet AnyID :=
  (footing m, m.wrapper.mutedClients)

def bound (m : Memory) :
    ((Pointer × Option HostId × Option PeerId × Bool × UInt16) × SortedSet AnyID) ×
      (UInt64 × AnyID) :=
  (basis m, link m)

def Silent : External → Prop
  | .teamspeak (.getChannelClientList _ _) | .teamspeak (.requestMuteClients _ _)
  | .teamspeak (.requestUnmuteClients _ _) => False
  | _ => True

abbrev Quiet {α : Type} (part : Memory → α) : Op → Prop := Op.Quiet Silent part

section Quiet

variable {α : Type} {part : Memory → α} {connection channel : UInt64} {self : ThreadId}
  {answers : (call : External) → World → call.Reply → Prop} {s t : Session} {op : Op}
  {reply : op.Reply}

theorem note_quiet (quiet : Quiet part op) {n : Notes} (idle : n.requesting = []) :
    note connection channel op reply n = n := by
  cases op with
  | load | sleep => rfl
  | thread => cases quiet
  | store update =>
    obtain ⟨listed, astray, pending, requesting⟩ := n
    obtain rfl : requesting = [] := idle
    simp [note]
  | external call =>
    cases call with
    | object | enet => rfl
    | teamspeak call =>
      cases call with
      | getChannelClientList | requestMuteClients | requestUnmuteClients => cases quiet
      | _ => rfl

def membership (c : Connection) : AnyID × (UInt64 → SortedSet AnyID) × (AnyID → Bool) :=
  (c.ownId, c.members, c.muted)

theorem membership_silent {call : External} {w u : World} {reply : call.Reply}
    (silent : Silent call) (step : call.Step w reply u) (handle : UInt64) :
    membership (u.teamspeak handle) = membership (w.teamspeak handle) := by
  cases call with
  | object =>
    obtain rfl : u = w := step
    rfl
  | enet =>
    obtain ⟨_, -, rfl⟩ := step
    rfl
  | teamspeak call =>
    obtain ⟨_, stepped, rfl⟩ := step
    apply stepped.part membership
    intro f effect c
    cases call with
    | requestClientMove =>
      rcases effect with rfl | rfl
      · rfl
      · rfl
    | requestMuteClients | requestUnmuteClients => cases silent
    | setClientSelfVariableAsString | setClientSelfVariableAsInt | flushClientSelfUpdates
    | channelset3DAttributes =>
      obtain rfl := effect
      rfl
    | _ => cases effect

structure Unchanged {α : Type} (part : Memory → α) (s t : Session) : Prop where
  part : part t.world.memory = part s.world.memory
  membership : ∀ handle,
    membership (t.world.teamspeak handle) = membership (s.world.teamspeak handle)
  people : t.people = s.people

theorem quiet_step (quiet : Quiet part op)
    (step : sem answers connection channel self op s reply t) :
    Unchanged part s t ∧ (s.notes.requesting = [] → t.notes = s.notes) := by
  obtain ⟨stepped, noted, people⟩ := step
  refine ⟨⟨quiet.kept stepped, ?_, people⟩, fun idle => noted.trans (note_quiet quiet idle)⟩
  · intro handle
    cases op with
    | load =>
      obtain ⟨-, same⟩ := stepped
      rw [same]
    | sleep =>
      have same : t.world = s.world := stepped
      rw [same]
    | store update =>
      have same : t.world = _ := stepped
      rw [same]
    | thread => cases quiet
    | external call =>
      obtain ⟨-, x, stepped, same⟩ := stepped
      rw [same]
      exact membership_silent quiet stepped handle

theorem Holds.unchanged (holds : Holds connection channel s) (unchanged : Unchanged basis s t)
    (notes : t.notes = s.notes) : Holds connection channel t := by
  obtain ⟨w, n, people⟩ := t
  obtain rfl : n = s.notes := notes
  obtain rfl : people = s.people := unchanged.people
  have kept := unchanged.part
  have same := unchanged.membership connection
  simp only [basis, Prod.mk.injEq] at kept
  simp only [membership, Prod.mk.injEq] at same
  obtain ⟨own, members, muted⟩ := same
  apply holds.passes
  refine ⟨kept.1, own, congrFun members channel, muted, fun id => ?_⟩
  rw [kept.2]
  rfl

end Quiet

section Calls

variable {handle : UInt64}

theorem silent_of_topics {topics : List Topic} (apart : .channel ∉ topics ∧ .mute ∉ topics)
    (call : TeamSpeakCall) (about : call.topic ∈ topics) : Silent (.teamspeak call) := by
  cases call with
  | getChannelClientList => exact absurd about apart.1
  | requestMuteClients | requestUnmuteClients => exact absurd about apart.2
  | _ => trivial

theorem quiet_asking {α β : Type} {p : Plugin α} {part : Memory → β} {topics : List Topic}
    (calls : p.Calls (Op.On id topics)) (apart : .channel ∉ topics ∧ .mute ∉ topics) :
    p.Calls (Quiet part) :=
  quiet_of_asking calls (silent_of_topics apart)

theorem quiet_verifyServer (uniqueIdentifier : StdString) :
    (ts3VerifyServer uniqueIdentifier).Calls (Quiet basis) := by
  apply quiet_of_on (ts3VerifyServer_on uniqueIdentifier) (silent_of_topics (by decide))
  intro m m' same
  simp only [apartFromHandler, Memory.mk.injEq, Wrapper.mk.injEq] at same
  rw [basis, basis, footing, footing, same.1, same.2.1.2.1, same.2.2]

theorem quiet_channelId {α : Type} {part : Memory → α} :
    (ts3ChannelId handle).Calls (Quiet part) := by
  unfold ts3ChannelId
  apply (quiet_asking (ts3ClientId_on handle) (by decide)).bind
  intro id
  have asks : (teamspeak (.getChannelOfClient handle id)).Calls (Quiet part) :=
    quiet_teamspeak trivial
  apply asks.bind
  intro reply
  cases reply with
  | none => trivial
  | some channelId => trivial

theorem quiet_replies {α : Type} {part : Memory → α} (statusCode : Int32) :
    (sendHandshake statusCode).Calls (Quiet part) :=
  quiet_sendHandshake (silent_of_topics (by decide)) fun _ _ _ => trivial

theorem quiet_initialStatus (handle : UInt64) :
    (MuteState.initialStatus handle).Calls (Quiet bound) :=
  MuteState.quiet_initialStatus (fun _ => trivial) (fun _ _ => trivial)
    (silent_of_topics (by decide)) (fun _ _ => rfl) fun _ _ => rfl

end Calls

section Triples

variable {connection channel : UInt64} {self : ThreadId}
  {answers : (call : External) → World → call.Reply → Prop} {place : UInt64 × AnyID} {n : Notes}

abbrev Handshakes {α : Type} (answers : (call : External) → World → call.Reply → Prop)
    (connection channel : UInt64) (self : ThreadId) (pre : Session → Prop) (p : Plugin α)
    (post : α → Session → Prop) : Prop :=
  Triple (sem answers connection channel self) (contract connection channel) pre p post

theorem Holds.quiet {s t : Session} {op : Op} {reply : op.Reply}
    (holds : Holds connection channel s) (here : At place n s) (idle : n.requesting = [])
    (quiet : Quiet bound op) (step : sem answers connection channel self op s reply t) :
    Holds connection channel t ∧ At place n t := by
  obtain ⟨unchanged, still⟩ := quiet_step quiet step
  have notes : t.notes = s.notes := still (by rw [here.2, idle])
  have part := Prod.mk.inj unchanged.part
  constructor
  · exact holds.unchanged ⟨part.1, unchanged.membership, unchanged.people⟩ notes
  · exact ⟨part.2.trans here.1, notes.trans here.2⟩

section Quiet

variable {α : Type} {p : Plugin α}

theorem handshakes_noted (calls : p.Calls (Quiet basis)) (idle : n.requesting = []) :
    Handshakes answers connection channel self (·.notes = n) p (fun _ s => s.notes = n) := by
  apply Triple.of_calls (noted_stable n) calls
  intro op s reply t quiet holds noted step
  obtain ⟨unchanged, still⟩ := quiet_step quiet step
  have notes : t.notes = s.notes := still (by rw [noted, idle])
  exact ⟨trivial, holds.unchanged unchanged notes, notes.trans noted⟩

theorem handshakes_quiet (calls : p.Calls (Quiet bound)) (idle : n.requesting = []) :
    Handshakes answers connection channel self (At place n) p (fun _ => At place n) := by
  apply Triple.of_calls (at_stable place n) calls
  intro op s reply t quiet holds here step
  exact ⟨trivial, holds.quiet here idle quiet step⟩

end Quiet

theorem known_stable {assertion : Session → Prop} (fact : Prop)
    (stable : (contract connection channel).Stable assertion) :
    (contract connection channel).Stable fun s => fact ∧ assertion s :=
  Contract.Stable.and (fun _ _ holds _ _ _ => holds) stable

theorem handshakes_ask {call : TeamSpeakCall} (silent : Silent (.teamspeak call))
    (idle : n.requesting = []) {told : call.Reply → Prop}
    (tells : ∀ w reply, answers (.teamspeak call) w reply → told reply) :
    Handshakes answers connection channel self (At place n) (teamspeak call)
      (fun reply s => told reply ∧ At place n s) := by
  apply Triple.perform (at_stable place n) fun _ => known_stable _ (at_stable place n)
  intro s reply t holds here step
  have quiet : Quiet bound (.external (.teamspeak call)) := silent
  obtain ⟨still, there⟩ := holds.quiet here idle quiet step
  exact ⟨trivial, still, tells _ _ step.1.1, there⟩

theorem handshakes_wrapper (idle : n.requesting = []) :
    Handshakes answers connection channel self (At place n) wrapper
      (fun m s => m.serverConnectionHandler = place.1 ∧ At place n s) := by
  have loads : Handshakes answers connection channel self (At place n) load
      (fun m s => m.wrapper.serverConnectionHandler = place.1 ∧ At place n s) := by
    apply Triple.perform (at_stable place n) fun _ => known_stable _ (at_stable place n)
    intro s m t holds here step
    have quiet : Quiet bound .load := trivial
    obtain ⟨still, there⟩ := holds.quiet here idle quiet step
    obtain rfl : m = s.world.memory := step.1.1
    exact ⟨trivial, still, congrArg Prod.fst here.1, there⟩
  exact loads.bind fun m => Triple.pure (known_stable _ (at_stable place n)) fun _ _ found => found

def listing (connection handle : UInt64) (ids : List AnyID) (n : Notes) : Notes :=
  if handle = connection then { n with listed := true, pending := ids } else n

def muting (connection handle : UInt64) (id : AnyID) (n : Notes) : Notes :=
  if handle = connection then { n with pending := n.pending.filter fun other => other ≠ id }
  else { n with astray := true }

theorem handshakes_list {handle : UInt64} (grants : Grants answers) (idle : n.requesting = []) :
    Handshakes answers connection channel self (At place n)
      (teamspeak (.getChannelClientList handle channel)) (fun reply s => ∃ list, reply = some list ∧
        At place (listing connection handle (untilZero list.contents) n) s) := by
  apply Triple.perform (at_stable place n)
  · intro reply s t holds inv inv' apart
    obtain ⟨list, given, here⟩ := holds
    exact ⟨list, given, at_stable place _ s t here inv inv' apart⟩
  intro s reply t holds here step
  obtain ⟨w, n', people⟩ := t
  obtain ⟨⟨told, x, ⟨_, ⟨lists, rfl⟩, rfl⟩, rfl⟩, noted, rfl⟩ := step
  have granted : Grants (Environment.updating self answers).answers := grants
  obtain ⟨list, rfl⟩ := granted.answered told rfl
  have members := lists list rfl
  have place : link s.world.memory = place := here.1
  obtain rfl : n' = listing connection handle (untilZero list.contents) n := by
    rw [← here.2, listing]
    refine Eq.trans noted ?_
    simp [note]
  refine ⟨trivial, ?_, list, rfl, place, rfl⟩
  rw [← here.2, listing]
  by_cases own : handle = connection
  · subst own
    rw [if_pos rfl]
    have found (id : AnyID) : id ∈ untilZero list.contents ↔
        id ≠ 0 ∧ id ∈ (s.world.teamspeak handle).members channel := members id
    refine ⟨holds.playing, holds.gone, holds.cached, ?_, ?_, ?_⟩
    · intro id listed
      cases left : s.people.left id with
      | false => rfl
      | true => exact absurd ((found id).mp listed).2 (holds.gone id left)
    · intro id requested
      change id ∈ s.notes.requesting at requested
      rw [here.2, idle] at requested
      cases requested
    · intro _ id member nonzero _
      exact .inr (.inr ((found id).mpr ⟨nonzero, member⟩))
  · rw [if_neg own]
    exact ⟨holds.playing, holds.gone, holds.cached, holds.awaited, holds.requested, holds.muted⟩

def asking (connection handle : UInt64) (id : AnyID) (n : Notes) : Notes :=
  if handle = connection then { n with requesting := [id] } else { n with astray := true }

theorem Holds.asked {s : Session} {u : World} {id : AnyID} (holds : Holds connection channel s)
    (memory : u.memory = s.world.memory)
    (own : (u.teamspeak connection).ownId = (s.world.teamspeak connection).ownId)
    (members : (u.teamspeak connection).members = (s.world.teamspeak connection).members)
    (mutes : ∀ other, (u.teamspeak connection).muted other =
      if connection = place.1 ∧ other = id then true
      else (s.world.teamspeak connection).muted other)
    (waits : place.1 = connection → id ∈ s.notes.pending) :
    Holds connection channel ⟨u, asking connection place.1 id s.notes, s.people⟩ := by
  have muted (other : AnyID) (before : (s.world.teamspeak connection).muted other = true) :
      (u.teamspeak connection).muted other = true := by
    rw [mutes]
    split
    · rfl
    · exact before
  have playing : Playing u.memory := by
    rw [memory]
    exact holds.playing
  have gone (other : AnyID) (left : s.people.left other = true) :
      other ∉ (u.teamspeak connection).members channel := by
    rw [members]
    exact holds.gone other left
  have heard (listed : s.notes.listed = true) (other : AnyID)
      (member : other ∈ (u.teamspeak connection).members channel) (nonzero : other ≠ 0)
      (stranger : other ≠ (u.teamspeak connection).ownId) :
      (u.teamspeak connection).muted other = true ∨ s.people.unmuted other = true ∨
        other ∈ s.notes.pending := by
    rw [members] at member
    rw [own] at stranger
    exact (holds.muted listed other member nonzero stranger).imp (muted other) (fun rest => rest)
  unfold asking
  split
  · rename_i here
    refine ⟨playing, gone, ?_, holds.awaited, ?_, heard⟩
    · intro astray other left cached
      change other ∈ u.memory.wrapper.mutedClients at cached
      rw [memory] at cached
      exact holds.cached astray other left cached
    · intro other requested
      obtain rfl : other = id := List.mem_singleton.mp requested
      refine ⟨?_, waits here⟩
      change (u.teamspeak connection).muted other = true
      rw [mutes, if_pos ⟨here.symm, rfl⟩]
  · refine ⟨playing, gone, ?_, holds.awaited, ?_, heard⟩
    · intro straight
      cases straight
    · intro other requested
      obtain ⟨before, listed⟩ := holds.requested other requested
      exact ⟨muted other before, listed⟩

theorem handshakes_request {id : AnyID} (grants : Grants answers) (nonzero : id ≠ 0)
    (waits : place.1 = connection → id ∈ n.pending) :
    Handshakes answers connection channel self (At place n)
      (teamspeak (.requestMuteClients place.1 (clientIdArray (.singleton id))))
      (fun ok s => ok = true ∧ At place (asking connection place.1 id n) s) := by
  apply Triple.perform (at_stable place n) fun _ => known_stable _ (at_stable place _)
  intro s reply t holds here step
  obtain ⟨w, n', people⟩ := t
  obtain ⟨⟨told, x, ⟨_, accepts, rfl⟩, rfl⟩, noted, rfl⟩ := step
  have granted : Grants (Environment.updating self answers).answers := grants
  obtain rfl : reply = true := granted.accepted told rfl
  obtain rfl := (accepts : _ = accepted _ _ _ true)
  have ids := MoveEvents.untilZero_single nonzero
  obtain rfl : n' = asking connection place.1 id s.notes := by
    rw [asking]
    refine Eq.trans noted ?_
    simp only [note, ids]
  have there : asking connection place.1 id s.notes = asking connection place.1 id n := by
    rw [here.2]
  refine ⟨trivial, ?_, rfl, here.1, there⟩
  apply holds.asked
  · rfl
  · apply accepted_part Connection.ownId _ _ true ?_ connection
    exact fun _ => rfl
  · apply accepted_part Connection.members _ _ true ?_ connection
    exact fun _ => rfl
  · intro other
    have muted := accepted_muted s.world.teamspeak place.1
      (untilZero (clientIdArray (.singleton id))) true true connection other
    refine Eq.trans muted ?_
    simp only [ids, true_and, List.mem_singleton]
  · rw [here.2]
    exact waits

theorem Holds.stored {s : Session} {u : World} {id : AnyID} (holds : Holds connection channel s)
    (asked : s.notes = asking connection place.1 id n) (idle : n.requesting = [])
    (kept : footing u.memory = footing s.world.memory)
    (cache : u.memory.wrapper.mutedClients = s.cache.insert id)
    (teamspeak : u.teamspeak = s.world.teamspeak) :
    Holds connection channel ⟨u, muting connection place.1 id n, s.people⟩ := by
  obtain ⟨w, notes, people⟩ := s
  obtain rfl : notes = asking connection place.1 id n := asked
  have playing := holds.playing.of_footing kept
  have gone (other : AnyID) (left : people.left other = true) :
      other ∉ (u.teamspeak connection).members channel := by
    rw [teamspeak]
    exact holds.gone other left
  unfold muting asking at *
  split
  · rename_i here
    rw [if_pos here] at holds
    obtain ⟨muted, listed⟩ := holds.requested id (List.mem_singleton_self id)
    refine ⟨playing, gone, ?_, ?_, ?_, ?_⟩
    · intro astray other left cached
      change other ∈ u.memory.wrapper.mutedClients at cached
      rw [cache, SortedSet.mem_insert] at cached
      rcases cached with rfl | before
      · have present : people.left other = false := holds.awaited other listed
        rw [present] at left
        cases left
      · exact holds.cached astray other left before
    · intro other waits
      exact holds.awaited other (List.mem_filter.mp waits).1
    · intro other requested
      change other ∈ n.requesting at requested
      rw [idle] at requested
      cases requested
    · intro inList other member nonzero stranger
      change other ∈ (u.teamspeak connection).members channel at member
      change other ≠ (u.teamspeak connection).ownId at stranger
      change (u.teamspeak connection).muted other = true ∨ _
      rw [teamspeak] at member stranger ⊢
      rcases holds.muted inList other member nonzero stranger with before | unmuted | waits
      · exact .inl before
      · exact .inr (.inl unmuted)
      · by_cases same : other = id
        · rw [same]
          exact .inl muted
        · exact .inr (.inr (List.mem_filter.mpr ⟨waits, by simpa using same⟩))
  · rename_i elsewhere
    rw [if_neg elsewhere] at holds
    refine ⟨playing, gone, ?_, holds.awaited, ?_, ?_⟩
    · intro straight
      cases straight
    · intro other requested
      change (u.teamspeak connection).muted other = true ∧ _
      rw [teamspeak]
      exact holds.requested other requested
    · intro inList other
      change other ∈ (u.teamspeak connection).members channel → _ →
        other ≠ (u.teamspeak connection).ownId → (u.teamspeak connection).muted other = true ∨ _
      rw [teamspeak]
      exact holds.muted inList other

theorem handshakes_store {id : AnyID} (idle : n.requesting = []) :
    Handshakes answers connection channel self (At place (asking connection place.1 id n))
      (setMutedClients (·.insert id)) (fun _ => At place (muting connection place.1 id n)) := by
  apply Triple.perform (at_stable place _) fun _ => at_stable place _
  intro s reply t holds here step
  obtain ⟨w, n', people⟩ := t
  obtain ⟨stored, noted, rfl⟩ := step
  obtain rfl : w = _ := stored
  have there : n' = muting connection place.1 id n := by
    refine Eq.trans noted ?_
    rw [here.2]
    unfold asking muting
    split
    · simp [note, idle]
    · simp [note, idle]
  rw [there]
  refine ⟨trivial, ?_, here.1, rfl⟩
  exact holds.stored here.2 idle rfl rfl rfl

variable (grants : Grants answers)

theorem muting_idle {id : AnyID} {handle : UInt64} (idle : n.requesting = []) :
    (muting connection handle id n).requesting = [] := by
  unfold muting
  split
  · exact idle
  · exact idle

include grants

theorem handshakes_muteClient {id : AnyID} (idle : n.requesting = []) (nonzero : id ≠ 0)
    (waits : place.1 = connection → id ∈ n.pending) :
    Handshakes answers connection channel self (At place n) (ts3MuteClient id true)
      (fun _ => At place (muting connection place.1 id n)) := by
  unfold ts3MuteClient ts3MuteClients
  rw [if_neg (MoveEvents.singleton_some id)]
  dsimp only
  rw [if_pos rfl]
  apply (handshakes_wrapper idle).bind
  intro m
  apply Triple.known
  intro read
  rw [read]
  apply (handshakes_request grants nonzero waits).bind
  intro ok
  apply Triple.known
  intro accepted
  rw [if_pos accepted]
  have stores : Handshakes answers connection channel self
      (At place (asking connection place.1 id n))
      (forM (SortedSet.singleton id).elems fun id => setMutedClients (·.insert id))
      (fun _ => At place (muting connection place.1 id n)) :=
    (handshakes_store idle).bind fun _ => Triple.pure (at_stable place _) fun _ _ here => here
  exact stores.bind fun _ => Triple.pure (at_stable place _) fun _ _ here => here

def mutings (connection handle : UInt64) : List AnyID → Notes → Notes
  | [], n => n
  | id :: rest, n => mutings connection handle rest (muting connection handle id n)

omit grants in
theorem mutings_own (connection : UInt64) (ids : List AnyID) (n : Notes) :
    mutings connection connection ids n =
      { n with pending := n.pending.filter fun id => id ∉ ids } := by
  induction ids generalizing n with
  | nil => simp [mutings]
  | cons id rest ih =>
    rw [mutings, ih, muting, if_pos rfl, List.filter_filter]
    congr 1
    apply List.filter_congr
    intro other _
    simp only [List.mem_cons, not_or, Bool.decide_and, Bool.and_comm]

omit grants in
theorem mutings_other {handle : UInt64} (other : handle ≠ connection) (ids : List AnyID)
    (n : Notes) : mutings connection handle ids n =
      { n with astray := n.astray || !ids.isEmpty } := by
  induction ids generalizing n with
  | nil => simp [mutings]
  | cons id rest ih =>
    rw [mutings, ih, muting, if_neg other]
    simp

omit grants in
theorem mutings_idle (connection handle : UInt64) (ids : List AnyID) (idle : n.requesting = []) :
    (mutings connection handle ids n).requesting = [] := by
  induction ids generalizing n with
  | nil => exact idle
  | cons id rest ih => exact ih (muting_idle idle)

theorem handshakes_muteAll {ids : List AnyID} (distinct : ids.Nodup) (nonzero : 0 ∉ ids)
    (idle : n.requesting = []) (waits : place.1 = connection → ∀ id ∈ ids, id ∈ n.pending) :
    Handshakes answers connection channel self (At place n)
      (forM ids fun id => discard (ts3MuteClient id true))
      (fun _ => At place (mutings connection place.1 ids n)) := by
  induction ids generalizing n with
  | nil => exact Triple.pure (at_stable place n) fun _ _ here => here
  | cons id rest ih =>
    obtain ⟨fresh, distinct⟩ := List.nodup_cons.mp distinct
    rw [List.forM_cons]
    have mutes : Handshakes answers connection channel self (At place n)
        (discard (ts3MuteClient id true)) (fun _ => At place (muting connection place.1 id n)) :=
      (handshakes_muteClient grants idle (by simpa using Ne.symm (List.ne_of_not_mem_cons nonzero))
        fun own => waits own id (by simp)).bind
          fun _ => Triple.pure (at_stable place _) fun _ _ here => here
    apply mutes.bind
    intro _
    apply ih distinct (List.not_mem_of_not_mem_cons nonzero) (muting_idle idle)
    intro own other member
    have different : other ≠ id := fun same => fresh (same ▸ member)
    rw [muting, if_pos own]
    exact List.mem_filter.mpr ⟨waits own other (by simp [member]), by simpa using different⟩

theorem handshakes_poll (idle : n.requesting = []) :
    Handshakes answers connection channel self (At place n) (pollRound channel)
      (fun found s => found ≠ some false ∧ At place n s) := by
  have sleeps : (sleepFor 10).Calls (Quiet bound) := ⟨trivial, fun _ => trivial⟩
  unfold pollRound
  apply (handshakes_quiet sleeps idle).bind
  intro _
  apply (handshakes_wrapper idle).bind
  intro m
  apply Triple.known
  intro _
  let call : TeamSpeakCall := .getChannelAreSubscribed m.serverConnectionHandler channel
  have silent : Silent (.teamspeak call) := trivial
  have answered (w : World) (reply : Option Int32) (told : answers (.teamspeak call) w reply) :
      reply.isSome = true := by
    have succeeded := grants.succeeds call w reply told
    exact Option.isNone_eq_false_iff.mp succeeded
  have asks : Handshakes answers connection channel self (At place n) (teamspeak call)
      (fun (reply : Option Int32) s => reply.isSome = true ∧ At place n s) :=
    handshakes_ask silent idle answered
  apply asks.bind
  intro reply
  apply Triple.known
  intro given
  cases reply with
  | none => cases given
  | some isSubscribed =>
    dsimp only
    split
    · exact Triple.pure (at_stable place n) fun _ _ here => ⟨by simp, here⟩
    · exact Triple.pure (at_stable place n) fun _ _ here => ⟨by simp, here⟩

theorem handshakes_awaits (idle : n.requesting = []) :
    Handshakes answers connection channel self (At place n)
      (Program.repeatUntil (pollRound channel)) (fun subscribed s =>
        subscribed = true ∧ At place n s) := by
  intro s inv here
  apply Safe.repeatUntil (at_stable place n) here
  intro t inv here
  apply Safe.mono ?_ (handshakes_poll grants idle t inv here)
  intro found u inv told
  obtain ⟨through, here⟩ := told
  cases found with
  | none => exact here
  | some subscribed =>
    intro v between inv'
    refine ⟨?_, ((at_stable place n).between between inv here).1⟩
    cases subscribed with
    | true => rfl
    | false => exact absurd rfl through

theorem handshakes_clients (idle : n.requesting = []) :
    Handshakes answers connection channel self (At place n) (ts3ClientsInChannel channel)
      (fun clients s => ∃ ids, clients = .ofList (untilZero ids) ∧
        At place (listing connection place.1 (untilZero ids) n) s) := by
  unfold ts3ClientsInChannel
  apply (handshakes_wrapper idle).bind
  intro m
  apply Triple.known
  intro _
  let call : TeamSpeakCall := .requestChannelSubscribe m.serverConnectionHandler [channel, 0]
  have silent : Silent (.teamspeak call) := trivial
  have accepted (w : World) (reply : Bool) (told : answers (.teamspeak call) w reply) :
      reply = true := by
    have succeeded : (!reply) = false := grants.succeeds call w reply told
    simpa using succeeded
  have subscribes : Handshakes answers connection channel self (At place n) (teamspeak call)
      (fun (reply : Bool) s => reply = true ∧ At place n s) :=
    handshakes_ask silent idle accepted
  apply subscribes.bind
  intro ok
  apply Triple.known
  intro ok
  subst ok
  rw [if_neg (by decide)]
  apply (handshakes_awaits grants idle).bind
  intro subscribed
  apply Triple.known
  intro subscribed
  subst subscribed
  rw [if_neg (by decide)]
  apply (handshakes_wrapper idle).bind
  intro m
  apply Triple.known
  intro read
  apply (handshakes_list grants idle).bind
  intro reply
  apply Triple.exists
  intro list
  apply Triple.known
  intro given
  subst given
  rw [read]
  have frees : (teamspeak (.freeMemory list.address)).Calls (Quiet bound) :=
    quiet_teamspeak trivial
  have still : (listing connection place.1 (untilZero list.contents) n).requesting = [] := by
    unfold listing
    split
    · exact idle
    · exact idle
  dsimp only
  apply (handshakes_quiet frees still).bind
  intro _
  exact Triple.pure (at_stable place _) fun _ _ here => ⟨list.contents, rfl, here⟩

theorem handshakes_ownId {handle : UInt64} (idle : n.requesting = []) :
    Handshakes answers connection channel self (At place n) (ts3ClientId handle)
      (fun id s => (handle ≠ 0 → id ≠ 0) ∧ At place n s) := by
  unfold ts3ClientId
  split
  · rename_i zero
    exact Triple.pure (at_stable place n) fun _ _ here => ⟨fun known => absurd zero known, here⟩
  let asksStatus : TeamSpeakCall := .getConnectionStatus handle
  have silent : Silent (.teamspeak asksStatus) := trivial
  have connected (w : World) (reply : Option Int32)
      (told : answers (.teamspeak asksStatus) w reply) :
      ∃ status, reply = some status ∧ ¬ status ≤ 0 := by
    have succeeded : reply.isNone = false := grants.succeeds asksStatus w reply told
    obtain ⟨status, rfl⟩ := Option.isSome_iff_exists.mp (Option.isNone_eq_false_iff.mp succeeded)
    exact ⟨status, rfl, grants.online handle w status told⟩
  have first : Handshakes answers connection channel self (At place n) (teamspeak asksStatus)
      (fun (reply : Option Int32) s => (∃ status, reply = some status ∧ ¬ status ≤ 0) ∧
        At place n s) := handshakes_ask silent idle connected
  apply first.bind
  intro reply
  apply Triple.known
  intro online
  obtain ⟨status, rfl, online⟩ := online
  dsimp only
  rw [if_neg online]
  let asksId : TeamSpeakCall := .getClientID handle
  have silent : Silent (.teamspeak asksId) := trivial
  have named (w : World) (reply : Option AnyID) (told : answers (.teamspeak asksId) w reply) :
      ∃ id, reply = some id ∧ id ≠ 0 := by
    have succeeded : reply.isNone = false := grants.succeeds asksId w reply told
    obtain ⟨id, rfl⟩ := Option.isSome_iff_exists.mp (Option.isNone_eq_false_iff.mp succeeded)
    exact ⟨id, rfl, grants.known handle w id told⟩
  have second : Handshakes answers connection channel self (At place n) (teamspeak asksId)
      (fun (reply : Option AnyID) s => (∃ id, reply = some id ∧ id ≠ 0) ∧ At place n s) :=
    handshakes_ask silent idle named
  apply second.bind
  intro reply
  apply Triple.known
  intro given
  obtain ⟨id, rfl, nonzero⟩ := given
  exact Triple.pure (at_stable place n) fun _ _ here => ⟨fun _ => nonzero, here⟩

omit grants in
theorem handshakes_setIdentity (id : AnyID) (idle : n.requesting = []) :
    Handshakes answers connection channel self (At place n)
      (setClient fun c => { c with teamspeakId := id }) (fun _ => At (place.1, id) n) := by
  apply Triple.perform (at_stable place n) fun _ => at_stable _ n
  intro s reply t holds here step
  have quiet : Quiet basis (.store fun m =>
      { m with client := { m.client with teamspeakId := id } }) := fun _ => rfl
  obtain ⟨unchanged, still⟩ := quiet_step quiet step
  have notes : t.notes = s.notes := still (by rw [here.2, idle])
  have memory : t.world.memory = _ := memory_of_step step.1
  have handler : s.handler = place.1 := congrArg Prod.fst here.1
  refine ⟨trivial, holds.unchanged unchanged notes, ?_, notes.trans here.2⟩
  rw [memory]
  exact Prod.ext handler rfl

def fresh : Notes := ⟨false, false, [], []⟩

-- What is known once the response is through, when it listed the channel.
structure Through (connection : UInt64) (s : Session) : Prop where
  heard : Heard connection s.world
  straight : s.notes.astray = false
  pending : s.notes.pending = []
  requesting : s.notes.requesting = []

def Finished (connection : UInt64) (s : Session) : Prop :=
  s.notes.listed = true → Through connection s

def allMuted (connection handle : UInt64) (ids : List AnyID) : Notes :=
  mutings connection handle (SortedSet.ofList ids).elems (listing connection handle ids fresh)

omit grants in
theorem allMuted_idle (connection handle : UInt64) (ids : List AnyID) :
    (allMuted connection handle ids).requesting = [] := by
  apply mutings_idle
  unfold listing
  split
  · rfl
  · rfl

theorem handshakes_enter (lastChannelId : UInt64) (tempMute : Bool) :
    Handshakes answers connection channel self (At place fresh)
      (MuteState.enter place.1 lastChannelId channel tempMute) (fun _ s => ∃ id ids,
        (place.1 ≠ 0 → id ≠ 0) ∧ At (place.1, id) (allMuted connection place.1 ids) s) := by
  unfold MuteState.enter
  apply (handshakes_clients grants rfl).bind
  intro clients
  apply Triple.exists
  intro list
  apply Triple.known
  intro same
  subst same
  have idle : (listing connection place.1 (untilZero list) fresh).requesting = [] := by
    unfold listing
    split
    · rfl
    · rfl
  have listed {id : AnyID} : id ∈ (SortedSet.ofList (untilZero list)).elems ↔
      id ∈ untilZero list := by
    rw [SortedSet.mem_elems, SortedSet.mem_ofList]
  have distinct : (SortedSet.ofList (untilZero list)).elems.Nodup :=
    (SortedSet.ofList (untilZero list)).ascending.imp ne_of_lt
  have nonzero : 0 ∉ (SortedSet.ofList (untilZero list)).elems := by
    rw [listed]
    exact fun zero => mem_untilZero_ne zero rfl
  have waits (own : place.1 = connection) (id : AnyID)
      (member : id ∈ (SortedSet.ofList (untilZero list)).elems) :
      id ∈ (listing connection place.1 (untilZero list) fresh).pending := by
    rw [listing, if_pos own]
    exact listed.mp member
  apply (handshakes_muteAll grants distinct nonzero idle waits).bind
  intro _
  have still := allMuted_idle connection place.1 (untilZero list)
  have settles : Handshakes answers connection channel self
      (At place (allMuted connection place.1 (untilZero list))) (do
        let teamspeakId ← ts3ClientId place.1
        setClient fun c => { c with teamspeakId := teamspeakId }
        setClient fun c => { c with lastChannelId := lastChannelId })
      (fun _ s => ∃ id ids, (place.1 ≠ 0 → id ≠ 0) ∧
        At (place.1, id) (allMuted connection place.1 ids) s) := by
    apply (handshakes_ownId grants still).bind
    intro id
    apply Triple.known
    intro named
    apply (handshakes_setIdentity id still).bind
    intro _
    have saves : (setClient fun c => { c with lastChannelId := lastChannelId }).Calls
        (Quiet bound) := quiet_setClient fun _ => rfl
    apply (handshakes_quiet saves still).mono (fun _ _ here => here)
    intro _ s _ here
    exact ⟨id, untilZero list, named, here⟩
  have sleeps : (sleepFor 500).Calls (Quiet bound) := ⟨trivial, fun _ => trivial⟩
  have unmutes : (discard (ts3SetOutputMuted place.1 false)).Calls (Quiet bound) :=
    quiet_asking (discard_calls (ts3SetOutputMuted_on place.1 false)) (by decide)
  dsimp only
  split
  · apply (handshakes_quiet sleeps still).bind
    intro _
    apply (handshakes_quiet unmutes still).bind
    intro _
    exact settles
  · exact settles

omit grants in
theorem allMuted_through {s : Session} {id : AnyID} {ids : List AnyID} (known : connection ≠ 0)
    (named : place.1 ≠ 0 → id ≠ 0) (here : At (place.1, id) (allMuted connection place.1 ids) s) :
    Finished connection s := by
  intro listed
  obtain ⟨linked, notes⟩ := here
  by_cases own : place.1 = connection
  · rw [allMuted, own, mutings_own, listing, if_pos rfl] at notes
    rw [own] at linked named
    have none : ids.filter (fun id => id ∉ (SortedSet.ofList ids).elems) = [] := by
      rw [List.filter_eq_nil_iff]
      intro other member
      simpa [SortedSet.mem_elems] using member
    have identity : s.world.memory.client.teamspeakId = id := congrArg Prod.snd linked
    constructor
    · refine ⟨congrArg Prod.fst linked, ?_⟩
      rw [identity]
      exact named known
    · rw [notes]
      rfl
    · rw [notes]
      exact none
    · rw [notes]
      rfl
  · rw [allMuted, mutings_other own, listing, if_neg own] at notes
    rw [notes] at listed
    cases listed

theorem handshakes_enterChannel (known : connection ≠ 0) (lastChannelId : UInt64)
    (tempMute : Bool) : Handshakes answers connection channel self (At place fresh)
      (enterChannel place.1 lastChannelId channel tempMute) (fun _ => Finished connection) := by
  rw [MuteState.enterChannel_program]
  apply (handshakes_enter grants lastChannelId tempMute).bind
  intro _
  apply Triple.exists
  intro id
  apply Triple.exists
  intro ids
  apply Triple.known
  intro named
  have idle := allMuted_idle connection place.1 ids
  apply (handshakes_quiet (quiet_replies statusCodeOk) idle).bind
  intro _
  apply (handshakes_quiet (quiet_initialStatus place.1) idle).mono (fun _ _ here => here)
  intro _ s _ here
  exact allMuted_through known named here

omit grants in
theorem unlisted_finished {s : Session} (here : s.notes = fresh) : Finished connection s := by
  intro listed
  rw [here] at listed
  cases listed

omit grants in
theorem handshakes_handle (idle : n.requesting = []) :
    Handshakes answers connection channel self (At place n) ts3ServerConnectionHandle
      (fun handle s => handle = place.1 ∧ At place n s) := by
  apply (handshakes_wrapper idle).bind
  intro m
  exact Triple.pure (known_stable _ (at_stable place n)) fun _ _ read => read

omit grants in
theorem handshakes_fails (statusCode : Int32) :
    Handshakes answers connection channel self (At place fresh)
      (sendHandshake statusCode >>= fun _ => pure ()) (fun _ => Finished connection) := by
  apply (handshakes_quiet (quiet_replies statusCode) rfl).bind
  intro _
  exact Triple.pure (at_stable place fresh) fun _ _ here => unlisted_finished here.2

omit grants in
theorem handshakes_placed {α : Type} {p : Plugin α} {post : α → Session → Prop}
    (triple : ∀ place, Handshakes answers connection channel self (At place n) p post) :
    Handshakes answers connection channel self (·.notes = n) p post := by
  intro s inv noted
  exact triple (link s.world.memory) s inv ⟨rfl, noted⟩

theorem handshakes_moves (known : connection ≠ 0) (lastChannelId : UInt64) (tempMute : Bool)
    (password : StdString) : Handshakes answers connection channel self (At place fresh) (do
      if !(← ts3MoveToChannel channel password) then
        sendHandshake statusCodeNotMovedToChannel
        return ()
      enterChannel place.1 lastChannelId channel tempMute) (fun _ => Finished connection) := by
  have moves : (ts3MoveToChannel channel password).Calls (Quiet bound) :=
    quiet_asking (ts3MoveToChannel_on channel password) (by decide)
  apply (handshakes_quiet moves rfl).bind
  intro moved
  split
  · exact handshakes_fails _
  · exact handshakes_enterChannel grants known lastChannelId tempMute

theorem handshakes_response (known : connection ≠ 0) {packet : Bytes}
    (inside : ∀ p, receive HandshakeResponsePacket.serialize packet = some p →
      p.channelId = channel) : Handshakes answers connection channel self (·.notes = fresh)
      (handleHandshakeResponse packet) (fun _ => Finished connection) := by
  have done : Handshakes answers connection channel self (·.notes = fresh)
      (Pure.pure () : Plugin Unit) (fun _ => Finished connection) :=
    Triple.pure (noted_stable fresh) fun _ _ here => unlisted_finished here
  unfold handleHandshakeResponse
  cases received : receive HandshakeResponsePacket.serialize packet with
  | none => exact done
  | some p =>
    have here : p.channelId = channel := inside p received
    dsimp only
    split
    · exact done
    apply (handshakes_noted (quiet_verifyServer _) rfl).bind
    intro verified
    -- the connection that was found, if any, is not changed any more
    apply handshakes_placed
    intro place
    split
    · exact handshakes_fails _
    apply (handshakes_handle rfl).bind
    intro handle
    apply Triple.known
    intro same
    subst same
    apply (handshakes_quiet quiet_channelId rfl).bind
    intro lastChannelId
    have output : (ts3IsOutputMuted place.1).Calls (Quiet bound) :=
      quiet_asking (ts3IsOutputMuted_on place.1) (by decide)
    apply (handshakes_quiet output rfl).bind
    intro muted
    rw [here]
    have moves : Handshakes answers connection channel self (At place fresh) (do
        if !(← ts3MoveToChannel channel p.channelPassword) then
          sendHandshake statusCodeNotMovedToChannel
          return ()
        enterChannel place.1 lastChannelId channel (!muted)) (fun _ => Finished connection) :=
      handshakes_moves grants known lastChannelId (!muted) p.channelPassword
    have silences : (discard (ts3SetOutputMuted place.1 true)).Calls (Quiet bound) :=
      quiet_asking (discard_calls (ts3SetOutputMuted_on place.1 true)) (by decide)
    have sleeps : (sleepFor 500).Calls (Quiet bound) := ⟨trivial, fun _ => trivial⟩
    split
    · apply (handshakes_quiet silences rfl).bind
      intro _
      apply (handshakes_quiet sleeps rfl).bind
      intro _
      exact moves
    · exact moves

end Triples

structure Begins (connection channel : UInt64) (packet : Bytes) (c : Sessions) : Prop where
  handshake : c.handshake = handleHandshakeResponse packet
  inside : ∀ p, receive HandshakeResponsePacket.serialize packet = some p → p.channelId = channel
  notes : c.state.notes = fresh
  playing : Playing c.state.world.memory
  gone : ∀ id, c.state.people.left id = true →
    id ∉ (c.state.world.teamspeak connection).members channel
  cached : ∀ id, c.state.people.left id = true → id ∈ c.state.cache →
    c.state.people.remuted id = true

def CarefulStep (answers : (call : External) → World → call.Reply → Prop)
    (connection channel : UInt64) (self : ThreadId) (c d : Sessions) : Prop :=
  ∃ act, Step answers connection channel self act c d ∧ Careful connection channel act c

section Runs

variable {answers : (call : External) → World → call.Reply → Prop} {connection channel : UInt64}
  {self : ThreadId} {c d : Sessions}

structure Guarded (answers : (call : External) → World → call.Reply → Prop)
    (connection channel : UInt64) (thread : ThreadId) (c : Sessions) : Prop where
  playing : Playing c.state.world.memory
  safe : (c.handshake = .ret () ∧ c.state.notes.listed = false) ∨
    (Holds connection channel c.state ∧ Safe (sem answers connection channel thread)
      (contract connection channel) c.handshake (fun _ => Finished connection) c.state)

theorem Guarded.through (guarded : Guarded answers connection channel self c)
    (idle : c.handshake = .ret ()) (listed : c.state.notes.listed = true) :
    Holds connection channel c.state ∧ Through connection c.state := by
  rcases guarded.safe with ⟨-, unlisted⟩ | ⟨holds, safe⟩
  · rw [unlisted] at listed
    cases listed
  · rw [idle] at safe
    exact ⟨holds, safe c.state .refl holds listed⟩

theorem Guarded.others {t : Session} (guarded : Guarded answers connection channel self c)
    (apart : Apart c.state t) (kept : footing t.world.memory = footing c.state.world.memory)
    (holds : Holds connection channel c.state →
      (c.handshake = .ret () → Through connection c.state) → Holds connection channel t) :
    Guarded answers connection channel self ⟨c.handshake, t⟩ := by
  refine ⟨guarded.playing.of_footing kept, ?_⟩
  have continues (held : Holds connection channel c.state) (safe : Safe
      (sem answers connection channel self) (contract connection channel) c.handshake
        (fun _ => Finished connection) c.state)
      (settled : c.handshake = .ret () → Through connection c.state) :
      Holds connection channel t ∧ Safe (sem answers connection channel self)
        (contract connection channel) c.handshake (fun _ => Finished connection) t := by
    have still := holds held settled
    exact ⟨still, safe.between held (.single ⟨apart, still⟩)⟩
  rcases guarded.safe with ⟨idle, unlisted⟩ | ⟨held, safe⟩
  · exact .inl ⟨idle, by rw [apart.notes, unlisted]⟩
  by_cases idle : c.handshake = .ret ()
  · cases listed : c.state.notes.listed with
    | false => exact .inl ⟨idle, by rw [apart.notes, listed]⟩
    | true => exact .inr (continues held safe fun _ => (guarded.through idle listed).2)
  · exact .inr (continues held safe fun through => absurd through idle)

variable (grants : Grants answers) (known : connection ≠ 0)

include grants known

theorem Guarded.step (guarded : Guarded answers connection channel self c)
    (step : CarefulStep answers connection channel self c d) :
    Guarded answers connection channel self d := by
  obtain ⟨act, step, careful⟩ := step
  cases step with
  | turn move =>
    rcases guarded.safe with ⟨idle, -⟩ | ⟨holds, safe⟩
    · rw [idle] at move
      cases move
    · obtain ⟨-, still, rest⟩ := safe.move holds (fun _ _ => trivial) move
      exact ⟨still.playing, .inr ⟨still, rest⟩⟩
  | moved event other stays caller threading u step =>
    have here : (c.state.world.teamspeak.on connection (move · event)) connection =
        move (c.state.world.teamspeak connection) event := by simp [TeamSpeak.on]
    have follows : Follows connection (change connection channel event c.state.world)
        (c.state.world.setTeamspeak (c.state.world.teamspeak.on connection (move · event))) u := by
      refine step.wp (wp_event grants known guarded.playing ?_ ?_)
      · rw [World.setTeamspeak_teamspeak, here]
        exact other
      · rw [World.setTeamspeak_teamspeak, here]
        exact stays
    have frame := follows.frame
    apply guarded.others
    · refine ⟨?_, rfl⟩
      exact Prod.ext frame.handler (congrArg Client.teamspeakId frame.client)
    · exact frame.kept
    · intro holds through
      apply holds.moved _ follows
      by_cases idle : c.handshake = .ret ()
      · have settled := through idle
        constructor
        · exact fun _ _ => .inl settled.heard
        · intro _ _
          rw [settled.pending]
          exact ⟨List.not_mem_nil, .inl settled.heard⟩
      · exact careful idle
  | updated idle packet caller threading u step =>
    have updates := step.stays (updates_message connection packet)
    have frame := updates.frame
    apply guarded.others
    · refine ⟨?_, rfl⟩
      exact Prod.ext frame.handler (congrArg Client.teamspeakId frame.client)
    · exact frame.kept
    · intro holds through
      have settled := through idle
      exact holds.updated settled.pending settled.requesting updates
  | elsewhere u same =>
    apply guarded.others
    · exact ⟨Prod.ext same.handler same.identity, rfl⟩
    · exact same.kept
    · intro holds _
      exact holds.elsewhere same

theorem Begins.guarded {packet : Bytes} (begins : Begins connection channel packet c) :
    Guarded answers connection channel self c := by
  have holds : Holds connection channel c.state := by
    refine ⟨begins.playing, begins.gone, fun _ => begins.cached, ?_, ?_, ?_⟩
    · intro id waits
      rw [begins.notes] at waits
      cases waits
    · intro id requested
      rw [begins.notes] at requested
      cases requested
    · intro listed
      rw [begins.notes] at listed
      cases listed
  have safe : Safe (sem answers connection channel self) (contract connection channel)
      (handleHandshakeResponse packet) (fun _ => Finished connection) c.state :=
    handshakes_response grants known begins.inside c.state holds begins.notes
  rw [← begins.handshake] at safe
  exact ⟨begins.playing, .inr ⟨holds, safe⟩⟩

theorem Begins.run {packet : Bytes} (begins : Begins connection channel packet c)
    (run : ReflTransGen (CarefulStep answers connection channel self) c d) :
    Guarded answers connection channel self d := by
  induction run with
  | refl => exact begins.guarded grants known
  | tail _ step ih => exact ih.step grants known step

end Runs

theorem Guarded.begins {answers : (call : External) → World → call.Reply → Prop}
    {connection channel : UInt64} {self : ThreadId} {c : Sessions}
    (guarded : Guarded answers connection channel self c) (idle : c.handshake = .ret ())
    (listed : c.state.notes.listed = true) {packet : Bytes}
    (inside : ∀ p, receive HandshakeResponsePacket.serialize packet = some p →
      p.channelId = channel) : Begins connection channel packet
        ⟨handleHandshakeResponse packet, { c.state with notes := fresh }⟩ := by
  obtain ⟨holds, through⟩ := guarded.through idle listed
  exact ⟨rfl, inside, rfl, guarded.playing, holds.gone, holds.cached through.straight⟩

def answer (op : Op) (s : Session) : Option (op.Reply × Session) :=
  (answerOp 1 granting op s.world).map fun (reply, w) =>
    (reply, ⟨w, note 1 2 op reply s.notes, s.people⟩)

theorem answer_sound (op : Op) (s : Session) (reply : op.Reply) (t : Session)
    (answered : answer op s = some (reply, t)) : sem successes 1 2 1 op s reply t := by
  obtain ⟨⟨told, w⟩, given, same⟩ := Option.map_eq_some_iff.mp answered
  obtain ⟨rfl, rfl⟩ := Prod.mk.inj same
  exact ⟨answerOp_sound granting_within _ _ _ _ given, rfl, rfl⟩

def nobody : People := ⟨fun _ => false, fun _ => false, fun _ => false⟩

def begun : Sessions := ⟨handleHandshakeResponse okPayload, ⟨hosting, fresh, nobody⟩⟩

theorem begun_begins : Begins 1 2 okPayload begun where
  handshake := rfl
  inside p received := by
    rw [okPayload_received] at received
    obtain rfl := Option.some.inj received
    rfl
  notes := rfl
  playing := by
    refine ⟨?_, ?_, ?_⟩
    all_goals decide
  gone id left := by
    cases left
  cached id left := by
    cases left

def advanced (fuel : Nat) (c : Sessions) : Sessions :=
  let rest := advance answer fuel c.handshake c.state
  ⟨rest.1, rest.2⟩

def unrolled (c : Sessions) : Sessions := ⟨unroll c.handshake, c.state⟩

def reported (event : MoveEvent) (c : Sessions) : Sessions :=
  ⟨c.handshake, ⟨ranPlugin 2 granting (event.handler 1)
    (c.state.world.setTeamspeak (c.state.world.teamspeak.on 1 (move · event))), c.state.notes,
      c.state.people.move 2 event⟩⟩

theorem steps_of_moves {p q : Plugin Unit} {s t : Session}
    (moves : Moves (sem successes 1 2 1) p s q t) :
    ReflTransGen (CarefulStep successes 1 2 1) ⟨p, s⟩ ⟨q, t⟩ := by
  induction moves with
  | refl => exact .refl
  | head move _ ih => exact .head ⟨.turn, .turn move, trivial⟩ ih

theorem steps_advanced (fuel : Nat) (c : Sessions) :
    ReflTransGen (CarefulStep successes 1 2 1) c (advanced fuel c) :=
  steps_of_moves (advance_moves answer_sound fuel c.handshake c.state)

theorem steps_unrolled (c : Sessions) :
    ReflTransGen (CarefulStep successes 1 2 1) c (unrolled c) :=
  steps_of_moves (unroll_moves c.handshake c.state)

theorem step_reported {event : MoveEvent} {c : Sessions}
    (other : event.client ≠ (c.state.world.teamspeak 1).ownId)
    (stays : c.state.world.memory.client.IsIngame →
      (c.state.world.teamspeak 1).ownChannel = 2)
    (handled : (runPlugin 2 granting 60 (event.handler 1) (c.state.world.setTeamspeak
      (c.state.world.teamspeak.on 1 (move · event)))).map (·.1) = some ()) :
    Step successes 1 2 1 (.moved event) c (reported event c) :=
  .moved event other stays 2 (Environment.updating 1 successes).threading _
    (exec_ranPlugin granting_within handled)

theorem six_nonzero : (6 : AnyID) ≠ 0 := by decide

theorem five_nonzero : (5 : AnyID) ≠ 0 := by decide

def sixEnters : MoveEvent := ⟨6, 3, 2, six_nonzero⟩

def early : Sessions := advanced 60 (unrolled (advanced 60 (reported sixEnters begun)))

def late : Sessions :=
  advanced 60 (reported sixEnters (advanced 5 (unrolled (advanced 60 begun))))

theorem steps_early : ReflTransGen (CarefulStep successes 1 2 1) begun early := by
  have enters : CarefulStep successes 1 2 1 begun (reported sixEnters begun) := by
    refine ⟨.moved sixEnters, step_reported (by decide) (by decide) (by decide), fun _ => ⟨?_, ?_⟩⟩
    · intro _ listed
      cases listed
    · intro leaves
      exact absurd leaves (by decide)
  exact .head enters ((steps_advanced _ _).trans ((steps_unrolled _).trans (steps_advanced _ _)))

end ChannelMembers

end JustAnotherVoiceChat
