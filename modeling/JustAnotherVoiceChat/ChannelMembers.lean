import JustAnotherVoiceChat.Library.Interference
import JustAnotherVoiceChat.Restoring

set_option autoImplicit false

namespace JustAnotherVoiceChat

open Binary Interaction Relation

namespace ChannelMembers

open MoveEvents (MoveEvent)
open PlainUpdate (Serves applied_requested flags mem_splitAudioUpdates setAll)
open Restoring (Grants wp_ownId wp_ownChannel)

-- How far the handshake response is: the channel was listed; clients of another connection were
-- muted; the listed clients whom this response did not mute yet, and the ones it asked for last.
structure Notes where
  listed : Bool
  astray : Bool
  pending : List AnyID
  requesting : List AnyID

def note (connection channel : UInt64) : (op : Op) → op.Reply → Notes → Notes
  | .external (.teamspeak (.getChannelClientList handle channelId)), reply, n =>
    if handle = connection ∧ channelId = channel then
      { n with listed := true, pending := untilZero ((reply.map (·.contents)).getD []) }
    else n
  | .external (.teamspeak (.requestMuteClients handle ids)), _, n =>
    if handle = connection then { n with requesting := untilZero ids }
    else { n with astray := true }
  | .store _, _, n =>
    { n with pending := n.pending.filter fun id => id ∉ n.requesting, requesting := [] }
  | _, _, n => n

-- Who left the channel and did not come back; who was unmuted by an update packet since he came,
-- and muted by one since he left.
structure People where
  left : AnyID → Bool
  unmuted : AnyID → Bool
  remuted : AnyID → Bool

structure Session where
  world : World
  notes : Notes
  people : People

namespace Session

abbrev wrapper (s : Session) : Wrapper := s.world.memory.wrapper

abbrev handler (s : Session) : UInt64 := s.wrapper.serverConnectionHandler

abbrev cache (s : Session) : SortedSet AnyID := s.wrapper.mutedClients

end Session

def sem (answers : (call : External) → World → call.Reply → Prop) (connection channel : UInt64)
    (self : ThreadId) : Semantics Op Op.Reply Session :=
  fun op s reply t => steps self (.updating self answers) op s.world reply t.world ∧
    t.notes = note connection channel op reply s.notes ∧ t.people = s.people

def move (c : Connection) (event : MoveEvent) : Connection :=
  { c with
    members := fun channelId =>
      if event.newChannel = channelId then (c.members channelId).insert event.client
      else if event.oldChannel = channelId then (c.members channelId).erase event.client
      else c.members channelId }

def People.move (people : People) (channel : UInt64) (event : MoveEvent) : People :=
  if event.newChannel = channel then
    { people with
      left := Function.update people.left event.client false
      unmuted := Function.update people.unmuted event.client false }
  else if event.oldChannel = channel then
    { people with
      left := Function.update people.left event.client true
      remuted := Function.update people.remuted event.client false }
  else people

def People.update (people : People) (updates : List ClientAudioUpdate) : People :=
  { people with
    unmuted := fun id =>
      people.unmuted id || updates.any fun update => update.teamspeakId = id && !update.muted
    remuted := fun id =>
      people.remuted id || updates.any fun update => update.teamspeakId = id && update.muted }

def audioUpdates (packet : Bytes) : List ClientAudioUpdate :=
  ((receive UpdatePacket.serialize packet).map (·.audioUpdates.items)).getD []

structure Sessions where
  handshake : Plugin Unit
  state : Session

def footing (m : Memory) : Pointer × Option HostId × Option PeerId × Bool × UInt16 :=
  (m.globals.client, m.client.client, m.client.peer, m.client.running, m.client.gameId)

def Playing (m : Memory) : Prop :=
  m.globals.client ≠ .null ∧ m.client.IsOpen ∧ m.client.gameId ≠ 0

structure Elsewhere (connection channel : UInt64) (w u : World) : Prop where
  kept : footing u.memory = footing w.memory
  identity : u.memory.client.teamspeakId = w.memory.client.teamspeakId
  handler : u.memory.wrapper.serverConnectionHandler = w.memory.wrapper.serverConnectionHandler
  cache : u.memory.wrapper.mutedClients = w.memory.wrapper.mutedClients
  own : (u.teamspeak connection).ownId = (w.teamspeak connection).ownId
  muted : (u.teamspeak connection).muted = (w.teamspeak connection).muted
  members : (u.teamspeak connection).members channel = (w.teamspeak connection).members channel

inductive Act where
  | turn
  | moved (event : MoveEvent)
  | updated (packet : Bytes)
  | elsewhere

inductive Step (answers : (call : External) → World → call.Reply → Prop)
    (connection channel : UInt64) (self : ThreadId) : Act → Sessions → Sessions → Prop where
  | turn {c : Sessions} {rest : Plugin Unit} {t : Session}
      (move : Move (sem answers connection channel self) c.handshake c.state rest t) :
      Step answers connection channel self .turn c ⟨rest, t⟩
  -- another client moves, which is reported by one call; in game the own client stays where it is
  | moved {c : Sessions} (event : MoveEvent)
      (other : event.client ≠ (c.state.world.teamspeak connection).ownId)
      (stays : c.state.world.memory.client.IsIngame →
        (c.state.world.teamspeak connection).ownChannel = channel)
      (caller : ThreadId) (threading : (call : ThreadCall) → World → call.Reply → World → Prop)
      (u : World) (step : Exec (steps caller ⟨answers, threading⟩) (event.handler connection)
        (c.state.world.setTeamspeak (c.state.world.teamspeak.on connection (move · event))) () u) :
      Step answers connection channel self (.moved event) c
        ⟨c.handshake, ⟨u, c.state.notes, c.state.people.move channel event⟩⟩
  -- the update thread handles an update packet once it is through with the handshake response
  | updated {c : Sessions} (idle : c.handshake = .ret ()) (packet : Bytes) (caller : ThreadId)
      (threading : (call : ThreadCall) → World → call.Reply → World → Prop) (u : World)
      (step : Exec (steps caller ⟨answers, threading⟩) (handleUpdateMessage packet)
        c.state.world () u) :
      Step answers connection channel self (.updated packet) c
        ⟨c.handshake, ⟨u, c.state.notes, c.state.people.update (audioUpdates packet)⟩⟩
  | elsewhere {c : Sessions} (u : World) (same : Elsewhere connection channel c.state.world u) :
      Step answers connection channel self .elsewhere c
        ⟨c.handshake, ⟨u, c.state.notes, c.state.people⟩⟩

def Heard (connection : UInt64) (w : World) : Prop :=
  w.memory.wrapper.serverConnectionHandler = connection ∧ w.memory.client.teamspeakId ≠ 0

instance (connection : UInt64) (w : World) : Decidable (Heard connection w) :=
  inferInstanceAs (Decidable (_ ∧ _))

-- Once the channel was listed, nobody comes in unheard, unless he is muted already. Nobody leaves
-- who is listed and not yet muted by this response, and nobody in the cache leaves unheard.
structure Noticed (connection channel : UInt64) (event : MoveEvent) (s : Session) : Prop where
  enters : event.newChannel = channel → s.notes.listed = true →
    Heard connection s.world ∨ (s.world.teamspeak connection).muted event.client = true
  leaves : event.oldChannel = channel → event.newChannel ≠ channel →
    event.client ∉ s.notes.pending ∧ (Heard connection s.world ∨ event.client ∉ s.cache)

def Careful (connection channel : UInt64) (act : Act) (c : Sessions) : Prop :=
  match act with
  | .moved event => c.handshake ≠ .ret () → Noticed connection channel event c.state
  | _ => True

structure Frame (w u : World) : Prop where
  client : u.memory.client = w.memory.client
  globals : u.memory.globals = w.memory.globals
  handler : u.memory.wrapper.serverConnectionHandler = w.memory.wrapper.serverConnectionHandler
  own : ∀ handle, (u.teamspeak handle).ownId = (w.teamspeak handle).ownId
  members : ∀ handle, (u.teamspeak handle).members = (w.teamspeak handle).members

structure Still (w u : World) : Prop where
  frame : Frame w u
  cache : u.memory.wrapper.mutedClients = w.memory.wrapper.mutedClients
  muted : ∀ handle, (u.teamspeak handle).muted = (w.teamspeak handle).muted

instance : Std.Refl Frame := ⟨fun _ => ⟨rfl, rfl, rfl, fun _ => rfl, fun _ => rfl⟩⟩

instance : IsTrans World Frame where
  trans _ _ _ first second := ⟨second.client.trans first.client,
    second.globals.trans first.globals, second.handler.trans first.handler,
    fun handle => (second.own handle).trans (first.own handle),
    fun handle => (second.members handle).trans (first.members handle)⟩

instance : Std.Refl Still := ⟨fun w => ⟨Std.Refl.refl w, rfl, fun _ => rfl⟩⟩

instance : IsTrans World Still where
  trans _ _ _ first second := ⟨IsTrans.trans _ _ _ first.frame second.frame,
    second.cache.trans first.cache, fun handle => (second.muted handle).trans (first.muted handle)⟩

theorem Still.of_asked {w u : World} (memory : u.memory = w.memory)
    (teamspeak : u.teamspeak = w.teamspeak) : Still w u := by
  refine ⟨⟨?_, ?_, ?_, ?_, ?_⟩, ?_, ?_⟩
  all_goals simp [memory, teamspeak]

structure Follows (connection : UInt64) (change : (AnyID → Bool) → AnyID → Bool) (w u : World) :
    Prop where
  frame : Frame w u
  muted : (u.teamspeak connection).muted = change (w.teamspeak connection).muted
  cache : ∀ id, decide (id ∈ u.memory.wrapper.mutedClients) =
    change (fun other => decide (other ∈ w.memory.wrapper.mutedClients)) id

theorem Follows.of_still {connection : UInt64} {w u : World} (still : Still w u) :
    Follows connection id w u := by
  refine ⟨still.frame, still.muted connection, fun id => ?_⟩
  rw [still.cache]
  rfl

theorem Follows.after {connection : UInt64} {change : (AnyID → Bool) → AnyID → Bool}
    {w u v : World} (still : Still w u) (follows : Follows connection change u v) :
    Follows connection change w v := by
  refine ⟨IsTrans.trans _ _ _ still.frame follows.frame, ?_, fun id => ?_⟩
  · rw [follows.muted, still.muted]
  · rw [follows.cache, still.cache]

structure Updates (connection : UInt64) (told : AnyID → Bool → Prop) (w u : World) : Prop where
  frame : Frame w u
  muted : ∀ id, (w.teamspeak connection).muted id = true →
    (u.teamspeak connection).muted id = true ∨ told id false
  cache : ∀ id, id ∈ u.memory.wrapper.mutedClients →
    id ∈ w.memory.wrapper.mutedClients ∨ told id true

instance (connection : UInt64) (told : AnyID → Bool → Prop) :
    Std.Refl (Updates connection told) :=
  ⟨fun w => ⟨Std.Refl.refl w, fun _ muted => .inl muted, fun _ cached => .inl cached⟩⟩

instance (connection : UInt64) (told : AnyID → Bool → Prop) :
    IsTrans World (Updates connection told) where
  trans _ _ _ first second := by
    refine ⟨IsTrans.trans _ _ _ first.frame second.frame, fun id muted => ?_, fun id cached => ?_⟩
    · exact (first.muted id muted).elim (second.muted id) .inr
    · exact (second.cache id cached).elim (first.cache id) .inr

theorem Still.updates {connection : UInt64} {told : AnyID → Bool → Prop} {w u : World}
    (still : Still w u) : Updates connection told w u := by
  refine ⟨still.frame, fun id muted => .inl ?_, fun id cached => .inl ?_⟩
  · rw [still.muted]
    exact muted
  · rw [← still.cache]
    exact cached

def change (connection channel : UInt64) (event : MoveEvent) (w : World) :
    (AnyID → Bool) → AnyID → Bool :=
  if ¬ Heard connection w then id
  else if event.newChannel = channel then setAll (.singleton event.client) true
  else if event.oldChannel = channel then setAll (.singleton event.client) false
  else id

section Others

variable {self : ThreadId} {env : Environment}

theorem frame_requested {mute ok : Bool} {clients : SortedSet AnyID} {w u : World}
    (requested : MuteRequested self mute clients ok w u) : Frame w u := by
  refine ⟨requested.client, requested.globals, requested.handler, ?_, ?_⟩
  all_goals
    intro handle
    rw [requested.teamspeak]
  · apply accepted_part Connection.ownId _ _ _ ?_ handle
    exact fun _ => rfl
  · apply accepted_part Connection.members _ _ _ ?_ handle
    exact fun _ => rfl

theorem still_position (clientId : AnyID) (x y z : Single) :
    Stays (steps self env) Still (ts3SetClientPosition clientId x y z) := by
  intro w
  rw [wp_ts3SetClientPosition]
  split
  · exact Std.Refl.refl w
  · rw [wp_channelset3DAttributes]
    intro ok _
    have same {β : Type} (part : Connection → β)
        (keeps : ∀ c, part (c.setPosition clientId ⟨x, y, z⟩) = part c) (handle : UInt64) :
        part (accepted w.teamspeak w.memory.wrapper.serverConnectionHandler
          (·.setPosition clientId ⟨x, y, z⟩) ok handle) = part (w.teamspeak handle) :=
      accepted_part part _ _ ok keeps handle
    refine ⟨⟨rfl, rfl, rfl, ?_, ?_⟩, rfl, ?_⟩
    · exact same Connection.ownId fun _ => rfl
    · exact same Connection.members fun _ => rfl
    · exact same Connection.muted fun _ => rfl

theorem still_positions (updates : List ClientPositionUpdate) :
    Stays (steps self env) Still (setClientPositions updates) := by
  apply Stays.forM
  intro update _
  exact (still_position _ _ _ _).bind fun _ => Stays.ret ()

theorem wp_asksIngame {w : World} (created : w.memory.globals.client ≠ .null) :
    wp (steps self env) justAnotherVoiceChatIsIngame (fun ingame u =>
      ingame = decide w.memory.client.IsIngame ∧ u.memory = w.memory ∧ u.teamspeak = w.teamspeak)
      w := by
  unfold justAnotherVoiceChatIsIngame clientIsOpen
  simp only [wp_bind, wp_load, wp_ite, if_neg created, Program.pure_eq, wp_ret]
  rw [wp_object]
  intro _
  rw [wp_isOpen]
  split
  · rename_i closed
    have outside : ¬ w.memory.client.IsIngame := by
      intro ingame
      simp [ingame.1] at closed
    exact ⟨(decide_eq_false outside).symm, rfl, rfl⟩
  · rw [wp_object]
    intro _
    rw [wp_isIngame]
    exact ⟨rfl, rfl, rfl⟩

theorem mem_untilZero_array {clients : SortedSet AnyID} {id : AnyID}
    (member : id ∈ untilZero (clientIdArray clients)) : id ∈ clients := by
  have nonzero : id ≠ 0 := mem_untilZero_ne member
  have listed : id ∈ clientIdArray clients := List.takeWhile_subset _ member
  simpa [clientIdArray, nonzero, SortedSet.mem_elems] using listed

theorem updates_muting {connection : UInt64} {told : AnyID → Bool → Prop}
    {clients : SortedSet AnyID} (mute : Bool) (named : ∀ id ∈ clients, told id mute) :
    Stays (steps self env) (Updates connection told) (ts3MuteClients clients mute) := by
  intro w
  apply wp_muting
  · intro _
    exact Std.Refl.refl w
  intro ok u _ _ requested
  refine ⟨frame_requested requested, fun id muted => ?_, fun id cached => ?_⟩
  · rw [requested.teamspeak, accepted_muted]
    split
    · rename_i asked
      cases mute with
      | true => exact .inl rfl
      | false => exact .inr (named id (mem_untilZero_array asked.2.2))
    · exact .inl muted
  · rw [requested.cache] at cached
    split at cached
    · rename_i asked
      subst cached
      exact .inr (named id asked.2)
    · exact .inl cached

theorem updates_message (connection : UInt64) (packet : Bytes) :
    Stays (steps self env)
      (Updates connection fun id muted => (id, muted) ∈ flags (audioUpdates packet))
      (handleUpdateMessage packet) := by
  unfold handleUpdateMessage audioUpdates
  cases receive UpdatePacket.serialize packet with
  | none => exact Stays.ret ()
  | some updatePacket =>
    have split (id : AnyID) := mem_splitAudioUpdates updatePacket.audioUpdates.items id
    have positions : Stays (steps self env)
        (Updates connection fun id muted => (id, muted) ∈ flags updatePacket.audioUpdates.items)
        (setClientPositions updatePacket.positionUpdates.items) := by
      intro w
      exact wp_mono (fun _ _ still => still.updates) (still_positions _ w)
    apply Stays.bind
    · exact (updates_muting true fun id member => (split id).1.mp member).bind
        fun _ => Stays.ret ()
    intro _
    apply Stays.bind
    · exact (updates_muting false fun id member => (split id).2.mp member).bind
        fun _ => Stays.ret ()
    exact fun _ => positions

variable (grants : Grants env.answers)

include grants

theorem serves : Serves env where
  mutes _ _ _ _ told := grants.accepted told rfl
  unmutes _ _ _ _ told := grants.accepted told rfl
  places _ _ _ _ _ told := grants.accepted told rfl

theorem wp_muteOne {client : AnyID} (nonzero : client ≠ 0) (mute : Bool) {w : World} :
    wp (steps self env) (ts3MuteClient client mute) (fun _ u => Follows
      w.memory.wrapper.serverConnectionHandler (setAll (.singleton client) mute) w u) w := by
  have single : 0 ∉ SortedSet.singleton client := by
    simpa using Ne.symm nonzero
  apply wp_muting
  · intro none
    exact absurd none (MoveEvents.singleton_some client)
  · intro ok u _ told requested
    have accepted : ok = true := by
      cases mute with
      | true => exact (serves grants).mutes _ _ _ _ told
      | false => exact (serves grants).unmutes _ _ _ _ told
    subst accepted
    have applied := applied_requested single requested
    refine ⟨frame_requested requested, ?_, applied.cache⟩
    rw [applied.muted, if_pos rfl]

theorem wp_acts (event : MoveEvent) (channel : UInt64) {connection : UInt64} {w : World}
    (handler : w.memory.wrapper.serverConnectionHandler = connection) :
    wp (steps self env) (event.act channel) (fun _ u => Follows connection
      (if event.newChannel = channel then setAll (.singleton event.client) true
        else if event.oldChannel = channel then setAll (.singleton event.client) false
        else id) w u) w := by
  subst handler
  unfold MoveEvent.act
  rw [wp_ite]
  split
  · rename_i new
    rw [if_pos new.symm, wp_bind, wp_discard]
    exact wp_muteOne grants event.nonzero true
  rename_i notNew
  rw [if_neg (Ne.symm notNew), wp_ite]
  split
  · rename_i old
    rw [if_pos old.symm, wp_bind, wp_discard]
    apply wp_mono ?_ (still_position event.client 0 0 0 w)
    intro _ u still
    rw [wp_bind, wp_discard, ← still.frame.handler]
    apply wp_mono ?_ (wp_muteOne grants event.nonzero false)
    intro _ v follows
    exact follows.after still
  · rename_i notOld
    rw [if_neg (Ne.symm notOld)]
    exact .of_still (Std.Refl.refl w)

theorem wp_event {connection channel : UInt64} (known : connection ≠ 0) {event : MoveEvent}
    {w : World} (playing : Playing w.memory)
    (other : event.client ≠ (w.teamspeak connection).ownId)
    (stays : w.memory.client.IsIngame → (w.teamspeak connection).ownChannel = channel) :
    wp (steps self env) (event.handler connection)
      (fun _ u => Follows connection (change connection channel event w) w u) w := by
  rw [MoveEvent.handler_eq]
  unfold ts3ServerConnectionHandle
  simp only [wp_bind, wp_wrapper, wp_ite, Program.pure_eq, wp_ret]
  split
  · rename_i elsewhere
    have unheard : ¬ Heard connection w := fun heard => elsewhere heard.1.symm
    rw [change, if_pos unheard]
    exact .of_still (Std.Refl.refl w)
  rename_i here
  have here : w.memory.wrapper.serverConnectionHandler = connection := (not_not.mp here).symm
  apply wp_mono ?_ (wp_ownId grants known)
  intro id u asked
  obtain ⟨-, rfl, answers, rfl⟩ := asked
  rw [if_neg other]
  have created : (w.logged answers).memory.globals.client ≠ .null := playing.1
  apply wp_mono ?_ (wp_asksIngame created)
  intro ingame v asked
  obtain ⟨ingameNow, memory, teamspeak⟩ := asked
  have still : Still w v := .of_asked memory teamspeak
  split
  · rename_i outside
    have unheard : ¬ Heard connection w := by
      intro heard
      have inside : w.memory.client.IsIngame := ⟨playing.2.1, playing.2.2, heard.2⟩
      simp [ingameNow, inside] at outside
    rw [change, if_pos unheard]
    exact .of_still still
  rename_i inside
  have inside : w.memory.client.IsIngame := by
    rw [ingameNow, Bool.not_eq_true', Bool.not_eq_false] at inside
    exact of_decide_eq_true inside
  have heard : Heard connection w := ⟨here, inside.2.2⟩
  rw [change, if_neg (not_not.mpr heard)]
  apply wp_mono ?_ (wp_ownChannel grants known)
  intro channelId x asked
  obtain ⟨-, own, told, rfl⟩ := asked
  have same : (v.teamspeak connection).ownChannel = channel := by
    rw [teamspeak]
    exact stays inside
  rw [own, same]
  have later : Still w (v.logged told) := IsTrans.trans _ _ _ still (.of_asked rfl rfl)
  have handler : (v.logged told).memory.wrapper.serverConnectionHandler = connection :=
    later.frame.handler.trans here
  apply wp_mono ?_ (wp_acts grants event channel handler)
  intro _ y follows
  exact follows.after later

end Others

structure Holds (connection channel : UInt64) (s : Session) : Prop where
  playing : Playing s.world.memory
  gone : ∀ id, s.people.left id = true → id ∉ (s.world.teamspeak connection).members channel
  cached : s.notes.astray = false → ∀ id, s.people.left id = true → id ∈ s.cache →
    s.people.remuted id = true
  awaited : ∀ id ∈ s.notes.pending, s.people.left id = false
  requested : ∀ id ∈ s.notes.requesting,
    (s.world.teamspeak connection).muted id = true ∧ id ∈ s.notes.pending
  muted : s.notes.listed = true → ∀ id, id ∈ (s.world.teamspeak connection).members channel →
    id ≠ 0 → id ≠ (s.world.teamspeak connection).ownId →
      (s.world.teamspeak connection).muted id = true ∨ s.people.unmuted id = true ∨
        id ∈ s.notes.pending

theorem Playing.of_footing {m m' : Memory} (playing : Playing m) (kept : footing m' = footing m) :
    Playing m' := by
  simp only [footing, Prod.mk.injEq] at kept
  obtain ⟨created, client, peer, running, gameId⟩ := kept
  refine ⟨?_, ?_, ?_⟩
  · rw [created]
    exact playing.1
  · rw [Client.IsOpen, client, peer, running]
    exact playing.2.1
  · rw [gameId]
    exact playing.2.2

theorem Frame.kept {w u : World} (frame : Frame w u) : footing u.memory = footing w.memory := by
  rw [footing, frame.client, frame.globals]
  rfl

section Acts

variable {connection channel : UInt64} {s : Session} {u : World}

theorem Holds.updated (holds : Holds connection channel s) {updates : List ClientAudioUpdate}
    (pending : s.notes.pending = []) (requesting : s.notes.requesting = [])
    (applied : Updates connection (fun id muted => (id, muted) ∈ flags updates) s.world u) :
    Holds connection channel ⟨u, s.notes, s.people.update updates⟩ := by
  have told (id : AnyID) (muted : Bool) (flag : (id, muted) ∈ flags updates) :
      ∃ update ∈ updates, update.teamspeakId = id ∧ update.muted = muted := by
    obtain ⟨update, member, same⟩ := List.mem_map.mp flag
    exact ⟨update, member, Prod.mk.inj same⟩
  constructor
  · exact holds.playing.of_footing applied.frame.kept
  · intro id left
    change id ∉ (u.teamspeak connection).members channel
    rw [applied.frame.members]
    exact holds.gone id left
  · intro astray id left cached
    change (s.people.remuted id || _) = true
    rcases applied.cache id cached with before | muted
    · rw [holds.cached astray id left before, Bool.true_or]
    · obtain ⟨update, member, same, muted⟩ := told id true muted
      rw [Bool.or_eq_true, List.any_eq_true]
      exact .inr ⟨update, member, by simp [same, muted]⟩
  · intro id member
    change id ∈ s.notes.pending at member
    rw [pending] at member
    cases member
  · intro id member
    change id ∈ s.notes.requesting at member
    rw [requesting] at member
    cases member
  · intro listed id member nonzero other
    change id ∈ (u.teamspeak connection).members channel at member
    change id ≠ (u.teamspeak connection).ownId at other
    rw [applied.frame.members] at member
    rw [applied.frame.own] at other
    change _ ∨ (s.people.unmuted id || _) = true ∨ _
    rcases holds.muted listed id member nonzero other with muted | unmuted | waits
    · rcases applied.muted id muted with still | unmuted
      · exact .inl still
      · obtain ⟨update, member, same, unmuted⟩ := told id false unmuted
        rw [Bool.or_eq_true, List.any_eq_true]
        exact .inr (.inl (.inr ⟨update, member, by simp [same, unmuted]⟩))
    · rw [unmuted]
      exact .inr (.inl (Bool.true_or _))
    · exact .inr (.inr waits)

structure Becomes (connection channel : UInt64) (known : (AnyID → Bool) → AnyID → Bool)
    (members : SortedSet AnyID) (w u : World) : Prop where
  kept : footing u.memory = footing w.memory
  own : (u.teamspeak connection).ownId = (w.teamspeak connection).ownId
  members : (u.teamspeak connection).members channel = members
  muted : (u.teamspeak connection).muted = known (w.teamspeak connection).muted
  cache : ∀ id, decide (id ∈ u.memory.wrapper.mutedClients) =
    known (fun other => decide (other ∈ w.memory.wrapper.mutedClients)) id

section Moves

variable {known : (AnyID → Bool) → AnyID → Bool} {client : AnyID}

theorem Holds.enters (holds : Holds connection channel s)
    (becomes : Becomes connection channel known
      (((s.world.teamspeak connection).members channel).insert client) s.world u)
    (others : ∀ f id, id ≠ client → known f id = f id)
    (mutes : ∀ f id, f id = true → known f id = true)
    (noticed : s.notes.listed = true → known (s.world.teamspeak connection).muted client = true) :
    Holds connection channel ⟨u, s.notes, { s.people with
      left := Function.update s.people.left client false
      unmuted := Function.update s.people.unmuted client false }⟩ := by
  have stranger {id : AnyID} (left : Function.update s.people.left client false id = true) :
      id ≠ client ∧ s.people.left id = true := by
    by_cases same : id = client
    · subst same
      simp at left
    · rw [Function.update_of_ne same] at left
      exact ⟨same, left⟩
  constructor
  · exact holds.playing.of_footing becomes.kept
  · intro id left
    obtain ⟨other, left⟩ := stranger left
    change id ∉ (u.teamspeak connection).members channel
    simp [becomes.members, other, holds.gone id left]
  · intro astray id left cached
    obtain ⟨other, left⟩ := stranger left
    have same := becomes.cache id
    rw [others _ id other, decide_eq_decide] at same
    exact holds.cached astray id left (same.mp cached)
  · intro id waits
    change Function.update s.people.left client false id = false
    by_cases same : id = client
    · subst same
      simp
    · rw [Function.update_of_ne same]
      exact holds.awaited id waits
  · intro id requested
    obtain ⟨muted, waits⟩ := holds.requested id requested
    refine ⟨?_, waits⟩
    change (u.teamspeak connection).muted id = true
    rw [becomes.muted]
    exact mutes _ id muted
  · intro listed id member nonzero other
    change id ∈ (u.teamspeak connection).members channel at member
    change id ≠ (u.teamspeak connection).ownId at other
    change (u.teamspeak connection).muted id = true ∨
      Function.update s.people.unmuted client false id = true ∨ id ∈ s.notes.pending
    rw [becomes.members, SortedSet.mem_insert] at member
    rw [becomes.own] at other
    rw [becomes.muted]
    by_cases same : id = client
    · subst same
      exact .inl (noticed listed)
    · rw [others _ id same, Function.update_of_ne same]
      exact holds.muted listed id (member.resolve_left same) nonzero other

theorem Holds.leaves (holds : Holds connection channel s)
    (becomes : Becomes connection channel known
      (((s.world.teamspeak connection).members channel).erase client) s.world u)
    (others : ∀ f id, id ≠ client → known f id = f id)
    (noticed : known (fun other => decide (other ∈ s.cache)) client = false)
    (settled : client ∉ s.notes.pending) :
    Holds connection channel ⟨u, s.notes, { s.people with
      left := Function.update s.people.left client true
      remuted := Function.update s.people.remuted client false }⟩ := by
  constructor
  · exact holds.playing.of_footing becomes.kept
  · intro id left
    change id ∉ (u.teamspeak connection).members channel
    change Function.update s.people.left client true id = true at left
    by_cases same : id = client
    · simp [becomes.members, same]
    · rw [Function.update_of_ne same] at left
      simp [becomes.members, holds.gone id left]
  · intro astray id left cached
    change Function.update s.people.left client true id = true at left
    change Function.update s.people.remuted client false id = true
    have now := becomes.cache id
    by_cases same : id = client
    · subst same
      rw [noticed, decide_eq_false_iff_not] at now
      exact absurd cached now
    · rw [Function.update_of_ne same] at left ⊢
      rw [others _ id same, decide_eq_decide] at now
      exact holds.cached astray id left (now.mp cached)
  · intro id waits
    change Function.update s.people.left client true id = false
    have other : id ≠ client := fun same => settled (same ▸ waits)
    rw [Function.update_of_ne other]
    exact holds.awaited id waits
  · intro id requested
    obtain ⟨muted, waits⟩ := holds.requested id requested
    have other : id ≠ client := fun same => settled (same ▸ waits)
    refine ⟨?_, waits⟩
    change (u.teamspeak connection).muted id = true
    rw [becomes.muted, others _ id other]
    exact muted
  · intro listed id member nonzero other
    change id ∈ (u.teamspeak connection).members channel at member
    change id ≠ (u.teamspeak connection).ownId at other
    change (u.teamspeak connection).muted id = true ∨ _
    rw [becomes.members, SortedSet.mem_erase] at member
    rw [becomes.own] at other
    rw [becomes.muted, others _ id member.1]
    exact holds.muted listed id member.2 nonzero other

theorem Holds.passes (holds : Holds connection channel s)
    (becomes : Becomes connection channel id ((s.world.teamspeak connection).members channel)
      s.world u) : Holds connection channel ⟨u, s.notes, s.people⟩ := by
  constructor
  · exact holds.playing.of_footing becomes.kept
  · intro id left
    change id ∉ (u.teamspeak connection).members channel
    rw [becomes.members]
    exact holds.gone id left
  · intro astray id left cached
    have same : (id ∈ u.memory.wrapper.mutedClients) = (id ∈ s.cache) := by
      simpa using becomes.cache id
    exact holds.cached astray id left (same.mp cached)
  · exact holds.awaited
  · intro id requested
    change (u.teamspeak connection).muted id = true ∧ _
    rw [becomes.muted]
    exact holds.requested id requested
  · intro listed id
    change id ∈ (u.teamspeak connection).members channel → _ → id ≠ (u.teamspeak connection).ownId →
      (u.teamspeak connection).muted id = true ∨ _
    rw [becomes.members, becomes.own, becomes.muted]
    exact holds.muted listed id

theorem Holds.elsewhere (holds : Holds connection channel s)
    (same : Elsewhere connection channel s.world u) :
    Holds connection channel ⟨u, s.notes, s.people⟩ := by
  apply holds.passes
  refine ⟨same.kept, same.own, same.members, same.muted, fun id => ?_⟩
  rw [same.cache]
  rfl

theorem Follows.becomes {event : MoveEvent}
    (follows : Follows connection known
      (s.world.setTeamspeak (s.world.teamspeak.on connection (move · event))) u) :
    Becomes connection channel known
      (if event.newChannel = channel then
        ((s.world.teamspeak connection).members channel).insert event.client
      else if event.oldChannel = channel then
        ((s.world.teamspeak connection).members channel).erase event.client
      else (s.world.teamspeak connection).members channel) s.world u := by
  have here : (s.world.setTeamspeak (s.world.teamspeak.on connection (move · event))).teamspeak
      connection = move (s.world.teamspeak connection) event := by simp [TeamSpeak.on]
  have frame := follows.frame
  refine ⟨frame.kept, ?_, ?_, ?_, follows.cache⟩
  · rw [frame.own, here]
    rfl
  · rw [frame.members, here]
    rfl
  · rw [follows.muted, here]
    rfl

theorem setAll_other (mute : Bool) (f : AnyID → Bool) {id : AnyID} (other : id ≠ client) :
    setAll (.singleton client) mute f id = f id := by
  simp [setAll, other]

theorem setAll_self (mute : Bool) (f : AnyID → Bool) :
    setAll (.singleton client) mute f client = mute := by
  simp [setAll]

theorem change_other (connection channel : UInt64) (event : MoveEvent) (w : World)
    (f : AnyID → Bool) {id : AnyID} (other : id ≠ event.client) :
    change connection channel event w f id = f id := by
  unfold change
  split
  · rfl
  split
  · exact setAll_other true f other
  split
  · exact setAll_other false f other
  · rfl

theorem Holds.moved (holds : Holds connection channel s) {event : MoveEvent}
    (noticed : Noticed connection channel event s)
    (follows : Follows connection (change connection channel event s.world)
      (s.world.setTeamspeak (s.world.teamspeak.on connection (move · event))) u) :
    Holds connection channel ⟨u, s.notes, s.people.move channel event⟩ := by
  have becomes : Becomes connection channel _ _ s.world u := follows.becomes
  have others (f : AnyID → Bool) (id : AnyID) (other : id ≠ event.client) :=
    change_other connection channel event s.world f other
  unfold People.move
  by_cases new : event.newChannel = channel
  · rw [if_pos new] at becomes ⊢
    apply holds.enters becomes others
    · intro f id muted
      unfold change
      rw [if_pos new]
      split
      · exact muted
      · by_cases same : id = event.client
        · rw [same, setAll_self]
        · rw [setAll_other true f same]
          exact muted
    · intro listed
      unfold change
      rw [if_pos new]
      split
      · rename_i unheard
        exact (noticed.enters new listed).resolve_left unheard
      · exact setAll_self true _
  rw [if_neg new] at becomes ⊢
  by_cases old : event.oldChannel = channel
  · rw [if_pos old] at becomes ⊢
    obtain ⟨settled, heard⟩ := noticed.leaves old new
    apply holds.leaves becomes others _ settled
    unfold change
    rw [if_neg new, if_pos old]
    split
    · rename_i unheard
      exact decide_eq_false (heard.resolve_left unheard)
    · exact setAll_self false _
  · rw [if_neg old] at becomes ⊢
    have nothing : change connection channel event s.world = id := by
      unfold change
      rw [if_neg new, if_neg old, ite_self]
    rw [nothing] at becomes
    exact holds.passes becomes

end Moves

end Acts

end ChannelMembers

end JustAnotherVoiceChat
