import JustAnotherVoiceChat.Handshake
import JustAnotherVoiceChat.MoveEvents
import JustAnotherVoiceChat.PacketFormat
import JustAnotherVoiceChat.PlainUpdate

set_option autoImplicit false

namespace JustAnotherVoiceChat

open Binary Interaction MoveEvents PlainUpdate Replay

@[ext] structure Scene where
  own : AnyID
  channel : UInt64
  muted : AnyID → Bool
  position : AnyID → Option Vector3

inductive Notice where
  | message (channelID : UInt8) (payload : Bytes)
  | moved (event : MoveEvent)
  | self (id : AnyID) (channel : UInt64)

namespace Scene

def setMuted (scene : Scene) (id : AnyID) (muted : Bool) : Scene :=
  { scene with muted := Function.update scene.muted id muted }

def put (scene : Scene) (id : AnyID) (place : Vector3) : Scene :=
  { scene with position := Function.update scene.position id (some place) }

end Scene

inductive Tiding where
  | muted (id : AnyID) (muted : Bool)
  | placed (id : AnyID) (place : Vector3)
  | moved (event : MoveEvent)
  | self (id : AnyID) (channel : UInt64)

namespace Scene

-- Whoever enters the own channel is muted, and whoever leaves it is heard again and nowhere.
def tell (scene : Scene) : Tiding → Scene
  | .muted id muted => scene.setMuted id muted
  | .placed id place => scene.put id place
  | .moved event =>
    if event.client = scene.own then scene
    else if event.newChannel = scene.channel then scene.setMuted event.client true
    else if event.oldChannel = scene.channel then
      (scene.put event.client ⟨0, 0, 0⟩).setMuted event.client false
    else scene
  | .self id channel => { scene with own := id, channel := channel }

def tellAll (scene : Scene) (tidings : List Tiding) : Scene := tidings.foldl tell scene

def Written (m : Incoming) (p : m.type.Packet) (payload : Bytes) : Prop :=
  ∃ used rest, m.Accepts p used ∧ payload = used ++ rest

def audioTiding (update : ClientAudioUpdate) : Tiding := .muted update.teamspeakId update.muted

def positionTiding (update : ClientPositionUpdate) : Tiding :=
  .placed update.teamspeakId ⟨update.x, update.y, update.z⟩

end Scene

open Scene in
-- The updates of a message are tidings, one at a time in their order. A message tells nothing when
-- it is not the bytes of such a packet.
inductive Notice.Tells : Notice → List Tiding → Prop where
  | update {payload : Bytes} {p : UpdatePacket} (written : Written .update p payload) :
      Tells (.message networkUpdateChannel payload)
        (p.audioUpdates.items.map audioTiding ++ p.positionUpdates.items.map positionTiding)
  | positions {payload : Bytes} {p : PositionPacket} (written : Written .position p payload) :
      Tells (.message networkPositionChannel payload) (p.positions.items.map positionTiding)
  | nothing {channelID : UInt8} {payload : Bytes}
      (update : channelID = networkUpdateChannel → ∀ p, ¬ Written .update p payload)
      (positions : channelID = networkPositionChannel → ∀ p, ¬ Written .position p payload) :
      Tells (.message channelID payload) []
  | moved (event : MoveEvent) : Tells (.moved event) [.moved event]
  | self (id : AnyID) (channel : UInt64) : Tells (.self id channel) [.self id channel]

open Scene in
-- There is no client 0, and no client that the message unmutes is muted by its last update.
def Notice.Clear : Notice → Prop
  | .message channelID payload => channelID = networkUpdateChannel → ∀ p : UpdatePacket,
    Written .update p payload → (∀ update ∈ p.audioUpdates.items, update.teamspeakId ≠ 0) ∧
      Unmixed p.audioUpdates.items
  | .moved event => event.client ≠ 0
  | .self _ _ => True

namespace Scene

def mute (scene : Scene) (clients : SortedSet AnyID) (muted : Bool) : Scene :=
  { scene with muted := fun id => if id ∈ clients ∧ 0 ∉ clients then muted else scene.muted id }

def place (scene : Scene) (updates : List ClientPositionUpdate) : Scene :=
  updates.foldl (fun scene update => scene.put update.teamspeakId ⟨update.x, update.y, update.z⟩)
    scene

def batch (scene : Scene) (p : UpdatePacket) : Scene :=
  let (muteClients, unmuteClients) := splitAudioUpdates p.audioUpdates.items
  ((scene.mute muteClients true).mute unmuteClients false).place p.positionUpdates.items

def move (scene : Scene) (event : MoveEvent) : Scene :=
  if event.client = scene.own then scene
  else if scene.channel = event.newChannel then scene.mute (.singleton event.client) true
  else if scene.channel = event.oldChannel then
    (scene.put event.client ⟨0, 0, 0⟩).mute (.singleton event.client) false
  else scene

def handle (scene : Scene) : Notice → Scene
  | .message channelID payload =>
    if channelID = networkUpdateChannel then
      (receive UpdatePacket.serialize payload).elim scene scene.batch
    else if channelID = networkPositionChannel then
      (receive PositionPacket.serialize payload).elim scene fun p => scene.place p.positions.items
    else scene
  | .moved event => scene.move event
  | .self id channel => { scene with own := id, channel := channel }

def handleAll (scene : Scene) (notices : List Notice) : Scene := notices.foldl handle scene

theorem handleAll_snoc (scene : Scene) (notices : List Notice) (notice : Notice) :
    scene.handleAll (notices ++ [notice]) = (scene.handleAll notices).handle notice := by
  simp [handleAll]

theorem receive_iff {m : Incoming} {payload : Bytes} {p : m.type.Packet} :
    receive m.type.serialize payload = some p ↔ Written m p payload := by
  have read : receive m.type.serialize payload =
      (deserializePacket m.type.serialize payload).outputPacket := by
    simp only [receive, deserializePacket_result]
    cases (deserializePacket m.type.serialize payload).outputPacket <;> rfl
  rw [read]
  exact deserialized_iff m payload p

theorem receive_none {m : Incoming} {payload : Bytes} (unwritten : ∀ p, ¬ Written m p payload) :
    receive m.type.serialize payload = none := by
  cases received : receive m.type.serialize payload with
  | none => rfl
  | some p => exact absurd (receive_iff.mp received) (unwritten p)

theorem tells_some (notice : Notice) : ∃ tidings, notice.Tells tidings := by
  cases notice with
  | moved event => exact ⟨_, .moved event⟩
  | self id channel => exact ⟨_, .self id channel⟩
  | message channelID payload =>
    by_cases update : channelID = networkUpdateChannel
    · subst update
      by_cases written : ∃ p, Written .update p payload
      · obtain ⟨p, written⟩ := written
        exact ⟨_, .update written⟩
      · exact ⟨[], .nothing (fun _ p this => written ⟨p, this⟩) nofun⟩
    by_cases positions : channelID = networkPositionChannel
    · subst positions
      by_cases written : ∃ p, Written .position p payload
      · obtain ⟨p, written⟩ := written
        exact ⟨_, .positions written⟩
      · exact ⟨[], .nothing nofun fun _ p this => written ⟨p, this⟩⟩
    · exact ⟨[], .nothing (absurd · update) (absurd · positions)⟩

theorem tells_all (notices : List Notice) :
    ∃ tidings, List.Forall₂ Notice.Tells notices tidings := by
  induction notices with
  | nil => exact ⟨[], .nil⟩
  | cons notice rest ih =>
    obtain ⟨first, tells⟩ := tells_some notice
    obtain ⟨later, told⟩ := ih
    exact ⟨first :: later, .cons tells told⟩

theorem mute_split (scene : Scene) {updates : List ClientAudioUpdate}
    (nonzero : ∀ update ∈ updates, update.teamspeakId ≠ 0) :
    (scene.mute (splitAudioUpdates updates).1 true).mute (splitAudioUpdates updates).2 false =
      { scene with muted := batched updates scene.muted } := by
  obtain ⟨mutes, unmutes⟩ := nonzero_split nonzero
  simp [mute, batched, mutes, unmutes, funext_iff]

theorem tell_audio (scene : Scene) (updates : List ClientAudioUpdate) :
    scene.tellAll (updates.map audioTiding) =
      { scene with muted := replay scene.muted (flags updates) } := by
  induction updates generalizing scene with
  | nil => rfl
  | cons update rest ih => exact ih _

theorem tell_positions (scene : Scene) (updates : List ClientPositionUpdate) :
    scene.tellAll (updates.map positionTiding) = scene.place updates := by
  rw [tellAll, List.foldl_map]
  rfl

theorem mute_one (scene : Scene) {id : AnyID} (nonzero : id ≠ 0) (muted : Bool) :
    scene.mute (.singleton id) muted = scene.setMuted id muted := by
  have named : (scene.mute (.singleton id) muted).muted = (scene.setMuted id muted).muted := by
    funext other
    by_cases same : other = id <;> simp [mute, setMuted, same, Ne.symm nonzero]
  exact Scene.ext rfl rfl named rfl

theorem handle_told {notice : Notice} {tidings : List Tiding} (tells : notice.Tells tidings)
    (clear : notice.Clear) (scene : Scene) : scene.handle notice = scene.tellAll tidings := by
  cases tells with
  | update written =>
    rename_i payload p
    obtain ⟨nonzero, unmixed⟩ := clear rfl p written
    have received : receive UpdatePacket.serialize payload = some p := receive_iff.mpr written
    simp only [handle, received, if_true, Option.elim_some]
    have split : scene.batch p = ((scene.mute (splitAudioUpdates p.audioUpdates.items).1 true).mute
        (splitAudioUpdates p.audioUpdates.items).2 false).place p.positionUpdates.items := rfl
    rw [split, mute_split scene nonzero, (batched_eq_iff _ _).mpr unmixed, ← tell_audio,
      ← tell_positions]
    exact List.foldl_append.symm
  | positions written =>
    rename_i payload p
    have received : receive PositionPacket.serialize payload = some p := receive_iff.mpr written
    have other : networkPositionChannel ≠ networkUpdateChannel := by decide
    simp only [handle, received, if_neg other, if_true, Option.elim_some]
    exact (tell_positions scene _).symm
  | @nothing channelID payload update positions =>
    unfold handle
    dsimp only
    split
    · rename_i same
      have none : receive UpdatePacket.serialize payload = none := receive_none (update same)
      rw [none]
      rfl
    split
    · rename_i same
      have none : receive PositionPacket.serialize payload = none := receive_none (positions same)
      rw [none]
      rfl
    · rfl
  | moved event =>
    change scene.move event = scene.tell (.moved event)
    unfold move tell
    rw [mute_one _ clear, mute_one _ clear]
    simp only [eq_comm]
  | self id channel => rfl

theorem handleAll_told {notices : List Notice} {tidings : List (List Tiding)}
    (told : List.Forall₂ Notice.Tells notices tidings) (clear : ∀ notice ∈ notices, notice.Clear)
    (scene : Scene) : scene.handleAll notices = scene.tellAll tidings.flatten := by
  induction told generalizing scene with
  | nil => rfl
  | cons tells _ ih =>
    obtain ⟨first, later⟩ := List.forall_mem_cons.mp clear
    rw [List.flatten_cons, tellAll, List.foldl_append, handleAll, List.foldl_cons,
      handle_told tells first]
    exact ih later _

def names (id : AnyID) (updates : List ClientPositionUpdate) : Bool :=
  updates.any fun update => update.teamspeakId = id

def concerns (id : AnyID) : Notice → Bool
  | .message channelID payload =>
    if channelID = networkUpdateChannel then
      (receive UpdatePacket.serialize payload).any fun p =>
        p.audioUpdates.items.any (fun update => update.teamspeakId = id) ||
          names id p.positionUpdates.items
    else if channelID = networkPositionChannel then
      (receive PositionPacket.serialize payload).any fun p => names id p.positions.items
    else false
  | .moved event => event.client = id
  | .self _ _ => true

structure Alike (id : AnyID) (scene other : Scene) : Prop where
  own : scene.own = other.own
  channel : scene.channel = other.channel
  muted : scene.muted id = other.muted id
  position : scene.position id = other.position id

section Alike

variable {id : AnyID} {scene other : Scene}

theorem Alike.refl (id : AnyID) (scene : Scene) : Alike id scene scene := ⟨rfl, rfl, rfl, rfl⟩

theorem Alike.trans {third : Scene} (first : Alike id scene other) (second : Alike id other third) :
    Alike id scene third :=
  ⟨first.own.trans second.own, first.channel.trans second.channel,
    first.muted.trans second.muted, first.position.trans second.position⟩

theorem Alike.mute (alike : Alike id scene other) (clients : SortedSet AnyID) (muted : Bool) :
    Alike id (scene.mute clients muted) (other.mute clients muted) :=
  ⟨alike.own, alike.channel, by simp only [Scene.mute, alike.muted], alike.position⟩

theorem Alike.put (alike : Alike id scene other) (client : AnyID) (place : Vector3) :
    Alike id (scene.put client place) (other.put client place) := by
  refine ⟨alike.own, alike.channel, alike.muted, ?_⟩
  by_cases same : id = client <;> simp [Scene.put, same, alike.position]

theorem Alike.place (alike : Alike id scene other) (updates : List ClientPositionUpdate) :
    Alike id (scene.place updates) (other.place updates) := by
  unfold Scene.place
  induction updates generalizing scene other with
  | nil => exact alike
  | cons update rest ih => exact ih (alike.put _ _)

theorem Alike.handle (alike : Alike id scene other) (notice : Notice) :
    Alike id (scene.handle notice) (other.handle notice) := by
  cases notice with
  | message channelID payload =>
    unfold Scene.handle
    dsimp only
    split
    · cases receive UpdatePacket.serialize payload with
      | none => exact alike
      | some p => exact ((alike.mute _ _).mute _ _).place _
    split
    · cases receive PositionPacket.serialize payload with
      | none => exact alike
      | some p => exact alike.place _
    · exact alike
  | moved event =>
    unfold Scene.handle Scene.move
    dsimp only
    rw [alike.own, alike.channel]
    split
    · exact alike
    split
    · exact alike.mute _ _
    split
    · exact (alike.put _ _).mute _ _
    · exact alike
  | self own channel => exact ⟨rfl, rfl, alike.muted, alike.position⟩

theorem mute_others {clients : SortedSet AnyID} (unnamed : id ∉ clients) (muted : Bool) :
    Alike id (scene.mute clients muted) scene :=
  ⟨rfl, rfl, if_neg fun named => unnamed named.1, rfl⟩

theorem put_others {client : AnyID} (other : id ≠ client) (place : Vector3) :
    Alike id (scene.put client place) scene :=
  ⟨rfl, rfl, rfl, Function.update_of_ne other _ _⟩

theorem place_others {updates : List ClientPositionUpdate} (unnamed : names id updates = false) :
    Alike id (scene.place updates) scene := by
  unfold Scene.place
  induction updates generalizing scene with
  | nil => exact .refl id scene
  | cons update rest ih =>
    obtain ⟨other, rest⟩ : update.teamspeakId ≠ id ∧ names id rest = false := by
      simpa [names] using unnamed
    exact (ih rest).trans (put_others (Ne.symm other) _)

theorem handle_others {notice : Notice} (unconcerned : concerns id notice = false) :
    Alike id (scene.handle notice) scene := by
  cases notice with
  | message channelID payload =>
    unfold Scene.handle
    unfold concerns at unconcerned
    dsimp only at unconcerned ⊢
    split at unconcerned
    · rename_i updates
      rw [if_pos updates]
      cases received : receive UpdatePacket.serialize payload with
      | none => exact .refl id scene
      | some p =>
        obtain ⟨audio, positions⟩ : p.audioUpdates.items.all (fun update => update.teamspeakId ≠ id)
            = true ∧ names id p.positionUpdates.items = false := by
          simpa [received] using unconcerned
        have unnamed (muted : Bool) : (id, muted) ∉ flags p.audioUpdates.items := by
          intro named
          obtain ⟨update, member, same⟩ := List.mem_map.mp named
          have other := List.all_eq_true.mp audio update member
          simp only [ne_eq, decide_not, Bool.not_eq_true', decide_eq_false_iff_not] at other
          exact other (congrArg Prod.fst same)
        obtain ⟨mutes, unmutes⟩ := mem_splitAudioUpdates p.audioUpdates.items id
        refine (place_others positions).trans ((mute_others ?_ _).trans (mute_others ?_ _))
        · exact fun named => unnamed false (unmutes.mp named)
        · exact fun named => unnamed true (mutes.mp named)
    rename_i updates
    rw [if_neg updates]
    split at unconcerned
    · rename_i positions
      rw [if_pos positions]
      cases received : receive PositionPacket.serialize payload with
      | none => exact .refl id scene
      | some p => exact place_others (by simpa [received] using unconcerned)
    · rename_i positions
      rw [if_neg positions]
      exact .refl id scene
  | moved event =>
    have other : id ≠ event.client := by
      simpa [concerns, eq_comm] using unconcerned
    have unnamed : id ∉ SortedSet.singleton event.client := by simpa using other
    unfold Scene.handle Scene.move
    dsimp only
    split
    · exact .refl id scene
    split
    · exact mute_others unnamed _
    split
    · exact (mute_others unnamed _).trans (put_others other _)
    · exact .refl id scene
  | self own channel => cases unconcerned

theorem Alike.handleAll (alike : Alike id scene other) (notices : List Notice) :
    Alike id (scene.handleAll notices) (other.handleAll (notices.filter (concerns id))) := by
  unfold Scene.handleAll
  induction notices generalizing scene other with
  | nil => exact alike
  | cons notice rest ih =>
    cases concerned : concerns id notice with
    | true =>
      rw [List.filter_cons_of_pos concerned]
      exact ih (alike.handle notice)
    | false =>
      rw [List.filter_cons_of_neg (by simp [concerned])]
      exact ih ((handle_others concerned).trans alike)

end Alike

end Scene

def Connection.scene (c : Connection) : Scene := ⟨c.ownId, c.ownChannel, c.muted, c.position⟩

def World.scene (w : World) (connection : UInt64) : Scene := (w.teamspeak connection).scene

namespace Scene

structure Shown (connection : UInt64) (scene : Scene) (w : World) : Prop where
  ingame : Ingame connection w
  scene : w.scene connection = scene

structure Candid (env : Environment) : Prop extends Serves env where
  connected : ∀ handle w status, env.tells (.getConnectionStatus handle) w status →
    ∃ known, status = some known ∧ ¬ known ≤ 0
  identified : ∀ handle w id, env.tells (.getClientID handle) w id → id.isSome = true
  located : ∀ handle id w channelId, env.tells (.getChannelOfClient handle id) w channelId →
    channelId.isSome = true

section Runs

variable {self : ThreadId} {env : Environment} {w : World} {connection : UInt64} {scene : Scene}

theorem untilZero_zero {clients : SortedSet AnyID} (zero : 0 ∈ clients) :
    untilZero (clientIdArray clients) = [] := by
  obtain ⟨elems, ascending⟩ := clients
  cases elems with
  | nil => cases zero
  | cons first rest =>
    have smallest : first = 0 := by
      by_contra other
      have later : 0 ∈ rest := (List.mem_cons.mp zero).resolve_left (Ne.symm other)
      have below := (List.pairwise_cons.mp ascending).1 0 later
      exact absurd below (by simp)
    simp [untilZero, clientIdArray, smallest]

theorem mem_untilZero {clients : SortedSet AnyID} {id : AnyID} :
    id ∈ untilZero (clientIdArray clients) ↔ id ∈ clients ∧ 0 ∉ clients := by
  by_cases zero : 0 ∈ clients
  · simp [untilZero_zero zero, zero]
  · simp [untilZero_clientIdArray zero, zero, SortedSet.mem_elems]

theorem Shown.logged (shown : Shown connection scene w) (answers : List Entry) :
    Shown connection scene (w.logged answers) :=
  ⟨⟨shown.ingame.created, shown.ingame.ingame, shown.ingame.handle⟩, shown.scene⟩

theorem wp_mutes (candid : Candid env) (shown : Shown connection scene w)
    (clients : SortedSet AnyID) (muted : Bool) : wp (steps self env) (ts3MuteClients clients muted)
      (fun _ u => Shown connection (scene.mute clients muted) u) w := by
  obtain ⟨ingame, rfl⟩ := shown
  apply wp_muting
  · intro nobody
    refine ⟨ingame, ?_⟩
    have none : ∀ id, id ∉ clients := SortedSet.isEmpty_iff.mp nobody
    simp [Scene.mute, none]
  intro ok u _ told requested
  obtain rfl : ok = true := by
    cases muted with
    | true => exact candid.mutes _ _ _ _ told
    | false => exact candid.unmutes _ _ _ _ told
  refine ⟨⟨?_, ?_, ?_⟩, ?_⟩
  · rw [requested.globals]
    exact ingame.created
  · rw [requested.client]
    exact ingame.ingame
  · rw [requested.handler]
    exact ingame.handle
  have same {β : Type} (part : Connection → β)
      (keeps : ∀ ids mute c, part (Connection.setMuted c ids mute) = part c) :
      part (u.teamspeak connection) = part (w.teamspeak connection) := by
    rw [requested.teamspeak]
    exact accepted_part part _ _ _ (keeps _ _) connection
  have heard : (u.teamspeak connection).muted =
    ((w.scene connection).mute clients muted).muted := by
    funext id
    rw [requested.teamspeak, accepted_muted, ingame.handle]
    simp only [mem_untilZero, true_and, Scene.mute]
    rfl
  exact congr (congr (congr (congrArg Scene.mk (same Connection.ownId fun _ _ _ => rfl))
    (same Connection.ownChannel fun _ _ _ => rfl)) heard) (same Connection.position
    fun _ _ _ => rfl)

theorem wp_put (candid : Candid env) (nonzero : connection ≠ 0) (shown : Shown connection scene w)
    (id : AnyID) (x y z : Single) : wp (steps self env) (ts3SetClientPosition id x y z)
      (fun _ u => Shown connection (scene.put id ⟨x, y, z⟩) u) w := by
  obtain ⟨ingame, rfl⟩ := shown
  rw [wp_ts3SetClientPosition, ingame.handle, if_neg nonzero, wp_channelset3DAttributes]
  intro ok told
  rw [candid.places _ _ _ _ _ told]
  refine ⟨⟨ingame.created, ingame.ingame, ingame.handle⟩, ?_⟩
  simp [World.scene, Connection.scene, Scene.put, accepted, TeamSpeak.on, Connection.setPosition]

theorem wp_places (candid : Candid env) (nonzero : connection ≠ 0)
    (shown : Shown connection scene w) (updates : List ClientPositionUpdate) :
    wp (steps self env) (setClientPositions updates)
      (fun _ u => Shown connection (scene.place updates) u) w := by
  unfold setClientPositions
  induction updates generalizing w scene with
  | nil => exact shown
  | cons update rest ih =>
    rw [List.forM_cons, wp_bind, wp_discard]
    apply wp_mono ?_ (wp_put candid nonzero shown _ _ _ _)
    intro _ u first
    exact ih first

def gameFields (m : Memory) : Client × Globals × UInt64 :=
  (m.client, m.globals, m.wrapper.serverConnectionHandler)

theorem Shown.of_same {u : World} (shown : Shown connection scene w)
    (fields : gameFields u.memory = gameFields w.memory)
    (same : u.scene connection = w.scene connection) : Shown connection scene u := by
  obtain ⟨client, globals, handle⟩ := by simpa [gameFields] using fields
  refine ⟨⟨?_, ?_, handle.trans shown.ingame.handle⟩, same.trans shown.scene⟩
  · rw [globals]
    exact shown.ingame.created
  · rw [client]
    exact shown.ingame.ingame

theorem wp_nickname (shown : Shown connection scene w) (nickname : StdString) :
    wp (steps self env) (ts3SetNickname nickname) (fun _ u => Shown connection scene u) w := by
  have calls : (ts3SetNickname nickname).Calls
      (Op.On gameFields [.readString, .writeString, .writeInt]) :=
    wrapperPrograms_on.ts3SetNickname (by decide) (by decide) (by decide)
      (fun _ => setWrapper_on fun _ => rfl) nickname
  refine wp_of_calls calls ?_ shown
  intro op v reply u on shown step
  cases op with
  | load =>
    obtain ⟨-, rfl⟩ := step
    exact shown
  | sleep milliseconds =>
    obtain rfl : u = v := step
    exact shown
  | store update =>
    obtain rfl : u = _ := step
    exact shown.of_same (on v.memory) rfl
  | thread => cases on
  | external call =>
    cases call with
    | enet | object => cases on.1
    | teamspeak call =>
      obtain ⟨-, _, ⟨t, stepped, rfl⟩, rfl⟩ := step
      have about : call.topic ∈ [Topic.readString, .writeString, .writeInt] := on.1
      refine shown.of_same rfl ?_
      refine stepped.part Connection.scene ?_ connection
      intro f effect c
      cases call with
      | requestClientMove | requestMuteClients | requestUnmuteClients
      | channelset3DAttributes => simp [TeamSpeakCall.topic] at about
      | setClientSelfVariableAsString | setClientSelfVariableAsInt | flushClientSelfUpdates =>
        obtain rfl := effect
        rfl
      | _ => cases effect

theorem wp_update (candid : Candid env) (nonzero : connection ≠ 0)
    (shown : Shown connection scene w) (payload : Bytes) :
    wp (steps self env) (handleUpdateMessage payload) (fun _ u => Shown connection
      ((receive UpdatePacket.serialize payload).elim scene scene.batch) u) w := by
  unfold handleUpdateMessage
  cases receive UpdatePacket.serialize payload with
  | none => exact shown
  | some p =>
    dsimp only
    rw [wp_bind, wp_discard]
    apply wp_mono ?_ (wp_mutes candid shown _ true)
    intro _ u muted
    rw [wp_bind, wp_discard]
    apply wp_mono ?_ (wp_mutes candid muted _ false)
    intro _ v unmuted
    exact wp_places candid nonzero unmuted _

theorem wp_message (candid : Candid env) (nonzero : connection ≠ 0)
    (shown : Shown connection scene w) {channelID : UInt8} {payload : Bytes}
    (protocol : channelID ≠ networkProtocolChannel)
    (handshake : channelID ≠ networkHandshakeChannel) :
    wp (steps self env) (handleMessage channelID payload)
      (fun _ u => Shown connection (scene.handle (.message channelID payload)) u) w := by
  unfold handleMessage Scene.handle
  rw [if_neg protocol, if_neg handshake]
  dsimp only
  by_cases updates : channelID = networkUpdateChannel
  · rw [if_pos updates, if_pos updates]
    exact wp_update candid nonzero shown payload
  rw [if_neg updates, if_neg updates]
  by_cases controls : channelID = networkControlChannel
  · rw [if_pos controls, if_neg (by simp [controls, networkControlChannel, networkPositionChannel])]
    unfold handleControlMessage
    cases receive ControlPacket.serialize payload with
    | none => exact shown
    | some p =>
      dsimp only
      rw [wp_ite]
      split
      · rw [wp_discard]
        exact wp_nickname shown _
      · exact shown
  rw [if_neg controls]
  by_cases positions : channelID = networkPositionChannel
  · rw [if_pos positions, if_pos positions]
    unfold handlePositionMessage
    cases receive PositionPacket.serialize payload with
    | none => exact shown
    | some p => exact wp_places candid nonzero shown _
  · rw [if_neg positions, if_neg positions]
    exact shown

theorem wp_clientId (candid : Candid env) (nonzero : connection ≠ 0)
    {post : AnyID → World → Prop}
    (continues : ∀ answers, post (w.teamspeak connection).ownId (w.logged answers)) :
    wp (steps self env) (ts3ClientId connection) post w := by
  unfold ts3ClientId
  rw [wp_ite, if_neg nonzero, wp_bind, wp_getConnectionStatus]
  intro status told
  obtain ⟨known, rfl, positive⟩ := candid.connected _ _ _ told
  dsimp only
  rw [wp_ite, if_neg positive, wp_bind, wp_getClientID]
  intro id told own
  obtain ⟨id, rfl⟩ := Option.isSome_iff_exists.mp (candid.identified _ _ _ told)
  obtain rfl : id = _ := own id rfl
  exact continues [_, _]

theorem wp_channelId (candid : Candid env) (nonzero : connection ≠ 0)
    {post : UInt64 → World → Prop}
    (continues : ∀ answers, post (w.teamspeak connection).ownChannel (w.logged answers)) :
    wp (steps self env) (ts3ChannelId connection) post w := by
  unfold ts3ChannelId
  rw [wp_bind]
  apply wp_clientId candid nonzero
  intro answers
  rw [wp_bind, wp_getChannelOfClient]
  intro channelId told own
  obtain ⟨channelId, rfl⟩ := Option.isSome_iff_exists.mp (candid.located _ _ _ _ told)
  obtain rfl : channelId = _ := own channelId rfl rfl
  exact continues (_ :: answers)

theorem wp_act (candid : Candid env) (nonzero : connection ≠ 0)
    (shown : Shown connection scene w) (event : MoveEvent) (other : event.client ≠ scene.own) :
    wp (steps self env) (event.act scene.channel)
      (fun _ u => Shown connection (scene.move event) u) w := by
  unfold MoveEvent.act Scene.move
  rw [if_neg other, wp_ite]
  split
  · rw [wp_bind, wp_discard]
    apply wp_mono ?_ (wp_mutes candid shown (.singleton event.client) true)
    exact fun _ u muted => muted
  rw [wp_ite]
  split
  · rw [wp_bind, wp_discard]
    apply wp_mono ?_ (wp_put candid nonzero shown event.client 0 0 0)
    intro _ u placed
    rw [wp_bind, wp_discard]
    apply wp_mono ?_ (wp_mutes candid placed (.singleton event.client) false)
    exact fun _ v unmuted => unmuted
  · exact shown

theorem wp_move (candid : Candid env) (nonzero : connection ≠ 0)
    (shown : Shown connection scene w) (event : MoveEvent) :
    wp (steps self env) (event.handler connection)
      (fun _ u => Shown connection (scene.move event) u) w := by
  rw [MoveEvent.handler_eq]
  unfold ts3ServerConnectionHandle
  simp only [wp_bind, wp_wrapper, wp_ite, Program.pure_eq, wp_ret]
  rw [if_neg (not_not.mpr shown.ingame.handle.symm)]
  apply wp_clientId candid nonzero
  intro first
  have own : (w.teamspeak connection).ownId = scene.own := congrArg Scene.own shown.scene
  have channel : (w.teamspeak connection).ownChannel = scene.channel :=
    congrArg Scene.channel shown.scene
  rw [own]
  split
  · rename_i itself
    rw [Scene.move, if_pos itself]
    exact shown.logged first
  rename_i other
  apply wp_justAnotherVoiceChatIsIngame (shown.logged first).ingame
  intro uses _ _ _
  simp only [Bool.not_true, Bool.false_eq_true, if_false]
  apply wp_channelId candid nonzero
  intro second
  have asked : (((w.logged first).logged uses).teamspeak connection).ownChannel = scene.channel :=
    channel
  rw [asked]
  exact wp_act candid nonzero (((shown.logged first).logged uses).logged second) event other

end Runs

-- A game: messages of the voice server and moves of other clients are handled one after another, on
-- any thread, and TeamSpeak moves the own client in between.
inductive Play (env : Environment) (connection : UInt64) (start : World) :
    List Notice → World → Prop where
  | start : Play env connection start [] start
  | message {notices : List Notice} {w u : World} (play : Play env connection start notices w)
      (self : ThreadId) (channelID : UInt8) (payload : Bytes)
      (protocol : channelID ≠ networkProtocolChannel)
      (handshake : channelID ≠ networkHandshakeChannel)
      (step : Exec (steps self env) (handleMessage channelID payload) w () u) :
      Play env connection start (notices ++ [.message channelID payload]) u
  | moved {notices : List Notice} {w u : World} (play : Play env connection start notices w)
      (self : ThreadId) (event : MoveEvent)
      (step : Exec (steps self env) (event.handler connection) w () u) :
      Play env connection start (notices ++ [.moved event]) u
  | self {notices : List Notice} {w : World} (play : Play env connection start notices w)
      (t : TeamSpeak) (muted : (t connection).muted = (w.teamspeak connection).muted)
      (position : (t connection).position = (w.teamspeak connection).position) :
      Play env connection start
        (notices ++ [.self (t connection).ownId (t connection).ownChannel]) (w.setTeamspeak t)

theorem Play.shown {env : Environment} {connection : UInt64} {start w : World}
    {notices : List Notice} (candid : Candid env) (nonzero : connection ≠ 0)
    (ingame : Ingame connection start) (play : Play env connection start notices w) :
    Shown connection ((start.scene connection).handleAll notices) w := by
  induction play with
  | start => exact ⟨ingame, rfl⟩
  | message _ self channelID payload protocol handshake step ih =>
    rw [handleAll_snoc]
    exact step.wp (wp_message candid nonzero ih protocol handshake)
  | moved _ self event step ih =>
    rw [handleAll_snoc]
    exact step.wp (wp_move candid nonzero ih event)
  | self _ t muted position ih =>
    rw [handleAll_snoc, ← ih.scene]
    refine ⟨⟨ih.ingame.created, ih.ingame.ingame, ih.ingame.handle⟩, ?_⟩
    exact congr (congr rfl muted) position

structure Part {β : Type} (part : Scene → β) : Prop where
  mute : ∀ clients muted, Writes part (·.mute clients muted)
  put : ∀ id place, Writes part (·.put id place)
  self : ∀ (scene : Scene) own channel,
    part { scene with own := own, channel := channel } = part scene

theorem part_muted (id : AnyID) : Part (·.muted id) where
  mute clients muted := by
    by_cases named : id ∈ clients ∧ 0 ∉ clients
    · exact .inl ⟨muted, fun _ => if_pos named⟩
    · exact .inr fun _ => if_neg named
  put _ _ := .inr fun _ => rfl
  self _ _ _ := rfl

theorem part_position (id : AnyID) : Part (·.position id) where
  mute _ _ := .inr fun _ => rfl
  put client place := by
    by_cases same : id = client
    · subst same
      exact .inl ⟨some place, fun scene => Function.update_self ..⟩
    · exact .inr fun scene => Function.update_of_ne same _ _
  self _ _ _ := rfl

section Part

variable {β : Type} {part : Scene → β} (told : Part part)

include told

theorem Part.place (updates : List ClientPositionUpdate) : Writes part (·.place updates) :=
  Writes.foldl (fun _ => told.put _ _) updates

theorem Part.message (channelID : UInt8) (payload : Bytes) :
    Writes part (·.handle (.message channelID payload)) := by
  unfold Scene.handle
  dsimp only
  split
  · cases receive UpdatePacket.serialize payload with
    | none => exact .inr fun _ => rfl
    | some p => exact ((told.mute _ _).comp (told.mute _ _)).comp (told.place _)
  split
  · cases receive PositionPacket.serialize payload with
    | none => exact .inr fun _ => rfl
    | some p => exact told.place _
  · exact .inr fun _ => rfl

theorem Part.handle {s t : Scene} (own : s.own = t.own) (channel : s.channel = t.channel)
    (same : part s = part t) (notice : Notice) :
    part (s.handle notice) = part (t.handle notice) := by
  cases notice with
  | message channelID payload => exact (told.message channelID payload).congr same
  | moved event =>
    unfold Scene.handle Scene.move
    dsimp only
    rw [own, channel]
    split
    · exact same
    split
    · exact (told.mute _ _).congr same
    split
    · exact ((told.put _ _).comp (told.mute _ _)).congr same
    · exact same
  | self id channel => exact (told.self _ _ _).trans (same.trans (told.self _ _ _).symm)

end Part

def user (scene : Scene) : AnyID × UInt64 := (scene.own, scene.channel)

theorem place_user (scene : Scene) (updates : List ClientPositionUpdate) :
    (scene.place updates).user = scene.user := by
  unfold Scene.place
  induction updates generalizing scene with
  | nil => rfl
  | cons update rest ih => exact ih _

theorem message_user (scene : Scene) (channelID : UInt8) (payload : Bytes) :
    (scene.handle (.message channelID payload)).user = scene.user := by
  unfold Scene.handle
  dsimp only
  split
  · cases receive UpdatePacket.serialize payload with
    | none => rfl
    | some p => exact place_user _ _
  split
  · cases receive PositionPacket.serialize payload with
    | none => rfl
    | some p => exact place_user _ _
  · rfl

theorem handle_user {s t : Scene} (same : s.user = t.user) (notice : Notice) :
    (s.handle notice).user = (t.handle notice).user := by
  cases notice with
  | message channelID payload => rw [message_user, message_user, same]
  | self id channel => rfl
  | moved event =>
    have move_user (scene : Scene) : (scene.move event).user = scene.user := by
      unfold Scene.move
      split
      · rfl
      split
      · rfl
      split <;> rfl
    exact (move_user s).trans (same.trans (move_user t).symm)

theorem handleAll_user {s t : Scene} (same : s.user = t.user) (notices : List Notice) :
    (s.handleAll notices).user = (t.handleAll notices).user := by
  induction notices generalizing s t with
  | nil => exact same
  | cons notice rest ih => exact ih (handle_user same notice)

theorem Part.handleAll {β : Type} {part : Scene → β} (told : Part part) {s t : Scene}
    (user : s.user = t.user) (same : part s = part t) (notices : List Notice) :
    part (s.handleAll notices) = part (t.handleAll notices) := by
  induction notices generalizing s t with
  | nil => exact same
  | cons notice rest ih =>
    obtain ⟨own, channel⟩ := Prod.mk.inj user
    exact ih (handle_user user notice) (told.handle own channel same notice)

theorem handleAll_again (scene : Scene) (channelID : UInt8) (payload : Bytes)
    (between after : List Notice) :
    scene.handleAll (.message channelID payload ::
      (between ++ .message channelID payload :: after)) =
      scene.handleAll (between ++ .message channelID payload :: after) := by
  have user := message_user scene channelID payload
  have again {β : Type} {part : Scene → β} (told : Part part) :
      part (((scene.handle (.message channelID payload)).handleAll between).handle
        (.message channelID payload)) =
        part ((scene.handleAll between).handle (.message channelID payload)) :=
    (told.message channelID payload).again (·.handleAll between) fun same =>
      told.handleAll user same between
  have still := handle_user (handleAll_user user between) (.message channelID payload)
  obtain ⟨own, channel⟩ := Prod.mk.inj still
  have same : ((scene.handle (.message channelID payload)).handleAll between).handle
      (.message channelID payload) =
      (scene.handleAll between).handle (.message channelID payload) :=
    Scene.ext own channel (funext fun id => again (part_muted id))
      (funext fun id => again (part_position id))
  simp only [handleAll, List.foldl_cons, List.foldl_append]
  exact congrArg (handleAll · after) same

def candidly : Environment where
  answers
    | .teamspeak (.requestMuteClients _ _), _, ok => ok = true
    | .teamspeak (.requestUnmuteClients _ _), _, ok => ok = true
    | .teamspeak (.channelset3DAttributes _ _ _), _, ok => ok = true
    | .teamspeak (.getConnectionStatus _), _, status => status = some 1
    | .teamspeak (.getClientID _), _, id => id.isSome = true
    | .teamspeak (.getChannelOfClient _ _), _, channelId => channelId.isSome = true
    | _, _, _ => True
  threading _ _ _ _ := True

theorem candidly_candid : Candid candidly where
  mutes _ _ _ _ ok := ok
  unmutes _ _ _ _ ok := ok
  places _ _ _ _ _ ok := ok
  connected _ _ _ status := ⟨1, status, by decide⟩
  identified _ _ _ some := some
  located _ _ _ _ some := some

theorem answering_candidly : answering.Within candidly := by
  refine ⟨fun call w => ?_, fun _ _ => trivial, fun _ _ => trivial, fun _ _ _ _ _ => trivial⟩
  cases call <;> first | rfl | trivial

def placement : Bytes :=
  PositionPacket.serialize.encode ⟨0, 0, 0, 0, ⟨[⟨6, 0, 0, 0, 0⟩], by decide⟩⟩

def placedFrom (w : World) : World :=
  ranPlugin 2 answering (handleMessage networkPositionChannel placement) w

def placed : World := placedFrom game

def enteredAfter : World := ranPlugin 2 answering (enters.handler 1) placed

theorem game_entered : Play candidly 1 game [.moved enters] (after answering enters) :=
  Play.start.moved 2 enters (exec_ranPlugin answering_candidly (by decide))

theorem game_enteredAfter : Play candidly 1 game
    [.message networkPositionChannel placement, .moved enters] enteredAfter := by
  have first : Play candidly 1 game [.message networkPositionChannel placement] placed :=
    Play.start.message 2 _ _ (by decide) (by decide)
      (exec_ranPlugin answering_candidly (by decide))
  exact first.moved 2 enters (exec_ranPlugin answering_candidly (by decide))

def unmuting : Bytes := payloadOf ⟨unmutedLast, unmutedLast_length⟩

def unmuted : World := ranPlugin 2 answering (handleMessage networkUpdateChannel unmuting) game

def enteredUnmuted : World := ranPlugin 2 answering (enters.handler 1) unmuted

theorem game_enteredUnmuted : Play candidly 1 game
    [.message networkUpdateChannel unmuting, .moved enters] enteredUnmuted := by
  have first : Play candidly 1 game [.message networkUpdateChannel unmuting] unmuted :=
    Play.start.message 2 _ _ (by decide) (by decide)
      (exec_ranPlugin answering_candidly (by decide))
  exact first.moved 2 enters (exec_ranPlugin answering_candidly (by decide))

theorem received_unmuting : receive UpdatePacket.serialize unmuting =
    some (packetOf ⟨unmutedLast, unmutedLast_length⟩) := by decide

theorem tells_unmuting : (Notice.message networkUpdateChannel unmuting).Tells
    [.muted 5 true, .muted 7 false, .muted 5 false] :=
  .update (receive_iff.mp received_unmuting)

theorem clear_enteredUnmuted :
    ∀ notice ∈ [Notice.message networkUpdateChannel unmuting, .moved enters], notice.Clear := by
  refine List.forall_mem_cons.mpr ⟨fun _ p written => ?_, List.forall_mem_singleton.mpr ?_⟩
  · have received : receive UpdatePacket.serialize unmuting = some p := receive_iff.mpr written
    obtain rfl : packetOf ⟨unmutedLast, unmutedLast_length⟩ = p :=
      Option.some.inj (received_unmuting.symm.trans received)
    decide
  · change enters.client ≠ 0
    decide

theorem game_placedLater : Play candidly 1 game
    [.moved enters, .message networkPositionChannel placement]
    (placedFrom (after answering enters)) :=
  game_entered.message 2 _ _ (by decide) (by decide) (exec_ranPlugin answering_candidly (by decide))

theorem game_placedAgain : Play candidly 1 game
    [.message networkPositionChannel placement, .moved enters,
      .message networkPositionChannel placement] (placedFrom enteredAfter) :=
  game_enteredAfter.message 2 _ _ (by decide) (by decide)
    (exec_ranPlugin answering_candidly (by decide))

end Scene

open Scene in
/-- In every game with candid answers, TeamSpeak shows what was told, each client as the last tiding
of it says, unless a message mutes a client after unmuting it or names a client 0. -/
theorem scene_shown {env : Environment} {connection : UInt64} {start w : World}
    {notices : List Notice} (candid : Candid env) (nonzero : connection ≠ 0)
    (ingame : Ingame connection start) (play : Play env connection start notices w)
    (clear : ∀ notice ∈ notices, notice.Clear) :
    (∃ tidings, List.Forall₂ Notice.Tells notices tidings) ∧
      ∀ tidings, List.Forall₂ Notice.Tells notices tidings →
        w.scene connection = (start.scene connection).tellAll tidings.flatten :=
  ⟨tells_all notices, fun _ told =>
    (play.shown candid nonzero ingame).scene.trans (handleAll_told told clear _)⟩

open Scene in
theorem scene_shown_entered : enteredUnmuted.scene 1 =
    (game.scene 1).tellAll [.muted 5 true, .muted 7 false, .muted 5 false, .moved enters] :=
  (scene_shown candidly_candid (by decide) game_ingame game_enteredUnmuted clear_enteredUnmuted).2
    [_, _] (.cons tells_unmuting (.cons (.moved enters) .nil))

open Scene in
/-- What becomes of a client depends on no other: in two games that begin alike for it, and in which
what concerns it comes in the same order, it ends up muted or not, and placed, alike. -/
theorem scene_local {env env' : Environment} {connection : UInt64} {start start' w w' : World}
    {notices notices' : List Notice} {id : AnyID} (candid : Candid env) (candid' : Candid env')
    (nonzero : connection ≠ 0) (ingame : Ingame connection start)
    (ingame' : Ingame connection start')
    (alike : Alike id (start.scene connection) (start'.scene connection))
    (play : Play env connection start notices w)
    (play' : Play env' connection start' notices' w')
    (same : notices.filter (concerns id) = notices'.filter (concerns id)) :
    (w.teamspeak connection).muted id = (w'.teamspeak connection).muted id ∧
      (w.teamspeak connection).position id = (w'.teamspeak connection).position id := by
  have first := (play.shown candid nonzero ingame).scene
  have second := (play'.shown candid' nonzero ingame').scene
  have kept := alike.handleAll notices
  have kept' := (Alike.refl id (start'.scene connection)).handleAll notices'
  rw [← first, same] at kept
  rw [← second] at kept'
  exact ⟨kept.muted.trans kept'.muted.symm, kept.position.trans kept'.position.symm⟩

open Scene in
theorem scene_local_entered :
    ((after answering enters).teamspeak 1).muted 5 = (enteredAfter.teamspeak 1).muted 5 ∧
      ((after answering enters).teamspeak 1).position 5 = (enteredAfter.teamspeak 1).position 5 :=
  scene_local candidly_candid candidly_candid (by decide) game_ingame game_ingame (.refl 5 _)
    game_entered game_enteredAfter rfl

open Scene in
/-- It does no harm when a message of the voice server is lost, and none when it comes too often, as
long as it comes again: a game with an earlier copy of it ends like one without. -/
theorem scene_repeated {env env' : Environment} {connection : UInt64} {start start' w w' : World}
    (before between after : List Notice) (channelID : UInt8) (payload : Bytes)
    (candid : Candid env) (candid' : Candid env') (nonzero : connection ≠ 0)
    (ingame : Ingame connection start) (ingame' : Ingame connection start')
    (same : start.scene connection = start'.scene connection)
    (play : Play env connection start (before ++ .message channelID payload ::
      (between ++ .message channelID payload :: after)) w)
    (play' : Play env' connection start'
      (before ++ (between ++ .message channelID payload :: after)) w') :
    w.scene connection = w'.scene connection := by
  have first := (play.shown candid nonzero ingame).scene
  have second := (play'.shown candid' nonzero ingame').scene
  rw [first, second, same, handleAll, handleAll, List.foldl_append, List.foldl_append]
  exact handleAll_again _ channelID payload between after

open Scene in
theorem scene_repeated_placed :
    (placedFrom enteredAfter).scene 1 = (placedFrom (after answering enters)).scene 1 :=
  scene_repeated [] [.moved enters] [] networkPositionChannel placement candidly_candid
    candidly_candid (by decide) game_ingame game_ingame rfl game_placedAgain game_placedLater

end JustAnotherVoiceChat
