import JustAnotherVoiceChat.MuteCache
import JustAnotherVoiceChat.Library.Replay

set_option autoImplicit false

namespace JustAnotherVoiceChat

open Binary Interaction Replay

namespace PlainUpdate

-- What an update packet means: the audio updates one at a time in their order, and then the
-- position updates.
def handlePlainly (updatePacket : UpdatePacket) : Plugin Unit := do
  forM updatePacket.audioUpdates.items fun update =>
    discard (ts3MuteClient update.teamspeakId update.muted)
  setClientPositions updatePacket.positionUpdates.items

structure Serves (env : Environment) : Prop where
  mutes : ∀ handle ids w ok, env.tells (.requestMuteClients handle ids) w ok → ok = true
  unmutes : ∀ handle ids w ok, env.tells (.requestUnmuteClients handle ids) w ok → ok = true
  places : ∀ handle id position w ok,
    env.tells (.channelset3DAttributes handle id position) w ok → ok = true

def flags (updates : List ClientAudioUpdate) : List (AnyID × Bool) :=
  updates.map fun update => (update.teamspeakId, update.muted)

-- First all that are to be muted, then all that are to be unmuted.
def batched (updates : List ClientAudioUpdate) (known : AnyID → Bool) (id : AnyID) : Bool :=
  if id ∈ (splitAudioUpdates updates).2 then false
  else if id ∈ (splitAudioUpdates updates).1 then true
  else known id

-- A client that some update unmutes is unmuted by the last of its updates.
def Unmixed (updates : List ClientAudioUpdate) : Prop :=
  ∀ update ∈ updates, update.muted = false →
    lastWrite (flags updates) update.teamspeakId = some false

instance (updates : List ClientAudioUpdate) : Decidable (Unmixed updates) :=
  inferInstanceAs (Decidable (∀ update ∈ updates, _ → _))

theorem splitAudioUpdates_snoc (updates : List ClientAudioUpdate) (update : ClientAudioUpdate) :
    splitAudioUpdates (updates ++ [update]) =
      if update.muted then ((splitAudioUpdates updates).1.insert update.teamspeakId,
        (splitAudioUpdates updates).2)
      else ((splitAudioUpdates updates).1,
        (splitAudioUpdates updates).2.insert update.teamspeakId) := by
  simp [splitAudioUpdates, List.foldl_append]

theorem mem_splitAudioUpdates (updates : List ClientAudioUpdate) (id : AnyID) :
    (id ∈ (splitAudioUpdates updates).1 ↔ (id, true) ∈ flags updates) ∧
      (id ∈ (splitAudioUpdates updates).2 ↔ (id, false) ∈ flags updates) := by
  induction updates using List.reverseRecOn with
  | nil => simp [splitAudioUpdates, flags]
  | append_singleton updates update ih =>
    have same : flags (updates ++ [update]) =
        flags updates ++ [(update.teamspeakId, update.muted)] := by simp [flags]
    rw [splitAudioUpdates_snoc, same]
    cases muted : update.muted with
    | true => simp [ih, or_comm]
    | false => simp [ih, or_comm]

theorem lastWrite_mem {updates : List ClientAudioUpdate} {id : AnyID} {muted : Bool}
    (last : lastWrite (flags updates) id = some muted) : (id, muted) ∈ flags updates := by
  obtain ⟨write, found, rfl⟩ := Option.map_eq_some_iff.mp last
  have here : write.1 = id := by simpa using List.find?_some found
  rw [← here]
  exact List.mem_reverse.mp (List.mem_of_find?_eq_some found)

theorem lastWrite_isSome {updates : List ClientAudioUpdate} {id : AnyID} {muted : Bool}
    (member : (id, muted) ∈ flags updates) : ∃ last, lastWrite (flags updates) id = some last := by
  rw [← Option.isSome_iff_exists, lastWrite, Option.isSome_map, List.find?_isSome]
  exact ⟨(id, muted), List.mem_reverse.mpr member, by simp⟩

-- Both ways come to the same, whatever was muted before, for exactly these updates.
theorem batched_eq_iff (updates : List ClientAudioUpdate) (known : AnyID → Bool) :
    batched updates known = replay known (flags updates) ↔ Unmixed updates := by
  constructor
  · intro same update member unmutes
    have written : (update.teamspeakId, false) ∈ flags updates := by
      rw [← unmutes]
      exact List.mem_map_of_mem member
    have unmuted : batched updates known update.teamspeakId = false := by
      rw [batched, if_pos ((mem_splitAudioUpdates _ _).2.mpr written)]
    obtain ⟨last, found⟩ := lastWrite_isSome written
    have replayed := congrFun same update.teamspeakId
    rw [unmuted, replay_last, found] at replayed
    rw [found]
    exact congrArg some replayed.symm
  · intro unmixed
    funext id
    rw [replay_last, batched]
    split
    · rename_i unmutes
      obtain ⟨update, member, same⟩ := List.mem_map.mp ((mem_splitAudioUpdates _ _).2.mp unmutes)
      obtain ⟨rfl, unmuted⟩ := Prod.mk.inj same
      rw [unmixed update member unmuted]
      rfl
    · rename_i never
      cases last : lastWrite (flags updates) id with
      | none =>
        have unwritten : id ∉ (splitAudioUpdates updates).1 := by
          intro mutes
          obtain ⟨muted, found⟩ := lastWrite_isSome ((mem_splitAudioUpdates _ _).1.mp mutes)
          rw [last] at found
          cases found
        rw [if_neg unwritten]
        rfl
      | some muted =>
        have written := lastWrite_mem last
        cases muted with
        | true => exact if_pos ((mem_splitAudioUpdates _ _).1.mpr written)
        | false => exact absurd ((mem_splitAudioUpdates _ _).2.mpr written) never

structure Applied (muting : (AnyID → Bool) → AnyID → Bool) (w u : World) : Prop where
  muted : ∀ handle, (u.teamspeak handle).muted =
    if handle = w.memory.wrapper.serverConnectionHandler then muting (w.teamspeak handle).muted
    else (w.teamspeak handle).muted
  cache : ∀ id, decide (id ∈ u.memory.wrapper.mutedClients) =
    muting (fun other => decide (other ∈ w.memory.wrapper.mutedClients)) id
  handler : u.memory.wrapper.serverConnectionHandler = w.memory.wrapper.serverConnectionHandler
  position : ∀ handle, (u.teamspeak handle).position = (w.teamspeak handle).position

theorem Applied.refl (w : World) : Applied id w w := by
  refine ⟨fun handle => ?_, fun _ => rfl, rfl, fun _ => rfl⟩
  exact (ite_self _).symm

theorem Applied.trans {first second : (AnyID → Bool) → AnyID → Bool} {w u v : World}
    (before : Applied first w u) (after : Applied second u v) :
    Applied (fun known => second (first known)) w v := by
  refine ⟨fun handle => ?_, fun id => ?_, after.handler.trans before.handler, fun handle => ?_⟩
  · rw [after.muted, before.muted, before.handler]
    split <;> rfl
  · rw [after.cache]
    congr 1
    funext other
    exact before.cache other
  · rw [after.position, before.position]

def places (updates : List ClientPositionUpdate) : List (AnyID × Option Vector3) :=
  updates.map fun update => (update.teamspeakId, some ⟨update.x, update.y, update.z⟩)

structure Placed (updates : List ClientPositionUpdate) (w u : World) : Prop where
  wrapper : u.memory.wrapper = w.memory.wrapper
  muted : ∀ handle, (u.teamspeak handle).muted = (w.teamspeak handle).muted
  position : ∀ handle, (u.teamspeak handle).position =
    if handle = w.memory.wrapper.serverConnectionHandler ∧ handle ≠ 0 then
      replay (w.teamspeak handle).position (places updates)
    else (w.teamspeak handle).position

section Runs

variable {self : ThreadId} {env : Environment} {w : World}

def setAll (clients : SortedSet AnyID) (mute : Bool) (known : AnyID → Bool) (id : AnyID) : Bool :=
  if id ∈ clients then mute else known id

theorem applied_requested {mute : Bool} {clients : SortedSet AnyID} {u : World}
    (nonzero : 0 ∉ clients) (requested : MuteRequested self mute clients true w u) :
    Applied (setAll clients mute) w u := by
  refine ⟨fun handle => ?_, fun id => ?_, requested.handler, fun handle => ?_⟩
  · funext id
    rw [requested.teamspeak, accepted_muted, untilZero_clientIdArray nonzero]
    simp only [SortedSet.mem_elems]
    by_cases here : handle = w.memory.wrapper.serverConnectionHandler <;> simp [here, setAll]
  · have cached := requested.cache id
    by_cases named : id ∈ clients <;> simp [named, setAll, cached]
  · rw [requested.teamspeak]
    apply accepted_part Connection.position _ _ _ ?_ handle
    exact fun _ => rfl

theorem setAll_empty {clients : SortedSet AnyID} (none : clients.isEmpty = true) (mute : Bool) :
    setAll clients mute = id := by
  funext known other
  exact if_neg (SortedSet.isEmpty_iff.mp none other)

theorem wp_muteAll (serves : Serves env) {clients : SortedSet AnyID} (nonzero : 0 ∉ clients)
    (mute : Bool) : wp (steps self env) (ts3MuteClients clients mute)
      (fun _ u => Applied (setAll clients mute) w u) w := by
  apply wp_muting
  · intro none
    rw [setAll_empty none]
    exact .refl w
  · intro ok u _ told requested
    have accepted : ok = true := by
      cases mute with
      | true => exact serves.mutes _ _ _ _ told
      | false => exact serves.unmutes _ _ _ _ told
    subst accepted
    exact applied_requested nonzero requested

theorem wp_plain (serves : Serves env) (updates : List ClientAudioUpdate)
    (nonzero : ∀ update ∈ updates, update.teamspeakId ≠ 0) :
    wp (steps self env)
      (forM updates fun update => discard (ts3MuteClient update.teamspeakId update.muted))
      (fun _ u => Applied (fun known => replay known (flags updates)) w u) w := by
  induction updates generalizing w with
  | nil => exact .refl w
  | cons update rest ih =>
    obtain ⟨head, tail⟩ := List.forall_mem_cons.mp nonzero
    have single : 0 ∉ SortedSet.singleton update.teamspeakId := by
      simpa using Ne.symm head
    have written (known : AnyID → Bool) :
        setAll (.singleton update.teamspeakId) update.muted known =
          Function.update known update.teamspeakId update.muted := by
      funext id
      by_cases same : id = update.teamspeakId <;> simp [setAll, same]
    rw [List.forM_cons, wp_bind, wp_discard]
    apply wp_mono ?_ (wp_muteAll serves single update.muted)
    intro _ u first
    apply wp_mono ?_ (ih tail)
    intro _ v later
    have both := first.trans later
    simp only [written] at both
    exact both

theorem nonzero_split {updates : List ClientAudioUpdate}
    (nonzero : ∀ update ∈ updates, update.teamspeakId ≠ 0) :
    0 ∉ (splitAudioUpdates updates).1 ∧ 0 ∉ (splitAudioUpdates updates).2 := by
  have unwritten (muted : Bool) : (0, muted) ∉ flags updates := by
    intro member
    obtain ⟨update, listed, same⟩ := List.mem_map.mp member
    exact nonzero update listed (congrArg Prod.fst same)
  exact ⟨fun zero => unwritten true ((mem_splitAudioUpdates _ _).1.mp zero),
    fun zero => unwritten false ((mem_splitAudioUpdates _ _).2.mp zero)⟩

theorem wp_batched (serves : Serves env) {updates : List ClientAudioUpdate}
    (nonzero : ∀ update ∈ updates, update.teamspeakId ≠ 0) {rest : Plugin Unit}
    {post : Unit → World → Prop}
    (continues : ∀ u, Applied (batched updates) w u → wp (steps self env) rest post u) :
    wp (steps self env) (do
      discard (ts3MuteClients (splitAudioUpdates updates).1 true)
      discard (ts3MuteClients (splitAudioUpdates updates).2 false)
      rest) post w := by
  obtain ⟨mutes, unmutes⟩ := nonzero_split nonzero
  rw [wp_bind, wp_discard]
  apply wp_mono ?_ (wp_muteAll serves mutes true)
  intro _ u first
  rw [wp_bind, wp_discard]
  apply wp_mono ?_ (wp_muteAll serves unmutes false)
  intro _ v second
  exact continues v (first.trans second)

theorem wp_setClientPositions (serves : Serves env) (updates : List ClientPositionUpdate) :
    wp (steps self env) (setClientPositions updates) (fun _ u => Placed updates w u) w := by
  unfold setClientPositions
  induction updates generalizing w with
  | nil => exact ⟨rfl, fun _ => rfl, fun _ => (ite_self _).symm⟩
  | cons update rest ih =>
    rw [List.forM_cons, wp_bind, wp_discard]
    rw [wp_ts3SetClientPosition]
    split
    · rename_i zero
      apply wp_mono ?_ ih
      intro _ u placed
      refine ⟨placed.wrapper, placed.muted, fun handle => ?_⟩
      have nowhere : ¬ (handle = w.memory.wrapper.serverConnectionHandler ∧ handle ≠ 0) := by
        intro here
        exact here.2 (here.1.trans zero)
      rw [placed.position, if_neg nowhere, if_neg nowhere]
    · rename_i known
      rw [wp_channelset3DAttributes]
      intro ok told
      rw [serves.places _ _ _ _ _ told]
      apply wp_mono ?_ ih
      intro _ u placed
      refine ⟨placed.wrapper, fun handle => (placed.muted handle).trans ?_, fun handle => ?_⟩
      · apply accepted_part Connection.muted _ _ _ ?_ handle
        exact fun _ => rfl
      · rw [placed.position]
        by_cases here : handle = w.memory.wrapper.serverConnectionHandler
        · subst here
          simp [known, accepted, TeamSpeak.on, Connection.setPosition, places, replay]
        · simp [here, accepted, TeamSpeak.on]

end Runs

structure Agree (u v : World) : Prop where
  muted : ∀ handle id, (u.teamspeak handle).muted id = (v.teamspeak handle).muted id
  cache : u.memory.wrapper.mutedClients = v.memory.wrapper.mutedClients
  position : ∀ handle id, (u.teamspeak handle).position id = (v.teamspeak handle).position id

structure Handled (muting : (AnyID → Bool) → AnyID → Bool) (updatePacket : UpdatePacket)
    (w u : World) : Prop where
  between : ∃ v, Applied muting w v ∧ Placed updatePacket.positionUpdates.items v u

theorem Handled.agree {first second : (AnyID → Bool) → AnyID → Bool} {updatePacket : UpdatePacket}
    {w u v : World} (one : Handled first updatePacket w u)
    (other : Handled second updatePacket w v) :
    Agree u v ↔
      first (w.teamspeak w.memory.wrapper.serverConnectionHandler).muted =
        second (w.teamspeak w.memory.wrapper.serverConnectionHandler).muted ∧
      first (fun id => decide (id ∈ w.memory.wrapper.mutedClients)) =
        second (fun id => decide (id ∈ w.memory.wrapper.mutedClients)) := by
  obtain ⟨⟨x, applied, placed⟩⟩ := one
  obtain ⟨⟨y, applied', placed'⟩⟩ := other
  have handler : y.memory.wrapper.serverConnectionHandler =
      x.memory.wrapper.serverConnectionHandler := applied'.handler.trans applied.handler.symm
  have position : ∀ handle id,
      (u.teamspeak handle).position id = (v.teamspeak handle).position id := by
    intro handle id
    rw [placed.position, placed'.position, handler, applied.position, applied'.position]
  have muted (handle : UInt64) : (u.teamspeak handle).muted = (v.teamspeak handle).muted ↔
      (handle = w.memory.wrapper.serverConnectionHandler →
        first (w.teamspeak handle).muted = second (w.teamspeak handle).muted) := by
    rw [placed.muted, placed'.muted, applied.muted, applied'.muted]
    by_cases here : handle = w.memory.wrapper.serverConnectionHandler <;> simp [here]
  have cache : u.memory.wrapper.mutedClients = v.memory.wrapper.mutedClients ↔
      first (fun id => decide (id ∈ w.memory.wrapper.mutedClients)) =
        second (fun id => decide (id ∈ w.memory.wrapper.mutedClients)) := by
    rw [placed.wrapper, placed'.wrapper, SortedSet.ext_iff, funext_iff]
    apply forall_congr'
    intro id
    rw [← applied.cache, ← applied'.cache, decide_eq_decide]
  constructor
  · intro agree
    exact ⟨(muted _).mp (funext (agree.muted _)) rfl, cache.mp agree.cache⟩
  · intro both
    refine ⟨fun handle id => congrFun ((muted handle).mpr ?_) id, cache.mpr both.2, position⟩
    intro here
    subst here
    exact both.1

section Runs

variable {self : ThreadId} {env : Environment} {w : World} {updatePacket : UpdatePacket}

theorem wp_handleUpdateMessage (serves : Serves env) {packet : Bytes}
    (received : receive UpdatePacket.serialize packet = some updatePacket)
    (audio : ∀ update ∈ updatePacket.audioUpdates.items, update.teamspeakId ≠ 0) :
    wp (steps self env) (handleUpdateMessage packet)
      (fun _ u => Handled (batched updatePacket.audioUpdates.items) updatePacket w u) w := by
  unfold handleUpdateMessage
  rw [received]
  apply wp_batched serves audio
  intro x applied
  apply wp_mono ?_ (wp_setClientPositions serves _)
  intro _ u placed
  exact ⟨x, applied, placed⟩

theorem wp_handlePlainly (serves : Serves env)
    (audio : ∀ update ∈ updatePacket.audioUpdates.items, update.teamspeakId ≠ 0) :
    wp (steps self env) (handlePlainly updatePacket) (fun _ u =>
      Handled (fun known => replay known (flags updatePacket.audioUpdates.items)) updatePacket w u)
      w := by
  unfold handlePlainly
  rw [wp_bind]
  apply wp_mono ?_ (wp_plain serves _ audio)
  intro _ x applied
  apply wp_mono ?_ (wp_setClientPositions serves _)
  intro _ u placed
  exact ⟨x, applied, placed⟩

end Runs

end PlainUpdate

open PlainUpdate in
/-- An update packet is handled as its updates one at a time would be, unless a client that some
update unmutes is muted by the last one. -/
theorem handleUpdateMessage_plain (self : ThreadId) (env : Environment) (packet : Bytes)
    (updatePacket : UpdatePacket) (w u v : World) (serves : Serves env)
    (received : receive UpdatePacket.serialize packet = some updatePacket)
    (audio : ∀ update ∈ updatePacket.audioUpdates.items, update.teamspeakId ≠ 0)
    (run : Exec (steps self env) (handleUpdateMessage packet) w () u)
    (plain : Exec (steps self env) (handlePlainly updatePacket) w () v) :
    Agree u v ↔ Unmixed updatePacket.audioUpdates.items := by
  have handled := run.wp (wp_handleUpdateMessage serves received audio)
  have plainly := plain.wp (wp_handlePlainly serves audio)
  rw [handled.agree plainly, batched_eq_iff, batched_eq_iff, and_self]

namespace PlainUpdate

def serving : Replies := ⟨obliging [1] .empty, connecting 1, lone 0⟩

def carrying : Environment where
  answers
    | .teamspeak (.requestMuteClients _ _), _, ok => ok = true
    | .teamspeak (.requestUnmuteClients _ _), _, ok => ok = true
    | .teamspeak (.channelset3DAttributes _ _ _), _, ok => ok = true
    | _, _, _ => True
  threading _ _ _ _ := True

theorem carrying_serves : Serves carrying :=
  ⟨fun _ _ _ _ ok => ok, fun _ _ _ _ ok => ok, fun _ _ _ _ _ ok => ok⟩

theorem serving_within : serving.Within carrying := by
  refine ⟨fun call w => ?_, fun _ _ => trivial, fun _ _ => trivial, fun _ _ _ _ _ => trivial⟩
  cases call <;> first | rfl | trivial

def current : World := World.idle.withHandler 1

def unmutedLast : List ClientAudioUpdate :=
  [⟨5, true, 0, .empty⟩, ⟨7, false, 0, .empty⟩, ⟨5, false, 0, .empty⟩]

theorem unmutedLast_length : unmutedLast.length < 2 ^ 64 := by decide

def mutedLast : List ClientAudioUpdate := [⟨5, false, 0, .empty⟩, ⟨5, true, 0, .empty⟩]

theorem mutedLast_length : mutedLast.length < 2 ^ 64 := by decide

def packetOf (audioUpdates : Sized ClientAudioUpdate) : UpdatePacket := ⟨audioUpdates, .empty⟩

def payloadOf (audioUpdates : Sized ClientAudioUpdate) : Bytes :=
  UpdatePacket.serialize.encode (packetOf audioUpdates)

def batchedEnd (audioUpdates : Sized ClientAudioUpdate) : World :=
  ranPlugin 0 serving (handleUpdateMessage (payloadOf audioUpdates)) current

def plainEnd (audioUpdates : Sized ClientAudioUpdate) : World :=
  ranPlugin 0 serving (handlePlainly (packetOf audioUpdates)) current

end PlainUpdate

open PlainUpdate in
theorem handleUpdateMessage_plain_unmuted : Agree (batchedEnd ⟨unmutedLast, unmutedLast_length⟩)
    (plainEnd ⟨unmutedLast, unmutedLast_length⟩) :=
  (handleUpdateMessage_plain 0 carrying (payloadOf ⟨unmutedLast, unmutedLast_length⟩)
    (packetOf ⟨unmutedLast, unmutedLast_length⟩) current _ _ carrying_serves (by decide)
    (by decide) (exec_ranPlugin serving_within (by decide))
    (exec_ranPlugin serving_within (by decide))).mpr (by decide)

open PlainUpdate in
-- The client 5 is to be unmuted and then muted, and stays unmuted.
theorem handleUpdateMessage_differs : ¬ ∀ (self : ThreadId) (env : Environment) (packet : Bytes)
    (updatePacket : UpdatePacket) (w u v : World), Serves env →
    receive UpdatePacket.serialize packet = some updatePacket →
      (∀ update ∈ updatePacket.audioUpdates.items, update.teamspeakId ≠ 0) →
        Exec (steps self env) (handleUpdateMessage packet) w () u →
          Exec (steps self env) (handlePlainly updatePacket) w () v → Agree u v := by
  intro claimed
  have agree := claimed 0 carrying (payloadOf ⟨mutedLast, mutedLast_length⟩)
    (packetOf ⟨mutedLast, mutedLast_length⟩) current
    (batchedEnd ⟨mutedLast, mutedLast_length⟩) (plainEnd ⟨mutedLast, mutedLast_length⟩)
    carrying_serves (by decide) (by decide) (exec_ranPlugin serving_within (by decide))
    (exec_ranPlugin serving_within (by decide))
  have muted := agree.muted 1 5
  revert muted
  decide

end JustAnotherVoiceChat
