import JustAnotherVoiceChat.Client
import JustAnotherVoiceChat.Execution

set_option autoImplicit false

namespace JustAnotherVoiceChat

open Binary Interaction

-- The state after a call, when its reply is a possible one. A client that is to be moved is
-- moved at once.
def TeamSpeakCall.next : (call : TeamSpeakCall) → TeamSpeak → call.Reply → Option TeamSpeak
  | .requestClientMove handle clientId channelId _, t, ok =>
    if ok = true ∧ clientId = (t handle).ownId then
      some (t.on handle fun c => (c.requestMove channelId).arrive channelId)
    else some t
  | .requestMuteClients handle ids, t, ok =>
    some (accepted t handle (·.setMuted (untilZero ids) true) ok)
  | .requestUnmuteClients handle ids, t, ok =>
    some (accepted t handle (·.setMuted (untilZero ids) false) ok)
  | .setClientSelfVariableAsString handle flag value, t, ok =>
    if ok = true ∧ flag = .nickname ∧ value.text = .empty then none
    else some (accepted t handle (·.stageString flag value) ok)
  | .setClientSelfVariableAsInt handle flag value, t, ok =>
    some (accepted t handle (·.stageInt flag value) ok)
  | .flushClientSelfUpdates handle, t, ok => some (accepted t handle Connection.flush ok)
  | .channelset3DAttributes handle clientId position, t, ok =>
    some (accepted t handle (·.setPosition clientId position) ok)
  | .getClientID handle, t, reply =>
    if reply.all (· = (t handle).ownId) then some t else none
  | .getChannelOfClient handle clientId, t, reply =>
    if clientId ≠ (t handle).ownId ∨ reply.all (· = (t handle).ownChannel) then some t else none
  | .getChannelClientList handle channelId, t, reply =>
    if reply.all fun list =>
      (untilZero list.contents).all (· ∈ (t handle).members channelId) ∧
        ((t handle).members channelId).elems.all (fun id => id = 0 ∨ id ∈ untilZero list.contents)
    then some t else none
  | .getClientSelfVariableAsString handle flag, t, reply =>
    if reply.all (·.contents = (t handle).selfString flag) then some t else none
  | .getClientSelfVariableAsInt handle flag, t, reply =>
    if reply.all (· = (t handle).selfInt flag) then some t else none
  | _, t, _ => some t

theorem mem_untilZero_ne {id : AnyID} {ids : List AnyID} (member : id ∈ untilZero ids) :
    id ≠ 0 := by
  simpa using List.mem_takeWhile_imp member

theorem TeamSpeakCall.next_sound {call : TeamSpeakCall} {t t' : TeamSpeak} {reply : call.Reply}
    (next : call.next t reply = some t') : call.Step t reply t' := by
  cases call with
  | requestClientMove handle clientId channelId password =>
    simp only [TeamSpeakCall.next] at next
    simp only [TeamSpeakCall.Step]
    split at next
    · rename_i moved
      rw [if_pos moved]
      exact .inr (Option.some.inj next).symm
    · rename_i stayed
      rw [if_neg stayed]
      exact (Option.some.inj next).symm
  | setClientSelfVariableAsString handle flag value =>
    simp only [TeamSpeakCall.next] at next
    split at next
    · cases next
    · rename_i allowed
      refine ⟨fun ok nickname empty => allowed ⟨ok, nickname, empty⟩, (Option.some.inj next).symm⟩
  | getChannelClientList handle channelId =>
    simp only [TeamSpeakCall.next] at next
    split at next
    · rename_i listed
      refine ⟨?_, (Option.some.inj next).symm⟩
      intro list given id
      subst given
      simp only [Option.all_some, decide_eq_true_eq, List.all_eq_true, Bool.decide_and,
        Bool.and_eq_true] at listed
      constructor
      · intro member
        exact ⟨mem_untilZero_ne member, listed.1 id member⟩
      · rintro ⟨nonzero, member⟩
        exact (listed.2 id member).resolve_left nonzero
    · cases next
  | getChannelOfClient handle clientId =>
    simp only [TeamSpeakCall.next] at next
    split at next
    · rename_i told
      refine ⟨?_, (Option.some.inj next).symm⟩
      rintro channel given own
      subst given
      simpa [own] using told
    · cases next
  | getClientID | getClientSelfVariableAsString | getClientSelfVariableAsInt =>
    simp only [TeamSpeakCall.next] at next
    split at next
    · refine ⟨?_, (Option.some.inj next).symm⟩
      cases reply <;> simp_all
    · cases next
  | _ => exact (Option.some.inj next).symm

def EnetCall.next : (call : EnetCall) → Enet → call.Reply → Option Enet
  | .hostCreate _ _, e, reply =>
    match reply with
    | none => some e
    | some host => if host = e.nextHost then some { e with nextHost := e.nextHost + 1 } else none
  | .addressSetHost name, e, reply =>
    if reply.ok = true ∧ e.resolve name ≠ some reply.address then none else some e
  | .hostConnect host address port _, e, reply =>
    match reply with
    | none => some e
    | some peer => if peer = e.nextPeer then some (e.newPeer host address port) else none
  | .serviceEnd host _, e, reply =>
    some (if 0 < reply.code ∧ reply.event = .connect then e.connected host else e)
  | .peerReset peer, e, _ => some (e.reset peer)
  | _, e, _ => some e

theorem EnetCall.next_sound {call : EnetCall} {e e' : Enet} {reply : call.Reply}
    (next : call.next e reply = some e') : call.Step e reply e' := by
  cases call with
  | hostCreate | hostConnect =>
    simp only [EnetCall.next] at next
    simp only [EnetCall.Step]
    split at next
    · exact .inl ⟨rfl, (Option.some.inj next).symm⟩
    · split at next
      · rename_i same
        exact .inr ⟨by rw [same], (Option.some.inj next).symm⟩
      · cases next
  | addressSetHost name =>
    simp only [EnetCall.next] at next
    split at next
    · cases next
    · rename_i told
      refine ⟨fun ok => ?_, (Option.some.inj next).symm⟩
      by_contra other
      exact told ⟨ok, other⟩
  | _ => exact (Option.some.inj next).symm

structure Replies where
  teamspeak : (call : TeamSpeakCall) → World → call.Reply
  enet : (call : EnetCall) → World → call.Reply
  thread : (call : ThreadCall) → World → Option (call.Reply × World)

def answerOp (self : ThreadId) (replies : Replies) (op : Op) (w : World) :
    Option (op.Reply × World) :=
  match op with
  | .load => some (w.memory, w)
  | .store update => some ((), { w with memory := update w.memory })
  | .external (.teamspeak call) =>
    let reply := replies.teamspeak call w
    (call.next w.teamspeak reply).map fun t => (reply, (w.setTeamspeak t).asked self call reply)
  | .external (.enet call) =>
    let reply := replies.enet call w
    (call.next w.enet reply).map fun e => (reply, (w.setEnet e).record self (.enet call) reply)
  | .external (.object call) => some ((), w.record self (.object call) ())
  | .thread call => replies.thread call w
  | .sleep _ => some ((), w)

def Replies.Within (replies : Replies) (env : Environment) : Prop :=
  (∀ call w, env.answers (.teamspeak call) w (replies.teamspeak call w)) ∧
  (∀ call w, env.answers (.enet call) w (replies.enet call w)) ∧
  (∀ call w, env.answers (.object call) w ()) ∧
  ∀ call w reply w', replies.thread call w = some (reply, w') → env.threading call w reply w'

def Environment.any : Environment := ⟨fun _ _ _ => True, fun _ _ _ _ => True⟩

theorem Replies.within_any (replies : Replies) : replies.Within .any :=
  ⟨fun _ _ => trivial, fun _ _ => trivial, fun _ _ => trivial, fun _ _ _ _ _ => trivial⟩

theorem answerOp_sound {self : ThreadId} {replies : Replies} {env : Environment}
    (within : replies.Within env) (op : Op) (w : World) (reply : op.Reply) (w' : World)
    (answered : answerOp self replies op w = some (reply, w')) :
    steps self env op w reply w' := by
  obtain ⟨teamspeak, enet, object, thread⟩ := within
  cases op with
  | load | store | sleep =>
    obtain ⟨rfl, rfl⟩ := Prod.mk.inj (Option.some.inj answered)
    first | exact ⟨rfl, rfl⟩ | rfl
  | thread call => exact thread call w reply w' answered
  | external call =>
    cases call with
    | teamspeak call =>
      obtain ⟨t, next, same⟩ := Option.map_eq_some_iff.mp answered
      obtain ⟨rfl, rfl⟩ := Prod.mk.inj same
      exact ⟨teamspeak call w, _, ⟨t, call.next_sound next, rfl⟩, rfl⟩
    | enet call =>
      obtain ⟨e, next, same⟩ := Option.map_eq_some_iff.mp answered
      obtain ⟨rfl, rfl⟩ := Prod.mk.inj same
      exact ⟨enet call w, _, ⟨e, call.next_sound next, rfl⟩, rfl⟩
    | object call =>
      obtain ⟨rfl, rfl⟩ := Prod.mk.inj (Option.some.inj answered)
      exact ⟨object call w, _, rfl, rfl⟩

def runPlugin (self : ThreadId) (replies : Replies) (fuel : Nat) {α : Type} (p : Plugin α)
    (w : World) : Option (α × World) :=
  runWith (answerOp self replies) fuel p w

theorem exec_of_runPlugin {self : ThreadId} {replies : Replies} {env : Environment}
    (within : replies.Within env) {fuel : Nat} {α : Type} {p : Plugin α} {w w' : World} {value : α}
    (run : runPlugin self replies fuel p w = some (value, w')) :
    Exec (steps self env) p w value w' :=
  Exec.of_runWith (answerOp_sound within) run

def ranPlugin (self : ThreadId) (replies : Replies) {α : Type} (p : Plugin α) (w : World) : World :=
  ((runPlugin self replies 60 p w).map (·.2)).getD w

theorem exec_ranPlugin {self : ThreadId} {replies : Replies} {env : Environment}
    (within : replies.Within env) {α : Type} {p : Plugin α} {w : World} {value : α}
    (ran : (runPlugin self replies 60 p w).map (·.1) = some value) :
    Exec (steps self env) p w value (ranPlugin self replies p w) := by
  obtain ⟨⟨_, u⟩, computed, rfl⟩ := Option.map_eq_some_iff.mp ran
  have same : ranPlugin self replies p w = u := by simp [ranPlugin, computed]
  rw [same]
  exact exec_of_runPlugin within computed

def newSince (w u : World) : List Entry := u.trace.take (u.trace.length - w.trace.length)

theorem newSince_grown {w u : World} (grown : ∃ entries, u.trace = entries ++ w.trace) :
    u.trace = newSince w u ++ w.trace := by
  obtain ⟨entries, trace⟩ := grown
  rw [newSince, trace]
  simp

def obliging (servers : List UInt64) (identifier : CString) :
    (call : TeamSpeakCall) → World → call.Reply
  | .getServerConnectionHandlerList, _ => some ⟨0, servers⟩
  | .getServerUniqueIdentifier _, _ => some ⟨0, identifier⟩
  | .getClientID handle, w => some (w.teamspeak handle).ownId
  | .getChannelOfClient handle _, w => some (w.teamspeak handle).ownChannel
  | .getChannelClientList handle channelId, w =>
    some ⟨0, ((w.teamspeak handle).members channelId).elems ++ [0]⟩
  | .getClientSelfVariableAsString handle flag, w =>
    some ⟨0, (w.teamspeak handle).selfString flag⟩
  | .getClientSelfVariableAsInt handle flag, w => some ((w.teamspeak handle).selfInt flag)
  | .getChannelAreSubscribed _ _, _ | .getConnectionStatus _, _ => some 1
  | .freeMemory _, _ => ()
  | .setClientSelfVariableAsString _ flag value, _ => !(flag = .nickname && value.text = .empty)
  | .requestClientMove _ _ _ _, _ | .requestMuteClients _ _, _ | .requestUnmuteClients _ _, _
  | .requestChannelSubscribe _ _, _ | .setClientSelfVariableAsInt _ _ _, _
  | .flushClientSelfUpdates _, _ | .channelset3DAttributes _ _ _, _
  | .systemset3DListenerAttributes _ _ _ _, _ | .systemset3DSettings _ _ _, _ => true

def connecting (address : Address) : (call : EnetCall) → World → call.Reply
  | .hostCreate _ _, w => some w.enet.nextHost
  | .addressSetHost _, _ => ⟨true, address⟩
  | .hostConnect _ _ _ _, w => some w.enet.nextPeer
  | .serviceEnd _ _, _ => ⟨1, .connect⟩
  | .serviceBegin _ _, _ | .peerDisconnect _ _, _ | .peerReset _, _ | .hostDestroy _, _
  | .packetDestroy, _ | .peerSend _ _ _ _, _ => ()

def lone (self : ThreadId) : (call : ThreadCall) → World → Option (call.Reply × World)
  | .selfId, w => some (self, w)
  | .joinable _, w => some (true, w)
  | .delete _, w | .exit, w => some ((), w)
  | .spawn, _ | .join _, _ => none

def CString.empty : CString := ⟨.empty, by simp [Sized.items, Sized.empty]⟩

def Connection.idle : Connection where
  ownId := 1
  ownChannel := 1
  requested := none
  members _ := .empty
  muted _ := false
  position _ := none
  selfInt _ := 0
  selfString _ := .empty
  stagedInt _ := none
  stagedString _ := none

def World.idle : World where
  memory := ⟨.new 0, ⟨0, .empty, .empty⟩, ⟨.live, .live⟩⟩
  teamspeak _ := .idle
  enet := ⟨fun _ => some 1, 0, 0, fun _ => none⟩
  phase _ := .unborn
  trace := []

def World.playing (teamspeakId : AnyID) (lastChannelId : UInt64) : World :=
  { World.idle with
    memory := ⟨{ Client.new 1 with
      client := some 0, peer := some 0, running := true, gameId := 1, teamspeakId := teamspeakId,
      lastChannelId := lastChannelId }, ⟨1, .empty, .empty⟩, ⟨.live, .live⟩⟩ }

end JustAnotherVoiceChat
