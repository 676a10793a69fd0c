import JustAnotherVoiceChat.Scenario
import JustAnotherVoiceChat.Wrapper
import JustAnotherVoiceChat.Library.Ledger

set_option autoImplicit false

namespace JustAnotherVoiceChat

open Binary Interaction Ledger

namespace Buffers

-- A successful call hands out a buffer; a failed one hands out nothing.
def transfer : Entry → Option (Transfer Nat)
  | ⟨_, .teamspeak .getServerConnectionHandlerList, reply⟩ =>
    reply.map fun buffer => .taken buffer.address
  | ⟨_, .teamspeak (.getServerUniqueIdentifier _), reply⟩ =>
    reply.map fun buffer => .taken buffer.address
  | ⟨_, .teamspeak (.getChannelClientList _ _), reply⟩ =>
    reply.map fun buffer => .taken buffer.address
  | ⟨_, .teamspeak (.getClientSelfVariableAsString _ _), reply⟩ =>
    reply.map fun buffer => .taken buffer.address
  | ⟨_, .teamspeak (.freeMemory address), _⟩ => some (.returned address)
  | _ => none

def transfers (answers : List Entry) : List (Transfer Nat) := answers.filterMap transfer

def ownString : Entry → Option Nat
  | ⟨_, .teamspeak (.getClientSelfVariableAsString _ _), reply⟩ => reply.map Buffer.address
  | _ => none

def ownStrings (answers : List Entry) : List Nat := answers.filterMap ownString

theorem transfers_append (newer older : List Entry) :
    transfers (newer ++ older) = transfers newer ++ transfers older := List.filterMap_append

theorem ownStrings_append (newer older : List Entry) :
    ownStrings (newer ++ older) = ownStrings newer ++ ownStrings older := List.filterMap_append

structure Kept (strings : Bool) (answers : List Entry) : Prop where
  leaves : Leaves (transfers answers) (ownStrings answers)
  unowned : strings = false → ownStrings answers = []

theorem kept_nil {strings : Bool} : Kept strings [] := ⟨leaves_nil, fun _ => rfl⟩

theorem Kept.append {strings : Bool} {newer older : List Entry} (last : Kept strings newer)
    (first : Kept strings older) : Kept strings (newer ++ older) := by
  constructor
  · rw [transfers_append, ownStrings_append]
    exact last.leaves.append first.leaves
  · intro excluded
    rw [ownStrings_append, last.unowned excluded, first.unowned excluded]
    rfl

theorem Kept.between {answers : List Entry} (inner : Kept false answers) {taken freed : Entry}
    {address : Nat} (first : transfer taken = some (.taken address))
    (other : ownString taken = none)
    (last : transfer freed = some (.returned address)) (void : ownString freed = none)
    (strings : Bool) : Kept strings (freed :: (answers ++ [taken])) := by
  have unowned : ownStrings (freed :: (answers ++ [taken])) = [] := by
    have around : freed :: (answers ++ [taken]) = [freed] ++ (answers ++ [taken]) := rfl
    have alone {e : Entry} (void : ownString e = none) : ownStrings [e] = [] := by
      simp [ownStrings, void]
    rw [around, ownStrings_append, ownStrings_append, alone void, alone other, inner.unowned rfl]
    rfl
  have moved : transfers (freed :: (answers ++ [taken])) =
      .returned address :: (transfers answers ++ [.taken address]) := by
    simp [transfers, first, last]
  refine ⟨?_, fun _ => unowned⟩
  have inside := inner.leaves
  rw [inner.unowned rfl] at inside
  rw [unowned, moved]
  exact inside.between

def Accounting (strings : Bool) (w u : World) : Prop :=
  ∃ answers, u.trace = answers ++ w.trace ∧ Kept strings answers

instance (strings : Bool) : Std.Refl (Accounting strings) := ⟨fun _ => ⟨[], rfl, kept_nil⟩⟩

instance (strings : Bool) : IsTrans World (Accounting strings) where
  trans _ _ _ first second := by
    obtain ⟨older, trace, kept⟩ := first
    obtain ⟨newer, trace', kept'⟩ := second
    exact ⟨newer ++ older, by rw [trace', trace, List.append_assoc], kept'.append kept⟩

def Loose (strings : Bool) : Op → Prop
  | .load | .store _ | .sleep _ => True
  | .external (.teamspeak call) => match call with
    | .getServerConnectionHandlerList | .getServerUniqueIdentifier _ | .getChannelClientList _ _
    | .freeMemory _ => False
    | .getClientSelfVariableAsString _ _ => strings = true
    | _ => True
  | .external _ | .thread _ => False

section Rules

variable {strings : Bool} {self : ThreadId} {env : Environment} {w : World} {α β : Type}

theorem kept_loose {call : TeamSpeakCall} (loose : Loose strings (.external (.teamspeak call)))
    (reply : call.Reply) : Kept strings [⟨self, .teamspeak call, reply⟩] := by
  cases call with
  | getServerConnectionHandlerList | getServerUniqueIdentifier | getChannelClientList
  | freeMemory => cases loose
  | getClientSelfVariableAsString handle flag =>
    have allowed : strings = true := loose
    subst allowed
    cases reply with
    | none => exact ⟨leaves_nil, fun _ => rfl⟩
    | some buffer => exact ⟨leaves_taken buffer.address, by simp⟩
  | _ => exact ⟨leaves_nil, fun _ => rfl⟩

theorem accounting_loose {op : Op} {reply : op.Reply} {u : World} (loose : Loose strings op)
    (step : steps self env op w reply u) : Accounting strings w u := by
  cases op with
  | load =>
    obtain ⟨-, rfl⟩ := step
    exact Std.Refl.refl u
  | sleep =>
    obtain rfl : u = w := step
    exact Std.Refl.refl u
  | store update =>
    obtain rfl : u = _ := step
    exact ⟨[], rfl, kept_nil⟩
  | thread => cases loose
  | external call =>
    obtain ⟨-, x, stepped, rfl⟩ := step
    cases call with
    | enet | object => cases loose
    | teamspeak call =>
      refine ⟨[⟨self, .teamspeak call, reply⟩], ?_, kept_loose loose reply⟩
      rw [World.record_trace, stepped.frame.2.2]
      rfl

theorem stays_loose {p : Plugin α} (calls : p.Calls (Loose strings)) :
    Stays (steps self env) (Accounting strings) p := by
  intro v
  apply wp_of_calls calls ?_ (Std.Refl.refl v)
  intro op s reply t loose before step
  exact IsTrans.trans v s t before (accounting_loose loose step)

theorem wp_freed (taken : Entry) {address : Nat} {body : Plugin β} {rest : β → Plugin α}
    (first : transfer taken = some (.taken address)) (other : ownString taken = none)
    (inner : Stays (steps self env) (Accounting false) body)
    (after : ∀ value, Stays (steps self env) (Accounting strings) (rest value)) :
    wp (steps self env)
      (body >>= fun value => teamspeak (.freeMemory address) >>= fun _ => rest value)
      (fun _ u => Accounting strings w u) (w.logged [taken]) := by
  rw [wp_bind]
  apply wp_mono ?_ (inner (w.logged [taken]))
  intro value u worked
  obtain ⟨answers, trace, kept⟩ := worked
  rw [wp_bind, wp_freeMemory]
  intro reply _
  let freed : Entry := ⟨self, .teamspeak (.freeMemory address), reply⟩
  have closed : Accounting strings w (u.asked self (.freeMemory address) reply) := by
    refine ⟨freed :: (answers ++ [taken]), ?_, kept.between first other rfl rfl strings⟩
    simp [trace, freed]
  apply wp_mono ?_ (after value (u.asked self (.freeMemory address) reply))
  intro _ v later
  exact IsTrans.trans w _ v closed later

end Rules

section Functions

variable {self : ThreadId} {env : Environment}

theorem loose_load {strings : Bool} : load.Calls (Loose strings) := ⟨trivial, fun _ => trivial⟩

theorem loose_wrapper {strings : Bool} : wrapper.Calls (Loose strings) :=
  loose_load.bind fun _ => trivial

theorem loose_setWrapper {strings : Bool} (update : Wrapper → Wrapper) :
    (setWrapper update).Calls (Loose strings) := ⟨trivial, fun _ => trivial⟩

theorem loose_teamspeak {strings : Bool} {call : TeamSpeakCall}
    (loose : Loose strings (.external (.teamspeak call))) :
    (teamspeak call).Calls (Loose strings) := ⟨loose, fun _ => trivial⟩

theorem loose_sleepFor {strings : Bool} (milliseconds : Nat) :
    (sleepFor milliseconds).Calls (Loose strings) := ⟨trivial, fun _ => trivial⟩

theorem wrapperPrograms_loose :
    WrapperPrograms (· ∈ [.readString, .writeString, .writeInt])
    (fun {_} p => p.Calls (Loose true)) where
  toPluginPrograms := .of_load trivial
  sleepFor := loose_sleepFor
  teamspeak {call} about := by
    apply loose_teamspeak
    cases call with
    | getClientSelfVariableAsString => rfl
    | getServerConnectionHandlerList | getServerUniqueIdentifier | getChannelClientList
    | freeMemory => simp [TeamSpeakCall.topic] at about
    | _ => trivial
  poll _ _ := repeatUntil_calls

theorem loose_setNickname (nickname : StdString) : (ts3SetNickname nickname).Calls (Loose true) :=
  wrapperPrograms_loose.ts3SetNickname (by decide) (by decide) (by decide)
    (fun _ => loose_setWrapper _) nickname

theorem loose_resetNickname : ts3ResetNickname.Calls (Loose true) :=
  wrapperPrograms_loose.ts3ResetNickname (by decide) (by decide) fun _ => loose_setWrapper _

theorem loose_getClientIdentity : ts3GetClientIdentity.Calls (Loose true) :=
  wrapperPrograms_loose.ts3GetClientIdentity (by decide)

theorem stays_findServer (uniqueIdentifier : StdString) (serverList : List UInt64) :
    Stays (steps self env) (Accounting false) (findServer uniqueIdentifier serverList) := by
  induction serverList with
  | nil => exact Stays.pure ()
  | cons handle rest ih =>
    unfold findServer
    by_cases zero : handle = 0
    · rw [if_pos zero]
      exact Stays.pure ()
    intro w
    rw [if_neg zero, wp_bind, wp_getServerUniqueIdentifier]
    intro reply _
    cases reply with
    | none =>
      let asked : Entry := ⟨self, .teamspeak (.getServerUniqueIdentifier handle), none⟩
      have closed : Accounting false w (w.logged [asked]) :=
        ⟨[asked], rfl, leaves_nil, fun _ => rfl⟩
      apply wp_mono ?_ (ih (w.logged [asked]))
      intro _ v later
      exact IsTrans.trans w _ v closed later
    | some uid =>
      let asked : Entry := ⟨self, .teamspeak (.getServerUniqueIdentifier handle), some uid⟩
      dsimp only
      split
      · exact wp_freed asked rfl rfl (stays_loose (loose_setWrapper _)) fun _ => Stays.pure ()
      · exact wp_freed asked rfl rfl (Stays.pure ()) fun _ => ih

theorem stays_verifyServer (uniqueIdentifier : StdString) :
    Stays (steps self env) (Accounting false) (ts3VerifyServer uniqueIdentifier) := by
  intro w
  unfold ts3VerifyServer
  rw [wp_bind, wp_getServerConnectionHandlerList]
  intro reply _
  cases reply with
  | none => exact ⟨[_], rfl, leaves_nil, fun _ => rfl⟩
  | some serverList =>
    have inner : Stays (steps self env) (Accounting false)
        (setHandler 0 >>= fun _ => findServer uniqueIdentifier serverList.contents) :=
      (stays_loose (loose_setWrapper _)).bind fun _ => stays_findServer _ _
    have after : Stays (steps self env) (Accounting false)
        (do return decide ((← wrapper).serverConnectionHandler ≠ 0)) :=
      (stays_loose loose_wrapper).bind fun _ => Stays.pure _
    let listed : Entry := ⟨self, .teamspeak .getServerConnectionHandlerList, some serverList⟩
    have freed : wp (steps self env) _ (fun _ u => Accounting false w u) (w.logged [listed]) :=
      wp_freed listed rfl rfl inner fun _ => after
    rw [Program.bind_assoc] at freed
    exact freed

theorem stays_clientsInChannel (channelId : UInt64) :
    Stays (steps self env) (Accounting false) (ts3ClientsInChannel channelId) := by
  have subscribes (handle : UInt64) (channelIds : List UInt64) :
      Stays (steps self env) (Accounting false)
        (teamspeak (.requestChannelSubscribe handle channelIds)) :=
    stays_loose (loose_teamspeak trivial)
  have polls : Stays (steps self env) (Accounting false)
      (Program.repeatUntil (pollRound channelId)) := by
    apply stays_loose
    apply repeatUntil_calls
    refine (loose_sleepFor 10).bind fun _ => loose_wrapper.bind fun m => ?_
    refine Program.Calls.bind (loose_teamspeak trivial) fun isSubscribed => ?_
    cases isSubscribed with
    | none => trivial
    | some isSubscribed => trivial
  unfold ts3ClientsInChannel
  apply (stays_loose loose_wrapper).bind
  intro first
  apply (subscribes _ _).bind
  intro accepted
  split
  · exact Stays.pure _
  apply polls.bind
  intro subscribed
  split
  · exact Stays.pure _
  apply (stays_loose loose_wrapper).bind
  intro last w
  rw [wp_bind, wp_getChannelClientList]
  intro reply _ _
  cases reply with
  | none => exact ⟨[_], rfl, leaves_nil, fun _ => rfl⟩
  | some clientList =>
    exact wp_freed ⟨self, .teamspeak (.getChannelClientList last.serverConnectionHandler channelId),
      some clientList⟩ rfl rfl (Stays.pure ()) fun _ => Stays.pure _

end Functions

inductive Call where
  | verifyServer (uniqueIdentifier : StdString)
  | clientsInChannel (channelId : UInt64)
  | setNickname (nickname : StdString)
  | resetNickname
  | getClientIdentity

def Call.run : Call → Plugin Unit
  | .verifyServer uniqueIdentifier => discard (ts3VerifyServer uniqueIdentifier)
  | .clientsInChannel channelId => discard (ts3ClientsInChannel channelId)
  | .setNickname nickname => discard (ts3SetNickname nickname)
  | .resetNickname => discard ts3ResetNickname
  | .getClientIdentity => discard ts3GetClientIdentity

inductive Run (self : ThreadId) (env : Environment) (start : World) : World → Prop where
  | start : Run self env start start
  | call {w w' : World} (run : Run self env start w) (call : Call)
      (step : Exec (steps self env) call.run w () w') : Run self env start w'

structure Balanced (answers : List Entry) : Prop where
  empty : held (transfers answers) = []
  honest : Honest (transfers answers)
  once : ∀ address, timesReturned address (transfers answers) =
    timesTaken address (transfers answers)

theorem Accounting.strings {w u : World} (accounting : Accounting false w u) :
    Accounting true w u := by
  obtain ⟨answers, trace, kept⟩ := accounting
  exact ⟨answers, trace, kept.leaves, by simp⟩

theorem stays_call {self : ThreadId} {env : Environment} (call : Call) :
    Stays (steps self env) (Accounting true) call.run := by
  have whole {α : Type} {p : Plugin α} (stays : Stays (steps self env) (Accounting false) p) :
      Stays (steps self env) (Accounting true) p :=
    fun w => wp_mono (fun _ _ accounting => accounting.strings) (stays w)
  have discarded {α : Type} {p : Plugin α} (stays : Stays (steps self env) (Accounting true) p) :
      Stays (steps self env) (Accounting true) (discard p) := stays.bind fun _ => Stays.pure ()
  cases call with
  | verifyServer uniqueIdentifier => exact discarded (whole (stays_verifyServer _))
  | clientsInChannel channelId => exact discarded (whole (stays_clientsInChannel _))
  | setNickname nickname => exact discarded (stays_loose (loose_setNickname _))
  | resetNickname => exact discarded (stays_loose loose_resetNickname)
  | getClientIdentity => exact discarded (stays_loose loose_getClientIdentity)

theorem Run.accounting {self : ThreadId} {env : Environment} {start w : World}
    (run : Run self env start w) : Accounting true start w := by
  induction run with
  | start => exact Std.Refl.refl start
  | call _ call step ih => exact IsTrans.trans start _ _ ih (step.stays (stays_call call))

end Buffers

open Buffers in
/-- After every call of a sequence the buffers are given back, unless TeamSpeak has handed out the
own nickname or the own identity. -/
theorem buffers_returned (self : ThreadId) (env : Environment) (start w : World)
    (answers : List Entry) (run : Run self env start w) (trace : w.trace = answers ++ start.trace) :
    Balanced answers ↔ ∀ e ∈ answers, ownString e = none := by
  obtain ⟨told, grown, kept⟩ := run.accounting
  obtain rfl : told = answers := List.append_cancel_right (grown.symm.trans trace)
  obtain ⟨honest, left⟩ := kept.leaves.held_eq
  have unowned : ownStrings told = [] ↔ ∀ e ∈ told, ownString e = none := by
    rw [ownStrings, List.filterMap_eq_nil_iff]
  rw [← unowned, ← left]
  constructor
  · exact Balanced.empty
  · intro empty
    refine ⟨empty, honest, ?_⟩
    intro address
    have count := honest.count address
    rw [empty] at count
    simpa using count

namespace Buffers

def answering : Replies := ⟨obliging [1] .empty, connecting 1, lone 0⟩

def current : World := World.idle.withHandler 1

def called (call : Call) : World := ranPlugin 0 answering call.run current

theorem run_called (call : Call)
    (ran : (runPlugin 0 answering 60 call.run current).map (·.1) = some ()) :
    Run 0 .any current (called call) :=
  .call .start call (exec_ranPlugin answering.within_any ran)

end Buffers

open Buffers in
theorem buffers_returned_lookup : Balanced (called (.verifyServer .empty)).trace :=
  (buffers_returned 0 .any current (called (.verifyServer .empty))
    (called (.verifyServer .empty)).trace (run_called _ (by decide)) (List.append_nil _).symm).mpr
    (by decide)

open Buffers in
-- The own nickname is handed out and not given back.
theorem buffers_lost : ¬ ∀ (self : ThreadId) (env : Environment) (start w : World)
    (answers : List Entry), Run self env start w → w.trace = answers ++ start.trace →
      Balanced answers := by
  intro claimed
  have balanced := claimed 0 .any current (called (.setNickname .empty))
    (called (.setNickname .empty)).trace (run_called _ (by decide)) (List.append_nil _).symm
  have empty := balanced.empty
  revert empty
  decide

end JustAnotherVoiceChat
