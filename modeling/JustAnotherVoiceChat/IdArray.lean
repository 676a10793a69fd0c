import JustAnotherVoiceChat.Scenario
import JustAnotherVoiceChat.Wrapper

set_option autoImplicit false

namespace JustAnotherVoiceChat

open Binary Interaction

namespace IdArray

-- A write into an array; there is no array left after one outside of it.
def write (array : List AnyID) (index : Nat) (value : AnyID) : Option (List AnyID) :=
  if index < array.length then some (array.set index value) else none

def writeAll (array : List AnyID) (index : Nat) : List AnyID → Option (List AnyID × Nat)
  | [] => some (array, index)
  | id :: rest => do writeAll (← write array index id) (index + 1) rest

def fill (allocated : List AnyID) (clients : SortedSet AnyID) : Option (List AnyID) := do
  let (array, index) ← writeAll allocated 0 clients.elems
  write array index 0

theorem write_next (done rest : List AnyID) (old value : AnyID) :
    write (done ++ old :: rest) done.length value = some (done ++ value :: rest) := by
  have inside : done.length < (done ++ old :: rest).length := by
    rw [List.length_append, List.length_cons]
    omega
  rw [write, if_pos inside, List.set_append_right _ _ (Nat.le_refl _), Nat.sub_self,
    List.set_cons_zero]

theorem writeAll_next (done rest : List AnyID) (ids : List AnyID)
    (room : ids.length ≤ rest.length) :
    writeAll (done ++ rest) done.length ids =
      some (done ++ ids ++ rest.drop ids.length, (done ++ ids).length) := by
  induction ids generalizing done rest with
  | nil => simp [writeAll]
  | cons id ids ih =>
    cases rest with
    | nil => simp at room
    | cons old rest =>
      have fits : ids.length ≤ rest.length := by simpa using room
      have later := ih (done ++ [id]) rest fits
      simp only [List.append_assoc, List.cons_append, List.nil_append, List.length_append,
        List.length_cons, List.length_nil] at later
      rw [writeAll, write_next]
      simpa [Nat.add_comm, Nat.add_left_comm] using later

-- Room for all ids and one more element is enough for every write, whatever it held before.
theorem fill_eq (allocated : List AnyID) (clients : SortedSet AnyID)
    (room : allocated.length = clients.elems.length + 1) :
    fill allocated clients = some (clientIdArray clients) := by
  obtain ⟨last, left⟩ : ∃ last, allocated.drop clients.elems.length = [last] := by
    apply List.length_eq_one_iff.mp
    rw [List.length_drop, room]
    omega
  have filled := writeAll_next [] allocated clients.elems (by omega)
  rw [left] at filled
  simp only [List.nil_append, List.length_nil] at filled
  rw [fill, filled]
  exact write_next clients.elems [] last 0

structure Lists (clients : SortedSet AnyID) (array : List AnyID) : Prop where
  inside : ∀ allocated : List AnyID, allocated.length = clients.elems.length + 1 →
    fill allocated clients = some array
  names : ∀ id, id ∈ untilZero array ↔ id ∈ clients
  once : (untilZero array).Nodup

theorem lists_iff (clients : SortedSet AnyID) :
    Lists clients (clientIdArray clients) ↔ 0 ∉ clients := by
  constructor
  · intro lists zero
    exact mem_untilZero_ne ((lists.names 0).mpr zero) rfl
  · intro nonzero
    have same := untilZero_clientIdArray nonzero
    refine ⟨fun allocated room => fill_eq allocated clients room, ?_, ?_⟩
    · intro id
      rw [same]
      exact Iff.rfl
    · rw [same]
      exact clients.ascending.imp ne_of_lt

def requested : Entry → Option (List AnyID)
  | ⟨_, .teamspeak (.requestMuteClients _ clientIds), _⟩ => some clientIds
  | ⟨_, .teamspeak (.requestUnmuteClients _ clientIds), _⟩ => some clientIds
  | _ => none

inductive Call where
  | muteClients (clients : SortedSet AnyID) (mute : Bool)
  | unmuteAllClients

def Call.run : Call → Plugin Bool
  | .muteClients clients mute => ts3MuteClients clients mute
  | .unmuteAllClients => ts3UnmuteAllClients

def Call.clients (call : Call) (w : World) : SortedSet AnyID :=
  match call with
  | .muteClients clients _ => clients
  | .unmuteAllClients => w.memory.wrapper.mutedClients

def Requests (clients : SortedSet AnyID) (answers : List Entry) : Prop :=
  answers.filterMap requested =
    if clients.isEmpty = true then [] else [clientIdArray clients]

theorem Requests.lists_iff {clients : SortedSet AnyID} {answers : List Entry}
    (requests : Requests clients answers) :
    (∀ array ∈ answers.filterMap requested, Lists clients array) ↔ 0 ∉ clients := by
  rw [requests]
  split
  · rename_i empty
    have none := SortedSet.isEmpty_iff.mp empty
    exact iff_of_true (by simp) (none 0)
  · rw [← IdArray.lists_iff clients]
    simp

section Runs

variable {self : ThreadId} {env : Environment} {w : World}

theorem requests_some {clients : SortedSet AnyID} {e : Entry}
    (some_client : ¬ clients.isEmpty = true)
    (request : requested e = some (clientIdArray clients)) : Requests clients [e] := by
  rw [Requests, if_neg some_client, List.filterMap_cons_some request]
  rfl

theorem requests_none {clients : SortedSet AnyID} (none : clients.isEmpty = true) :
    Requests clients [] := by
  rw [Requests, if_pos none]
  rfl

theorem wp_requests (call : Call) : wp (steps self env) call.run (fun _ u => ∃ answers,
    u.trace = answers ++ w.trace ∧ Requests (call.clients w) answers) w := by
  cases call with
  | muteClients clients mute =>
    apply wp_muting
    · intro none
      exact ⟨[], rfl, requests_none none⟩
    · intro ok u some_client _ muting
      exact ⟨[_], muting.trace, requests_some some_client (by cases mute <;> rfl)⟩
  | unmuteAllClients =>
    change wp _ ts3UnmuteAllClients _ w
    rw [wp_ts3UnmuteAllClients]
    split
    · rename_i none
      exact ⟨[], rfl, requests_none none⟩
    · rename_i some_client
      intro ok _
      exact ⟨[_], rfl, requests_some some_client rfl⟩

end Runs

end IdArray

open IdArray in
/-- The arrays that are handed to TeamSpeak list the clients exactly when none has the id 0. -/
theorem clientIds_listed (self : ThreadId) (env : Environment) (call : Call) (w u : World)
    (result : Bool) (answers : List Entry) (run : Exec (steps self env) call.run w result u)
    (trace : u.trace = answers ++ w.trace) :
    (∀ array ∈ answers.filterMap requested, Lists (call.clients w) array) ↔ 0 ∉ call.clients w := by
  obtain ⟨told, grown, requests⟩ := run.wp (wp_requests call)
  obtain rfl : told = answers := List.append_cancel_right (grown.symm.trans trace)
  exact requests.lists_iff

namespace IdArray

def answering : Replies := ⟨obliging [1] .empty, connecting 1, lone 0⟩

def both : SortedSet AnyID := .ofList [7, 5]

def muted (clients : SortedSet AnyID) : World :=
  ranPlugin 0 answering (Call.muteClients clients true).run .idle

def zeroUpdates : List ClientAudioUpdate := [⟨0, true, 0, .empty⟩, ⟨5, true, 0, .empty⟩]

theorem zeroUpdates_length : zeroUpdates.length < 2 ^ 64 := by decide

def zeroUpdate : UpdatePacket := ⟨⟨zeroUpdates, zeroUpdates_length⟩, .empty⟩

def zeroPayload : Bytes := UpdatePacket.serialize.encode zeroUpdate

end IdArray

open IdArray in
theorem clientIds_listed_both :
    [5, 7, 0] ∈ (muted both).trace.filterMap requested ∧ Lists both [5, 7, 0] := by
  have listed := (clientIds_listed 0 .any (.muteClients both true) .idle (muted both) true
    (muted both).trace (exec_ranPlugin answering.within_any (by decide))
    (List.append_nil _).symm).mpr (by decide)
  have handed : [5, 7, 0] ∈ (muted both).trace.filterMap requested := by decide
  exact ⟨handed, listed _ handed⟩

open IdArray in
-- An update packet mutes the clients 0 and 5, and TeamSpeak reads that nobody is to be muted.
theorem clientIds_cut : ¬ ∀ (packet : Bytes) (p : UpdatePacket) (self : ThreadId)
    (env : Environment) (w u : World) (result : Bool) (answers : List Entry),
    receive UpdatePacket.serialize packet = some p →
      Exec (steps self env) (ts3MuteClients (splitAudioUpdates p.audioUpdates.items).1 true)
        w result u → u.trace = answers ++ w.trace → ∀ array ∈ answers.filterMap requested,
          Lists (splitAudioUpdates p.audioUpdates.items).1 array := by
  intro claimed
  let clients := (splitAudioUpdates zeroUpdate.audioUpdates.items).1
  have lists := claimed zeroPayload zeroUpdate 0 .any .idle (muted clients) true
    (muted clients).trace (by decide) (exec_ranPlugin answering.within_any (by decide))
    (List.append_nil _).symm [0, 5, 0] (by decide)
  have named := (lists.names 5).mpr (by decide)
  revert named
  decide

end JustAnotherVoiceChat
