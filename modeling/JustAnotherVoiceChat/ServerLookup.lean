import JustAnotherVoiceChat.Scenario
import JustAnotherVoiceChat.Wrapper

set_option autoImplicit false

namespace JustAnotherVoiceChat

open Binary Interaction

namespace ServerLookup

structure Listed where
  handle : UInt64
  identifier : Option CString

def Listed.Named (uniqueIdentifier : StdString) (server : Listed) : Prop :=
  server.identifier.map CString.text = some uniqueIdentifier

instance (uniqueIdentifier : StdString) (server : Listed) :
    Decidable (server.Named uniqueIdentifier) :=
  inferInstanceAs (Decidable (_ = _))

def firstNamed (uniqueIdentifier : StdString) (servers : List Listed) : UInt64 :=
  ((servers.find? fun server => server.Named uniqueIdentifier).map Listed.handle).getD 0

def untilZeroHandle (handles : List UInt64) : List UInt64 := handles.takeWhile (· ≠ 0)

def listing : Entry → Option (Option (List UInt64))
  | ⟨_, .teamspeak .getServerConnectionHandlerList, reply⟩ =>
    some (reply.map fun list => untilZeroHandle list.contents)
  | _ => none

def query : Entry → Option Listed
  | ⟨_, .teamspeak (.getServerUniqueIdentifier handle), reply⟩ =>
    some ⟨handle, reply.map Buffer.contents⟩
  | _ => none

def queries (answers : List Entry) : List Listed := answers.reverse.filterMap query

structure Outcome (answers : List Entry) (handles : Option (List UInt64))
    (servers : List Listed) : Prop where
  list : answers.findSome? listing = some handles
  listed : servers.map Listed.handle = handles.getD []
  queried : queries answers <+: servers

section Lists

variable {uniqueIdentifier : StdString} {servers : List Listed} {server : Listed}

theorem firstNamed_cons_other (other : ¬ server.Named uniqueIdentifier) :
    firstNamed uniqueIdentifier (server :: servers) = firstNamed uniqueIdentifier servers := by
  simp [firstNamed, other]

theorem queries_append (newer older : List Entry) :
    queries (newer ++ older) = queries older ++ queries newer := by
  simp [queries]

end Lists

section Runs

variable {self : ThreadId} {env : Environment} {w : World} {uniqueIdentifier : StdString}

structure Scanned (uniqueIdentifier : StdString) (handles : List UInt64) (answers : List Entry)
    (u : World) : Prop where
  unlisted : ∀ e ∈ answers, listing e = none
  first : ∀ servers, servers.map Listed.handle = handles → queries answers <+: servers →
    u.memory.wrapper.serverConnectionHandler = firstNamed uniqueIdentifier servers

theorem Scanned.cons {handles : List UInt64} {newer older : List Entry}
    {u : World} {server : Listed} (scanned : Scanned uniqueIdentifier handles newer u)
    (asked : queries older = [server]) (unlisted : ∀ e ∈ older, listing e = none)
    (other : ¬ server.Named uniqueIdentifier) :
    Scanned uniqueIdentifier (server.handle :: handles) (newer ++ older) u := by
  constructor
  · intro e member
    exact (List.mem_append.mp member).elim (scanned.unlisted e) (unlisted e)
  · intro servers listed queried
    rw [queries_append, asked] at queried
    obtain ⟨rest, rfl⟩ := queried
    simp only [List.cons_append, List.nil_append, List.map_cons, List.cons.injEq] at listed ⊢
    rw [firstNamed_cons_other other]
    exact scanned.first _ listed.2 (List.prefix_append _ _)

structure Found (uniqueIdentifier : StdString) (w : World) (answers : List Entry) (found : Bool)
    (u : World) : Prop where
  refused : answers.findSome? listing = some none → found = false ∧
    u.memory.wrapper.serverConnectionHandler = w.memory.wrapper.serverConnectionHandler
  given : ∀ handles servers, Outcome answers (some handles) servers →
    u.memory.wrapper.serverConnectionHandler = firstNamed uniqueIdentifier servers ∧
      found = decide (u.memory.wrapper.serverConnectionHandler ≠ 0)

end Runs

end ServerLookup

namespace ServerLookup

def current : World := World.idle.withHandler 1

def answering (handles : Option (List UInt64)) : Replies where
  teamspeak call w :=
    match call with
    | .getServerConnectionHandlerList => handles.map fun list => ⟨0, list⟩
    | .getServerUniqueIdentifier handle => if handle = 3 then some ⟨0, .empty⟩ else none
    | call => obliging [] .empty call w
  enet := connecting 1
  thread := lone 0

def looked (handles : Option (List UInt64)) : World :=
  ranPlugin 0 (answering handles) (ts3VerifyServer .empty) current

end ServerLookup

end JustAnotherVoiceChat
