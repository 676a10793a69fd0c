import JustAnotherVoiceChat.Joining

set_option autoImplicit false

namespace JustAnotherVoiceChat

open Binary Interaction

-- What a relation must allow; only the handshake and the reset change the fields above.
structure ClientRules (sem : Semantics Op Op.Reply World) (relation : World → World → Prop) :
    Prop where
  ofWrapper : ∀ {α : Type} {p : Plugin α}, p.Calls Op.OfWrapper → Stays sem relation p
  setClient : ∀ {update : Client → Client}, (∀ c, lasting (update c) = lasting c) →
    Stays sem relation (setClient update)
  enet : ∀ call, Stays sem relation (enet call)
  thread : ∀ call, Stays sem relation (thread call)
  handshakeResponse : ∀ packet, Stays sem relation (handleHandshakeResponse packet)
  reset : Stays sem relation resetTeamspeak

section Rules

variable {sem : Semantics Op Op.Reply World} {relation : World → World → Prop}
  [Std.Refl relation] [IsTrans World relation] (rules : ClientRules sem relation)

include rules

theorem ClientRules.programs : ClientPrograms (fun {_} p => Stays sem relation p) where
  toPartPrograms := .of_wrapper Stays.bind rules.ofWrapper
  enet call _ := rules.enet call
  setClient tame := rules.setClient tame.lasting
  await := Stays.repeatUntil
  loop := Stays.repeatUntil
  abortThread :=
    (PartPrograms.of_wrapper Stays.bind rules.ofWrapper).abortThread
    (fun call _ _ => rules.thread call)
      (rules.setClient fun _ => rfl) (rules.setClient fun _ => rfl)
  handshakeResponse := rules.handshakeResponse
  reset := rules.reset

theorem ClientRules.close : Stays sem relation close := rules.programs.close

theorem ClientRules.disconnect (status : UInt32) : Stays sem relation (disconnect status) :=
  rules.programs.session.disconnect status

theorem ClientRules.round : Stays sem relation updateRound := rules.programs.session.round

theorem ClientRules.update : Stays sem relation update := rules.programs.session.update

theorem ClientRules.connect (host : StdString) (port uniqueIdentifier : UInt16) :
    Stays sem relation (connect host port uniqueIdentifier) := by
  apply rules.programs.connect
  exact rules.programs.startUpdate rules.programs.abortThread (rules.thread .spawn) rules.setClient
    host port uniqueIdentifier

end Rules

section Threads

variable {relation : World → World → Prop} [Std.Refl relation]
  {answers : (call : External) → World → call.Reply → Prop}

theorem stays_client {self : ThreadId} {env : Environment} :
    Stays (steps self env) relation client := by
  intro w
  rw [wp_client]
  exact Std.Refl.refl w

theorem stays_updating (id : ThreadId) (call : ThreadCall) :
    Stays (steps id (.updating id answers)) relation (thread call) := by
  intro w
  rw [wp_thread]
  intro reply u told
  rw [updating_same told]
  exact Std.Refl.refl w

variable [IsTrans World relation]
  (rules : ∀ id, ClientRules (steps id (.updating id answers)) relation)
  (phases : ∀ w id phase, relation w (World.withPhase w id phase))

include rules phases

theorem stays_calling (caller : ThreadId) (call : ThreadCall) :
    Stays (steps caller (.calling caller answers)) relation (thread call) := by
  intro w
  rw [wp_thread]
  intro reply u told
  cases call with
  | join held =>
    obtain ⟨id, -, ended⟩ := told
    exact ended.keeps (rules id).update (rules id).close fun w => phases w id
  | spawn =>
    obtain ⟨-, -, rfl⟩ := told
    exact phases w reply _
  | selfId | joinable =>
    rw [told.2]
    exact Std.Refl.refl w
  | delete | exit =>
    rw [show u = w from told]
    exact Std.Refl.refl w

end Threads

end JustAnotherVoiceChat
