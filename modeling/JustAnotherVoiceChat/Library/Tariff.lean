import JustAnotherVoiceChat.Library.Interference

set_option autoImplicit false

-- A tariff says what a call costs and what its reply brings in. A program that pays for its
-- calls out of a credit and of what came in before spends no more than that on any run, however
-- long.

namespace Interaction

open Program

structure Tariff (Op : Type) (Reply : Op → Type) where
  price : Op → Nat
  earns : (op : Op) → Reply op → Nat
  told : (op : Op) → Reply op → Prop

variable {Op : Type} {Reply : Op → Type} {σ : Type} {α β : Type}

def Tariff.Reckons (T : Tariff Op Reply) (sem : Semantics Op Reply σ) (spent earned : σ → Nat) :
    Prop :=
  ∀ op s reply t, sem op s reply t → T.told op reply ∧
    spent t = spent s + T.price op ∧ earned t = earned s + T.earns op reply

-- `p` pays for its calls out of `credit` and what it earns. A loop can go on for ever, so that each
-- of its rounds must pay for itself.
def Tariff.Affords (T : Tariff Op Reply) : {α : Type} → Nat → Program Op Reply α → Prop
  | _, _, .ret _ => True
  | _, credit, .call op next => T.price op ≤ credit ∧ ∀ reply, T.told op reply →
      T.Affords (credit - T.price op + T.earns op reply) (next reply)
  | _, credit, .iterate body next => T.Affords 0 body ∧ ∀ value, T.Affords credit (next value)

namespace Tariff

variable {T : Tariff Op Reply} {p : Program Op Reply α} {credit more : Nat}

theorem Affords.mono (within : credit ≤ more) (affords : T.Affords credit p) :
    T.Affords more p := by
  induction p generalizing credit more with
  | ret value => trivial
  | call op next ih =>
    refine ⟨Nat.le_trans affords.1 within, fun reply told => ih reply ?_ (affords.2 reply told)⟩
    omega
  | iterate body next _ ih => exact ⟨affords.1, fun value => ih value within (affords.2 value)⟩

theorem Affords.pure (value : α) : T.Affords credit (Pure.pure value : Program Op Reply α) :=
  trivial

theorem Affords.bind {f : α → Program Op Reply β} (first : T.Affords credit p)
    (rest : ∀ value, T.Affords more (f value)) : T.Affords (credit + more) (p >>= f) := by
  induction p generalizing credit with
  | ret value => exact (rest value).mono (Nat.le_add_left more credit)
  | call op next ih =>
    refine ⟨Nat.le_add_right_of_le first.1, fun reply told => ?_⟩
    have later := ih reply (first.2 reply told) rest
    have enough := first.1
    exact later.mono (by omega)
  | iterate body next _ ih => exact ⟨first.1, fun value => ih value (first.2 value) rest⟩

theorem Affords.then {f : α → Program Op Reply β} (first : T.Affords 0 p)
    (rest : ∀ value, T.Affords credit (f value)) : T.Affords credit (p >>= f) :=
  (first.bind rest).mono (Nat.le_of_eq (Nat.zero_add credit))

theorem Affords.spend {f : α → Program Op Reply β} (first : T.Affords credit p)
    (rest : ∀ value, T.Affords 0 (f value)) : T.Affords credit (p >>= f) := first.bind rest

theorem Affords.perform {op : Op} (enough : T.price op ≤ credit) :
    T.Affords credit (Program.perform op) := ⟨enough, fun _ _ => trivial⟩

theorem Affords.forM {items : List α} {f : α → Program Op Reply Unit}
    (each : ∀ item ∈ items, T.Affords credit (f item)) :
    T.Affords (items.length * credit) (forM items f) := by
  induction items with
  | nil => trivial
  | cons item rest ih =>
    rw [List.forM_cons]
    have later := ih fun item member => each item (List.mem_cons_of_mem _ member)
    have both := (each item List.mem_cons_self).bind fun _ => later
    exact both.mono (by rw [List.length_cons, Nat.add_mul]; omega)

theorem Affords.repeatUntil {body : Program Op Reply (Option α)} (round : T.Affords 0 body) :
    T.Affords 0 (Program.repeatUntil body) := ⟨round, fun _ => trivial⟩

theorem Affords.move {sem : Semantics Op Reply σ} {spent earned : σ → Nat}
    {rest : Program Op Reply α} {s t : σ} (reckoned : T.Reckons sem spent earned)
    (affords : T.Affords credit p) (move : Move sem p s rest t) :
    ∃ left, T.Affords left rest ∧ spent t + earned s + left ≤ spent s + earned t + credit := by
  cases move with
  | call step =>
    obtain ⟨told, paid, brought⟩ := reckoned _ _ _ _ step
    refine ⟨_, affords.2 _ told, ?_⟩
    have enough := affords.1
    omega
  | @unfold _ body next =>
    refine ⟨credit, affords.1.then fun found => ?_, by omega⟩
    cases found with
    | none => exact affords
    | some value => exact affords.2 value

theorem Affords.moves {sem : Semantics Op Reply σ} {spent earned : σ → Nat}
    {rest : Program Op Reply α} {s t : σ} (reckoned : T.Reckons sem spent earned)
    (affords : T.Affords credit p) (moves : Moves sem p s rest t) :
    spent t + earned s ≤ spent s + earned t + credit := by
  induction moves generalizing credit with
  | refl => omega
  | head move _ ih =>
    obtain ⟨left, later, paid⟩ := affords.move reckoned move
    have onward := ih later
    omega

end Tariff

end Interaction
