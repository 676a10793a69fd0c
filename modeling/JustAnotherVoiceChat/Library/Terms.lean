import JustAnotherVoiceChat.Library.Interference

set_option autoImplicit false

-- Terms say which calls a program may make, and what it can take from a reply. Programs that
-- keep to their terms can run side by side without a word about the state: it is enough that
-- every step of a thread that makes a permitted call gives a reply that is as told.

namespace Interaction

open Program Relation

variable {Op : Type} {Reply : Op → Type} {σ ι : Type} {α β : Type}

structure Terms (Op : Type) (Reply : Op → Type) where
  may : Op → Prop
  told : (op : Op) → Reply op → Prop

-- `p` makes permitted calls only, as long as its replies are as told, and `result` then holds of
-- its value.
def Terms.Kept (T : Terms Op Reply) :
    {α : Type} → Program Op Reply α → (α → Prop) → Prop
  | _, .ret value, result => result value
  | _, .call op next, result => T.may op ∧ ∀ reply, T.told op reply → T.Kept (next reply) result
  | _, .iterate body next, result =>
    T.Kept body fun found => ∀ value, found = some value → T.Kept (next value) result

namespace Terms

section Rules

variable {T : Terms Op Reply} {p : Program Op Reply α} {result : α → Prop}

theorem Kept.mono {wider : α → Prop} (included : ∀ value, result value → wider value)
    (kept : T.Kept p result) : T.Kept p wider := by
  induction p with
  | ret value => exact included value kept
  | call op next ih => exact ⟨kept.1, fun reply told => ih reply included (kept.2 reply told)⟩
  | iterate body next ihBody ihNext =>
    apply ihBody ?_ kept
    intro found rest value same
    exact ihNext value included (rest value same)

theorem Kept.bind {f : α → Program Op Reply β} {after : β → Prop} (first : T.Kept p result)
    (rest : ∀ value, result value → T.Kept (f value) after) : T.Kept (p >>= f) after := by
  induction p with
  | ret value => exact rest value first
  | call op next ih => exact ⟨first.1, fun reply told => ih reply (first.2 reply told) rest⟩
  | iterate body next _ ih =>
    have round : T.Kept body fun found =>
        ∀ value, found = some value → T.Kept (next value) result := first
    apply Kept.mono ?_ round
    intro found later value same
    exact ih value (later value same) rest

theorem Kept.forM {items : List α} {f : α → Program Op Reply Unit}
    (each : ∀ item ∈ items, T.Kept (f item) fun _ => True) :
    T.Kept (forM items f) fun _ => True := by
  induction items with
  | nil => trivial
  | cons item rest ih =>
    rw [List.forM_cons]
    apply (each item List.mem_cons_self).bind
    intro _ _
    exact ih fun item member => each item (List.mem_cons_of_mem _ member)

theorem Kept.repeatUntil {body : Program Op Reply (Option α)}
    (round : T.Kept body fun found => ∀ value, found = some value → result value) :
    T.Kept (Program.repeatUntil body) result := round

theorem Kept.of_calls {allowed : Op → Prop} (calls : p.Calls allowed)
    (permitted : ∀ op, allowed op → T.may op) : T.Kept p fun _ => True := by
  induction p with
  | ret value => trivial
  | call op next ih => exact ⟨permitted op calls.1, fun reply _ => ih reply (calls.2 reply)⟩
  | iterate body next ihBody ihNext =>
    apply Kept.mono ?_ (ihBody calls.1)
    intro found _ value _
    exact ihNext value (calls.2 value)

theorem Kept.goes {sem : Semantics Op Reply σ} {s : σ} {waits : Op → Prop}
    (kept : T.Kept p result)
    (able : ∀ op, T.may op → (∃ reply t, sem op s reply t) ∨ waits op) :
    (∃ value, p = .ret value) ∨ (∃ rest t, Move sem p s rest t) ∨
      ∃ op next, p = .call op next ∧ waits op := by
  cases p with
  | ret value => exact .inl ⟨value, rfl⟩
  | call op next =>
    rcases able op kept.1 with ⟨reply, t, step⟩ | waiting
    · exact .inr (.inl ⟨next reply, t, .call step⟩)
    · exact .inr (.inr ⟨op, next, rfl, waiting⟩)
  | iterate body next => exact .inr (.inl ⟨_, s, .unfold⟩)

theorem Kept.next {sem : Semantics Op Reply σ} {rest : Program Op Reply α} {s t : σ}
    (kept : T.Kept p result) (move : Move sem p s rest t) :
    t = s ∨ ∃ op reply, T.may op ∧ sem op s reply t := by
  cases move with
  | call step => exact .inr ⟨_, _, kept.1, step⟩
  | unfold => exact .inl rfl

theorem Kept.move {sem : Semantics Op Reply σ} {rest : Program Op Reply α} {s t : σ}
    (kept : T.Kept p result) (move : Move sem p s rest t)
    (told : ∀ op reply, T.may op → sem op s reply t → T.told op reply) : T.Kept rest result := by
  cases move with
  | call step => exact kept.2 _ (told _ _ kept.1 step)
  | @unfold _ body next =>
    have round : T.Kept body fun found =>
        ∀ value, found = some value → T.Kept (next value) result := kept
    apply round.bind
    intro found rest
    cases found with
    | none => exact kept
    | some value => exact rest value rfl

end Rules

end Terms

structure Scheduling (Op : Type) (Reply : Op → Type) (σ ι : Type) where
  sem : ι → Semantics Op Reply σ
  begins : ι → Program Op Reply Unit → σ → σ → Prop
  beside : σ → σ → Prop

inductive Scheduling.Step [DecidableEq ι] (S : Scheduling Op Reply σ ι) :
    Config Op Reply σ ι → Config Op Reply σ ι → Prop where
  | turn {c d : Config Op Reply σ ι} (turn : Turn S.sem c d) : S.Step c d
  | begin {c : Config Op Reply σ ι} {i : ι} {p : Program Op Reply Unit} {t : σ}
      (idle : c.program i = .ret ()) (begins : S.begins i p c.state t) :
      S.Step c ⟨Function.update c.program i p, t⟩
  | beside {c : Config Op Reply σ ι} {t : σ} (moved : S.beside c.state t) :
      S.Step c ⟨c.program, t⟩

-- A history that only grows, and what is so of any state before the last one: terms and an
-- invariant may both speak of the history that there is in the end.
structure Scheduling.Fair (S : Scheduling Op Reply σ ι) (grows : σ → σ → Prop)
    (terms : σ → Terms Op Reply) (inv : σ → σ → Prop) : Prop where
  refl : ∀ s, grows s s
  trans : ∀ {s t u}, grows s t → grows t u → grows s u
  steps : ∀ {i op s reply t}, S.sem i op s reply t → grows s t
  begun : ∀ {i p s t}, S.begins i p s t → grows s t
  moved : ∀ {s t}, S.beside s t → grows s t
  call : ∀ {last i op s reply t}, grows t last → inv last s → (terms last).may op →
    S.sem i op s reply t → (terms last).told op reply ∧ inv last t
  begin : ∀ {last i p s t}, grows t last → inv last s → S.begins i p s t →
    (terms last).Kept p (fun _ => True) ∧ inv last t
  beside : ∀ {last s t}, grows t last → inv last s → S.beside s t → inv last t

namespace Scheduling

variable [DecidableEq ι] {S : Scheduling Op Reply σ ι} {grows : σ → σ → Prop}
  {terms : σ → Terms Op Reply} {inv : σ → σ → Prop} {c d : Config Op Reply σ ι} {last : σ}

structure Keeps (terms : σ → Terms Op Reply) (inv : σ → σ → Prop) (last : σ)
    (c : Config Op Reply σ ι) : Prop where
  kept : ∀ i, (terms last).Kept (c.program i) fun _ => True
  inv : inv last c.state

theorem Keeps.next (keeps : Keeps terms inv last c) (step : S.Step c d) :
    d.state = c.state ∨
      (∃ i op reply, (terms last).may op ∧ S.sem i op c.state reply d.state) ∨
      (∃ i p, S.begins i p c.state d.state) ∨ S.beside c.state d.state := by
  cases step with
  | turn turn =>
    cases turn with
    | mk i move =>
      rcases (keeps.kept i).next move with still | ⟨op, reply, may, step⟩
      · exact .inl still
      · exact .inr (.inl ⟨i, op, reply, may, step⟩)
  | begin _ begins => exact .inr (.inr (.inl ⟨_, _, begins⟩))
  | beside moved => exact .inr (.inr (.inr moved))

theorem Keeps.step (fair : S.Fair grows terms inv) (keeps : Keeps terms inv last c)
    (within : grows d.state last) (step : S.Step c d) : Keeps terms inv last d := by
  -- only the thread that moved has something new to show
  have others {i : ι} {p : Program Op Reply Unit} (kept : (terms last).Kept p fun _ => True)
      (j : ι) : (terms last).Kept (Function.update c.program i p j) fun _ => True := by
    by_cases same : j = i
    · subst same
      simpa using kept
    · simpa [Function.update_of_ne same] using keeps.kept j
  cases step with
  | turn turn =>
    cases turn with
    | mk i move =>
      have kept := (keeps.kept i).move move
        fun op reply may step => (fair.call within keeps.inv may step).1
      rcases (keeps.kept i).next move with still | ⟨op, reply, may, step⟩
      · exact ⟨others kept, still ▸ keeps.inv⟩
      · exact ⟨others kept, (fair.call within keeps.inv may step).2⟩
  | begin _ begins =>
    obtain ⟨kept, inv⟩ := fair.begin within keeps.inv begins
    exact ⟨others kept, inv⟩
  | beside moved => exact ⟨keeps.kept, fair.beside within keeps.inv moved⟩

theorem Keeps.grown (fair : S.Fair grows terms inv) (keeps : Keeps terms inv last c)
    (step : S.Step c d) : grows c.state d.state := by
  rcases keeps.next step with still | ⟨i, op, reply, -, step⟩ | ⟨i, p, begins⟩ | moved
  · exact still ▸ fair.refl _
  · exact fair.steps step
  · exact fair.begun begins
  · exact fair.moved moved

theorem Keeps.run (fair : S.Fair grows terms inv) (start : ∀ last, Keeps terms inv last c)
    (run : ReflTransGen S.Step c d) :
    ∀ last, grows d.state last → Keeps terms inv last d := by
  induction run with
  | refl => exact fun last _ => start last
  | tail _ step ih =>
    intro last within
    have grown := (ih _ (fair.refl _)).grown fair step
    exact (ih last (fair.trans grown within)).step fair within step

end Scheduling

end Interaction
