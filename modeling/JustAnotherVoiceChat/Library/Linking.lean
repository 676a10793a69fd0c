import JustAnotherVoiceChat.Library.Dialogue

set_option autoImplicit false

-- A program over one interface is one over two, and says there what it says alone. Where the
-- calls of an abstract interface are carried out by such programs, each run is one of the
-- abstract programs.

namespace Interaction

open Program Relation

variable {Op₁ Op₂ : Type} {Reply₁ : Op₁ → Type} {Reply₂ : Op₂ → Type} {α β σ : Type}

@[reducible] def Either (Reply₁ : Op₁ → Type) (Reply₂ : Op₂ → Type) : Op₁ ⊕ Op₂ → Type
  | .inl op => Reply₁ op
  | .inr op => Reply₂ op

def Program.right : {α : Type} → Program Op₂ Reply₂ α → Program (Op₁ ⊕ Op₂) (Either Reply₁ Reply₂) α
  | _, .ret value => .ret value
  | _, .call op next => .call (.inr op) fun reply => (next reply).right
  | _, .iterate body next => .iterate body.right fun value => (next value).right

theorem right_bind (p : Program Op₂ Reply₂ α) (f : α → Program Op₂ Reply₂ β) :
    ((p >>= f).right : Program (Op₁ ⊕ Op₂) (Either Reply₁ Reply₂) β) =
      p.right >>= fun value => (f value).right := by
  induction p with
  | ret value => rfl
  | call op next ih => exact congrArg (Program.call _) (funext fun reply => ih reply f)
  | iterate body next _ ih =>
    exact congrArg (Program.iterate _) (funext fun value => ih value f)

theorem Move.of_right {sem : Semantics (Op₁ ⊕ Op₂) (Either Reply₁ Reply₂) σ}
    {p : Program Op₂ Reply₂ α} {q : Program (Op₁ ⊕ Op₂) (Either Reply₁ Reply₂) α} {s t : σ}
    (move : Move sem p.right s q t) :
    ∃ rest, q = rest.right ∧ Move (fun op => sem (.inr op)) p s rest t := by
  cases p with
  | ret value => cases move
  | call op next =>
    cases move with
    | call step => exact ⟨_, rfl, .call step⟩
  | iterate body next =>
    cases move with
    | unfold =>
      refine ⟨_, ?_, .unfold⟩
      rw [right_bind]
      refine bind_congr fun found => ?_
      cases found with
      | none => rfl
      | some value => rfl

section Notes

variable {ε ε' : Type} {notes : (op : Op₂) → Reply₂ op → List ε} {letter : ε → ε'}
  {linked : (op : Op₁ ⊕ Op₂) → Either Reply₁ Reply₂ op → List ε'}

theorem Contract.alone_between {inv : σ → Prop} {s t : σ}
    (between : (Contract.alone inv).Between s t) : t = s := by
  induction between with
  | refl => rfl
  | tail _ step ih => exact step.1.symm.trans ih

theorem Safe.right (same : ∀ op reply, linked (.inr op) reply = (notes op reply).map letter)
    {ok : List ε' → Prop} {before : List ε'} {p : Program Op₂ Reply₂ α}
    {post : α → List ε → Prop} {word : List ε}
    (safe : Safe (noting notes) (.alone fun word => ok (before ++ word.map letter)) p post word) :
    Safe (noting linked) (.alone ok) p.right
      (fun value w => ∃ word, post value word ∧ w = before ++ word.map letter)
      (before ++ word.map letter) := by
  induction p generalizing word with
  | ret value =>
    intro w between inv
    obtain rfl := Contract.alone_between between
    exact ⟨word, safe word .refl inv, rfl⟩
  | call op next ih =>
    intro w between inv reply w' step
    obtain rfl := Contract.alone_between between
    obtain rfl : w' = before ++ (word ++ notes op reply).map letter := by
      rw [List.map_append, ← same, ← List.append_assoc]
      exact step
    obtain ⟨-, inv, rest⟩ := safe word .refl inv reply _ rfl
    exact ⟨trivial, inv, ih reply rest⟩
  | iterate body next ihBody ihNext =>
    obtain ⟨assertion, -, start, round⟩ := safe
    refine ⟨fun w => ∃ word, assertion word ∧ w = before ++ word.map letter,
      Contract.alone_stable _, ⟨word, start, rfl⟩, ?_⟩
    rintro w inv ⟨word, holds, rfl⟩
    refine Safe.mono ?_ (ihBody (round word inv holds))
    rintro found w inv ⟨word, rest, rfl⟩
    cases found with
    | none => exact ⟨word, rest, rfl⟩
    | some value => exact ihNext value rest

theorem Follows.right {L : α → Language ε} {p : Program Op₂ Reply₂ α} (follows : Follows notes p L)
    (same : ∀ op reply, linked (.inr op) reply = (notes op reply).map letter) :
    Follows linked p.right fun value => Language.map letter (L value) := by
  obtain ⟨value, word, member⟩ := follows.nonempty
  refine ⟨⟨value, word.map letter, word, member, rfl⟩, fun ok start prefixes => ?_⟩
  have alone := follows.safe (fun word => ok (start ++ word.map letter)) [] ?_
  · have there := alone.right same
    rw [List.map_nil, List.append_nil] at there
    refine Safe.mono ?_ there
    rintro value w _ ⟨written, ⟨_, member, rfl⟩, rfl⟩
    exact ⟨written.map letter, ⟨written, member, rfl⟩, rfl⟩
  · intro word later value member
    refine prefixes (word.map letter) (later.map letter) value ⟨word ++ later, member, ?_⟩
    exact List.map_append

end Notes

section Simulation

variable {ι τ : Type} {Op Op' : Type} {Reply : Op → Type} {Reply' : Op' → Type}

-- Each move of a program is one of the abstract program that it is `behind`, or one that the
-- abstract threads do not see.
structure Simulates (concrete : ι → Semantics Op Reply σ) (abstract : ι → Semantics Op' Reply' τ)
    (view : σ → τ)
    (behind : ι → Program Op Reply Unit → Program Op' Reply' Unit → Prop) : Prop where
  move : ∀ {i p q rest s t}, behind i p q → Move (concrete i) p s rest t →
    (view t = view s ∧ behind i rest q) ∨
      ∃ rest', Move (abstract i) q (view s) rest' (view t) ∧ behind i rest rest'

variable [DecidableEq ι] {concrete : ι → Semantics Op Reply σ}
  {abstract : ι → Semantics Op' Reply' τ} {view : σ → τ}
  {behind : ι → Program Op Reply Unit → Program Op' Reply' Unit → Prop}

def Behind (view : σ → τ) (behind : ι → Program Op Reply Unit → Program Op' Reply' Unit → Prop)
    (c : Config Op Reply σ ι) (d : Config Op' Reply' τ ι) : Prop :=
  d.state = view c.state ∧ ∀ i, behind i (c.program i) (d.program i)

theorem Simulates.turn (simulates : Simulates concrete abstract view behind)
    {c c' : Config Op Reply σ ι} {d : Config Op' Reply' τ ι} (related : Behind view behind c d)
    (turn : Turn concrete c c') :
    ∃ d', ReflTransGen (Turn abstract) d d' ∧ Behind view behind c' d' := by
  obtain ⟨program, state⟩ := d
  obtain ⟨rfl, each⟩ := related
  cases turn with
  | mk i move =>
    rcases simulates.move (each i) move with ⟨still, later⟩ | ⟨rest', moved, later⟩
    · refine ⟨_, .refl, still.symm, fun j => ?_⟩
      by_cases same : j = i
      · subst same
        simpa using later
      · simpa [Function.update_of_ne same] using each j
    · refine ⟨_, .single (.mk i moved), rfl, fun j => ?_⟩
      by_cases same : j = i
      · subst same
        simpa using later
      · simpa [Function.update_of_ne same] using each j

theorem Simulates.run (simulates : Simulates concrete abstract view behind)
    {beside : σ → σ → Prop} (unseen : ∀ s t, beside s t → view t = view s)
    {c c' : Config Op Reply σ ι} {d : Config Op' Reply' τ ι} (related : Behind view behind c d)
    (run : ReflTransGen (Scheduling.Step ⟨concrete, fun _ _ _ _ => False, beside⟩) c c') :
    ∃ d', ReflTransGen (Turn abstract) d d' ∧ Behind view behind c' d' := by
  induction run with
  | refl => exact ⟨d, .refl, related⟩
  | tail _ step ih =>
    obtain ⟨d', before, related⟩ := ih
    cases step with
    | turn turn =>
      obtain ⟨d'', later, related⟩ := simulates.turn related turn
      exact ⟨d'', before.trans later, related⟩
    | begin _ begins => exact begins.elim
    | beside moved => exact ⟨d', before, related.1.trans (unseen _ _ moved).symm, related.2⟩

end Simulation

end Interaction
