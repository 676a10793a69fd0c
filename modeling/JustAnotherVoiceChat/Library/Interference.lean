import Mathlib.Logic.Function.Basic
import JustAnotherVoiceChat.Library.Program

set_option autoImplicit false

-- Programs run side by side on one state, one call at a time. A contract names what the others
-- may do between two calls of a thread (`rely`), what each of its own calls does (`guar`) and an
-- invariant that all of them keep.

namespace Interaction

open Program Relation

variable {Op : Type} {Reply : Op → Type} {σ ι : Type} {α β : Type}

inductive Move (sem : Semantics Op Reply σ) :
    {α : Type} → Program Op Reply α → σ → Program Op Reply α → σ → Prop where
  | call {α : Type} {op : Op} {next : Reply op → Program Op Reply α} {s t : σ} {reply : Reply op}
      (step : sem op s reply t) : Move sem (.call op next) s (next reply) t
  | unfold {α β : Type} {body : Program Op Reply (Option β)} {next : β → Program Op Reply α}
      {s : σ} : Move sem (.iterate body next) s
        (body >>= fun found => found.elim (.iterate body next) next) s

structure Config (Op : Type) (Reply : Op → Type) (σ ι : Type) where
  program : ι → Program Op Reply Unit
  state : σ

inductive Turn [DecidableEq ι] (sem : ι → Semantics Op Reply σ) :
    Config Op Reply σ ι → Config Op Reply σ ι → Prop where
  | mk {c : Config Op Reply σ ι} (i : ι) {rest : Program Op Reply Unit} {t : σ}
      (move : Move (sem i) (c.program i) c.state rest t) :
      Turn sem c ⟨Function.update c.program i rest, t⟩

structure Contract (σ : Type) where
  inv : σ → Prop
  rely : σ → σ → Prop
  guar : σ → σ → Prop

def Contract.Between (C : Contract σ) : σ → σ → Prop :=
  ReflTransGen fun s t => C.rely s t ∧ C.inv t

def Contract.Stable (C : Contract σ) (assertion : σ → Prop) : Prop :=
  ∀ s t, assertion s → C.inv s → C.inv t → C.rely s t → assertion t

-- From `s`, the program keeps its contract at each call and ends with `post`, whatever the others
-- do as long as they keep to `rely`.
def Safe (sem : Semantics Op Reply σ) (C : Contract σ) :
    {α : Type} → Program Op Reply α → (α → σ → Prop) → σ → Prop
  | _, .ret value, post, s => ∀ t, C.Between s t → C.inv t → post value t
  | _, .call op next, post, s => ∀ t, C.Between s t → C.inv t → ∀ reply u, sem op t reply u →
      C.guar t u ∧ C.inv u ∧ Safe sem C (next reply) post u
  | _, .iterate body next, post, s => ∃ assertion : σ → Prop, C.Stable assertion ∧ assertion s ∧
      ∀ t, C.inv t → assertion t → Safe sem C body (fun found u => match found with
        | none => assertion u
        | some value => Safe sem C (next value) post u) t

section Rules

variable {sem : Semantics Op Reply σ} {C : Contract σ}

theorem Contract.Stable.between {assertion : σ → Prop} (stable : C.Stable assertion) {s t : σ}
    (between : C.Between s t) (inv : C.inv s) (holds : assertion s) : assertion t ∧ C.inv t := by
  induction between with
  | refl => exact ⟨holds, inv⟩
  | tail _ step ih => exact ⟨stable _ _ ih.1 ih.2 step.2 step.1, step.2⟩

theorem Contract.Stable.and {first second : σ → Prop} (h₁ : C.Stable first)
    (h₂ : C.Stable second) : C.Stable fun s => first s ∧ second s :=
  fun s t holds inv inv' rely => ⟨h₁ s t holds.1 inv inv' rely, h₂ s t holds.2 inv inv' rely⟩

theorem Safe.between {p : Program Op Reply α} {post : α → σ → Prop} {s t : σ} (inv : C.inv s)
    (safe : Safe sem C p post s) (between : C.Between s t) : Safe sem C p post t := by
  cases p with
  | ret value => exact fun u later inv => safe u (between.trans later) inv
  | call op next => exact fun u later inv => safe u (between.trans later) inv
  | iterate body next =>
    obtain ⟨assertion, stable, start, round⟩ := safe
    exact ⟨assertion, stable, (stable.between between inv start).1, round⟩

theorem Safe.mono {p : Program Op Reply α} {post wider : α → σ → Prop}
    (included : ∀ value t, C.inv t → post value t → wider value t) {s : σ}
    (safe : Safe sem C p post s) : Safe sem C p wider s := by
  induction p generalizing s with
  | ret value => exact fun t between inv => included value t inv (safe t between inv)
  | call op next ih =>
    intro t between inv reply u step
    obtain ⟨guar, inv', rest⟩ := safe t between inv reply u step
    exact ⟨guar, inv', ih reply included rest⟩
  | iterate body next ihBody ihNext =>
    obtain ⟨assertion, stable, start, round⟩ := safe
    refine ⟨assertion, stable, start, fun t inv holds => ihBody ?_ (round t inv holds)⟩
    rintro (_ | value) u inv h
    · exact h
    · exact ihNext value included h

theorem Safe.bind {p : Program Op Reply α} {f : α → Program Op Reply β} {post : β → σ → Prop}
    {s : σ} (inv : C.inv s) (safe : Safe sem C p (fun value t => Safe sem C (f value) post t) s) :
    Safe sem C (p >>= f) post s := by
  induction p generalizing s with
  | ret value => exact safe s .refl inv
  | call op next ih =>
    intro t between inv' reply u step
    obtain ⟨guar, inv'', rest⟩ := safe t between inv' reply u step
    exact ⟨guar, inv'', ih reply inv'' rest⟩
  | iterate body next _ ih =>
    obtain ⟨assertion, stable, start, round⟩ := safe
    refine ⟨assertion, stable, start, fun t inv' holds => Safe.mono ?_ (round t inv' holds)⟩
    rintro (_ | value) u inv'' h
    · exact h
    · exact ih value inv'' h

theorem Safe.ret {value : α} {post : α → σ → Prop} {assertion : σ → Prop} {s : σ}
    (stable : C.Stable assertion) (inv : C.inv s) (holds : assertion s)
    (done : ∀ t, C.inv t → assertion t → post value t) :
    Safe sem C (.ret value) post s := by
  intro t between inv'
  exact done t inv' (stable.between between inv holds).1

theorem Safe.call {op : Op} {next : Reply op → Program Op Reply α} {post : α → σ → Prop}
    {assertion : σ → Prop} {s : σ} (stable : C.Stable assertion) (inv : C.inv s)
    (holds : assertion s)
    (step : ∀ t, C.inv t → assertion t → ∀ reply u, sem op t reply u →
      C.guar t u ∧ C.inv u ∧ Safe sem C (next reply) post u) :
    Safe sem C (.call op next) post s := by
  intro t between inv'
  exact step t inv' (stable.between between inv holds).1

theorem Safe.of_calls {allowed : Op → Prop} {assertion : σ → Prop} {p : Program Op Reply α}
    (stable : C.Stable assertion) (calls : p.Calls allowed)
    (keep : ∀ op t reply u, allowed op → C.inv t → assertion t → sem op t reply u →
      C.guar t u ∧ C.inv u ∧ assertion u)
    {s : σ} (inv : C.inv s) (holds : assertion s) :
    Safe sem C p (fun _ t => assertion t) s := by
  induction p generalizing s with
  | ret value => exact fun t between _ => (stable.between between inv holds).1
  | call op next ih =>
    refine Safe.call stable inv holds fun t inv' holds' reply u step => ?_
    obtain ⟨guar, inv'', holds''⟩ := keep op t reply u calls.1 inv' holds' step
    exact ⟨guar, inv'', ih reply (calls.2 reply) inv'' holds''⟩
  | iterate body next ihBody ihNext =>
    refine ⟨assertion, stable, holds, fun t inv' holds' => ?_⟩
    refine Safe.mono ?_ (ihBody calls.1 inv' holds')
    rintro (_ | value) u inv'' h
    · exact h
    · exact ihNext value (calls.2 value) inv'' h

theorem Safe.repeatUntil {body : Program Op Reply (Option α)} {post : α → σ → Prop}
    {assertion : σ → Prop} {s : σ} (stable : C.Stable assertion) (holds : assertion s)
    (round : ∀ t, C.inv t → assertion t → Safe sem C body (fun found u => match found with
      | none => assertion u
      | some value => ∀ v, C.Between u v → C.inv v → post value v) t) :
    Safe sem C (Program.repeatUntil body) post s :=
  ⟨assertion, stable, holds, round⟩

theorem Safe.move {p rest : Program Op Reply α} {post : α → σ → Prop} {s t : σ}
    (inv : C.inv s) (reflexive : ∀ u, C.inv u → C.guar u u) (safe : Safe sem C p post s)
    (move : Move sem p s rest t) : C.guar s t ∧ C.inv t ∧ Safe sem C rest post t := by
  cases move with
  | call step => exact safe s .refl inv _ _ step
  | unfold =>
    obtain ⟨assertion, stable, start, round⟩ := safe
    refine ⟨reflexive s inv, inv, Safe.bind inv (Safe.mono ?_ (round s inv start))⟩
    rintro (_ | value) u _ h
    · exact ⟨assertion, stable, h, round⟩
    · exact h

end Rules

def Triple (sem : Semantics Op Reply σ) (C : Contract σ) (pre : σ → Prop)
    (p : Program Op Reply α) (post : α → σ → Prop) : Prop :=
  ∀ s, C.inv s → pre s → Safe sem C p post s

section Triples

variable {sem : Semantics Op Reply σ} {C : Contract σ} {pre : σ → Prop} {mid : α → σ → Prop}

theorem Triple.mono {p : Program Op Reply α} {wider : σ → Prop} {post : α → σ → Prop}
    (triple : Triple sem C wider p mid) (before : ∀ s, C.inv s → pre s → wider s)
    (after : ∀ value s, C.inv s → mid value s → post value s) : Triple sem C pre p post := by
  intro s inv holds
  exact Safe.mono after (triple s inv (before s inv holds))

theorem Triple.assume {p : Program Op Reply α} {fact : Prop}
    (follows : ∀ s, C.inv s → pre s → fact) (triple : fact → Triple sem C pre p mid) :
    Triple sem C pre p mid :=
  fun s inv holds => triple (follows s inv holds) s inv holds

theorem Triple.known {p : Program Op Reply α} {fact : Prop}
    (triple : fact → Triple sem C pre p mid) : Triple sem C (fun s => fact ∧ pre s) p mid := by
  intro s inv holds
  exact triple holds.1 s inv holds.2

theorem Triple.exists {ι : Type} {p : Program Op Reply α} {pre : ι → σ → Prop}
    (triple : ∀ i, Triple sem C (pre i) p mid) : Triple sem C (fun s => ∃ i, pre i s) p mid := by
  intro s inv holds
  obtain ⟨i, holds⟩ := holds
  exact triple i s inv holds

theorem Triple.pure {value : α} (stable : C.Stable pre)
    (done : ∀ s, C.inv s → pre s → mid value s) : Triple sem C pre (Pure.pure value) mid := by
  intro s inv holds
  exact Safe.ret stable inv holds done

theorem Triple.bind {p : Program Op Reply α} {f : α → Program Op Reply β} {post : β → σ → Prop}
    (first : Triple sem C pre p mid) (rest : ∀ value, Triple sem C (mid value) (f value) post) :
    Triple sem C pre (p >>= f) post := by
  intro s inv holds
  apply Safe.bind inv
  exact Safe.mono (fun value t inv between => rest value t inv between) (first s inv holds)

theorem Triple.perform {op : Op} {post : Reply op → σ → Prop} (stable : C.Stable pre)
    (after : ∀ reply, C.Stable (post reply))
    (step : ∀ s reply t, C.inv s → pre s → sem op s reply t →
      C.guar s t ∧ C.inv t ∧ post reply t) :
    Triple sem C pre (Program.perform op) post := by
  intro s inv holds
  apply Safe.call stable inv holds
  intro t inv holds reply u moved
  obtain ⟨guar, inv, told⟩ := step t reply u inv holds moved
  exact ⟨guar, inv, Safe.ret (after reply) inv told fun _ _ told => told⟩

theorem Triple.of_calls {allowed : Op → Prop} {p : Program Op Reply α} (stable : C.Stable pre)
    (calls : p.Calls allowed)
    (keep : ∀ op s reply t, allowed op → C.inv s → pre s → sem op s reply t →
      C.guar s t ∧ C.inv t ∧ pre t) : Triple sem C pre p (fun _ => pre) := by
  intro s inv holds
  exact Safe.of_calls stable calls keep inv holds

theorem Triple.repeatUntil {body : Program Op Reply (Option α)} (stable : C.Stable pre)
    (round : Triple sem C pre body (fun _ => pre)) :
    Triple sem C pre (Program.repeatUntil body) (fun _ => pre) := by
  intro s inv holds
  apply Safe.repeatUntil stable holds
  intro t inv holds
  apply Safe.mono ?_ (round t inv holds)
  intro found u inv holds
  cases found with
  | none => exact holds
  | some value => exact fun v between inv' => (stable.between between inv holds).1

end Triples

section Parallel

variable [DecidableEq ι] {sem : ι → Semantics Op Reply σ} {inv : σ → Prop}
  {rely guar : ι → σ → σ → Prop}

-- Threads whose contracts fit together keep them on every run.
theorem Safe.parallel (reflexive : ∀ i u, inv u → guar i u u)
    (fit : ∀ i j s t, i ≠ j → inv s → inv t → guar i s t → rely j s t)
    {c d : Config Op Reply σ ι} {post : ι → σ → Prop} (start : inv c.state)
    (safe : ∀ i, Safe (sem i) ⟨inv, rely i, guar i⟩ (c.program i) (fun _ => post i) c.state)
    (run : ReflTransGen (Turn sem) c d) : inv d.state ∧
      ∀ i, Safe (sem i) ⟨inv, rely i, guar i⟩ (d.program i) (fun _ => post i) d.state := by
  induction run with
  | refl => exact ⟨start, safe⟩
  | tail _ turn ih =>
    obtain ⟨held, safe⟩ := ih
    cases turn with
    | mk i move =>
      obtain ⟨step, kept, rest⟩ := Safe.move held (reflexive i) (safe i) move
      refine ⟨kept, fun j => ?_⟩
      by_cases same : j = i
      · subst same
        simpa using rest
      · simp only [Function.update_of_ne same]
        have moved := fit i j _ _ (Ne.symm same) held kept step
        exact (safe j).between held (.single ⟨moved, kept⟩)

end Parallel

section Alone

abbrev Contract.alone (inv : σ → Prop) : Contract σ := ⟨inv, Eq, fun _ _ => True⟩

variable {sem : Semantics Op Reply σ} {inv : σ → Prop}

theorem Contract.alone_stable (assertion : σ → Prop) : (Contract.alone inv).Stable assertion :=
  fun _ _ holds _ _ same => same ▸ holds

theorem Safe.of_wp {allowed : Op → Prop} {p : Program Op Reply α} {post : α → σ → Prop}
    (calls : p.Calls allowed)
    (keep : ∀ op s reply t, allowed op → inv s → sem op s reply t → inv t) {s : σ}
    (start : inv s) (holds : wp sem p post s) : Safe sem (.alone inv) p post s := by
  induction p generalizing s with
  | ret value => exact .ret (Contract.alone_stable _) start holds fun _ _ holds => holds
  | call op next ih =>
    refine Safe.call (Contract.alone_stable (· = s)) start rfl ?_
    intro t held same reply u step
    subst same
    have kept := keep op t reply u calls.1 held step
    exact ⟨trivial, kept, ih reply (calls.2 reply) kept (holds reply u step)⟩
  | iterate body next ihBody ihNext =>
    obtain ⟨assertion, begins, round⟩ := holds
    refine ⟨assertion, Contract.alone_stable assertion, begins, fun t held holds => ?_⟩
    refine Safe.mono ?_ (ihBody calls.1 held (round t holds))
    rintro (_ | value) u kept h
    · exact h
    · exact ihNext value (calls.2 value) kept h

theorem Safe.run_alone [DecidableEq ι] {sem : ι → Semantics Op Reply σ}
    {c d : Config Op Reply σ ι} {i : ι} {post : Unit → σ → Prop} (start : inv c.state)
    (idle : ∀ j, j ≠ i → c.program j = .ret ())
    (safe : Safe (sem i) (.alone inv) (c.program i) post c.state)
    (run : ReflTransGen (Turn sem) c d) : inv d.state ∧ (∀ j, j ≠ i → d.program j = .ret ()) ∧
      Safe (sem i) (.alone inv) (d.program i) post d.state := by
  induction run with
  | refl => exact ⟨start, idle, safe⟩
  | tail _ turn ih =>
    obtain ⟨held, idle, safe⟩ := ih
    cases turn with
    | mk j move =>
      by_cases same : j = i
      · subst same
        obtain ⟨-, kept, rest⟩ := Safe.move held (fun _ _ => trivial) safe move
        refine ⟨kept, fun k other => ?_, by simpa using rest⟩
        simp only [Function.update_of_ne other]
        exact idle k other
      · rw [idle j same] at move
        cases move

end Alone

inductive Moves (sem : Semantics Op Reply σ) :
    Program Op Reply α → σ → Program Op Reply α → σ → Prop where
  | refl {p : Program Op Reply α} {s : σ} : Moves sem p s p s
  | head {p q r : Program Op Reply α} {s t u : σ} (move : Move sem p s q t)
      (rest : Moves sem q t r u) : Moves sem p s r u

theorem Moves.trans {sem : Semantics Op Reply σ} {p q r : Program Op Reply α} {s t u : σ}
    (first : Moves sem p s q t) (rest : Moves sem q t r u) : Moves sem p s r u := by
  induction first with
  | refl => exact rest
  | head move _ ih => exact .head move (ih rest)

theorem Exec.moves {sem : Semantics Op Reply σ} {p : Program Op Reply α} {s t : σ} {value : α}
    (run : Exec sem p s value t) (f : α → Program Op Reply β) :
    Moves sem (p >>= f) s (f value) t := by
  induction run with
  | ret => exact .refl
  | call step _ ih => exact .head (.call step) (ih f)
  | again _ _ ihRound ihRest =>
    refine .head .unfold (Moves.trans (ihRound _) ?_)
    exact ihRest f
  | leave _ _ ihRound ihRest =>
    refine .head .unfold (Moves.trans (ihRound _) ?_)
    exact ihRest f

theorem Exec.before {sem : Semantics Op Reply σ} {p : Program Op Reply α}
    {f : α → Program Op Reply β} {q : Program Op Reply β} {s t u : σ} {value : α}
    (run : Exec sem p s value t) (rest : Moves sem (f value) t q u) : Moves sem (p >>= f) s q u :=
  (run.moves f).trans rest

theorem Move.bind {sem : Semantics Op Reply σ} {p q : Program Op Reply α} {s t : σ}
    (move : Move sem p s q t) (f : α → Program Op Reply β) : Move sem (p >>= f) s (q >>= f) t := by
  cases move with
  | call step => exact .call step
  | unfold =>
    rename_i body next
    have same : (body >>= fun found => found.elim (.iterate body next) next) >>= f =
        body >>= fun found => found.elim (.iterate body fun value => next value >>= f)
          fun value => next value >>= f := by
      rw [bind_assoc]
      refine bind_congr fun found => ?_
      cases found with
      | none => rfl
      | some value => rfl
    rw [same]
    exact .unfold

theorem Move.of_bind {sem : Semantics Op Reply σ} {p : Program Op Reply α}
    {f : α → Program Op Reply β} {r : Program Op Reply β} {s t : σ}
    (unfinished : ∀ value, p ≠ .ret value) (move : Move sem (p >>= f) s r t) :
    ∃ q, Move sem p s q t ∧ r = q >>= f := by
  cases p with
  | ret value => exact absurd rfl (unfinished value)
  | call op next =>
    cases move with
    | call step => exact ⟨_, .call step, rfl⟩
  | iterate body next =>
    cases move with
    | unfold =>
      refine ⟨_, .unfold, ?_⟩
      rw [bind_assoc]
      refine bind_congr fun found => ?_
      cases found with
      | none => rfl
      | some value => rfl

theorem Moves.bind {sem : Semantics Op Reply σ} {p q : Program Op Reply α} {s t : σ}
    (moves : Moves sem p s q t) (f : α → Program Op Reply β) :
    Moves sem (p >>= f) s (q >>= f) t := by
  induction moves with
  | refl => exact .refl
  | head move _ ih => exact .head (move.bind f) ih

theorem Moves.turns [DecidableEq ι] {sem : ι → Semantics Op Reply σ} {i : ι}
    {p q : Program Op Reply Unit} {s t : σ} (moves : Moves (sem i) p s q t)
    (program : ι → Program Op Reply Unit) :
    ReflTransGen (Turn sem) ⟨Function.update program i p, s⟩ ⟨Function.update program i q, t⟩ := by
  induction moves with
  | refl => exact .refl
  | @head p q r s t u move _ ih =>
    let c : Config Op Reply σ ι := ⟨Function.update program i p, s⟩
    have turn : Turn sem c ⟨Function.update c.program i q, t⟩ := .mk i (by simpa [c] using move)
    have same : Function.update c.program i q = Function.update program i q :=
      Function.update_idem _ _ _
    rw [same] at turn
    exact .head turn ih

theorem Exec.turns [DecidableEq ι] {sem : ι → Semantics Op Reply σ} {i : ι}
    {c : Config Op Reply σ ι} {t : σ} (run : Exec (sem i) (c.program i) c.state () t) :
    ReflTransGen (Turn sem) c ⟨Function.update c.program i (.ret ()), t⟩ := by
  have turns := (run.moves .ret).turns c.program
  rw [bind_ret, Function.update_eq_self] at turns
  exact turns

end Interaction
