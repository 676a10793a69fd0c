import JustAnotherVoiceChat.Library.Interference

set_option autoImplicit false

-- In a semantics that leaves no choice, a program either ends or goes on for ever. A barrier is
-- a set of configurations from which no run ends; a program settles when it ends or comes to
-- one.

namespace Interaction

open Program

variable {Op : Type} {Reply : Op → Type} {σ : Type} {α β : Type}

def Deterministic (sem : Semantics Op Reply σ) : Prop :=
  ∀ op s reply t reply' t', sem op s reply t → sem op s reply' t' → reply = reply' ∧ t = t'

def Ends (sem : Semantics Op Reply σ) (p : Program Op Reply α) (s : σ) : Prop :=
  ∃ value t, Exec sem p s value t

section Unique

variable {sem : Semantics Op Reply σ}

theorem Exec.unique (fixed : Deterministic sem) {p : Program Op Reply α} {s t t' : σ}
    {value value' : α} (run : Exec sem p s value t) (other : Exec sem p s value' t') :
    value = value' ∧ t = t' := by
  induction run generalizing t' with
  | ret =>
    cases other with
    | ret => exact ⟨rfl, rfl⟩
  | call step _ ih =>
    cases other with
    | call step' rest' =>
      obtain ⟨rfl, rfl⟩ := fixed _ _ _ _ _ _ step step'
      exact ih rest'
  | again _ _ ihRound ihRest =>
    cases other with
    | again round' rest' =>
      obtain ⟨-, rfl⟩ := ihRound round'
      exact ihRest rest'
    | leave round' rest' => cases (ihRound round').1
  | leave _ _ ihRound ihRest =>
    cases other with
    | again round' rest' => cases (ihRound round').1
    | leave round' rest' =>
      obtain ⟨found, rfl⟩ := ihRound round'
      cases found
      exact ihRest rest'

theorem Exec.of_unfold {body : Program Op Reply (Option β)} {next : β → Program Op Reply α}
    {s t : σ} {value : α} (run : Exec sem (.iterate body next) s value t) :
    Exec sem (body >>= fun found => found.elim (.iterate body next) next) s value t := by
  cases run with
  | again round rest => exact round.bind rest
  | leave round rest => exact round.bind rest

theorem Exec.after (fixed : Deterministic sem) {p q : Program Op Reply α} {s t u : σ} {value : α}
    (moves : Moves sem p s q t) (run : Exec sem p s value u) : Exec sem q t value u := by
  induction moves with
  | refl => exact run
  | head move _ ih =>
    apply ih
    cases move with
    | call step =>
      cases run with
      | call step' rest =>
        obtain ⟨rfl, rfl⟩ := fixed _ _ _ _ _ _ step step'
        exact rest
    | unfold => exact run.of_unfold

end Unique

structure Barrier (sem : Semantics Op Reply σ) where
  stuck : {α : Type} → Program Op Reply α → σ → Prop
  bind : ∀ {α β : Type} {p : Program Op Reply α} (f : α → Program Op Reply β) {s : σ},
    stuck p s → stuck (p >>= f) s
  never : ∀ {α : Type} {p : Program Op Reply α} {s : σ}, stuck p s → ¬ Ends sem p s

section Settling

variable {sem : Semantics Op Reply σ} (barrier : Barrier sem)

def Comes (p : Program Op Reply α) (s : σ) : Prop :=
  ∃ q t, Moves sem p s q t ∧ barrier.stuck q t

def Settles (p : Program Op Reply α) (post : α → σ → Prop) (s : σ) : Prop :=
  (∃ value t, Exec sem p s value t ∧ post value t) ∨ Comes barrier p s

variable {barrier}

theorem Comes.not_ends (fixed : Deterministic sem) {p : Program Op Reply α} {s : σ}
    (comes : Comes barrier p s) : ¬ Ends sem p s := by
  intro ends
  obtain ⟨q, t, moves, held⟩ := comes
  obtain ⟨value, u, run⟩ := ends
  exact barrier.never held ⟨value, u, run.after fixed moves⟩

theorem Settles.ends_iff (fixed : Deterministic sem) {p : Program Op Reply α}
    {post : α → σ → Prop} {s : σ} (settles : Settles barrier p post s) :
    Ends sem p s ↔ ¬ Comes barrier p s := by
  constructor
  · intro ends comes
    exact comes.not_ends fixed ends
  · intro free
    obtain ⟨value, t, run, -⟩ | comes := settles
    · exact ⟨value, t, run⟩
    · exact absurd comes free

theorem Settles.mono {p : Program Op Reply α} {post wider : α → σ → Prop} {s : σ}
    (included : ∀ value t, post value t → wider value t) (settles : Settles barrier p post s) :
    Settles barrier p wider s := by
  obtain ⟨value, t, run, holds⟩ | comes := settles
  · exact .inl ⟨value, t, run, included value t holds⟩
  · exact .inr comes

theorem Comes.bind {p : Program Op Reply α} {s : σ} (comes : Comes barrier p s)
    (f : α → Program Op Reply β) : Comes barrier (p >>= f) s := by
  obtain ⟨q, t, moves, held⟩ := comes
  exact ⟨q >>= f, t, moves.bind f, barrier.bind f held⟩

theorem Comes.after {p q : Program Op Reply α} {s t : σ} (moves : Moves sem p s q t)
    (comes : Comes barrier q t) : Comes barrier p s := by
  obtain ⟨r, u, rest, held⟩ := comes
  exact ⟨r, u, moves.trans rest, held⟩

theorem Settles.ret {value : α} {post : α → σ → Prop} {s : σ} (holds : post value s) :
    Settles barrier (.ret value) post s :=
  .inl ⟨value, s, .ret, holds⟩

theorem Settles.bind {p : Program Op Reply α} {f : α → Program Op Reply β} {mid : α → σ → Prop}
    {post : β → σ → Prop} {s : σ} (first : Settles barrier p mid s)
    (rest : ∀ value t, mid value t → Settles barrier (f value) post t) :
    Settles barrier (p >>= f) post s := by
  obtain ⟨value, t, run, holds⟩ | comes := first
  · obtain ⟨result, u, run', ends⟩ | comes := rest value t holds
    · exact .inl ⟨result, u, run.bind run', ends⟩
    · exact .inr (comes.after (run.moves f))
  · exact .inr (comes.bind f)

theorem Settles.call {op : Op} {next : Reply op → Program Op Reply α} {post : α → σ → Prop}
    {s t : σ} {reply : Reply op} (step : sem op s reply t)
    (rest : Settles barrier (next reply) post t) : Settles barrier (.call op next) post s := by
  obtain ⟨value, u, run, holds⟩ | comes := rest
  · exact .inl ⟨value, u, .call step run, holds⟩
  · exact .inr (comes.after (.head (.call step) .refl))

theorem Settles.unfold {body : Program Op Reply (Option β)} {next : β → Program Op Reply α}
    {mid : Option β → σ → Prop} {post : α → σ → Prop} {s : σ} (round : Settles barrier body mid s)
    (again : ∀ t, mid none t → Settles barrier (.iterate body next) post t)
    (leave : ∀ value t, mid (some value) t → Settles barrier (next value) post t) :
    Settles barrier (.iterate body next) post s := by
  obtain ⟨found, t, run, holds⟩ | comes := round
  · cases found with
    | none =>
      obtain ⟨value, u, rest, ends⟩ | comes := again t holds
      · exact .inl ⟨value, u, .again run rest, ends⟩
      · exact .inr (comes.after (.head .unfold (run.moves _)))
    | some value =>
      obtain ⟨result, u, rest, ends⟩ | comes := leave value t holds
      · exact .inl ⟨result, u, .leave run rest, ends⟩
      · exact .inr (comes.after (.head .unfold (run.moves _)))
  · exact .inr (Comes.after (.head .unfold .refl) (comes.bind _))

-- A loop whose rounds all bring a measure down.
theorem Settles.iterate {body : Program Op Reply (Option β)} {next : β → Program Op Reply α}
    {post : α → σ → Prop} (inv : σ → Prop) (measure : σ → Nat)
    (round : ∀ s, inv s → Settles barrier body (fun found t => found.elim
      (inv t ∧ measure t < measure s) fun value => Settles barrier (next value) post t) s)
    {s : σ} (start : inv s) : Settles barrier (.iterate body next) post s := by
  induction bound : measure s using Nat.strongRecOn generalizing s with
  | ind bound ih =>
    subst bound
    apply Settles.unfold (round s start)
    · intro t holds
      exact ih (measure t) holds.2 holds.1 rfl
    · intro value t holds
      exact holds

end Settling

def advance (answer : (op : Op) → σ → Option (Reply op × σ)) :
    Nat → Program Op Reply α → σ → Program Op Reply α × σ
  | 0, p, s => (p, s)
  | _ + 1, .ret value, s => (.ret value, s)
  | fuel + 1, .call op next, s =>
    (answer op s).elim (.call op next, s) fun (reply, t) => advance answer fuel (next reply) t
  | _ + 1, .iterate body next, s => (.iterate body next, s)

theorem advance_moves {sem : Semantics Op Reply σ} {answer : (op : Op) → σ → Option (Reply op × σ)}
    (sound : ∀ op s reply t, answer op s = some (reply, t) → sem op s reply t) (fuel : Nat)
    (p : Program Op Reply α) (s : σ) :
    Moves sem p s (advance answer fuel p s).1 (advance answer fuel p s).2 := by
  induction fuel generalizing p s with
  | zero => exact .refl
  | succ fuel ih =>
    cases p with
    | ret value => exact .refl
    | call op next =>
      cases answered : answer op s with
      | none =>
        rw [advance, answered]
        exact .refl
      | some result =>
        rw [advance, answered]
        exact .head (.call (sound op s result.1 result.2 answered)) (ih (next result.1) result.2)
    | iterate body next => exact .refl

def unroll : Program Op Reply α → Program Op Reply α
  | .iterate body next => body >>= fun found => found.elim (.iterate body next) next
  | p => p

theorem unroll_moves {sem : Semantics Op Reply σ} (p : Program Op Reply α) (s : σ) :
    Moves sem p s (unroll p) s := by
  cases p with
  | ret value => exact .refl
  | call op next => exact .refl
  | iterate body next => exact .head .unfold .refl

end Interaction
