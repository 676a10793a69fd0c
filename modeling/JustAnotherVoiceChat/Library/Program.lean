import Mathlib.Logic.Relation

set_option autoImplicit false

-- A program is a tree of calls to an interface it does not implement. A semantics says which
-- replies a call may get in a state and which state it leaves.

namespace Interaction

inductive Program (Op : Type) (Reply : Op → Type) : Type → Type 1 where
  | ret {α : Type} (value : α) : Program Op Reply α
  | call {α : Type} (op : Op) (next : Reply op → Program Op Reply α) : Program Op Reply α
  -- `body` is run again as long as it answers `none`.
  | iterate {α β : Type} (body : Program Op Reply (Option β))
      (next : β → Program Op Reply α) : Program Op Reply α

abbrev Semantics (Op : Type) (Reply : Op → Type) (σ : Type) :=
  (op : Op) → σ → Reply op → σ → Prop

variable {Op : Type} {Reply : Op → Type} {σ : Type} {α β γ : Type}

namespace Program

def bind {α β : Type} : Program Op Reply α → (α → Program Op Reply β) → Program Op Reply β
  | .ret value, f => f value
  | .call op next, f => .call op fun reply => (next reply).bind f
  | .iterate body next, f => .iterate body fun value => (next value).bind f

instance : Monad (Program Op Reply) where
  pure := .ret
  bind := .bind

def perform (op : Op) : Program Op Reply (Reply op) := .call op .ret

def repeatUntil (body : Program Op Reply (Option α)) : Program Op Reply α := .iterate body .ret

@[simp] theorem pure_eq (value : α) : (pure value : Program Op Reply α) = .ret value := rfl

@[simp] theorem ret_bind (value : α) (f : α → Program Op Reply β) :
    (.ret value >>= f : Program Op Reply β) = f value := rfl

@[simp] theorem call_bind (op : Op) (next : Reply op → Program Op Reply α)
    (f : α → Program Op Reply β) :
    (.call op next >>= f : Program Op Reply β) = .call op fun reply => next reply >>= f := rfl

@[simp] theorem iterate_bind (body : Program Op Reply (Option γ))
    (next : γ → Program Op Reply α) (f : α → Program Op Reply β) :
    (.iterate body next >>= f : Program Op Reply β) =
      .iterate body fun value => next value >>= f := rfl

@[simp] theorem bind_ret (p : Program Op Reply α) : (p >>= .ret) = p := by
  induction p with
  | ret value => rfl
  | call op next ih => exact congrArg (Program.call op) (funext ih)
  | iterate body next _ ih => exact congrArg (Program.iterate body) (funext ih)

theorem bind_assoc (p : Program Op Reply α) (f : α → Program Op Reply β)
    (g : β → Program Op Reply γ) : (p >>= f >>= g) = (p >>= fun value => f value >>= g) := by
  induction p with
  | ret value => rfl
  | call op next ih => exact congrArg (Program.call op) (funext fun reply => ih reply f)
  | iterate body next _ ih => exact congrArg (Program.iterate body) (funext fun value => ih value f)

instance : LawfulMonad (Program Op Reply) :=
  LawfulMonad.mk' _ bind_ret (fun _ _ => rfl) bind_assoc

def Calls (allowed : Op → Prop) : {α : Type} → Program Op Reply α → Prop
  | _, .ret _ => True
  | _, .call op next => allowed op ∧ ∀ reply, (next reply).Calls allowed
  | _, .iterate body next => body.Calls allowed ∧ ∀ value, (next value).Calls allowed

theorem Calls.bind {allowed : Op → Prop} {p : Program Op Reply α} {f : α → Program Op Reply β}
    (first : p.Calls allowed) (rest : ∀ value, (f value).Calls allowed) :
    (p >>= f).Calls allowed := by
  induction p with
  | ret value => exact rest value
  | call op next ih => exact ⟨first.1, fun reply => ih reply (first.2 reply) rest⟩
  | iterate body next _ ih => exact ⟨first.1, fun value => ih value (first.2 value) rest⟩

theorem Calls.mono {allowed wider : Op → Prop} (included : ∀ op, allowed op → wider op)
    {p : Program Op Reply α} (calls : p.Calls allowed) : p.Calls wider := by
  induction p with
  | ret value => trivial
  | call op next ih => exact ⟨included op calls.1, fun reply => ih reply (calls.2 reply)⟩
  | iterate body next ihBody ihNext =>
    exact ⟨ihBody calls.1, fun value => ihNext value (calls.2 value)⟩

theorem Calls.forM {allowed : Op → Prop} {items : List α} {f : α → Program Op Reply Unit}
    (each : ∀ item ∈ items, (f item).Calls allowed) : (forM items f).Calls allowed := by
  induction items with
  | nil => trivial
  | cons item rest ih =>
    rw [List.forM_cons]
    exact (each item (by simp)).bind fun _ => ih fun item member => each item (by simp [member])

end Program

open Program

inductive Exec (sem : Semantics Op Reply σ) :
    {α : Type} → Program Op Reply α → σ → α → σ → Prop where
  | ret {α : Type} {value : α} {s : σ} : Exec sem (.ret value) s value s
  | call {α : Type} {op : Op} {next : Reply op → Program Op Reply α} {s t u : σ}
      {reply : Reply op} {value : α} (step : sem op s reply t)
      (rest : Exec sem (next reply) t value u) : Exec sem (.call op next) s value u
  | again {α β : Type} {body : Program Op Reply (Option β)} {next : β → Program Op Reply α}
      {s t u : σ} {value : α} (round : Exec sem body s none t)
      (rest : Exec sem (.iterate body next) t value u) : Exec sem (.iterate body next) s value u
  | leave {α β : Type} {body : Program Op Reply (Option β)} {next : β → Program Op Reply α}
      {s t u : σ} {found : β} {value : α} (round : Exec sem body s (some found) t)
      (rest : Exec sem (next found) t value u) : Exec sem (.iterate body next) s value u

section Rules

variable {sem : Semantics Op Reply σ}

theorem Exec.bind {p : Program Op Reply α} {f : α → Program Op Reply β} {s t u : σ}
    {value : α} {result : β} (first : Exec sem p s value t)
    (rest : Exec sem (f value) t result u) : Exec sem (p >>= f) s result u := by
  induction first with
  | ret => exact rest
  | call step _ ih => exact .call step (ih rest)
  | again round _ _ ih => exact .again round (ih rest)
  | leave round _ _ ih => exact .leave round (ih rest)

-- What `p` guarantees of its value and final state when it starts in `s`.
def wp (sem : Semantics Op Reply σ) :
    {α : Type} → Program Op Reply α → (α → σ → Prop) → σ → Prop
  | _, .ret value, post, s => post value s
  | _, .call op next, post, s => ∀ reply t, sem op s reply t → wp sem (next reply) post t
  | _, .iterate body next, post, s => ∃ inv : σ → Prop, inv s ∧ ∀ t, inv t →
      wp sem body (fun found u => match found with
        | none => inv u
        | some value => wp sem (next value) post u) t

@[simp] theorem wp_ret {value : α} {post : α → σ → Prop} {s : σ} :
    wp sem (.ret value : Program Op Reply α) post s ↔ post value s := Iff.rfl

theorem wp_mono {p : Program Op Reply α} {post wider : α → σ → Prop} {s : σ}
    (included : ∀ value t, post value t → wider value t) (h : wp sem p post s) :
    wp sem p wider s := by
  induction p generalizing s with
  | ret value => exact included _ _ h
  | call op next ih => exact fun reply t step => ih reply included (h reply t step)
  | iterate body next ihBody ihNext =>
    obtain ⟨inv, start, round⟩ := h
    refine ⟨inv, start, fun t ht => ihBody ?_ (round t ht)⟩
    rintro (_ | value) u hu
    · exact hu
    · exact ihNext value included hu

theorem wp_congr {p : Program Op Reply α} {post other : α → σ → Prop} {s : σ}
    (same : ∀ value t, post value t ↔ other value t) : wp sem p post s ↔ wp sem p other s :=
  ⟨wp_mono fun value t => (same value t).mp, wp_mono fun value t => (same value t).mpr⟩

theorem wp_bind {p : Program Op Reply α} {f : α → Program Op Reply β} {post : β → σ → Prop}
    {s : σ} : wp sem (p >>= f) post s ↔ wp sem p (fun value t => wp sem (f value) post t) s := by
  induction p generalizing s with
  | ret value => exact Iff.rfl
  | call op next ih => exact forall₃_congr fun reply t _ => ih reply
  | iterate body next _ ih =>
    refine exists_congr fun inv => and_congr_right fun _ => forall₂_congr fun t _ => wp_congr ?_
    rintro (_ | value) u
    · exact Iff.rfl
    · exact ih value

theorem wp_repeatUntil {body : Program Op Reply (Option α)} {post : α → σ → Prop} {s : σ}
    (inv : σ → Prop) (start : inv s)
    (round : ∀ t, inv t → wp sem body (fun found u => found.elim (inv u) fun a => post a u) t) :
    wp sem (repeatUntil body) post s := by
  refine ⟨inv, start, fun t ht => wp_mono ?_ (round t ht)⟩
  rintro (_ | value) u hu <;> exact hu

theorem Exec.wp {p : Program Op Reply α} {s t : σ} {value : α} (run : Exec sem p s value t)
    {post : α → σ → Prop} (h : Interaction.wp sem p post s) : post value t := by
  induction run with
  | ret => exact h
  | call step _ ih => exact ih (h _ _ step)
  | again _ _ ihRound ihRest =>
    obtain ⟨inv, start, round⟩ := h
    exact ihRest ⟨inv, ihRound (round _ start), round⟩
  | leave _ _ ihRound ihRest =>
    obtain ⟨inv, start, round⟩ := h
    exact ihRest (ihRound (round _ start))

theorem wp_exec (p : Program Op Reply α) (s : σ) :
    Interaction.wp sem p (fun value t => Exec sem p s value t) s := by
  induction p generalizing s with
  | ret value => exact .ret
  | call op next ih =>
    intro reply t step
    exact wp_mono (fun _ _ rest => .call step rest) (ih reply t)
  | iterate body next ihBody ihNext =>
    -- what can follow from here can follow from the start
    refine ⟨fun t => ∀ value u, Exec sem (.iterate body next) t value u →
      Exec sem (.iterate body next) s value u, fun _ _ run => run, fun t later => ?_⟩
    refine wp_mono ?_ (ihBody t)
    rintro (_ | found) u round
    · exact fun value v rest => later value v (.again round rest)
    · exact wp_mono (fun value v rest => later value v (.leave round rest)) (ihNext found u)

theorem wp_iff_exec {p : Program Op Reply α} {post : α → σ → Prop} {s : σ} :
    Interaction.wp sem p post s ↔ ∀ value t, Exec sem p s value t → post value t := by
  constructor
  · intro h value t run
    exact run.wp h
  · intro h
    exact wp_mono h (wp_exec p s)

theorem wp_and {p : Program Op Reply α} {first second : α → σ → Prop} {s : σ}
    (h₁ : Interaction.wp sem p first s) (h₂ : Interaction.wp sem p second s) :
    Interaction.wp sem p (fun value t => first value t ∧ second value t) s :=
  wp_iff_exec.mpr fun _ _ run => ⟨run.wp h₁, run.wp h₂⟩

theorem wp_of_calls {allowed : Op → Prop} {inv : σ → Prop} {p : Program Op Reply α}
    (calls : p.Calls allowed)
    (keep : ∀ op s reply t, allowed op → inv s → sem op s reply t → inv t)
    {s : σ} (start : inv s) : Interaction.wp sem p (fun _ t => inv t) s := by
  induction p generalizing s with
  | ret value => exact start
  | call op next ih =>
    exact fun reply t step => ih reply (calls.2 reply) (keep op s reply t calls.1 start step)
  | iterate body next ihBody ihNext =>
    refine ⟨inv, start, fun t ht => wp_mono ?_ (ihBody calls.1 ht)⟩
    rintro (_ | value) u hu
    · exact hu
    · exact ihNext value (calls.2 value) hu

def Stays (sem : Semantics Op Reply σ) (relation : σ → σ → Prop) (p : Program Op Reply α) : Prop :=
  ∀ s, Interaction.wp sem p (fun _ t => relation s t) s

section Stays

variable {relation : σ → σ → Prop} [Std.Refl relation] [IsTrans σ relation]

omit [IsTrans σ relation] in
theorem Stays.ret (value : α) : Stays sem relation (.ret value) := fun s => Std.Refl.refl s

omit [IsTrans σ relation] in
theorem Stays.pure (value : α) : Stays sem relation (pure value) := Stays.ret value

omit [Std.Refl relation] in
theorem Stays.bind {p : Program Op Reply α} {f : α → Program Op Reply β}
    (first : Stays sem relation p) (rest : ∀ value, Stays sem relation (f value)) :
    Stays sem relation (p >>= f) := by
  intro s
  rw [wp_bind]
  refine wp_mono (fun value t reached => ?_) (first s)
  exact wp_mono (fun _ u later => IsTrans.trans s t u reached later) (rest value t)

theorem Stays.forM {items : List α} {f : α → Program Op Reply Unit}
    (each : ∀ item ∈ items, Stays sem relation (f item)) :
    Stays sem relation (forM items f) := by
  induction items with
  | nil => exact .ret ()
  | cons item rest ih =>
    rw [List.forM_cons]
    exact .bind (each item (by simp)) fun _ => ih fun item member => each item (by simp [member])

theorem Stays.repeatUntil {body : Program Op Reply (Option α)} (round : Stays sem relation body) :
    Stays sem relation (repeatUntil body) := by
  intro s
  refine wp_repeatUntil (relation s) (Std.Refl.refl s) fun t reached => ?_
  refine wp_mono (fun found u later => ?_) (round t)
  have whole := IsTrans.trans s t u reached later
  cases found <;> exact whole

theorem Stays.of_steps (each : ∀ op s reply t, sem op s reply t → relation s t)
    (p : Program Op Reply α) : Stays sem relation p := by
  induction p with
  | ret value => exact .ret value
  | call op next ih =>
    intro s reply t step
    exact wp_mono (fun _ u later => IsTrans.trans s t u (each op s reply t step) later) (ih reply t)
  | iterate body next ihBody ihNext =>
    intro s
    refine ⟨relation s, Std.Refl.refl s, fun t reached => wp_mono ?_ (ihBody t)⟩
    rintro (_ | found) u round
    · exact IsTrans.trans s t u reached round
    · have sofar := IsTrans.trans s t u reached round
      exact wp_mono (fun _ v later => IsTrans.trans s u v sofar later) (ihNext found u)

end Stays

theorem Exec.stays {relation : σ → σ → Prop} {p : Program Op Reply α} {s t : σ} {value : α}
    (run : Exec sem p s value t) (stays : Stays sem relation p) : relation s t :=
  run.wp (stays s)

end Rules

theorem Exec.widen {sem wider : Semantics Op Reply σ}
    (included : ∀ op s reply t, sem op s reply t → wider op s reply t) {p : Program Op Reply α}
    {s t : σ} {value : α} (run : Exec sem p s value t) : Exec wider p s value t := by
  induction run with
  | ret => exact .ret
  | call step _ ih => exact .call (included _ _ _ _ step) ih
  | again _ _ ihRound ihRest => exact .again ihRound ihRest
  | leave _ _ ihRound ihRest => exact .leave ihRound ihRest

def runWith (answer : (op : Op) → σ → Option (Reply op × σ)) :
    Nat → {α : Type} → Program Op Reply α → σ → Option (α × σ)
  | 0, _, _, _ => none
  | _ + 1, _, .ret value, s => some (value, s)
  | fuel + 1, _, .call op next, s =>
    (answer op s).bind fun (reply, t) => runWith answer fuel (next reply) t
  | fuel + 1, _, .iterate body next, s =>
    (runWith answer fuel body s).bind fun
      | (none, t) => runWith answer fuel (.iterate body next) t
      | (some value, t) => runWith answer fuel (next value) t

theorem Exec.of_runWith {sem : Semantics Op Reply σ}
    {answer : (op : Op) → σ → Option (Reply op × σ)}
    (sound : ∀ op s reply t, answer op s = some (reply, t) → sem op s reply t)
    {fuel : Nat} {p : Program Op Reply α} {s t : σ} {value : α}
    (run : runWith answer fuel p s = some (value, t)) : Exec sem p s value t := by
  induction fuel generalizing α s t with
  | zero => cases run
  | succ fuel ih =>
    cases p with
    | ret value =>
      cases run
      exact .ret
    | call op next =>
      obtain ⟨⟨reply, u⟩, answered, rest⟩ := Option.bind_eq_some_iff.mp run
      exact .call (sound op s reply u answered) (ih rest)
    | iterate body next =>
      obtain ⟨⟨found, u⟩, round, rest⟩ := Option.bind_eq_some_iff.mp run
      cases found with
      | none => exact .again (ih round) (ih rest)
      | some found => exact .leave (ih round) (ih rest)

end Interaction
