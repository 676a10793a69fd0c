import JustAnotherVoiceChat.Library.Interference

set_option autoImplicit false

-- Programs are put together from single calls, which keep a relation on the state, and from
-- whole parts, which keep it as long as the others do. An outside step that breaks the relation
-- does no harm while no thread is inside a part.

namespace Interaction

open Program Relation

variable {Op : Type} {Reply : Op → Type} {σ ι : Type} {α β : Type}

inductive Goes : {α : Type} → Program Op Reply α → Program Op Reply α → Prop where
  | call {α : Type} {op : Op} {next : Reply op → Program Op Reply α} (reply : Reply op) :
      Goes (.call op next) (next reply)
  | unfold {α β : Type} {body : Program Op Reply (Option β)} {next : β → Program Op Reply α} :
      Goes (.iterate body next) (body >>= fun found => found.elim (.iterate body next) next)

theorem Move.goes {sem : Semantics Op Reply σ} {p q : Program Op Reply α} {s t : σ}
    (move : Move sem p s q t) : Goes p q := by
  cases move with
  | call step => exact .call _
  | unfold => exact .unfold

def Inside (part : Program Op Reply Unit → Prop) (p : Program Op Reply α) : Prop :=
  ∃ whole rest next, part whole ∧ TransGen Goes whole rest ∧ rest ≠ .ret () ∧ p = (rest >>= next)

inductive Straight : Program Op Reply α → Prop where
  | ret (value : α) : Straight (.ret value)
  | call {op : Op} {next : Reply op → Program Op Reply α} (rest : ∀ reply, Straight (next reply)) :
      Straight (.call op next)

theorem Straight.bind {p : Program Op Reply α} {f : α → Program Op Reply β} (first : Straight p)
    (rest : ∀ value, Straight (f value)) : Straight (p >>= f) := by
  induction first with
  | ret value => exact rest value
  | call _ ih => exact .call ih

theorem Straight.goes {p q : Program Op Reply α} (straight : Straight p)
    (goes : TransGen Goes p q) : Straight q := by
  have once {p q : Program Op Reply α} (straight : Straight p) (goes : Goes p q) :
      Straight q := by
    cases goes with
    | call reply =>
      cases straight with
      | call rest => exact rest reply
    | unfold => cases straight
  induction goes with
  | single first => exact once straight first
  | tail _ last ih => exact once ih last

section Outside

variable {part : Program Op Reply Unit → Prop}

theorem not_inside_ret (value : α) : ¬ Inside part (.ret value : Program Op Reply α) := by
  intro inside
  obtain ⟨whole, rest, next, is, begun, unfinished, same⟩ := inside
  cases rest with
  | ret => exact unfinished rfl
  | call | iterate => cases same

theorem not_inside_iterate (straight : ∀ whole, part whole → Straight whole)
    (body : Program Op Reply (Option β)) (next : β → Program Op Reply α) :
    ¬ Inside part (.iterate body next) := by
  intro inside
  obtain ⟨whole, rest, next, is, begun, unfinished, same⟩ := inside
  cases rest with
  | ret => exact unfinished rfl
  | call => cases same
  | iterate => cases (straight whole is).goes begun

end Outside

inductive Composed (allowed : Op → Prop) (part : Program Op Reply Unit → Prop) :
    {α : Type} → Program Op Reply α → Prop where
  | ret {α : Type} (value : α) : Composed allowed part (.ret value)
  | call {α : Type} {op : Op} {next : Reply op → Program Op Reply α} (fine : allowed op)
      (rest : ∀ reply, Composed allowed part (next reply)) : Composed allowed part (.call op next)
  | iterate {α β : Type} {body : Program Op Reply (Option β)} {next : β → Program Op Reply α}
      (round : Composed allowed part body) (rest : ∀ value, Composed allowed part (next value)) :
      Composed allowed part (.iterate body next)
  | part {α : Type} {whole : Program Op Reply Unit} {next : Unit → Program Op Reply α}
      (is : part whole) (rest : Composed allowed part (next ())) :
      Composed allowed part (whole >>= next)

section Composing

variable {allowed : Op → Prop} {part : Program Op Reply Unit → Prop}

theorem Composed.bind {p : Program Op Reply α} {f : α → Program Op Reply β}
    (first : Composed allowed part p) (rest : ∀ value, Composed allowed part (f value)) :
    Composed allowed part (p >>= f) := by
  induction first with
  | ret value => exact rest value
  | call fine _ ih => exact .call fine fun reply => ih reply rest
  | iterate round _ _ ih => exact .iterate round fun value => ih value rest
  | part is _ ih =>
    rw [bind_assoc]
    exact .part is (ih rest)

theorem Composed.of_calls {p : Program Op Reply α} (calls : p.Calls allowed) :
    Composed allowed part p := by
  induction p with
  | ret value => exact .ret value
  | call op next ih => exact .call calls.1 fun reply => ih reply (calls.2 reply)
  | iterate body next ihBody ihNext =>
    exact .iterate (ihBody calls.1) fun value => ihNext value (calls.2 value)

theorem Composed.of_part {whole : Program Op Reply Unit} (is : part whole) :
    Composed allowed part whole := by
  have composed : Composed allowed part (whole >>= fun _ => .ret ()) := .part is (.ret ())
  rwa [bind_ret] at composed

theorem Composed.repeatUntil {body : Program Op Reply (Option α)}
    (round : Composed allowed part body) : Composed allowed part (Program.repeatUntil body) :=
  .iterate round .ret

end Composing

-- Where a thread is, with what is left of a part that it began.
inductive Stage (sem : Semantics Op Reply σ) (C : Contract σ) (allowed : Op → Prop)
    (part : Program Op Reply Unit → Prop) (p : Program Op Reply α) (s : σ) : Prop where
  | outside (composed : Composed allowed part p)
  | inside (whole rest : Program Op Reply Unit) (next : Unit → Program Op Reply α)
      (is : part whole) (begun : TransGen Goes whole rest) (same : p = (rest >>= next))
      (safe : Safe sem C rest (fun _ _ => True) s) (after : Composed allowed part (next ()))

section Stages

variable {sem : Semantics Op Reply σ} {inv : σ → Prop} {common : σ → σ → Prop}
  {allowed : Op → Prop} {part : Program Op Reply Unit → Prop} {p q : Program Op Reply α}
  {s t : σ}

abbrev Contract.shared (inv : σ → Prop) (common : σ → σ → Prop) : Contract σ :=
  ⟨inv, common, common⟩

theorem Stage.other (stage : Stage sem (.shared inv common) allowed part p s) (held : inv s)
    (kept : inv t) (step : common s t) : Stage sem (.shared inv common) allowed part p t := by
  cases stage with
  | outside composed => exact .outside composed
  | inside whole rest next is begun same safe after =>
    exact .inside whole rest next is begun same (safe.between held (.single ⟨step, kept⟩)) after

theorem Stage.apart (stage : Stage sem (.shared inv common) allowed part p s)
    (apart : ¬ Inside part p) : Stage sem (.shared inv common) allowed part p t := by
  cases stage with
  | outside composed => exact .outside composed
  | inside whole rest next is begun same safe after =>
    by_cases done : rest = .ret ()
    · subst done
      rw [same]
      exact .outside after
    · exact absurd ⟨whole, rest, next, is, begun, done, same⟩ apart

variable (reflexive : ∀ u, inv u → common u u)
  (keeps : ∀ op u reply v, allowed op → inv u → sem op u reply v → common u v ∧ inv v)
  (safe : ∀ whole u, part whole → inv u → Safe sem (.shared inv common) whole (fun _ _ => True) u)

include reflexive keeps safe

theorem Composed.move (composed : Composed allowed part p) (held : inv s)
    (move : Move sem p s q t) :
    common s t ∧ inv t ∧ Stage sem (.shared inv common) allowed part q t := by
  induction composed with
  | ret value => cases move
  | call fine rest ih =>
    cases move with
    | call step =>
      obtain ⟨step, kept⟩ := keeps _ _ _ _ fine held step
      exact ⟨step, kept, .outside (rest _)⟩
  | iterate round rest =>
    cases move with
    | unfold =>
      refine ⟨reflexive s held, held, .outside (round.bind fun found => ?_)⟩
      cases found with
      | none => exact .iterate round rest
      | some value => exact rest value
  | part is rest ih =>
    rename_i whole next
    by_cases done : whole = .ret ()
    · subst done
      exact ih move
    · obtain ⟨left, moved, rfl⟩ := move.of_bind fun _ => done
      obtain ⟨step, kept, remains⟩ := Safe.move held reflexive (safe whole s is held) moved
      exact ⟨step, kept, .inside whole left next is (.single moved.goes) rfl remains rest⟩

theorem Stage.move (stage : Stage sem (.shared inv common) allowed part p s) (held : inv s)
    (move : Move sem p s q t) :
    common s t ∧ inv t ∧ Stage sem (.shared inv common) allowed part q t := by
  cases stage with
  | outside composed => exact composed.move reflexive keeps safe held move
  | inside whole rest next is begun same part after =>
    subst same
    by_cases done : rest = .ret ()
    · subst done
      exact Composed.move reflexive keeps safe after held move
    · obtain ⟨left, moved, rfl⟩ := move.of_bind fun _ => done
      obtain ⟨step, kept, remains⟩ := Safe.move held reflexive part moved
      exact ⟨step, kept, .inside whole left next is (begun.tail moved.goes) rfl remains after⟩

end Stages

end Interaction
