import JustAnotherVoiceChat.Library.Interference

set_option autoImplicit false

namespace Interaction

open Program Relation

variable {Op : Type} {Reply : Op → Type} {σ : Type} {α : Type}

def Contract.and (C D : Contract σ) : Contract σ where
  inv s := C.inv s ∧ D.inv s
  rely s t := C.rely s t ∧ D.rely s t
  guar s t := C.guar s t ∧ D.guar s t

section And

variable {C D : Contract σ} {first second : σ → Prop} {s t : σ}

theorem Contract.Between.left (between : (C.and D).Between s t) : C.Between s t :=
  ReflTransGen.mono (fun _ _ step => ⟨step.1.1, step.2.1⟩) _ _ between

theorem Contract.Between.right (between : (C.and D).Between s t) : D.Between s t :=
  ReflTransGen.mono (fun _ _ step => ⟨step.1.2, step.2.2⟩) _ _ between

theorem Contract.Stable.both (left : C.Stable first) (right : D.Stable second) :
    (C.and D).Stable fun s => first s ∧ second s := by
  intro s t holds inv inv' rely
  exact ⟨left s t holds.1 inv.1 inv'.1 rely.1, right s t holds.2 inv.2 inv'.2 rely.2⟩

theorem Safe.and {sem : Semantics Op Reply σ} {p : Program Op Reply α} {post later : α → σ → Prop}
    (left : Safe sem C p post s) (right : Safe sem D p later s) :
    Safe sem (C.and D) p (fun value t => post value t ∧ later value t) s := by
  induction p generalizing s with
  | ret value =>
    intro t between inv
    exact ⟨left t between.left inv.1, right t between.right inv.2⟩
  | call op next ih =>
    intro t between inv reply u step
    obtain ⟨guar, kept, rest⟩ := left t between.left inv.1 reply u step
    obtain ⟨guar', kept', rest'⟩ := right t between.right inv.2 reply u step
    exact ⟨⟨guar, guar'⟩, ⟨kept, kept'⟩, ih reply rest rest'⟩
  | iterate body next ihBody ihNext =>
    obtain ⟨assertion, stable, start, round⟩ := left
    obtain ⟨assertion', stable', start', round'⟩ := right
    refine ⟨_, stable.both stable', ⟨start, start'⟩, fun t inv holds => ?_⟩
    apply Safe.mono ?_ (ihBody (round t inv.1 holds.1) (round' t inv.2 holds.2))
    intro found u _ rest
    cases found with
    | none => exact rest
    | some value => exact ihNext value rest.1 rest.2

theorem Triple.and {sem : Semantics Op Reply σ} {p : Program Op Reply α}
    {post later : α → σ → Prop} (left : Triple sem C first p post)
    (right : Triple sem D second p later) : Triple sem (C.and D) (fun s => first s ∧ second s) p
      fun value t => post value t ∧ later value t :=
  fun s inv holds => (left s inv.1 holds.1).and (right s inv.2 holds.2)

end And

section Fewer

variable {C : Contract σ} {pre : σ → Prop} {sem part : Semantics Op Reply σ}
  (included : ∀ op s reply t, part op s reply t → sem op s reply t)

include included

theorem Safe.fewer {p : Program Op Reply α} {post : α → σ → Prop} {s : σ}
    (safe : Safe sem C p post s) : Safe part C p post s := by
  induction p generalizing s with
  | ret value => exact safe
  | call op next ih =>
    intro t between inv reply u step
    obtain ⟨guar, kept, rest⟩ := safe t between inv reply u (included _ _ _ _ step)
    exact ⟨guar, kept, ih reply rest⟩
  | iterate body next ihBody ihNext =>
    obtain ⟨assertion, stable, start, round⟩ := safe
    refine ⟨assertion, stable, start, fun t inv holds => ?_⟩
    apply Safe.mono ?_ (ihBody (round t inv holds))
    intro found u _ rest
    cases found with
    | none => exact rest
    | some value => exact ihNext value rest

theorem Triple.fewer {p : Program Op Reply α} {post : α → σ → Prop}
    (triple : Triple sem C pre p post) : Triple part C pre p post :=
  fun s inv holds => (triple s inv holds).fewer included

end Fewer

end Interaction
