import Mathlib.Data.List.Perm.Basic
import Mathlib.Data.List.Perm.Subperm

set_option autoImplicit false

-- A ledger of the resources that are held, kept from a trace of what was taken and returned. The
-- newest transfer comes first, and the same resource may be held several times.

namespace Ledger

inductive Transfer (κ : Type) where
  | taken (resource : κ)
  | returned (resource : κ)

variable {κ : Type} [DecidableEq κ]

def held : List (Transfer κ) → List κ
  | [] => []
  | .taken resource :: older => resource :: held older
  | .returned resource :: older => (held older).erase resource

def Honest : List (Transfer κ) → Prop
  | [] => True
  | .taken _ :: older => Honest older
  | .returned resource :: older => resource ∈ held older ∧ Honest older

-- Whatever was held before, the transfers are honest and leave `kept` to it.
def Leaves (transfers : List (Transfer κ)) (kept : List κ) : Prop :=
  ∀ older, Honest older →
    Honest (transfers ++ older) ∧ held (transfers ++ older) = kept ++ held older

variable {newer older : List (Transfer κ)} {more kept : List κ} {resource : κ}

theorem leaves_nil : Leaves ([] : List (Transfer κ)) [] := fun _ honest => ⟨honest, rfl⟩

theorem leaves_taken (resource : κ) : Leaves [.taken resource] [resource] :=
  fun _ honest => ⟨honest, rfl⟩

theorem Leaves.append (last : Leaves newer more) (first : Leaves older kept) :
    Leaves (newer ++ older) (more ++ kept) := by
  intro start honest
  obtain ⟨honest, holds⟩ := first start honest
  obtain ⟨honest, later⟩ := last (older ++ start) honest
  rw [List.append_assoc]
  refine ⟨honest, ?_⟩
  rw [later, holds, List.append_assoc]

theorem Leaves.between (inner : Leaves newer []) :
    Leaves (.returned resource :: (newer ++ [.taken resource])) [] := by
  intro start honest
  obtain ⟨honest, holds⟩ := inner (.taken resource :: start) honest
  have around : newer ++ [.taken resource] ++ start = newer ++ .taken resource :: start := by simp
  have top : held (newer ++ .taken resource :: start) = resource :: held start := holds
  rw [List.cons_append, around]
  refine ⟨⟨?_, honest⟩, ?_⟩
  · rw [top]
    exact List.mem_cons_self
  · rw [held, top, List.erase_cons_head]
    rfl

theorem Leaves.held_eq (leaves : Leaves newer kept) : Honest newer ∧ held newer = kept := by
  have alone := leaves [] trivial
  rwa [List.append_nil, show held ([] : List (Transfer κ)) = [] from rfl, List.append_nil] at alone

section Several

variable {resources : List κ}

theorem held_returned : held (resources.map .returned ++ older) = (held older).diff resources := by
  induction resources with
  | nil => rfl
  | cons first rest ih =>
    rw [List.map_cons, List.cons_append, held, ih, List.diff_cons, List.diff_erase]

theorem Honest.returned (honest : Honest older) (within : resources.Subperm (held older)) :
    Honest (resources.map .returned ++ older) := by
  induction resources with
  | nil => exact honest
  | cons first rest ih =>
    have fewer : rest.Subperm (held older) :=
      (List.sublist_cons_self first rest).subperm.trans within
    refine ⟨?_, ih fewer⟩
    change first ∈ held (rest.map .returned ++ older)
    have whole := List.subperm_append_diff_self_of_count_le fun other _ => fewer.count_le other
    have counted := whole.count_eq first
    have enough := within.count_le first
    rw [List.count_append] at counted
    rw [List.count_cons_self] at enough
    rw [held_returned, ← List.count_pos_iff]
    omega

end Several

section Counts

variable {transfers : List (Transfer κ)}

def timesTaken (resource : κ) (transfers : List (Transfer κ)) : Nat :=
  transfers.countP fun transfer => match transfer with
    | .taken other => other = resource
    | .returned _ => false

def timesReturned (resource : κ) (transfers : List (Transfer κ)) : Nat :=
  transfers.countP fun transfer => match transfer with
    | .taken _ => false
    | .returned other => other = resource

theorem Honest.count (honest : Honest transfers) (resource : κ) :
    (held transfers).count resource + timesReturned resource transfers =
      timesTaken resource transfers := by
  induction transfers with
  | nil => rfl
  | cons transfer older ih =>
    cases transfer with
    | taken other =>
      have before := ih honest
      by_cases same : other = resource
      · simp only [held, timesTaken, timesReturned, same, List.count_cons_self,
          List.countP_cons, decide_true, if_true] at before ⊢
        simp only [Bool.false_eq_true, if_false]
        omega
      · simp only [held, timesTaken, timesReturned, List.countP_cons] at before ⊢
        rw [List.count_cons_of_ne same]
        simpa [same] using before
    | returned other =>
      obtain ⟨present, honest⟩ := honest
      have before := ih honest
      by_cases same : other = resource
      · subst same
        have positive : 0 < (held older).count other := List.count_pos_iff.mpr present
        simp only [held, timesTaken, timesReturned, List.countP_cons, List.count_erase_self,
          decide_true, if_true] at before ⊢
        simp only [Bool.false_eq_true, if_false]
        omega
      · simp only [held, timesTaken, timesReturned, List.countP_cons] at before ⊢
        rw [List.count_erase_of_ne (Ne.symm same)]
        simpa [same] using before

end Counts

end Ledger
