import Mathlib.Data.List.Induction
import Mathlib.Logic.Function.Basic

set_option autoImplicit false

-- A reader takes the values of some variables and is told of later writes one by one. What it
-- has read may be older than what is still to be told.

namespace Replay

variable {κ ν : Type} [DecidableEq κ]

def replay (read : κ → ν) (writes : List (κ × ν)) : κ → ν :=
  writes.foldl (fun known write => Function.update known write.1 write.2) read

variable {read read' : κ → ν} {writes : List (κ × ν)} {k : κ}

@[simp] theorem replay_nil : replay read [] = read := rfl

theorem replay_append (first second : List (κ × ν)) :
    replay read (first ++ second) = replay (replay read first) second := List.foldl_append

theorem replay_at (same : read k = read' k) : replay read writes k = replay read' writes k := by
  induction writes generalizing read read' with
  | nil => exact same
  | cons write rest ih =>
    apply ih
    by_cases hit : k = write.1 <;> simp [hit, same]

def lastWrite (writes : List (κ × ν)) (k : κ) : Option ν :=
  (writes.reverse.find? fun write => write.1 = k).map Prod.snd

theorem lastWrite_snoc (writes : List (κ × ν)) (write : κ × ν) (k : κ) :
    lastWrite (writes ++ [write]) k = if write.1 = k then some write.2 else lastWrite writes k := by
  by_cases hit : write.1 = k <;> simp [lastWrite, hit]

theorem replay_last (read : κ → ν) (writes : List (κ × ν)) (k : κ) :
    replay read writes k = (lastWrite writes k).getD (read k) := by
  induction writes using List.reverseRecOn with
  | nil => rfl
  | append_singleton writes write ih =>
    rw [replay_append, lastWrite_snoc]
    by_cases hit : write.1 = k
    · simp [replay, hit]
    · have other : k ≠ write.1 := fun same => hit same.symm
      simpa [replay, hit, other] using ih

theorem replay_written (writes : List (κ × ν)) (k : κ) :
    (∃ value, ∀ read : κ → ν, replay read writes k = value) ∨
      ∀ read : κ → ν, replay read writes k = read k := by
  induction writes with
  | nil => exact .inr fun _ => rfl
  | cons write rest ih =>
    rcases ih with ⟨value, written⟩ | kept
    · exact .inl ⟨value, fun read => written _⟩
    · by_cases hit : k = write.1
      · refine .inl ⟨write.2, fun read => (kept _).trans ?_⟩
        simp [hit]
      · refine .inr fun read => (kept _).trans ?_
        simp [hit]

def Settled (read : κ → ν) (writes : List (κ × ν)) : Prop := replay read writes = read

theorem settled_replay (read : κ → ν) (writes : List (κ × ν)) :
    Settled (replay read writes) writes := by
  funext k
  rcases replay_written writes k with ⟨value, written⟩ | kept
  · rw [written, written]
  · rw [kept]

theorem Settled.tail {write : κ × ν} (settled : Settled read (write :: writes)) :
    Settled read writes := by
  have again := settled_replay (Function.update read write.1 write.2) writes
  rwa [show replay (Function.update read write.1 write.2) writes = read from settled] at again

theorem Settled.snoc (settled : Settled read writes) (write : κ × ν) :
    Settled (replay read [write]) (writes ++ [write]) := by
  funext k
  rw [replay_append]
  by_cases hit : k = write.1
  · simp [replay, hit]
  · have unwritten (known : κ → ν) : replay known [write] k = known k := by
      simp [replay, hit]
    rw [unwritten, unwritten, replay_at (unwritten read)]
    exact congrFun settled k

theorem Settled.reads (settled : Settled read writes) (same : read' k = read k) :
    replay read' writes k = read k :=
  (replay_at same).trans (congrFun settled k)

-- What `f` does to the part does not depend on it: it is written, or it is as it was.
def Writes {α β : Type} (part : α → β) (f : α → α) : Prop :=
  (∃ value, ∀ s, part (f s) = value) ∨ ∀ s, part (f s) = part s

section Writes

variable {α β : Type} {part : α → β} {f g : α → α}

theorem Writes.congr (writes : Writes part f) {s t : α} (same : part s = part t) :
    part (f s) = part (f t) := by
  rcases writes with ⟨value, written⟩ | kept
  · rw [written, written]
  · rw [kept, kept, same]

theorem Writes.comp (first : Writes part f) (second : Writes part g) :
    Writes part fun s => g (f s) := by
  rcases second with ⟨value, written⟩ | kept
  · exact .inl ⟨value, fun s => written _⟩
  rcases first with ⟨value, written⟩ | kept'
  · exact .inl ⟨value, fun s => (kept _).trans (written s)⟩
  · exact .inr fun s => (kept _).trans (kept' s)

theorem Writes.foldl {ι : Type} {step : α → ι → α}
    (each : ∀ item, Writes part fun s => step s item) (items : List ι) :
    Writes part fun s => items.foldl step s := by
  induction items with
  | nil => exact .inr fun _ => rfl
  | cons item rest ih => exact (each item).comp ih

-- What is written again later need not have been written before.
theorem Writes.again {s : α} (writes : Writes part f) (g : α → α)
    (between : part (f s) = part s → part (g (f s)) = part (g s)) :
    part (f (g (f s))) = part (f (g s)) := by
  rcases writes with ⟨value, written⟩ | kept
  · rw [written, written]
  · rw [kept, kept, between (kept s)]

end Writes

end Replay
