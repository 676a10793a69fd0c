import Mathlib.Order.Lattice

set_option autoImplicit false

structure SortedSet (α : Type) [LinearOrder α] where
  elems : List α
  ascending : elems.Pairwise (· < ·)
deriving DecidableEq

namespace SortedSet

variable {α : Type} [LinearOrder α]

instance : Membership α (SortedSet α) := ⟨fun s a => a ∈ s.elems⟩

instance (a : α) (s : SortedSet α) : Decidable (a ∈ s) := inferInstanceAs (Decidable (a ∈ s.elems))

theorem mem_elems {a : α} {s : SortedSet α} : a ∈ s.elems ↔ a ∈ s := Iff.rfl

def empty : SortedSet α := ⟨[], .nil⟩

instance : Inhabited (SortedSet α) := ⟨empty⟩

def isEmpty (s : SortedSet α) : Bool := s.elems.isEmpty

def insertIn (a : α) : List α → List α
  | [] => [a]
  | b :: rest => if a < b then a :: b :: rest else if a = b then b :: rest else b :: insertIn a rest

theorem mem_insertIn {a x : α} {elems : List α} : x ∈ insertIn a elems ↔ x = a ∨ x ∈ elems := by
  induction elems with
  | nil => simp [insertIn]
  | cons b rest ih =>
    unfold insertIn
    split_ifs with less same
    · simp
    · simp [same]
    · simp only [List.mem_cons, ih]
      exact or_left_comm

theorem pairwise_insertIn (a : α) {elems : List α} (ascending : elems.Pairwise (· < ·)) :
    (insertIn a elems).Pairwise (· < ·) := by
  induction elems with
  | nil => simp [insertIn]
  | cons b rest ih =>
    obtain ⟨above, tail⟩ := List.pairwise_cons.mp ascending
    unfold insertIn
    split_ifs with less same
    · refine List.pairwise_cons.mpr ⟨?_, ascending⟩
      intro x member
      rcases List.mem_cons.mp member with rfl | member
      · exact less
      · exact lt_trans less (above x member)
    · exact ascending
    · refine List.pairwise_cons.mpr ⟨?_, ih tail⟩
      intro x member
      rcases mem_insertIn.mp member with rfl | member
      · exact lt_of_le_of_ne (not_lt.mp less) (Ne.symm same)
      · exact above x member

theorem length_insertIn_le (a : α) (elems : List α) :
    (insertIn a elems).length ≤ elems.length + 1 := by
  induction elems with
  | nil => simp [insertIn]
  | cons b rest ih =>
    unfold insertIn
    split_ifs <;> simp only [List.length_cons] <;> omega

def insert (a : α) (s : SortedSet α) : SortedSet α :=
  ⟨insertIn a s.elems, pairwise_insertIn a s.ascending⟩

def erase (a : α) (s : SortedSet α) : SortedSet α :=
  ⟨s.elems.filter (· ≠ a), s.ascending.filter _⟩

def singleton (a : α) : SortedSet α := empty.insert a

def insertAll (items : List α) (s : SortedSet α) : SortedSet α :=
  items.foldl (fun current a => current.insert a) s

def eraseAll (items : List α) (s : SortedSet α) : SortedSet α :=
  items.foldl (fun current a => current.erase a) s

def ofList (items : List α) : SortedSet α := empty.insertAll items

@[simp] theorem not_mem_empty (a : α) : a ∉ (empty : SortedSet α) := List.not_mem_nil

@[simp] theorem mem_insert {a x : α} {s : SortedSet α} : x ∈ s.insert a ↔ x = a ∨ x ∈ s :=
  mem_insertIn

@[simp] theorem mem_erase {a x : α} {s : SortedSet α} : x ∈ s.erase a ↔ x ≠ a ∧ x ∈ s := by
  rw [← mem_elems, erase, List.mem_filter, decide_eq_true_eq, and_comm, mem_elems]

@[simp] theorem mem_singleton {a x : α} : x ∈ singleton a ↔ x = a := by simp [singleton]

@[simp] theorem mem_insertAll {items : List α} {s : SortedSet α} {x : α} :
    x ∈ s.insertAll items ↔ x ∈ items ∨ x ∈ s := by
  induction items generalizing s with
  | nil => simp [insertAll]
  | cons a rest ih =>
    have unfolded : s.insertAll (a :: rest) = (s.insert a).insertAll rest := rfl
    rw [unfolded, ih, mem_insert, List.mem_cons]
    exact or_left_comm.trans or_assoc.symm

@[simp] theorem mem_eraseAll {items : List α} {s : SortedSet α} {x : α} :
    x ∈ s.eraseAll items ↔ x ∉ items ∧ x ∈ s := by
  induction items generalizing s with
  | nil => simp [eraseAll]
  | cons a rest ih =>
    have unfolded : s.eraseAll (a :: rest) = (s.erase a).eraseAll rest := rfl
    rw [unfolded, ih, mem_erase, List.mem_cons, not_or]
    exact and_left_comm.trans and_assoc.symm

@[simp] theorem mem_ofList {items : List α} {x : α} : x ∈ ofList items ↔ x ∈ items := by
  simp [ofList]

theorem isEmpty_iff {s : SortedSet α} : s.isEmpty = true ↔ ∀ a, a ∉ s := by
  rw [isEmpty, List.isEmpty_iff, List.eq_nil_iff_forall_not_mem]
  rfl

@[ext] theorem ext {s t : SortedSet α} (same : ∀ a, a ∈ s ↔ a ∈ t) : s = t := by
  obtain ⟨left, hl⟩ := s
  obtain ⟨right, hr⟩ := t
  have perm : left.Perm right :=
    (List.perm_ext_iff_of_nodup (hl.imp ne_of_lt) (hr.imp ne_of_lt)).mpr same
  have equal := perm.eq_of_pairwise
    (fun a b _ _ ab ba => absurd (lt_trans ab ba) (lt_irrefl a)) hl hr
  subst equal
  rfl

theorem eq_empty_iff {s : SortedSet α} : s = empty ↔ ∀ a, a ∉ s := by
  simp [SortedSet.ext_iff]

end SortedSet
