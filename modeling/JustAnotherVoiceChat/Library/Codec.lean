import Mathlib.Tactic.Ring
import Mathlib.Data.List.Forall2

set_option autoImplicit false

-- A codec writes values and reads them back from the front of a byte string. `Denotes value t`
-- says that the bytes `t` stand for `value`; a value may have several such strings, one of which
-- is the one written.

namespace Binary

abbrev Bytes := List UInt8

def littleEndian : Nat → Nat → Bytes
  | 0, _ => []
  | width + 1, value => UInt8.ofNat (value % 256) :: littleEndian width (value / 256)

def ofLittleEndian : Bytes → Nat
  | [] => 0
  | byte :: rest => byte.toNat + 256 * ofLittleEndian rest

@[simp] theorem littleEndian_length (width value : Nat) :
    (littleEndian width value).length = width := by
  induction width generalizing value with
  | zero => rfl
  | succ width ih => simp [littleEndian, ih]

theorem ofLittleEndian_lt (bytes : Bytes) : ofLittleEndian bytes < 256 ^ bytes.length := by
  induction bytes with
  | nil => simp [ofLittleEndian]
  | cons byte rest ih =>
    have bound := byte.toNat_lt
    simp only [ofLittleEndian, List.length_cons, Nat.pow_succ]
    omega

theorem ofLittleEndian_littleEndian (width value : Nat) (bound : value < 256 ^ width) :
    ofLittleEndian (littleEndian width value) = value := by
  induction width generalizing value with
  | zero => simp_all [littleEndian, ofLittleEndian]
  | succ width ih =>
    have rest := ih (value / 256) (by rw [Nat.pow_succ] at bound; omega)
    simp only [littleEndian, ofLittleEndian, rest, UInt8.toNat_ofNat']
    omega

theorem littleEndian_ofLittleEndian (bytes : Bytes) :
    littleEndian bytes.length (ofLittleEndian bytes) = bytes := by
  induction bytes with
  | nil => rfl
  | cons byte rest ih =>
    have bound := byte.toNat_lt
    have low : (byte.toNat + 256 * ofLittleEndian rest) % 256 = byte.toNat := by omega
    have high : (byte.toNat + 256 * ofLittleEndian rest) / 256 = ofLittleEndian rest := by omega
    simp [littleEndian, ofLittleEndian, low, high, ih]

-- A byte read where 1 would have been written may be any other non-zero byte.
def Similar : Bytes → Bytes → Prop :=
  List.Forall₂ fun read written => read = written ∨ (read ≠ 0 ∧ written = 1)

theorem Similar.refl (bytes : Bytes) : Similar bytes bytes :=
  List.forall₂_same.mpr fun _ _ => .inl rfl

theorem Similar.append {a b c d : Bytes} (front : Similar a b) (back : Similar c d) :
    Similar (a ++ c) (b ++ d) := List.rel_append front back

theorem Similar.length_eq {a b : Bytes} (similar : Similar a b) : a.length = b.length :=
  List.Forall₂.length_eq similar

structure Codec (α : Type) where
  encode : α → Bytes
  decode : Bytes → Option (α × Bytes)
  -- What the written bytes still say about a value: everything, unless a field is left out.
  kept : α → α
  Denotes : α → Bytes → Prop
  decode_iff : ∀ bytes value rest,
    decode bytes = some (value, rest) ↔ ∃ used, Denotes value used ∧ bytes = used ++ rest
  encode_denotes : ∀ value, Denotes (kept value) (encode value)
  kept_of_denotes : ∀ value used, Denotes value used → kept value = value
  similar : ∀ value used, Denotes value used → Similar used (encode value)

namespace Codec

variable {α β : Type}

theorem decode_encode (c : Codec α) (value : α) (rest : Bytes) :
    c.decode (c.encode value ++ rest) = some (c.kept value, rest) :=
  (c.decode_iff _ _ _).mpr ⟨_, c.encode_denotes value, rfl⟩

theorem decode_truncated (c : Codec α) {value : α} {front back : Bytes}
    (written : c.encode value = front ++ back) (cut : back ≠ []) : c.decode front = none := by
  by_contra read
  obtain ⟨⟨other, rest⟩, found⟩ := Option.ne_none_iff_exists'.mp read
  obtain ⟨used, denotes, rfl⟩ := (c.decode_iff _ _ _).mp found
  have whole := c.decode_encode value []
  have longer : c.decode (c.encode value) = some (other, rest ++ back) :=
    (c.decode_iff _ _ _).mpr ⟨used, denotes, by rw [written, List.append_assoc]⟩
  rw [List.append_nil, longer] at whole
  have empty := (Prod.mk.inj (Option.some.inj whole)).2
  exact cut (List.append_eq_nil_iff.mp empty).2

def Faithful (c : Codec α) : Prop := ∀ value, c.kept value = value

def Exact (c : Codec α) : Prop := ∀ value used, c.Denotes value used → used = c.encode value

def word (width : Nat) (toNat : α → Nat) (ofNat : Nat → α)
    (toNat_lt : ∀ value, toNat value < 256 ^ width)
    (ofNat_toNat : ∀ value, ofNat (toNat value) = value)
    (toNat_ofNat : ∀ n < 256 ^ width, toNat (ofNat n) = n) : Codec α where
  encode value := littleEndian width (toNat value)
  decode bytes :=
    if width ≤ bytes.length then
      some (ofNat (ofLittleEndian (bytes.take width)), bytes.drop width)
    else none
  kept := id
  Denotes value used := used = littleEndian width (toNat value)
  decode_iff bytes value rest := by
    constructor
    · intro read
      split at read
      · rename_i long
        obtain ⟨rfl, rfl⟩ := Prod.mk.inj (Option.some.inj read)
        have length : (bytes.take width).length = width := by simp [long]
        have bound := ofLittleEndian_lt (bytes.take width)
        have back := littleEndian_ofLittleEndian (bytes.take width)
        rw [length] at bound back
        refine ⟨bytes.take width, ?_, (List.take_append_drop width bytes).symm⟩
        rw [toNat_ofNat _ bound, back]
      · cases read
    · rintro ⟨used, rfl, rfl⟩
      have length := littleEndian_length width (toNat value)
      rw [if_pos (by simp), List.take_left' length, List.drop_left' length,
        ofLittleEndian_littleEndian _ _ (toNat_lt value), ofNat_toNat]
  encode_denotes _ := rfl
  kept_of_denotes _ _ _ := rfl
  similar value used denotes := denotes ▸ Similar.refl _

def byte : Codec UInt8 where
  encode value := [value]
  decode
    | [] => none
    | value :: rest => some (value, rest)
  kept := id
  Denotes value used := used = [value]
  decode_iff bytes value rest := by cases bytes <;> simp [and_comm, eq_comm]
  encode_denotes _ := rfl
  kept_of_denotes _ _ _ := rfl
  similar value used denotes := denotes ▸ Similar.refl _

def boolean : Codec Bool where
  encode value := [if value then 1 else 0]
  decode
    | [] => none
    | byte :: rest => some (byte != 0, rest)
  kept := id
  Denotes value used := ∃ byte : UInt8, used = [byte] ∧ (byte != 0) = value
  decode_iff bytes value rest := by
    cases bytes with
    | nil => simp
    | cons byte tail =>
      simp only [Option.some.injEq, Prod.mk.injEq]
      constructor
      · rintro ⟨rfl, rfl⟩
        exact ⟨[byte], ⟨byte, rfl, rfl⟩, rfl⟩
      · rintro ⟨_, ⟨byte', rfl, rfl⟩, split⟩
        obtain ⟨rfl, rfl⟩ := List.cons.inj split
        exact ⟨rfl, rfl⟩
  encode_denotes value := ⟨_, rfl, by cases value <;> rfl⟩
  kept_of_denotes _ _ _ := rfl
  similar value used := by
    rintro ⟨byte, rfl, rfl⟩
    refine .cons ?_ .nil
    by_cases zero : byte = 0 <;> simp [zero]

def prod (first : Codec α) (second : Codec β) : Codec (α × β) where
  encode value := first.encode value.1 ++ second.encode value.2
  decode bytes :=
    (first.decode bytes).bind fun (a, tail) => (second.decode tail).map fun (b, rest) =>
    ((a, b), rest)
  kept value := (first.kept value.1, second.kept value.2)
  Denotes value used := ∃ front back, first.Denotes value.1 front ∧ second.Denotes value.2 back ∧
    used = front ++ back
  decode_iff bytes value rest := by
    simp only [Option.bind_eq_some_iff, Option.map_eq_some_iff, Prod.exists, Prod.mk.injEq,
      first.decode_iff, second.decode_iff]
    constructor
    · rintro ⟨a, tail, ⟨front, ha, rfl⟩, b, rest', ⟨back, hb, rfl⟩, rfl, rfl⟩
      exact ⟨front ++ back, ⟨front, back, ha, hb, rfl⟩, by simp⟩
    · rintro ⟨used, ⟨front, back, ha, hb, rfl⟩, rfl⟩
      exact ⟨value.1, back ++ rest, ⟨front, ha, by simp⟩, value.2, rest, ⟨back, hb, rfl⟩, rfl, rfl⟩
  encode_denotes value :=
    ⟨_, _, first.encode_denotes value.1, second.encode_denotes value.2, rfl⟩
  kept_of_denotes value used := by
    rintro ⟨front, back, ha, hb, rfl⟩
    exact Prod.ext (first.kept_of_denotes _ _ ha) (second.kept_of_denotes _ _ hb)
  similar value used := by
    rintro ⟨front, back, ha, hb, rfl⟩
    exact (first.similar _ _ ha).append (second.similar _ _ hb)

-- `fields` may forget parts of a value, as long as a value built from fields gives them back.
def record (c : Codec α) (fields : β → α) (build : α → β)
    (fields_build : ∀ a, fields (build a) = a) : Codec β where
  encode value := c.encode (fields value)
  decode bytes := (c.decode bytes).map fun (a, rest) => (build a, rest)
  kept value := build (c.kept (fields value))
  Denotes value used := c.Denotes (fields value) used ∧ build (fields value) = value
  decode_iff bytes value rest := by
    simp only [Option.map_eq_some_iff, Prod.exists, Prod.mk.injEq, c.decode_iff]
    constructor
    · rintro ⟨a, tail, ⟨used, denotes, rfl⟩, rfl, rfl⟩
      rw [fields_build]
      exact ⟨used, ⟨denotes, rfl⟩, rfl⟩
    · rintro ⟨used, ⟨denotes, whole⟩, rfl⟩
      exact ⟨fields value, rest, ⟨used, denotes, rfl⟩, whole, rfl⟩
  encode_denotes value := by
    rw [fields_build]
    exact ⟨c.encode_denotes (fields value), rfl⟩
  kept_of_denotes value used denotes := by
    rw [c.kept_of_denotes _ _ denotes.1, denotes.2]
  similar value used denotes := c.similar _ _ denotes.1

def decodeMany (c : Codec α) : Nat → Bytes → Option (List α × Bytes)
  | 0, bytes => some ([], bytes)
  | count + 1, bytes => (c.decode bytes).bind fun (a, tail) =>
      (decodeMany c count tail).map fun (as, rest) => (a :: as, rest)

def encodeMany (c : Codec α) (items : List α) : Bytes := (items.map c.encode).flatten

def DenotesMany (c : Codec α) : List α → Bytes → Prop
  | [], used => used = []
  | a :: as, used => ∃ front back, c.Denotes a front ∧ DenotesMany c as back ∧ used = front ++ back

theorem decodeMany_iff (c : Codec α) (count : Nat) (bytes : Bytes) (items : List α)
    (rest : Bytes) : c.decodeMany count bytes = some (items, rest) ↔
      items.length = count ∧ ∃ used, c.DenotesMany items used ∧ bytes = used ++ rest := by
  induction count generalizing bytes items rest with
  | zero => cases items <;> simp [decodeMany, DenotesMany, eq_comm]
  | succ count ih =>
    simp only [decodeMany, Option.bind_eq_some_iff, Option.map_eq_some_iff, Prod.exists,
      Prod.mk.injEq, c.decode_iff, ih]
    constructor
    · rintro ⟨a, tail, ⟨front, ha, rfl⟩, as, _, ⟨rfl, back, has, rfl⟩, rfl, rfl⟩
      exact ⟨rfl, front ++ back, ⟨front, back, ha, has, rfl⟩, by simp⟩
    · rintro ⟨length, used, denotes, rfl⟩
      cases items with
      | nil => cases length
      | cons a as =>
        obtain ⟨front, back, ha, has, rfl⟩ := denotes
        exact ⟨a, back ++ rest, ⟨front, ha, by simp⟩, as, rest,
          ⟨Nat.succ.inj length, back, has, rfl⟩, rfl, rfl⟩

theorem encodeMany_denotes (c : Codec α) (items : List α) :
    c.DenotesMany (items.map c.kept) (c.encodeMany items) := by
  induction items with
  | nil => rfl
  | cons a as ih => exact ⟨_, _, c.encode_denotes a, ih, rfl⟩

theorem encodeMany_length (c : Codec α) {size : Nat}
    (each : ∀ item, (c.encode item).length = size) (items : List α) :
    (c.encodeMany items).length = items.length * size := by
  induction items with
  | nil => simp [encodeMany]
  | cons item rest ih =>
    have unfolded : c.encodeMany (item :: rest) = c.encode item ++ c.encodeMany rest := rfl
    rw [unfolded, List.length_append, ih, each, List.length_cons, Nat.add_mul, Nat.one_mul,
      Nat.add_comm]

theorem kept_of_denotesMany (c : Codec α) {items : List α} {used : Bytes}
    (denotes : c.DenotesMany items used) : items.map c.kept = items := by
  induction items generalizing used with
  | nil => rfl
  | cons a as ih =>
    obtain ⟨front, back, ha, has, rfl⟩ := denotes
    rw [List.map_cons, c.kept_of_denotes _ _ ha, ih has]

theorem similar_of_denotesMany (c : Codec α) {items : List α} {used : Bytes}
    (denotes : c.DenotesMany items used) : Similar used (c.encodeMany items) := by
  induction items generalizing used with
  | nil => exact denotes ▸ Similar.refl _
  | cons a as ih =>
    obtain ⟨front, back, ha, has, rfl⟩ := denotes
    exact (c.similar _ _ ha).append (ih has)

end Codec

-- What a program can hold: its size fits the 64-bit length that is written in front of it.
def Sized (α : Type) := { items : List α // items.length < 2 ^ 64 }

namespace Sized

variable {α β : Type}

instance [DecidableEq α] : DecidableEq (Sized α) := inferInstanceAs (DecidableEq (Subtype _))

def items (value : Sized α) : List α := value.val

def empty : Sized α := ⟨[], Nat.two_pow_pos 64⟩

instance : Inhabited (Sized α) := ⟨empty⟩

@[ext] theorem ext {a b : Sized α} (same : a.items = b.items) : a = b := Subtype.ext same

theorem length_lt (value : Sized α) : value.items.length < 2 ^ 64 := value.property

def map (f : α → β) (value : Sized α) : Sized β :=
  ⟨value.items.map f, by simpa using value.length_lt⟩

@[simp] theorem items_empty : (empty : Sized α).items = [] := rfl

@[simp] theorem items_map (f : α → β) (value : Sized α) :
    (value.map f).items = value.items.map f := rfl

end Sized

namespace Codec

variable {α : Type}

def uint64 : Codec UInt64 := word 8 UInt64.toNat UInt64.ofNat
  (fun value => value.toNat_lt) (fun _ => UInt64.ofNat_toNat)
  (fun _ bound => UInt64.toNat_ofNat_of_lt' bound)

def sized (c : Codec α) : Codec (Sized α) where
  encode value := uint64.encode (.ofNat value.items.length) ++ c.encodeMany value.items
  decode bytes := (uint64.decode bytes).bind fun (size, tail) =>
    match h : c.decodeMany size.toNat tail with
    | none => none
    | some (items, rest) =>
      some (⟨items, by rw [((c.decodeMany_iff _ _ _ _).mp h).1]; exact size.toNat_lt⟩, rest)
  kept value := value.map c.kept
  Denotes value used := ∃ back, c.DenotesMany value.items back ∧
    used = uint64.encode (.ofNat value.items.length) ++ back
  decode_iff bytes value rest := by
    simp only [Option.bind_eq_some_iff, Prod.exists, uint64.decode_iff]
    constructor
    · rintro ⟨size, tail, ⟨front, rfl, rfl⟩, read⟩
      split at read
      · cases read
      · rename_i items rest' many
        obtain ⟨rfl, rfl⟩ := Prod.mk.inj (Option.some.inj read)
        obtain ⟨length, back, denotes, rfl⟩ := (c.decodeMany_iff _ _ _ _).mp many
        refine ⟨_, ⟨back, denotes, rfl⟩, ?_⟩
        change _ = uint64.encode (UInt64.ofNat items.length) ++ back ++ rest'
        rw [length, UInt64.ofNat_toNat, List.append_assoc]
        rfl
    · rintro ⟨used, ⟨back, denotes, rfl⟩, rfl⟩
      refine ⟨.ofNat value.items.length, back ++ rest, ⟨_, rfl, List.append_assoc _ _ _⟩, ?_⟩
      have many : c.decodeMany (UInt64.ofNat value.items.length).toNat (back ++ rest) =
          some (value.items, rest) := by
        rw [UInt64.toNat_ofNat_of_lt' value.length_lt]
        exact (c.decodeMany_iff _ _ _ _).mpr ⟨rfl, back, denotes, rfl⟩
      split
      · rename_i failed
        cases failed.symm.trans many
      · rename_i items rest' read
        cases read.symm.trans many
        rfl
  encode_denotes value := ⟨_, c.encodeMany_denotes value.items, by simp⟩
  kept_of_denotes value used := by
    rintro ⟨back, denotes, rfl⟩
    exact Sized.ext (c.kept_of_denotesMany denotes)
  similar value used := by
    rintro ⟨back, denotes, rfl⟩
    exact (Similar.refl _).append (c.similar_of_denotesMany denotes)

theorem sized_length (c : Codec α) {size : Nat} (each : ∀ item, (c.encode item).length = size)
    (value : Sized α) : ((sized c).encode value).length = 8 + value.items.length * size := by
  have length : (uint64.encode (.ofNat value.items.length)).length = 8 := rfl
  have unfolded : (sized c).encode value =
    uint64.encode (.ofNat value.items.length) ++ c.encodeMany value.items := rfl
  rw [unfolded, List.length_append, length, encodeMany_length c each]

theorem prod_exact {β : Type} {first : Codec α} {second : Codec β} (front : first.Exact)
    (back : second.Exact) : (first.prod second).Exact := by
  rintro value used ⟨a, b, ha, hb, rfl⟩
  rw [front _ _ ha, back _ _ hb]
  rfl

theorem record_exact {β : Type} {c : Codec α} {fields : β → α} {build : α → β}
    {fields_build : ∀ a, fields (build a) = a} (exact : c.Exact) :
    (c.record fields build fields_build).Exact :=
  fun value used denotes => exact (fields value) used denotes.1

theorem encodeMany_of_denotesMany {c : Codec α} (exact : c.Exact) {items : List α} {used : Bytes}
    (denotes : c.DenotesMany items used) : used = c.encodeMany items := by
  induction items generalizing used with
  | nil => exact denotes
  | cons a as ih =>
    obtain ⟨front, back, ha, has, rfl⟩ := denotes
    rw [exact _ _ ha, ih has]
    rfl

theorem sized_exact {c : Codec α} (exact : c.Exact) : (sized c).Exact := by
  rintro value used ⟨back, denotes, rfl⟩
  rw [encodeMany_of_denotesMany exact denotes]
  rfl

theorem prod_faithful {β : Type} {first : Codec α} {second : Codec β} (front : first.Faithful)
    (back : second.Faithful) : (first.prod second).Faithful :=
  fun value => Prod.ext (front value.1) (back value.2)

theorem record_faithful {β : Type} {c : Codec α} {fields : β → α} {build : α → β}
    {fields_build : ∀ a, fields (build a) = a} (faithful : c.Faithful)
    (build_fields : ∀ value, build (fields value) = value) :
    (c.record fields build fields_build).Faithful := by
  intro value
  change build (c.kept (fields value)) = value
  rw [faithful, build_fields]

theorem sized_kept_eq (c : Codec α) (value : Sized α) :
    (sized c).kept value = value ↔ ∀ item ∈ value.items, c.kept item = item := by
  rw [Sized.ext_iff]
  change value.items.map c.kept = value.items ↔ _
  simpa using @List.map_eq_map_iff _ _ c.kept value.items id

theorem sized_faithful {c : Codec α} (faithful : c.Faithful) : (sized c).Faithful :=
  fun value => (sized_kept_eq c value).mpr fun item _ => faithful item

end Codec

end Binary
