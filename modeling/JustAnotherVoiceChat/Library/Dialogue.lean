import Mathlib
import JustAnotherVoiceChat.Library.Terms

set_option autoImplicit false

-- Some calls of a program, with their replies, are noted. The words that it writes so, whatever
-- it is answered, belong to a language; and so does what one of many threads writes.

namespace Interaction

open Program Computability

variable {Op : Type} {Reply : Op → Type} {ε : Type} {α β : Type}

def noting (notes : (op : Op) → Reply op → List ε) : Semantics Op Reply (List ε) :=
  fun op word reply word' => word' = word ++ notes op reply

-- `p` notes a word of `L value` by the time it ends with `value`, and has noted a prefix of such a
-- word at any time before.
structure Follows (notes : (op : Op) → Reply op → List ε) (p : Program Op Reply α)
    (L : α → Language ε) : Prop where
  nonempty : ∃ value word, word ∈ L value
  safe : ∀ (ok : List ε → Prop) (start : List ε),
    (∀ word later value, word ++ later ∈ L value → ok (start ++ word)) →
      Safe (noting notes) (.alone ok) p (fun value w => ∃ word ∈ L value, w = start ++ word) start

namespace Follows

variable {notes : (op : Op) → Reply op → List ε} {p : Program Op Reply α} {L : α → Language ε}

theorem mono {M : α → Language ε} (follows : Follows notes p L)
    (included : ∀ value, L value ≤ M value) : Follows notes p M := by
  obtain ⟨value, word, member⟩ := follows.nonempty
  refine ⟨⟨value, word, included value member⟩, fun ok start prefixes => ?_⟩
  refine Safe.mono ?_ (follows.safe ok start fun word later value member =>
    prefixes word later value (included value member))
  rintro value w _ ⟨word, member, same⟩
  exact ⟨word, included value member, same⟩

theorem pure {value : α} (empty : [] ∈ L value) :
    Follows notes (Pure.pure value : Program Op Reply α) L := by
  refine ⟨⟨value, [], empty⟩, fun ok start prefixes => ?_⟩
  have inv : ok start := by simpa using prefixes [] [] value empty
  refine Safe.ret (Contract.alone_stable (· = start)) inv rfl ?_
  rintro w _ rfl
  exact ⟨[], empty, by simp⟩

theorem perform {op : Op} {L : Reply op → Language ε} (some : Reply op)
    (noted : ∀ reply, notes op reply ∈ L reply) : Follows notes (Program.perform op) L := by
  refine ⟨⟨some, _, noted some⟩, fun ok start prefixes => ?_⟩
  have inv : ok start := by simpa using prefixes [] (notes op some) some (noted some)
  refine Safe.call (Contract.alone_stable (· = start)) inv rfl ?_
  rintro w _ rfl reply u step
  obtain rfl : u = _ := step
  have inv : ok (w ++ notes op reply) := prefixes _ [] reply (by simpa using noted reply)
  refine ⟨trivial, inv, Safe.ret (Contract.alone_stable (· = w ++ notes op reply)) inv rfl ?_⟩
  rintro u _ rfl
  exact ⟨_, noted reply, rfl⟩

theorem bind {f : α → Program Op Reply β} {M : α → β → Language ε} (first : Follows notes p L)
    (rest : ∀ value, Follows notes (f value) (M value)) :
    Follows notes (p >>= f) fun result => ⨆ value, L value * M value result := by
  have joined {value : α} {result : β} {word more : List ε} (member : word ∈ L value)
      (next : more ∈ M value result) : word ++ more ∈ ⨆ value, L value * M value result :=
    Language.mem_iSup.mpr ⟨value, Language.append_mem_mul member next⟩
  obtain ⟨value, word, member⟩ := first.nonempty
  obtain ⟨result, more, next⟩ := (rest value).nonempty
  have whole := joined member next
  refine ⟨⟨result, word ++ more, whole⟩, fun ok start prefixes => ?_⟩
  have inv : ok start := by simpa using prefixes [] (word ++ more) result whole
  apply Safe.bind inv
  refine Safe.mono ?_ (first.safe ok start ?_)
  · rintro value w _ ⟨word, member, rfl⟩
    refine Safe.mono ?_ ((rest value).safe ok (start ++ word) ?_)
    · rintro result w _ ⟨more, next, rfl⟩
      exact ⟨word ++ more, joined member next, by simp⟩
    · intro more later result next
      rw [List.append_assoc]
      apply prefixes (word ++ more) later result
      rw [List.append_assoc]
      exact joined member next
  · intro word later value member
    obtain ⟨result, more, next⟩ := (rest value).nonempty
    apply prefixes word (later ++ more) result
    rw [← List.append_assoc]
    exact joined member next

theorem onward {f : α → Program Op Reply β} {N : β → Language ε} (first : Follows notes p L)
    (rest : ∀ value, Follows notes (f value) fun result =>
      {more | ∀ word ∈ L value, word ++ more ∈ N result}) : Follows notes (p >>= f) N := by
  apply (first.bind rest).mono
  intro result whole member
  obtain ⟨value, word, first, more, next, rfl⟩ := Language.mem_iSup.mp member
  exact next word first

theorem seq {f : α → Program Op Reply β} {K : Language ε} {M : β → Language ε}
    (first : Follows notes p fun _ => K) (rest : ∀ value, Follows notes (f value) M) :
    Follows notes (p >>= f) fun result => K * M result := by
  apply (first.bind rest).mono
  intro result word member
  obtain ⟨value, member⟩ := Language.mem_iSup.mp member
  exact member

theorem returning {result : β} {K : Language ε} (first : Follows notes p fun _ => K) :
    Follows notes (p >>= fun _ => Pure.pure result) fun other =>
      {word | other = result ∧ word ∈ K} := by
  have ending : Follows notes (Pure.pure result : Program Op Reply β)
      fun other => {word | other = result ∧ word = []} := .pure ⟨rfl, rfl⟩
  apply (first.seq fun _ => ending).mono
  rintro _ _ ⟨word, member, _, ⟨rfl, rfl⟩, rfl⟩
  refine ⟨rfl, ?_⟩
  dsimp only
  rw [List.append_nil]
  exact member

theorem repeatUntil {body : Program Op Reply (Option α)} {N : Option α → Language ε}
    (round : Follows notes body N) (ends : ∃ value word, word ∈ N (some value)) :
    Follows notes (Program.repeatUntil body) fun value => (N none)∗ * N (some value) := by
  have joined {value : α} {word more : List ε} (rounds : word ∈ (N none)∗)
      (last : more ∈ N (some value)) : word ++ more ∈ (N none)∗ * N (some value) :=
    Language.append_mem_mul rounds last
  have longer {word more : List ε} (rounds : word ∈ (N none)∗) (next : more ∈ N none) :
      word ++ more ∈ (N none)∗ := by
    rw [← Language.one_add_kstar_mul_self_eq_kstar]
    exact .inr (Language.append_mem_mul rounds next)
  obtain ⟨value, word, last⟩ := ends
  refine ⟨⟨value, [] ++ word, joined (Language.nil_mem_kstar _) last⟩, fun ok start prefixes => ?_⟩
  refine Safe.repeatUntil (Contract.alone_stable fun w => ∃ word ∈ (N none)∗, w = start ++ word)
    ⟨[], Language.nil_mem_kstar _, by simp⟩ ?_
  rintro w inv ⟨before, rounds, rfl⟩
  refine Safe.mono ?_ (round.safe ok (start ++ before) ?_)
  · rintro (_ | found) w inv ⟨more, next, rfl⟩
    · exact ⟨before ++ more, longer rounds next, by simp⟩
    · intro v between inv
      obtain ⟨rfl⟩ : v = start ++ before ++ more :=
        ((Contract.alone_stable (· = start ++ before ++ more)).between between ‹_› rfl).1
      exact ⟨before ++ more, joined rounds next, by simp⟩
  · rintro more later (_ | found) next
    · rw [List.append_assoc]
      apply prefixes (before ++ more) (later ++ word) value
      have whole := joined (longer rounds next) last
      simpa using whole
    · rw [List.append_assoc]
      apply prefixes (before ++ more) later found
      rw [List.append_assoc]
      exact joined rounds next

theorem after {f : α → Program Op Reply β} {M : β → Language ε}
    (first : Follows notes p fun _ => 1) (rest : ∀ value, Follows notes (f value) M) :
    Follows notes (p >>= f) M := by
  simpa using first.seq rest

theorem before {f : α → Program Op Reply β} {K : Language ε} (first : Follows notes p fun _ => K)
    (rest : ∀ value, Follows notes (f value) fun _ => 1) : Follows notes (p >>= f) fun _ => K := by
  simpa using first.seq rest

theorem silent {allowed : Op → Prop} (some : α) (calls : p.Calls allowed)
    (unnoted : ∀ op reply, allowed op → notes op reply = []) : Follows notes p fun _ => 1 := by
  refine ⟨⟨some, [], rfl⟩, fun ok start prefixes => ?_⟩
  have inv : ok start := by simpa using prefixes [] [] some rfl
  refine Safe.mono ?_ (Safe.of_calls (Contract.alone_stable (· = start)) calls ?_ inv rfl)
  · rintro value w _ rfl
    exact ⟨[], rfl, by simp⟩
  · rintro op w reply u permitted inv rfl step
    obtain rfl : u = _ := step
    simpa [unnoted op reply permitted] using inv

end Follows

-- What is opened is closed in the end, and never more than `depth` are open.
structure Bracketed (opens closes : ε → Bool) (depth : ℕ) (L : Language ε) : Prop where
  whole : ∀ word ∈ L, word.countP opens = word.countP closes
  partly : ∀ word later, word ++ later ∈ L → word.countP closes ≤ word.countP opens ∧
    word.countP opens ≤ word.countP closes + depth

namespace Bracketed

variable {opens closes : ε → Bool} {depth : ℕ} {K L : Language ε}

theorem of_neutral (neutral : ∀ word ∈ L, ∀ sign ∈ word, opens sign = false ∧ closes sign = false) :
    Bracketed opens closes depth L := by
  have none {word : List ε} (plain : ∀ sign ∈ word, opens sign = false ∧ closes sign = false) :
      word.countP opens = 0 ∧ word.countP closes = 0 := by
    constructor
    · exact List.countP_eq_zero.mpr fun sign member => by simp [(plain sign member).1]
    · exact List.countP_eq_zero.mpr fun sign member => by simp [(plain sign member).2]
  constructor
  · intro word member
    rw [(none (neutral word member)).1, (none (neutral word member)).2]
  · intro word later member
    have plain := none fun sign among => neutral _ member sign (List.mem_append_left later among)
    omega

theorem one : Bracketed opens closes depth 1 :=
  of_neutral fun word member sign among => by
    obtain rfl : word = [] := member
    cases among

theorem add (first : Bracketed opens closes depth K) (second : Bracketed opens closes depth L) :
    Bracketed opens closes depth (K + L) where
  whole word member := member.elim (first.whole word) (second.whole word)
  partly word later member := member.elim (first.partly word later) (second.partly word later)

theorem iSup {ι : Sort*} {M : ι → Language ε} (each : ∀ i, Bracketed opens closes depth (M i)) :
    Bracketed opens closes depth (⨆ i, M i) where
  whole word member := by
    obtain ⟨i, member⟩ := Language.mem_iSup.mp member
    exact (each i).whole word member
  partly word later member := by
    obtain ⟨i, member⟩ := Language.mem_iSup.mp member
    exact (each i).partly word later member

theorem mul (first : Bracketed opens closes depth K) (second : Bracketed opens closes depth L) :
    Bracketed opens closes depth (K * L) where
  whole word member := by
    obtain ⟨before, left, after, right, rfl⟩ := member
    simp only [List.countP_append, first.whole before left, second.whole after right]
  partly word later member := by
    obtain ⟨before, left, after, right, same⟩ := member
    -- the word stops in the second part or in the first
    rcases List.append_eq_append_iff.mp same with ⟨more, rfl, rfl⟩ | ⟨rest, rfl, rfl⟩
    · have := first.whole before left
      have := second.partly more later right
      simp only [List.countP_append]
      omega
    · exact first.partly word rest left

theorem pow (bracketed : Bracketed opens closes depth L) (n : ℕ) :
    Bracketed opens closes depth (L ^ n) := by
  induction n with
  | zero => exact one
  | succ n ih => exact ih.mul bracketed

theorem kstar (bracketed : Bracketed opens closes depth L) : Bracketed opens closes depth L∗ := by
  rw [Language.kstar_eq_iSup_pow]
  exact iSup bracketed.pow

theorem enclose {first last : ε} (opening : opens first = true ∧ closes first = false)
    (closing : opens last = false ∧ closes last = true)
    (bracketed : Bracketed opens closes depth L) :
    Bracketed opens closes (depth + 1) ({[first]} * L * {[last]}) where
  whole word member := by
    obtain ⟨_, ⟨_, rfl, inner, inside, rfl⟩, _, rfl, rfl⟩ := member
    have := bracketed.whole inner inside
    simp only [List.countP_append, List.countP_singleton, opening, closing]
    simp
    omega
  partly word later member := by
    obtain ⟨_, ⟨_, rfl, inner, inside, rfl⟩, _, rfl, same⟩ := member
    have plain := bracketed.whole inner inside
    cases word with
    | nil => simp
    | cons sign front =>
      obtain ⟨rfl, rest⟩ : first = sign ∧ inner ++ [last] = front ++ later := by simpa using same
      rw [List.countP_cons_of_pos opening.1, List.countP_cons_of_neg (by simp [opening.2])]
      rcases List.append_eq_append_iff.mp rest with ⟨more, rfl, ended⟩ | ⟨after, rfl, -⟩
      · cases more with
        | nil => simp only [List.append_nil]; omega
        | cons sign more =>
          obtain ⟨rfl, rfl, rfl⟩ : last = sign ∧ more = [] ∧ later = [] := by simpa using ended
          simp only [List.countP_append, List.countP_singleton, closing]
          simp
          omega
      · have := bracketed.partly front after inside
        omega

end Bracketed

structure Dialogue (σ ι ε : Type) where
  own : ι → σ → List ε
  grammar : ι → σ → Language ε

structure Dialogue.Fits {σ ι : Type} (D : Dialogue σ ι ε) (notes : (op : Op) → Reply op → List ε)
    (S : Scheduling Op Reply σ ι) : Prop where
  steps : ∀ {i op s reply t}, S.sem i op s reply t → D.own i t = D.own i s ++ notes op reply ∧
    (∀ j, j ≠ i → D.own j t = D.own j s) ∧ ∀ j, D.grammar j t = D.grammar j s
  begins : ∀ {i p s t}, S.begins i p s t → D.own i t = [] ∧
    Follows notes p (fun _ => D.grammar i t) ∧
      ∀ j, j ≠ i → D.own j t = D.own j s ∧ D.grammar j t = D.grammar j s
  beside : ∀ {s t}, S.beside s t → ∀ j, D.own j t = D.own j s ∧ D.grammar j t = D.grammar j s

namespace Dialogue

variable {σ ι : Type} {D : Dialogue σ ι ε} {notes : (op : Op) → Reply op → List ε}
  {S : Scheduling Op Reply σ ι}

def soFar (L : Language ε) (word : List ε) : Prop := ∃ later, word ++ later ∈ L

structure Speaks (notes : (op : Op) → Reply op → List ε) (L : Language ε)
    (p : Program Op Reply Unit) (word : List ε) : Prop where
  soFar : soFar L word
  safe : Safe (noting notes) (.alone (Dialogue.soFar L)) p (fun _ w => w ∈ L) word

theorem Speaks.of_follows {L : Language ε} {p : Program Op Reply Unit}
    (follows : Follows notes p fun _ => L) : Speaks notes L p [] := by
  obtain ⟨-, word, member⟩ := follows.nonempty
  refine ⟨⟨word, member⟩, Safe.mono ?_ (follows.safe (Dialogue.soFar L) [] ?_)⟩
  · rintro - w _ ⟨word, member, rfl⟩
    exact member
  · exact fun word later _ member => ⟨later, member⟩

theorem Speaks.ended {L : Language ε} {word : List ε} (speaks : Speaks notes L (.ret ()) word) :
    word ∈ L :=
  speaks.safe word .refl speaks.soFar

theorem Speaks.move {L : Language ε} {p rest : Program Op Reply Unit} {word word' : List ε}
    (speaks : Speaks notes L p word) (move : Move (noting notes) p word rest word') :
    Speaks notes L rest word' := by
  obtain ⟨-, soFar, safe⟩ := Safe.move speaks.soFar (fun _ _ => trivial) speaks.safe move
  exact ⟨soFar, safe⟩

theorem Fits.move (fits : D.Fits notes S) {i : ι} {p rest : Program Op Reply Unit} {s t : σ}
    (move : Move (S.sem i) p s rest t) : Move (noting notes) p (D.own i s) rest (D.own i t) ∧
      (∀ j, j ≠ i → D.own j t = D.own j s) ∧ ∀ j, D.grammar j t = D.grammar j s := by
  cases move with
  | call step =>
    obtain ⟨own, others, grammar⟩ := fits.steps step
    exact ⟨.call own, others, grammar⟩
  | unfold => exact ⟨.unfold, fun _ _ => rfl, fun _ => rfl⟩

variable [DecidableEq ι] {c d : Config Op Reply σ ι}

def Spoken (D : Dialogue σ ι ε) (notes : (op : Op) → Reply op → List ε)
    (c : Config Op Reply σ ι) : Prop :=
  ∀ i, Speaks notes (D.grammar i c.state) (c.program i) (D.own i c.state)

theorem Spoken.update {i : ι} {p : Program Op Reply Unit} {t : σ} (spoken : D.Spoken notes c)
    (own : Speaks notes (D.grammar i t) p (D.own i t))
    (others : ∀ j, j ≠ i → D.own j t = D.own j c.state ∧ D.grammar j t = D.grammar j c.state) :
    D.Spoken notes ⟨Function.update c.program i p, t⟩ := by
  intro j
  dsimp only
  by_cases same : j = i
  · subst same
    rw [Function.update_self]
    exact own
  · rw [Function.update_of_ne same, (others j same).1, (others j same).2]
    exact spoken j

theorem Spoken.step (fits : D.Fits notes S) (spoken : D.Spoken notes c) (step : S.Step c d) :
    D.Spoken notes d := by
  cases step with
  | turn turn =>
    cases turn with
    | mk i move =>
      obtain ⟨own, others, grammar⟩ := fits.move move
      apply spoken.update
      · rw [grammar]
        exact (spoken i).move own
      · exact fun j other => ⟨others j other, grammar j⟩
  | begin _ begins =>
    obtain ⟨own, follows, others⟩ := fits.begins begins
    apply spoken.update
    · rw [own]
      exact .of_follows follows
    · exact others
  | beside moved =>
    intro j
    obtain ⟨own, grammar⟩ := fits.beside moved j
    rw [own, grammar]
    exact spoken j

-- Whatever the interleaving, each thread is in the middle of a word of its own language, and at its
-- end when it has nothing more to do.
theorem Spoken.run (fits : D.Fits notes S) (start : D.Spoken notes c)
    (run : Relation.ReflTransGen S.Step c d) (i : ι) :
    soFar (D.grammar i d.state) (D.own i d.state) ∧
      (d.program i = .ret () → D.own i d.state ∈ D.grammar i d.state) := by
  have spoken : D.Spoken notes d := by
    induction run with
    | refl => exact start
    | tail _ step ih => exact ih.step fits step
  refine ⟨(spoken i).soFar, fun idle => ?_⟩
  have own := spoken i
  rw [idle] at own
  exact own.ended

end Dialogue

end Interaction
