import JustAnotherVoiceChat.ConnectionMutex
import Mathlib.Data.Nat.Digits.Defs

set_option autoImplicit false

namespace JustAnotherVoiceChat

open Binary Interaction

namespace QueryNumbers

def digitValue (c : UInt8) : Nat := c.toNat - 48

-- All of the text is decimal digits, and `value` is the number they stand for.
structure Numeral (text : CString) (value : UInt16) : Prop where
  some_digit : text.text.items ≠ []
  digits : ∀ c ∈ text.text.items, isDigit c = true
  value_eq : Nat.ofDigits 10 (text.text.items.reverse.map digitValue) = value.toNat

theorem numeral_eq (digits : Bytes) :
    numeral digits = Nat.ofDigits 10 (digits.reverse.map digitValue) := by
  rw [Nat.ofDigits_eq_foldr, List.foldr_map, List.foldr_reverse, numeral]
  congr
  funext value digit
  simp only [digitValue, Nat.cast_id]
  omega

theorem isDigit_not_isSpace {c : UInt8} (digit : isDigit c = true) : isSpace c = false := by
  simp only [isDigit, Bool.and_eq_true, decide_eq_true_eq, UInt8.le_iff_toNat_le] at digit
  simp only [isSpace, Bool.or_eq_false_iff, Bool.and_eq_false_iff, decide_eq_false_iff_not,
    ← UInt8.toNat_inj, UInt8.le_iff_toNat_le]
  have low : 48 ≤ c.toNat := digit.1
  change ¬ c.toNat = 32 ∧ (¬ 9 ≤ c.toNat ∨ ¬ c.toNat ≤ 13)
  omega

theorem signed_digits {text : Bytes} (digits : ∀ c ∈ text, isDigit c = true) :
    signed text = (false, text) := by
  cases text with
  | nil => rfl
  | cons c rest =>
    have digit : isDigit c = true := digits c (by simp)
    have minus : c ≠ 45 := fun same => by subst same; revert digit; decide
    have plus : c ≠ 43 := fun same => by subst same; revert digit; decide
    unfold signed
    split
    · rename_i same
      cases same
      exact absurd rfl minus
    · rename_i same
      cases same
      exact absurd rfl plus
    · rfl

theorem stoi_numeral {text : CString} {value : UInt16} (given : Numeral text value) :
    stoi text = .ok (value.toNat : Int) := by
  have unspaced : text.text.items.dropWhile isSpace = text.text.items := by
    cases items : text.text.items with
    | nil => rfl
    | cons c rest =>
      have digit : isDigit c = true := given.digits c (by rw [items]; simp)
      rw [List.dropWhile_cons, isDigit_not_isSpace digit]
      rfl
  have whole : text.text.items.takeWhile isDigit = text.text.items :=
    List.takeWhile_eq_self_iff.mpr given.digits
  have small : value.toNat < 2 ^ 16 := value.toNat_lt
  simp only [stoi, unspaced, signed_digits given.digits, whole, numeral_eq, given.value_eq]
  rw [if_neg given.some_digit, if_neg (by simp only [Bool.false_eq_true, if_false]; omega)]
  simp

theorem toUInt16_toNat (value : UInt16) : toUInt16 (value.toNat : Int) = value := by
  have small : value.toNat < 2 ^ 16 := value.toNat_lt
  have kept : ((value.toNat : Int) % 2 ^ 16).toNat = value.toNat := by omega
  rw [toUInt16, kept, UInt16.ofNat_toNat]

variable {ι : Type}

def connection : HttpEntry ι → Option (CString × UInt16 × UInt16)
  | ⟨_, .connect host port uniqueIdentifier, _⟩ => some (host, port, uniqueIdentifier)
  | _ => none

def answer : HttpEntry ι → Option StatusCode
  | ⟨_, .queueResponse statusCode _, _⟩ => some statusCode
  | _ => none

def foundIngame : HttpEntry ι → Bool
  | ⟨_, .isIngame, ingame⟩ => ingame
  | _ => false

def connections (entries : List (HttpEntry ι)) : List (CString × UInt16 × UInt16) :=
  entries.filterMap connection

def answers (entries : List (HttpEntry ι)) : List StatusCode := entries.filterMap answer

structure Checked (host port uid : CString) (entries : List (HttpEntry ι)) : Prop where
  connects : ∀ called ∈ connections entries,
    called.1 = host ∧ Numeral port called.2.1 ∧ Numeral uid called.2.2
  refuses : ¬ (∃ p u, Numeral port p ∧ Numeral uid u) →
    connections entries = [] ∧ answers entries = [.badRequest]

def present (host port uid : CString) : Arguments := ⟨some host, some port, some uid⟩

def Outcome (host port uid : CString) (entries : List (HttpEntry ι)) : Prop :=
  (∃ p u, stoi port = .ok p ∧ stoi uid = .ok u ∧
    connections entries = [(host, toUInt16 p, toUInt16 u)]) ∨
  ((stoi port).isOk = false ∨ (stoi uid).isOk = false) ∧
    connections entries = [] ∧ answers entries = []

def Since (w : HttpWorld ι) (claim : List (HttpEntry ι) → Prop) (t : HttpWorld ι) : Prop :=
  ∃ entries, t.trace = entries ++ w.trace ∧ claim entries

def Unconnected (entries grown : List (HttpEntry ι)) : Prop :=
  ∃ newer, grown = newer ++ entries ∧ connections newer = []

section Run

variable {arguments : Arguments} {request : ι} {w : HttpWorld ι}

theorem wp_record {α : Type} {op : HttpOp} {next : op.Reply → Handler α}
    {post : α → HttpWorld ι → Prop} {t : HttpWorld ι} {entries : List (HttpEntry ι)}
    (so_far : t.trace = entries ++ w.trace)
    (rest : ∀ reply v, Possible arguments op reply →
      v.trace = ⟨request, op, reply⟩ :: entries ++ w.trace →
      wp (requestSteps arguments request) (next reply) post v) :
    wp (requestSteps arguments request) (.call op next) post t := by
  intro reply v step
  obtain ⟨possible, grown⟩ := requestSteps_possible step
  exact rest reply v possible (by rw [grown, so_far]; rfl)

theorem wp_sendResponse {page : String} {statusCode : StatusCode} {t : HttpWorld ι}
    {entries : List (HttpEntry ι)} (so_far : t.trace = entries ++ w.trace) :
    wp (requestSteps arguments request)
      (sendResponse page statusCode >>= fun result =>
        (.ret (.ok result) : Handler (Except StoiError Int)))
      (fun _ v => Since w (Unconnected entries) v) t := by
  apply wp_record so_far
  intro response v _ so_far
  apply wp_record so_far
  intro result v _ so_far
  apply wp_record so_far
  intro _ v _ so_far
  exact ⟨_, so_far, [_, _, _], rfl, rfl⟩

theorem wp_unlock {page : String} {statusCode : StatusCode} {t : HttpWorld ι}
    {entries : List (HttpEntry ι)} (so_far : t.trace = entries ++ w.trace) :
    wp (requestSteps arguments request)
      (.call .unlock fun _ => sendResponse page statusCode >>= fun result =>
        (.ret (.ok result) : Handler (Except StoiError Int)))
      (fun _ v => Since w (Unconnected entries) v) t := by
  apply wp_record so_far
  intro _ u _ so_far
  apply wp_mono ?_ (wp_sendResponse so_far)
  intro _ v sent
  obtain ⟨grown, same, newer, split, silent⟩ := sent
  refine ⟨grown, same, newer ++ [⟨request, .unlock, ()⟩], by simp [split], ?_⟩
  rw [connections, List.filterMap_append, ← connections, silent]
  rfl

theorem wp_convert {host port uid : CString} {t : HttpWorld ι} {entries : List (HttpEntry ι)}
    (so_far : t.trace = entries ++ w.trace) (unconnected : connections entries = [])
    (unanswered : answers entries = []) :
    wp (requestSteps arguments request)
      (match stoi port, stoi uid with
      | .ok portValue, .ok identifierValue =>
        .call (.connect host (toUInt16 portValue) (toUInt16 identifierValue)) fun _ =>
          .call .connected fun (connected : Bool) =>
            if !connected then
              .call .unlock fun _ => sendResponse unableToConnect .badRequest >>= fun result =>
                .ret (.ok result)
            else
              .call .unlock fun _ =>
                sendResponse "<html><body>OK</body></html>" .ok >>= fun result =>
                .ret (.ok result)
      | .error thrown, _ => .ret (.error thrown)
      | .ok _, .error thrown => .ret (.error thrown) : Handler (Except StoiError Int))
      (fun _ v => Since w (Outcome host port uid) v) t := by
  cases convertedPort : stoi port with
  | error thrown =>
    have bad : (stoi port).isOk = false := by rw [convertedPort]; rfl
    exact ⟨entries, so_far, .inr ⟨.inl bad, unconnected, unanswered⟩⟩
  | ok portValue =>
    cases convertedUid : stoi uid with
    | error thrown =>
      have bad : (stoi uid).isOk = false := by rw [convertedUid]; rfl
      exact ⟨entries, so_far, .inr ⟨.inr bad, unconnected, unanswered⟩⟩
    | ok identifierValue =>
      apply wp_record so_far
      intro _ u _ so_far
      apply wp_record so_far
      intro connected v _ so_far
      have ends : ∀ (x : Except StoiError Int) v, Since w (Unconnected
          (⟨request, .connected, connected⟩ :: ⟨request, .connect host (toUInt16 portValue)
            (toUInt16 identifierValue), ()⟩ :: entries)) v → Since w (Outcome host port uid) v := by
        intro _ v sent
        obtain ⟨grown, same, newer, split, silent⟩ := sent
        refine ⟨grown, same, .inl ⟨_, _, convertedPort, convertedUid, ?_⟩⟩
        rw [split, connections, List.filterMap_append, ← connections, silent]
        exact congrArg (List.cons _) unconnected
      cases connected
      · exact wp_mono ends (wp_unlock so_far)
      · exact wp_mono ends (wp_unlock so_far)

theorem wp_handleRequest {host port uid : CString} (free : w.holder = none) :
    wp (requestSteps (present host port uid) request) handleRequest
      (fun _ v => Since w (fun grown => (∀ entry ∈ grown, foundIngame entry = false) →
        Outcome host port uid grown) v) w := by
  intro locked t step
  obtain ⟨isFree, so_far⟩ := step
  rw [free] at isFree
  subst isFree
  have so_far : t.trace = [⟨request, .tryLock, true⟩] ++ w.trace := by rw [so_far]; rfl
  apply wp_record so_far
  intro ingame t _ so_far
  cases ingame with
  | true =>
    apply wp_mono ?_ (wp_unlock so_far)
    intro _ v sent
    obtain ⟨grown, same, newer, split, _⟩ := sent
    have asked : (⟨request, .isIngame, true⟩ : HttpEntry ι) ∈ grown := by simp [split]
    exact ⟨grown, same, fun outside => absurd (outside _ asked) Bool.noConfusion⟩
  | false =>
    apply wp_record so_far
    intro host' t hostGiven so_far
    apply wp_record so_far
    intro port' t portGiven so_far
    apply wp_record so_far
    intro uid' t uidGiven so_far
    cases hostGiven
    cases portGiven
    cases uidGiven
    apply wp_mono ?_ (wp_convert so_far rfl rfl)
    intro _ v outcome
    obtain ⟨grown, same, outcome⟩ := outcome
    exact ⟨grown, same, fun _ => outcome⟩

end Run

theorem Outcome.checked {host port uid : CString} {entries : List (HttpEntry ι)} {p u : UInt16}
    (outcome : Outcome host port uid entries) (isPort : Numeral port p) (isUid : Numeral uid u) :
    Checked host port uid entries := by
  have convertedPort := stoi_numeral isPort
  have convertedUid := stoi_numeral isUid
  have connected : connections entries = [(host, p, u)] := by
    obtain ⟨p', u', port_eq, uid_eq, connected⟩ | ⟨failed, -, -⟩ := outcome
    · have samePort : p' = p.toNat := Except.ok.inj (port_eq.symm.trans convertedPort)
      have sameUid : u' = u.toNat := Except.ok.inj (uid_eq.symm.trans convertedUid)
      rw [connected, samePort, sameUid, toUInt16_toNat, toUInt16_toNat]
    · rw [convertedPort, convertedUid] at failed
      exact absurd failed (by simp [Except.isOk, Except.toBool])
  constructor
  · intro called member
    rw [connected, List.mem_singleton] at member
    subst member
    exact ⟨rfl, isPort, isUid⟩
  · intro unnumbered
    exact absurd ⟨p, u, isPort, isUid⟩ unnumbered

theorem Outcome.numerals {host port uid : CString} {entries : List (HttpEntry ι)}
    (outcome : Outcome host port uid entries) (checked : Checked host port uid entries) :
    ∃ p u, Numeral port p ∧ Numeral uid u := by
  by_contra unnumbered
  obtain ⟨unconnected, answered⟩ := checked.refuses unnumbered
  obtain ⟨p, u, -, -, connected⟩ | ⟨-, -, unanswered⟩ := outcome
  · rw [connected] at unconnected
    cases unconnected
  · rw [unanswered] at answered
    cases answered

end QueryNumbers

open QueryNumbers

/-- A request that names a host, a port and an identifier, comes while the lock is free and finds
the client not in-game keeps to the numbers of its query exactly when both of them are numerals of
values that fit into 16 bits. -/
theorem handleRequest_checked {ι : Type} (host port uid : CString) (request : ι)
    (w w' : HttpWorld ι) (result : Except StoiError Int) (entries : List (HttpEntry ι))
    (free : w.holder = none)
    (run : Exec (requestSteps (present host port uid) request) handleRequest w result w')
    (made : w'.trace = entries ++ w.trace)
    (notIngame : ∀ entry ∈ entries, foundIngame entry = false) :
    Checked host port uid entries ↔ ∃ p u, Numeral port p ∧ Numeral uid u := by
  obtain ⟨grown, same, outcome⟩ := run.wp (wp_handleRequest free)
  have grown_eq : grown = entries := List.append_cancel_right (same.symm.trans made)
  subst grown_eq
  have outcome := outcome notIngame
  constructor
  · intro checked
    exact outcome.numerals checked
  · intro numerals
    obtain ⟨p, u, isPort, isUid⟩ := numerals
    exact outcome.checked isPort isUid

namespace QueryNumbers

theorem take_length (text : Bytes) : (text.take 8).length < 2 ^ 64 := by
  rw [List.length_take]
  omega

def word (text : Bytes) : CString := cStr ⟨text.take 8, take_length text⟩

def handled (port : CString) : HttpWorld Bool :=
  ((runWith (answerRequest (present (word [104]) port (word [49])) false) 20 handleRequest
    (.initial Bool)).map (·.2)).getD (.initial Bool)

theorem handled_exec (port : CString) (ended : (runWith (answerRequest
      (present (word [104]) port (word [49])) false) 20 handleRequest
      (.initial Bool)).isSome = true) :
    ∃ result, Exec (requestSteps (present (word [104]) port (word [49])) false) handleRequest
      (.initial Bool) result (handled port) := by
  obtain ⟨⟨result, w⟩, run⟩ := Option.isSome_iff_exists.mp ended
  have last : handled port = w := by simp [handled, run]
  rw [last]
  exact ⟨result, Exec.of_runWith (answerRequest_sound _ false) run⟩

theorem numeral_one : Numeral (word [49]) 1 :=
  ⟨by decide, List.all_eq_true.mp (by decide), (numeral_eq _).symm.trans (by decide)⟩

def eighty : Bytes := [56, 48]

theorem numeral_eighty : Numeral (word eighty) 80 :=
  ⟨by decide, List.all_eq_true.mp (by decide), (numeral_eq _).symm.trans (by decide)⟩

def suffixed : Bytes := [56, 48, 97, 98, 99]

-- `65616`, which is `80 + 65536`
def wrapped : Bytes := [54, 53, 54, 49, 54]

def unread : Bytes := [120]

end QueryNumbers

theorem handleRequest_checked_eighty :
    Checked (word [104]) (word eighty) (word [49]) (handled (word eighty)).trace := by
  obtain ⟨result, run⟩ := handled_exec (word eighty) (by decide)
  have iff := handleRequest_checked (word [104]) (word eighty) (word [49]) false (.initial Bool)
    (handled (word eighty)) result (handled (word eighty)).trace rfl run
    (List.append_nil _).symm (by decide)
  exact iff.mpr ⟨80, 1, numeral_eighty, numeral_one⟩

namespace QueryNumbers

theorem not_numeral {text : CString} (bad : (∃ c ∈ text.text.items, isDigit c = false) ∨
    2 ^ 16 ≤ numeral text.text.items) (value : UInt16) :
    ¬ Numeral text value := by
  intro given
  obtain ⟨c, member, nondigit⟩ | large := bad
  · rw [given.digits c member] at nondigit
    cases nondigit
  · rw [numeral_eq, given.value_eq] at large
    have small : value.toNat < 2 ^ 16 := value.toNat_lt
    omega

def Unchecked (port : CString) (calls : List (CString × UInt16 × UInt16))
    (replies : List StatusCode) : Prop :=
  ∃ result w, Exec (requestSteps (present (word [104]) port (word [49])) false) handleRequest
    (.initial Bool) result w ∧ (∀ entry ∈ w.trace, foundIngame entry = false) ∧
    connections w.trace = calls ∧ answers w.trace = replies ∧
    ¬ Checked (word [104]) port (word [49]) w.trace

end QueryNumbers

-- With the port `80abc` or `65616` the request connects to the port 80, and with the port `x` it is
-- not answered.
theorem handleRequest_unchecked :
    Unchecked (word suffixed) [(word [104], 80, 1)] [.ok] ∧
    Unchecked (word wrapped) [(word [104], 80, 1)] [.ok] ∧
    Unchecked (word unread) [] [] := by
  refine ⟨?_, ?_, ?_⟩
  · obtain ⟨result, run⟩ := handled_exec (word suffixed) (by decide)
    refine ⟨result, _, run, by decide, by decide, by decide, fun checked => ?_⟩
    have called := checked.connects (word [104], 80, 1) (by decide)
    exact not_numeral (.inl ⟨97, by decide, by decide⟩) 80 called.2.1
  · obtain ⟨result, run⟩ := handled_exec (word wrapped) (by decide)
    refine ⟨result, _, run, by decide, by decide, by decide, fun checked => ?_⟩
    have called := checked.connects (word [104], 80, 1) (by decide)
    exact not_numeral (.inr (by decide)) 80 called.2.1
  · obtain ⟨result, run⟩ := handled_exec (word unread) (by decide)
    refine ⟨result, _, run, by decide, by decide, by decide, fun checked => ?_⟩
    have unnumbered : ¬ ∃ p u, Numeral (word unread) p ∧ Numeral (word [49]) u := by
      intro numerals
      obtain ⟨p, u, isPort, -⟩ := numerals
      exact not_numeral (.inl ⟨120, by decide, by decide⟩) p isPort
    have refused : answers (handled (word unread)).trace = [.badRequest] :=
      (checked.refuses unnumbered).2
    revert refused
    decide

end JustAnotherVoiceChat
