import JustAnotherVoiceChat.Scenario

set_option autoImplicit false

namespace JustAnotherVoiceChat

open Binary Interaction

def World.nickname (w : World) : CString :=
  (w.teamspeak w.memory.wrapper.serverConnectionHandler).selfString .nickname

def Entry.unread : Entry → Bool
  | ⟨_, .teamspeak (.getClientSelfVariableAsString _ .nickname), none⟩ => true
  | _ => false

theorem cStr_text (name : CString) : cStr name.text = name := by
  obtain ⟨text, no_nul⟩ := name
  have whole : text.items.takeWhile (· ≠ 0) = text.items := by
    rw [List.takeWhile_eq_self_iff]
    intro c member
    have other : c ≠ 0 := by
      rintro rfl
      exact no_nul member
    simpa using other
  have same : (cStr text).text = text := Sized.ext whole
  cases shape : cStr text with
  | mk text' no_nul' =>
    rw [shape] at same
    subst same
    rfl

-- The nickname to come back to: the saved one, or the one that is still there.
structure Renameable (base : CString) (w : World) : Prop where
  handle : w.memory.wrapper.serverConnectionHandler ≠ 0
  named : w.nickname.text ≠ .empty
  unsaved : w.memory.wrapper.originalNickname = .empty → w.nickname = base
  saved : w.memory.wrapper.originalNickname ≠ .empty →
    w.memory.wrapper.originalNickname = base.text

section Renaming

variable {self : ThreadId} {env : Environment} {w : World} {base : CString}

theorem Renameable.saved_name (renameable : Renameable base w) :
    (if w.memory.wrapper.originalNickname = .empty then w.nickname.text
      else w.memory.wrapper.originalNickname) = base.text := by
  split
  · rename_i unsaved
    rw [renameable.unsaved unsaved]
  · rename_i saved
    exact renameable.saved saved

theorem Renameable.base_ne (renameable : Renameable base w) : base.text ≠ .empty := by
  rw [← renameable.saved_name]
  split
  · exact renameable.named
  · assumption

theorem Renameable.of_saved {u : World} (renameable : Renameable base w)
    (handle : u.memory.wrapper.serverConnectionHandler ≠ 0) (named : u.nickname.text ≠ .empty)
    (saved : u.memory.wrapper.originalNickname = base.text) : Renameable base u where
  handle := handle
  named := named
  unsaved unsaved := absurd (saved.symm.trans unsaved) renameable.base_ne
  saved _ := saved

def World.staged (w : World) (self : ThreadId) (value : CString) (ok : Bool) : World :=
  let handle := w.memory.wrapper.serverConnectionHandler
  (w.request handle (·.stageString .nickname value) ok).asked self
    (.setClientSelfVariableAsString handle .nickname value) ok

def World.flushed (w : World) (self : ThreadId) (ok : Bool) : World :=
  let handle := w.memory.wrapper.serverConnectionHandler
  (w.request handle Connection.flush ok).asked self (.flushClientSelfUpdates handle) ok

theorem staged_nickname (value : CString) (ok : Bool) :
    (w.staged self value ok).nickname = w.nickname := by
  cases ok with
  | false => rfl
  | true => simp [World.staged, World.nickname, accepted, TeamSpeak.on, Connection.stageString]

theorem flushed_nickname (value : CString) (ok : Bool) :
    ((w.staged self value true).flushed self ok).nickname = if ok then value else w.nickname := by
  cases ok with
  | false =>
    change (w.staged self value true).nickname = w.nickname
    exact staged_nickname value true
  | true =>
    simp [World.staged, World.flushed, World.nickname, accepted, TeamSpeak.on,
      Connection.stageString, Connection.flush]

theorem wp_stageNickname (renameable : Renameable base w)
    (saved : w.memory.wrapper.originalNickname = base.text) (value : CString) :
    wp (steps self env) (do
      if !(← teamspeak (.setClientSelfVariableAsString (← wrapper).serverConnectionHandler .nickname
          value)) then
        return false
      teamspeak (.flushClientSelfUpdates (← wrapper).serverConnectionHandler))
      (fun result u => Renameable base u ∧ u.memory = w.memory ∧
        (result = true → u.nickname = value) ∧
        ∃ answers, u.trace = answers ++ w.trace ∧ answers.any Entry.unread = false) w := by
  simp only [wp_bind, wp_wrapper, wp_ite, Program.pure_eq, wp_ret, wp_setClientSelfVariableAsString]
  intro ok _ nonempty
  change if _ then _ else wp _ _ _ (w.staged self value ok)
  cases ok with
  | false =>
    refine ⟨renameable.of_saved renameable.handle ?_ saved, rfl, by simp, [_], rfl, rfl⟩
    change (w.staged self value false).nickname.text ≠ .empty
    rw [staged_nickname]
    exact renameable.named
  | true =>
    simp only [Bool.not_true, Bool.false_eq_true, if_false, wp_flushClientSelfUpdates]
    intro ok' _
    change Renameable base ((w.staged self value true).flushed self ok') ∧ _
    have named : ((w.staged self value true).flushed self ok').nickname.text ≠ .empty := by
      rw [flushed_nickname]
      cases ok' with
      | false => exact renameable.named
      | true => exact nonempty rfl trivial
    refine ⟨renameable.of_saved renameable.handle named saved, rfl, fun flushed => ?_, [_, _], rfl,
      rfl⟩
    subst flushed
    exact flushed_nickname value true

theorem wp_ts3SetNickname (renameable : Renameable base w) (nickname : StdString) :
    wp (steps self env) (ts3SetNickname nickname) (fun _ u => ∃ answers,
      u.trace = answers ++ w.trace ∧
      Renameable (if answers.any Entry.unread then w.nickname else base) u) w := by
  unfold ts3SetNickname setOriginalNickname
  rw [wp_bind, wp_wrapper, wp_ite, if_neg renameable.handle, wp_bind, wp_wrapper, wp_bind,
    wp_getClientSelfVariableAsString]
  rintro (_ | current) - told
  · simp only [wp_bind, wp_setWrapper, Program.pure_eq, wp_ret]
    refine ⟨[_], rfl, ?_⟩
    simp only [List.any_cons, Entry.unread, Bool.true_or, if_true]
    exact ⟨renameable.handle, renameable.named, fun _ => rfl, fun saved => absurd rfl saved⟩
  have name : current.contents = w.nickname := told current rfl
  let read : Entry := ⟨self, .teamspeak (.getClientSelfVariableAsString
    w.memory.wrapper.serverConnectionHandler .nickname), some current⟩
  have renamed (v : World) (handle : v.memory.wrapper.serverConnectionHandler ≠ 0)
      (named : v.nickname = w.nickname) (saved : v.memory.wrapper.originalNickname = base.text)
      (trace : v.trace = read :: w.trace) : wp (steps self env) (do
        if !(← teamspeak (.setClientSelfVariableAsString (← wrapper).serverConnectionHandler
            .nickname (cStr nickname))) then
          return false
        teamspeak (.flushClientSelfUpdates (← wrapper).serverConnectionHandler)) (fun _ u =>
          ∃ answers, u.trace = answers ++ w.trace ∧
            Renameable (if answers.any Entry.unread then w.nickname else base) u) v := by
    have ready : Renameable base v := renameable.of_saved handle (named ▸ renameable.named) saved
    refine wp_mono ?_ (wp_stageNickname ready saved (cStr nickname))
    rintro _ u ⟨after, -, -, answers, trace', quiet⟩
    refine ⟨answers ++ [read], by rw [trace', trace]; simp, ?_⟩
    have known : (answers ++ [read]).any Entry.unread = false := by
      rw [List.any_append, quiet]
      rfl
    rw [known]
    exact after
  dsimp only
  rw [wp_ite]
  split
  · exact ⟨[read], rfl, renameable.handle, renameable.named, renameable.unsaved, renameable.saved⟩
  rw [wp_bind, wp_wrapper, wp_ite]
  split
  · rename_i unsaved
    rw [wp_bind, wp_setWrapper]
    refine renamed _ renameable.handle rfl ?_ rfl
    rw [World.setWrapper_wrapper, name, renameable.unsaved unsaved]
  · rename_i saved
    exact renamed _ renameable.handle rfl (renameable.saved saved) rfl

theorem wp_ts3ResetNickname (renameable : Renameable base w) :
    wp (steps self env) ts3ResetNickname (fun result u => result = true →
      u.nickname = base ∧ u.memory.wrapper.originalNickname = .empty ∧
        u.memory.wrapper.serverConnectionHandler ≠ 0) w := by
  unfold ts3ResetNickname setOriginalNickname
  rw [wp_bind, wp_wrapper, wp_ite, if_neg renameable.handle, wp_bind, wp_wrapper, wp_ite]
  split
  · rename_i unsaved
    intro _
    exact ⟨renameable.unsaved unsaved, unsaved, renameable.handle⟩
  rename_i saved
  have name : cStr w.memory.wrapper.originalNickname = base := by
    rw [renameable.saved saved, cStr_text]
  simp only [wp_bind, wp_wrapper, wp_ite, Program.pure_eq, wp_ret, wp_setClientSelfVariableAsString]
  intro ok _ _
  change if _ then _ else wp _ _ _ (w.staged self (cStr w.memory.wrapper.originalNickname) ok)
  cases ok with
  | false => simp
  | true =>
    simp only [Bool.not_true, Bool.false_eq_true, if_false, wp_flushClientSelfUpdates]
    intro ok' _
    cases ok' with
    | false => simp
    | true =>
      simp only [Bool.not_true, Bool.false_eq_true, if_false, wp_setWrapper]
      intro _
      refine ⟨?_, rfl, renameable.handle⟩
      exact (flushed_nickname (cStr w.memory.wrapper.originalNickname) true).trans name

end Renaming

structure Unrenamed (w : World) : Prop where
  handle : w.memory.wrapper.serverConnectionHandler ≠ 0
  unsaved : w.memory.wrapper.originalNickname = .empty
  named : w.nickname.text ≠ .empty

structure SameName (w u : World) : Prop where
  handle : u.memory.wrapper.serverConnectionHandler = w.memory.wrapper.serverConnectionHandler
  original : u.memory.wrapper.originalNickname = w.memory.wrapper.originalNickname
  nickname : u.nickname = w.nickname

-- Renames from `start`, whatever TeamSpeak answers; `base` is the nickname at the last of them that
-- could not read it, or else the first one.
inductive Renames (caller : ThreadId) (env : Environment) (start : World) :
    CString → World → Prop where
  | start : Renames caller env start start.nickname start
  | rename {base : CString} {w u : World} (before : Renames caller env start base w)
      (nickname : StdString) (result : Bool) (answers : List Entry)
      (step : Exec (steps caller env) (ts3SetNickname nickname) w result u)
      (trace : u.trace = answers ++ w.trace) :
      Renames caller env start (if answers.any Entry.unread then w.nickname else base) u
  | other {base : CString} {w u : World} (before : Renames caller env start base w)
      (same : SameName w u) : Renames caller env start base u

section Runs

variable {caller : ThreadId} {env : Environment} {start w : World} {base : CString}

theorem Unrenamed.renameable (unrenamed : Unrenamed start) : Renameable start.nickname start where
  handle := unrenamed.handle
  named := unrenamed.named
  unsaved _ := rfl
  saved saved := absurd unrenamed.unsaved saved

theorem Renames.renameable (unrenamed : Unrenamed start)
    (renames : Renames caller env start base w) : Renameable base w := by
  induction renames with
  | start => exact unrenamed.renameable
  | rename before nickname result answers step trace ih =>
    obtain ⟨told, trace', renameable⟩ := step.wp (wp_ts3SetNickname ih nickname)
    have same : answers = told := List.append_cancel_right (trace.symm.trans trace')
    rw [same]
    exact renameable
  | other before same ih =>
    refine ⟨same.handle ▸ ih.handle, same.nickname ▸ ih.named, fun unsaved => ?_, fun saved => ?_⟩
    · exact same.nickname.trans (ih.unsaved (same.original.symm.trans unsaved))
    · exact same.original.trans (ih.saved (same.original ▸ saved))

/-- After any renames, a reset that returns true has restored the first nickname exactly when the
last call that could not read the nickname, if there was one, came while it was the first one. -/
theorem ts3ResetNickname_restores (caller : ThreadId) (env : Environment) (start w u : World)
    (base : CString) (unrenamed : Unrenamed start) (renames : Renames caller env start base w)
    (reset : Exec (steps caller env) ts3ResetNickname w true u) :
    (u.nickname = start.nickname ∧ Unrenamed u) ↔ base = start.nickname := by
  have renameable := renames.renameable unrenamed
  obtain ⟨name, unsaved, handle⟩ := reset.wp (wp_ts3ResetNickname renameable) rfl
  rw [name]
  constructor
  · rintro ⟨same, -⟩
    exact same
  · intro same
    exact ⟨same, handle, unsaved, name ▸ renameable.base_ne⟩

end Runs

theorem letter_length (c : UInt8) : [c].length < 2 ^ 64 := by simp

def letter (c : UInt8) : StdString := ⟨[c], letter_length c⟩

def firstName : CString := cStr (letter 65)

def World.firstNamed : World :=
  { World.idle with
    memory := { World.idle.memory with wrapper := ⟨1, .empty, .empty⟩ }
    teamspeak := fun _ => { Connection.idle with selfString := fun _ => firstName } }

def readable : Replies := ⟨obliging [1] .empty, connecting 1, lone 1⟩

def unreadable : Replies where
  teamspeak
    | .getClientSelfVariableAsString _ .nickname, _ => none
    | call, w => obliging [1] .empty call w
  enet := connecting 1
  thread := lone 1

def renamed : World := ranPlugin 1 readable (ts3SetNickname (letter 66)) .firstNamed

theorem exec_renamed : Exec (steps 1 .any) (ts3SetNickname (letter 66)) .firstNamed true renamed :=
  exec_ranPlugin (Replies.within_any _) (by decide)

theorem firstNamed_unrenamed : Unrenamed .firstNamed := ⟨by decide, rfl, by decide⟩

theorem renames_renamed : Renames 1 .any .firstNamed World.firstNamed.nickname renamed :=
  .rename .start (letter 66) true renamed.trace exec_renamed (List.append_nil _).symm

theorem ts3ResetNickname_restores_first :
    (ranPlugin 1 readable ts3ResetNickname renamed).nickname = World.firstNamed.nickname ∧
      Unrenamed (ranPlugin 1 readable ts3ResetNickname renamed) :=
  (ts3ResetNickname_restores 1 .any .firstNamed renamed _ _ firstNamed_unrenamed renames_renamed
    (exec_ranPlugin (Replies.within_any _) (by decide))).mpr rfl

def misread : World := ranPlugin 1 unreadable (ts3SetNickname (letter 67)) renamed

theorem exec_misread : Exec (steps 1 .any) (ts3SetNickname (letter 67)) renamed false misread :=
  exec_ranPlugin (Replies.within_any _) (by decide)

-- A rename that cannot read the nickname forgets the saved one.
theorem ts3ResetNickname_forgotten : ¬ ∀ (caller : ThreadId) (env : Environment)
    (start w u : World) (base : CString), Unrenamed start → Renames caller env start base w →
      Exec (steps caller env) ts3ResetNickname w true u →
        u.nickname = start.nickname ∧ Unrenamed u := by
  intro claimed
  have renames := renames_renamed.rename (letter 67) false (misread.trace.take 1) exec_misread rfl
  have restored := (claimed 1 .any .firstNamed misread
    (ranPlugin 1 readable ts3ResetNickname misread) _ firstNamed_unrenamed renames
    (exec_ranPlugin (Replies.within_any _) (by decide))).1
  revert restored
  decide

end JustAnotherVoiceChat
