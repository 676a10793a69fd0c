import JustAnotherVoiceChat.ConnectionMutex
import JustAnotherVoiceChat.Library.Ending
import JustAnotherVoiceChat.Waiting

set_option autoImplicit false

namespace JustAnotherVoiceChat

open Binary Interaction Relation

namespace Serving

inductive Stage where
  | serving
  | closed
  | disconnecting
  | deleting
deriving DecidableEq

structure Ids (ι : Type) where
  request : ι → ThreadId
  host : ThreadId

structure Server (ι : Type) where
  requests : Config HttpOp HttpOp.Reply (HttpWorld ι) ι
  client : Threads
  stage : Stage

variable {ι : Type} [DecidableEq ι]

namespace Server

def Allows (c : Server ι) (i : ι) : Prop :=
  match c.requests.program i with
  | .call .enter _ => c.stage = .serving
  | .call .connected _ => c.client.program .caller = .ret ()
  | _ => True

def called (ids : Ids ι) (c : Server ι) (i : ι) : Threads :=
  match c.requests.program i with
  | .call (.connect host port uniqueIdentifier) _ =>
    c.client.call (ids.request i) (discard (connect host.text port uniqueIdentifier))
  | _ => c.client

def Outside (c : Server ι) (i : ι) : Prop :=
  c.requests.program i = serve ∨ c.requests.program i = .ret ()

end Server

inductive Step (arguments : ι → Arguments) (ids : Ids ι) : Server ι → Server ι → Prop where
  | request {c : Server ι} (i : ι) {rest : Handler Unit} {w : HttpWorld ι} (allows : c.Allows i)
      (move : Move (requestSteps (arguments i) i) (c.requests.program i) c.requests.state rest w) :
      Step arguments ids c { c with
        requests := ⟨Function.update c.requests.program i rest, w⟩
        client := c.called ids i }
  -- a thread that the client starts is none of the others
  | client {c : Server ι} {d : Threads} (step : c.client.Step d)
      (requests : ∀ i, d.state.world.phase (ids.request i) = .unborn)
      (host : d.state.world.phase ids.host = .unborn) :
      Step arguments ids c { c with client := d }
  -- `MHD_stop_daemon` waits for the requests
  | close {c : Server ι} (serving : c.stage = .serving) (outside : ∀ i, c.Outside i) :
      Step arguments ids c { c with stage := .closed }
  | disconnect {c : Server ι} (closed : c.stage = .closed) :
      Step arguments ids c { c with
        stage := .disconnecting
        client := c.client.call ids.host (disconnect disconnectStatusOk) }
  | delete {c : Server ι} (disconnecting : c.stage = .disconnecting)
      (returned : c.client.program .caller = .ret ()) :
      Step arguments ids c { c with
        stage := .deleting
        client := c.client.call ids.host close }

structure Fresh (c : Server ι) : Prop where
  requests : c.requests = Requests.initial ι
  client : c.client.Fresh
  stage : c.stage = .serving

def Reached (arguments : ι → Arguments) (ids : Ids ι) (c : Server ι) : Prop :=
  ∃ start, Fresh start ∧ ReflTransGen (Step arguments ids) start c

theorem connecting_after {p : Progress} {op : HttpOp} (reply : op.Reply)
    (paired : isReturn op = p.connecting) : (p.after op reply).connecting = isCall op := by
  cases op with
  | leave thrown => exact paired.symm
  | connect | connected => rfl
  | _ => exact paired.symm

section Reached

variable {arguments : ι → Arguments} {ids : Ids ι} {c d : Server ι}

structure Fits (arguments : ι → Arguments) (ids : Ids ι) (c : Server ι) : Prop where
  requests : Requests.Reachable arguments c.requests
  keeping : ∀ i, Keeping (arguments i) (c.requests.program i) (point i c.requests.state.trace)
  client : Threads.Reached (decide (c.stage = .serving)) c.client
  apart : ∀ i, c.client.state.world.phase (ids.request i) = .unborn
  host : c.client.state.world.phase ids.host = .unborn
  calling : c.stage = .serving → c.client.program .caller ≠ .ret () →
    ∃ i, (progress i c.requests.state.trace).connecting = true
  closed : c.stage = .closed → c.client.program .caller = .ret ()
  outside : c.stage ≠ .serving → ∀ i, c.Outside i

theorem Fits.idle_of_call (fits : Fits arguments ids c) {i : ι} {host : CString}
    {port uniqueIdentifier : UInt16} {next : Unit → Handler Unit} (serving : c.stage = .serving)
    (head : c.requests.program i = .call (.connect host port uniqueIdentifier) next) :
    c.client.program .caller = .ret () := by
  by_contra busy
  obtain ⟨j, connecting⟩ := fits.calling serving busy
  have move : Move (requestSteps (arguments i) i) (c.requests.program i) c.requests.state (next ())
      (c.requests.state.record i (.connect host port uniqueIdentifier) ()) := by
    rw [head]
    exact .call rfl
  have lawful := (mutexInv_reachable (fits.requests.tail (.mk i move))).lawful
  have none : (progress j c.requests.state.trace).connecting = false := lawful.1 j
  rw [none] at connecting
  cases connecting

theorem Fits.serving (fits : Fits arguments ids c) {i : ι} {rest : Handler Unit} {w : HttpWorld ι}
    (allows : c.Allows i)
    (move : Move (requestSteps (arguments i) i) (c.requests.program i) c.requests.state rest w) :
    c.stage = .serving := by
  by_contra closed
  rcases fits.outside closed i with ready | done
  · rw [Server.Allows, ready] at allows
    exact closed allows
  · rw [done] at move
    cases move

omit [DecidableEq ι] in
theorem called_cases (ids : Ids ι) (c : Server ι) (i : ι) : c.called ids i = c.client ∨
    ∃ host port uniqueIdentifier next,
      c.requests.program i = .call (.connect host port uniqueIdentifier) next ∧
      c.called ids i =
        c.client.call (ids.request i) (discard (connect host.text port uniqueIdentifier)) := by
  unfold Server.called
  split
  · rename_i head
    exact .inr ⟨_, _, _, _, head, rfl⟩
  · exact .inl rfl

omit [DecidableEq ι] in
theorem called_phase (ids : Ids ι) (c : Server ι) (i : ι) :
    (c.called ids i).state.world.phase = c.client.state.world.phase := by
  rcases called_cases ids c i with same | ⟨_, _, _, _, -, same⟩
  · rw [same]
  · rw [same]
    rfl

theorem calling_of_request (fits : Fits arguments ids c) {i : ι} {rest : Handler Unit}
    {w : HttpWorld ι} (allows : c.Allows i)
    (move : Move (requestSteps (arguments i) i) (c.requests.program i) c.requests.state rest w)
    (serving : c.stage = .serving) (busy : (c.called ids i).program .caller ≠ .ret ()) :
    ∃ j, (progress j w.trace).connecting = true := by
  have keeping := fits.keeping i
  cases head : c.requests.program i with
  | ret value =>
    rw [head] at move
    cases move
  | iterate body next =>
    rw [head] at keeping
    cases keeping
  | call op next =>
    rw [head] at keeping move
    have paired : isReturn op = (progress i c.requests.state.trace).connecting := keeping.1
    cases move with
    | call step =>
      have trace := (requestSteps_possible step).2
      have own : (progress i w.trace).connecting = isCall op := by
        rw [trace, progress_own, connecting_after _ paired]
      by_cases calls : isCall op = true
      · exact ⟨i, own.trans calls⟩
      have same : c.called ids i = c.client := by
        rcases called_cases ids c i with same | ⟨_, _, _, _, called, -⟩
        · exact same
        · obtain ⟨rfl, -⟩ := Program.call.inj (head.symm.trans called)
          exact absurd rfl calls
      rw [same] at busy
      obtain ⟨j, connecting⟩ := fits.calling serving busy
      by_cases mine : i = j
      · subst mine
        have returning : isReturn op = true := paired.trans connecting
        have returns : op = .connected := by
          cases op <;> first | rfl | cases returning
        subst returns
        rw [Server.Allows, head] at allows
        exact absurd allows busy
      · exact ⟨j, by rw [trace, progress_other mine, connecting]⟩

theorem Fits.of_request (fits : Fits arguments ids c) (i : ι) {rest : Handler Unit}
    {w : HttpWorld ι} (allows : c.Allows i)
    (move : Move (requestSteps (arguments i) i) (c.requests.program i) c.requests.state rest w) :
    Fits arguments ids { c with
      requests := ⟨Function.update c.requests.program i rest, w⟩
      client := c.called ids i } := by
  have serving := fits.serving allows move
  have phase := called_phase ids c i
  refine ⟨fits.requests.tail (.mk i move), fun j => ?_, ?_, fun j => ?_, ?_, fun _ busy => ?_,
    fun closed => ?_, fun closed => absurd serving closed⟩
  · by_cases mine : j = i
    · subst mine
      simpa using (fits.keeping j).move move
    · simpa [Function.update_of_ne mine, move_other move (Ne.symm mine)] using fits.keeping j
  · rcases called_cases ids c i with same | ⟨host, port, uniqueIdentifier, next, head, same⟩
    · rw [same]
      exact fits.client
    · have reached : Threads.Reached true c.client := by simpa [serving] using fits.client
      have free : c.client.Free (ids.request i) := ⟨fits.idle_of_call serving head, fits.apart i⟩
      simpa [same, serving] using reached.connect _ free host.text port uniqueIdentifier
  · rw [phase]
    exact fits.apart j
  · rw [phase]
    exact fits.host
  · exact calling_of_request fits allows move serving busy
  · cases serving.symm.trans closed

theorem idle_step {c d : Threads} (step : c.Step d) (idle : c.program .caller = .ret ()) :
    d.program .caller = .ret () := by
  cases step with
  | elsewhere => exact idle
  | turn turn =>
    cases turn with
    | mk party move =>
      by_cases mine : party = .caller
      · subst mine
        rw [idle] at move
        cases move
      · simpa [Function.update_of_ne (Ne.symm mine)] using idle

theorem Fits.of_client (fits : Fits arguments ids c) {d : Threads} (step : c.client.Step d)
    (requests : ∀ i, d.state.world.phase (ids.request i) = .unborn)
    (host : d.state.world.phase ids.host = .unborn) :
    Fits arguments ids { c with client := d } := by
  refine ⟨fits.requests, fits.keeping, fits.client.step step, requests, host,
    fun serving busy => ?_,
    fun closed => idle_step step (fits.closed closed), fits.outside⟩
  exact fits.calling serving fun idle => busy (idle_step step idle)

theorem Fits.idle_of_outside (fits : Fits arguments ids c) (serving : c.stage = .serving)
    (outside : ∀ i, c.Outside i) : c.client.program .caller = .ret () := by
  by_contra busy
  obtain ⟨i, connecting⟩ := fits.calling serving busy
  have keeping := fits.keeping i
  rcases outside i with ready | done
  · rw [ready] at keeping
    cases keeping.1.trans connecting
  · rw [done] at keeping
    cases keeping.symm.trans connecting

theorem Fits.step (fits : Fits arguments ids c) (step : Step arguments ids c d) :
    Fits arguments ids d := by
  cases step with
  | request i allows move => exact fits.of_request i allows move
  | client step requests host => exact fits.of_client step requests host
  | close serving outside =>
    have idle := fits.idle_of_outside serving outside
    have reached : Threads.Reached true c.client := by simpa [serving] using fits.client
    exact ⟨fits.requests, fits.keeping, reached.stop idle, fits.apart, fits.host, nofun,
      fun _ => idle, fun _ => outside⟩
  | disconnect closed =>
    have reached : Threads.Reached false c.client := by simpa [closed] using fits.client
    exact ⟨fits.requests, fits.keeping,
      reached.disconnect _ ⟨fits.closed closed, fits.host⟩ disconnectStatusOk,
      fits.apart, fits.host,
      nofun, nofun, fun _ => fits.outside (by simp [closed])⟩
  | delete disconnecting returned =>
    have reached : Threads.Reached false c.client := by simpa [disconnecting] using fits.client
    exact ⟨fits.requests, fits.keeping, reached.destroy _ ⟨returned, fits.host⟩,
      fits.apart, fits.host,
      nofun, nofun, fun _ => fits.outside (by simp [disconnecting])⟩

theorem Fresh.fits (fresh : Fresh c) : Fits arguments ids c := by
  have idle := fresh.client.idle
  refine ⟨?_, fun i => ?_, ?_, fun i => fresh.client.unborn _, fresh.client.unborn _,
    fun _ busy => absurd idle busy, fun _ => idle, fun closed => absurd fresh.stage closed⟩
  · rw [fresh.requests]
    exact .refl
  · rw [fresh.requests]
    exact keeping_serve
  · rw [fresh.stage]
    exact .start fresh.client

theorem Reached.fits (reached : Reached arguments ids c) : Fits arguments ids c := by
  obtain ⟨start, fresh, run⟩ := reached
  induction run with
  | refl => exact fresh.fits
  | tail _ step ih => exact ih.step step

end Reached

structure InTurn (c : Server ι) : Prop where
  requests : ∀ i host port uniqueIdentifier next,
    c.requests.program i = .call (.connect host port uniqueIdentifier) next →
    c.client.program .caller = .ret ()
  host : c.stage = .closed → c.client.program .caller = .ret ()
  outside : c.stage ≠ .serving → ∀ i, c.Outside i
  client : Threads.Reached (decide (c.stage = .serving)) c.client
  goes : c.client.program .caller = .ret () ∨ c.client.CanGo .caller ∨
    ∃ id, c.client.Awaits id ∧ c.client.CanGo (.updater id)

def asking : Unit → Arguments := fun _ => query 55

def ids : Ids Unit := ⟨fun _ => 0, 0⟩

def Server.at (p : Handler Unit) (w : HttpWorld Unit) : Server Unit :=
  ⟨⟨fun _ => p, w⟩, Threads.idle, .serving⟩

def within : Semantics HttpOp HttpOp.Reply (HttpWorld Unit) := fun op w reply w' =>
  (isCall op = false ∧ isReturn op = false) ∧ requestSteps (query 55) () op w reply w'

theorem at_step {p q : Handler Unit} {w v : HttpWorld Unit} (move : Move within p w q v) :
    Step asking ids (.at p w) (.at q v) := by
  cases move with
  | @call op next _ _ reply step =>
    obtain ⟨inside, step⟩ := step
    have allows : (Server.at (.call op next) w).Allows () := by
      cases op with
      | connected => cases inside.2
      | enter => exact rfl
      | _ => trivial
    have same : (Server.at (.call op next) w).called ids () = Threads.idle := by
      cases op with
      | connect => cases inside.1
      | _ => rfl
    have moved : Step asking ids (.at (.call op next) w) _ := .request () allows (.call step)
    rw [same] at moved
    exact moved
  | unfold => exact .request () trivial .unfold

theorem at_steps {p q : Handler Unit} {w v : HttpWorld Unit} (moves : Moves within p w q v) :
    ReflTransGen (Step asking ids) (.at p w) (.at q v) := by
  induction moves with
  | refl => exact .refl
  | head move _ ih => exact .head (at_step move) ih

def answerWithin (op : HttpOp) (w : HttpWorld Unit) : Option (op.Reply × HttpWorld Unit) :=
  if isCall op || isReturn op then none else answerRequest (query 55) () op w

theorem answerWithin_sound (op : HttpOp) (w : HttpWorld Unit) (reply : op.Reply)
    (w' : HttpWorld Unit) (answered : answerWithin op w = some (reply, w')) :
    within op w reply w' := by
  unfold answerWithin at answered
  split at answered
  · cases answered
  · rename_i inside
    exact ⟨by simpa using inside, answerRequest_sound _ _ _ _ _ _ answered⟩

def calling : Handler Unit × HttpWorld Unit := advance answerWithin 6 serve (.initial Unit)

theorem reached_calling : Reached asking ids (.at calling.1 calling.2) :=
  ⟨.at serve (.initial Unit), ⟨rfl, Threads.idle_fresh, rfl⟩,
    at_steps (advance_moves answerWithin_sound 6 _ _)⟩

end Serving

open Serving in
/-- However the requests, the update threads and the host interleave, the client gets one call at a
time, and none is stuck. -/
theorem calls_in_turn {ι : Type} [DecidableEq ι] {arguments : ι → Arguments} {ids : Ids ι}
    {c : Server ι} (reached : Serving.Reached arguments ids c) : InTurn c := by
  have fits := reached.fits
  have willing := fits.client.called.willing
  refine ⟨fun i host port uniqueIdentifier next head => ?_, fits.closed, fits.outside,
    fits.client, ?_⟩
  · by_cases serving : c.stage = .serving
    · exact fits.idle_of_call serving head
    · rcases fits.outside serving i with ready | done
      · cases head.symm.trans ready
      · cases head.symm.trans done
  · rcases willing.calls with idle | goes | ⟨id, awaits⟩
    · exact .inl idle
    · exact .inr (.inl goes)
    · exact .inr (.inr ⟨id, awaits, willing.goes awaits.1⟩)

open Serving in
theorem calls_in_turn_connect : ∃ c : Server Unit, (∃ host next,
      c.requests.program () = .call (.connect host 7 1) next) ∧
    c.client.program .caller = .ret () := by
  have head : ∃ host next, calling.1 = .call (.connect host 7 1) next := ⟨_, _, rfl⟩
  obtain ⟨host, next, same⟩ := head
  exact ⟨.at calling.1 calling.2, ⟨host, next, same⟩,
    (calls_in_turn reached_calling).requests () host 7 1 next same⟩

end JustAnotherVoiceChat
