/-
  Taking turns.

  Sessions follow one another: between the creation of a session and that of the next one,
  the first is told that it is closed, whatever else happens (`sessions_take_turns`). A
  session that is born closed is told nothing.

  Requests follow one another as the worker queue is assumed to make them: one that is
  accepted is fifth in the queue at the latest, moves up with each task that runs, and is
  run when its turn comes (`request_turn`).
-/
import FingerprintHal.Session.Served

namespace FingerprintHal

open Lib

/-! ## Sessions -/

section Sessions

variable {U : Util} {mem : Memory} {w w' w₀ : Fingerprint} {s : SessionId}

/-- The current session stays until another one is created, and the session objects are as
    they were, or one of them is closed, by its client or because that dies. -/
theorem sessions_step {e : Event} {outs : List Output}
    (hstep : (service U mem).step w e = some (w', outs)) (he : e.creation = none) :
    w'.mSession = w.mSession ∧ (w'.sessions = w.sessions ∨
      ∃ k, (e = .close k ∨ e = .clientDeath k) ∧ outs = [.callback k .onSessionClosed] ∧
        w'.sessions = w.sessions.modify k fun x => { x with mIsClosed := true }) := by
  cases e with
  | createSession sensorId userId error => cases he
  | request k r =>
      obtain ⟨_, _, rfl, -⟩ := request_frame hstep
      exact ⟨rfl, Or.inl rfl⟩
  | close k =>
      obtain ⟨rfl, rfl⟩ := close_frame hstep
      exact ⟨rfl, Or.inr ⟨k, Or.inl rfl, rfl, rfl⟩⟩
  | clientDeath k =>
      rcases clientDeath_frame hstep with ⟨-, hstep⟩ | ⟨-, rfl, -⟩
      · obtain ⟨rfl, rfl⟩ := close_frame hstep
        exact ⟨rfl, Or.inr ⟨k, Or.inr rfl, rfl, rfl⟩⟩
      · exact ⟨rfl, Or.inl rfl⟩
  | cancel signal =>
      obtain ⟨rfl, -⟩ := cancel_frame hstep
      exact ⟨rfl, Or.inl rfl⟩
  | _ =>
      obtain ⟨hs, hm, -⟩ := handler_frame hstep rfl
      exact ⟨hm, Or.inl hs⟩

/-- While a session is open none is created. -/
theorem creation_of_open {e : Event} {outs : List Output}
    (hstep : (service U mem).step w e = some (w', outs)) (hopen : w.openSession = some s) :
    e.creation = none := by
  cases e with
  | createSession sensorId userId error =>
      rw [(step_createSession.mp hstep).1] at hopen
      cases hopen
  | _ => rfl

/-- The open session stays open, or its client closes it, or dies. -/
theorem openSession_step {e : Event} {outs : List Output}
    (hstep : (service U mem).step w e = some (w', outs)) (hopen : w.openSession = some s) :
    w'.openSession = some s ∨
      ((e = .close s ∨ e = .clientDeath s) ∧ Output.callback s .onSessionClosed ∈ outs) := by
  obtain ⟨hm, hs | ⟨k, hk, rfl, hs⟩⟩ := sessions_step hstep (creation_of_open hstep hopen)
  · exact Or.inl ((openSession_congr hs hm).trans hopen)
  · by_cases hks : k = s
    · rw [hks] at hk ⊢
      exact Or.inr ⟨hk, List.mem_singleton.mpr rfl⟩
    · left
      rw [← openSession_close hopen hks]
      exact openSession_congr hs hm

/-- Over a run that does not tell it that it is closed. -/
theorem openSession_run {ts : List Handler} (hrun : (service U mem).Run w₀ ts w)
    (hopen : w₀.openSession = some s)
    (hsilent : Output.callback s .onSessionClosed ∉ trace ts) : w.openSession = some s := by
  induction hrun with
  | nil => exact hopen
  | snoc _ hstep ih =>
      rw [trace_append, List.mem_append, not_or] at hsilent
      rcases openSession_step hstep (ih hsilent.1) with h | ⟨-, htold⟩
      · exact h
      · exact absurd (by simpa using htold) hsilent.2

/-- A session that is not born closed is the open one. -/
theorem openSession_created {t : Handler} (hborn : mem.mIsClosed t.pre.sessions.length = false)
    (hstep : (service U mem).step t.pre t.event = some (t.post, t.outs))
    (ht : t.event.creation ≠ none) : t.post.openSession = some t.pre.sessions.length := by
  obtain ⟨pre, e, post, outs⟩ := t
  cases e with
  | createSession sensorId userId error =>
      obtain ⟨-, -, -, hpost, -⟩ := step_createSession.mp hstep
      refine openSession_of ?_ (isClosed_eq_false.mpr
        ⟨⟨sensorId, userId, mem.mIsClosed pre.sessions.length⟩, ?_, hborn⟩)
      · exact congrArg Fingerprint.mSession hpost
      · rw [show post.sessions = _ from congrArg Fingerprint.sessions hpost]
        simp
  | _ => exact absurd rfl ht

/-- **Sessions take turns.** Between the creation of a session that is not born closed and
    the creation of the next one, in whatever run, its client is told that it is closed. -/
theorem sessions_take_turns {us vs ws : List Handler} {t u : Handler}
    (hrun : (service U mem).Run w₀ (us ++ t :: (vs ++ u :: ws)) w)
    (hborn : mem.mIsClosed t.pre.sessions.length = false) (ht : t.event.creation ≠ none)
    (hu : u.event.creation ≠ none) :
    Output.callback t.pre.sessions.length .onSessionClosed ∈ trace vs := by
  obtain ⟨-, hcreate, hafter⟩ := hrun.at_step
  obtain ⟨hbetween, hnext, -⟩ := hafter.at_step
  refine Classical.byContradiction fun hsilent => ?_
  have hopen := openSession_run hbetween (openSession_created hborn hcreate ht) hsilent
  exact hu (creation_of_open hnext hopen)

/-- The client of the first session dies, and a failed match comes in before the next. -/
theorem sessions_take_turns_death :
    let M := service .millis .zeroed
    let w₁ := M.final .ready [.createSession 0 10 0]
    Output.callback 0 .onSessionClosed ∈ trace (M.steps w₁ [.clientDeath 0, failureAt 1]) := by
  intro M w₁
  have hcreate : M.step .ready (.createSession 0 10 0) = some (w₁, _) := rfl
  have hbetween : M.Run w₁ _ (M.final w₁ [.clientDeath 0, failureAt 1]) :=
    Machine.run_steps (by decide +kernel)
  have hnext : M.step (M.final w₁ [.clientDeath 0, failureAt 1]) (.createSession 0 11 0) =
    some (_, _) := rfl
  exact @sessions_take_turns _ _ _ _ [] _ [] _ _
    (.cons hcreate (hbetween.append (.single hnext))) rfl (by simp [Event.creation])
    (by simp [Event.creation])

end Sessions

/-! ## Requests -/

/-- **Requests take turns.** A request is accepted with fewer than five tasks before it. Of
    the tasks that run afterwards its own is the next after those; before that it has moved
    up by one place for each that has run. -/
theorem request_turn {U : Util} {mem : Memory} {w₀ w : Fingerprint} {us vs : List Handler}
    {t : Handler} {task : Task} (hrun : (service U mem).Run w₀ (us ++ t :: vs) w)
    (haccepted : scheduled t = some task) :
    let n := t.pre.mWorker.items.length
    let ran := takers popped vs
    n < MAX_WORKER_QUEUE_SIZE ∧
      (n < ran.length → ∃ u, ran[n]? = some u ∧ popped u = some task) ∧
      (ran.length ≤ n → w.mWorker.items[n - ran.length]? = some task) := by
  intro n ran
  obtain ⟨-, hstep, hafter⟩ := hrun.at_step
  have hplace : t.post.mWorker.items[n]? = some task := place_of_scheduled hstep haccepted
  refine ⟨?_, fun hlt => ?_, (service_fifo U mem).waits hafter hplace⟩
  · -- the queue is within its bound after the request
    exact Nat.lt_of_lt_of_le (List.getElem?_eq_some_iff.mp hplace).1 t.post.mWorker.bounded
  · have hget : turn t vs = some ran[n] := List.getElem?_eq_getElem hlt
    exact ⟨_, hget, (popped_at_turn hstep hafter haccepted hget).1⟩

end FingerprintHal
