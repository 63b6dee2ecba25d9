/-
  The parts of `createSession`.

  `createSession` is one event of the service, but it is three steps of the code: the
  check that no session is open, the constructor of `Session`, which calls
  `setActiveGroup`, and the assignment to `mSession`. There is one binder thread (main.cpp
  asks for no more), so no other client is served in between; but the worker, the vendor
  module and the timers go on.

  `creation` takes the three steps one by one. Nobody can tell it from the service in which
  a session is created at once, when its constructor runs: the outputs are the same and in
  the same order, if the messages that come before the assignment are taken out
  (`creation_atomic`). Those are lost: they find the closed session.
-/
import FingerprintHal.Session.Steps

namespace FingerprintHal

open Lib

/-! ## The machine -/

/-- How far the call of `createSession` is that runs now. -/
inductive Creating
  | idle
  | checked (sensorId userId : BitVec 32)
  | constructed (sensorId userId : BitVec 32)
deriving DecidableEq

/-- The service, and the call of `createSession`. -/
structure Creation where
  service : Fingerprint
  stage : Creating
deriving DecidableEq

/-- An event of the service other than `createSession`, or a step of that call. -/
inductive CreationEvent
  | own (e : Event)
  | check (sensorId userId : BitVec 32)
  | construct (error : BitVec 32)
  | assign
deriving DecidableEq

/-- A new session is the current one. -/
def Fingerprint.addSession (mem : Memory) (sensorId userId : BitVec 32) (w : Fingerprint) :
    Fingerprint :=
  { w with
    mSession := some w.sessions.length
    sessions := w.sessions ++ [⟨sensorId, userId, mem.mIsClosed w.sessions.length⟩] }

namespace Creation

/-- While `createSession` runs, no other client is served. -/
def Allows (c : Creation) (e : Event) : Prop :=
  e.isClient = false ∨ (c.stage = .idle ∧ e.creation = none)

instance (c : Creation) : DecidablePred c.Allows :=
  fun e => inferInstanceAs (Decidable (e.isClient = false ∨ (_ ∧ e.creation = none)))

def step (U : Util) (mem : Memory) (c : Creation) :
    CreationEvent → Option (Creation × List Output)
  | .own e =>
      if c.Allows e then
        (Fingerprint.step U mem c.service e).map fun r => (⟨r.1, c.stage⟩, r.2)
      else none
  | .check sensorId userId =>
      match c.stage with
      | .idle =>
          -- CHECK(mSession == nullptr || mSession->isClosed())
          if c.service.openSession.isSome then none
          else some (⟨c.service, .checked sensorId userId⟩, [])
      | _ => none
  | .construct error =>
      match c.stage with
      | .checked sensorId userId =>
          if sensorId.toInt < 0 ∨ userId.toInt < 0 then none
          else some (⟨c.service, .constructed sensorId userId⟩,
            c.service.mEngine.setActiveGroup userId error)
      | _ => none
  | .assign =>
      match c.stage with
      | .constructed sensorId userId =>
          some (⟨c.service.addSession mem sensorId userId, .idle⟩, [])
      | _ => none

end Creation

/-- The service that creates its sessions step by step. -/
def creation (U : Util) (mem : Memory) : Machine Creation CreationEvent Output where
  step := Creation.step U mem

/-! ## What a step can be -/

section Steps

variable {U : Util} {mem : Memory} {c c' : Creation} {o : List Output}

theorem creation_own {e : Event} : (creation U mem).step c (.own e) = some (c', o) ↔
    c.Allows e ∧ (service U mem).step c.service e = some (c'.service, o) ∧
      c'.stage = c.stage := by
  simp only [creation, Creation.step, service]
  rw [Option.ite_none_right_eq_some, Option.map_eq_some_iff]
  refine and_congr_right fun _ => ⟨?_, ?_⟩
  · rintro ⟨⟨w, p⟩, hs, he⟩
    obtain ⟨rfl, rfl⟩ := Prod.mk.inj he
    exact ⟨hs, rfl⟩
  · rintro ⟨hs, hstage⟩
    refine ⟨(c'.service, o), hs, ?_⟩
    dsimp only
    rw [← hstage]

theorem creation_check {sensorId userId : BitVec 32} :
    (creation U mem).step c (.check sensorId userId) = some (c', o) ↔
      c.stage = .idle ∧ c.service.openSession = none ∧
        c' = ⟨c.service, .checked sensorId userId⟩ ∧ o = [] := by
  obtain ⟨w, stage⟩ := c
  cases stage with
  | idle =>
      simp only [creation, Creation.step]
      cases w.openSession with
      | none => simp [eq_comm]
      | some s => simp
  | _ => simp [creation, Creation.step]

theorem creation_construct {error : BitVec 32} :
    (creation U mem).step c (.construct error) = some (c', o) ↔
      ∃ sensorId userId, c.stage = .checked sensorId userId ∧ 0 ≤ sensorId.toInt ∧
        0 ≤ userId.toInt ∧ c' = ⟨c.service, .constructed sensorId userId⟩ ∧
        o = c.service.mEngine.setActiveGroup userId error := by
  obtain ⟨w, stage⟩ := c
  cases stage with
  | checked sensorId userId =>
      simp only [creation, Creation.step]
      rw [Option.ite_none_left_eq_some, Option.some.injEq, Prod.mk.injEq]
      constructor
      · rintro ⟨hn, rfl, rfl⟩
        exact ⟨sensorId, userId, rfl, by omega, by omega, rfl, rfl⟩
      · rintro ⟨_, _, hs, h1, h2, rfl, rfl⟩
        cases hs
        exact ⟨by omega, rfl, rfl⟩
  | _ => simp [creation, Creation.step]

theorem creation_assign : (creation U mem).step c .assign = some (c', o) ↔
    ∃ sensorId userId, c.stage = .constructed sensorId userId ∧
      c' = ⟨c.service.addSession mem sensorId userId, .idle⟩ ∧ o = [] := by
  obtain ⟨w, stage⟩ := c
  cases stage with
  | constructed sensorId userId =>
      simp only [creation, Creation.step]
      rw [Option.some.injEq, Prod.mk.injEq]
      constructor
      · rintro ⟨rfl, rfl⟩
        exact ⟨sensorId, userId, rfl, rfl, rfl⟩
      · rintro ⟨_, _, hs, rfl, rfl⟩
        cases hs
        exact ⟨rfl, rfl⟩
  | _ => simp [creation, Creation.step]

end Steps

/-! ## The clock is not looked at -/

section Clock

variable {U : Util} {mem : Memory} {w w' : Fingerprint} {e : Event} {o : List Output}

/-- A step from a state that differs in the last reading of the clock. -/
theorem step_of_clock (h : (service U mem).step w e = some (w', o)) (c : Int) :
    ∃ c', (service U mem).step { w with clock := c } e = some ({ w' with clock := c' }, o) := by
  cases e with
  | createSession sensorId userId error =>
      obtain ⟨h1, h2, h3, rfl, rfl⟩ := step_createSession.mp h
      exact ⟨c, step_createSession.mpr ⟨h1, h2, h3, rfl, rfl⟩⟩
  | request s r =>
      obtain ⟨hs, he⟩ := step_request.mp h
      obtain ⟨rfl, rfl⟩ := Prod.mk.inj he
      refine ⟨c, step_request.mpr ⟨hs, ?_⟩⟩
      cases r <;> rfl
  | close s =>
      obtain ⟨hs, he⟩ := step_close.mp h
      obtain ⟨rfl, rfl⟩ := Prod.mk.inj he
      exact ⟨c, step_close.mpr ⟨hs, rfl⟩⟩
  | clientDeath s =>
      obtain ⟨hs, he⟩ := step_clientDeath.mp h
      have hd : Session.onClientDeath s { w with clock := c } =
          ({ (Session.onClientDeath s w).1 with clock := c },
            (Session.onClientDeath s w).2) := by
        have hc : Fingerprint.isClosed s { w with clock := c } = w.isClosed s := rfl
        unfold Session.onClientDeath
        rw [hc]
        split <;> rfl
      rw [← he] at hd
      exact ⟨c, step_clientDeath.mpr ⟨hs, hd.symm⟩⟩
  | cancel signal =>
      obtain ⟨hs, he⟩ := step_cancel.mp h
      obtain ⟨rfl, rfl⟩ := Prod.mk.inj he
      exact ⟨c, step_cancel.mpr ⟨hs, rfl⟩⟩
  | work inp =>
      obtain ⟨t, q, hi, he⟩ := step_work.mp h
      exact ⟨w'.clock, step_work.mpr ⟨t, q, hi, he⟩⟩
  | message msg clk =>
      have he : (w', o) = { w with clock := clk.atTimeLeft }.notify U msg clk :=
        step_message.mp h
      exact ⟨w'.clock, step_message.mpr he⟩
  | timer i now =>
      obtain ⟨t, ht, he⟩ := step_timer.mp h
      exact ⟨w'.clock, step_timer.mpr ⟨t, ht, he⟩⟩

end Clock

/-! ## Around the new session -/

section Add

variable {U : Util} {mem : Memory} {w w' : Fingerprint} {e : Event} {o : List Output}
  {sensorId userId : BitVec 32}

theorem run_addSession (U : Util) (inp : TaskInputs) (t : Task) (w : Fingerprint) :
    t.run U inp (w.addSession mem sensorId userId) =
      ((t.run U inp w).1.addSession mem sensorId userId, (t.run U inp w).2) := by
  obtain ⟨s, body⟩ := t
  cases body with
  | onPointerDown x y =>
      have he : (w.addSession mem sensorId userId).mEngine = w.mEngine := rfl
      simp only [Task.run, he]
      split <;> rfl
  | _ => rfl

/-- The worker and the timers do not look at the sessions. -/
theorem step_addSession (h : (service U mem).step w e = some (w', o))
    (he : e.isClient = false) (hm : ∀ msg clk, e ≠ .message msg clk) :
    (service U mem).step (w.addSession mem sensorId userId) e =
      some (w'.addSession mem sensorId userId, o) := by
  cases e with
  | work inp =>
      obtain ⟨t, q, hi, heq⟩ := step_work.mp h
      have hr := @run_addSession mem sensorId userId U inp t
        { w with mWorker := q, clock := inp.clk.atTimeLeft }
      rw [← heq] at hr
      exact step_work.mpr ⟨t, q, hi, hr.symm⟩
  | timer i now =>
      obtain ⟨t, ht, heq⟩ := step_timer.mp h
      obtain ⟨rfl, rfl⟩ := Prod.mk.inj heq
      exact step_timer.mpr ⟨t, ht, rfl⟩
  | message msg clk => exact absurd rfl (hm msg clk)
  | _ => cases he

end Add

/-! ## Creation is atomic -/

/-- The event of the service a step stands for. A session is created when its constructor
    runs; the messages between that and the assignment are lost. -/
def CreationEvent.atomic (c : Creation) : CreationEvent → Option Event
  | .own e =>
      match c.stage, e with
      | .constructed _ _, .message _ _ => none
      | _, _ => some e
  | .construct error =>
      match c.stage with
      | .checked sensorId userId => some (.createSession sensorId userId error)
      | _ => none
  | _ => none

/-- The service with the session that is constructed but not assigned. -/
def Creation.settled (mem : Memory) (c : Creation) : Fingerprint :=
  match c.stage with
  | .constructed sensorId userId => c.service.addSession mem sensorId userId
  | _ => c.service

/-- The service that creates a session at once is ahead by the session under construction,
    and may not have read the clock for a lost message. -/
structure Creation.Matches (mem : Memory) (c : Creation) (w : Fingerprint) : Prop where
  unopened : c.stage ≠ .idle → c.service.openSession = none
  same : ∃ t, w = { c.settled mem with clock := t }

section Match

variable {U : Util} {mem : Memory} {c c' : Creation} {w : Fingerprint} {o : List Output}

/-- An event of the worker, the vendor module or a timer during `createSession`, or any
    other when it does not run. -/
theorem matches_own {e : Event} (h : c.Matches mem w)
    (hstep : (creation U mem).step c (.own e) = some (c', o)) :
    match (CreationEvent.own e).atomic c with
    | some b => ∃ w', (service U mem).step w b = some (w', o) ∧ c'.Matches mem w'
    | none => o = [] ∧ c'.Matches mem w := by
  obtain ⟨hallows, hs, hstage⟩ := creation_own.mp hstep
  obtain ⟨hopen, t, rfl⟩ := h
  obtain ⟨v, stage⟩ := c
  obtain ⟨v', stage'⟩ := c'
  dsimp only at hs hstage hopen
  obtain rfl := hstage
  -- no session is opened while `createSession` runs
  have hopen' : stage' ≠ .idle → v'.openSession = none := by
    intro hne
    rcases hallows with he | ⟨hidle, -⟩
    · obtain ⟨h1, h2, -⟩ := handler_frame hs he
      exact (openSession_congr h1 h2).trans (hopen hne)
    · exact absurd hidle hne
  cases stage' with
  | idle =>
      obtain ⟨t', ht⟩ := step_of_clock hs t
      exact ⟨_, ht, hopen', t', rfl⟩
  | checked sensorId userId =>
      obtain ⟨t', ht⟩ := step_of_clock hs t
      exact ⟨_, ht, hopen', t', rfl⟩
  | constructed sensorId userId =>
      have he : e.isClient = false := hallows.resolve_right fun h => by cases h.1
      by_cases hm : ∃ msg clk, e = .message msg clk
      · obtain ⟨msg, clk, rfl⟩ := hm
        obtain ⟨rfl, rfl⟩ := message_dropped hs (hopen (by simp))
        exact ⟨rfl, hopen', t, rfl⟩
      · have hadd : (service U mem).step (v.addSession mem sensorId userId) e =
            some (v'.addSession mem sensorId userId, o) :=
          step_addSession hs he fun msg clk h => hm ⟨msg, clk, h⟩
        obtain ⟨t', ht⟩ := step_of_clock hadd t
        have hatomic : (CreationEvent.own e).atomic
            ⟨v, .constructed sensorId userId⟩ = some e := by
          cases e <;> first | rfl | exact absurd ⟨_, _, rfl⟩ hm
        rw [hatomic]
        exact ⟨_, ht, hopen', t', rfl⟩

/-- Each step is one of the service, or nothing that it does. -/
theorem matches_step {e : CreationEvent} (h : c.Matches mem w)
    (hstep : (creation U mem).step c e = some (c', o)) :
    match e.atomic c with
    | some b => ∃ w', (service U mem).step w b = some (w', o) ∧ c'.Matches mem w'
    | none => o = [] ∧ c'.Matches mem w := by
  cases e with
  | own e => exact matches_own h hstep
  | check sensorId userId =>
      obtain ⟨hidle, hopen, rfl, rfl⟩ := creation_check.mp hstep
      obtain ⟨-, t, rfl⟩ := h
      refine ⟨rfl, fun _ => hopen, t, ?_⟩
      unfold Creation.settled
      rw [hidle]
  | construct error =>
      obtain ⟨sensorId, userId, hstage, h1, h2, rfl, rfl⟩ := creation_construct.mp hstep
      obtain ⟨hopen, t, rfl⟩ := h
      obtain ⟨v, stage⟩ := c
      dsimp only at hstage
      subst hstage
      have hnone : v.openSession = none := hopen (by simp)
      exact ⟨_, step_createSession.mpr ⟨hnone, h1, h2, rfl, rfl⟩, fun _ => hnone, t, rfl⟩
  | assign =>
      obtain ⟨sensorId, userId, hstage, rfl, rfl⟩ := creation_assign.mp hstep
      obtain ⟨-, t, rfl⟩ := h
      refine ⟨rfl, fun hne => absurd rfl hne, t, ?_⟩
      unfold Creation.settled
      rw [hstage]

end Match

/-- **Sessions are created at once.** Every run in which `createSession` is taken step by
    step, and is not under way at the end, has a run of the service with the same outputs
    in the same order: there the session is created when its constructor runs, and the
    messages that came before the assignment are missing. Both lead to the same state, up
    to the last reading of the clock. -/
theorem creation_atomic {U : Util} {mem : Memory} {w₀ : Fingerprint} {c : Creation}
    {ts : List (Transition Creation CreationEvent Output)}
    (hrun : (creation U mem).Run ⟨w₀, .idle⟩ ts c) (hidle : c.stage = .idle) :
    ∃ us w, (service U mem).Run w₀ us w ∧ w = { c.service with clock := w.clock } ∧
      trace us = trace ts ∧
      us.map (·.event) = ts.filterMap fun t => t.event.atomic t.pre := by
  have h₀ : Creation.Matches mem ⟨w₀, .idle⟩ w₀ := ⟨fun hne => absurd rfl hne, w₀.clock, rfl⟩
  obtain ⟨us, w, hus, hw, htrace, hevents⟩ :=
    hrun.refine CreationEvent.atomic (A := service U mem) h₀ fun c e c' o w h hs => by
      have hm := matches_step h hs
      cases ha : CreationEvent.atomic c e with
      | none =>
          rw [ha] at hm
          exact hm
      | some b =>
          rw [ha] at hm
          exact hm
  obtain ⟨t, rfl⟩ := hw.same
  refine ⟨us, _, hus, ?_, htrace, hevents⟩
  unfold Creation.settled
  rw [hidle]

/-- A message comes before the check, and one before the assignment. -/
theorem creation_atomic_lost :
    let M := creation .millis .zeroed
    let es := [.own (failureAt 1), .check 0 10, .construct 0, .own (failureAt 2), .assign,
      .own (failureAt 3)]
    ∃ us w, (service .millis .zeroed).Run .ready us w ∧
      w = { (M.final ⟨.ready, .idle⟩ es).service with clock := w.clock } ∧
      trace us = trace (M.steps ⟨.ready, .idle⟩ es) ∧
      us.map (·.event) =
        (M.steps ⟨.ready, .idle⟩ es).filterMap fun t => t.event.atomic t.pre :=
  creation_atomic (Machine.run_steps (by decide +kernel)) (by decide +kernel)

end FingerprintHal
