/-
  The lockout timer as the thread it is.

  `startLockoutTimer` launches a thread and then sets `isLockoutTimerStarted`; the thread
  sleeps and then runs `lockoutTimerExpired`, which takes the flag back. In the other
  modules the two steps of `startLockoutTimer` are one. Here they are apart (`starting` is
  up between them), and the steps of the thread may come in between. One call comes after
  the other: that is a restriction of the machine, the source has no lock.

  With nothing in between, this is the lockout machine (`run_uninterrupted`), and so what
  the service does (`service_run_threads`). The flag tells the truth in a run exactly when
  it is never set after its thread has gone (`flag_truthful_iff`); once it has been, it
  stays up for good, and no timer is ever launched again (`late_flag_stays`). Two threads
  are never outstanding (`single_run`).
-/
import FingerprintHal.Lockout.Control

namespace FingerprintHal

open Lib

/-! ## The machine -/

/-- The lockout part with its threads: those in `timers` are asleep, those in `awake` have
    slept and not yet run `lockoutTimerExpired`. While `starting` is up, a call of
    `startLockoutTimer` has launched its thread and not yet set the flag. -/
structure LockoutThreads extends LockoutControl where
  awake : List LockoutTimer
  starting : Bool
deriving DecidableEq

/-- What the rest of the engine calls. -/
inductive LockoutCall
  | matched
  | failedMatch (cb : SessionId) (clk : Readings)
  | pointerDown (cb : SessionId) (clk : Readings)
  | resetLockout (cb : SessionId) (hat : HardwareAuthToken)
deriving DecidableEq

/-- A call, the second step of `startLockoutTimer`, the two steps of a thread. -/
inductive ThreadOp
  | call (k : LockoutCall)
  | setStarted
  | slept (i : Nat) (now : Int)
  | expired (i : Nat)
deriving DecidableEq

namespace LockoutThreads

/-- The threads that have not yet finished. -/
def outstanding (c : LockoutThreads) : List LockoutTimer := c.timers ++ c.awake

/-- What does not start a timer. -/
def atOnce (f : LockoutControl → LockoutControl × List Output) (c : LockoutThreads) :
    LockoutThreads × List Output :=
  let r := f c.toLockoutControl
  ({ c with toLockoutControl := r.1 }, r.2)

/-- `startLockoutTimer` launches the thread, its first step. -/
def launch (timeout : Int) (cb : SessionId) (now : Int) (c : LockoutThreads) :
    LockoutThreads :=
  { c with timers := c.timers ++ [⟨cb, timeout, now⟩], starting := true }

/-- And sets the flag, its second. -/
def setStarted (c : LockoutThreads) : LockoutThreads :=
  { c with isLockoutTimerStarted := true, starting := false }

/-- `checkSensorLockout`, up to the second step of the `startLockoutTimer` at its end. -/
def checkSensorLockout (U : Util) (cb : SessionId) (clk : Readings) (c : LockoutThreads) :
    LockoutThreads × List Output :=
  let c := { c with mLockoutTracker := c.mLockoutTracker.getMode U clk.atMode }
  match c.mLockoutTracker.mCurrentMode with
  | .kPermanent => ({ c with isLockoutTimerAborted := true }, [.callback cb .onLockoutPermanent])
  | .kTimed =>
      let timeLeft := c.mLockoutTracker.getLockoutTimeLeft clk.atTimeLeft
      (if c.isLockoutTimerSupported ∧ ¬ c.isLockoutTimerStarted then
          c.launch timeLeft cb clk.atTimeLeft
        else c,
        [.callback cb (.onLockoutTimed timeLeft)])
  | _ => (c, [])

def call (U : Util) (c : LockoutThreads) : LockoutCall → LockoutThreads × List Output
  | .matched => c.atOnce fun l => (l.matched, [])
  | .failedMatch cb clk =>
      { c with mLockoutTracker :=
          c.mLockoutTracker.addFailedAttempt clk.atFailure }.checkSensorLockout U cb clk
  | .pointerDown cb clk => c.checkSensorLockout U cb clk
  | .resetLockout cb hat => c.atOnce fun l => l.resetLockoutImpl cb hat

def step (U : Util) (c : LockoutThreads) :
    ThreadOp → Option (LockoutThreads × List Output)
  | .call k => if c.starting then none else some (c.call U k)
  | .setStarted => if c.starting then some (c.setStarted, []) else none
  | .slept i now =>
      match c.timers[i]? with
      | none => none
      | some t =>
          if t.deadline ≤ now then
            some ({ c with timers := c.timers.eraseIdx i, awake := c.awake ++ [t] }, [])
          else none
  | .expired i =>
      match c.awake[i]? with
      | none => none
      | some t =>
          some ({ c with awake := c.awake.eraseIdx i }.atOnce fun l => l.lockoutTimerExpired t.cb)

end LockoutThreads

def threadMachine (U : Util) : Machine LockoutThreads ThreadOp Output where
  step := LockoutThreads.step U

/-- One step of it. -/
abbrev ThreadStep := Transition LockoutThreads ThreadOp Output

namespace LockoutThreads

/-- No timer, no call that starts one, and the flag is down. -/
structure Clean (c : LockoutThreads) : Prop where
  started : c.isLockoutTimerStarted = false
  outstanding : c.outstanding = []
  starting : c.starting = false

/-- At most one thread is outstanding, and while no timer is being started the flag tells
    whether there is one. -/
structure Truthful (c : LockoutThreads) : Prop where
  one : c.outstanding.length ≤ 1
  flag : c.starting = false → (c.isLockoutTimerStarted = true ↔ c.outstanding.length = 1)

/-- And while one is being started the flag is down. -/
structure Kept (c : LockoutThreads) : Prop extends Truthful c where
  down : c.starting = true → c.isLockoutTimerStarted = false

theorem kept_of_none {c : LockoutThreads} (hdown : c.isLockoutTimerStarted = false)
    (hnone : c.outstanding.length = 0) : c.Kept where
  one := by
    rw [hnone]
    exact Nat.zero_le 1
  flag _ := by
    rw [hnone, hdown]
    decide
  down _ := hdown

theorem Clean.kept {c : LockoutThreads} (h : c.Clean) : c.Kept :=
  kept_of_none h.started (by rw [h.outstanding]; rfl)

/-! ## One step -/

/-- What most calls leave of the threads and of the flag: all of it. -/
structure SameThreads (c c' : LockoutThreads) : Prop where
  timers : c'.timers = c.timers
  awake : c'.awake = c.awake
  started : c'.isLockoutTimerStarted = c.isLockoutTimerStarted
  starting : c'.starting = c.starting

/-- What a call does that starts a timer. -/
structure Launches (c c' : LockoutThreads) : Prop where
  before : c.isLockoutTimerStarted = false
  timers : ∃ t, c'.timers = c.timers ++ [t]
  awake : c'.awake = c.awake
  started : c'.isLockoutTimerStarted = false
  starting : c'.starting = true

section Step

variable {U : Util} {c c' : LockoutThreads} {o : List Output}

theorem check_threads (cb : SessionId) (clk : Readings) :
    c.SameThreads (c.checkSensorLockout U cb clk).1 ∨
      c.Launches (c.checkSensorLockout U cb clk).1 := by
  unfold checkSensorLockout
  dsimp only
  split
  · exact Or.inl ⟨rfl, rfl, rfl, rfl⟩
  · split
    · next h =>
        have hdown : c.isLockoutTimerStarted = false := Bool.not_eq_true _ ▸ h.2
        exact Or.inr ⟨hdown, ⟨_, rfl⟩, rfl, hdown, rfl⟩
    · exact Or.inl ⟨rfl, rfl, rfl, rfl⟩
  · exact Or.inl ⟨rfl, rfl, rfl, rfl⟩

/-- A call launches at most one thread, and only while the flag is down. -/
theorem call_threads (k : LockoutCall) :
    c.SameThreads (c.call U k).1 ∨ c.Launches (c.call U k).1 := by
  cases k with
  | matched => exact Or.inl ⟨rfl, rfl, rfl, rfl⟩
  | failedMatch cb clk =>
      rcases @check_threads U { c with mLockoutTracker :=
        c.mLockoutTracker.addFailedAttempt clk.atFailure } cb clk with h | h
      · exact Or.inl ⟨h.timers, h.awake, h.started, h.starting⟩
      · exact Or.inr ⟨h.before, h.timers, h.awake, h.started, h.starting⟩
  | pointerDown cb clk => exact check_threads cb clk
  | resetLockout cb hat =>
      left
      simp only [call, atOnce, LockoutControl.resetLockoutImpl]
      split
      · exact ⟨rfl, rfl, rfl, rfl⟩
      · rw [LockoutControl.acceptReset_eq]
        exact ⟨rfl, rfl, rfl, rfl⟩

theorem SameThreads.outstanding (hs : c.SameThreads c') : c'.outstanding = c.outstanding := by
  unfold LockoutThreads.outstanding
  rw [hs.timers, hs.awake]

theorem Launches.outstanding (hl : c.Launches c') :
    c'.outstanding.length = c.outstanding.length + 1 := by
  obtain ⟨t, ht⟩ := hl.timers
  unfold LockoutThreads.outstanding
  rw [ht, hl.awake]
  simp only [List.length_append, List.length_singleton]
  omega

theorem SameThreads.kept (hs : c.SameThreads c') (h : c.Kept) : c'.Kept where
  one := by
    rw [hs.outstanding]
    exact h.one
  flag := by
    rw [hs.outstanding, hs.started, hs.starting]
    exact h.flag
  down := by
    rw [hs.started, hs.starting]
    exact h.down

theorem Launches.kept (hl : c.Launches c') (h : c.Kept) (hidle : c.starting = false) :
    c'.Kept where
  one := by
    have hnone : c.outstanding.length ≠ 1 := by
      rw [Ne, ← h.flag hidle, hl.before]
      decide
    have hone := h.one
    rw [hl.outstanding]
    omega
  flag hs := by
    rw [hl.starting] at hs
    cases hs
  down _ := hl.started

/-- A thread that has slept is still outstanding. -/
theorem length_slept {i : Nat} {t : LockoutTimer} (ht : c.timers[i]? = some t) :
    (c.timers.eraseIdx i ++ (c.awake ++ [t])).length = c.outstanding.length := by
  have hi := (List.getElem?_eq_some_iff.mp ht).1
  unfold outstanding
  simp only [List.length_append, List.length_eraseIdx_of_lt hi, List.length_singleton]
  omega

/-- The only thread that is outstanding leaves none. -/
theorem length_expired (h : c.outstanding.length ≤ 1) {i : Nat} {t : LockoutTimer}
    (ht : c.awake[i]? = some t) : (c.timers ++ c.awake.eraseIdx i).length = 0 := by
  have hi := (List.getElem?_eq_some_iff.mp ht).1
  unfold outstanding at h
  simp only [List.length_append, List.length_eraseIdx_of_lt hi] at h ⊢
  omega

/-- `lockoutTimerExpired` takes the flag back and touches no thread. -/
theorem lockoutTimerExpired_threads (cb : SessionId) (l : LockoutControl) :
    (l.lockoutTimerExpired cb).1.timers = l.timers ∧
      (l.lockoutTimerExpired cb).1.isLockoutTimerStarted = false := by
  unfold LockoutControl.lockoutTimerExpired
  dsimp only
  split
  · exact ⟨rfl, rfl⟩
  · exact ⟨rfl, rfl⟩

/-- What a step is, one by one. -/
theorem step_cases {e : ThreadOp} (hstep : (threadMachine U).step c e = some (c', o)) :
    match e with
    | .call k => c.starting = false ∧ c' = (c.call U k).1 ∧ o = (c.call U k).2
    | .setStarted => c.starting = true ∧ c' = c.setStarted ∧ o = []
    | .slept i now => ∃ t, c.timers[i]? = some t ∧ t.deadline ≤ now ∧
        c' = { c with timers := c.timers.eraseIdx i, awake := c.awake ++ [t] } ∧ o = []
    | .expired i => ∃ t, c.awake[i]? = some t ∧
        c' = { c with
          toLockoutControl := (c.toLockoutControl.lockoutTimerExpired t.cb).1
          awake := c.awake.eraseIdx i } ∧
        o = (c.toLockoutControl.lockoutTimerExpired t.cb).2 := by
  cases e with
  | call k =>
      simp only [threadMachine, step] at hstep
      split at hstep
      · cases hstep
      · next hidle =>
          exact ⟨by simpa using hidle, Prod.mk.inj (Option.some.inj hstep).symm⟩
  | setStarted =>
      simp only [threadMachine, step] at hstep
      split at hstep
      · next hs => exact ⟨hs, Prod.mk.inj (Option.some.inj hstep).symm⟩
      · cases hstep
  | slept i now =>
      simp only [threadMachine, step] at hstep
      split at hstep
      · cases hstep
      · next t ht =>
          split at hstep
          · next hd => exact ⟨t, ht, hd, Prod.mk.inj (Option.some.inj hstep).symm⟩
          · cases hstep
  | expired i =>
      simp only [threadMachine, step] at hstep
      split at hstep
      · cases hstep
      · next t ht => exact ⟨t, ht, Prod.mk.inj (Option.some.inj hstep).symm⟩

/-- Every step keeps it, when a step that sets the flag finds its thread outstanding. -/
theorem kept_step {e : ThreadOp} (h : c.Kept)
    (hstep : (threadMachine U).step c e = some (c', o))
    (hset : e = .setStarted → c.outstanding ≠ []) : c'.Kept := by
  have hs := step_cases hstep
  cases e with
  | call k =>
      obtain ⟨hidle, rfl, -⟩ := hs
      rcases @call_threads U c k with hs | hl
      · exact hs.kept h
      · exact hl.kept h hidle
  | setStarted =>
      obtain ⟨-, rfl, -⟩ := hs
      have hpos := List.length_pos_iff.mpr (hset rfl)
      exact ⟨⟨h.one, fun _ => iff_of_true rfl (Nat.le_antisymm h.one hpos)⟩,
        fun hs => by cases hs⟩
  | slept i now =>
      obtain ⟨t, ht, -, rfl, -⟩ := hs
      have hlen := length_slept ht
      refine ⟨⟨?_, ?_⟩, h.down⟩
      · unfold outstanding
        rw [hlen]
        exact h.one
      · unfold outstanding
        rw [hlen]
        exact h.flag
  | expired i =>
      obtain ⟨t, ht, rfl, -⟩ := hs
      obtain ⟨htimers, hdown⟩ := lockoutTimerExpired_threads t.cb c.toLockoutControl
      have hlen := length_expired h.one ht
      rw [← htimers] at hlen
      exact kept_of_none hdown hlen

/-- At most one thread is outstanding, and none when the flag is down and no timer is being
    started. -/
structure Single (c : LockoutThreads) : Prop where
  one : c.outstanding.length ≤ 1
  none : c.isLockoutTimerStarted = false → c.starting = false → c.outstanding.length = 0

/-- Every step keeps it, whether the flag is set in time or not. -/
theorem single_step {e : ThreadOp} (h : c.Single)
    (hstep : (threadMachine U).step c e = some (c', o)) : c'.Single := by
  have hs := step_cases hstep
  cases e with
  | call k =>
      obtain ⟨hidle, rfl, -⟩ := hs
      rcases @call_threads U c k with hs | hl
      · constructor
        · rw [hs.outstanding]
          exact h.one
        · rw [hs.outstanding, hs.started, hs.starting]
          exact h.none
      · have hone : (c.call U k).1.outstanding.length = 1 := by
          rw [hl.outstanding, h.none hl.before hidle]
        exact ⟨Nat.le_of_eq hone,
          fun _ hs => absurd (hl.starting.symm.trans hs) (by decide)⟩
  | setStarted =>
      obtain ⟨-, rfl, -⟩ := hs
      exact ⟨h.one, fun hdown => by cases hdown⟩
  | slept i now =>
      obtain ⟨t, ht, -, rfl, -⟩ := hs
      have hlen := length_slept ht
      exact ⟨Nat.le_trans (Nat.le_of_eq hlen) h.one,
        fun hdown hidle => hlen.trans (h.none hdown hidle)⟩
  | expired i =>
      obtain ⟨t, ht, rfl, -⟩ := hs
      have hlen := length_expired h.one ht
      rw [← (lockoutTimerExpired_threads t.cb c.toLockoutControl).1] at hlen
      exact ⟨Nat.le_trans (Nat.le_of_eq hlen) (Nat.zero_le 1), fun _ _ => hlen⟩

/-- The flag is up, and nobody is left to take it back. -/
structure Stuck (c : LockoutThreads) : Prop where
  started : c.isLockoutTimerStarted = true
  outstanding : c.outstanding = []
  starting : c.starting = false

/-- A flag that is set after its thread has gone. -/
theorem stuck_setStarted (h : c.outstanding = []) : c.setStarted.Stuck := ⟨rfl, h, rfl⟩

theorem Stuck.not_truthful (h : c.Stuck) : ¬ c.Truthful := by
  intro ht
  have hone := (ht.flag h.starting).mp h.started
  rw [h.outstanding] at hone
  cases hone

/-- All that can happen then are calls. -/
theorem Stuck.call_of_step {e : ThreadOp} (h : c.Stuck)
    (hstep : (threadMachine U).step c e = some (c', o)) : ∃ k, e = .call k := by
  obtain ⟨htimers, hawake⟩ := List.append_eq_nil_iff.mp h.outstanding
  have hs := step_cases hstep
  cases e with
  | call k => exact ⟨k, rfl⟩
  | setStarted => exact absurd (hs.1.symm.trans h.starting) (by decide)
  | slept i now =>
      obtain ⟨t, ht, -⟩ := hs
      rw [htimers] at ht
      cases ht
  | expired i =>
      obtain ⟨t, ht, -⟩ := hs
      rw [hawake] at ht
      cases ht

/-- And no call takes the flag back or launches a thread. -/
theorem stuck_step {e : ThreadOp} (h : c.Stuck)
    (hstep : (threadMachine U).step c e = some (c', o)) : c'.Stuck := by
  obtain ⟨k, rfl⟩ := h.call_of_step hstep
  obtain ⟨-, rfl, -⟩ := step_cases hstep
  rcases @call_threads U c k with hs | hl
  · exact ⟨hs.started.trans h.started, hs.outstanding.trans h.outstanding,
      hs.starting.trans h.starting⟩
  · exact absurd (hl.before.symm.trans h.started) (by decide)

end Step

end LockoutThreads

/-! ## Runs -/

section Run

variable {U : Util} {c₀ c : LockoutThreads} {ts : List ThreadStep}

/-- Where the flag is set, its thread is still outstanding. -/
def SetInTime (t : ThreadStep) : Prop := t.event = .setStarted → t.pre.outstanding ≠ []

instance : DecidablePred SetInTime :=
  fun t => inferInstanceAs (Decidable (t.event = .setStarted → t.pre.outstanding ≠ []))

/-- Along a run that sets the flag in time. -/
theorem kept_run (hrun : (threadMachine U).Run c₀ ts c) (h₀ : c₀.Kept)
    (hset : ∀ t ∈ ts, SetInTime t) : c.Kept :=
  hrun.invariant (I := fun _ c => c.Kept) (along_mem.mpr hset) h₀
    fun _ _ h hin hstep => LockoutThreads.kept_step h hstep hin

/-- Two threads are never outstanding, when one call comes after the other. -/
theorem single_run (hrun : (threadMachine U).Run c₀ ts c) (h₀ : c₀.Clean) : c.Single :=
  hrun.state_invariant ⟨h₀.kept.one, fun _ _ => congrArg List.length h₀.outstanding⟩
    fun _ _ _ _ h hstep => LockoutThreads.single_step h hstep

/-- Once the flag is stuck it stays so, whatever happens. -/
theorem stuck_run (hrun : (threadMachine U).Run c₀ ts c) (h₀ : c₀.Stuck) : c.Stuck :=
  hrun.state_invariant h₀ fun _ _ _ _ h hstep => LockoutThreads.stuck_step h hstep

end Run

/-! ## Nothing in between -/

namespace LockoutThreads

/-- No thread has slept, and no timer is being started. -/
def ofControl (l : LockoutControl) : LockoutThreads where
  toLockoutControl := l
  awake := []
  starting := false

/-- The second step of `startLockoutTimer`, if it is due. -/
def settle (c : LockoutThreads) : LockoutThreads := if c.starting then c.setStarted else c

variable {U : Util} {l : LockoutControl}

/-- With its second step at once, `checkSensorLockout` is that of the engine. -/
theorem settle_check (cb : SessionId) (clk : Readings) :
    (((ofControl l).checkSensorLockout U cb clk).1.settle,
        ((ofControl l).checkSensorLockout U cb clk).2) =
      (ofControl (l.checkSensorLockout U cb clk).2.1, (l.checkSensorLockout U cb clk).2.2) := by
  unfold checkSensorLockout LockoutControl.checkSensorLockout ofControl
  cases hm : (l.mLockoutTracker.getMode U clk.atMode).mCurrentMode with
  | kTimed =>
      simp only [hm]
      by_cases hstart : l.isLockoutTimerSupported ∧ ¬ l.isLockoutTimerStarted
      · rw [if_pos hstart, if_pos hstart]
        rfl
      · rw [if_neg hstart, if_neg hstart]
        rfl
  | _ =>
      simp only [hm]
      rfl

/-- A call with its second step is a run that sets the flag in time. -/
theorem call_run (k : LockoutCall) :
    ∃ us, (threadMachine U).Run (ofControl l) us ((ofControl l).call U k).1.settle ∧
      trace us = ((ofControl l).call U k).2 ∧ ∀ t ∈ us, SetInTime t := by
  have hcall : (threadMachine U).step (ofControl l) (.call k) =
    some ((ofControl l).call U k) := rfl
  rcases @call_threads U (ofControl l) k with hs | hl
  · have hsettle : ((ofControl l).call U k).1.settle = ((ofControl l).call U k).1 :=
      if_neg (by rw [hs.starting]; exact Bool.false_ne_true)
    rw [hsettle]
    refine ⟨_, Machine.Run.single hcall, List.append_nil _, fun t ht he => ?_⟩
    rw [List.mem_singleton.mp ht] at he
    cases he
  · have hsettle : ((ofControl l).call U k).1.settle = ((ofControl l).call U k).1.setStarted :=
      if_pos hl.starting
    have hset : (threadMachine U).step ((ofControl l).call U k).1 .setStarted =
      some (((ofControl l).call U k).1.setStarted, []) := if_pos hl.starting
    rw [hsettle]
    refine ⟨_, .cons hcall (.single hset), List.append_nil _, fun t ht he => ?_⟩
    rcases List.mem_cons.mp ht with rfl | ht
    · cases he
    · rw [List.mem_singleton.mp ht]
      obtain ⟨u, hu⟩ := hl.timers
      show ((ofControl l).call U k).1.outstanding ≠ []
      unfold outstanding
      rw [hu]
      simp

/-- Every step of the lockout machine is a run of its threads. -/
theorem step_uninterrupted {l' : LockoutControl} {op : LockoutOp} {o : List Output}
    (hstep : l.step U op = some (l', o)) :
    ∃ us, (threadMachine U).Run (ofControl l) us (ofControl l') ∧ trace us = o ∧
      ∀ t ∈ us, SetInTime t := by
  have hs := LockoutControl.step_cases hstep
  cases op with
  | matched =>
      obtain ⟨rfl, rfl⟩ := hs
      exact @call_run U l .matched
  | failedMatch cb clk =>
      obtain ⟨rfl, rfl⟩ := hs
      obtain ⟨hpost, hout⟩ := Prod.mk.inj (@settle_check U { l with
        mLockoutTracker := l.mLockoutTracker.addFailedAttempt clk.atFailure } cb clk)
      obtain ⟨us, hus, htrace, hset⟩ := @call_run U l (.failedMatch cb clk)
      exact ⟨us, hpost ▸ hus, htrace.trans hout, hset⟩
  | pointerDown cb clk =>
      obtain ⟨rfl, rfl⟩ := hs
      obtain ⟨hpost, hout⟩ := Prod.mk.inj (@settle_check U l cb clk)
      obtain ⟨us, hus, htrace, hset⟩ := @call_run U l (.pointerDown cb clk)
      exact ⟨us, hpost ▸ hus, htrace.trans hout, hset⟩
  | resetAccepted cb =>
      cases hstep
      exact @call_run U l (.resetLockout cb ⟨0, 0, 0, 0, 0, [1]⟩)
  | expired i now =>
      obtain ⟨t, ht, rfl, rfl⟩ := hs
      have hslept : (threadMachine U).step (ofControl l) (.slept i t.deadline) =
          some ({ ofControl { l with timers := l.timers.eraseIdx i } with awake := [t] },
            []) := by
        simp only [threadMachine, step, ofControl, ht, Int.le_refl, if_true]
        rfl
      refine ⟨_, .cons hslept (.single (e := .expired 0) rfl), List.append_nil _,
        fun u hu he => ?_⟩
      rcases List.mem_cons.mp hu with rfl | hu
      · cases he
      · rw [List.mem_singleton.mp hu] at he
        cases he

end LockoutThreads

/-- Every run of the lockout machine is a run of the threads that
    puts out the same and sets the flag in time. -/
theorem run_uninterrupted {U : Util} {l₀ l : LockoutControl}
    {ts : List (Transition LockoutControl LockoutOp Output)}
    (hrun : (lockoutMachine U).Run l₀ ts l) :
    ∃ us, (threadMachine U).Run (.ofControl l₀) us (.ofControl l) ∧ trace us = trace ts ∧
      ∀ t ∈ us, SetInTime t := by
  induction hrun with
  | nil => exact ⟨[], .nil, rfl, fun t ht => by cases ht⟩
  | snoc _ hstep ih =>
      obtain ⟨us, hus, htrace, hset⟩ := ih
      obtain ⟨vs, hvs, htrace', hset'⟩ := LockoutThreads.step_uninterrupted hstep
      refine ⟨us ++ vs, hus.append hvs, ?_, fun t ht => ?_⟩
      · rw [trace_append, trace_append, htrace, htrace']
        simp
      · rcases List.mem_append.mp ht with ht | ht
        · exact hset t ht
        · exact hset' t ht

/-- What the service tells its sessions about lockouts is all seen by the lockout
    machine. -/
theorem trace_lockoutStep {U : Util} {mem : Memory} {w₀ w : Fingerprint} {ts : List Handler}
    (hrun : (service U mem).Run w₀ ts w) :
    trace (ts.filterMap lockoutStep) = (trace ts).filter Output.isLockout :=
  hrun.trace_absStep Fingerprint.lockout lockoutOp (List.filter Output.isLockout) rfl
    List.filter_append fun _ _ _ _ hstep hop => (step_unseen hstep hop).2

/-- **The service, and its threads.** Every run of the service is, in its lockout part, a
    run of the threads: they tell the sessions the same about lockouts, in the same order,
    and set the flag in time. -/
theorem service_run_threads {U : Util} {mem : Memory} {w₀ w : Fingerprint} {ts : List Handler}
    (hrun : (service U mem).Run w₀ ts w) :
    ∃ us, (threadMachine U).Run (.ofControl w₀.lockout) us (.ofControl w.lockout) ∧
      trace us = (trace ts).filter Output.isLockout ∧ ∀ t ∈ us, SetInTime t := by
  obtain ⟨us, hus, htrace, hset⟩ := run_uninterrupted (service_run_lockout hrun)
  exact ⟨us, hus, htrace.trans (trace_lockoutStep hrun), hset⟩

/-- Five failed matches, a reset, and the timer. -/
theorem service_run_threads_reset :
    let M := service .millis .zeroed
    let es := .createSession 0 10 0 :: List.replicate 5 (failureAt 1) ++
      [resetRequest 0, workAt 2, .timer 0 10000000001]
    ∃ us, (threadMachine .millis).Run (.ofControl Fingerprint.ready.lockout) us
        (.ofControl (M.final .ready es).lockout) ∧
      trace us = (trace (M.steps .ready es)).filter Output.isLockout ∧
      ∀ t ∈ us, SetInTime t :=
  service_run_threads (Machine.run_steps (by decide +kernel))

/-! ## The flag -/

/-- **When the started flag tells the truth.** In every run from a clean state, at most one
    thread is outstanding in every state reached, and the flag tells whether one is while
    no timer is being started, exactly when the flag is set in time each time. -/
theorem flag_truthful_iff {U : Util} {c₀ c : LockoutThreads} {ts : List ThreadStep}
    (hrun : (threadMachine U).Run c₀ ts c) (h₀ : c₀.Clean) :
    (c₀.Truthful ∧ ∀ t ∈ ts, t.post.Truthful) ↔ ∀ t ∈ ts, SetInTime t := by
  constructor
  · intro h t ht he hgone
    have hstep := hrun.step_of_mem ht
    rw [he] at hstep
    have hpost := h.2 t ht
    rw [(LockoutThreads.step_cases hstep).2.1] at hpost
    exact (LockoutThreads.stuck_setStarted hgone).not_truthful hpost
  · intro h
    refine ⟨h₀.kept.toTruthful, fun t ht => ?_⟩
    obtain ⟨us, vs, rfl, hbefore, hstep, -⟩ := hrun.at_mem ht
    have hpre := kept_run hbefore h₀.kept fun u hu => h u (List.mem_append_left _ hu)
    exact (LockoutThreads.kept_step hpre hstep (h t ht)).toTruthful

/-- The threads of an engine that starts as it should. -/
def readyThreads : LockoutThreads := .ofControl Fingerprint.ready.lockout

theorem clean_readyThreads : readyThreads.Clean := ⟨rfl, rfl, rfl⟩

/-- Five failed matches. -/
def failuresAt (now : Int) : List ThreadOp :=
  List.replicate 5 (.call (.failedMatch 0 (.still now)))

/-- The timer of a lockout that is reset, and a second lockout in the meantime. -/
def twoLockouts : List ThreadOp :=
  failuresAt 1 ++ [.setStarted, .call (.resetLockout 0 ⟨0, 0, 0, 0, 0, [1]⟩)] ++
    failuresAt 1000001 ++ [.slept 0 10000000001, .expired 0]

theorem flag_truthful_iff_two_lockouts :
    readyThreads.Truthful ∧
      ∀ t ∈ (threadMachine .millis).steps readyThreads twoLockouts, t.post.Truthful :=
  (flag_truthful_iff (Machine.run_steps (by decide +kernel)) clean_readyThreads).mpr
    (by decide +kernel)

/-- A finger comes at the end of the second lockout, with 0 ms left. The thread is over
    before the flag is set. -/
def lateFinger : List ThreadOp :=
  twoLockouts ++ [.call (.pointerDown 0 (.still 10001000001)), .slept 0 10001000001, .expired 0,
    .setStarted]

theorem flag_stuck :
    let M := threadMachine .millis
    let ts := M.steps readyThreads lateFinger
    M.Run readyThreads ts (M.final readyThreads lateFinger) ∧ readyThreads.Clean ∧
      (M.final readyThreads lateFinger).Stuck ∧
      ¬ (readyThreads.Truthful ∧ ∀ t ∈ ts, t.post.Truthful) := by
  have hstuck : ((threadMachine .millis).final readyThreads lateFinger).Stuck :=
    ⟨by decide +kernel, by decide +kernel, by decide +kernel⟩
  have hlast : ∃ t ∈ (threadMachine .millis).steps readyThreads lateFinger,
      t.post = (threadMachine .millis).final readyThreads lateFinger := by decide +kernel
  refine ⟨Machine.run_steps (by decide +kernel), clean_readyThreads, hstuck, fun h => ?_⟩
  obtain ⟨t, ht, he⟩ := hlast
  have htruth := h.2 t ht
  rw [he] at htruth
  exact hstuck.not_truthful htruth

/-! ## A flag that is set late -/

/-- **A flag that is set late stays up.** In every run from a clean state, one call after
    the other, there is at most one thread outstanding in every state reached. Once the
    flag has been set after its thread had gone, all that happens are calls, and none of
    them launches a thread or takes the flag back. -/
theorem late_flag_stays {U : Util} {c₀ c : LockoutThreads} {ts : List ThreadStep}
    (hrun : (threadMachine U).Run c₀ ts c) (h₀ : c₀.Clean) :
    (∀ t ∈ ts, t.post.outstanding.length ≤ 1) ∧
    ∀ us t vs, ts = us ++ t :: vs → ¬ SetInTime t →
      ∀ u ∈ vs, (∃ k, u.event = .call k) ∧ u.post.isLockoutTimerStarted = true ∧
        u.post.outstanding = [] := by
  constructor
  · intro t ht
    obtain ⟨us, vs, -, hbefore, hstep, -⟩ := hrun.at_mem ht
    exact (single_run (hbefore.snoc hstep) h₀).one
  · rintro us t vs rfl hlate u hu
    obtain ⟨-, hstep, hafter⟩ := hrun.at_step
    obtain ⟨hset, hgone⟩ : t.event = .setStarted ∧ t.pre.outstanding = [] := by
      simpa [SetInTime] using hlate
    rw [hset] at hstep
    have hstuck : t.post.Stuck := by
      rw [(LockoutThreads.step_cases hstep).2.1]
      exact LockoutThreads.stuck_setStarted hgone
    -- it is stuck before every later step, and after it
    obtain ⟨xs, ys, -, hbefore, hlater, -⟩ := hafter.at_mem hu
    have hpre : u.pre.Stuck := stuck_run hbefore hstuck
    have hpost : u.post.Stuck := LockoutThreads.stuck_step hpre hlater
    exact ⟨hpre.call_of_step hlater, hpost.started, hpost.outstanding⟩

/-- After the finger that came late: a third lockout, without a timer. -/
theorem late_flag_stays_finger :
    let ts := (threadMachine .millis).steps readyThreads (lateFinger ++ failuresAt 20001000001)
    (∀ t ∈ ts, t.post.outstanding.length ≤ 1) ∧
    ∀ us t vs, ts = us ++ t :: vs → ¬ SetInTime t →
      ∀ u ∈ vs, (∃ k, u.event = .call k) ∧ u.post.isLockoutTimerStarted = true ∧
        u.post.outstanding = [] :=
  late_flag_stays (Machine.run_steps (by decide +kernel)) clean_readyThreads

end FingerprintHal
