/-
  The time left of a lockout, as it is announced and as it is given to a timer.

  `checkSensorLockout` reads the clock twice: `getMode` decides that the lockout still
  lasts, `getLockoutTimeLeft` computes how long. Nothing keeps the second reading within
  the time of the lockout, and the result is not cut off at 0. What is announced is between
  0 and the whole duration exactly when the second reading is (`times_sane_iff`).
-/
import FingerprintHal.Lockout.Control

namespace FingerprintHal

open Lib

/-! ## A time left -/

/-- A time left that makes sense: not negative, and no more than a whole lockout. -/
def SaneTime (d : Int) : Prop := 0 ≤ d ∧ d ≤ LOCKOUT_TIMED_DURATION

instance : DecidablePred SaneTime :=
  fun d => inferInstanceAs (Decidable (0 ≤ d ∧ d ≤ LOCKOUT_TIMED_DURATION))

/-- The clock reading `now` is within the time of a lockout that started at `start`,
    counted in whole milliseconds. A start that is not positive counts as none. -/
def WithinLockout (start now : Int) : Prop :=
  0 < start → -1000000 < now - start ∧ now - start < (LOCKOUT_TIMED_DURATION + 1) * 1000000

instance (start now : Int) : Decidable (WithinLockout start now) :=
  inferInstanceAs (Decidable (0 < start →
    -1000000 < now - start ∧ now - start < (LOCKOUT_TIMED_DURATION + 1) * 1000000))

/-- Whole milliseconds, cut off towards zero. -/
theorem tdiv_millis (x : Int) :
    (0 ≤ x.tdiv 1000000 ↔ -1000000 < x) ∧
      (x.tdiv 1000000 ≤ LOCKOUT_TIMED_DURATION ↔
        x < (LOCKOUT_TIMED_DURATION + 1) * 1000000) := by
  unfold LOCKOUT_TIMED_DURATION
  rcases Int.le_total 0 x with h | h
  · rw [Int.tdiv_eq_ediv_of_nonneg h]
    omega
  · have hneg : x.tdiv 1000000 = -((-x) / 1000000) := by
      rw [← Int.tdiv_eq_ediv_of_nonneg (by omega), Int.neg_tdiv, Int.neg_neg]
    rw [hneg]
    omega

/-- The time left makes sense within the lockout. -/
theorem saneTime_iff {t : LockoutTracker} {now : Int} :
    SaneTime (t.getLockoutTimeLeft now) ↔ WithinLockout t.mLockoutTimedStart now := by
  unfold SaneTime WithinLockout LockoutTracker.getLockoutTimeLeft
  have h := tdiv_millis (now - t.mLockoutTimedStart)
  have hd : 0 ≤ LOCKOUT_TIMED_DURATION := by decide
  split
  · next hs =>
      constructor
      · rintro ⟨h1, h2⟩ -
        exact ⟨h.1.mp (by omega), h.2.mp (by omega)⟩
      · intro hw
        obtain ⟨h1, h2⟩ := hw hs
        have h3 := h.1.mpr h1
        have h4 := h.2.mpr h2
        omega
  · next hs => exact ⟨fun _ hs' => absurd hs' hs, fun _ => ⟨Int.le_refl _, hd⟩⟩

/-! ## One step -/

/-- The time a callback announces. -/
def Output.timeLeft : Output → Option Int
  | .callback _ (.onLockoutTimed d) => some d
  | _ => none

/-- The times that are put out make sense, and the one that a new timer is given. -/
def TimesSane (l l' : LockoutControl) (o : List Output) : Prop :=
  (∀ x ∈ o, ∀ d ∈ x.timeLeft, SaneTime d) ∧
    ∀ tm, l'.timers = l.timers ++ [tm] → SaneTime tm.timeout

theorem isLockout_of_timeLeft {x : Output} {d : Int} (h : d ∈ x.timeLeft) :
    x.isLockout = true := by
  unfold Output.timeLeft at h
  split at h
  · rfl
  · cases h

/-- Only the lockout callbacks matter. -/
theorem timesSane_filter {l l' : LockoutControl} {o : List Output} :
    TimesSane l l' (o.filter Output.isLockout) ↔ TimesSane l l' o := by
  unfold TimesSane
  refine and_congr_left fun _ => ?_
  constructor
  · intro h x hx d hd
    exact h x (List.mem_filter.mpr ⟨hx, isLockout_of_timeLeft hd⟩) d hd
  · intro h x hx d hd
    exact h x (List.mem_filter.mp hx).1 d hd

/-- A step that announces nothing and launches no timer. -/
theorem timesSane_of_none {l l' : LockoutControl} {o : List Output}
    (ho : ∀ x ∈ o, x.timeLeft = none) (hl : l'.timers.length ≤ l.timers.length) :
    TimesSane l l' o := by
  constructor
  · intro x hx d hd
    rw [ho x hx] at hd
    cases hd
  · intro tm htm
    have hlen := congrArg List.length htm
    rw [List.length_append, List.length_singleton] at hlen
    omega

/-- The tracker as `checkSensorLockout` finds it in a step, and its clock readings. -/
def LockoutOp.checked (l : LockoutControl) : LockoutOp → Option (LockoutTracker × Readings)
  | .failedMatch _ clk => some (l.mLockoutTracker.addFailedAttempt clk.atFailure, clk)
  | .pointerDown _ clk => some (l.mLockoutTracker, clk)
  | _ => none

/-- Where `checkSensorLockout` finds a timed lockout that still lasts, the time left is
    computed within that lockout. -/
def ComputedInTime (U : Util) (l : LockoutControl) (op : LockoutOp) : Prop :=
  ∀ c ∈ op.checked l, c.1.mCurrentMode = .kTimed →
    U.hasElapsed c.2.atMode c.1.mLockoutTimedStart LOCKOUT_TIMED_DURATION = false →
    WithinLockout c.1.mLockoutTimedStart c.2.atTimeLeft

instance (U : Util) (l : LockoutControl) : DecidablePred (ComputedInTime U l) :=
  fun op => @Option.decidableForallMem _ _ (fun _ => inferInstance) (op.checked l)

/-- `checkSensorLockout`, which is where times are announced. -/
theorem check_timesSane {U : Util} {cb : SessionId} {clk : Readings} {l : LockoutControl} :
    TimesSane l (l.checkSensorLockout U cb clk).2.1 (l.checkSensorLockout U cb clk).2.2 ↔
      (l.mLockoutTracker.mCurrentMode = .kTimed →
        U.hasElapsed clk.atMode l.mLockoutTracker.mLockoutTimedStart
          LOCKOUT_TIMED_DURATION = false →
        WithinLockout l.mLockoutTracker.mLockoutTimedStart clk.atTimeLeft) := by
  rcases LockoutControl.check_cases U cb clk l with ⟨hm, e⟩ | ⟨hm, hr, e⟩ | ⟨hm, hr, e⟩ |
    ⟨h1, h2, e⟩
  · refine iff_of_true ?_ fun hk => absurd (hm.symm.trans hk) (by simp)
    rw [e]
    exact timesSane_of_none (by simp [Output.timeLeft]) (Nat.le_refl _)
  · rw [e, ← saneTime_iff]
    constructor
    · intro h _ _
      exact h.1 _ (List.mem_singleton.mpr rfl) _ rfl
    · intro h
      have hd := h hm hr
      constructor
      · intro x hx d hd'
        rw [List.mem_singleton.mp hx] at hd'
        cases hd'
        exact hd
      · intro tm htm
        dsimp only at htm
        split at htm
        · -- the timer that is launched is given the same time
          have ht := List.append_cancel_left htm
          cases ht
          exact hd
        · simp at htm
  · refine iff_of_true ?_ fun _ hf => absurd (hr.symm.trans hf) (by simp)
    rw [e]
    exact timesSane_of_none (by simp) (Nat.le_refl _)
  · refine iff_of_true ?_ fun hk => absurd hk h2
    rw [e]
    exact timesSane_of_none (by simp) (Nat.le_refl _)

/-- One step of the lockout machine. -/
theorem step_timesSane {U : Util} {l l' : LockoutControl} {op : LockoutOp} {o : List Output}
    (hstep : l.step U op = some (l', o)) : TimesSane l l' o ↔ ComputedInTime U l op := by
  have hs := LockoutControl.step_cases hstep
  cases op with
  | matched =>
      obtain ⟨rfl, rfl⟩ := hs
      refine iff_of_true ?_ fun c hc => by cases hc
      exact timesSane_of_none (by simp) (Nat.le_refl _)
  | failedMatch cb clk =>
      obtain ⟨rfl, rfl⟩ := hs
      have h := @check_timesSane U cb clk
        { l with mLockoutTracker := l.mLockoutTracker.addFailedAttempt clk.atFailure }
      refine Iff.trans h ⟨?_, fun hc => hc _ rfl⟩
      rintro hc c ⟨⟩
      exact hc
  | pointerDown cb clk =>
      obtain ⟨rfl, rfl⟩ := hs
      refine check_timesSane.trans ⟨?_, fun hc => hc _ rfl⟩
      rintro hc c ⟨⟩
      exact hc
  | resetAccepted cb =>
      obtain ⟨rfl, rfl⟩ := hs
      refine iff_of_true ?_ fun c hc => by cases hc
      exact timesSane_of_none (by simp [Output.timeLeft]) (Nat.le_refl _)
  | expired i now =>
      obtain ⟨t, ht, rfl, rfl⟩ := hs
      refine iff_of_true ?_ fun c hc => by cases hc
      have hlen := (List.getElem?_eq_some_iff.mp ht).1
      cases ha : l.isLockoutTimerAborted with
      | true =>
          rw [LockoutControl.expire_aborted ha]
          exact timesSane_of_none (by simp) (List.length_eraseIdx_le _ _)
      | false =>
          rw [LockoutControl.expire_live ha]
          exact timesSane_of_none (by simp [Output.timeLeft]) (List.length_eraseIdx_le _ _)

/-! ## Runs -/

/-- What the step tells sessions of lockouts, and the timer it launches, are given times
    that make sense. -/
def GivesSaneTimes (t : Handler) : Prop := TimesSane t.pre.lockout t.post.lockout t.outs

/-- Where the step finds a timed lockout that still lasts, it computes the time left within
    that lockout. -/
def ReadsInTime (U : Util) (t : Handler) : Prop :=
  ∀ op ∈ lockoutOp t.pre t.event, ComputedInTime U t.pre.lockout op

instance (U : Util) : DecidablePred (ReadsInTime U) :=
  fun t => @Option.decidableForallMem _ _ (fun _ => inferInstance) (lockoutOp t.pre t.event)

/-- **When the announced time makes sense.** In every run of the service from any state, a
    step announces a time left and launches a timer with a time between 0 and the duration
    of a lockout exactly when it computes the time left within the lockout it finds. -/
theorem times_sane_iff {U : Util} {mem : Memory} {w₀ w : Fingerprint} {ts : List Handler}
    (hrun : (service U mem).Run w₀ ts w) {t : Handler} (ht : t ∈ ts) :
    GivesSaneTimes t ↔ ReadsInTime U t := by
  have hstep := hrun.step_of_mem ht
  unfold GivesSaneTimes ReadsInTime
  rw [← timesSane_filter]
  cases hop : lockoutOp t.pre t.event with
  | none =>
      obtain ⟨hl, ho⟩ := step_unseen hstep hop
      refine iff_of_true ?_ fun op h => by cases h
      rw [hl, ho]
      exact timesSane_of_none (by simp) (Nat.le_refl _)
  | some op =>
      refine (step_timesSane (step_seen hstep hop)).trans ⟨?_, fun h => h op rfl⟩
      rintro h op' ⟨⟩
      exact h

/-- A session and four failed matches. -/
def fourFailures : List Event := .createSession 0 10 0 :: List.replicate 4 (failureAt 1)

/-- A fifth one, during which the clock goes on to `atTimeLeft` once the mode is read. -/
def fifthFailure (atTimeLeft : Int) (h : 10000000001 ≤ atTimeLeft) : Event :=
  .message (.FINGERPRINT_AUTHENTICATED 0 .zeroed) ⟨1, 10000000001, atTimeLeft, by decide, h⟩

theorem times_sane_deadline :
    let ts := (service .millis .zeroed).steps .ready
      (fourFailures ++ [fifthFailure 10000000001 (by decide)])
    Output.callback 0 (.onLockoutTimed 0) ∈ trace ts ∧ ∀ t ∈ ts, GivesSaneTimes t := by
  intro ts
  have hread : ∀ t ∈ ts, ReadsInTime .millis t := by decide +kernel
  refine ⟨by decide +kernel, fun t ht => ?_⟩
  exact (times_sane_iff (Machine.run_steps (by decide +kernel)) ht).mpr (hread t ht)

/-- The second reading is a millisecond past the lockout: a lockout of -1 ms is announced,
    and a timer launched for as long. -/
theorem negative_time_announced :
    let M := service .millis .zeroed
    let es := fourFailures ++ [fifthFailure 10001000001 (by decide)]
    M.Run .ready (M.steps .ready es) (M.final .ready es) ∧
      (∀ t ∈ M.steps .ready es, Nondecreasing t) ∧
      (M.final .ready es).mEngine.timers = [⟨0, -1, 10001000001⟩] ∧
      ¬ ∀ t ∈ M.steps .ready es, GivesSaneTimes t := by
  intro M es
  refine ⟨Machine.run_steps (by decide +kernel), by decide +kernel, by decide +kernel, ?_⟩
  intro h
  have hbad : ∃ t ∈ M.steps .ready es, ∃ x ∈ t.outs, ∃ d ∈ x.timeLeft, ¬ SaneTime d := by
    decide +kernel
  obtain ⟨t, ht, x, hx, d, hd, hn⟩ := hbad
  exact hn ((h t ht).1 x hx d hd)

end FingerprintHal
