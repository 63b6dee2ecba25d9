/-
  The permanent lockout is permanent.

  `Counted n l` is the invariant of the runs in which nothing is forgiven (no match, no
  accepted `resetLockout`): after `n` failed matches the counter is `n`, and from the
  twentieth on the mode is `kPermanent`. It needs `Sound`: a timer that is still asleep when
  the mode becomes permanent has been marked as aborted in the same handler, so its expiry
  leaves the tracker alone.

  No assumption on the clock or on `Util::hasElapsed` is needed.
-/
import FingerprintHal.Lockout.Control

namespace FingerprintHal

open Lib

/-! ## The invariant -/

/-- A failed match, for the lockout machine. -/
def LockoutOp.isFailure : LockoutOp → Bool
  | .failedMatch _ _ => true
  | _ => false

/-- The two ways a lockout may be forgiven. -/
def LockoutOp.Forgives : LockoutOp → Prop
  | .matched => True
  | .resetAccepted _ => True
  | _ => False

namespace LockoutControl

/-- After `n` failed matches, none of them forgiven. -/
structure Counted (n : Nat) (l : LockoutControl) : Prop where
  sound : l.Sound
  count : n < 20 → l.mLockoutTracker.mFailedCount = n
  permanent : 20 ≤ n → l.mLockoutTracker.mCurrentMode = .kPermanent

theorem Clean.counted {l : LockoutControl} (h : l.Clean) : l.Counted 0 where
  sound := h.wf.toSound
  count _ := by rw [h.tracker]; rfl
  permanent hn := by omega

/-- `checkSensorLockout` keeps the counter. -/
theorem check_count (U : Util) (cb : SessionId) (clk : Readings) (l : LockoutControl) :
    (l.checkSensorLockout U cb clk).2.1.mLockoutTracker.mFailedCount =
      l.mLockoutTracker.mFailedCount := by
  rw [check_tracker, LockoutTracker.getMode_count]

/-- `checkSensorLockout` does not lead out of a permanent lockout. -/
theorem check_stays_permanent {U : Util} {cb : SessionId} {clk : Readings}
    {l : LockoutControl} (h : l.mLockoutTracker.mCurrentMode = .kPermanent) :
    (l.checkSensorLockout U cb clk).2.1.mLockoutTracker.mCurrentMode = .kPermanent := by
  rw [check_permanent h]
  exact h

theorem counted_check {U : Util} {cb : SessionId} {clk : Readings} {n : Nat}
    {l : LockoutControl} (h : l.Counted n) : (l.checkSensorLockout U cb clk).2.1.Counted n where
  sound := sound_check h.sound.asleep
  count hn := (check_count U cb clk l).trans (h.count hn)
  permanent hn := check_stays_permanent (h.permanent hn)

theorem counted_failedMatch {U : Util} {cb : SessionId} {clk : Readings} {n : Nat}
    {l : LockoutControl} (h : l.Counted n) : (l.failedMatch U cb clk).1.Counted (n + 1) where
  sound := sound_check h.sound.asleep
  count hn := by
    have hc := h.count (by omega)
    have := check_count U cb clk
      { l with mLockoutTracker := l.mLockoutTracker.addFailedAttempt clk.atFailure }
    unfold failedMatch
    rw [this, LockoutTracker.addFailedAttempt_count, hc, int32_of_lt (by omega) (by omega)]
    rfl
  permanent hn := by
    refine check_stays_permanent ?_
    by_cases h20 : 20 ≤ n
    · exact LockoutTracker.addFailedAttempt_kPermanent (h.permanent h20)
    · -- the twentieth failure
      have hc := h.count (by omega)
      rw [LockoutTracker.addFailedAttempt_mode, hc, int32_of_lt (by omega) (by omega),
        if_pos (by unfold LOCKOUT_PERMANENT_THRESHOLD; omega)]

/-- A timer that wakes up leaves a permanent lockout alone: it has been marked. -/
theorem counted_expire {i : Nat} {t : LockoutTimer} {n : Nat} {l : LockoutControl}
    (h : l.Counted n) (ht : l.timers[i]? = some t) : (l.expire i t).1.Counted n where
  sound := sound_of_no_timer (h.sound.expire ht).1
  count hn := by
    cases ha : l.isLockoutTimerAborted with
    | true => rw [expire_aborted ha]; exact h.count hn
    | false => rw [expire_live ha]; exact h.count hn
  permanent hn := by
    have hne : l.timers ≠ [] := by rw [(h.sound.only_timer ht).2.1]; simp
    have ha := h.sound.permanent (h.permanent hn) hne
    rw [expire_aborted ha]
    exact h.permanent hn

/-- One step: the count goes up with a failed match, and the invariant goes with it. -/
theorem counted_step {U : Util} {n : Nat} {l l' : LockoutControl} {op : LockoutOp}
    {o : List Output} (h : l.Counted n) (hop : ¬ op.Forgives)
    (hstep : l.step U op = some (l', o)) :
    l'.Counted (n + if op.isFailure then 1 else 0) := by
  have hs := step_cases hstep
  cases op with
  | matched => exact absurd trivial hop
  | resetAccepted cb => exact absurd trivial hop
  | failedMatch cb clk =>
      obtain ⟨rfl, -⟩ := hs
      exact counted_failedMatch h
  | pointerDown cb clk =>
      obtain ⟨rfl, -⟩ := hs
      exact counted_check h
  | expired i now =>
      obtain ⟨t, ht, rfl, -⟩ := hs
      exact counted_expire h ht

end LockoutControl

/-! ## Runs -/

/-- The failed matches that were given to open sessions in `ts`. -/
def failedMatches (ts : List Handler) : Nat := ts.countP isFailedMatch

/-- Neither a match nor an accepted `resetLockout`. -/
def Unforgiven (t : Handler) : Prop := isMatch t = false ∧ isAcceptedReset t = false

instance : DecidablePred Unforgiven := fun _ => inferInstanceAs (Decidable (_ ∧ _))

/-- In a run of the lockout machine without forgiveness the failures are counted. -/
theorem counted_run {U : Util} {l₀ l : LockoutControl} {n : Nat}
    {ts : List (Transition LockoutControl LockoutOp Output)}
    (h : (lockoutMachine U).Run l₀ ts l) (h₀ : l₀.Counted n)
    (hts : ∀ t ∈ ts, ¬ t.event.Forgives) :
    l.Counted (n + ts.countP fun t => t.event.isFailure) := by
  refine h.invariant (C := fun _ t => ¬ t.event.Forgives)
    (I := fun ts l => l.Counted (n + ts.countP fun t => t.event.isFailure))
    (along_mem.mpr hts) h₀ ?_
  intro us t hI hC hs
  rw [List.countP_append, ← Nat.add_assoc]
  have := LockoutControl.counted_step hI hC hs
  simpa [List.countP_cons] using this

/-- The lockout machine counts the failures the service dispatches. -/
theorem failedMatches_eq (ts : List Handler) :
    failedMatches ts = (ts.filterMap lockoutStep).countP fun t => t.event.isFailure := by
  rw [List.countP_filterMap, failedMatches]
  refine List.countP_congr fun t _ => ?_
  rw [isFailedMatch_iff]
  constructor
  · rintro ⟨cb, clk, h⟩
    simp [lockoutStep, Machine.absStep, h, LockoutOp.isFailure]
  · intro h
    simp only [lockoutStep, Machine.absStep] at h
    cases hl : lockoutOp t.pre t.event with
    | none => rw [hl] at h; simp at h
    | some op =>
        rw [hl] at h
        cases op with
        | failedMatch cb clk => exact ⟨cb, clk, rfl⟩
        | _ => simp [LockoutOp.isFailure] at h

/-- What is not forgiven in the service is not forgiven in the lockout machine. -/
theorem unforgiven_lockout {ts : List Handler} (h : ∀ t ∈ ts, Unforgiven t) :
    ∀ t ∈ ts.filterMap lockoutStep, ¬ t.event.Forgives := by
  intro t' ht'
  obtain ⟨t, ht, e⟩ := List.mem_filterMap.mp ht'
  obtain ⟨op, hop, rfl⟩ := Option.map_eq_some_iff.mp e
  obtain ⟨h1, h2⟩ := h t ht
  intro hf
  cases op with
  | matched => exact absurd (isMatch_iff.mpr hop) (by simp [h1])
  | resetAccepted cb => exact absurd (isAcceptedReset_iff.mpr ⟨cb, hop⟩) (by simp [h2])
  | _ => exact hf

/-- The invariant for the service. -/
theorem counted_service {U : Util} {mem : Memory} {w₀ w : Fingerprint} {ts : List Handler}
    {n : Nat} (h₀ : w₀.lockout.Counted n) (h : (service U mem).Run w₀ ts w)
    (hts : ∀ t ∈ ts, Unforgiven t) : w.lockout.Counted (n + failedMatches ts) := by
  rw [failedMatches_eq]
  exact counted_run (service_run_lockout h) h₀ (unforgiven_lockout hts)

/-- In a permanent lockout a pointer-down task only tells the session. -/
theorem pointerDown_permanent {U : Util} {mem : Memory} {w w' : Fingerprint}
    {inp : TaskInputs} {s : SessionId} {x y : BitVec 32} {q : List Task} {o : List Output}
    (hm : w.lockout.mLockoutTracker.mCurrentMode = .kPermanent)
    (hq : w.mWorker.items = ⟨s, .onPointerDown x y⟩ :: q)
    (hstep : (service U mem).step w (.work inp) = some (w', o)) :
    o = [.callback s .onLockoutPermanent] := by
  obtain ⟨t, r, hi, he⟩ := step_work.mp hstep
  obtain ⟨rfl, -⟩ := List.cons.inj (hi.symm.trans hq)
  have hc : w.lockout.checkSensorLockout U s inp.clk = _ := LockoutControl.check_permanent hm
  simp only [Task.run, hc, if_true, Fingerprint.withEngine] at he
  exact (Prod.mk.inj he).2

/-- **The permanent lockout is permanent.** From a clean engine, in every run without a
    match and without an accepted `resetLockout`: once twenty failed matches have been
    given to open sessions (in `ts`), the tracker is in `kPermanent`, whatever comes after
    (`us`), and a pointer-down task that runs then puts out `onLockoutPermanent` to its
    session and nothing else. -/
theorem permanent_lockout_stays {U : Util} {mem : Memory} {w₀ w : Fingerprint}
    {ts us : List Handler} (hclean : w₀.lockout.Clean)
    (hrun : (service U mem).Run w₀ (ts ++ us) w) (hunf : ∀ t ∈ ts ++ us, Unforgiven t)
    (hfail : LOCKOUT_PERMANENT_THRESHOLD ≤ failedMatches ts) :
    w.mEngine.mLockoutTracker.mCurrentMode = .kPermanent ∧
      ∀ inp s x y q w' o, w.mWorker.items = ⟨s, .onPointerDown x y⟩ :: q →
        (service U mem).step w (.work inp) = some (w', o) →
        o = [.callback s .onLockoutPermanent] := by
  have hn : 20 ≤ failedMatches (ts ++ us) := by
    unfold failedMatches LOCKOUT_PERMANENT_THRESHOLD at *
    rw [List.countP_append]
    omega
  have hm := (counted_service hclean.counted hrun hunf).permanent (by omega)
  exact ⟨hm, fun inp s x y q w' o hq hstep => pointerDown_permanent hm hq hstep⟩

/-- One session and twenty failed matches. -/
def twentyFailures : List Event :=
  .createSession 0 10 0 :: List.replicate 20 (failureAt 1)

theorem permanent_lockout_stays_twenty :
    ((service .millis .zeroed).final .ready
      twentyFailures).mEngine.mLockoutTracker.mCurrentMode = .kPermanent :=
  (@permanent_lockout_stays .millis .zeroed .ready _
    ((service .millis .zeroed).steps .ready twentyFailures) [] ⟨rfl, rfl, rfl, rfl, rfl⟩
    (by rw [List.append_nil]; exact Machine.run_steps (by decide +kernel))
    (by decide +kernel) (by decide +kernel)).1

end FingerprintHal
