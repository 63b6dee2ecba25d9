/-
  Which failed matches a lockout counts.

  A match resets the tracker with `reset(true)`, the reset of a lockout that timed out:
  the mode and the start go, the count of failed attempts stays. So the failures before a
  match still count after it. A lockout is entered on the failures since the last match or
  accepted `resetLockout` alone in every run in which each match finds the count at zero
  (`counts_since_success`). Along such a run the count never exceeds those failures
  (`Counts`), and a lockout is entered on the count.
-/
import FingerprintHal.Lib.History
import FingerprintHal.Lockout.Permanent

namespace FingerprintHal

open Lib

/-- The failed matches since the last match or accepted `resetLockout`, whichever is
    later. -/
def failuresSince (us : List Handler) : Nat :=
  (sinceLast (fun t => isMatch t || isAcceptedReset t) us).countP isFailedMatch

/-- A failed match that leads into a lockout completes as many failures since the last
    match or accepted `resetLockout` as that lockout takes. -/
def CountsSinceSuccess (us : List Handler) (t : Handler) : Prop :=
  isFailedMatch t = true →
    (t.pre.mEngine.mLockoutTracker.mCurrentMode = .kNone →
      t.post.mEngine.mLockoutTracker.mCurrentMode = .kTimed →
      LOCKOUT_TIMED_THRESHOLD ≤ failuresSince (us ++ [t])) ∧
    (t.pre.mEngine.mLockoutTracker.mCurrentMode ≠ .kPermanent →
      t.post.mEngine.mLockoutTracker.mCurrentMode = .kPermanent →
      LOCKOUT_PERMANENT_THRESHOLD ≤ failuresSince (us ++ [t]))

instance (us : List Handler) : DecidablePred (CountsSinceSuccess us) :=
  fun t => inferInstanceAs (Decidable (isFailedMatch t = true →
    (t.pre.mEngine.mLockoutTracker.mCurrentMode = .kNone →
      t.post.mEngine.mLockoutTracker.mCurrentMode = .kTimed →
      LOCKOUT_TIMED_THRESHOLD ≤ failuresSince (us ++ [t])) ∧
    (t.pre.mEngine.mLockoutTracker.mCurrentMode ≠ .kPermanent →
      t.post.mEngine.mLockoutTracker.mCurrentMode = .kPermanent →
      LOCKOUT_PERMANENT_THRESHOLD ≤ failuresSince (us ++ [t]))))

/-- A match finds no failures counted. -/
def MatchFindsNone (t : Handler) : Prop :=
  isMatch t = true → t.pre.mEngine.mLockoutTracker.mFailedCount = 0

instance : DecidablePred MatchFindsNone :=
  fun t => inferInstanceAs (Decidable
    (isMatch t = true → t.pre.mEngine.mLockoutTracker.mFailedCount = 0))

theorem failuresSince_snoc (us : List Handler) (t : Handler) :
    failuresSince (us ++ [t]) = if (isMatch t || isAcceptedReset t) = true then 0
      else failuresSince us + if isFailedMatch t = true then 1 else 0 :=
  countP_sinceLast_snoc _ _ us t

/-- One more operation of the lockout part, in the failures since the last match or
    accepted `resetLockout`. -/
def LockoutOp.failuresAfter (n : Nat) : LockoutOp → Nat
  | .matched => 0
  | .failedMatch _ _ => n + 1
  | .resetAccepted _ => 0
  | _ => n

/-- The failures are those the lockout part sees. -/
theorem failuresSince_step (us : List Handler) (t : Handler) :
    failuresSince (us ++ [t]) =
      (lockoutOp t.pre t.event).elim (failuresSince us)
        (LockoutOp.failuresAfter (failuresSince us)) := by
  have hm := isMatch_iff (t := t)
  have hf := isFailedMatch_iff (t := t)
  have hr := isAcceptedReset_iff (t := t)
  rw [failuresSince_snoc]
  cases hop : lockoutOp t.pre t.event with
  | none => simp_all
  | some op => cases op <;> simp_all [LockoutOp.failuresAfter]

/-! ## The count -/

/-- The invariant: the count is an `int32_t`, and no more than the failures since the last
    match or accepted `resetLockout`. -/
structure Counts (n : Nat) (l : LockoutControl) : Prop where
  least : -2147483648 ≤ l.mLockoutTracker.mFailedCount
  most : l.mLockoutTracker.mFailedCount ≤ n

/-- Counting wraps around to below, so it never runs ahead. -/
theorem int32_le {x : Int} (h : -2147483648 ≤ x) : -2147483648 ≤ int32 x ∧ int32 x ≤ x := by
  unfold int32
  omega

/-- The count of a failed match. -/
theorem failedMatch_count (U : Util) (cb : SessionId) (clk : Readings) (l : LockoutControl) :
    (l.failedMatch U cb clk).1.mLockoutTracker.mFailedCount =
      int32 (l.mLockoutTracker.mFailedCount + 1) := by
  unfold LockoutControl.failedMatch
  rw [LockoutControl.check_count, LockoutTracker.addFailedAttempt_count]

/-- One step of the lockout machine. -/
theorem counts_step {U : Util} {l l' : LockoutControl} {op : LockoutOp} {o : List Output}
    {n : Nat} (h : Counts n l) (hstep : l.step U op = some (l', o))
    (hmatch : op = .matched → l.mLockoutTracker.mFailedCount = 0) :
    Counts (op.failuresAfter n) l' := by
  have hs := LockoutControl.step_cases hstep
  have h1 := h.least
  have h2 := h.most
  cases op with
  | matched =>
      obtain ⟨rfl, -⟩ := hs
      have hc : l.matched.mLockoutTracker.mFailedCount = 0 := hmatch rfl
      exact ⟨by omega, by unfold LockoutOp.failuresAfter; omega⟩
  | failedMatch cb clk =>
      obtain ⟨rfl, -⟩ := hs
      have hc := failedMatch_count U cb clk l
      have hle := int32_le (x := l.mLockoutTracker.mFailedCount + 1) (by omega)
      have hn : ((LockoutOp.failedMatch cb clk).failuresAfter n : Int) = n + 1 := rfl
      exact ⟨by omega, by omega⟩
  | pointerDown cb clk =>
      obtain ⟨rfl, -⟩ := hs
      have hc := LockoutControl.check_count U cb clk l
      have hn : ((LockoutOp.pointerDown cb clk).failuresAfter n : Int) = n := rfl
      exact ⟨by omega, by omega⟩
  | resetAccepted cb =>
      obtain ⟨rfl, -⟩ := hs
      exact ⟨by simp [LockoutTracker.reset], by simp [LockoutTracker.reset]⟩
  | expired i now =>
      obtain ⟨t, -, rfl, -⟩ := hs
      cases ha : l.isLockoutTimerAborted with
      | true =>
          rw [LockoutControl.expire_aborted ha]
          exact ⟨h1, h2⟩
      | false =>
          rw [LockoutControl.expire_live ha]
          exact ⟨h1, h2⟩

/-- One step of the service. -/
theorem counts_service {U : Util} {mem : Memory} {us : List Handler} {t : Handler}
    (h : Counts (failuresSince us) t.pre.lockout) (hmatch : MatchFindsNone t)
    (hstep : (service U mem).step t.pre t.event = some (t.post, t.outs)) :
    Counts (failuresSince (us ++ [t])) t.post.lockout := by
  rw [failuresSince_step]
  cases hop : lockoutOp t.pre t.event with
  | none =>
      rw [(step_unseen hstep hop).1]
      exact h
  | some op =>
      refine counts_step h (step_seen hstep hop) ?_
      rintro rfl
      exact hmatch (isMatch_iff.mpr hop)

/-! ## Entering a lockout -/

/-- What a failed match leaves as a lockout is what counting it has made of the tracker. -/
theorem failedMatch_of_ne_kNone {U : Util} {cb : SessionId} {clk : Readings}
    {l : LockoutControl}
    (h : (l.failedMatch U cb clk).1.mLockoutTracker.mCurrentMode ≠ .kNone) :
    (l.failedMatch U cb clk).1.mLockoutTracker =
      l.mLockoutTracker.addFailedAttempt clk.atFailure := by
  unfold LockoutControl.failedMatch at h ⊢
  exact LockoutControl.check_of_ne_kNone h

/-- A failed match that leaves a timed lockout where there was none has counted up to its
    threshold. -/
theorem failedMatch_enters_timed {U : Util} {cb : SessionId} {clk : Readings}
    {l : LockoutControl} (h : l.mLockoutTracker.mCurrentMode = .kNone)
    (hk : (l.failedMatch U cb clk).1.mLockoutTracker.mCurrentMode = .kTimed) :
    LOCKOUT_TIMED_THRESHOLD ≤ (l.failedMatch U cb clk).1.mLockoutTracker.mFailedCount := by
  rw [failedMatch_count]
  rw [failedMatch_of_ne_kNone (by rw [hk]; simp)] at hk
  exact LockoutTracker.addFailedAttempt_enters_timed h hk

/-- And likewise for a permanent lockout. -/
theorem failedMatch_enters_permanent {U : Util} {cb : SessionId} {clk : Readings}
    {l : LockoutControl} (h : l.mLockoutTracker.mCurrentMode ≠ .kPermanent)
    (hk : (l.failedMatch U cb clk).1.mLockoutTracker.mCurrentMode = .kPermanent) :
    LOCKOUT_PERMANENT_THRESHOLD ≤
      (l.failedMatch U cb clk).1.mLockoutTracker.mFailedCount := by
  rw [failedMatch_count]
  rw [failedMatch_of_ne_kNone (by rw [hk]; simp)] at hk
  exact LockoutTracker.addFailedAttempt_enters_permanent h hk

/-- A lockout is entered on the count, which is at most the failures since. -/
theorem countsSinceSuccess_step {U : Util} {mem : Memory} {us : List Handler} {t : Handler}
    (h : Counts (failuresSince us) t.pre.lockout) (hmatch : MatchFindsNone t)
    (hstep : (service U mem).step t.pre t.event = some (t.post, t.outs)) :
    CountsSinceSuccess us t := by
  intro hfail
  obtain ⟨cb, clk, hop⟩ := isFailedMatch_iff.mp hfail
  obtain ⟨hpost, -⟩ := LockoutControl.step_cases (step_seen hstep hop)
  have hmost := (counts_service h hmatch hstep).most
  rw [hpost] at hmost
  refine ⟨fun hpre hk => ?_, fun hpre hk => ?_⟩
  · have hk' : t.post.lockout.mLockoutTracker.mCurrentMode = .kTimed := hk
    rw [hpost] at hk'
    exact Int.le_trans (failedMatch_enters_timed hpre hk') hmost
  · have hk' : t.post.lockout.mLockoutTracker.mCurrentMode = .kPermanent := hk
    rw [hpost] at hk'
    exact Int.le_trans (failedMatch_enters_permanent hpre hk') hmost

/-- **When only failures since the last success count.** From a clean engine, in every run
    in which each match finds the count at zero, a failed match leads into a lockout only
    when it completes as many failures since the last match or accepted `resetLockout` as
    that lockout takes. -/
theorem counts_since_success {U : Util} {mem : Memory} {w₀ w : Fingerprint}
    {ts : List Handler} (hclean : w₀.lockout.Clean) (hrun : (service U mem).Run w₀ ts w)
    (hmatch : ∀ t ∈ ts, MatchFindsNone t) : Along CountsSinceSuccess ts := by
  have h₀ : Counts (failuresSince []) w₀.lockout := by
    have hc : w₀.lockout.mLockoutTracker.mFailedCount = 0 := by rw [hclean.tracker]
    have hn : failuresSince [] = 0 := rfl
    exact ⟨by omega, by omega⟩
  exact hrun.along (C := fun _ t => MatchFindsNone t)
    (I := fun us w => Counts (failuresSince us) w.lockout) (along_mem.mpr hmatch) h₀
    (fun _ _ hI hC hs => counts_service hI hC hs)
    fun _ _ hI hC hs => countsSinceSuccess_step hI hC hs

/-- A match first, and five failures after it. -/
def matchThenFailures : List Event :=
  [.createSession 0 10 0, matchAt 1] ++ List.replicate 5 (failureAt 2)

theorem counts_since_success_five :
    let ts := (service .millis .zeroed).steps .ready matchThenFailures
    (∃ t ∈ ts, t.post.mEngine.mLockoutTracker.mCurrentMode = .kTimed) ∧
      Along CountsSinceSuccess ts :=
  ⟨by decide +kernel, counts_since_success ⟨rfl, rfl, rfl, rfl, rfl⟩
    (Machine.run_steps (by decide +kernel)) (by decide +kernel)⟩

/-- Four failures, a match, and one more failure, which leads into a timed lockout. -/
theorem one_failure_locks :
    let M := service .millis .zeroed
    let es := [.createSession 0 10 0] ++ List.replicate 4 (failureAt 1) ++
      [matchAt 2, failureAt 3]
    Fingerprint.ready.lockout.Clean ∧ M.Run .ready (M.steps .ready es) (M.final .ready es) ∧
      failuresSince (M.steps .ready es) = 1 ∧
      ¬ Along CountsSinceSuccess (M.steps .ready es) :=
  ⟨⟨rfl, rfl, rfl, rfl, rfl⟩, Machine.run_steps (by decide +kernel), by decide +kernel,
    by decide +kernel⟩

end FingerprintHal
