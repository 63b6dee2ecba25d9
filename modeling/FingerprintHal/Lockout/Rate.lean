/-
  How fast fingers can be tried.

  A failed match is a guess when it finds the sensor not locked. The first lockout comes
  with the fifth of them. After that each lockout is followed by two more guesses at most:
  the one that finds its time over and is let off, and the one that starts the next
  lockout. Lockouts are a duration apart, so without a match and without an accepted
  `resetLockout` the guesses are at most five, and two for each duration that has gone by;
  and never more than twenty, the count of the permanent lockout (`guesses_bounded`).

  `Paced` is the invariant: `k` lockouts are over, and each of them took its time.
-/
import FingerprintHal.Lockout.Tracker
import FingerprintHal.Lockout.View

namespace FingerprintHal

open Lib

/-! ## Guesses -/

/-- A failed match whose handler would find no lockout without it. -/
def LockoutOp.isGuess (U : Util) (l : LockoutControl) : LockoutOp → Bool
  | .failedMatch _ clk => !decide (l.mLockoutTracker.getMode U clk.atMode).Locked
  | _ => false

/-- In the service. -/
def isGuess (U : Util) (t : Handler) : Bool :=
  (lockoutOp t.pre t.event).any (LockoutOp.isGuess U t.pre.lockout)

/-- The guesses in `ts`. -/
def guesses (U : Util) (ts : List Handler) : Nat := ts.countP (isGuess U)

theorem guesses_snoc (U : Util) (ts : List Handler) (t : Handler) :
    guesses U (ts ++ [t]) = guesses U ts + if isGuess U t = true then 1 else 0 := by
  unfold guesses
  rw [List.countP_append, List.countP_singleton]

/-! ## The invariant of the tracker -/

namespace LockoutTracker

/-- After `n` guesses at the clock `c`, with `k` lockouts over since `c₀`. -/
structure Paced (c₀ c : Int) (n k : Nat) (t : LockoutTracker) : Prop where
  known : t.mCurrentMode ≠ .other
  few : t.mCurrentMode = .kNone → t.mFailedCount < LOCKOUT_TIMED_THRESHOLD →
    n ≤ t.mFailedCount
  none : t.mCurrentMode = .kNone →
    n ≤ 4 + 2 * k ∧ c₀ + LOCKOUT_TIMED_DURATION * 1000000 * k ≤ c
  timed : t.mCurrentMode = .kTimed →
    LOCKOUT_TIMED_THRESHOLD ≤ t.mFailedCount ∧ n ≤ 5 + 2 * k ∧
      c₀ + LOCKOUT_TIMED_DURATION * 1000000 * k ≤ t.mLockoutTimedStart ∧
      t.mLockoutTimedStart ≤ c
  permanent : t.mCurrentMode = .kPermanent →
    n ≤ 5 + 2 * k ∧ c₀ + LOCKOUT_TIMED_DURATION * 1000000 * k ≤ c

variable {U : Util} {c₀ c c' now : Int} {n k : Nat} {t : LockoutTracker}

theorem Paced.later (h : t.Paced c₀ c n k) (hc : c ≤ c') : t.Paced c₀ c' n k where
  known := h.known
  few := h.few
  none hm := ⟨(h.none hm).1, Int.le_trans (h.none hm).2 hc⟩
  timed hm := by
    obtain ⟨h1, h2, h3, h4⟩ := h.timed hm
    exact ⟨h1, h2, h3, Int.le_trans h4 hc⟩
  permanent hm := ⟨(h.permanent hm).1, Int.le_trans (h.permanent hm).2 hc⟩

/-- In every mode the lockouts that are over leave room for no more guesses than this. -/
theorem Paced.bound (h : t.Paced c₀ c n k) :
    (n : Int) ≤ 5 + 2 * ((c - c₀) / (LOCKOUT_TIMED_DURATION * 1000000)) := by
  have hk : n ≤ 5 + 2 * k ∧ c₀ + LOCKOUT_TIMED_DURATION * 1000000 * k ≤ c := by
    cases hm : t.mCurrentMode with
    | kNone =>
        obtain ⟨h1, h2⟩ := h.none hm
        exact ⟨by omega, h2⟩
    | kTimed =>
        obtain ⟨-, h1, h2, h3⟩ := h.timed hm
        exact ⟨h1, Int.le_trans h2 h3⟩
    | kPermanent => exact h.permanent hm
    | other => exact absurd hm h.known
  unfold LOCKOUT_TIMED_DURATION at *
  omega

/-- A timed lockout that is over makes one more, and leaves room for a guess. -/
theorem paced_over (h : t.Paced c₀ c n k) (hm : t.mCurrentMode = .kTimed)
    (hover : t.mLockoutTimedStart + LOCKOUT_TIMED_DURATION * 1000000 ≤ now) {m : Nat}
    (hmn : m ≤ n + 1) {t' : LockoutTracker} (hm' : t'.mCurrentMode = .kNone)
    (hc : LOCKOUT_TIMED_THRESHOLD ≤ t'.mFailedCount) : t'.Paced c₀ now m (k + 1) := by
  obtain ⟨h1, h2, h3, -⟩ := h.timed hm
  refine ⟨by simp [hm'], fun _ hf => by omega, fun _ => ?_, fun hk => ?_, fun hk => ?_⟩
  · unfold LOCKOUT_TIMED_DURATION at *
    exact ⟨by omega, by omega⟩
  · rw [hm'] at hk
    cases hk
  · rw [hm'] at hk
    cases hk

/-- `getMode` ends a lockout only when it is over. -/
theorem paced_getMode (hU : U.Lawful) (h : t.Paced c₀ c n k) (hc : c ≤ now) :
    ∃ k', (t.getMode U now).Paced c₀ now n k' := by
  rcases getMode_cases U now t with he | ⟨hm, helapsed, hnone⟩
  · rw [he]
    exact ⟨k, h.later hc⟩
  · have hlt := hU.elapsed _ _ _ helapsed
    refine ⟨k + 1, paced_over h hm (by omega) (Nat.le_succ n) hnone ?_⟩
    rw [getMode_count]
    exact (h.timed hm).1

/-- A guess, with the sensor not locked at all. -/
theorem paced_guess (h : t.Paced c₀ c n k) (hm : t.mCurrentMode = .kNone) (hc : c ≤ now)
    (hcount : int32 (t.mFailedCount + 1) = t.mFailedCount + 1) :
    (t.addFailedAttempt now).Paced c₀ now (n + 1) k := by
  obtain ⟨h1, h2⟩ := h.none hm
  have hfew := h.few hm
  unfold addFailedAttempt
  dsimp only
  rw [hcount, hm]
  split
  · next hp => exact ⟨by simp, by simp, by simp, by simp, fun _ => ⟨by omega, by omega⟩⟩
  · split
    · next hp ht =>
        exact ⟨by simp, by simp, by simp,
          fun _ => ⟨ht.1, by omega, by dsimp only; omega, Int.le_refl _⟩, by simp⟩
    · next hp ht =>
        have hlt : t.mFailedCount + 1 < LOCKOUT_TIMED_THRESHOLD := by
          simpa using ht
        refine ⟨by simp, fun _ _ => ?_, fun _ => ?_, by simp, by simp⟩
        · dsimp only
          omega
        · unfold LOCKOUT_TIMED_THRESHOLD at *
          exact ⟨by omega, by omega⟩

/-- A failed match in a lockout is no guess. -/
theorem paced_locked (h : t.Paced c₀ c n k) (hl : t.Locked) (hc : c ≤ now)
    (hcount : t.mCurrentMode = .kTimed → int32 (t.mFailedCount + 1) = t.mFailedCount + 1) :
    (t.addFailedAttempt now).Paced c₀ now n k := by
  rcases hl with hm | hm
  · obtain ⟨h1, h2, h3, h4⟩ := h.timed hm
    unfold addFailedAttempt
    dsimp only
    rw [hcount hm, hm]
    split
    · next hp => exact ⟨by simp, by simp, by simp, by simp, fun _ => ⟨h2, by omega⟩⟩
    · next hp =>
        rw [if_neg (by simp)]
        exact ⟨by simp, by simp, by simp,
          fun _ => ⟨by dsimp only; omega, h2, h3, Int.le_trans h4 hc⟩, by simp⟩
  · obtain ⟨h1, h2⟩ := h.permanent hm
    have hm' : (t.addFailedAttempt now).mCurrentMode = .kPermanent :=
      addFailedAttempt_kPermanent hm
    exact ⟨by simp [hm'], by simp [hm'], by simp [hm'], by simp [hm'],
      fun _ => ⟨h1, Int.le_trans h2 hc⟩⟩

/-- A failed match that finds the time of a lockout over is let off, or makes the lockout
    permanent. -/
theorem paced_lapsed (hU : U.Lawful) (h : t.Paced c₀ c n k) (hl : t.Lapsed U now)
    {at₀ : Int} (hcount : int32 (t.mFailedCount + 1) = t.mFailedCount + 1) :
    ((t.addFailedAttempt at₀).getMode U now).Paced c₀ now (n + 1) (k + 1) := by
  obtain ⟨hm, helapsed⟩ := hl
  have hlt := hU.elapsed _ _ _ helapsed
  obtain ⟨h1, h2, h3, h4⟩ := h.timed hm
  by_cases hp : LOCKOUT_PERMANENT_THRESHOLD ≤ int32 (t.mFailedCount + 1)
  · have hm' : (t.addFailedAttempt at₀).mCurrentMode = .kPermanent := by
      rw [addFailedAttempt_mode, if_pos hp]
    rw [getMode_kPermanent hm']
    refine ⟨by simp [hm'], by simp [hm'], by simp [hm'], by simp [hm'], fun _ => ?_⟩
    unfold LOCKOUT_TIMED_DURATION at *
    exact ⟨by omega, by omega⟩
  · have hlapsed : (t.addFailedAttempt at₀).Lapsed U now :=
      (lapsed_addFailedAttempt_iff (Or.inl hm)).mpr ⟨Int.not_le.mp hp, hm, helapsed⟩
    have hnone : ((t.addFailedAttempt at₀).getMode U now).mCurrentMode = .kNone :=
      (getMode_eq_kNone_iff (Or.inl hlapsed.1)).mpr hlapsed
    refine paced_over h hm (by omega) (Nat.le_refl _) hnone ?_
    rw [getMode_count, addFailedAttempt_count, hcount]
    omega

/-- A failed match, guess or not. -/
theorem paced_failedMatch (hU : U.Lawful) (h : t.Paced c₀ c n k) {clk : Readings}
    (hc : c ≤ clk.atFailure)
    (hcount : t.mCurrentMode ≠ .kPermanent → int32 (t.mFailedCount + 1) = t.mFailedCount + 1) :
    ∃ k', ((t.addFailedAttempt clk.atFailure).getMode U clk.atMode).Paced c₀ clk.atMode
      (n + if (!decide (t.getMode U clk.atMode).Locked) = true then 1 else 0) k' := by
  have hle := clk.mode_after
  simp only [Bool.not_eq_true', decide_eq_false_iff_not, getMode_locked_iff]
  by_cases hl : t.Locked
  · by_cases hlap : t.Lapsed U clk.atMode
    · rw [if_pos fun hn => hn.2 hlap]
      exact ⟨k + 1, paced_lapsed hU h hlap (hcount (by rw [hlap.1]; simp))⟩
    · rw [if_neg fun hn => hn ⟨hl, hlap⟩]
      exact paced_getMode hU (paced_locked h hl hc fun hm => hcount (by rw [hm]; simp)) hle
  · rw [if_pos fun hn => hl hn.1]
    have hm : t.mCurrentMode = .kNone := by
      have hk := h.known
      unfold Locked at hl
      cases hm : t.mCurrentMode <;> simp_all
    exact paced_getMode hU (paced_guess h hm hc (hcount (by rw [hm]; simp))) hle

end LockoutTracker

/-! ## Runs -/

section Runs

variable {U : Util} {mem : Memory} {c₀ : Int} {n k : Nat}

theorem paced_clean {l : LockoutControl} (h : l.Clean) (c : Int) :
    l.mLockoutTracker.Paced c c 0 0 := by
  rw [h.tracker]
  exact ⟨by simp, fun _ _ => Int.le_refl _, fun _ => ⟨by decide, by omega⟩, by simp, by simp⟩

/-- A timer that fires leaves the tracker alone, or ends a lockout that is over, or finds
    none. -/
theorem paced_timer {t : Handler} {i : Nat} {now : Int} (he : t.event = .timer i now)
    (hstep : (service U mem).step t.pre t.event = some (t.post, t.outs))
    (hwf : t.pre.lockout.WF) (hcut : NotCutShort t) (hn : t.pre.clock ≤ now)
    (h : t.pre.mEngine.mLockoutTracker.Paced c₀ t.pre.clock n k) :
    ∃ k', t.post.mEngine.mLockoutTracker.Paced c₀ now n k' := by
  rw [he] at hstep
  obtain ⟨tm, htm, ho⟩ := timer_lockout hstep
  cases ha : t.pre.mEngine.isLockoutTimerAborted with
  | true =>
      rw [LockoutControl.expire_aborted ha] at ho
      have ht : t.post.mEngine.mLockoutTracker = t.pre.mEngine.mLockoutTracker :=
        congrArg (fun r => r.1.mLockoutTracker) ho
      rw [ht]
      exact ⟨k, h.later hn⟩
  | false =>
      rw [LockoutControl.expire_live ha] at ho
      have ht : t.post.mEngine.mLockoutTracker = t.pre.mEngine.mLockoutTracker.reset true :=
        congrArg (fun r => r.1.mLockoutTracker) ho
      have hclears : Clears t.outs := by
        rw [show t.outs = _ from congrArg Prod.snd ho]
        exact ⟨_, List.mem_singleton.mpr rfl, rfl⟩
      rw [ht]
      cases hm : t.pre.mEngine.mLockoutTracker.mCurrentMode with
      | kNone =>
          refine ⟨k, by simp, fun _ hf => h.few hm hf, fun _ => ?_, by simp, by simp⟩
          exact ⟨(h.none hm).1, Int.le_trans (h.none hm).2 hn⟩
      | kTimed =>
          have hover := hcut (i, now) (by rw [he]; rfl) hm hclears
          exact ⟨k + 1, LockoutTracker.paced_over h hm hover (Nat.le_succ n) rfl
            (h.timed hm).1⟩
      | kPermanent =>
          have hne : t.pre.lockout.timers ≠ [] := by
            intro hnil
            rw [show t.pre.mEngine.timers = [] from hnil] at htm
            cases htm
          exact absurd ((hwf.permanent hm hne).symm.trans ha) (by simp)
      | other => exact absurd hm h.known

/-- One step of the service. -/
theorem paced_service (hU : U.Lawful) {t : Handler} {m : Nat}
    (hstep : (service U mem).step t.pre t.event = some (t.post, t.outs))
    (hn : Nondecreasing t) (hunf : Unforgiven t) (hwf : t.pre.lockout.WF)
    (hcut : NotCutShort t) (hcounted : t.pre.lockout.Counted m)
    (h : t.pre.mEngine.mLockoutTracker.Paced c₀ t.pre.clock n k) :
    ∃ k', t.post.mEngine.mLockoutTracker.Paced c₀ t.post.clock
      (n + if isGuess U t = true then 1 else 0) k' := by
  unfold isGuess
  cases hop : lockoutOp t.pre t.event with
  | none =>
      have ht : t.post.mEngine.mLockoutTracker = t.pre.mEngine.mLockoutTracker :=
        congrArg LockoutControl.mLockoutTracker (step_unseen hstep hop).1
      rw [ht]
      exact ⟨k, h.later (clock_le hstep hn)⟩
  | some op =>
      have hcases := LockoutControl.step_cases (step_seen hstep hop)
      cases op with
      | matched => exact absurd (isMatch_iff.mpr hop) (by rw [hunf.1]; simp)
      | resetAccepted cb => exact absurd (isAcceptedReset_iff.mpr ⟨cb, hop⟩) (by rw [hunf.2]; simp)
      | failedMatch cb clk =>
          have hclk := clock_of_check hstep (Or.inl hop)
          have hpre : t.pre.clock ≤ clk.atFailure := hn _ (starts_of_failedMatch hop).1
          have ht : t.post.mEngine.mLockoutTracker =
              (t.pre.mEngine.mLockoutTracker.addFailedAttempt clk.atFailure).getMode U
                clk.atMode :=
            (congrArg LockoutControl.mLockoutTracker hcases.1).trans
              (LockoutControl.check_tracker U cb clk _)
          obtain ⟨k', hk⟩ := LockoutTracker.paced_failedMatch hU h hpre fun hm => by
            -- short of a permanent lockout the count is below twenty
            have hlt : m < 20 := Nat.lt_of_not_le fun hle => hm (hcounted.permanent hle)
            have hc : t.pre.mEngine.mLockoutTracker.mFailedCount = m := hcounted.count hlt
            exact int32_of_lt (by omega) (by omega)
          rw [ht, hclk]
          exact ⟨k', hk.later clk.timeLeft_after⟩
      | pointerDown cb clk =>
          have hclk := clock_of_check hstep (Or.inr hop)
          obtain ⟨inp, x, y, q, he, -, rfl⟩ := lockoutOp_cases hop
          have hpre : t.pre.clock ≤ inp.clk.atFailure := hn _ (by rw [he]; rfl)
          have ht : t.post.mEngine.mLockoutTracker =
              t.pre.mEngine.mLockoutTracker.getMode U inp.clk.atMode :=
            (congrArg LockoutControl.mLockoutTracker hcases.1).trans
              (LockoutControl.check_tracker U cb inp.clk _)
          obtain ⟨k', hk⟩ :=
            LockoutTracker.paced_getMode hU h (Int.le_trans hpre inp.clk.mode_after)
          rw [ht, hclk]
          exact ⟨k', hk.later inp.clk.timeLeft_after⟩
      | expired i now =>
          have he : t.event = .timer i now := lockoutOp_cases hop
          have hclk : t.post.clock = now := by
            rw [step_clock hstep, he]
            rfl
          rw [hclk]
          exact paced_timer he hstep hwf hcut (hn _ (by rw [he]; rfl)) h

end Runs

/-- A guess is a failed match, and there is none in a permanent lockout. -/
theorem guess_failedMatch {U : Util} {t : Handler} (h : isGuess U t = true) :
    isFailedMatch t = true ∧ t.pre.mEngine.mLockoutTracker.mCurrentMode ≠ .kPermanent := by
  unfold isGuess at h
  cases hop : lockoutOp t.pre t.event with
  | none =>
      rw [hop] at h
      cases h
  | some op =>
      rw [hop, Option.any_some] at h
      cases op with
      | failedMatch cb clk =>
          refine ⟨isFailedMatch_iff.mpr ⟨cb, clk, hop⟩, fun hm => ?_⟩
          simp only [LockoutOp.isGuess, Bool.not_eq_true', decide_eq_false_iff_not] at h
          rw [LockoutTracker.getMode_kPermanent hm] at h
          exact h (Or.inr hm)
      | _ => cases h

/-- One step more, in which nothing is forgiven. -/
theorem counted_snoc {U : Util} {mem : Memory} {us : List Handler} {t : Handler}
    (h : t.pre.lockout.Counted (failedMatches us)) (hu : Unforgiven t)
    (hstep : (service U mem).step t.pre t.event = some (t.post, t.outs)) :
    t.post.lockout.Counted (failedMatches (us ++ [t])) := by
  have hsnoc : failedMatches (us ++ [t]) = failedMatches us + failedMatches [t] :=
    List.countP_append
  rw [hsnoc]
  exact counted_service h (.single hstep) fun u hu' => by
    rw [List.mem_singleton.mp hu']
    exact hu

/-- The twentieth failed match leads into the permanent lockout, so no more of them can be
    guesses. -/
theorem guesses_le_twenty {U : Util} {mem : Memory} {w₀ w : Fingerprint} {ts : List Handler}
    (hclean : w₀.lockout.Clean) (hrun : (service U mem).Run w₀ ts w)
    (hunf : ∀ t ∈ ts, Unforgiven t) :
    w.lockout.Counted (failedMatches ts) ∧ guesses U ts ≤ failedMatches ts ∧
      guesses U ts ≤ 20 := by
  refine hrun.invariant (C := fun _ t => Unforgiven t)
    (I := fun us w => w.lockout.Counted (failedMatches us) ∧
      guesses U us ≤ failedMatches us ∧ guesses U us ≤ 20)
    (along_mem.mpr hunf) ⟨hclean.counted, Nat.le_refl 0, Nat.zero_le 20⟩ ?_
  rintro us t ⟨hcounted, hle, htwenty⟩ hu hstep
  refine ⟨counted_snoc hcounted hu hstep, ?_⟩
  rw [guesses_snoc, failedMatches, List.countP_append, List.countP_singleton, ← failedMatches]
  split
  · next hguess =>
      obtain ⟨hfail, hm⟩ := guess_failedMatch hguess
      rw [if_pos hfail]
      have hlt : failedMatches us < 20 := Nat.lt_of_not_le fun h => hm (hcounted.permanent h)
      exact ⟨by omega, by omega⟩
  · exact ⟨by omega, htwenty⟩

/-- **How fast fingers can be tried.** From a clean engine, with a clock that does not go
    back, timers that sleep as long as they were told and lockouts that no older timer
    ends: while there is no match and no accepted `resetLockout`, no more than five
    guesses, and two for each duration of a lockout that has gone by, and never more than
    twenty. -/
theorem guesses_bounded {U : Util} {mem : Memory} (hU : U.Lawful) {w₀ w : Fingerprint}
    {ts : List Handler} (hclean : w₀.lockout.Clean) (hrun : (service U mem).Run w₀ ts w)
    (hclock : ∀ t ∈ ts, Nondecreasing t) (hsleep : ∀ t ∈ ts, SleepsEnough t)
    (hfresh : ∀ t ∈ ts, StartsFresh t) (hunf : ∀ t ∈ ts, Unforgiven t) :
    (guesses U ts : Int) ≤
        5 + 2 * ((w.clock - w₀.clock) / (LOCKOUT_TIMED_DURATION * 1000000)) ∧
      guesses U ts ≤ 20 := by
  refine ⟨?_, (guesses_le_twenty hclean hrun hunf).2.2⟩
  have hpaced : (w.lockout.WF ∧ w.lockout.Covered w.clock) ∧
      w.lockout.Counted (failedMatches ts) ∧
      ∃ k, w.mEngine.mLockoutTracker.Paced w₀.clock w.clock (guesses U ts) k := by
    refine hrun.invariant
      (C := fun _ t => Nondecreasing t ∧ SleepsEnough t ∧ StartsFresh t ∧ Unforgiven t)
      (I := fun us w => (w.lockout.WF ∧ w.lockout.Covered w.clock) ∧
        w.lockout.Counted (failedMatches us) ∧
        ∃ k, w.mEngine.mLockoutTracker.Paced w₀.clock w.clock (guesses U us) k)
      (along_mem.mpr fun t ht => ⟨hclock t ht, hsleep t ht, hfresh t ht, hunf t ht⟩)
      ⟨⟨hclean.wf, hclean.covered⟩, hclean.counted, 0, paced_clean hclean _⟩ ?_
    rintro us t ⟨⟨hwf, hcov⟩, hm, k, hk⟩ ⟨hn, hs, hf, hu⟩ hstep
    refine ⟨covered_service ⟨hwf, hcov⟩ hn hf hstep, counted_snoc hm hu hstep, ?_⟩
    rw [guesses_snoc]
    exact paced_service hU hstep hn hu hwf (notCutShort_of_covered hcov hs hstep) hm hk
  obtain ⟨-, -, k, hk⟩ := hpaced
  exact hk.bound

/-- The bound is met: the sixth guess is let off, and the seventh starts a lockout. -/
theorem guesses_bounded_seven :
    let M := service .millis .zeroed
    let es := fiveFailures ++ [failureAt 10001000002, .timer 0 10001000002,
      failureAt 10001000002]
    guesses .millis (M.steps .ready es) = 7 ∧
      ((guesses .millis (M.steps .ready es) : Int) ≤
          5 + 2 * (((M.final .ready es).clock - Fingerprint.ready.clock) /
            (LOCKOUT_TIMED_DURATION * 1000000)) ∧
        guesses .millis (M.steps .ready es) ≤ 20) :=
  ⟨by decide +kernel, guesses_bounded Util.millis_lawful ⟨rfl, rfl, rfl, rfl, rfl⟩
    (Machine.run_steps (by decide +kernel)) (by decide +kernel) (by decide +kernel)
    (by decide +kernel) (by decide +kernel)⟩

end FingerprintHal
