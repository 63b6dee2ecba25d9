/-
  What the framework knows of a lockout.

  A lockout ends along four paths, and two of them are silent: a match, and `getMode` when
  it finds the time over. The other two tell a session that need not be the open one: the
  one whose `resetLockout` task runs, the one the timer was launched for. The view of the
  open session agrees with the tracker exactly in the runs that meet none of this
  (`view_agrees_iff`). What is told is true in any case: `onLockoutCleared` is sent by
  steps that leave no lockout only.
-/
import FingerprintHal.Lockout.Timer

namespace FingerprintHal

open Lib

namespace LockoutTracker

/-- Out of a lockout, `getMode` leads when the time is over. -/
theorem getMode_eq_kNone_iff {U : Util} {now : Int} {t : LockoutTracker} (h : t.Locked) :
    (t.getMode U now).mCurrentMode = .kNone ↔ t.Lapsed U now := by
  unfold getMode
  split
  · next hl => exact ⟨fun _ => hl, fun _ => rfl⟩
  · next hl => exact ⟨fun hn => absurd hn h.ne_kNone, fun hl' => absurd hl' hl⟩

/-- A failed attempt in a lockout leaves it as it is, or makes it permanent. -/
theorem lapsed_addFailedAttempt_iff {U : Util} {at₁ now : Int} {t : LockoutTracker}
    (h : t.Locked) :
    (t.addFailedAttempt at₁).Lapsed U now ↔
      int32 (t.mFailedCount + 1) < LOCKOUT_PERMANENT_THRESHOLD ∧ t.Lapsed U now := by
  unfold addFailedAttempt Lapsed
  dsimp only
  split
  · next hp =>
      constructor
      · rintro ⟨hk, -⟩
        cases hk
      · rintro ⟨hlt, -⟩
        omega
  · next hp =>
      rw [if_neg (by rintro ⟨-, hn⟩; exact h.ne_kNone hn)]
      exact ⟨fun hl => ⟨Int.not_le.mp hp, hl⟩, fun hl => hl.2⟩

end LockoutTracker

namespace LockoutControl

/-- `checkSensorLockout` never says that a lockout is over. -/
theorem check_not_cleared {U : Util} {cb : SessionId} {clk : Readings} {l : LockoutControl} :
    ∀ o ∈ (l.checkSensorLockout U cb clk).2.2, o.isLockoutCleared = false := by
  intro o ho
  rcases check_cases U cb clk l with ⟨-, e⟩ | ⟨-, -, e⟩ | ⟨-, -, e⟩ | ⟨-, -, e⟩
  · rw [e, List.mem_singleton] at ho
    rw [ho]
    rfl
  · rw [e, List.mem_singleton] at ho
    rw [ho]
    rfl
  · rw [e] at ho
    cases ho
  · rw [e] at ho
    cases ho

/-- With session `s` open and a lockout, `op` tells `s` if it ends the lockout. -/
def Tells (U : Util) (s : SessionId) (l : LockoutControl) : LockoutOp → Prop
  | .matched => False
  | .failedMatch _ clk =>
      ¬ (int32 (l.mLockoutTracker.mFailedCount + 1) < LOCKOUT_PERMANENT_THRESHOLD ∧
        l.mLockoutTracker.Lapsed U clk.atMode)
  | .pointerDown _ clk => ¬ l.mLockoutTracker.Lapsed U clk.atMode
  | .resetAccepted cb => cb = s
  | .expired i _ => l.isLockoutTimerAborted = true ∨ ∀ t ∈ l.timers[i]?, t.cb = s

instance (U : Util) (s : SessionId) (l : LockoutControl) : DecidablePred (Tells U s l)
  | .matched => inferInstanceAs (Decidable False)
  | .failedMatch _ _ => inferInstanceAs (Decidable (¬ _))
  | .pointerDown _ _ => inferInstanceAs (Decidable (¬ _))
  | .resetAccepted cb => inferInstanceAs (Decidable (cb = s))
  | .expired i _ => inferInstanceAs (Decidable (_ ∨ ∀ t ∈ l.timers[i]?, t.cb = s))

/-- `checkSensorLockout` ends a lockout in silence. -/
theorem check_tells_iff {U : Util} {s cb : SessionId} {clk : Readings} {l : LockoutControl}
    (h : l.mLockoutTracker.Locked) :
    ((l.checkSensorLockout U cb clk).2.1.mLockoutTracker.mCurrentMode = .kNone →
      Output.callback s .onLockoutCleared ∈ (l.checkSensorLockout U cb clk).2.2) ↔
      ¬ l.mLockoutTracker.Lapsed U clk.atMode := by
  rw [check_tracker, LockoutTracker.getMode_eq_kNone_iff h]
  constructor
  · intro himp hl
    have := check_not_cleared _ (himp hl)
    cases this
  · intro hn hl
    exact absurd hl hn

/-- The step that ends a lockout tells `s` exactly when `Tells` says so. -/
theorem step_tells_iff {U : Util} {s : SessionId} {l l' : LockoutControl} {op : LockoutOp}
    {o : List Output} (h : l.mLockoutTracker.Locked) (hstep : l.step U op = some (l', o)) :
    (l'.mLockoutTracker.mCurrentMode = .kNone → Output.callback s .onLockoutCleared ∈ o) ↔
      l.Tells U s op := by
  have hs := step_cases hstep
  cases op with
  | matched =>
      obtain ⟨rfl, rfl⟩ := hs
      exact ⟨fun himp => absurd (himp rfl) (by simp), False.elim⟩
  | failedMatch cb clk =>
      obtain ⟨rfl, rfl⟩ := hs
      unfold failedMatch
      rw [check_tells_iff (LockoutTracker.locked_addFailedAttempt h)]
      exact not_congr (LockoutTracker.lapsed_addFailedAttempt_iff h)
  | pointerDown cb clk =>
      obtain ⟨rfl, rfl⟩ := hs
      exact check_tells_iff h
  | resetAccepted cb =>
      obtain ⟨rfl, rfl⟩ := hs
      constructor
      · intro himp
        have := List.mem_singleton.mp (himp rfl)
        exact ((Output.callback.inj this).1).symm
      · rintro rfl -
        exact List.mem_singleton.mpr rfl
  | expired i now =>
      obtain ⟨t, ht, rfl, rfl⟩ := hs
      cases ha : l.isLockoutTimerAborted with
      | true =>
          rw [expire_aborted ha]
          exact ⟨fun _ => Or.inl ha, fun _ hn => absurd hn h.ne_kNone⟩
      | false =>
          rw [expire_live ha]
          constructor
          · intro himp
            have := (Output.callback.inj (List.mem_singleton.mp (himp rfl))).1
            refine Or.inr fun t' ht' => ?_
            cases ht.symm.trans ht'
            exact this.symm
          · rintro (hab | hcb) -
            · rw [ha] at hab
              cases hab
            · rw [hcb t ht]
              exact List.mem_singleton.mpr rfl

/-- What is told is true. -/
theorem step_cleared {U : Util} {l l' : LockoutControl} {op : LockoutOp} {o : List Output}
    (hstep : l.step U op = some (l', o)) (h : Clears o) :
    l'.mLockoutTracker.mCurrentMode = .kNone := by
  obtain ⟨x, hx, hc⟩ := h
  have hs := step_cases hstep
  cases op with
  | matched =>
      obtain ⟨-, rfl⟩ := hs
      cases hx
  | failedMatch cb clk =>
      obtain ⟨-, rfl⟩ := hs
      rw [check_not_cleared x hx] at hc
      cases hc
  | pointerDown cb clk =>
      obtain ⟨-, rfl⟩ := hs
      rw [check_not_cleared x hx] at hc
      cases hc
  | resetAccepted cb =>
      obtain ⟨rfl, -⟩ := hs
      rfl
  | expired i now =>
      obtain ⟨t, ht, rfl, rfl⟩ := hs
      cases ha : l.isLockoutTimerAborted with
      | true =>
          rw [expire_aborted ha] at hx
          cases hx
      | false =>
          rw [expire_live ha]
          rfl

end LockoutControl

/-! ## Along a run of the service -/

/-- If the step ends a lockout, the open session is told by it, and a session is told of
    the end only by a step that leaves no lockout. -/
def ViewAgrees (t : Handler) : Prop :=
  (t.pre.mEngine.mLockoutTracker.Locked →
    t.post.mEngine.mLockoutTracker.mCurrentMode = .kNone →
    ∀ s ∈ t.pre.openSession, Output.callback s .onLockoutCleared ∈ t.outs) ∧
  (Clears t.outs → t.post.mEngine.mLockoutTracker.mCurrentMode = .kNone)

instance : DecidablePred ViewAgrees := fun t => inferInstanceAs (Decidable
  ((t.pre.mEngine.mLockoutTracker.Locked →
    t.post.mEngine.mLockoutTracker.mCurrentMode = .kNone →
    ∀ s ∈ t.pre.openSession, Output.callback s .onLockoutCleared ∈ t.outs) ∧
  (Clears t.outs → t.post.mEngine.mLockoutTracker.mCurrentMode = .kNone)))

/-- With a session open and a lockout: this step is no match, no check that finds the time
    over, no reset for another session than the open one, and no live timer launched for
    another session. -/
def TellsOpenSession (U : Util) (t : Handler) : Prop :=
  ∀ op ∈ lockoutOp t.pre t.event, t.pre.mEngine.mLockoutTracker.Locked →
    ∀ s ∈ t.pre.openSession, t.pre.lockout.Tells U s op

instance (U : Util) : DecidablePred (TellsOpenSession U) := fun t =>
  inferInstanceAs (Decidable (∀ op ∈ lockoutOp t.pre t.event,
    t.pre.mEngine.mLockoutTracker.Locked →
    ∀ s ∈ t.pre.openSession, t.pre.lockout.Tells U s op))

/-- One step: the views agree when the path that is taken tells the open session. -/
theorem viewAgrees_step {U : Util} {mem : Memory} {t : Handler}
    (hstep : (service U mem).step t.pre t.event = some (t.post, t.outs)) :
    ViewAgrees t ↔ TellsOpenSession U t := by
  have hmem : ∀ o : Output, o.isLockout = true →
      (o ∈ t.outs.filter Output.isLockout ↔ o ∈ t.outs) :=
    fun o ho => ⟨fun h => (List.mem_filter.mp h).1, fun h => List.mem_filter.mpr ⟨h, ho⟩⟩
  cases hop : lockoutOp t.pre t.event with
  | none =>
      obtain ⟨hpost, hnone⟩ := step_unseen hstep hop
      have hmode : t.post.mEngine.mLockoutTracker = t.pre.mEngine.mLockoutTracker :=
        congrArg LockoutControl.mLockoutTracker hpost
      constructor
      · intro _ op h
        rw [hop] at h
        cases h
      · intro _
        refine ⟨fun hlock hn => ?_, ?_⟩
        · rw [hmode] at hn
          exact absurd hn hlock.ne_kNone
        · rintro ⟨x, hx, hc⟩
          have := (hmem x (isLockout_of_isLockoutCleared hc)).mpr hx
          rw [hnone] at this
          cases this
  | some op =>
      have hl := step_seen hstep hop
      constructor
      · rintro ⟨htell, -⟩ op' h hlock s hs
        rw [hop] at h
        cases h
        refine (LockoutControl.step_tells_iff hlock hl).mp fun hn => ?_
        exact (hmem _ rfl).mpr (htell hlock hn s hs)
      · intro htell
        refine ⟨fun hlock hn s hs => ?_, ?_⟩
        · have h := htell op hop hlock s hs
          exact (hmem _ rfl).mp ((LockoutControl.step_tells_iff hlock hl).mpr h hn)
        · rintro ⟨x, hx, hc⟩
          refine LockoutControl.step_cleared hl ⟨x, ?_, hc⟩
          exact (hmem x (isLockout_of_isLockoutCleared hc)).mpr hx

/-- **When the framework's view agrees with the tracker.** Along every run, the steps that
    end a lockout all tell the open session, and nothing else tells of an end, exactly when
    every step meets `TellsOpenSession`. -/
theorem view_agrees_iff {U : Util} {mem : Memory} {w₀ w : Fingerprint} {ts : List Handler}
    (hrun : (service U mem).Run w₀ ts w) :
    (∀ t ∈ ts, ViewAgrees t) ↔ ∀ t ∈ ts, TellsOpenSession U t :=
  forall₂_congr fun _ ht => viewAgrees_step (hrun.step_of_mem ht)

/-- Five failures, then the timer. -/
theorem view_agrees_timer :
    let ts := (service .millis .zeroed).steps .ready
      (fiveFailures ++ [.timer 0 10000000001])
    (∃ t ∈ ts, Clears t.outs) ∧ ∀ t ∈ ts, ViewAgrees t :=
  ⟨by decide +kernel,
    (view_agrees_iff (Machine.run_steps (by decide +kernel))).mpr (by decide +kernel)⟩

/-- The timer tells the session it was launched for, which is closed, and not the session
    that was opened since. -/
theorem open_session_not_told :
    let M := service .millis .zeroed
    let es := fiveFailures ++ [.close 0, .createSession 0 10 0, .timer 0 10000000001]
    M.Run .ready (M.steps .ready es) (M.final .ready es) ∧
      ¬ ∀ t ∈ M.steps .ready es, ViewAgrees t :=
  ⟨Machine.run_steps (by decide +kernel), by decide +kernel⟩

end FingerprintHal
