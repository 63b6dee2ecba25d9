/-
  The timer of a timed lockout.

  There is one started flag and one aborted flag for all lockouts. A timed lockout that is
  announced has a timer, but `lockoutTimerExpired` does nothing but take the two flags back
  when the aborted flag is up, whoever raised it: the lockout is ended by its timer exactly
  when the flag was down as it was announced (`endsByTimer_iff`).

  A timed lockout can also end while its timer sleeps on, and the next one then finds the
  started flag up and launches no timer of its own. No timer cuts a lockout short in a run
  in which every lockout starts with no live timer that would end it too early
  (`timers_keep_lockouts`).
-/
import FingerprintHal.Lockout.Unlock

namespace FingerprintHal

open Lib

/-! ## The callbacks of a step -/

def Output.isLockoutTimed : Output → Bool
  | .callback _ (.onLockoutTimed _) => true
  | _ => false

def Output.isLockoutCleared : Output → Bool
  | .callback _ .onLockoutCleared => true
  | _ => false

/-- The step told a session of a timed lockout. -/
def Announces (t : Handler) : Prop := ∃ o ∈ t.outs, o.isLockoutTimed = true

instance : DecidablePred Announces :=
  fun t => inferInstanceAs (Decidable (∃ o ∈ t.outs, o.isLockoutTimed = true))

/-- The step told a session that a lockout is over. -/
def Clears (outs : List Output) : Prop := ∃ o ∈ outs, o.isLockoutCleared = true

instance : DecidablePred Clears :=
  fun outs => inferInstanceAs (Decidable (∃ o ∈ outs, o.isLockoutCleared = true))

theorem isLockout_of_isLockoutTimed {o : Output} (h : o.isLockoutTimed = true) :
    o.isLockout = true := by
  unfold Output.isLockoutTimed at h
  split at h
  · rfl
  · cases h

theorem isLockout_of_isLockoutCleared {o : Output} (h : o.isLockoutCleared = true) :
    o.isLockout = true := by
  unfold Output.isLockoutCleared at h
  split at h
  · rfl
  · cases h

/-! ## An announced lockout has a timer -/

namespace LockoutControl

/-- An announcement leaves the started flag up and the aborted flag as it was. -/
theorem check_announces {U : Util} {cb : SessionId} {clk : Readings} {l : LockoutControl}
    (hs : l.isLockoutTimerSupported = true)
    (h : ∃ o ∈ (l.checkSensorLockout U cb clk).2.2, o.isLockoutTimed = true) :
    (l.checkSensorLockout U cb clk).2.1.isLockoutTimerStarted = true ∧
      (l.checkSensorLockout U cb clk).2.1.isLockoutTimerAborted =
        l.isLockoutTimerAborted := by
  obtain ⟨o, ho, hc⟩ := h
  rcases check_cases U cb clk l with ⟨-, e⟩ | ⟨-, -, e⟩ | ⟨-, -, e⟩ | ⟨-, -, e⟩
  · rw [e, List.mem_singleton] at ho
    rw [ho] at hc
    cases hc
  · rw [e]
    dsimp only
    split
    · exact ⟨rfl, rfl⟩
    · next hn =>
        have hst : l.isLockoutTimerStarted = true := by simpa [hs] using hn
        exact ⟨hst, rfl⟩
  · rw [e] at ho
    cases ho
  · rw [e] at ho
    cases ho

/-- A step of the lockout machine that announces a timed lockout. -/
theorem step_announces {U : Util} {l l' : LockoutControl} {op : LockoutOp} {o : List Output}
    (hs : l.isLockoutTimerSupported = true) (hstep : l.step U op = some (l', o))
    (h : ∃ x ∈ o, x.isLockoutTimed = true) :
    l'.isLockoutTimerStarted = true ∧ l'.isLockoutTimerAborted = l.isLockoutTimerAborted := by
  have hcase := step_cases hstep
  cases op with
  | matched =>
      obtain ⟨-, rfl⟩ := hcase
      obtain ⟨x, hx, -⟩ := h
      cases hx
  | failedMatch cb clk =>
      obtain ⟨rfl, rfl⟩ := hcase
      exact check_announces hs h
  | pointerDown cb clk =>
      obtain ⟨rfl, rfl⟩ := hcase
      exact check_announces hs h
  | resetAccepted cb =>
      obtain ⟨-, rfl⟩ := hcase
      obtain ⟨x, hx, hc⟩ := h
      rw [List.mem_singleton.mp hx] at hc
      cases hc
  | expired i now =>
      obtain ⟨t, ht, -, rfl⟩ := hcase
      obtain ⟨x, hx, hc⟩ := h
      cases ha : l.isLockoutTimerAborted with
      | true =>
          rw [expire_aborted ha] at hx
          cases hx
      | false =>
          rw [expire_live ha, List.mem_singleton] at hx
          rw [hx] at hc
          cases hc

/-! ## A timer that stays armed -/

/-- A timer is outstanding, and nothing has marked it. -/
structure Armed (l : LockoutControl) : Prop where
  wf : l.WF
  started : l.isLockoutTimerStarted = true
  unmarked : l.isLockoutTimerAborted = false

/-- `checkSensorLockout` marks the timer in a permanent lockout only. -/
theorem armed_check {U : Util} {cb : SessionId} {clk : Readings} {l : LockoutControl}
    (hs : l.isLockoutTimerStarted = true) (ha : l.isLockoutTimerAborted = false)
    (h : (l.checkSensorLockout U cb clk).2.1.mLockoutTracker.mCurrentMode ≠ .kPermanent) :
    (l.checkSensorLockout U cb clk).2.1.isLockoutTimerStarted = true ∧
      (l.checkSensorLockout U cb clk).2.1.isLockoutTimerAborted = false := by
  rcases check_cases U cb clk l with ⟨hm, e⟩ | ⟨-, -, e⟩ | ⟨-, -, e⟩ | ⟨-, -, e⟩
  · rw [e] at h
    exact absurd hm h
  · rw [e]
    dsimp only
    rw [if_neg (by simp [hs])]
    exact ⟨hs, ha⟩
  · rw [e]
    exact ⟨hs, ha⟩
  · rw [e]
    exact ⟨hs, ha⟩

/-- Short of a reset, a permanent lockout or its expiry, a timer stays armed. -/
theorem armed_step {U : Util} {l l' : LockoutControl} {op : LockoutOp} {o : List Output}
    (h : l.Armed) (hstep : l.step U op = some (l', o))
    (hr : ∀ cb, op ≠ .resetAccepted cb) (ht : ∀ i now, op ≠ .expired i now)
    (hp : l'.mLockoutTracker.mCurrentMode ≠ .kPermanent) : l'.Armed := by
  have hwf := wf_step h.wf hstep
  have hs := step_cases hstep
  cases op with
  | matched =>
      obtain ⟨rfl, -⟩ := hs
      exact ⟨hwf, h.started, h.unmarked⟩
  | failedMatch cb clk =>
      obtain ⟨rfl, -⟩ := hs
      have hc := armed_check
        (l := { l with mLockoutTracker := l.mLockoutTracker.addFailedAttempt clk.atFailure })
        h.started h.unmarked hp
      exact ⟨hwf, hc.1, hc.2⟩
  | pointerDown cb clk =>
      obtain ⟨rfl, -⟩ := hs
      obtain ⟨h1, h2⟩ := armed_check h.started h.unmarked hp
      exact ⟨hwf, h1, h2⟩
  | resetAccepted cb => exact absurd rfl (hr cb)
  | expired i now => exact absurd rfl (ht i now)

end LockoutControl

/-- Nothing in this step is to end the lockout before its timer: no match, no accepted
    `resetLockout`, no permanent lockout, and not the timer itself. -/
structure Undisturbed (u : Handler) : Prop where
  noMatch : isMatch u = false
  noReset : isAcceptedReset u = false
  noPermanent : u.post.mEngine.mLockoutTracker.mCurrentMode ≠ .kPermanent
  noTimer : ∀ i now, u.event ≠ .timer i now

/-- A timer is outstanding after `t`, and if nothing is to end the lockout before it
    expires, its expiry tells that the lockout is cleared and leaves no lockout. -/
def EndsByTimer (U : Util) (mem : Memory) (t : Handler) : Prop :=
  t.post.mEngine.timers ≠ [] ∧
  ∀ us w i now w' o, (service U mem).Run t.post us w → (∀ u ∈ us, Undisturbed u) →
    (service U mem).step w (.timer i now) = some (w', o) →
    Clears o ∧ w'.mEngine.mLockoutTracker.mCurrentMode = .kNone

/-- The timer stays armed through what does not end the lockout. -/
theorem armed_run {U : Util} {mem : Memory} {w w' : Fingerprint} {us : List Handler}
    (h : (service U mem).Run w us w') (hu : ∀ u ∈ us, Undisturbed u)
    (h₀ : w.lockout.Armed) : w'.lockout.Armed := by
  refine h.invariant (C := fun _ u => Undisturbed u) (I := fun _ w => w.lockout.Armed)
    (along_mem.mpr hu) h₀ ?_
  intro _ u hI hC hs
  cases hop : lockoutOp u.pre u.event with
  | none =>
      have hl := step_unseen hs hop
      rw [hl.1]
      exact hI
  | some op =>
      have hl := step_seen hs hop
      refine LockoutControl.armed_step hI hl ?_ ?_ hC.noPermanent
      · rintro cb rfl
        have := isAcceptedReset_iff.mpr ⟨cb, hop⟩
        rw [hC.noReset] at this
        cases this
      · rintro i now rfl
        exact hC.noTimer i now (lockoutOp_cases hop)

/-- The expiry of a timer, as the lockout part sees it. -/
theorem timer_lockout {U : Util} {mem : Memory} {w w' : Fingerprint} {i : Nat} {now : Int}
    {o : List Output} (h : (service U mem).step w (.timer i now) = some (w', o)) :
    ∃ t, w.mEngine.timers[i]? = some t ∧ (w'.lockout, o) = w.lockout.expire i t := by
  obtain ⟨t, ht, he⟩ := step_timer.mp h
  obtain ⟨rfl, rfl⟩ := Prod.mk.inj he
  exact ⟨t, ht, rfl⟩

/-- After an announcement the flags and the timers fit, the started flag is up, and the
    aborted flag is as it was. -/
theorem announces_lockout {U : Util} {mem : Memory} {t : Handler}
    (hwf : t.pre.lockout.WF)
    (hstep : (service U mem).step t.pre t.event = some (t.post, t.outs))
    (h : Announces t) :
    t.post.lockout.WF ∧ t.post.mEngine.isLockoutTimerStarted = true ∧
      t.post.mEngine.isLockoutTimerAborted = t.pre.mEngine.isLockoutTimerAborted := by
  obtain ⟨x, hx, hc⟩ := h
  have hmem : x ∈ t.outs.filter Output.isLockout :=
    List.mem_filter.mpr ⟨hx, isLockout_of_isLockoutTimed hc⟩
  cases hop : lockoutOp t.pre t.event with
  | none =>
      have hl := step_unseen hstep hop
      rw [hl.2] at hmem
      cases hmem
  | some op =>
      have hl := step_seen hstep hop
      exact ⟨LockoutControl.wf_step hwf hl,
        LockoutControl.step_announces hwf.supported hl ⟨x, hmem, hc⟩⟩

/-- **Which announced lockouts their timer ends.** In every run from a clean engine a timed
    lockout that is announced is ended by a timer, with a callback, exactly when the
    aborted flag was down at the announcement. -/
theorem endsByTimer_iff {U : Util} {mem : Memory} {w₀ w : Fingerprint} {ts : List Handler}
    (hclean : w₀.lockout.Clean) (hrun : (service U mem).Run w₀ ts w) {t : Handler}
    (ht : t ∈ ts) (h : Announces t) :
    EndsByTimer U mem t ↔ t.pre.mEngine.isLockoutTimerAborted = false := by
  obtain ⟨us, vs, -, h1, hstep, -⟩ := hrun.at_mem ht
  have hpre : t.pre.lockout.WF := wf_run (service_run_lockout h1) hclean.wf
  obtain ⟨hwf, hst, hab⟩ := announces_lockout hpre hstep h
  obtain ⟨tm, htm⟩ := hwf.the_timer hst
  constructor
  · rintro ⟨-, hends⟩
    have hget : t.post.mEngine.timers[0]? = some tm := by
      rw [show t.post.mEngine.timers = [tm] from htm]
      rfl
    have hsome : (service U mem).step t.post (.timer 0 0) =
        some ({ t.post with clock := 0 }.withEngine (t.post.mEngine.onLockout fun l =>
          { l with timers := l.timers.eraseIdx 0 }.lockoutTimerExpired tm.cb)) :=
      step_timer.mpr ⟨tm, hget, rfl⟩
    obtain ⟨⟨x, hx, -⟩, -⟩ := hends [] _ 0 0 _ _ Machine.Run.nil (by simp) hsome
    cases ha : t.pre.mEngine.isLockoutTimerAborted with
    | false => rfl
    | true =>
        have he := LockoutControl.expire_aborted (i := 0) (t := tm) (hab.trans ha)
        have hx' : x ∈ (t.post.lockout.expire 0 tm).2 := hx
        rw [he] at hx'
        cases hx'
  · intro ha
    refine ⟨?_, fun us w i now w' o hus hund hexp => ?_⟩
    · intro hnil
      rw [show t.post.mEngine.timers = [tm] from htm] at hnil
      cases hnil
    · have harm := armed_run hus hund ⟨hwf, hst, hab.trans ha⟩
      obtain ⟨tm, -, he⟩ := timer_lockout hexp
      rw [LockoutControl.expire_live harm.unmarked] at he
      obtain ⟨h1, rfl⟩ := Prod.mk.inj he
      exact ⟨⟨_, List.mem_singleton.mpr rfl, rfl⟩,
        congrArg (fun l => l.mLockoutTracker.mCurrentMode) h1⟩

/-- One session and five failed matches: the last of them is announced as a lockout. -/
def fiveFailures : List Event := .createSession 0 10 0 :: List.replicate 5 (failureAt 1)

theorem endsByTimer_fifth_failure :
    EndsByTimer .millis .zeroed
      (((service .millis .zeroed).steps .ready fiveFailures).get ⟨5, by decide +kernel⟩) :=
  (endsByTimer_iff ⟨rfl, rfl, rfl, rfl, rfl⟩ (Machine.run_steps (by decide +kernel))
    (List.get_mem _ _) (by decide +kernel)).mpr (by decide +kernel)

/-- The nineteenth failure is over by its timer when the twentieth makes the lockout
    permanent. It is reset, and five more failures lead to a timed lockout. -/
def lockoutAfterPermanent : List Event :=
  [.createSession 0 10 0] ++ List.replicate 19 (failureAt 1) ++ [.timer 0 10000000001] ++
    [failureAt 10000000002, resetRequest 0, workAt 10000000002] ++
    List.replicate 5 (failureAt 10000000002)

/-- A permanent lockout with no timer outstanding leaves its mark on the aborted flag, and
    the timer of the next lockout expires in silence. -/
theorem announced_lockout_not_ended :
    let M := service .millis .zeroed
    let ts := M.steps .ready lockoutAfterPermanent
    let t := ts.get ⟨28, by decide +kernel⟩
    Fingerprint.ready.lockout.Clean ∧ M.Run .ready ts (M.final .ready lockoutAfterPermanent) ∧
      (∀ u ∈ ts, Nondecreasing u) ∧ Announces t ∧ ¬ EndsByTimer .millis .zeroed t := by
  intro M ts t
  refine ⟨⟨rfl, rfl, rfl, rfl, rfl⟩, Machine.run_steps (by decide +kernel),
    by decide +kernel, by decide +kernel, ?_⟩
  rintro ⟨-, h⟩
  have hsome : (M.step t.post (.timer 0 20000000002)).isSome = true := by decide +kernel
  have hnone : (M.step t.post (.timer 0 20000000002)).map Prod.snd = some [] := by
    decide +kernel
  obtain ⟨⟨w', o⟩, hs⟩ := Option.isSome_iff_exists.mp hsome
  obtain ⟨⟨x, hx, -⟩, -⟩ := h [] t.post 0 20000000002 w' o Machine.Run.nil (by simp) hs
  rw [hs] at hnone
  obtain rfl : o = [] := Option.some.inj hnone
  cases hx

/-! ## A timer that is no younger than the lockout -/

/-- No timer fires before it has slept as long as it was told to. -/
def SleepsEnough (t : Handler) : Prop :=
  ∀ r ∈ t.event.expiry, ∀ tm ∈ t.pre.mEngine.timers[r.1]?, tm.deadline ≤ r.2

instance : DecidablePred SleepsEnough :=
  fun t => inferInstanceAs (Decidable (∀ r ∈ t.event.expiry,
    ∀ tm ∈ t.pre.mEngine.timers[r.1]?, tm.deadline ≤ r.2))

/-- A timer that clears a timed lockout does so when its time is over. -/
def NotCutShort (t : Handler) : Prop :=
  ∀ r ∈ t.event.expiry, t.pre.mEngine.mLockoutTracker.mCurrentMode = .kTimed →
    Clears t.outs →
    t.pre.mEngine.mLockoutTracker.mLockoutTimedStart + LOCKOUT_TIMED_DURATION * 1000000 ≤ r.2

instance : DecidablePred NotCutShort :=
  fun t => inferInstanceAs (Decidable (∀ r ∈ t.event.expiry,
    t.pre.mEngine.mLockoutTracker.mCurrentMode = .kTimed → Clears t.outs →
    t.pre.mEngine.mLockoutTracker.mLockoutTimedStart + LOCKOUT_TIMED_DURATION * 1000000 ≤ r.2))

/-- No live timer ends before a lockout would that starts at `start`. -/
def NoLiveTimerBefore (start : Int) (l : LockoutControl) : Prop :=
  l.isLockoutTimerAborted = false →
    ∀ tm ∈ l.timers, start + LOCKOUT_TIMED_DURATION * 1000000 ≤ tm.deadline

instance (start : Int) : DecidablePred (NoLiveTimerBefore start) :=
  fun l => inferInstanceAs (Decidable (l.isLockoutTimerAborted = false →
    ∀ tm ∈ l.timers, start + LOCKOUT_TIMED_DURATION * 1000000 ≤ tm.deadline))

/-- The next failed attempt starts a timed lockout. -/
def LockoutTracker.OnThreshold (t : LockoutTracker) : Prop :=
  t.mCurrentMode = .kNone ∧ LOCKOUT_TIMED_THRESHOLD ≤ int32 (t.mFailedCount + 1) ∧
    int32 (t.mFailedCount + 1) < LOCKOUT_PERMANENT_THRESHOLD

instance : DecidablePred LockoutTracker.OnThreshold :=
  fun _ => inferInstanceAs (Decidable (_ ∧ _ ∧ _))

/-- A failed attempt leads from no lockout to a timed one on the threshold only. -/
theorem LockoutTracker.onThreshold_of_kTimed {now : Int} {t : LockoutTracker}
    (h : t.mCurrentMode = .kNone) (hk : (t.addFailedAttempt now).mCurrentMode = .kTimed) :
    t.OnThreshold :=
  ⟨h, addFailedAttempt_enters_timed h hk, addFailedAttempt_lt_permanent hk⟩

/-- If this step starts a timed lockout, then with the clock running and no live timer
    that would end the lockout too early. -/
def StartsFresh (t : Handler) : Prop :=
  isFailedMatch t = true → t.pre.mEngine.mLockoutTracker.OnThreshold →
    ∀ now ∈ t.event.starts, 0 < now ∧ NoLiveTimerBefore now t.pre.lockout

instance : DecidablePred StartsFresh :=
  fun t => inferInstanceAs (Decidable (isFailedMatch t = true →
    t.pre.mEngine.mLockoutTracker.OnThreshold →
    ∀ now ∈ t.event.starts, 0 < now ∧ NoLiveTimerBefore now t.pre.lockout))

namespace LockoutControl

/-- The invariant: a timed lockout started with the clock running and not in the future,
    and no live timer ends before it does. -/
structure Covered (clock : Int) (l : LockoutControl) : Prop where
  positive : l.mLockoutTracker.mCurrentMode = .kTimed →
    0 < l.mLockoutTracker.mLockoutTimedStart
  past : l.mLockoutTracker.mCurrentMode = .kTimed →
    l.mLockoutTracker.mLockoutTimedStart ≤ clock
  timers : l.mLockoutTracker.mCurrentMode = .kTimed →
    NoLiveTimerBefore l.mLockoutTracker.mLockoutTimedStart l

/-- Outside of a timed lockout there is nothing to cover. -/
theorem covered_of_ne_kTimed {clock : Int} {l : LockoutControl}
    (h : l.mLockoutTracker.mCurrentMode ≠ .kTimed) : l.Covered clock where
  positive hm := absurd hm h
  past hm := absurd hm h
  timers hm := absurd hm h

theorem Clean.covered {clock : Int} {l : LockoutControl} (h : l.Clean) : l.Covered clock :=
  covered_of_ne_kTimed (by rw [h.tracker]; simp)

theorem Covered.later {c c' : Int} {l : LockoutControl} (h : l.Covered c) (hc : c ≤ c') :
    l.Covered c' where
  positive := h.positive
  past hm := Int.le_trans (h.past hm) hc
  timers := h.timers

/-- The timer launched for a lockout does not end before it: the time left is rounded up
    to whole milliseconds. -/
theorem deadline_ge {t : LockoutTracker} {cb : SessionId} {now : Int}
    (h0 : 0 < t.mLockoutTimedStart) (h1 : t.mLockoutTimedStart ≤ now) :
    t.mLockoutTimedStart + LOCKOUT_TIMED_DURATION * 1000000 ≤
      (LockoutTimer.mk cb (t.getLockoutTimeLeft now) now).deadline := by
  unfold LockoutTimer.deadline LockoutTracker.getLockoutTimeLeft LOCKOUT_TIMED_DURATION
  rw [if_pos h0]
  dsimp only
  rw [Int.tdiv_eq_ediv_of_nonneg (by omega)]
  omega

/-- `checkSensorLockout` launches no timer that ends too early. -/
theorem covered_check {U : Util} {cb : SessionId} {clk : Readings} {l : LockoutControl}
    {c : Int} (h : l.Covered c) (hc : c ≤ clk.atTimeLeft) :
    (l.checkSensorLockout U cb clk).2.1.Covered c := by
  rcases check_cases U cb clk l with ⟨hm, e⟩ | ⟨hm, -, e⟩ | ⟨-, -, e⟩ | ⟨-, hm, e⟩
  · rw [e]
    exact covered_of_ne_kTimed (by simp [hm])
  · rw [e]
    dsimp only
    split
    · refine ⟨h.positive, h.past, fun hk ha tm htm => ?_⟩
      rcases List.mem_append.mp htm with htm | htm
      · exact h.timers hk ha tm htm
      · rw [List.mem_singleton.mp htm]
        exact deadline_ge (h.positive hk) (Int.le_trans (h.past hk) hc)
    · exact h
  · rw [e]
    exact covered_of_ne_kTimed (by simp)
  · rw [e]
    exact covered_of_ne_kTimed hm

/-- A failed attempt that starts a lockout, with no live timer that ends too early. -/
theorem covered_addFailedAttempt {now c : Int} {l : LockoutControl} (h : l.Covered c)
    (hc : now ≤ c)
    (hfresh : l.mLockoutTracker.OnThreshold → 0 < now ∧ NoLiveTimerBefore now l) :
    { l with mLockoutTracker := l.mLockoutTracker.addFailedAttempt now }.Covered c := by
  by_cases hk : (l.mLockoutTracker.addFailedAttempt now).mCurrentMode = .kTimed
  · rcases LockoutTracker.addFailedAttempt_kTimed hk with ⟨hm, hs⟩ | ⟨hm, hs⟩
    · constructor
      · rw [hs]; exact fun _ => h.positive hm
      · rw [hs]; exact fun _ => h.past hm
      · rw [hs]; exact fun _ => h.timers hm
    · obtain ⟨h0, ht⟩ := hfresh (LockoutTracker.onThreshold_of_kTimed hm hk)
      constructor
      · rw [hs]; exact fun _ => h0
      · rw [hs]; exact fun _ => hc
      · rw [hs]; exact fun _ => ht
  · exact covered_of_ne_kTimed hk

/-- A timer that expires leaves no lockout, or no timer. -/
theorem covered_expire {i : Nat} {t : LockoutTimer} {c : Int} {l : LockoutControl}
    (hwf : l.WF) (h : l.Covered c) (ht : l.timers[i]? = some t) :
    (l.expire i t).1.Covered c := by
  cases ha : l.isLockoutTimerAborted with
  | true =>
      obtain ⟨rfl, hts, -⟩ := hwf.only_timer ht
      rw [expire_aborted ha]
      refine ⟨h.positive, h.past, fun _ _ tm htm => ?_⟩
      rw [hts] at htm
      cases htm
  | false =>
      rw [expire_live ha]
      exact covered_of_ne_kTimed (by simp)

/-- One step keeps every timed lockout covered, when it starts one with no live timer that
    would end it too early. `c` is the clock after the step. -/
theorem covered_step {U : Util} {l l' : LockoutControl} {op : LockoutOp} {o : List Output}
    {c : Int} (hwf : l.WF) (h : l.Covered c) (hstep : l.step U op = some (l', o))
    (hcheck : ∀ cb clk, op = .failedMatch cb clk ∨ op = .pointerDown cb clk →
      c = clk.atTimeLeft)
    (hfresh : ∀ cb clk, op = .failedMatch cb clk → l.mLockoutTracker.OnThreshold →
      0 < clk.atFailure ∧ NoLiveTimerBefore clk.atFailure l) :
    l'.Covered c := by
  have hs := step_cases hstep
  cases op with
  | matched =>
      obtain ⟨rfl, -⟩ := hs
      exact covered_of_ne_kTimed (by simp [matched])
  | failedMatch cb clk =>
      obtain ⟨rfl, -⟩ := hs
      have hc := hcheck cb clk (Or.inl rfl)
      have h1 := clk.mode_after
      have h2 := clk.timeLeft_after
      exact covered_check (covered_addFailedAttempt h (by omega) (hfresh cb clk rfl))
        (by omega)
  | pointerDown cb clk =>
      obtain ⟨rfl, -⟩ := hs
      exact covered_check h (Int.le_of_eq (hcheck cb clk (Or.inr rfl)))
  | resetAccepted cb =>
      obtain ⟨rfl, -⟩ := hs
      exact covered_of_ne_kTimed (by simp)
  | expired i now =>
      obtain ⟨t, ht, rfl, -⟩ := hs
      exact covered_expire hwf h ht

end LockoutControl

/-- The clock after a step in which `checkSensorLockout` ran. -/
theorem clock_of_check {U : Util} {mem : Memory} {t : Handler} {cb : SessionId}
    {clk : Readings} (hstep : (service U mem).step t.pre t.event = some (t.post, t.outs))
    (h : lockoutOp t.pre t.event = some (.failedMatch cb clk) ∨
      lockoutOp t.pre t.event = some (.pointerDown cb clk)) :
    t.post.clock = clk.atTimeLeft := by
  have hclk := step_clock hstep
  rcases h with h | h
  · rw [hclk, (starts_of_failedMatch h).2]
    rfl
  · obtain ⟨inp, _, _, _, he, -, rfl⟩ := lockoutOp_cases h
    rw [hclk, he]
    rfl

/-- The invariant along a run of the service. -/
theorem covered_service {U : Util} {mem : Memory} {t : Handler}
    (hI : t.pre.lockout.WF ∧ t.pre.lockout.Covered t.pre.clock) (hn : Nondecreasing t)
    (hf : StartsFresh t) (hstep : (service U mem).step t.pre t.event = some (t.post, t.outs)) :
    t.post.lockout.WF ∧ t.post.lockout.Covered t.post.clock := by
  obtain ⟨hwf, hcov⟩ := hI
  have hcov' := hcov.later (clock_le hstep hn)
  cases hop : lockoutOp t.pre t.event with
  | none =>
      have hl := step_unseen hstep hop
      rw [hl.1]
      exact ⟨hwf, hcov'⟩
  | some op =>
      have hl := step_seen hstep hop
      refine ⟨LockoutControl.wf_step hwf hl, LockoutControl.covered_step hwf hcov' hl ?_ ?_⟩
      · rintro cb clk (rfl | rfl)
        · exact clock_of_check hstep (Or.inl hop)
        · exact clock_of_check hstep (Or.inr hop)
      · rintro cb clk rfl hth
        exact hf (isFailedMatch_iff.mpr ⟨cb, clk, hop⟩) hth _ (starts_of_failedMatch hop).1

/-- A live timer of a covered lockout that fires has outlasted it. -/
theorem notCutShort_of_covered {U : Util} {mem : Memory} {t : Handler}
    (hcov : t.pre.lockout.Covered t.pre.clock) (hsleep : SleepsEnough t)
    (hstep : (service U mem).step t.pre t.event = some (t.post, t.outs)) :
    NotCutShort t := by
  rintro ⟨i, now⟩ hr hk hcl
  have he : t.event = .timer i now := by
    unfold Event.expiry at hr
    split at hr
    · next he =>
        cases hr
        exact he
    · cases hr
  rw [he] at hstep
  obtain ⟨tm, htm, ho⟩ := timer_lockout hstep
  have hd := hsleep (i, now) hr tm htm
  cases ha : t.pre.mEngine.isLockoutTimerAborted with
  | true =>
      rw [LockoutControl.expire_aborted ha] at ho
      obtain ⟨x, hx, -⟩ := hcl
      rw [(Prod.mk.inj ho).2] at hx
      cases hx
  | false =>
      have := hcov.timers hk ha tm (List.mem_of_getElem? htm)
      exact Int.le_trans this hd

/-- **When no timer cuts a lockout short.** From a clean engine, with a clock that does not
    go back and timers that sleep as long as they were told: if every timed lockout starts
    with no live timer that would end it too early, then no timer clears a timed lockout
    before its time is over. -/
theorem timers_keep_lockouts {U : Util} {mem : Memory} {w₀ w : Fingerprint}
    {ts : List Handler} (hclean : w₀.lockout.Clean) (hrun : (service U mem).Run w₀ ts w)
    (hclock : ∀ t ∈ ts, Nondecreasing t) (hsleep : ∀ t ∈ ts, SleepsEnough t)
    (hfresh : ∀ t ∈ ts, StartsFresh t) : ∀ t ∈ ts, NotCutShort t := by
  refine along_mem.mp (hrun.along
    (C := fun _ t => Nondecreasing t ∧ SleepsEnough t ∧ StartsFresh t)
    (I := fun _ w => w.lockout.WF ∧ w.lockout.Covered w.clock)
    (along_mem.mpr fun t ht => ⟨hclock t ht, hsleep t ht, hfresh t ht⟩)
    ⟨hclean.wf, hclean.covered⟩ ?_ ?_)
  · rintro _ t hI ⟨hn, -, hf⟩ hstep
    exact covered_service hI hn hf hstep
  · rintro _ t ⟨-, hcov⟩ ⟨-, hs, -⟩ hstep
    exact notCutShort_of_covered hcov hs hstep

/-- Five failures, then the timer, then a sixth failure and its timer. -/
theorem timers_keep_lockouts_twice :
    let ts := (service .millis .zeroed).steps .ready
      (fiveFailures ++ [.timer 0 10000000001, failureAt 10000000002, .timer 0 20000000002])
    (∃ t ∈ ts, Clears t.outs) ∧ ∀ t ∈ ts, NotCutShort t :=
  ⟨by decide +kernel, timers_keep_lockouts ⟨rfl, rfl, rfl, rfl, rfl⟩
    (Machine.run_steps (by decide +kernel)) (by decide +kernel) (by decide +kernel)
    (by decide +kernel)⟩

/-- A match ends the first lockout, its timer sleeps on, and clears the second lockout a
    second after it began. -/
theorem timer_cuts_lockout_short :
    let M := service .millis .zeroed
    let es := fiveFailures ++ [matchAt 2, failureAt 9000000001, .timer 0 10000000001]
    Fingerprint.ready.lockout.Clean ∧ M.Run .ready (M.steps .ready es) (M.final .ready es) ∧
      (∀ t ∈ M.steps .ready es, Nondecreasing t) ∧
      (∀ t ∈ M.steps .ready es, SleepsEnough t) ∧
      ¬ ∀ t ∈ M.steps .ready es, NotCutShort t :=
  ⟨⟨rfl, rfl, rfl, rfl, rfl⟩, Machine.run_steps (by decide +kernel), by decide +kernel,
    by decide +kernel, by decide +kernel⟩

end FingerprintHal
