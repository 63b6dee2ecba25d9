/-
  The lockout tracker by itself: `LockoutTracker` as a machine whose events are the calls
  of its four methods, in any order and at any clock reading.

  `Records us t` says what each of the three fields of `t` records of the calls `us`. One
  call keeps it (`records_step`), so after any sequence of calls the fields are a function
  of the history (`tracker_history`). The service only ever makes such calls, so this holds
  of its tracker too (`service_records`).

  A failed attempt looks at the stored mode, `getMode` at the clock. They disagree in a
  timed lockout whose time is over and that nobody has asked for since: a failure past the
  threshold leaves the sensor locked exactly outside of such a lockout (`failure_locks_iff`).
-/
import FingerprintHal.Lib.History
import FingerprintHal.Lockout.Control

namespace FingerprintHal

open Lib

/-! ## The machine -/

/-- A call of a method, with the clock reading it may take. -/
inductive TrackerOp
  | reset (dueToTimeout : Bool)
  | addFailedAttempt (now : Int)
  | getMode (now : Int)
  | getLockoutTimeLeft (now : Int)
deriving DecidableEq

/-- What the two getters return. -/
inductive TrackerAnswer
  | mode (mode : LockoutMode)
  | timeLeft (millis : Int)
deriving DecidableEq

namespace TrackerOp

def isReset : TrackerOp → Bool
  | .reset _ => true
  | _ => false

/-- The reset that forgets the failed attempts. -/
def isClear : TrackerOp → Bool
  | .reset false => true
  | _ => false

def isAttempt : TrackerOp → Bool
  | .addFailedAttempt _ => true
  | _ => false

/-- The clock reading of a call. -/
def reading : TrackerOp → Option Int
  | .reset _ => none
  | .addFailedAttempt now => some now
  | .getMode now => some now
  | .getLockoutTimeLeft now => some now

end TrackerOp

namespace LockoutTracker

/-- A tracker with no failed attempts and no lockout. -/
def clean : LockoutTracker := ⟨0, 0, .kNone⟩

def apply (U : Util) (t : LockoutTracker) : TrackerOp → LockoutTracker × List TrackerAnswer
  | .reset dueToTimeout => (t.reset dueToTimeout, [])
  | .addFailedAttempt now => (t.addFailedAttempt now, [])
  | .getMode now => (t.getMode U now, [.mode (t.getMode U now).mCurrentMode])
  | .getLockoutTimeLeft now => (t, [.timeLeft (t.getLockoutTimeLeft now)])

end LockoutTracker

def trackerMachine (U : Util) : Machine LockoutTracker TrackerOp TrackerAnswer where
  step t op := some (t.apply U op)

abbrev TrackerStep := Transition LockoutTracker TrackerOp TrackerAnswer

theorem trackerMachine_step {U : Util} {t t' : LockoutTracker} {op : TrackerOp}
    {o : List TrackerAnswer} (h : (trackerMachine U).step t op = some (t', o)) :
    t' = (t.apply U op).1 :=
  congrArg Prod.fst (Option.some.inj h).symm

/-! ## What the history says -/

/-- The failed attempts since the last `reset(false)`. -/
def attempts (us : List TrackerStep) : Nat :=
  (sinceLast (fun u => u.event.isClear) us).countP fun u => u.event.isAttempt

/-- The call took the mode out of `kNone`. -/
def leavesNone (u : TrackerStep) : Bool :=
  u.pre.mCurrentMode == .kNone && u.post.mCurrentMode != .kNone

/-- The call that last took the mode out of `kNone`. -/
def lastExit (us : List TrackerStep) : Option TrackerOp :=
  (us.filter leavesNone).getLast?.map (·.event)

/-- A failed attempt since the last reset of either kind has reached the permanent
    threshold. -/
def ReachedPermanent (us : List TrackerStep) : Prop :=
  ∃ u ∈ sinceLast (fun u => u.event.isReset) us,
    u.event.isAttempt = true ∧ LOCKOUT_PERMANENT_THRESHOLD ≤ u.post.mFailedCount

theorem attempts_snoc (us : List TrackerStep) (u : TrackerStep) :
    attempts (us ++ [u]) = if u.event.isClear = true then 0
      else attempts us + if u.event.isAttempt = true then 1 else 0 :=
  countP_sinceLast_snoc _ _ us u

theorem lastExit_snoc (us : List TrackerStep) (u : TrackerStep) :
    lastExit (us ++ [u]) = if leavesNone u = true then some u.event else lastExit us := by
  unfold lastExit
  rw [List.filter_append]
  cases h : leavesNone u with
  | true => rw [List.filter_cons_of_pos h]; simp
  | false => rw [List.filter_cons_of_neg (by simp [h])]; simp

/-- A step whose mode is the same before and after takes it nowhere. -/
theorem lastExit_of_same {us : List TrackerStep} {u : TrackerStep}
    (h : u.post.mCurrentMode = u.pre.mCurrentMode) : lastExit (us ++ [u]) = lastExit us := by
  rw [lastExit_snoc, leavesNone, h]
  cases u.pre.mCurrentMode <;> rfl

theorem reachedPermanent_snoc (us : List TrackerStep) (u : TrackerStep) :
    ReachedPermanent (us ++ [u]) ↔ u.event.isReset = false ∧ (ReachedPermanent us ∨
      (u.event.isAttempt = true ∧ LOCKOUT_PERMANENT_THRESHOLD ≤ u.post.mFailedCount)) := by
  unfold ReachedPermanent
  rw [sinceLast_snoc]
  cases h : u.event.isReset with
  | true => simp
  | false => simp [or_and_right, exists_or]

/-! ## The invariant -/

/-- What the fields of a tracker record of the calls `us`. -/
structure Records (us : List TrackerStep) (t : LockoutTracker) : Prop where
  count : t.mFailedCount = int32 (attempts us)
  known : t.mCurrentMode ≠ .other
  noStart : t.mCurrentMode = .kNone → t.mLockoutTimedStart = 0
  bounds : t.mCurrentMode = .kTimed → LOCKOUT_TIMED_THRESHOLD ≤ t.mFailedCount ∧
    t.mFailedCount < LOCKOUT_PERMANENT_THRESHOLD
  start : t.mCurrentMode = .kTimed →
    lastExit us = some (.addFailedAttempt t.mLockoutTimedStart)
  permanent : t.mCurrentMode = .kPermanent ↔ ReachedPermanent us

theorem records_clean : Records [] .clean where
  count := (int32_of_lt (x := ((0 : Nat) : Int)) (by omega) (by omega)).symm
  known := by decide
  noStart _ := rfl
  bounds h := by cases h
  start h := by cases h
  permanent := by simp [LockoutTracker.clean, ReachedPermanent]

/-- Counting on after a wrap-around. -/
theorem int32_succ (x : Int) : int32 (int32 x + 1) = int32 (x + 1) := by
  unfold int32
  omega

section Calls

variable {U : Util} {us : List TrackerStep} {t : LockoutTracker} {o : List TrackerAnswer}

theorem records_reset (h : Records us t) (b : Bool) :
    Records (us ++ [⟨t, .reset b, t.reset b, o⟩]) (t.reset b) where
  count := by
    rw [attempts_snoc]
    cases b with
    | false => exact (int32_of_lt (x := ((0 : Nat) : Int)) (by omega) (by omega)).symm
    | true => exact h.count
  known := by simp
  noStart _ := rfl
  bounds hm := by cases hm
  start hm := by cases hm
  permanent := by
    rw [reachedPermanent_snoc]
    simp [TrackerOp.isReset]

theorem records_addFailedAttempt (h : Records us t) (now : Int) :
    Records (us ++ [⟨t, .addFailedAttempt now, t.addFailedAttempt now, o⟩])
      (t.addFailedAttempt now) where
  count := by
    have ha := attempts_snoc us ⟨t, .addFailedAttempt now, t.addFailedAttempt now, o⟩
    simp only [TrackerOp.isClear, TrackerOp.isAttempt, Bool.false_eq_true, if_false,
      if_true] at ha
    rw [ha, LockoutTracker.addFailedAttempt_count, h.count, int32_succ]
    rfl
  known := by
    rw [LockoutTracker.addFailedAttempt_mode]
    split
    · simp
    · split
      · simp
      · exact h.known
  noStart hm := by
    obtain ⟨h1, h2⟩ := LockoutTracker.addFailedAttempt_kNone hm
    exact h2.trans (h.noStart h1)
  bounds hm := by
    rw [LockoutTracker.addFailedAttempt_count]
    refine ⟨?_, LockoutTracker.addFailedAttempt_lt_permanent hm⟩
    rcases LockoutTracker.addFailedAttempt_kTimed hm with ⟨h1, -⟩ | ⟨h1, -⟩
    · -- the lockout was there before, and the count with it
      have hb := h.bounds h1
      unfold LOCKOUT_TIMED_THRESHOLD LOCKOUT_PERMANENT_THRESHOLD at *
      rw [int32_of_lt (by omega) (by omega)]
      omega
    · exact LockoutTracker.addFailedAttempt_enters_timed h1 hm
  start hm := by
    rcases LockoutTracker.addFailedAttempt_kTimed hm with ⟨h1, h2⟩ | ⟨h1, h2⟩
    · rw [lastExit_of_same (hm.trans h1.symm), h2]
      exact h.start h1
    · rw [lastExit_snoc, leavesNone, h1, hm, h2]
      rfl
  permanent := by
    rw [reachedPermanent_snoc, ← h.permanent, LockoutTracker.addFailedAttempt_mode,
      LockoutTracker.addFailedAttempt_count]
    simp only [TrackerOp.isReset, TrackerOp.isAttempt, true_and]
    split
    · next h1 => simp [h1]
    · next h1 =>
        split
        · next h2 => simp [h1, h2.2]
        · simp [h1]

/-- A call that changes nothing, and counts for nothing. -/
theorem records_idle (h : Records us t) {op : TrackerOp} (hr : op.isReset = false)
    (hc : op.isClear = false) (ha : op.isAttempt = false) :
    Records (us ++ [⟨t, op, t, o⟩]) t where
  count := by
    rw [attempts_snoc]
    simp only [hc, ha, Bool.false_eq_true, if_false, Nat.add_zero]
    exact h.count
  known := h.known
  noStart := h.noStart
  bounds := h.bounds
  start hm := by
    rw [lastExit_of_same rfl]
    exact h.start hm
  permanent := by
    rw [reachedPermanent_snoc, h.permanent]
    simp [hr, ha]

/-- A timed lockout that ends as it is asked for. -/
theorem records_lapse (h : Records us t) {now : Int} (hm : t.mCurrentMode = .kTimed)
    (he : t.getMode U now = { t with mCurrentMode := .kNone, mLockoutTimedStart := 0 }) :
    Records (us ++ [⟨t, .getMode now, t.getMode U now, o⟩]) (t.getMode U now) where
  count := by
    rw [attempts_snoc, LockoutTracker.getMode_count]
    exact h.count
  known := by rw [he]; simp
  noStart _ := by rw [he]
  bounds hk := by rw [he] at hk; cases hk
  start hk := by rw [he] at hk; cases hk
  permanent := by
    have hn : ¬ ReachedPermanent us := by
      rw [← h.permanent, hm]
      simp
    rw [reachedPermanent_snoc, he]
    simp [hn, TrackerOp.isAttempt]

/-- One call keeps the record. -/
theorem records_step {u : TrackerStep} (h : Records us u.pre)
    (hstep : (trackerMachine U).step u.pre u.event = some (u.post, u.outs)) :
    Records (us ++ [u]) u.post := by
  obtain ⟨t, op, t', o⟩ := u
  have ht : t' = (t.apply U op).1 := trackerMachine_step hstep
  subst ht
  cases op with
  | reset b => exact records_reset h b
  | addFailedAttempt now => exact records_addFailedAttempt h now
  | getMode now =>
      show Records (us ++ [⟨t, .getMode now, t.getMode U now, o⟩]) (t.getMode U now)
      by_cases hc : t.mCurrentMode = .kTimed ∧
          U.hasElapsed now t.mLockoutTimedStart LOCKOUT_TIMED_DURATION = true
      · exact records_lapse h hc.1 (if_pos hc)
      · have he : t.getMode U now = t := if_neg hc
        rw [he]
        exact records_idle h rfl rfl rfl
  | getLockoutTimeLeft now => exact records_idle h rfl rfl rfl

end Calls

/-- The fields record the history after every sequence of calls. -/
theorem records_run {U : Util} {us : List TrackerStep} {t : LockoutTracker}
    (h : (trackerMachine U).Run .clean us t) : Records us t :=
  h.invariant (C := fun _ _ => True) (fun _ _ _ _ => trivial) records_clean
    fun _ _ hI _ hs => records_step hI hs

/-! ## Leaving a lockout -/

/-- Short of a reset, a timed lockout is left through `getMode` once its time is over, and
    a permanent one is not left. -/
theorem lockout_left {U : Util} (hU : U.Lawful) {u : TrackerStep}
    (hstep : (trackerMachine U).step u.pre u.event = some (u.post, u.outs))
    (hr : u.event.isReset = false) :
    (u.pre.mCurrentMode = .kTimed → u.post.mCurrentMode = .kNone →
      ∃ now, u.event = .getMode now ∧
        LOCKOUT_TIMED_DURATION * 1000000 < now - u.pre.mLockoutTimedStart) ∧
    (u.pre.mCurrentMode = .kPermanent → u.post.mCurrentMode = .kPermanent) := by
  obtain ⟨t, op, t', o⟩ := u
  have ht : t' = (t.apply U op).1 := trackerMachine_step hstep
  subst ht
  dsimp only at hr ⊢
  cases op with
  | reset b => cases hr
  | addFailedAttempt now =>
      refine ⟨fun hm hn => ?_, fun hp => LockoutTracker.addFailedAttempt_kPermanent hp⟩
      have hl : (t.addFailedAttempt now).Locked :=
        LockoutTracker.locked_addFailedAttempt (Or.inl hm)
      exact absurd hn hl.ne_kNone
  | getMode now =>
      refine ⟨fun hm hn => ⟨now, rfl, ?_⟩, fun hp => ?_⟩
      · rcases LockoutTracker.getMode_cases U now t with he | ⟨-, he, -⟩
        · have hn' : (t.getMode U now).mCurrentMode = .kNone := hn
          rw [he, hm] at hn'
          cases hn'
        · exact hU.elapsed _ _ _ he
      · show (t.getMode U now).mCurrentMode = .kPermanent
        rw [LockoutTracker.getMode_kPermanent hp]
        exact hp
  | getLockoutTimeLeft now =>
      refine ⟨fun hm hn => ?_, fun hp => hp⟩
      have hn' : t.mCurrentMode = .kNone := hn
      rw [hm] at hn'
      cases hn'

/-- **The tracker records its history.** After every sequence of calls from a clean
    tracker, with fewer than 2^31 failed attempts: the count is that of the failed attempts
    since the last `reset(false)`; without a lockout there is no start; in a timed lockout
    the count is between the thresholds and the start is the reading of the failed attempt
    that led into it; the mode is permanent exactly when a failed attempt since the last
    reset has reached the permanent threshold; and between two resets a timed lockout is
    left for none through `getMode` after its time only, and a permanent one never. -/
theorem tracker_history {U : Util} (hU : U.Lawful) {us : List TrackerStep}
    {t : LockoutTracker} (h : (trackerMachine U).Run .clean us t)
    (hfew : (us.countP fun u => u.event.isAttempt) < 2147483648) :
    t.mFailedCount = attempts us ∧
    (t.mCurrentMode = .kNone → t.mLockoutTimedStart = 0) ∧
    (t.mCurrentMode = .kTimed →
      LOCKOUT_TIMED_THRESHOLD ≤ t.mFailedCount ∧
      t.mFailedCount < LOCKOUT_PERMANENT_THRESHOLD ∧
      lastExit us = some (.addFailedAttempt t.mLockoutTimedStart)) ∧
    (t.mCurrentMode = .kPermanent ↔ ReachedPermanent us) ∧
    (∀ u ∈ us, u.event.isReset = false →
      (u.pre.mCurrentMode = .kTimed → u.post.mCurrentMode = .kNone →
        ∃ now, u.event = .getMode now ∧
          LOCKOUT_TIMED_DURATION * 1000000 < now - u.pre.mLockoutTimedStart) ∧
      (u.pre.mCurrentMode = .kPermanent → u.post.mCurrentMode = .kPermanent)) := by
  have hrec := records_run h
  have hle : attempts us ≤ us.countP fun u => u.event.isAttempt :=
    (sinceLast_sublist _ us).countP_le
  refine ⟨?_, hrec.noStart, ?_, hrec.permanent, ?_⟩
  · rw [hrec.count, int32_of_lt (by omega) (by omega)]
  · intro hm
    obtain ⟨h1, h2⟩ := hrec.bounds hm
    exact ⟨h1, h2, hrec.start hm⟩
  · intro u hu hr
    exact lockout_left hU (h.step_of_mem hu) hr

/-! ## The tracker of the service -/

/-- The calls an operation of the lockout part makes on the tracker, less the one that
    only reads. -/
def LockoutOp.calls (l : LockoutControl) : LockoutOp → List TrackerOp
  | .matched => [.reset true]
  | .failedMatch _ clk => [.addFailedAttempt clk.atFailure, .getMode clk.atMode]
  | .pointerDown _ clk => [.getMode clk.atMode]
  | .resetAccepted _ => [.reset false]
  | .expired _ _ => if l.isLockoutTimerAborted then [] else [.reset true]

/-- A step of the lockout part makes these calls, and nothing else of the tracker. -/
theorem step_calls {U : Util} {l l' : LockoutControl} {op : LockoutOp} {o : List Output}
    (hstep : l.step U op = some (l', o)) :
    ∃ us, (trackerMachine U).Run l.mLockoutTracker us l'.mLockoutTracker ∧
      us.map (·.event) = op.calls l := by
  have hs := LockoutControl.step_cases hstep
  cases op with
  | matched =>
      obtain ⟨rfl, -⟩ := hs
      exact ⟨_, Machine.Run.single (e := .reset true) rfl, rfl⟩
  | failedMatch cb clk =>
      obtain ⟨rfl, -⟩ := hs
      have ht : (l.failedMatch U cb clk).1.mLockoutTracker =
          (l.mLockoutTracker.addFailedAttempt clk.atFailure).getMode U clk.atMode :=
        LockoutControl.check_tracker U cb clk _
      rw [ht]
      exact ⟨_, Machine.Run.cons (e := .addFailedAttempt clk.atFailure) rfl
        (Machine.Run.single (e := .getMode clk.atMode) rfl), rfl⟩
  | pointerDown cb clk =>
      obtain ⟨rfl, -⟩ := hs
      rw [LockoutControl.check_tracker]
      exact ⟨_, Machine.Run.single (e := .getMode clk.atMode) rfl, rfl⟩
  | resetAccepted cb =>
      obtain ⟨rfl, -⟩ := hs
      exact ⟨_, Machine.Run.single (e := .reset false) rfl, rfl⟩
  | expired i now =>
      obtain ⟨t, -, rfl, -⟩ := hs
      unfold LockoutOp.calls
      cases ha : l.isLockoutTimerAborted with
      | true =>
          rw [LockoutControl.expire_aborted ha]
          exact ⟨[], Machine.Run.nil, rfl⟩
      | false =>
          rw [LockoutControl.expire_live ha]
          exact ⟨_, Machine.Run.single (e := .reset true) rfl, rfl⟩

/-- Every run of the lockout part is, to the tracker, a run of calls. -/
theorem lockout_run_tracker {U : Util} {l₀ l : LockoutControl}
    {ts : List (Transition LockoutControl LockoutOp Output)}
    (hrun : (lockoutMachine U).Run l₀ ts l) :
    ∃ us, (trackerMachine U).Run l₀.mLockoutTracker us l.mLockoutTracker ∧
      us.map (·.event) = ts.flatMap fun t => t.event.calls t.pre := by
  induction hrun with
  | nil => exact ⟨[], Machine.Run.nil, rfl⟩
  | @snoc ts l op l' o _ hstep ih =>
      obtain ⟨us, hus, hcalls⟩ := ih
      obtain ⟨vs, hvs, hcall⟩ := step_calls hstep
      refine ⟨us ++ vs, hus.append hvs, ?_⟩
      rw [List.map_append, hcalls, hcall, List.flatMap_append, List.flatMap_singleton]

/-- **The tracker of the service.** In every run of a service with a clean engine the
    tracker is what the calls the service has made on it lead to, and records them. -/
theorem service_records {U : Util} {mem : Memory} {w₀ w : Fingerprint} {ts : List Handler}
    (hclean : w₀.lockout.Clean) (hrun : (service U mem).Run w₀ ts w) :
    ∃ us, (trackerMachine U).Run .clean us w.lockout.mLockoutTracker ∧
      Records us w.lockout.mLockoutTracker ∧ us.map (·.event) =
        (ts.filterMap lockoutStep).flatMap fun t => t.event.calls t.pre := by
  obtain ⟨us, hus, hcalls⟩ := lockout_run_tracker (service_run_lockout hrun)
  have h₀ : w₀.lockout.mLockoutTracker = .clean := hclean.tracker
  rw [h₀] at hus
  exact ⟨us, hus, records_run hus, hcalls⟩

/-- A lockout, and a `resetLockout` that is accepted. -/
theorem service_records_reset :
    let M := service .millis .zeroed
    let es := .createSession 0 10 0 :: List.replicate 5 (failureAt 1) ++
      [resetRequest 0, workAt 2]
    let t := (M.final .ready es).lockout.mLockoutTracker
    ∃ us, (trackerMachine .millis).Run .clean us t ∧ Records us t ∧ us.map (·.event) =
      ((M.steps .ready es).filterMap lockoutStep).flatMap fun t => t.event.calls t.pre :=
  service_records ⟨rfl, rfl, rfl, rfl, rfl⟩ (Machine.run_steps (by decide +kernel))

/-! ## Failures past the threshold -/

/-- `getMode` finds a lockout when one is stored whose time is not over. -/
theorem getMode_locked_iff {U : Util} {now : Int} {t : LockoutTracker} :
    (t.getMode U now).Locked ↔ t.Locked ∧ ¬ t.Lapsed U now := by
  by_cases hc : t.Lapsed U now
  · have he : (t.getMode U now).mCurrentMode = .kNone := by
      have hc' : t.mCurrentMode = .kTimed ∧
          U.hasElapsed now t.mLockoutTimedStart LOCKOUT_TIMED_DURATION = true := hc
      unfold LockoutTracker.getMode
      rw [if_pos hc']
    constructor
    · exact fun hl => absurd he hl.ne_kNone
    · exact fun hl => absurd hc hl.2
  · have he : t.getMode U now = t := if_neg hc
    rw [he]
    exact ⟨fun hl => ⟨hl, hc⟩, fun hl => hl.1⟩

/-- Past the timed threshold a failed attempt leaves a lockout in the stored mode. -/
theorem locked_of_past {now : Int} {t : LockoutTracker} (hk : t.mCurrentMode ≠ .other)
    (hpast : LOCKOUT_TIMED_THRESHOLD ≤ int32 (t.mFailedCount + 1)) :
    (t.addFailedAttempt now).Locked := by
  by_cases hn : t.mCurrentMode = .kNone
  · by_cases hp : LOCKOUT_PERMANENT_THRESHOLD ≤ int32 (t.mFailedCount + 1)
    · exact Or.inr ((LockoutTracker.addFailedAttempt_mode now t).trans (if_pos hp))
    · have hm := LockoutTracker.addFailedAttempt_mode now t
      rw [if_neg hp, if_pos ⟨hpast, hn⟩] at hm
      exact Or.inl hm
  · have hl : t.Locked := by
      unfold LockoutTracker.Locked
      cases hm : t.mCurrentMode with
      | kNone => exact absurd hm hn
      | kTimed => exact Or.inl rfl
      | kPermanent => exact Or.inr rfl
      | other => exact absurd hm hk
    exact LockoutTracker.locked_addFailedAttempt hl

/-- A failed attempt leaves a lockout whose time is over exactly when it found one and the
    permanent threshold is not reached. -/
theorem lapsed_addFailedAttempt {U : Util} (hU : U.Lawful) {now : Int} {t : LockoutTracker} :
    (t.addFailedAttempt now).Lapsed U now ↔
      t.Lapsed U now ∧ int32 (t.mFailedCount + 1) < LOCKOUT_PERMANENT_THRESHOLD := by
  constructor
  · rintro ⟨hm, he⟩
    have hp := LockoutTracker.addFailedAttempt_lt_permanent hm
    rcases LockoutTracker.addFailedAttempt_kTimed hm with ⟨h1, h2⟩ | ⟨-, h2⟩
    · rw [h2] at he
      exact ⟨⟨h1, he⟩, hp⟩
    · -- a lockout that starts now is not over
      rw [h2] at he
      have hlt := hU.elapsed _ _ _ he
      unfold LOCKOUT_TIMED_DURATION at hlt
      omega
  · rintro ⟨⟨hm, he⟩, hp⟩
    have hu : t.addFailedAttempt now =
        { t with mFailedCount := int32 (t.mFailedCount + 1) } := by
      unfold LockoutTracker.addFailedAttempt
      dsimp only
      rw [if_neg (by omega), if_neg (by simp [hm])]
    rw [hu]
    exact ⟨hm, he⟩

/-- **When a failure past the threshold locks.** After every sequence of calls from a clean
    tracker, a failed attempt that reaches the timed threshold or more leaves the sensor
    locked for a `getMode` at the same reading, unless the stored mode is a timed lockout
    whose time is over by then and the permanent threshold is not reached. -/
theorem failure_locks_iff {U : Util} (hU : U.Lawful) {us : List TrackerStep}
    {t : LockoutTracker} (h : (trackerMachine U).Run .clean us t) {now : Int}
    (hpast : LOCKOUT_TIMED_THRESHOLD ≤ (t.addFailedAttempt now).mFailedCount) :
    ((t.addFailedAttempt now).getMode U now).Locked ↔
      ¬ (t.Lapsed U now ∧ t.mFailedCount + 1 < LOCKOUT_PERMANENT_THRESHOLD) := by
  have hrec := records_run h
  rw [LockoutTracker.addFailedAttempt_count] at hpast
  have hcount : int32 (t.mFailedCount + 1) = t.mFailedCount + 1 := by
    have hc := hrec.count
    unfold int32 LOCKOUT_TIMED_THRESHOLD at *
    omega
  rw [getMode_locked_iff, lapsed_addFailedAttempt hU, hcount]
  exact ⟨fun hl => hl.2, fun hn => ⟨locked_of_past hrec.known hpast, hn⟩⟩

/-! ## Sequences of calls -/

/-- Each clock reading is positive, and no less than those before it. -/
def ReadingsIncrease (us : List TrackerStep) : Prop :=
  (us.filterMap fun u => u.event.reading).Pairwise (· ≤ ·) ∧
    ∀ r ∈ us.filterMap fun u => u.event.reading, 0 < r

instance : DecidablePred ReadingsIncrease :=
  fun us => inferInstanceAs (Decidable
    ((us.filterMap fun u => u.event.reading).Pairwise (· ≤ ·) ∧
      ∀ r ∈ us.filterMap fun u => u.event.reading, 0 < r))

/-- Five failed attempts at 1 ns. -/
def fiveAttempts : List TrackerOp := List.replicate 5 (.addFailedAttempt 1)

theorem tracker_history_five :
    ((trackerMachine .millis).final .clean (fiveAttempts ++ [.getMode 2])).mFailedCount = 5 :=
  (tracker_history Util.millis_lawful
    (Machine.run_steps (by decide : ((trackerMachine .millis).exec .clean
      (fiveAttempts ++ [.getMode 2])).isSome = true)) (by decide)).1

theorem failure_locks_sixth :
    ((((trackerMachine .millis).final .clean fiveAttempts).addFailedAttempt 2).getMode
      .millis 2).Locked :=
  (failure_locks_iff Util.millis_lawful (Machine.run_steps
    (by decide : ((trackerMachine .millis).exec .clean fiveAttempts).isSome = true))
    (by decide)).mpr (by decide)

/-- The sixth failure comes when the first lockout is over and nobody has asked since. -/
theorem failure_not_locked :
    let M := trackerMachine .millis
    let es := fiveAttempts ++ [.addFailedAttempt 10001000002]
    M.Run .clean (M.steps .clean es) (M.final .clean es) ∧
      ReadingsIncrease (M.steps .clean (es ++ [.getMode 10001000002])) ∧
      LOCKOUT_TIMED_THRESHOLD ≤ (M.final .clean es).mFailedCount ∧
      ¬ ((M.final .clean es).getMode .millis 10001000002).Locked :=
  ⟨Machine.run_steps (by decide), by decide, by decide, by decide⟩

end FingerprintHal
