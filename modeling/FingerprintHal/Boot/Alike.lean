/-
  Services that cannot be told apart.

  `Alike live l m` relates two lockout parts that differ in values nobody will ever look
  at: the start of a lockout that is none, an aborted flag that no timer will read. `live`
  says whether a session can be open at all; where none can, no match and no failed match
  is ever given to the engine, and less is looked at. The relation is kept by all that the
  service does (`service_bisimulation`), so services with alike lockout parts answer
  everything alike.
-/
import FingerprintHal.Lockout.Control

namespace FingerprintHal

open Lib

/-! ## Alike lockout parts -/

/-- Two starts of a timed lockout that look the same at every time. -/
def Util.StartsAlike (U : Util) (a b : Int) : Prop :=
  ∀ now, U.hasElapsed now a LOCKOUT_TIMED_DURATION = U.hasElapsed now b LOCKOUT_TIMED_DURATION ∧
    (⟨0, a, .kTimed⟩ : LockoutTracker).getLockoutTimeLeft now =
      (⟨0, b, .kTimed⟩ : LockoutTracker).getLockoutTimeLeft now

theorem Util.StartsAlike.refl (U : Util) (a : Int) : U.StartsAlike a a := fun _ => ⟨rfl, rfl⟩

namespace LockoutControl

/-- The lockout parts `l` and `m` behave alike. -/
structure Alike (U : Util) (live : Prop) (l m : LockoutControl) : Prop where
  supported : l.isLockoutTimerSupported = m.isLockoutTimerSupported
  timers : l.timers = m.timers
  count : l.mLockoutTracker.mFailedCount = m.mLockoutTracker.mFailedCount
  mode : l.mLockoutTracker.mCurrentMode = m.mLockoutTracker.mCurrentMode ∨
    (¬ live ∧ ¬ l.mLockoutTracker.Locked ∧ ¬ m.mLockoutTracker.Locked)
  start : l.mLockoutTracker.mCurrentMode = .kTimed →
    U.StartsAlike l.mLockoutTracker.mLockoutTimedStart m.mLockoutTracker.mLockoutTimedStart
  flags : live ∨ l.mLockoutTracker.mCurrentMode = .kTimed ∨ l.timers ≠ [] →
    l.isLockoutTimerStarted = m.isLockoutTimerStarted ∧
      ((l.isLockoutTimerStarted = true ∧ l.timers = []) ∨
        l.isLockoutTimerAborted = m.isLockoutTimerAborted)

section

variable {U : Util} {live : Prop} {cb : SessionId} {clk : Readings} {l m : LockoutControl}

theorem Alike.mode_of_locked (h : Alike U live l m) (hl : l.mLockoutTracker.Locked) :
    l.mLockoutTracker.mCurrentMode = m.mLockoutTracker.mCurrentMode := by
  rcases h.mode with hm | ⟨-, hn, -⟩
  · exact hm
  · exact absurd hl hn

theorem Alike.mode_of_live (h : Alike U live l m) (hl : live) :
    l.mLockoutTracker.mCurrentMode = m.mLockoutTracker.mCurrentMode := by
  rcases h.mode with hm | ⟨hn, -⟩
  · exact hm
  · exact absurd hl hn

/-- The flags of alike lockout parts when a timer is outstanding. -/
theorem Alike.flags_of_timer (h : Alike U live l m) (ht : l.timers ≠ []) :
    l.isLockoutTimerStarted = m.isLockoutTimerStarted ∧
      l.isLockoutTimerAborted = m.isLockoutTimerAborted := by
  obtain ⟨h1, ⟨-, h2⟩ | h2⟩ := h.flags (Or.inr (Or.inr ht))
  · exact absurd h2 ht
  · exact ⟨h1, h2⟩

/-- What `checkSensorLockout` answers, and the lockout parts it leaves. -/
theorem alike_check (h : Alike U live l m) :
    (l.checkSensorLockout U cb clk).1 = (m.checkSensorLockout U cb clk).1 ∧
    (l.checkSensorLockout U cb clk).2.2 = (m.checkSensorLockout U cb clk).2.2 ∧
    Alike U live (l.checkSensorLockout U cb clk).2.1 (m.checkSensorLockout U cb clk).2.1 := by
  rcases check_cases U cb clk l with ⟨hm, e⟩ | ⟨hm, hr, e⟩ | ⟨hm, hr, e⟩ | ⟨h1, h2, e⟩
  · have hm' := (h.mode_of_locked (Or.inr hm)).symm.trans hm
    rw [e, check_permanent hm']
    exact ⟨rfl, rfl, h.supported, h.timers, h.count, h.mode, h.start,
      fun hf => ⟨(h.flags hf).1, Or.inr rfl⟩⟩
  · have hm' := (h.mode_of_locked (Or.inl hm)).symm.trans hm
    have hr' := (h.start hm clk.atMode).1.symm.trans hr
    have htime : l.mLockoutTracker.getLockoutTimeLeft clk.atTimeLeft =
        m.mLockoutTracker.getLockoutTimeLeft clk.atTimeLeft :=
      (h.start hm clk.atTimeLeft).2
    obtain ⟨hst, hab⟩ := h.flags (Or.inr (Or.inl hm))
    rw [e, check_timed hm' hr', htime, ← h.supported, ← hst]
    refine ⟨rfl, rfl, ?_⟩
    dsimp only
    split
    · next hc =>
        refine ⟨h.supported, ?_, h.count, h.mode, h.start, fun _ => ⟨rfl, Or.inr ?_⟩⟩
        · simp [startLockoutTimer, h.timers]
        · rcases hab with ⟨hs, -⟩ | hab
          · exact absurd hs hc.2
          · exact hab
    · exact h
  · have hm' := (h.mode_of_locked (Or.inl hm)).symm.trans hm
    have hr' := (h.start hm clk.atMode).1.symm.trans hr
    rw [e, check_elapsed hm' hr']
    exact ⟨rfl, rfl, h.supported, h.timers, h.count, Or.inl rfl, fun hk => (by cases hk),
      fun _ => h.flags (Or.inr (Or.inl hm))⟩
  · have hu : m.mLockoutTracker.mCurrentMode ≠ .kPermanent ∧
        m.mLockoutTracker.mCurrentMode ≠ .kTimed := by
      rcases h.mode with hm | ⟨-, -, hn⟩
      · rw [← hm]
        exact ⟨h1, h2⟩
      · exact ⟨fun hp => hn (Or.inr hp), fun hk => hn (Or.inl hk)⟩
    rw [e, check_unlocked hu.1 hu.2]
    exact ⟨rfl, rfl, h⟩

/-- A failed attempt, where a session can be open. -/
theorem alike_addFailedAttempt (h : Alike U live l m) (hl : live) (now : Int) :
    Alike U live { l with mLockoutTracker := l.mLockoutTracker.addFailedAttempt now }
      { m with mLockoutTracker := m.mLockoutTracker.addFailedAttempt now } where
  supported := h.supported
  timers := h.timers
  count := by
    rw [LockoutTracker.addFailedAttempt_count, LockoutTracker.addFailedAttempt_count, h.count]
  mode := Or.inl (by
    rw [LockoutTracker.addFailedAttempt_mode, LockoutTracker.addFailedAttempt_mode, h.count,
      h.mode_of_live hl])
  start hk := by
    have hmode := h.mode_of_live hl
    have hk' : (m.mLockoutTracker.addFailedAttempt now).mCurrentMode = .kTimed := by
      rw [← hk, LockoutTracker.addFailedAttempt_mode, LockoutTracker.addFailedAttempt_mode,
        h.count, hmode]
    rcases LockoutTracker.addFailedAttempt_kTimed hk with ⟨h1, h2⟩ | ⟨h1, h2⟩
    · rcases LockoutTracker.addFailedAttempt_kTimed hk' with ⟨-, h3⟩ | ⟨h3, -⟩
      · dsimp only
        rw [h2, h3]
        exact h.start h1
      · rw [← hmode, h1] at h3
        cases h3
    · rcases LockoutTracker.addFailedAttempt_kTimed hk' with ⟨h3, -⟩ | ⟨-, h3⟩
      · rw [← hmode, h1] at h3
        cases h3
      · dsimp only
        rw [h2, h3]
        exact .refl U now
  flags _ := h.flags (Or.inl hl)

theorem alike_failedMatch (h : Alike U live l m) (hl : live) :
    (l.failedMatch U cb clk).2 = (m.failedMatch U cb clk).2 ∧
      Alike U live (l.failedMatch U cb clk).1 (m.failedMatch U cb clk).1 :=
  (alike_check (alike_addFailedAttempt h hl clk.atFailure)).2

theorem alike_matched (h : Alike U live l m) (hl : live) :
    Alike U live l.matched m.matched where
  supported := h.supported
  timers := h.timers
  count := h.count
  mode := Or.inl rfl
  start hk := by cases hk
  flags _ := h.flags (Or.inl hl)

theorem alike_acceptReset (h : Alike U live l m) :
    (l.acceptReset cb).2 = (m.acceptReset cb).2 ∧
      Alike U live (l.acceptReset cb).1 (m.acceptReset cb).1 := by
  rw [acceptReset_eq, acceptReset_eq]
  refine ⟨rfl, h.supported, h.timers, rfl, Or.inl rfl, fun hk => (by cases hk), fun hf => ?_⟩
  have hf' : live ∨ l.mLockoutTracker.mCurrentMode = .kTimed ∨ l.timers ≠ [] := by
    rcases hf with hf | hf | hf
    · exact Or.inl hf
    · cases hf
    · exact Or.inr (Or.inr hf)
  obtain ⟨hst, hab⟩ := h.flags hf'
  refine ⟨hst, ?_⟩
  rcases hab with hab | hab
  · exact Or.inl hab
  · dsimp only
    rw [hst, hab]
    exact Or.inr rfl

theorem alike_resetLockoutImpl (h : Alike U live l m) (hat : HardwareAuthToken) :
    (l.resetLockoutImpl cb hat).2 = (m.resetLockoutImpl cb hat).2 ∧
      Alike U live (l.resetLockoutImpl cb hat).1 (m.resetLockoutImpl cb hat).1 := by
  unfold resetLockoutImpl
  split
  · exact ⟨rfl, h⟩
  · exact alike_acceptReset h

theorem alike_expire (h : Alike U live l m) {i : Nat} {t : LockoutTimer}
    (ht : l.timers[i]? = some t) :
    (l.expire i t).2 = (m.expire i t).2 ∧ Alike U live (l.expire i t).1 (m.expire i t).1 := by
  have hne : l.timers ≠ [] := by
    intro hn
    rw [hn] at ht
    cases ht
  obtain ⟨-, hab⟩ := h.flags_of_timer hne
  have hts : l.timers.eraseIdx i = m.timers.eraseIdx i := by rw [h.timers]
  cases ha : l.isLockoutTimerAborted with
  | true =>
      rw [expire_aborted ha, expire_aborted (hab.symm.trans ha)]
      exact ⟨rfl, h.supported, hts, h.count, h.mode, h.start, fun _ => ⟨rfl, Or.inr rfl⟩⟩
  | false =>
      rw [expire_live ha, expire_live (hab.symm.trans ha)]
      exact ⟨rfl, h.supported, hts, h.count, Or.inl rfl, fun hk => (by cases hk),
        fun _ => ⟨rfl, Or.inr rfl⟩⟩

end

end LockoutControl

/-! ## Alike services -/

/-- The service with another lockout part. -/
def Fingerprint.withLockout (w : Fingerprint) (l : LockoutControl) : Fingerprint :=
  { w with mEngine := { w.mEngine with toLockoutControl := l } }

/-- `v` differs from `w` in its lockout part only, and that is alike. If no session can be
    open, all are closed. -/
def AlikeServices (U : Util) (live : Prop) (w v : Fingerprint) : Prop :=
  ∃ l, v = w.withLockout l ∧ LockoutControl.Alike U live w.lockout l ∧
    (¬ live → ∀ x ∈ w.sessions, x.mIsClosed = true)

/-- Where no session can be open, none is. -/
theorem openSession_eq_none {w : Fingerprint} (h : ∀ x ∈ w.sessions, x.mIsClosed = true) :
    w.openSession = none := by
  unfold Fingerprint.openSession Fingerprint.isClosed
  split
  · rfl
  · next s _ =>
      rw [if_pos]
      split
      · next x hx => exact h x (List.mem_of_getElem? hx)
      · rfl

/-- Two handlers that put out the same and leave alike lockout parts. -/
def AlikeResults (U : Util) (live : Prop) (r s : Fingerprint × List Output) : Prop :=
  r.2 = s.2 ∧ ∃ l, s.1 = r.1.withLockout l ∧ LockoutControl.Alike U live r.1.lockout l

/-- `onAcquired` does not look at the lockout part. -/
theorem onAcquired_withLockout (e : FingerprintEngine) (l : LockoutControl)
    (result vendorCode : BitVec 32) :
    { e with toLockoutControl := l }.onAcquired result vendorCode =
      ({ (e.onAcquired result vendorCode).1 with toLockoutControl := l },
        (e.onAcquired result vendorCode).2) := by
  rcases FingerprintEngine.onAcquired_cases result vendorCode with h | h
  · rw [h, h]
  · rw [h, h]
    rfl

section Handlers

variable {U : Util} {live : Prop} {w : Fingerprint} {l : LockoutControl}

/-- A task on alike services. -/
theorem run_alike (h : LockoutControl.Alike U live w.lockout l) (inp : TaskInputs) (t : Task) :
    AlikeResults U live (t.run U inp w) (t.run U inp (w.withLockout l)) := by
  obtain ⟨s, body⟩ := t
  cases body with
  | resetLockout hat =>
      obtain ⟨ho, hl⟩ := LockoutControl.alike_resetLockoutImpl h hat
      exact ⟨ho, _, rfl, hl⟩
  | onPointerDown x y =>
      obtain ⟨hb, ho, hl⟩ := @LockoutControl.alike_check U live s inp.clk _ _ h
      have hb' : ((w.withLockout l).mEngine.toLockoutControl.checkSensorLockout U s inp.clk).1 =
          (w.mEngine.toLockoutControl.checkSensorLockout U s inp.clk).1 := hb.symm
      simp only [Task.run]
      rw [hb']
      split
      · exact ⟨ho, _, rfl, hl⟩
      · exact ⟨congrArg (· ++ _) ho, _, rfl, hl⟩
  | _ => exact ⟨rfl, l, rfl, h⟩

/-- A message given to a session of alike services. -/
theorem notify_alike (h : LockoutControl.Alike U live w.lockout l) (hlive : live)
    (s : SessionId) (msg : Msg) (clk : Readings) :
    AlikeResults U live (Session.notify U s msg clk w)
      (Session.notify U s msg clk (w.withLockout l)) := by
  cases msg with
  | FINGERPRINT_AUTHENTICATED fid hat =>
      simp only [Session.notify]
      split
      · exact ⟨rfl, _, rfl, LockoutControl.alike_matched h hlive⟩
      · obtain ⟨ho, hl⟩ := @LockoutControl.alike_failedMatch U live s clk _ _ h hlive
        exact ⟨congrArg (_ :: · ++ _) ho, _, rfl, hl⟩
  | FINGERPRINT_ACQUIRED acquired_info =>
      let info := FingerprintEngine.convertAcquiredInfo acquired_info
      have hl : LockoutControl.Alike U live
          (w.mEngine.onAcquired (info.1.ordinal.signExtend 32) info.2).1.toLockoutControl l := by
        rw [onAcquired_lockout]
        exact h
      simp only [Session.notify, Fingerprint.withLockout, onAcquired_withLockout]
      exact ⟨rfl, l, rfl, hl⟩
  | FINGERPRINT_TEMPLATE_ENUMERATING fid remaining =>
      simp only [Session.notify]
      split
      · exact ⟨rfl, l, rfl, h⟩
      · exact ⟨rfl, l, rfl, h⟩
  | _ => exact ⟨rfl, l, rfl, h⟩

end Handlers

/-- From the results of a handler to the answers of the machine. -/
theorem answers_of_alike {U : Util} {live : Prop} {r s : Fingerprint × List Output}
    (h : AlikeResults U live r s) (hdead : ¬ live → ∀ x ∈ r.1.sessions, x.mIsClosed = true) :
    Machine.Answers (AlikeServices U live) (some r) (some s) := by
  obtain ⟨ho, l, hl, ha⟩ := h
  exact ⟨ho, l, hl, ha, hdead⟩

/-- Closing a session opens none. -/
theorem closed_modify {ss : List Session} (s : SessionId)
    (h : ∀ x ∈ ss, x.mIsClosed = true) :
    ∀ x ∈ ss.modify s fun x => { x with mIsClosed := true }, x.mIsClosed = true := by
  intro x hx
  obtain ⟨i, hi⟩ := List.mem_iff_getElem?.mp hx
  rw [List.getElem?_modify] at hi
  obtain ⟨y, hy, rfl⟩ := Option.map_eq_some_iff.mp hi
  split
  · rfl
  · exact h y (List.mem_of_getElem? hy)

/-- The constructor of a session does not look at the lockout part. -/
theorem createSession_alike {U : Util} {m₁ m₂ : Memory} {live : Prop} {w v : Fingerprint}
    (hborn : ∀ s, m₁.mIsClosed s = m₂.mIsClosed s)
    (hdead : ¬ live → ∀ s, m₁.mIsClosed s = true) (h : AlikeServices U live w v)
    (sensorId userId error : BitVec 32) :
    Machine.Answers (AlikeServices U live)
      ((service U m₁).step w (.createSession sensorId userId error))
      ((service U m₂).step v (.createSession sensorId userId error)) := by
  obtain ⟨l, rfl, h, hclosed⟩ := h
  simp only [service, Fingerprint.step, Fingerprint.createSession]
  have ho : (w.withLockout l).openSession = w.openSession := rfl
  rw [ho]
  split
  · trivial
  · split
    · trivial
    · refine ⟨rfl, l, ?_, h, fun hl => ?_⟩
      · dsimp only [Fingerprint.withLockout]
        rw [hborn]
      · intro x hx
        rcases List.mem_append.mp hx with hx | hx
        · exact hclosed hl x hx
        · rw [List.mem_singleton.mp hx]
          exact hdead hl _

section Answers

variable {U : Util} {m₁ m₂ : Memory} {live : Prop} {w v : Fingerprint}

/-- The worker of alike services. -/
theorem work_alike (h : AlikeServices U live w v) (inp : TaskInputs) :
    Machine.Answers (AlikeServices U live) ((service U m₁).step w (.work inp))
      ((service U m₂).step v (.work inp)) := by
  obtain ⟨l, rfl, h, hclosed⟩ := h
  simp only [service, Fingerprint.step, Fingerprint.work]
  have hq : (w.withLockout l).mWorker.pop = w.mWorker.pop := rfl
  rw [hq]
  split
  · trivial
  · next t q _ =>
      have hr : LockoutControl.Alike U live
          { w with mWorker := q, clock := inp.clk.atTimeLeft }.lockout l := h
      obtain ⟨e, hf⟩ := run_frame U inp t
        { w with mWorker := q, clock := inp.clk.atTimeLeft }
      refine answers_of_alike (run_alike hr inp t) ?_
      rw [hf]
      exact hclosed

/-- A message to alike services. It is given to a session only where one can be open. -/
theorem message_alike (h : AlikeServices U live w v) (msg : Msg) (clk : Readings) :
    Machine.Answers (AlikeServices U live) ((service U m₁).step w (.message msg clk))
      ((service U m₂).step v (.message msg clk)) := by
  obtain ⟨l, rfl, h, hclosed⟩ := h
  simp only [service, Fingerprint.step, Fingerprint.notify]
  have ho : { w.withLockout l with clock := clk.atTimeLeft }.openSession =
      { w with clock := clk.atTimeLeft }.openSession := rfl
  rw [ho]
  split
  · exact ⟨rfl, l, rfl, h, hclosed⟩
  · next s hs =>
      have hlive : live := by
        refine Classical.byContradiction fun hl => ?_
        have hn : { w with clock := clk.atTimeLeft }.openSession = none :=
          openSession_eq_none (hclosed hl)
        rw [hs] at hn
        cases hn
      have hr : LockoutControl.Alike U live
          { w with clock := clk.atTimeLeft }.lockout l := h
      exact answers_of_alike (notify_alike hr hlive s msg clk) fun hl => absurd hlive hl

end Answers

/-- Alike services answer every event alike, whatever else their memory held, as long as
    the session objects are born alike. -/
theorem service_bisimulation {U : Util} {m₁ m₂ : Memory} {live : Prop}
    (hborn : ∀ s, m₁.mIsClosed s = m₂.mIsClosed s)
    (hdead : ¬ live → ∀ s, m₁.mIsClosed s = true) :
    Machine.Bisimulation (service U m₁) (service U m₂) (AlikeServices U live) := by
  intro w v e halike
  obtain ⟨l, rfl, h, hclosed⟩ := halike
  cases e with
  | createSession sensorId userId error =>
      exact createSession_alike hborn hdead ⟨l, rfl, h, hclosed⟩ sensorId userId error
  | request s r =>
      simp only [service, Fingerprint.step]
      have hlen : (w.withLockout l).sessions.length = w.sessions.length := rfl
      rw [hlen]
      split
      · obtain ⟨q, n, hf⟩ := call_frame s r w
        have hf' : Session.call s (w.withLockout l) r = (Session.call s w r).withLockout l := by
          cases r <;> rfl
        rw [hf', hf]
        exact ⟨rfl, l, rfl, h, hclosed⟩
      · trivial
  | close s =>
      simp only [service, Fingerprint.step]
      have hlen : (w.withLockout l).sessions.length = w.sessions.length := rfl
      rw [hlen]
      split
      · exact ⟨rfl, l, rfl, h, fun hl => closed_modify s (hclosed hl)⟩
      · trivial
  | clientDeath s =>
      simp only [service, Fingerprint.step, Session.onClientDeath]
      have hlen : (w.withLockout l).sessions.length = w.sessions.length := rfl
      have hc : (w.withLockout l).isClosed s = w.isClosed s := rfl
      rw [hlen, hc]
      split
      · split
        · exact ⟨rfl, l, rfl, h, fun hl => closed_modify s (hclosed hl)⟩
        · exact ⟨rfl, l, rfl, h, hclosed⟩
      · trivial
  | cancel signal =>
      simp only [service, Fingerprint.step]
      have hsig : (w.withLockout l).signals = w.signals := rfl
      rw [hsig]
      split
      · exact ⟨rfl, l, rfl, h, hclosed⟩
      · trivial
  | work inp => exact work_alike ⟨l, rfl, h, hclosed⟩ inp
  | message msg clk => exact message_alike ⟨l, rfl, h, hclosed⟩ msg clk
  | timer i now =>
      simp only [service, Fingerprint.step, Fingerprint.timerExpired]
      have hts : (w.withLockout l).mEngine.timers = w.mEngine.timers := h.timers.symm
      rw [hts]
      split
      · trivial
      · next t ht =>
          obtain ⟨ho, hl⟩ := LockoutControl.alike_expire h ht
          exact ⟨ho, _, rfl, hl, hclosed⟩

end FingerprintHal
