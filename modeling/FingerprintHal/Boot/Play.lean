/-
  Two services are played with, in step.

  A session is made, closed, made again; session 0 asks for what it likes and the worker
  does it; a failed match comes in; a timer expires. `Untold` relates the lockout parts of
  two services that have just made their session `n` and answer every list of events alike.
  Each game says what two such lockout parts must then agree on, and that what they become
  is untold again, so games can follow one another.
-/
import FingerprintHal.Boot.Alike

namespace FingerprintHal

open Lib

/-! ## A service that is played with -/

/-- The service has made `n` sessions, none of them open, and nothing is left to do. -/
structure Waiting (n : Nat) (l : LockoutControl) (w : Fingerprint) : Prop where
  made : w.sessions.length = n
  none_open : w.openSession = none
  idle : w.mWorker.items = []
  lockout : w.lockout = l

/-- The service has just made session `n`, and nothing is left to do. -/
structure Created (mem : Memory) (n : Nat) (l : LockoutControl) (w : Fingerprint) : Prop where
  made : w.sessions.length = n + 1
  current : w.mSession = some n
  closed : w.isClosed n = mem.mIsClosed n
  idle : w.mWorker.items = []
  lockout : w.lockout = l

section OneSide

variable {U : Util} {mem : Memory} {n : Nat} {l : LockoutControl} {w w' : Fingerprint}
  {o : List Output}

theorem Waiting.create (h : Waiting n l w) :
    ∃ w', (service U mem).step w (.createSession 0 0 0) =
        some (w', w.mEngine.setActiveGroup 0 0) ∧
      Created mem n l w' := by
  refine ⟨_, step_createSession.mpr ⟨h.none_open, by decide, by decide, rfl, rfl⟩, ?_⟩
  refine ⟨?_, congrArg some h.made, ?_, h.idle, h.lockout⟩
  · rw [List.length_append, h.made]
    rfl
  · simp only [Fingerprint.isClosed, h.made]
    rw [List.getElem?_append_right (Nat.le_of_eq h.made), h.made, Nat.sub_self]
    rfl

theorem Created.openSession (h : Created mem n l w) :
    w.openSession = if mem.mIsClosed n then none else some n := by
  unfold Fingerprint.openSession
  rw [h.current]
  dsimp only
  rw [h.closed]

theorem Created.close (h : Created mem n l w) :
    ∃ w', (service U mem).step w (.close n) = some (w', [.callback n .onSessionClosed]) ∧
      Waiting (n + 1) l w' := by
  have hn : n < w.sessions.length := by rw [h.made]; omega
  refine ⟨_, step_close.mpr ⟨hn, rfl⟩, ?_, ?_, h.idle, h.lockout⟩
  · rw [List.length_modify, h.made]
  · have hc : (Session.close n w).1.isClosed n = true := by
      simp [Session.close, Fingerprint.isClosed, hn]
    unfold Fingerprint.openSession
    dsimp only
    rw [h.current]
    exact if_pos hc

/-- Session 0 asks for something, and the worker does it. `op` is what that means for the
    lockout part. -/
theorem Created.task (h : Created mem n l w) {r : Request} {body : TaskBody}
    {clk : Readings} {op : LockoutOp} {l' : LockoutControl} {p : List Output}
    (hr : ∀ v, Session.call 0 v r = v.schedule 0 body)
    (hop : ∀ v : Fingerprint, v.mWorker.items = [⟨0, body⟩] →
      lockoutOp v (.work ⟨0, .zeroed, true, clk⟩) = some op)
    (hl : (lockoutMachine U).step l op = some (l', p)) :
    ∃ w₁ w₂ o, (service U mem).step w (.request 0 r) = some (w₁, []) ∧
      (service U mem).step w₁ (.work ⟨0, .zeroed, true, clk⟩) = some (w₂, o) ∧
      o.filter Output.isLockout = p ∧ Created mem n l' w₂ := by
  have hlen : 0 < w.sessions.length := by rw [h.made]; omega
  have hitems : (w.schedule 0 body).mWorker.items = [⟨0, body⟩] := by
    simp only [Fingerprint.schedule, BoundedQueue.items_schedule, h.idle]
    rfl
  obtain ⟨w₂, o, hs⟩ : ∃ w₂ o, (service U mem).step (w.schedule 0 body)
      (.work ⟨0, .zeroed, true, clk⟩) = some (w₂, o) :=
    ⟨_, _, step_work.mpr ⟨⟨0, body⟩, .empty, hitems, rfl⟩⟩
  have hstep := step_lockout hs
  rw [hop _ hitems] at hstep
  dsimp only at hstep
  have hlock : (w.schedule 0 body).lockout = l := h.lockout
  rw [hlock, hl] at hstep
  obtain ⟨hl', ho⟩ := Prod.mk.inj (Option.some.inj hstep)
  refine ⟨w.schedule 0 body, w₂, o, step_request.mpr ⟨hlen, by rw [hr]⟩, hs, ho.symm, ?_⟩
  obtain ⟨t, q, e, hi, hf⟩ := work_frame hs
  have hq : q.items = [] := (List.cons.inj (hitems.symm.trans hi)).2.symm
  subst hf
  exact ⟨h.made, h.current, h.closed, hq, hl'.symm⟩

/-- A failed match is given to the session that was made, when it was born open. -/
theorem Created.failedMatch (h : Created mem n l w) (hopen : mem.mIsClosed n = false)
    (clk : Readings) :
    ∃ w' o, (service U mem).step w
        (.message (.FINGERPRINT_AUTHENTICATED 0 .zeroed) clk) = some (w', o) ∧
      o.filter Output.isLockout = (l.failedMatch U n clk).2 ∧
      Created mem n (l.failedMatch U n clk).1 w' := by
  obtain ⟨w', o, hs⟩ : ∃ w' o, (service U mem).step w
      (.message (.FINGERPRINT_AUTHENTICATED 0 .zeroed) clk) = some (w', o) := ⟨_, _, rfl⟩
  have ho : w.openSession = some n := by rw [h.openSession, hopen]; rfl
  have hl := step_lockout hs
  simp only [lockoutOp, ho, ne_eq, not_true_eq_false, if_false, h.lockout] at hl
  obtain ⟨hl1, hl2⟩ := Prod.mk.inj (Option.some.inj hl)
  obtain ⟨e, fids, hf⟩ := message_frame hs
  refine ⟨w', o, hs, hl2.symm, ?_⟩
  subst hf
  exact ⟨h.made, h.current, h.closed, h.idle, hl1.symm⟩

/-- Another session can be made exactly when the last one was born closed. -/
theorem Created.create_none (h : Created mem n l w) :
    (service U mem).step w (.createSession 0 0 0) = none ↔ mem.mIsClosed n = false := by
  simp only [service, Fingerprint.step, Fingerprint.createSession, h.openSession]
  cases mem.mIsClosed n with
  | true => simp
  | false => simp

theorem Created.timer_none (h : Created mem n l w) (now : Int) :
    (service U mem).step w (.timer 0 now) = none ↔ l.timers[0]? = none := by
  have ht : w.mEngine.timers = l.timers := congrArg LockoutControl.timers h.lockout
  simp only [service, Fingerprint.step, Fingerprint.timerExpired, ht]
  split
  · next hn => simp [hn]
  · next t hs => simp [hs]

/-- A timer expires. -/
theorem Created.timer (h : Created mem n l w) {t : LockoutTimer} (ht : l.timers[0]? = some t)
    (now : Int) :
    ∃ w' o, (service U mem).step w (.timer 0 now) = some (w', o) ∧
      o.filter Output.isLockout = (l.expire 0 t).2 := by
  obtain ⟨w', o, hs⟩ : ∃ w' o, (service U mem).step w (.timer 0 now) = some (w', o) := by
    refine ⟨_, _, step_timer.mpr ⟨t, ?_, rfl⟩⟩
    rw [← ht, ← h.lockout]
  have hl := step_lockout hs
  simp only [lockoutOp, lockoutMachine, LockoutControl.step, h.lockout, ht] at hl
  exact ⟨w', o, hs, (congrArg Prod.snd (Option.some.inj hl)).symm⟩

end OneSide

/-- A timer that expires is silent when it was marked. -/
theorem LockoutControl.expire_silent_iff {i : Nat} {t : LockoutTimer} {l : LockoutControl} :
    (l.expire i t).2 = [] ↔ l.isLockoutTimerAborted = true := by
  cases ha : l.isLockoutTimerAborted with
  | true => rw [expire_aborted ha]; simp
  | false => rw [expire_live ha]; simp

/-! ## Two services that cannot be told apart -/

/-- The lockout parts of two services that have just made session `n` and that no list of
    events tells apart. -/
def Untold (U : Util) (m₁ m₂ : Memory) (n : Nat) (l m : LockoutControl) : Prop :=
  ∃ w v, Created m₁ n l w ∧ Created m₂ n m v ∧
    Machine.Indistinct (service U m₁) (service U m₂) w v

section TwoSides

variable {U : Util} {m₁ m₂ : Memory} {n : Nat} {l m : LockoutControl} {w v : Fingerprint}

/-- Sessions are made and closed until there are `n`. -/
theorem waiting_of_indistinct (hw : Waiting 0 l w) (hv : Waiting 0 m v)
    (h : Machine.Indistinct (service U m₁) (service U m₂) w v) :
    ∀ n, ∃ w' v', Waiting n l w' ∧ Waiting n m v' ∧
      Machine.Indistinct (service U m₁) (service U m₂) w' v'
  | 0 => ⟨w, v, hw, hv, h⟩
  | n + 1 => by
      obtain ⟨w₁, v₁, hw₁, hv₁, h₁⟩ := waiting_of_indistinct hw hv h n
      obtain ⟨w₂, sw, hw₂⟩ := @Waiting.create U m₁ _ _ _ hw₁
      obtain ⟨v₂, sv, hv₂⟩ := @Waiting.create U m₂ _ _ _ hv₁
      obtain ⟨-, h₂⟩ := h₁.next sw sv
      obtain ⟨w₃, sw, hw₃⟩ := @Created.close U _ _ _ _ hw₂
      obtain ⟨v₃, sv, hv₃⟩ := @Created.close U _ _ _ _ hv₂
      exact ⟨w₃, v₃, hw₃, hv₃, (h₂.next sw sv).2⟩

/-- And then session `n` is made. -/
theorem untold_of_indistinct (hw : Waiting 0 l w) (hv : Waiting 0 m v)
    (h : Machine.Indistinct (service U m₁) (service U m₂) w v) (n : Nat) :
    Untold U m₁ m₂ n l m := by
  obtain ⟨w₁, v₁, hw₁, hv₁, h₁⟩ := waiting_of_indistinct hw hv h n
  obtain ⟨w₂, sw, hw₂⟩ := @Waiting.create U m₁ _ _ _ hw₁
  obtain ⟨v₂, sv, hv₂⟩ := @Waiting.create U m₂ _ _ _ hv₁
  exact ⟨w₂, v₂, hw₂, hv₂, (h₁.next sw sv).2⟩

/-- The first session names the device. -/
theorem mDevice_of_indistinct (hw : Waiting 0 l w) (hv : Waiting 0 m v)
    (h : Machine.Indistinct (service U m₁) (service U m₂) w v) :
    w.mEngine.mDevice = v.mEngine.mDevice := by
  obtain ⟨w₁, sw, -⟩ := @Waiting.create U m₁ _ _ _ hw
  obtain ⟨v₁, sv, -⟩ := @Waiting.create U m₂ _ _ _ hv
  obtain ⟨ho, -⟩ := h.next sw sv
  exact (Output.device.inj (List.cons.inj ho).1).1

/-- A second session can be made exactly when the first one was born closed. -/
theorem Untold.born (h : Untold U m₁ m₂ n l m) : m₁.mIsClosed n = m₂.mIsClosed n := by
  obtain ⟨w, v, hw, hv, h⟩ := h
  have hiff := (hw.create_none.symm.trans h.none_iff).trans hv.create_none
  cases h₂ : m₂.mIsClosed n with
  | false => exact hiff.mpr h₂
  | true =>
      cases h₁ : m₁.mIsClosed n with
      | true => rfl
      | false => exact absurd (hiff.mp h₁) (by simp [h₂])

/-- A task of session 0 is done by both, and both say the same about lockouts. -/
theorem Untold.task (h : Untold U m₁ m₂ n l m) {r : Request} {body : TaskBody}
    {clk : Readings} {op : LockoutOp} {l' m' : LockoutControl} {p q : List Output}
    (hr : ∀ v, Session.call 0 v r = v.schedule 0 body)
    (hop : ∀ v : Fingerprint, v.mWorker.items = [⟨0, body⟩] →
      lockoutOp v (.work ⟨0, .zeroed, true, clk⟩) = some op)
    (hl : (lockoutMachine U).step l op = some (l', p))
    (hm : (lockoutMachine U).step m op = some (m', q)) :
    p = q ∧ Untold U m₁ m₂ n l' m' := by
  obtain ⟨w, v, hw, hv, h⟩ := h
  obtain ⟨w₁, w₂, o, sw₁, sw₂, rfl, hw₂⟩ := hw.task hr hop hl
  obtain ⟨v₁, v₂, o', sv₁, sv₂, rfl, hv₂⟩ := hv.task hr hop hm
  obtain ⟨rfl, h₂⟩ := (h.next sw₁ sv₁).2.next sw₂ sv₂
  exact ⟨rfl, w₂, v₂, hw₂, hv₂, h₂⟩

theorem Untold.pointerDown (h : Untold U m₁ m₂ n l m) (clk : Readings) :
    (l.checkSensorLockout U 0 clk).2.2 = (m.checkSensorLockout U 0 clk).2.2 ∧
      Untold U m₁ m₂ n (l.checkSensorLockout U 0 clk).2.1
        (m.checkSensorLockout U 0 clk).2.1 :=
  @Untold.task U m₁ m₂ n l m h (.onPointerDown 0 0 0) (.onPointerDown 0 0) clk
    (.pointerDown 0 clk) _ _ _ _ (fun _ => rfl) (fun v hv => by simp only [lockoutOp, hv])
    rfl rfl

theorem Untold.reset (h : Untold U m₁ m₂ n l m) :
    Untold U m₁ m₂ n (l.acceptReset 0).1 (m.acceptReset 0).1 :=
  (@Untold.task U m₁ m₂ n l m h (.resetLockout ⟨0, 0, 0, 0, 0, [1]⟩)
    (.resetLockout ⟨0, 0, 0, 0, 0, [1]⟩) (.still 0) (.resetAccepted 0) _ _ _ _
    (fun _ => rfl) (fun v hv => by simp [lockoutOp, hv]) rfl rfl).2

theorem Untold.failedMatch (h : Untold U m₁ m₂ n l m) (h₁ : m₁.mIsClosed n = false)
    (clk : Readings) :
    (l.failedMatch U n clk).2 = (m.failedMatch U n clk).2 ∧
      Untold U m₁ m₂ n (l.failedMatch U n clk).1 (m.failedMatch U n clk).1 := by
  have h₂ : m₂.mIsClosed n = false := h.born.symm.trans h₁
  obtain ⟨w, v, hw, hv, h⟩ := h
  obtain ⟨w₁, o, sw, ho, hw₁⟩ := @Created.failedMatch U _ _ _ _ hw h₁ clk
  obtain ⟨v₁, o', sv, ho', hv₁⟩ := @Created.failedMatch U _ _ _ _ hv h₂ clk
  obtain ⟨rfl, h'⟩ := h.next sw sv
  exact ⟨ho.symm.trans ho', w₁, v₁, hw₁, hv₁, h'⟩

/-- A timer can expire in both or in none. -/
theorem Untold.timers (h : Untold U m₁ m₂ n l m) :
    l.timers[0]? = none ↔ m.timers[0]? = none := by
  obtain ⟨w, v, hw, hv, h⟩ := h
  exact ((hw.timer_none 0).symm.trans h.none_iff).trans (hv.timer_none 0)

/-- And then it says the same in both, which tells whether it was marked. -/
theorem Untold.aborted (h : Untold U m₁ m₂ n l m) (ht : l.timers[0]? ≠ none) :
    l.isLockoutTimerAborted = m.isLockoutTimerAborted := by
  obtain ⟨t, hl⟩ := Option.ne_none_iff_exists'.mp ht
  obtain ⟨u, hm⟩ := Option.ne_none_iff_exists'.mp (mt h.timers.mpr ht)
  obtain ⟨w, v, hw, hv, h⟩ := h
  obtain ⟨w₁, o, sw, ho⟩ := @Created.timer U _ _ _ _ hw t hl 0
  obtain ⟨v₁, o', sv, ho'⟩ := @Created.timer U _ _ _ _ hv u hm 0
  obtain ⟨rfl, -⟩ := h.next sw sv
  have he : (l.expire 0 t).2 = [] ↔ (m.expire 0 u).2 = [] := by rw [← ho, ← ho']
  rw [LockoutControl.expire_silent_iff, LockoutControl.expire_silent_iff] at he
  exact Bool.eq_iff_iff.mpr he

end TwoSides

/-! ## A lockout that has not elapsed -/

/-- No time has elapsed before the start. -/
theorem Util.Lawful.not_elapsed {U : Util} (hU : U.Lawful) {now start : Int}
    (h : now ≤ start) : U.hasElapsed now start LOCKOUT_TIMED_DURATION = false := by
  cases he : U.hasElapsed now start LOCKOUT_TIMED_DURATION with
  | false => rfl
  | true =>
      have := hU.elapsed _ _ _ he
      unfold LOCKOUT_TIMED_DURATION at this
      omega

theorem LockoutTracker.not_locked {t : LockoutTracker} (h : ¬ t.Locked) :
    t.mCurrentMode = .kNone ∨ t.mCurrentMode = .other := by
  cases hm : t.mCurrentMode with
  | kNone => exact Or.inl rfl
  | other => exact Or.inr rfl
  | kTimed => exact absurd (Or.inl hm) h
  | kPermanent => exact absurd (Or.inr hm) h

namespace LockoutControl

/-- What a session is told about the stored mode by a check that finds no time elapsed. -/
def told (cb : SessionId) (now : Int) (l : LockoutControl) : List Output :=
  match l.mLockoutTracker.mCurrentMode with
  | .kPermanent => [.callback cb .onLockoutPermanent]
  | .kTimed => [.callback cb (.onLockoutTimed (l.mLockoutTracker.getLockoutTimeLeft now))]
  | _ => []

/-- A timer is launched, unless there is said to be one. -/
def launched (timeout : Int) (cb : SessionId) (now : Int) (l : LockoutControl) :
    LockoutControl :=
  if l.isLockoutTimerSupported ∧ ¬ l.isLockoutTimerStarted then
    l.startLockoutTimer timeout cb now
  else l

variable {U : Util} {cb : SessionId} {clk : Readings} {l : LockoutControl}

theorem launched_timers {timeout now : Int} (hs : l.isLockoutTimerSupported = true)
    (ht : l.timers = []) :
    (l.launched timeout cb now).timers[0]? = none ↔ l.isLockoutTimerStarted = true := by
  unfold launched startLockoutTimer
  cases hst : l.isLockoutTimerStarted with
  | true => simp [ht]
  | false => simp [hs, ht]

@[simp] theorem launched_aborted (timeout now : Int) :
    (l.launched timeout cb now).isLockoutTimerAborted = l.isLockoutTimerAborted := by
  unfold launched
  split <;> rfl

theorem check_told (h : U.hasElapsed clk.atMode l.mLockoutTracker.mLockoutTimedStart
      LOCKOUT_TIMED_DURATION = false) :
    (l.checkSensorLockout U cb clk).2.2 = l.told cb clk.atTimeLeft := by
  unfold told
  rcases check_cases U cb clk l with ⟨hm, e⟩ | ⟨hm, -, e⟩ | ⟨-, hr, -⟩ | ⟨h1, h2, e⟩
  · rw [e, hm]
  · rw [e, hm]
  · rw [h] at hr
    cases hr
  · rw [e]
    split
    · next hm => exact absurd hm h1
    · next hm => exact absurd hm h2
    · rfl

/-- The lockout part after `k` failed matches that changed nothing else. -/
def countedTo (k : Nat) (l : LockoutControl) : LockoutControl :=
  { l with mLockoutTracker := { l.mLockoutTracker with mFailedCount := k } }

theorem countedTo_zero (h : l.mLockoutTracker.mFailedCount = 0) : l.countedTo 0 = l := by
  unfold countedTo
  rw [Int.ofNat_zero, ← h]

theorem failedMatch_of_tracker {t : LockoutTracker}
    (h : l.mLockoutTracker.addFailedAttempt clk.atFailure = t) :
    l.failedMatch U cb clk = ({ l with mLockoutTracker := t }.checkSensorLockout U cb clk).2 := by
  rw [← h]
  rfl

/-- The first four failed matches are not heard of. -/
theorem failedMatch_early {k : Nat} (hk : k < 4) (hn : ¬ l.mLockoutTracker.Locked) :
    (l.countedTo k).failedMatch U cb clk = (l.countedTo (k + 1), []) := by
  have hadd : (l.countedTo k).mLockoutTracker.addFailedAttempt clk.atFailure =
      (l.countedTo (k + 1)).mLockoutTracker := by
    have hc : int32 ((k : Int) + 1) = (k + 1 : Nat) := int32_of_lt (by omega) (by omega)
    have h20 : ¬ LOCKOUT_PERMANENT_THRESHOLD ≤ ((k + 1 : Nat) : Int) := by
      unfold LOCKOUT_PERMANENT_THRESHOLD
      omega
    have h5 : ¬ LOCKOUT_TIMED_THRESHOLD ≤ ((k + 1 : Nat) : Int) := by
      unfold LOCKOUT_TIMED_THRESHOLD
      omega
    unfold countedTo LockoutTracker.addFailedAttempt
    dsimp only
    rw [hc, if_neg h20, if_neg fun h => h5 h.1]
  have hc : (l.countedTo (k + 1)).checkSensorLockout U cb clk =
      (false, l.countedTo (k + 1), []) :=
    check_unlocked (fun hp => hn (Or.inr hp)) fun ht => hn (Or.inl ht)
  exact (failedMatch_of_tracker hadd).trans (congrArg Prod.snd hc)

/-- The fifth starts a timed lockout. -/
theorem failedMatch_fifth (hU : U.Lawful) {now : Int}
    (hm : l.mLockoutTracker.mCurrentMode = .kNone) :
    (l.countedTo 4).failedMatch U cb (.still now) =
      ({ l with mLockoutTracker := ⟨5, now, .kTimed⟩ }.launched
          ((⟨5, now, .kTimed⟩ : LockoutTracker).getLockoutTimeLeft now) cb now,
        [.callback cb (.onLockoutTimed
          ((⟨5, now, .kTimed⟩ : LockoutTracker).getLockoutTimeLeft now))]) := by
  have hadd : (l.countedTo 4).mLockoutTracker.addFailedAttempt now = ⟨5, now, .kTimed⟩ := by
    unfold countedTo LockoutTracker.addFailedAttempt
    dsimp only
    rw [if_neg (by decide), if_pos ⟨by decide, hm⟩]
    rfl
  rw [@failedMatch_of_tracker U cb (.still now) _ _ hadd,
    check_timed rfl (hU.not_elapsed (Int.le_refl now))]
  rfl

/-- Unless the mode is none of the three. -/
theorem failedMatch_other {now : Int} (hm : l.mLockoutTracker.mCurrentMode = .other) :
    ((l.countedTo 4).failedMatch U cb (.still now)).2 = [] := by
  have hmode : ((l.countedTo 4).mLockoutTracker.addFailedAttempt now).mCurrentMode =
      .other := by
    rw [LockoutTracker.addFailedAttempt_mode]
    unfold countedTo
    dsimp only
    rw [if_neg (by decide), if_neg (by simp [hm]), hm]
  rw [@failedMatch_of_tracker U cb (.still now) _ _ rfl, check_unlocked]
  · exact fun hp => by cases hmode.symm.trans hp
  · exact fun ht => by cases hmode.symm.trans ht

end LockoutControl

/-! ## Games -/

section Games

variable {U : Util} {m₁ m₂ : Memory} {n : Nat} {l m : LockoutControl}

/-- A pointer-down at a time when neither lockout has elapsed. -/
theorem Untold.told (h : Untold U m₁ m₂ n l m) (hU : U.Lawful) {a now : Int} (ha : a ≤ now)
    (hl : a ≤ l.mLockoutTracker.mLockoutTimedStart)
    (hm : a ≤ m.mLockoutTracker.mLockoutTimedStart) : l.told 0 now = m.told 0 now := by
  let clk : Readings := ⟨a, a, now, Int.le_refl a, ha⟩
  have e₁ : (l.checkSensorLockout U 0 clk).2.2 = l.told 0 now :=
    LockoutControl.check_told (hU.not_elapsed hl)
  have e₂ : (m.checkSensorLockout U 0 clk).2.2 = m.told 0 now :=
    LockoutControl.check_told (hU.not_elapsed hm)
  rw [← e₁, ← e₂]
  exact (h.pointerDown clk).1

/-- It tells the lockouts apart. -/
theorem Untold.mode (h : Untold U m₁ m₂ n l m) (hU : U.Lawful) :
    l.mLockoutTracker.mCurrentMode = m.mLockoutTracker.mCurrentMode ∨
      (¬ l.mLockoutTracker.Locked ∧ ¬ m.mLockoutTracker.Locked) := by
  have ht := @Untold.told U m₁ m₂ n l m h hU
    (min l.mLockoutTracker.mLockoutTimedStart m.mLockoutTracker.mLockoutTimedStart) _
    (Int.le_refl _) (Int.min_le_left _ _) (Int.min_le_right _ _)
  unfold LockoutControl.told at ht
  unfold LockoutTracker.Locked
  cases hl : l.mLockoutTracker.mCurrentMode <;> cases hm : m.mLockoutTracker.mCurrentMode <;>
    simp_all

/-- Two timed lockouts look the same at every time. -/
theorem Untold.startsAlike (h : Untold U m₁ m₂ n l m) (hU : U.Lawful)
    (hl : l.mLockoutTracker.mCurrentMode = .kTimed)
    (hm : m.mLockoutTracker.mCurrentMode = .kTimed) :
    U.StartsAlike l.mLockoutTracker.mLockoutTimedStart
      m.mLockoutTracker.mLockoutTimedStart := by
  intro now
  constructor
  · -- one that has elapsed is not announced
    have ho := (h.pointerDown (.still now)).1
    cases hr₁ : U.hasElapsed now l.mLockoutTracker.mLockoutTimedStart
        LOCKOUT_TIMED_DURATION with
    | true =>
        cases hr₂ : U.hasElapsed now m.mLockoutTracker.mLockoutTimedStart
            LOCKOUT_TIMED_DURATION with
        | true => rfl
        | false =>
            rw [LockoutControl.check_elapsed hl hr₁, LockoutControl.check_timed hm hr₂] at ho
            cases ho
    | false =>
        cases hr₂ : U.hasElapsed now m.mLockoutTracker.mLockoutTimedStart
            LOCKOUT_TIMED_DURATION with
        | false => rfl
        | true =>
            rw [LockoutControl.check_timed hl hr₁, LockoutControl.check_elapsed hm hr₂] at ho
            cases ho
  · have ht := @Untold.told U m₁ m₂ n l m h hU
      (min now (min l.mLockoutTracker.mLockoutTimedStart m.mLockoutTracker.mLockoutTimedStart))
      now (by omega) (by omega) (by omega)
    unfold LockoutControl.told at ht
    rw [hl, hm] at ht
    exact Callback.onLockoutTimed.inj (Output.callback.inj (List.cons.inj ht).1).2

/-- Where a timer has just been launched unless there was said to be one, it tells the
    flags: whether it is there, and what it does. -/
theorem Untold.flags_of_launched {a b now now' : Int} {cb : SessionId}
    (h : Untold U m₁ m₂ n (l.launched a cb now) (m.launched b cb now'))
    (hl : l.isLockoutTimerSupported = true ∧ l.timers = [])
    (hm : m.isLockoutTimerSupported = true ∧ m.timers = []) :
    l.isLockoutTimerStarted = m.isLockoutTimerStarted ∧
      (l.isLockoutTimerStarted = false →
        l.isLockoutTimerAborted = m.isLockoutTimerAborted) := by
  have ht := h.timers
  rw [LockoutControl.launched_timers hl.1 hl.2, LockoutControl.launched_timers hm.1 hm.2] at ht
  refine ⟨Bool.eq_iff_iff.mpr ht, fun hf => ?_⟩
  have ha := h.aborted (by rw [ne_eq, LockoutControl.launched_timers hl.1 hl.2, hf]; simp)
  rwa [LockoutControl.launched_aborted, LockoutControl.launched_aborted] at ha

/-- A pointer-down in a timed lockout launches the timer. -/
theorem Untold.flags_of_kTimed (h : Untold U m₁ m₂ n l m) (hU : U.Lawful)
    (hl : l.isLockoutTimerSupported = true ∧ l.timers = [])
    (hm : m.isLockoutTimerSupported = true ∧ m.timers = [])
    (hl' : l.mLockoutTracker.mCurrentMode = .kTimed)
    (hm' : m.mLockoutTracker.mCurrentMode = .kTimed) :
    l.isLockoutTimerStarted = m.isLockoutTimerStarted ∧
      (l.isLockoutTimerStarted = false →
        l.isLockoutTimerAborted = m.isLockoutTimerAborted) := by
  have hp := (h.pointerDown (.still
    (min l.mLockoutTracker.mLockoutTimedStart m.mLockoutTracker.mLockoutTimedStart))).2
  rw [LockoutControl.check_timed hl' (hU.not_elapsed (Int.min_le_left _ _)),
    LockoutControl.check_timed hm' (hU.not_elapsed (Int.min_le_right _ _))] at hp
  exact Untold.flags_of_launched hp hl hm

/-- Four failed matches, without a lockout, move the counters only. -/
theorem Untold.four (h : Untold U m₁ m₂ n l m) (hopen : m₁.mIsClosed n = false)
    (hl : l.mLockoutTracker.mFailedCount = 0 ∧ ¬ l.mLockoutTracker.Locked)
    (hm : m.mLockoutTracker.mFailedCount = 0 ∧ ¬ m.mLockoutTracker.Locked) :
    ∀ k ≤ 4, Untold U m₁ m₂ n (l.countedTo k) (m.countedTo k)
  | 0, _ => by
      rw [LockoutControl.countedTo_zero hl.1, LockoutControl.countedTo_zero hm.1]
      exact h
  | k + 1, hk => by
      have hf := ((Untold.four h hopen hl hm k (by omega)).failedMatch hopen (.still 0)).2
      rw [LockoutControl.failedMatch_early (by omega) hl.2,
        LockoutControl.failedMatch_early (by omega) hm.2] at hf
      exact hf

/-- The fifth tells apart what looks unlocked. -/
theorem Untold.unlocked (h : Untold U m₁ m₂ n l m) (hU : U.Lawful)
    (hopen : m₁.mIsClosed n = false)
    (hl : l.mLockoutTracker.mFailedCount = 0 ∧ ¬ l.mLockoutTracker.Locked)
    (hm : m.mLockoutTracker.mFailedCount = 0 ∧ ¬ m.mLockoutTracker.Locked) :
    l.mLockoutTracker.mCurrentMode = m.mLockoutTracker.mCurrentMode := by
  have ho := ((h.four hopen hl hm 4 (by omega)).failedMatch hopen (.still 0)).1
  rcases LockoutTracker.not_locked hl.2 with h₁ | h₁
  · rcases LockoutTracker.not_locked hm.2 with h₂ | h₂
    · rw [h₁, h₂]
    · rw [LockoutControl.failedMatch_fifth hU h₁, LockoutControl.failedMatch_other h₂] at ho
      cases ho
  · rcases LockoutTracker.not_locked hm.2 with h₂ | h₂
    · rw [LockoutControl.failedMatch_other h₁, LockoutControl.failedMatch_fifth hU h₂] at ho
      cases ho
    · rw [h₁, h₂]

/-- A reset and five failed matches launch the timer, whatever the mode was. -/
theorem Untold.flags (h : Untold U m₁ m₂ n l m) (hU : U.Lawful)
    (hopen : m₁.mIsClosed n = false)
    (hl : l.isLockoutTimerSupported = true ∧ l.timers = [])
    (hm : m.isLockoutTimerSupported = true ∧ m.timers = []) :
    l.isLockoutTimerStarted = m.isLockoutTimerStarted ∧
      (l.isLockoutTimerStarted = false →
        l.isLockoutTimerAborted = m.isLockoutTimerAborted) := by
  have hr := h.reset
  rw [LockoutControl.acceptReset_eq, LockoutControl.acceptReset_eq] at hr
  have hu : ∀ t : LockoutTracker, ¬ (t.reset false).Locked := by
    intro t
    simp [LockoutTracker.Locked]
  have h4 := hr.four hopen ⟨rfl, hu _⟩ ⟨rfl, hu _⟩ 4 (by omega)
  have h5 := (h4.failedMatch hopen (.still 0)).2
  rw [LockoutControl.failedMatch_fifth hU rfl,
    LockoutControl.failedMatch_fifth hU rfl] at h5
  obtain ⟨hs, ha⟩ := Untold.flags_of_launched h5 hl hm
  refine ⟨hs, fun hf => ?_⟩
  have ha' := ha hf
  dsimp only at hs ha'
  rw [← hs, hf] at ha'
  exact ha'

end Games

end FingerprintHal
