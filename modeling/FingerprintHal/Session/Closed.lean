/-
  What a closed session still hears.

  `close` marks the session object and sends `onSessionClosed`; it takes no task out of
  the queue and stops no timer. Messages are kept from a closed session. Its tasks and the
  timers launched for it are not, and so nothing more is said to it exactly in the runs
  in which they have nothing to say (`nothing_after_close_iff`).
-/
import FingerprintHal.Lockout.Control
import FingerprintHal.Session.Steps

namespace FingerprintHal

open Lib

/-! ## Silent tasks -/

/-- A task that says nothing: its device call is accepted, it is not cancelled, and what
    it asks for can be done. A `resetLockout` always answers, a pointer-down task speaks
    in a lockout. -/
def Task.Silent (U : Util) (inp : TaskInputs) (t : Task) (w : Fingerprint) : Prop :=
  match t.body with
  | .enroll _ cancel => cancel ∉ w.cancelled ∧ inp.error = 0
  | .authenticate _ cancel => cancel ∉ w.cancelled ∧ inp.error = 0
  | .detectInteraction cancel => cancel ∉ w.cancelled ∧ inp.detect_interaction = true
  | .enumerateEnrollments => inp.error = 0
  | .resetLockout _ => False
  | .onPointerDown _ _ =>
      w.mEngine.mLockoutTracker.Locked → w.mEngine.mLockoutTracker.Lapsed U inp.clk.atMode
  | _ => True

instance (U : Util) (inp : TaskInputs) (t : Task) (w : Fingerprint) :
    Decidable (t.Silent U inp w) :=
  match t with
  | ⟨_, .enroll _ cancel⟩ =>
      inferInstanceAs (Decidable (cancel ∉ w.cancelled ∧ inp.error = 0))
  | ⟨_, .authenticate _ cancel⟩ =>
      inferInstanceAs (Decidable (cancel ∉ w.cancelled ∧ inp.error = 0))
  | ⟨_, .detectInteraction cancel⟩ =>
      inferInstanceAs (Decidable (cancel ∉ w.cancelled ∧ inp.detect_interaction = true))
  | ⟨_, .enumerateEnrollments⟩ => inferInstanceAs (Decidable (inp.error = 0))
  | ⟨_, .resetLockout _⟩ => inferInstanceAs (Decidable False)
  | ⟨_, .onPointerDown _ _⟩ =>
      inferInstanceAs (Decidable (w.mEngine.mLockoutTracker.Locked →
        w.mEngine.mLockoutTracker.Lapsed U inp.clk.atMode))
  | ⟨_, .generateChallenge⟩ => inferInstanceAs (Decidable True)
  | ⟨_, .revokeChallenge _⟩ => inferInstanceAs (Decidable True)
  | ⟨_, .removeEnrollments _⟩ => inferInstanceAs (Decidable True)
  | ⟨_, .getAuthenticatorId⟩ => inferInstanceAs (Decidable True)
  | ⟨_, .invalidateAuthenticatorId⟩ => inferInstanceAs (Decidable True)
  | ⟨_, .onPointerUp⟩ => inferInstanceAs (Decidable True)
  | ⟨_, .onUiReady⟩ => inferInstanceAs (Decidable True)

/-- Nothing among `os` is said to `s`. -/
def SaysNothingTo (s : SessionId) (os : List Output) : Prop :=
  ∀ c, Output.callback s c ∉ os

theorem saysNothingTo_iff {s : SessionId} {os : List Output} :
    SaysNothingTo s os ↔ ∀ o ∈ os, o.recipient ≠ some s := by
  constructor
  · intro h o ho he
    cases o with
    | callback cb c =>
        cases he
        exact h c ho
    | _ => cases he
  · intro h c hc
    exact h _ hc rfl

instance (s : SessionId) : DecidablePred (SaysNothingTo s) :=
  fun _ => decidable_of_iff _ saysNothingTo_iff.symm

section Silent

variable {s : SessionId} {w : Fingerprint}

theorem saysNothing_failed {error : BitVec 32} :
    SaysNothingTo s (FingerprintEngine.failed s error) ↔ error = 0 := by
  unfold FingerprintEngine.failed SaysNothingTo
  split
  · next h => exact ⟨fun hn => absurd List.mem_cons_self (hn _), fun he => absurd he h⟩
  · next h => exact ⟨fun _ => Decidable.not_not.mp h, fun _ c hc => by cases hc⟩

theorem saysNothing_cons_device {d : Nat} {c : DeviceCall} {os : List Output} :
    SaysNothingTo s (.device d c :: os) ↔ SaysNothingTo s os := by
  simp [SaysNothingTo]

theorem saysNothing_detectInteractionImpl {supported : Bool} :
    SaysNothingTo s (FingerprintEngine.detectInteractionImpl s supported) ↔
      supported = true := by
  cases supported with
  | true => exact ⟨fun _ => rfl, fun _ c hc => by cases hc⟩
  | false => exact ⟨fun hn => absurd List.mem_cons_self (hn _), fun h => by cases h⟩

theorem saysNothing_unlessCancelled {cancel : Nat} {os : List Output} :
    SaysNothingTo s (w.unlessCancelled s cancel os) ↔
      cancel ∉ w.cancelled ∧ SaysNothingTo s os := by
  by_cases hc : cancel ∈ w.cancelled
  · rw [unlessCancelled_of_mem hc]
    simp [hc, SaysNothingTo]
  · rw [unlessCancelled_of_not_mem hc]
    simp [hc]

/-- `checkSensorLockout` says nothing when it finds no lockout, or one that is over. -/
theorem saysNothing_check {U : Util} {clk : Readings} {l : LockoutControl} :
    SaysNothingTo s (l.checkSensorLockout U s clk).2.2 ↔
      (l.mLockoutTracker.Locked → l.mLockoutTracker.Lapsed U clk.atMode) := by
  rcases LockoutControl.check_cases U s clk l with ⟨hm, e⟩ | ⟨hm, hr, e⟩ | ⟨hm, hr, e⟩ |
    ⟨h1, h2, e⟩
  · rw [e]
    constructor
    · exact fun hn => absurd List.mem_cons_self (hn _)
    · intro h
      have := (h (Or.inr hm)).1
      rw [hm] at this
      cases this
  · rw [e]
    constructor
    · exact fun hn => absurd List.mem_cons_self (hn _)
    · intro h
      have := (h (Or.inl hm)).2
      rw [hr] at this
      cases this
  · rw [e]
    exact ⟨fun _ _ => ⟨hm, hr⟩, fun _ c hc => by cases hc⟩
  · rw [e]
    exact ⟨fun _ h => absurd h (by simp [LockoutTracker.Locked, h1, h2]),
      fun _ c hc => by cases hc⟩

/-- `resetLockoutImpl` answers in any case. -/
theorem resetLockoutImpl_answers (s : SessionId) (hat : HardwareAuthToken)
    (l : LockoutControl) : ∃ c, Output.callback s c ∈ (l.resetLockoutImpl s hat).2 := by
  unfold LockoutControl.resetLockoutImpl LockoutControl.acceptReset
  split
  · exact ⟨_, List.mem_singleton.mpr rfl⟩
  · exact ⟨_, List.mem_singleton.mpr rfl⟩

/-- A task says nothing to its session exactly when it is silent. -/
theorem run_silent_iff {U : Util} {inp : TaskInputs} {t : Task} :
    SaysNothingTo t.session (t.run U inp w).2 ↔ t.Silent U inp w := by
  obtain ⟨s, body⟩ := t
  cases body with
  | enroll hat cancel =>
      exact saysNothing_unlessCancelled.trans
        (and_congr_right fun _ => saysNothing_cons_device.trans saysNothing_failed)
  | authenticate operationId cancel =>
      exact saysNothing_unlessCancelled.trans
        (and_congr_right fun _ => saysNothing_cons_device.trans saysNothing_failed)
  | detectInteraction cancel =>
      exact saysNothing_unlessCancelled.trans
        (and_congr_right fun _ => saysNothing_detectInteractionImpl)
  | enumerateEnrollments => exact saysNothing_cons_device.trans saysNothing_failed
  | resetLockout hat =>
      obtain ⟨c, hc⟩ := resetLockoutImpl_answers s hat w.mEngine.toLockoutControl
      exact ⟨fun hn => absurd hc (hn c), False.elim⟩
  | onPointerDown x y =>
      have hc : SaysNothingTo s
          (w.mEngine.toLockoutControl.checkSensorLockout U s inp.clk).2.2 ↔ _ :=
        saysNothing_check
      refine Iff.trans ?_ hc
      simp only [Task.run, SaysNothingTo]
      split
      · exact Iff.rfl
      · simp [Fingerprint.withEngine]
  | onPointerUp =>
      exact ⟨fun _ => trivial, fun _ c hc => onPointerUpImpl_no_callback _ _ _ hc⟩
  | _ =>
      refine ⟨fun _ => trivial, fun _ c hc => ?_⟩
      simp [Task.run, FingerprintEngine.generateChallengeImpl,
        FingerprintEngine.revokeChallengeImpl, FingerprintEngine.removeEnrollmentsImpl,
        FingerprintEngine.getAuthenticatorIdImpl,
        FingerprintEngine.invalidateAuthenticatorIdImpl] at hc

end Silent

/-! ## Sessions that were told they are closed -/

/-- The session was told it is closed. -/
def ToldClosed (s : SessionId) (us : List Handler) : Prop :=
  Output.callback s .onSessionClosed ∈ trace us

instance (s : SessionId) : DecidablePred (ToldClosed s) :=
  fun us => inferInstanceAs (Decidable (Output.callback s .onSessionClosed ∈ trace us))

/-- The client makes no call on `s` after `s` was told it is closed. -/
def NoCallAfterClose (s : SessionId) (us : List Handler) (t : Handler) : Prop :=
  ToldClosed s us → t.event ≠ .close s ∧ ∀ a ∈ t.event.asked, a.1 ≠ s

instance (s : SessionId) (us : List Handler) : DecidablePred (NoCallAfterClose s us) :=
  fun t => inferInstanceAs (Decidable
    (ToldClosed s us → t.event ≠ .close s ∧ ∀ a ∈ t.event.asked, a.1 ≠ s))

/-- Nothing is said to `s` after `s` was told it is closed. -/
def NothingAfterClose (s : SessionId) (us : List Handler) (t : Handler) : Prop :=
  ToldClosed s us → SaysNothingTo s t.outs

/-- A task of `s` that runs is silent, and a timer launched for `s` that expires is marked
    as aborted. -/
def QuietStep (U : Util) (s : SessionId) (t : Handler) : Prop :=
  (∀ inp ∈ t.event.worked, ∀ task ∈ t.pre.mWorker.items.head?, task.session = s →
    task.Silent U inp t.pre) ∧
  (∀ r ∈ t.event.expiry, ∀ tm ∈ t.pre.mEngine.timers[r.1]?, tm.cb = s →
    t.pre.mEngine.isLockoutTimerAborted = true)

instance (U : Util) (s : SessionId) : DecidablePred (QuietStep U s) :=
  fun t => inferInstanceAs (Decidable (
    (∀ inp ∈ t.event.worked, ∀ task ∈ t.pre.mWorker.items.head?, task.session = s →
      task.Silent U inp t.pre) ∧
    (∀ r ∈ t.event.expiry, ∀ tm ∈ t.pre.mEngine.timers[r.1]?, tm.cb = s →
      t.pre.mEngine.isLockoutTimerAborted = true)))

/-- The tasks and the timers of `s` are quiet after `s` was told it is closed. -/
def QuietAfterClose (U : Util) (s : SessionId) (us : List Handler) (t : Handler) : Prop :=
  ToldClosed s us → QuietStep U s t

instance (U : Util) (s : SessionId) (us : List Handler) :
    DecidablePred (QuietAfterClose U s us) :=
  fun t => inferInstanceAs (Decidable (ToldClosed s us → QuietStep U s t))

instance (s : SessionId) (us : List Handler) : DecidablePred (NothingAfterClose s us) :=
  fun t => inferInstanceAs (Decidable (ToldClosed s us → SaysNothingTo s t.outs))

/-- The session object of `s` is marked as closed. -/
def Fingerprint.MarkedClosed (s : SessionId) (w : Fingerprint) : Prop :=
  ∃ x, w.sessions[s]? = some x ∧ x.mIsClosed = true

theorem Fingerprint.MarkedClosed.isClosed {s : SessionId} {w : Fingerprint}
    (h : w.MarkedClosed s) : w.isClosed s = true := by
  obtain ⟨x, hx, hc⟩ := h
  unfold Fingerprint.isClosed
  rw [hx]
  exact hc

/-- A session that is marked as closed is not the open one. -/
theorem Fingerprint.MarkedClosed.openSession_ne {s : SessionId} {w : Fingerprint}
    (h : w.MarkedClosed s) : w.openSession ≠ some s := by
  unfold Fingerprint.openSession
  split
  · simp
  · next s' _ =>
      split
      · simp
      · next hc =>
          intro e
          rw [Option.some.inj e, h.isClosed] at hc
          exact hc rfl

theorem markedClosed_step {U : Util} {mem : Memory} {w w' : Fingerprint} {e : Event}
    {o : List Output} (hstep : (service U mem).step w e = some (w', o)) {s : SessionId}
    (h : w.MarkedClosed s) : w'.MarkedClosed s := by
  obtain ⟨x, hx, hc⟩ := h
  obtain ⟨y, hy, hl⟩ := step_sessions hstep hx
  exact ⟨y, hy, hl.closed hc⟩

/-- The step that tells a session it is closed marks it. -/
theorem markedClosed_of_told {U : Util} {mem : Memory} {w w' : Fingerprint} {e : Event}
    {o : List Output} (hstep : (service U mem).step w e = some (w', o)) {s : SessionId}
    (h : Output.callback s .onSessionClosed ∈ o) : w'.MarkedClosed s := by
  have hclose : (service U mem).step w (.close s) = some (w', o) → w'.MarkedClosed s := by
    intro hs
    obtain ⟨hlt, -⟩ := step_close.mp hs
    obtain ⟨rfl, -⟩ := close_frame hs
    refine ⟨{ w.sessions[s] with mIsClosed := true }, ?_, rfl⟩
    simp [hlt]
  rcases step_callback hstep h with ⟨_, _, _, _, _, hc⟩ | ⟨_, _, _, _, hc⟩ |
    ⟨_, _, _, _, _, _, _, hc⟩ | ⟨he | ⟨he, -⟩, -⟩
  · exact hc.elim
  · exact absurd rfl (hc.elim handedOn_ne_closed fun hc => hc.elim)
  · cases hc
  · exact hclose (he ▸ hstep)
  · rw [he] at hstep
    rcases clientDeath_frame hstep with ⟨-, hs⟩ | ⟨-, -, rfl⟩
    · exact hclose hs
    · cases h

theorem toldClosed_snoc {s : SessionId} {us : List Handler} {t : Handler} :
    ToldClosed s (us ++ [t]) ↔
      ToldClosed s us ∨ Output.callback s .onSessionClosed ∈ t.outs := by
  unfold ToldClosed
  rw [trace_append, trace_cons, trace_nil, List.append_nil, List.mem_append]

/-- The invariant: who was told is marked. -/
theorem markedClosed_run {U : Util} {mem : Memory} {w₀ w : Fingerprint} {us : List Handler}
    (h : (service U mem).Run w₀ us w) (s : SessionId) : ToldClosed s us → w.MarkedClosed s := by
  refine h.invariant (C := fun _ _ => True)
    (I := fun us w => ToldClosed s us → w.MarkedClosed s) (fun _ _ _ _ => trivial)
    (fun h => by cases h) ?_
  intro us t hI _ hstep htold
  rcases toldClosed_snoc.mp htold with h | h
  · exact markedClosed_step hstep (hI h)
  · exact markedClosed_of_told hstep h

/-- One step, with `s` closed and left alone by its client: it says nothing to `s` exactly
    when the tasks and the timers of `s` have nothing to say. -/
theorem quiet_step_iff {U : Util} {mem : Memory} {t : Handler} {s : SessionId}
    (hstep : (service U mem).step t.pre t.event = some (t.post, t.outs))
    (hclosed : t.pre.MarkedClosed s) (hcall : t.event ≠ .close s) :
    SaysNothingTo s t.outs ↔ QuietStep U s t := by
  constructor
  · intro hno
    constructor
    · rintro inp hinp task htask rfl
      have he : t.event = .work inp := by
        unfold Event.worked at hinp
        split at hinp
        · next he => cases hinp; exact he
        · cases hinp
      rw [he] at hstep
      obtain ⟨task', q, hi, hr⟩ := step_work.mp hstep
      rw [hi] at htask
      cases htask
      have ho : t.outs = _ := congrArg Prod.snd hr
      rw [ho] at hno
      have hsil := run_silent_iff.mp hno
      exact hsil
    · rintro ⟨i, now⟩ hr tm htm rfl
      have he : t.event = .timer i now := by
        unfold Event.expiry at hr
        split at hr
        · next he => cases hr; exact he
        · cases hr
      rw [he] at hstep
      obtain ⟨tm', htm', ho⟩ := step_timer.mp hstep
      cases htm.symm.trans htm'
      cases ha : t.pre.mEngine.isLockoutTimerAborted with
      | true => rfl
      | false =>
          have ho : t.outs = (t.pre.lockout.expire i tm).2 := congrArg Prod.snd ho
          rw [LockoutControl.expire_live ha] at ho
          exact absurd (by rw [ho]; exact List.mem_cons_self) (hno .onLockoutCleared)
  · rintro ⟨hwork, htimer⟩ c hc
    rcases step_callback hstep hc with ⟨inp, body, q, he, hi, -⟩ | ⟨_, _, _, hs, -⟩ |
      ⟨i, now, tm, he, htm, hcb, ha, -⟩ | ⟨he | ⟨-, ho⟩, -⟩
    · have hsil := hwork inp (by rw [he]; rfl) ⟨s, body⟩ (by rw [hi]; rfl) rfl
      rw [he] at hstep
      obtain ⟨task, q', hi', hr⟩ := step_work.mp hstep
      obtain ⟨rfl, -⟩ := List.cons.inj (hi'.symm.trans hi)
      have ho : t.outs = _ := congrArg Prod.snd hr
      rw [ho] at hc
      have hsil' : Task.Silent U inp ⟨s, body⟩
          { t.pre with mWorker := q', clock := inp.clk.atTimeLeft } := hsil
      exact run_silent_iff.mpr hsil' c hc
    · exact hclosed.openSession_ne hs
    · rw [htimer (i, now) (by rw [he]; rfl) tm htm hcb] at ha
      cases ha
    · exact hcall he
    · rw [hclosed.isClosed] at ho
      cases ho

/-- **When nothing is said to a closed session.** In every run in which the client makes
    no further call on `s`, nothing is said to `s` after `onSessionClosed` exactly when
    every task of `s` that still runs is silent and every timer of `s` that still expires
    is marked as aborted. -/
theorem nothing_after_close_iff {U : Util} {mem : Memory} {w₀ w : Fingerprint}
    {ts : List Handler} {s : SessionId} (hrun : (service U mem).Run w₀ ts w)
    (hcalls : Along (NoCallAfterClose s) ts) :
    Along (NothingAfterClose s) ts ↔ Along (QuietAfterClose U s) ts := by
  have hiff : ∀ us t vs, ts = us ++ t :: vs → ToldClosed s us →
      (SaysNothingTo s t.outs ↔ QuietStep U s t) := by
    rintro us t vs rfl htold
    obtain ⟨h1, hstep, -⟩ := hrun.at_step
    exact quiet_step_iff hstep (markedClosed_run h1 s htold) (hcalls us t vs rfl htold).1
  constructor
  · intro h us t vs e htold
    exact (hiff us t vs e htold).mp (h us t vs e htold)
  · intro h us t vs e htold
    exact (hiff us t vs e htold).mpr (h us t vs e htold)

/-- A session that is closed with an `enumerateEnrollments` in the queue. -/
def closeWithTask : List Event :=
  [.createSession 0 10 0, .request 0 .enumerateEnrollments, .close 0]

theorem nothing_after_close_accepted :
    Along (NothingAfterClose 0)
      ((service .millis .zeroed).steps .ready (closeWithTask ++ [workAt 1])) :=
  (nothing_after_close_iff (Machine.run_steps (by decide +kernel)) (by decide +kernel)).mpr
    (by decide +kernel)

/-- The device refuses the `enumerate` of the closed session, which is told so. -/
theorem closed_session_told :
    let M := service .millis .zeroed
    let es := closeWithTask ++ [.work ⟨1, .zeroed, true, .still 1⟩]
    M.Run .ready (M.steps .ready es) (M.final .ready es) ∧
      Along (NoCallAfterClose 0) (M.steps .ready es) ∧
      ¬ Along (NothingAfterClose 0) (M.steps .ready es) :=
  ⟨Machine.run_steps (by decide +kernel), by decide +kernel, by decide +kernel⟩

end FingerprintHal
