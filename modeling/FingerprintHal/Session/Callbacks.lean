/-
  Who is spoken to: the session a callback goes to, for each kind of step. A task speaks
  to the session that scheduled it, and only of errors and lockouts; a message is passed
  on to the open session; a timer speaks to the session it was launched for; a `close` to
  the session that is closed. Nothing else speaks.
-/
import FingerprintHal.Model.Service

namespace FingerprintHal

open Lib

/-- A call on the callback of a session. -/
def Output.spoken : Output → Option (SessionId × Callback)
  | .callback cb c => some (cb, c)
  | _ => none

/-- The session is told the error. -/
def Output.isError (s : SessionId) (e : Error) : Output → Bool
  | .callback cb (.onError error _) => cb == s && error == e
  | _ => false

theorem spoken_eq_nil {o : List Output} (h : ∀ cb c, Output.callback cb c ∉ o) :
    o.filterMap Output.spoken = [] := by
  rw [List.filterMap_eq_nil_iff]
  intro out hout
  cases out with
  | callback cb c => exact absurd hout (h cb c)
  | device dev call => rfl
  | display fd value => rfl

/-! ## The engine's display and press commands are no callbacks -/

section NoCallback

variable (e : FingerprintEngine) (cb : SessionId) (c : Callback)

@[simp] theorem setFingerStatus_no_callback (pressed : Bool) :
    Output.callback cb c ∉ (e.setFingerStatus pressed).2 := by
  simp [FingerprintEngine.setFingerStatus]

@[simp] theorem onPointerDownImpl_no_callback (x y : BitVec 32) :
    Output.callback cb c ∉ (e.onPointerDownImpl x y).2 := by
  simp [FingerprintEngine.onPointerDownImpl]

@[simp] theorem onPointerUpImpl_no_callback :
    Output.callback cb c ∉ e.onPointerUpImpl.2 := by
  simp [FingerprintEngine.onPointerUpImpl]

@[simp] theorem onAcquired_no_callback (result vendorCode : BitVec 32) :
    Output.callback cb c ∉ (e.onAcquired result vendorCode).2 := by
  rcases FingerprintEngine.onAcquired_cases result vendorCode with h | h
  · rw [h]
    exact List.not_mem_nil
  · rw [h]
    exact setFingerStatus_no_callback e cb c false

end NoCallback

/-! ## Tasks -/

/-- The callbacks a task may make. -/
def Callback.FromTask : Callback → Prop
  | .onError _ _ => True
  | .onLockoutTimed _ => True
  | .onLockoutPermanent => True
  | .onLockoutCleared => True
  | _ => False

/-- The callbacks `checkSensorLockout` makes. -/
def Callback.FromCheck : Callback → Prop
  | .onLockoutTimed _ => True
  | .onLockoutPermanent => True
  | _ => False

section

variable {cb s : SessionId} {c : Callback}

theorem Callback.FromCheck.fromTask (h : c.FromCheck) : c.FromTask := by
  cases c with
  | onLockoutTimed durationMillis => trivial
  | onLockoutPermanent => trivial
  | _ => cases h

theorem mem_failed {error : BitVec 32}
    (h : Output.callback cb c ∈ FingerprintEngine.failed s error) :
    error ≠ 0 ∧ cb = s ∧ c = .onError Error.UNABLE_TO_PROCESS error := by
  unfold FingerprintEngine.failed at h
  split at h
  · next he => exact ⟨he, by simpa using h⟩
  · simp at h

theorem mem_detectInteractionImpl {supported : Bool}
    (h : Output.callback cb c ∈ FingerprintEngine.detectInteractionImpl s supported) :
    supported = false ∧ cb = s ∧ c = .onError Error.UNABLE_TO_PROCESS 0 := by
  unfold FingerprintEngine.detectInteractionImpl at h
  split at h
  · simp at h
  · next hs => exact ⟨by simpa using hs, by simpa using h⟩

/-- A cancellable operation speaks because it was cancelled, or in its own body. -/
theorem mem_unlessCancelled {cancel : Nat} {outs : List Output} {w : Fingerprint}
    (h : Output.callback cb c ∈ w.unlessCancelled s cancel outs) :
    (cancel ∈ w.cancelled ∧ cb = s ∧ c = .onError Error.CANCELED 0) ∨
    (cancel ∉ w.cancelled ∧ Output.callback cb c ∈ outs) := by
  by_cases hc : cancel ∈ w.cancelled
  · rw [unlessCancelled_of_mem hc, List.mem_singleton, Output.callback.injEq] at h
    exact Or.inl ⟨hc, h⟩
  · rw [unlessCancelled_of_not_mem hc] at h
    exact Or.inr ⟨hc, h⟩

/-- `checkSensorLockout` speaks to the session it is called for, and of lockouts. -/
theorem mem_check {U : Util} {clk : Readings} {l : LockoutControl}
    (h : Output.callback cb c ∈ (l.checkSensorLockout U s clk).2.2) :
    cb = s ∧ c.FromCheck ∧ (l.checkSensorLockout U s clk).1 = true := by
  unfold LockoutControl.checkSensorLockout at h ⊢
  dsimp only at h ⊢
  split at h
  · simp only [List.mem_singleton, Output.callback.injEq] at h
    obtain ⟨rfl, rfl⟩ := h
    exact ⟨rfl, trivial, rfl⟩
  · simp only [List.mem_singleton, Output.callback.injEq] at h
    obtain ⟨rfl, rfl⟩ := h
    exact ⟨rfl, trivial, rfl⟩
  · simp at h

theorem mem_resetLockoutImpl {hat : HardwareAuthToken} {l : LockoutControl}
    (h : Output.callback cb c ∈ (l.resetLockoutImpl s hat).2) :
    cb = s ∧ c.FromTask := by
  unfold LockoutControl.resetLockoutImpl LockoutControl.acceptReset at h
  split at h
  · simp only [List.mem_singleton, Output.callback.injEq] at h
    obtain ⟨rfl, rfl⟩ := h
    exact ⟨rfl, trivial⟩
  · simp only [LockoutControl.clearLockout, List.mem_singleton, Output.callback.injEq] at h
    obtain ⟨rfl, rfl⟩ := h
    exact ⟨rfl, trivial⟩

/-- A task speaks to the session that scheduled it, of errors and lockouts. -/
theorem run_callback {U : Util} {inp : TaskInputs} {t : Task} {w : Fingerprint}
    (h : Output.callback cb c ∈ (t.run U inp w).2) : cb = t.session ∧ c.FromTask := by
  obtain ⟨s, body⟩ := t
  cases body with
  | enroll hat cancel =>
      rcases mem_unlessCancelled h with ⟨-, rfl, rfl⟩ | ⟨-, h⟩
      · exact ⟨rfl, trivial⟩
      · obtain ⟨-, rfl, rfl⟩ :=
          mem_failed (by simpa [FingerprintEngine.enrollImpl] using h)
        exact ⟨rfl, trivial⟩
  | authenticate operationId cancel =>
      rcases mem_unlessCancelled h with ⟨-, rfl, rfl⟩ | ⟨-, h⟩
      · exact ⟨rfl, trivial⟩
      · obtain ⟨-, rfl, rfl⟩ :=
          mem_failed (by simpa [FingerprintEngine.authenticateImpl] using h)
        exact ⟨rfl, trivial⟩
  | detectInteraction cancel =>
      rcases mem_unlessCancelled h with ⟨-, rfl, rfl⟩ | ⟨-, h⟩
      · exact ⟨rfl, trivial⟩
      · obtain ⟨-, rfl, rfl⟩ := mem_detectInteractionImpl h
        exact ⟨rfl, trivial⟩
  | enumerateEnrollments =>
      obtain ⟨-, rfl, rfl⟩ :=
        mem_failed (by simpa [Task.run, FingerprintEngine.enumerateEnrollmentsImpl] using h)
      exact ⟨rfl, trivial⟩
  | resetLockout hat => exact mem_resetLockoutImpl h
  | onPointerDown x y =>
      simp only [Task.run] at h
      split at h
      · exact ⟨(mem_check h).1, (mem_check h).2.1.fromTask⟩
      · rcases List.mem_append.mp h with h | h
        · exact ⟨(mem_check h).1, (mem_check h).2.1.fromTask⟩
        · simp at h
  | onPointerUp => exact absurd h (onPointerUpImpl_no_callback _ _ _)
  | onUiReady => simp [Task.run] at h
  | generateChallenge => simp [Task.run, FingerprintEngine.generateChallengeImpl] at h
  | revokeChallenge challenge => simp [Task.run, FingerprintEngine.revokeChallengeImpl] at h
  | removeEnrollments ids => simp [Task.run, FingerprintEngine.removeEnrollmentsImpl] at h
  | getAuthenticatorId => simp [Task.run, FingerprintEngine.getAuthenticatorIdImpl] at h
  | invalidateAuthenticatorId =>
      simp [Task.run, FingerprintEngine.invalidateAuthenticatorIdImpl] at h

/-! ## Messages -/

/-- The callback a message is handed on as, with what the static accumulator holds. -/
def Msg.handedOn (enrollments : List (BitVec 32)) : Msg → Option Callback
  | .FINGERPRINT_ERROR error =>
      let result := FingerprintEngine.convertError error
      some (.onError result.1 result.2)
  | .FINGERPRINT_ACQUIRED acquired_info =>
      let result := FingerprintEngine.convertAcquiredInfo acquired_info
      if result.1 ≠ AcquiredInfo.VENDOR then some (.onAcquired result.1 result.2) else none
  | .FINGERPRINT_TEMPLATE_ENROLLING fid samples_remaining =>
      some (.onEnrollmentProgress fid samples_remaining)
  | .FINGERPRINT_TEMPLATE_REMOVED fid _ => some (.onEnrollmentsRemoved [fid])
  | .FINGERPRINT_AUTHENTICATED fid hat =>
      if fid ≠ 0 then
        some (.onAuthenticationSucceeded fid (translateToAidl hat HardwareAuthToken.default))
      else some .onAuthenticationFailed
  | .FINGERPRINT_TEMPLATE_ENUMERATING fid remaining_templates =>
      if remaining_templates = 0 then some (.onEnrollmentsEnumerated (enrollments ++ [fid]))
      else none
  | .FINGERPRINT_CHALLENGE_GENERATED data => some (.onChallengeGenerated data)
  | .FINGERPRINT_CHALLENGE_REVOKED data => some (.onChallengeRevoked data)
  | .FINGERPRINT_AUTHENTICATOR_ID_RETRIEVED data =>
      some (.onAuthenticatorIdRetrieved ((data.setWidth 32).signExtend 64))
  | .FINGERPRINT_AUTHENTICATOR_ID_INVALIDATED data =>
      some (.onAuthenticatorIdInvalidated data)
  | .unknown _ => none

/-- A session that is given a message hears what that is handed on as, and after a failed
    match what `checkSensorLockout` says. -/
theorem notify_callback {U : Util} {msg : Msg} {clk : Readings} {w : Fingerprint}
    (h : Output.callback cb c ∈ (Session.notify U s msg clk w).2) :
    cb = s ∧ (msg.handedOn w.enrollments = some c ∨ c.FromCheck) := by
  cases msg with
  | FINGERPRINT_ACQUIRED acquired_info =>
      simp only [Session.notify, Fingerprint.withEngine] at h
      rcases List.mem_append.mp h with h | h
      · simp at h
      · split at h
        · next hv =>
            obtain ⟨rfl, rfl⟩ := Output.callback.inj (List.mem_singleton.mp h)
            exact ⟨rfl, Or.inl (if_pos hv)⟩
        · cases h
  | FINGERPRINT_AUTHENTICATED fid hat =>
      simp only [Session.notify, Fingerprint.withEngine] at h
      split at h
      · next hf =>
          simp only [List.mem_cons, Output.callback.injEq, onPointerUpImpl_no_callback,
            or_false] at h
          obtain ⟨rfl, rfl⟩ := h
          exact ⟨rfl, Or.inl (if_pos hf)⟩
      · next hf =>
          rcases List.mem_cons.mp h with h | h
          · obtain ⟨rfl, rfl⟩ := Output.callback.inj h
            exact ⟨rfl, Or.inl (if_neg hf)⟩
          · rcases List.mem_append.mp h with h | h
            · obtain ⟨rfl, hc, -⟩ := mem_check h
              exact ⟨rfl, Or.inr hc⟩
            · simp at h
  | FINGERPRINT_TEMPLATE_ENUMERATING fid remaining =>
      simp only [Session.notify] at h
      split at h
      · next hr =>
          obtain ⟨rfl, rfl⟩ := Output.callback.inj (List.mem_singleton.mp h)
          exact ⟨rfl, Or.inl (if_pos hr)⟩
      · cases h
  | FINGERPRINT_AUTHENTICATOR_ID_RETRIEVED data =>
      simp only [Session.notify, Fingerprint.withEngine] at h
      rcases List.mem_append.mp h with h | h
      · simp at h
      · obtain ⟨rfl, rfl⟩ := Output.callback.inj (List.mem_singleton.mp h)
        exact ⟨rfl, Or.inl rfl⟩
  | unknown type => simp [Session.notify] at h
  | _ =>
      obtain ⟨rfl, rfl⟩ := Output.callback.inj (List.mem_singleton.mp h)
      exact ⟨rfl, Or.inl rfl⟩

/-- And it does hear what the message is handed on as. -/
theorem handedOn_mem {U : Util} {msg : Msg} {clk : Readings} {w : Fingerprint}
    (h : msg.handedOn w.enrollments = some c) :
    Output.callback s c ∈ (Session.notify U s msg clk w).2 := by
  cases msg with
  | FINGERPRINT_ACQUIRED acquired_info =>
      simp only [Msg.handedOn] at h
      split at h
      · next hv =>
          cases h
          simp only [Session.notify, Fingerprint.withEngine, if_pos hv]
          exact List.mem_append_right _ (List.mem_singleton.mpr rfl)
      · cases h
  | FINGERPRINT_AUTHENTICATED fid hat =>
      simp only [Msg.handedOn] at h
      split at h
      · next hf =>
          cases h
          simp only [Session.notify, Fingerprint.withEngine, if_pos hf]
          exact List.mem_cons_self
      · next hf =>
          cases h
          simp only [Session.notify, Fingerprint.withEngine, if_neg hf]
          exact List.mem_cons_self
  | FINGERPRINT_TEMPLATE_ENUMERATING fid remaining =>
      simp only [Msg.handedOn] at h
      split at h
      · next hr =>
          cases h
          simp only [Session.notify, if_pos hr]
          exact List.mem_singleton.mpr rfl
      · cases h
  | FINGERPRINT_AUTHENTICATOR_ID_RETRIEVED data =>
      cases h
      exact List.mem_append_right _ (List.mem_singleton.mpr rfl)
  | unknown type => cases h
  | _ =>
      cases h
      exact List.mem_singleton.mpr rfl

/-- No message closes a session. -/
theorem handedOn_ne_closed {msg : Msg} {enrollments : List (BitVec 32)}
    (h : msg.handedOn enrollments = some c) : c ≠ .onSessionClosed := by
  rintro rfl
  cases msg with
  | FINGERPRINT_AUTHENTICATED fid hat =>
      simp only [Msg.handedOn] at h
      split at h <;> cases h
  | _ => simp [Msg.handedOn] at h

/-- Only one kind of message is handed on as an error. -/
theorem handedOn_onError {msg : Msg} {enrollments : List (BitVec 32)} {error : Error}
    {vendorCode : BitVec 32} (h : msg.handedOn enrollments = some (.onError error vendorCode)) :
    ∃ code, msg = .FINGERPRINT_ERROR code ∧
      error = (FingerprintEngine.convertError code).1 := by
  cases msg with
  | FINGERPRINT_ERROR code =>
      cases h
      exact ⟨code, rfl, rfl⟩
  | FINGERPRINT_AUTHENTICATED fid hat =>
      simp only [Msg.handedOn] at h
      split at h <;> cases h
  | _ => simp [Msg.handedOn] at h

/-- A timer that wakes up unmarked speaks, to the session it was launched for. -/
theorem lockoutTimerExpired_callback {l : LockoutControl}
    (h : Output.callback cb c ∈ (l.lockoutTimerExpired s).2) :
    l.isLockoutTimerAborted = false ∧ cb = s ∧ c = .onLockoutCleared := by
  unfold LockoutControl.lockoutTimerExpired LockoutControl.clearLockout at h
  dsimp only at h
  split at h
  · simp at h
  · next ha => exact ⟨by simpa using ha, by simpa using h⟩

/-- What a step that speaks is: a task of the session spoken to, a message while that
    session is open, an unmarked timer launched for it, or its closing. -/
theorem step_callback {U : Util} {mem : Memory} {w w' : Fingerprint} {e : Event}
    {o : List Output} (hstep : (service U mem).step w e = some (w', o))
    (h : Output.callback cb c ∈ o) :
    (∃ inp body q, e = .work inp ∧ w.mWorker.items = ⟨cb, body⟩ :: q ∧ c.FromTask) ∨
    (∃ msg clk, e = .message msg clk ∧ w.openSession = some cb ∧
      (msg.handedOn w.enrollments = some c ∨ c.FromTask)) ∨
    (∃ i now t, e = .timer i now ∧ w.mEngine.timers[i]? = some t ∧ t.cb = cb ∧
      w.mEngine.isLockoutTimerAborted = false ∧ c = .onLockoutCleared) ∨
    ((e = .close cb ∨ (e = .clientDeath cb ∧ w.isClosed cb = false)) ∧
      c = .onSessionClosed) := by
  cases e with
  | work inp =>
      obtain ⟨⟨s, body⟩, q, hi, he⟩ := step_work.mp hstep
      have ho : o = _ := congrArg Prod.snd he
      rw [ho] at h
      obtain ⟨rfl, hc⟩ := run_callback h
      exact Or.inl ⟨inp, body, q.items, rfl, hi, hc⟩
  | message msg clk =>
      cases hs : w.openSession with
      | none =>
          rw [(message_dropped hstep hs).2] at h
          cases h
      | some s =>
          rw [(message_given hstep hs).2] at h
          obtain ⟨rfl, hc⟩ := notify_callback h
          exact Or.inr (Or.inl ⟨msg, clk, rfl, rfl, hc.imp_right Callback.FromCheck.fromTask⟩)
  | timer i now =>
      obtain ⟨t, ht, he⟩ := step_timer.mp hstep
      have ho : o = _ := congrArg Prod.snd he
      rw [ho] at h
      obtain ⟨ha, rfl, rfl⟩ := lockoutTimerExpired_callback h
      exact Or.inr (Or.inr (Or.inl ⟨i, now, t, rfl, ht, rfl, ha, rfl⟩))
  | close s =>
      obtain ⟨-, rfl⟩ := close_frame hstep
      obtain ⟨rfl, rfl⟩ := Output.callback.inj (List.mem_singleton.mp h)
      exact Or.inr (Or.inr (Or.inr ⟨Or.inl rfl, rfl⟩))
  | clientDeath s =>
      rcases clientDeath_frame hstep with ⟨hc, hstep⟩ | ⟨-, -, rfl⟩
      · obtain ⟨-, rfl⟩ := close_frame hstep
        obtain ⟨rfl, rfl⟩ := Output.callback.inj (List.mem_singleton.mp h)
        exact Or.inr (Or.inr (Or.inr ⟨Or.inr ⟨rfl, hc⟩, rfl⟩))
      · cases h
  | createSession sensorId userId error =>
      obtain ⟨-, -, -, -, rfl⟩ := step_createSession.mp hstep
      simp [FingerprintEngine.setActiveGroup] at h
  | request s r =>
      obtain ⟨_, _, -, rfl⟩ := request_frame hstep
      cases h
  | cancel signal =>
      obtain ⟨-, rfl⟩ := cancel_frame hstep
      cases h

end

end FingerprintHal
