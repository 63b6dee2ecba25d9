/-
  What a step does to the queue and to the session objects, and which device calls it
  makes. A task gets into the queue by a request on its session, session objects are only
  added and closed, cancellations are never taken back. Apart from the press commands a
  device call is the `setActiveGroup` of a new session, or the one call of a task
  (`TaskBody.deviceCall`).
-/
import FingerprintHal.Session.Callbacks

namespace FingerprintHal

open Lib

/-! ## Device calls -/

/-- The call a task makes through the device pointer, the press commands apart. -/
def TaskBody.deviceCall (inp : TaskInputs) : TaskBody → Option DeviceCall
  | .generateChallenge => some .generateChallenge
  | .revokeChallenge challenge => some (.revokeChallenge challenge inp.error)
  | .enroll hat _ => some (.enroll (translateToLegacy hat inp.stack) inp.error)
  | .authenticate operationId _ => some (.authenticate operationId inp.error)
  | .enumerateEnrollments => some (.enumerate inp.error)
  | .removeEnrollments ids => some (.remove ids (BitVec.ofNat 32 ids.length))
  | .getAuthenticatorId => some .getAuthenticatorId
  | .invalidateAuthenticatorId => some .invalidateAuthenticatorId
  | _ => none

/-- The cancellation signal a task looks at before it starts. -/
def TaskBody.signal : TaskBody → Option Nat
  | .enroll _ cancel => some cancel
  | .authenticate _ cancel => some cancel
  | .detectInteraction cancel => some cancel
  | _ => none

/-- The commands that go with a finger that comes or leaves. -/
def DeviceCall.isPress : DeviceCall → Bool
  | .goodixExtCmd _ _ => true
  | _ => false

section Press

variable {dev : Nat} {c : DeviceCall} {e : FingerprintEngine}

theorem isPress_setFingerStatus {pressed : Bool}
    (h : Output.device dev c ∈ (e.setFingerStatus pressed).2) : c.isPress = true := by
  simp only [FingerprintEngine.setFingerStatus, List.mem_cons, Output.device.injEq,
    reduceCtorEq, List.not_mem_nil, or_false] at h
  rcases h with ⟨-, rfl⟩ | ⟨-, rfl⟩ <;> rfl

theorem isPress_onPointerDownImpl {x y : BitVec 32}
    (h : Output.device dev c ∈ (e.onPointerDownImpl x y).2) : c.isPress = true := by
  simp only [FingerprintEngine.onPointerDownImpl, List.mem_cons, Output.device.injEq] at h
  rcases h with ⟨-, rfl⟩ | ⟨-, rfl⟩ | h
  · rfl
  · rfl
  · exact isPress_setFingerStatus h

theorem isPress_onPointerUpImpl (h : Output.device dev c ∈ e.onPointerUpImpl.2) :
    c.isPress = true := by
  simp only [FingerprintEngine.onPointerUpImpl, List.mem_cons, Output.device.injEq] at h
  rcases h with ⟨-, rfl⟩ | ⟨-, rfl⟩ | h
  · rfl
  · rfl
  · exact isPress_setFingerStatus h

theorem isPress_onAcquired {result vendorCode : BitVec 32}
    (h : Output.device dev c ∈ (e.onAcquired result vendorCode).2) : c.isPress = true := by
  rcases FingerprintEngine.onAcquired_cases result vendorCode with ha | ha
  · rw [ha] at h
    cases h
  · rw [ha] at h
    exact isPress_setFingerStatus h

end Press

section Calls

variable {dev : Nat} {c : DeviceCall}

theorem failed_no_device {cb : SessionId} {error : BitVec 32} :
    Output.device dev c ∉ FingerprintEngine.failed cb error := by
  unfold FingerprintEngine.failed
  split <;> simp

theorem detectInteractionImpl_no_device {cb : SessionId} {supported : Bool} :
    Output.device dev c ∉ FingerprintEngine.detectInteractionImpl cb supported := by
  unfold FingerprintEngine.detectInteractionImpl
  split <;> simp

theorem check_no_device {U : Util} {cb : SessionId} {clk : Readings} {l : LockoutControl} :
    Output.device dev c ∉ (l.checkSensorLockout U cb clk).2.2 := by
  unfold LockoutControl.checkSensorLockout
  dsimp only
  split <;> simp

theorem resetLockoutImpl_no_device {cb : SessionId} {hat : HardwareAuthToken}
    {l : LockoutControl} : Output.device dev c ∉ (l.resetLockoutImpl cb hat).2 := by
  unfold LockoutControl.resetLockoutImpl LockoutControl.acceptReset
  split <;> simp [LockoutControl.clearLockout]

/-- A cancelled operation makes no device call. -/
theorem device_unlessCancelled {cb : SessionId} {cancel : Nat} {outs : List Output}
    {w : Fingerprint} (h : Output.device dev c ∈ w.unlessCancelled cb cancel outs) :
    cancel ∉ w.cancelled ∧ Output.device dev c ∈ outs := by
  by_cases hc : cancel ∈ w.cancelled
  · rw [unlessCancelled_of_mem hc] at h
    simp at h
  · rw [unlessCancelled_of_not_mem hc] at h
    exact ⟨hc, h⟩

/-- The device call of an operation that is followed by `failed` only. -/
theorem device_cons_failed {cb : SessionId} {error : BitVec 32} {d : Nat} {c' : DeviceCall}
    (h : Output.device dev c ∈ .device d c' :: FingerprintEngine.failed cb error) :
    c = c' := by
  rcases List.mem_cons.mp h with h | h
  · exact (Output.device.inj h).2
  · exact absurd h failed_no_device

/-- A device call of a task is a press command, or the one its body stands for; it is not
    made when the signal of the task is cancelled. -/
theorem run_device {U : Util} {inp : TaskInputs} {t : Task} {w : Fingerprint}
    (h : Output.device dev c ∈ (t.run U inp w).2) :
    c.isPress = true ∨
      (t.body.deviceCall inp = some c ∧ ∀ k ∈ t.body.signal, k ∉ w.cancelled) := by
  obtain ⟨s, body⟩ := t
  cases body with
  | enroll hat cancel =>
      obtain ⟨hc, h⟩ := device_unlessCancelled h
      rw [device_cons_failed h]
      exact Or.inr ⟨rfl, fun k hk => by cases hk; exact hc⟩
  | authenticate operationId cancel =>
      obtain ⟨hc, h⟩ := device_unlessCancelled h
      rw [device_cons_failed h]
      exact Or.inr ⟨rfl, fun k hk => by cases hk; exact hc⟩
  | detectInteraction cancel =>
      exact absurd (device_unlessCancelled h).2 detectInteractionImpl_no_device
  | enumerateEnrollments =>
      rw [device_cons_failed h]
      exact Or.inr ⟨rfl, fun k hk => by cases hk⟩
  | resetLockout hat => exact absurd h resetLockoutImpl_no_device
  | onPointerDown x y =>
      simp only [Task.run] at h
      split at h
      · exact absurd h check_no_device
      · rcases List.mem_append.mp h with h | h
        · exact absurd h check_no_device
        · exact Or.inl (isPress_onPointerDownImpl h)
  | onPointerUp => exact Or.inl (isPress_onPointerUpImpl h)
  | onUiReady => cases h
  | _ =>
      rw [(Output.device.inj (List.mem_singleton.mp h)).2]
      exact Or.inr ⟨rfl, fun k hk => by cases hk⟩

/-- The device calls of a message are press commands. -/
theorem notify_device {U : Util} {s : SessionId} {msg : Msg} {clk : Readings}
    {w : Fingerprint} (h : Output.device dev c ∈ (Session.notify U s msg clk w).2) :
    c.isPress = true := by
  cases msg with
  | FINGERPRINT_ACQUIRED acquired_info =>
      simp only [Session.notify, Fingerprint.withEngine] at h
      rcases List.mem_append.mp h with h | h
      · exact isPress_onAcquired h
      · split at h <;> simp at h
  | FINGERPRINT_AUTHENTICATED fid hat =>
      simp only [Session.notify, Fingerprint.withEngine] at h
      split at h
      · simp only [List.mem_cons, reduceCtorEq, false_or] at h
        exact isPress_onPointerUpImpl h
      · simp only [List.mem_cons, List.mem_append, reduceCtorEq, false_or] at h
        rcases h with h | h
        · exact absurd h check_no_device
        · exact isPress_onPointerUpImpl h
  | FINGERPRINT_TEMPLATE_ENUMERATING fid remaining =>
      simp only [Session.notify] at h
      split at h <;> simp at h
  | FINGERPRINT_AUTHENTICATOR_ID_RETRIEVED data =>
      simp only [Session.notify, Fingerprint.withEngine] at h
      rcases List.mem_append.mp h with h | h
      · exact isPress_onPointerUpImpl h
      · simp at h
  | _ => simp [Session.notify] at h

/-- The device calls of a step: press commands, the `setActiveGroup` of a new session, the
    call of the task that runs. -/
theorem step_device {U : Util} {mem : Memory} {w w' : Fingerprint} {e : Event}
    {o : List Output} (hstep : (service U mem).step w e = some (w', o))
    (h : Output.device dev c ∈ o) :
    c.isPress = true ∨
    (∃ sensorId userId error, e = .createSession sensorId userId error) ∨
    (∃ inp t q, e = .work inp ∧ w.mWorker.items = t :: q ∧ t.body.deviceCall inp = some c ∧
      ∀ k ∈ t.body.signal, k ∉ w.cancelled) := by
  cases e with
  | work inp =>
      obtain ⟨t, q, hi, he⟩ := step_work.mp hstep
      have ho : o = _ := congrArg Prod.snd he
      rw [ho] at h
      rcases run_device h with hp | ⟨hc, hs⟩
      · exact Or.inl hp
      · exact Or.inr (Or.inr ⟨inp, t, q.items, rfl, hi, hc, hs⟩)
  | message msg clk =>
      cases hs : w.openSession with
      | none =>
          rw [(message_dropped hstep hs).2] at h
          cases h
      | some s =>
          rw [(message_given hstep hs).2] at h
          exact Or.inl (notify_device h)
  | timer i now =>
      obtain ⟨t, -, he⟩ := step_timer.mp hstep
      have ho : o = _ := congrArg Prod.snd he
      rw [ho] at h
      simp only [Fingerprint.withEngine, FingerprintEngine.onLockout,
        LockoutControl.lockoutTimerExpired, LockoutControl.clearLockout] at h
      split at h <;> simp at h
  | createSession sensorId userId error => exact Or.inr (Or.inl ⟨_, _, _, rfl⟩)
  | request s r =>
      obtain ⟨_, _, -, rfl⟩ := request_frame hstep
      cases h
  | close s =>
      obtain ⟨-, rfl⟩ := close_frame hstep
      simp at h
  | clientDeath s =>
      rcases clientDeath_frame hstep with ⟨-, hstep⟩ | ⟨-, -, rfl⟩
      · obtain ⟨-, rfl⟩ := close_frame hstep
        simp at h
      · cases h
  | cancel signal =>
      obtain ⟨-, rfl⟩ := cancel_frame hstep
      cases h

end Calls

/-! ## The queue -/

/-- The work on the templates of a user. -/
def TaskBody.isTemplate : TaskBody → Bool
  | .enroll _ _ => true
  | .authenticate _ _ => true
  | .enumerateEnrollments => true
  | .removeEnrollments _ => true
  | .getAuthenticatorId => true
  | .invalidateAuthenticatorId => true
  | _ => false

/-- The requests that lead to it. -/
def Request.isTemplate : Request → Bool
  | .enroll _ => true
  | .authenticate _ => true
  | .enumerateEnrollments => true
  | .removeEnrollments _ => true
  | .getAuthenticatorId => true
  | .invalidateAuthenticatorId => true
  | .authenticateWithContext _ => true
  | .enrollWithContext _ => true
  | _ => false

/-- What a request puts into the queue: a task of its session, while there is room. -/
theorem call_queue {s : SessionId} {r : Request} {w : Fingerprint} {t : Task}
    (h : t ∈ (Session.call s w r).mWorker.items) :
    t ∈ w.mWorker.items ∨ (t.session = s ∧ w.mWorker.items.length < MAX_WORKER_QUEUE_SIZE ∧
      t.body.isTemplate = r.isTemplate) := by
  cases r with
  | onContextChanged => exact Or.inl h
  | onPointerCancelWithContext context => exact Or.inl h
  | setIgnoreDisplayTouches shouldIgnore => exact Or.inl h
  | _ =>
      rcases BoundedQueue.mem_schedule h with h | ⟨rfl, hroom⟩
      · exact Or.inl h
      · exact Or.inr ⟨rfl, hroom, rfl⟩

/-- A task that is in the queue after a step was there before, or a request on its session
    has just put it there. -/
theorem step_queue {U : Util} {mem : Memory} {w w' : Fingerprint} {e : Event}
    {o : List Output} (hstep : (service U mem).step w e = some (w', o)) {t : Task}
    (h : t ∈ w'.mWorker.items) :
    t ∈ w.mWorker.items ∨ ∃ r, e = .request t.session r ∧ t.session < w.sessions.length ∧
      w.mWorker.items.length < MAX_WORKER_QUEUE_SIZE ∧ t.body.isTemplate = r.isTemplate := by
  cases e with
  | request s r =>
      obtain ⟨hs, he⟩ := step_request.mp hstep
      rw [(Prod.mk.inj he).1] at h
      rcases call_queue h with h | ⟨rfl, hroom, hb⟩
      · exact Or.inl h
      · exact Or.inr ⟨r, rfl, hs, hroom, hb⟩
  | work inp =>
      obtain ⟨t', q, _, hi, rfl⟩ := work_frame hstep
      rw [hi]
      exact Or.inl (List.mem_cons_of_mem _ h)
  | _ =>
      rw [(queue_frame hstep rfl).2 rfl] at h
      exact Or.inl h

/-! ## Session objects and signals -/

/-- What may become of a session object: its user stays, and it is not opened again. -/
structure Session.Later (x y : Session) : Prop where
  user : y.mUserId = x.mUserId
  closed : x.mIsClosed = true → y.mIsClosed = true

theorem Session.Later.refl (x : Session) : x.Later x := ⟨rfl, id⟩

/-- Closing a session. -/
theorem modify_later {s k : SessionId} {ss : List Session} {x : Session}
    (h : ss[k]? = some x) :
    ∃ y, (ss.modify s fun x => { x with mIsClosed := true })[k]? = some y ∧ x.Later y := by
  rw [List.getElem?_modify, h]
  by_cases hs : s = k
  · exact ⟨{ x with mIsClosed := true }, by simp [hs], rfl, fun _ => rfl⟩
  · exact ⟨x, by simp [hs], .refl x⟩

/-- Session objects are only added and closed. -/
theorem step_sessions {U : Util} {mem : Memory} {w w' : Fingerprint} {e : Event}
    {o : List Output} (hstep : (service U mem).step w e = some (w', o)) {k : SessionId}
    {x : Session} (h : w.sessions[k]? = some x) :
    ∃ y, w'.sessions[k]? = some y ∧ x.Later y := by
  cases e with
  | createSession sensorId userId error =>
      obtain ⟨-, -, -, rfl, -⟩ := step_createSession.mp hstep
      have hk := (List.getElem?_eq_some_iff.mp h).1
      exact ⟨x, (List.getElem?_append_left hk).trans h, .refl x⟩
  | close s =>
      obtain ⟨rfl, -⟩ := close_frame hstep
      exact modify_later h
  | clientDeath s =>
      rcases clientDeath_frame hstep with ⟨-, hstep⟩ | ⟨-, rfl, -⟩
      · obtain ⟨rfl, -⟩ := close_frame hstep
        exact modify_later h
      · exact ⟨x, h, .refl x⟩
  | request s r =>
      obtain ⟨_, _, rfl, -⟩ := request_frame hstep
      exact ⟨x, h, .refl x⟩
  | cancel signal =>
      obtain ⟨rfl, -⟩ := cancel_frame hstep
      exact ⟨x, h, .refl x⟩
  | _ =>
      rw [(handler_frame hstep rfl).1]
      exact ⟨x, h, .refl x⟩

theorem openSession_eq_some {w : Fingerprint} {s : SessionId}
    (h : w.openSession = some s) : w.mSession = some s ∧ w.isClosed s = false := by
  unfold Fingerprint.openSession at h
  split at h
  · cases h
  · next s' hs =>
      split at h
      · cases h
      · next hc =>
          cases h
          exact ⟨hs, by simpa using hc⟩

theorem isClosed_eq_false {w : Fingerprint} {s : SessionId} :
    w.isClosed s = false ↔ ∃ x, w.sessions[s]? = some x ∧ x.mIsClosed = false := by
  unfold Fingerprint.isClosed
  split
  · next x hx => simp [hx]
  · next hx => simp [hx]

theorem openSession_of {w : Fingerprint} {s : SessionId} (hm : w.mSession = some s)
    (hc : w.isClosed s = false) : w.openSession = some s := by
  unfold Fingerprint.openSession
  rw [hm]
  dsimp only
  rw [if_neg (by simp [hc])]

/-- It only depends on the session objects. -/
theorem openSession_congr {w w' : Fingerprint} (hs : w'.sessions = w.sessions)
    (hm : w'.mSession = w.mSession) : w'.openSession = w.openSession := by
  unfold Fingerprint.openSession Fingerprint.isClosed
  rw [hs, hm]

/-- The open session stays open when another one is closed. -/
theorem openSession_close {w : Fingerprint} {s k : SessionId} (h : w.openSession = some s)
    (hk : k ≠ s) :
    Fingerprint.openSession { w with
      sessions := w.sessions.modify k fun x => { x with mIsClosed := true } } = some s := by
  obtain ⟨hm, hc⟩ := openSession_eq_some h
  have hc' : Fingerprint.isClosed s { w with
      sessions := w.sessions.modify k fun x => { x with mIsClosed := true } } = false := by
    unfold Fingerprint.isClosed at hc ⊢
    rw [List.getElem?_modify_ne _ _ hk]
    exact hc
  exact openSession_of hm hc'

theorem sessions_length_le {U : Util} {mem : Memory} {w w' : Fingerprint} {e : Event}
    {o : List Output} (hstep : (service U mem).step w e = some (w', o)) :
    w.sessions.length ≤ w'.sessions.length := by
  refine Nat.le_of_not_lt fun hlt => ?_
  obtain ⟨y, hy, -⟩ := step_sessions hstep (List.getElem?_eq_getElem hlt)
  exact Nat.lt_irrefl _ (List.getElem?_eq_some_iff.mp hy).1

/-- The tasks in the queue are of sessions that were created. -/
def Fingerprint.QueueKnown (w : Fingerprint) : Prop :=
  ∀ t ∈ w.mWorker.items, t.session < w.sessions.length

theorem queueKnown_step {U : Util} {mem : Memory} {w w' : Fingerprint} {e : Event}
    {o : List Output} (hstep : (service U mem).step w e = some (w', o))
    (h : w.QueueKnown) : w'.QueueKnown := by
  intro t ht
  refine Nat.lt_of_lt_of_le ?_ (sessions_length_le hstep)
  rcases step_queue hstep ht with ht | ⟨_, -, hlt, -⟩
  · exact h t ht
  · exact hlt

/-- A cancellation is never taken back. -/
theorem step_cancelled {U : Util} {mem : Memory} {w w' : Fingerprint} {e : Event}
    {o : List Output} (hstep : (service U mem).step w e = some (w', o)) {k : Nat}
    (h : k ∈ w.cancelled) : k ∈ w'.cancelled := by
  cases e with
  | cancel signal =>
      obtain ⟨rfl, -⟩ := cancel_frame hstep
      exact List.mem_cons_of_mem _ h
  | createSession sensorId userId error =>
      obtain ⟨-, -, -, rfl, -⟩ := step_createSession.mp hstep
      exact h
  | close s =>
      obtain ⟨rfl, -⟩ := close_frame hstep
      exact h
  | clientDeath s =>
      rcases clientDeath_frame hstep with ⟨-, hstep⟩ | ⟨-, rfl, -⟩
      · obtain ⟨rfl, -⟩ := close_frame hstep
        exact h
      · exact h
  | request s r =>
      obtain ⟨_, _, rfl, -⟩ := request_frame hstep
      exact h
  | _ =>
      rw [(handler_frame hstep rfl).2.2.2]
      exact h

end FingerprintHal
