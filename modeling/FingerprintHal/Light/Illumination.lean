/-
  The light under the sensor: what the vendor module and the display were last told about
  a finger, folded over what the service has put out.

  `setFingerStatus` is the only function that tells them, and tells all three outputs, so
  they agree after every handler. A step leaves the light as it is, switches it off, or is
  a pointer-down that has found the sensor unlocked (`step_light`). A failed match, the one
  step that leads into a lockout, ends with a pointer-up. So a sensor that is locked out is
  dark (`locked_is_dark`).
-/
import FingerprintHal.Lockout.Control

namespace FingerprintHal

open Lib

/-! ## The three outputs -/

/-- The last parameters of `COMMAND_FOD_PRESS_STATUS` and of `COMMAND_NIT`, and the last
    value of `MI_DISP_IOCTL_SET_LOCAL_HBM`. -/
structure Illumination where
  press_status : BitVec 32
  nit : BitVec 32
  local_hbm_value : LocalHbm
deriving DecidableEq

namespace Illumination

/-- What `setFingerStatus` tells. -/
def ofFinger (pressed : Bool) : Illumination where
  press_status := if pressed then PARAM_FOD_PRESSED else PARAM_FOD_RELEASED
  nit := if pressed then PARAM_NIT_FOD else PARAM_NIT_NONE
  local_hbm_value := if pressed then .LHBM_TARGET_BRIGHTNESS_WHITE_1000NIT
    else .LHBM_TARGET_BRIGHTNESS_OFF_FINGER_UP

/-- All three outputs say that the finger is gone. -/
abbrev released : Illumination := ofFinger false

/-- All three outputs say that there is a finger. -/
abbrev pressed : Illumination := ofFinger true

/-- What a call makes of it. -/
def after (i : Illumination) : Output → Illumination
  | .device _ (.goodixExtCmd cmd param) =>
      if cmd = COMMAND_FOD_PRESS_STATUS then { i with press_status := param }
      else if cmd = COMMAND_NIT then { i with nit := param }
      else i
  | .display _ local_hbm_value => { i with local_hbm_value }
  | _ => i

/-- The three outputs agree on whether there is a finger. -/
structure Agrees (i : Illumination) : Prop where
  press_nit : i.press_status = PARAM_FOD_PRESSED ↔ i.nit = PARAM_NIT_FOD
  nit_hbm : i.nit = PARAM_NIT_FOD ↔
    i.local_hbm_value = .LHBM_TARGET_BRIGHTNESS_WHITE_1000NIT

theorem agrees_ofFinger (pressed : Bool) : (ofFinger pressed).Agrees := by
  cases pressed with
  | true => exact ⟨by decide, by decide⟩
  | false => exact ⟨by decide, by decide⟩

end Illumination

/-- The light after the calls `os`; no command before them counts as released. -/
def illumination (os : List Output) : Illumination :=
  os.foldl Illumination.after .released

theorem illumination_append (os ps : List Output) :
    illumination (os ++ ps) = ps.foldl Illumination.after (illumination os) :=
  List.foldl_append

/-! ## What the engine tells -/

section Engine

variable (e : FingerprintEngine) (i : Illumination)

@[simp] theorem setFingerStatus_light (pressed : Bool) :
    (e.setFingerStatus pressed).2.foldl Illumination.after i = .ofFinger pressed := by
  cases pressed <;> rfl

@[simp] theorem onPointerUpImpl_light :
    e.onPointerUpImpl.2.foldl Illumination.after i = .released := rfl

@[simp] theorem onPointerDownImpl_light (x y : BitVec 32) :
    (e.onPointerDownImpl x y).2.foldl Illumination.after i = .pressed := rfl

theorem onAcquired_light (result vendorCode : BitVec 32) :
    (e.onAcquired result vendorCode).2.foldl Illumination.after i = i ∨
      (e.onAcquired result vendorCode).2.foldl Illumination.after i = .released := by
  rcases FingerprintEngine.onAcquired_cases result vendorCode with h | h
  · left
    rw [h]
    rfl
  · right
    rw [h]
    exact setFingerStatus_light e i false

@[simp] theorem failed_light (cb : SessionId) (error : BitVec 32) :
    (FingerprintEngine.failed cb error).foldl Illumination.after i = i := by
  unfold FingerprintEngine.failed
  split <;> rfl

@[simp] theorem detectInteractionImpl_light (cb : SessionId) (supported : Bool) :
    (FingerprintEngine.detectInteractionImpl cb supported).foldl Illumination.after i = i := by
  unfold FingerprintEngine.detectInteractionImpl
  split <;> rfl

theorem unlessCancelled_light {cb : SessionId} {cancel : Nat} {outs : List Output}
    {w : Fingerprint} (h : outs.foldl Illumination.after i = i) :
    (w.unlessCancelled cb cancel outs).foldl Illumination.after i = i := by
  unfold Fingerprint.unlessCancelled
  split
  · rfl
  · exact h

@[simp] theorem check_light (U : Util) (cb : SessionId) (clk : Readings)
    (l : LockoutControl) :
    (l.checkSensorLockout U cb clk).2.2.foldl Illumination.after i = i := by
  unfold LockoutControl.checkSensorLockout
  dsimp only
  split <;> rfl

theorem resetLockoutImpl_light (cb : SessionId) (hat : HardwareAuthToken)
    (l : LockoutControl) :
    (l.resetLockoutImpl cb hat).2.foldl Illumination.after i = i := by
  unfold LockoutControl.resetLockoutImpl
  split <;> rfl

theorem lockoutTimerExpired_light (cb : SessionId) (l : LockoutControl) :
    (l.lockoutTimerExpired cb).2.foldl Illumination.after i = i := by
  unfold LockoutControl.lockoutTimerExpired
  dsimp only
  split <;> rfl

end Engine

/-! ## Tasks, messages, steps -/

/-- What a client reports of a finger. -/
inductive Pointer
  | down
  | up
  | cancel
deriving DecidableEq

/-- The pointer event a task is about. -/
def TaskBody.pointer : TaskBody → Option Pointer
  | .onPointerDown _ _ => some .down
  | .onPointerUp => some .up
  | _ => none

section Tasks

variable {U : Util} {inp : TaskInputs} {t : Task} {w : Fingerprint}

/-- The other tasks leave the light alone. -/
theorem run_light_other (h : t.body.pointer = none) (i : Illumination) :
    (t.run U inp w).2.foldl Illumination.after i = i := by
  obtain ⟨s, body⟩ := t
  cases body with
  | enroll hat cancel => exact unlessCancelled_light i (failed_light i s inp.error)
  | authenticate operationId cancel =>
      exact unlessCancelled_light i (failed_light i s inp.error)
  | detectInteraction cancel =>
      exact unlessCancelled_light i (detectInteractionImpl_light i s inp.detect_interaction)
  | enumerateEnrollments => exact failed_light i s inp.error
  | resetLockout hat => exact resetLockoutImpl_light i s hat w.lockout
  | onPointerDown x y => cases h
  | onPointerUp => cases h
  | _ => rfl

theorem run_light_up (h : t.body.pointer = some .up) (i : Illumination) :
    (t.run U inp w).2.foldl Illumination.after i = .released := by
  obtain ⟨s, body⟩ := t
  cases body with
  | onPointerUp => rfl
  | _ => cases h

/-- A pointer-down task switches the light on when it finds the sensor unlocked. -/
theorem run_light_down (h : t.body.pointer = some .down) (i : Illumination) :
    (t.run U inp w).2.foldl Illumination.after i =
      if (w.lockout.checkSensorLockout U t.session inp.clk).1 = true then i
      else .pressed := by
  obtain ⟨s, body⟩ := t
  cases body with
  | onPointerDown x y =>
      simp only [Task.run, Fingerprint.withEngine]
      split
      · exact check_light i U s inp.clk w.lockout
      · rw [List.foldl_append, onPointerDownImpl_light]
  | _ => cases h

end Tasks

section Messages

variable (U : Util) (s : SessionId) (clk : Readings) (w : Fingerprint) (i : Illumination)

/-- The end of `onAcquired`'s case. -/
theorem ifAcquired_light (result : AcquiredInfo × BitVec 32) :
    (if result.1 ≠ AcquiredInfo.VENDOR then
        [Output.callback s (.onAcquired result.1 result.2)] else []).foldl
      Illumination.after i = i := by
  split <;> rfl

/-- A message leaves the light alone or switches it off. -/
theorem notify_light (msg : Msg) :
    (Session.notify U s msg clk w).2.foldl Illumination.after i = i ∨
      (Session.notify U s msg clk w).2.foldl Illumination.after i = .released := by
  cases msg with
  | FINGERPRINT_ACQUIRED acquired_info =>
      simp only [Session.notify, Fingerprint.withEngine]
      rw [List.foldl_append, ifAcquired_light]
      exact onAcquired_light _ i _ _
  | FINGERPRINT_AUTHENTICATED fid hat =>
      refine Or.inr ?_
      simp only [Session.notify, Fingerprint.withEngine]
      split
      · rfl
      · rw [List.foldl_cons, List.foldl_append, onPointerUpImpl_light]
  | FINGERPRINT_TEMPLATE_ENUMERATING fid remaining =>
      simp only [Session.notify]
      split
      · exact Or.inl rfl
      · exact Or.inl rfl
  | FINGERPRINT_AUTHENTICATOR_ID_RETRIEVED data => exact Or.inr rfl
  | _ => exact Or.inl rfl

/-- After a match or a failed match it is off. -/
theorem authenticated_light (fid : BitVec 32) (hat : HwAuthToken) :
    (Session.notify U s (.FINGERPRINT_AUTHENTICATED fid hat) clk w).2.foldl
      Illumination.after i = .released := by
  simp only [Session.notify, Fingerprint.withEngine]
  split
  · rfl
  · rw [List.foldl_cons, List.foldl_append, onPointerUpImpl_light]

end Messages

section Steps

variable {U : Util} {mem : Memory} {w w' : Fingerprint} {o : List Output}

theorem message_light {msg : Msg} {clk : Readings}
    (hstep : (service U mem).step w (.message msg clk) = some (w', o)) (i : Illumination) :
    o.foldl Illumination.after i = i ∨ o.foldl Illumination.after i = .released := by
  cases hs : w.openSession with
  | none =>
      rw [(message_dropped hstep hs).2]
      exact Or.inl rfl
  | some s =>
      rw [(message_given hstep hs).2]
      exact notify_light U s clk { w with clock := clk.atTimeLeft } i msg

theorem timer_light {i : Nat} {now : Int}
    (hstep : (service U mem).step w (.timer i now) = some (w', o)) (j : Illumination) :
    o.foldl Illumination.after j = j := by
  obtain ⟨t, -, he⟩ := step_timer.mp hstep
  have ho : o = _ := congrArg Prod.snd he
  rw [ho]
  exact lockoutTimerExpired_light j t.cb _

theorem client_light {e : Event} (hstep : (service U mem).step w e = some (w', o))
    (he : e.isClient = true) (i : Illumination) : o.foldl Illumination.after i = i := by
  rcases client_outs hstep he with rfl | ⟨s, rfl⟩ | ⟨userId, error, rfl⟩
  · rfl
  · rfl
  · rfl

/-- `checkSensorLockout` says that the sensor is unlocked when no lockout is left. -/
theorem check_false {cb : SessionId} {clk : Readings} {l : LockoutControl}
    (h : (l.checkSensorLockout U cb clk).1 = false) :
    ¬ (l.checkSensorLockout U cb clk).2.1.mLockoutTracker.Locked := by
  unfold LockoutControl.checkSensorLockout at h ⊢
  dsimp only at h ⊢
  split at h
  · cases h
  · cases h
  · next h1 h2 =>
      rintro (hk | hk)
      · exact h2 hk
      · exact h1 hk

/-- A pointer-down that switches the light on leaves the sensor unlocked. -/
theorem run_down_unlocked {inp : TaskInputs} {t : Task}
    (h : t.body.pointer = some .down)
    (hc : (w.lockout.checkSensorLockout U t.session inp.clk).1 = false) :
    ¬ (t.run U inp w).1.mEngine.mLockoutTracker.Locked := by
  obtain ⟨s, body⟩ := t
  cases body with
  | onPointerDown x y =>
      have hr := run_lockout U inp ⟨s, .onPointerDown x y⟩ w
      dsimp only at hr
      have hl : ((Task.mk s (.onPointerDown x y)).run U inp w).1.lockout =
          (w.lockout.checkSensorLockout U s inp.clk).2.1 := congrArg Prod.fst hr
      show ¬ ((Task.mk s (.onPointerDown x y)).run U inp w).1.lockout.mLockoutTracker.Locked
      rw [hl]
      exact check_false hc
  | _ => cases h

/-- What a step makes of the light. -/
theorem step_light {e : Event} (hstep : (service U mem).step w e = some (w', o))
    (i : Illumination) :
    o.foldl Illumination.after i = i ∨ o.foldl Illumination.after i = .released ∨
      (o.foldl Illumination.after i = .pressed ∧
        ¬ w'.mEngine.mLockoutTracker.Locked) := by
  cases e with
  | work inp =>
      obtain ⟨t, q, -, he⟩ := step_work.mp hstep
      have hw : w' = _ := congrArg Prod.fst he
      have ho : o = _ := congrArg Prod.snd he
      rw [ho, hw]
      cases hp : t.body.pointer with
      | none => exact Or.inl (run_light_other hp i)
      | some p =>
          cases p with
          | up => exact Or.inr (Or.inl (run_light_up hp i))
          | cancel => cases hb : t.body <;> rw [hb] at hp <;> cases hp
          | down =>
              rw [run_light_down hp i]
              split
              · exact Or.inl rfl
              · next hc =>
                  exact Or.inr (Or.inr ⟨rfl, run_down_unlocked hp (Bool.not_eq_true _ ▸ hc)⟩)
  | message msg clk =>
      rcases message_light hstep i with h | h
      · exact Or.inl h
      · exact Or.inr (Or.inl h)
  | timer j now => exact Or.inl (timer_light hstep i)
  | _ => exact Or.inl (client_light hstep rfl i)

/-- After a failed match it is off. -/
theorem failedMatch_light {t : Handler}
    (hstep : (service U mem).step t.pre t.event = some (t.post, t.outs))
    (h : isFailedMatch t = true) (i : Illumination) :
    t.outs.foldl Illumination.after i = .released := by
  obtain ⟨cb, clk, hop⟩ := isFailedMatch_iff.mp h
  obtain ⟨hat, he, hs⟩ := lockoutOp_cases hop
  rw [he] at hstep
  rw [(message_given hstep hs).2]
  exact authenticated_light U cb clk { t.pre with clock := clk.atTimeLeft } i 0 hat

end Steps

/-! ## Locked out is dark -/

/-- Only a failed match leads into a lockout. -/
theorem unlocked_step {U : Util} {l l' : LockoutControl} {op : LockoutOp} {o : List Output}
    (hstep : l.step U op = some (l', o)) (hop : ∀ cb clk, op ≠ .failedMatch cb clk)
    (h : ¬ l.mLockoutTracker.Locked) : ¬ l'.mLockoutTracker.Locked := by
  have hs := LockoutControl.step_cases hstep
  cases op with
  | matched =>
      obtain ⟨rfl, -⟩ := hs
      intro hk
      exact hk.ne_kNone rfl
  | failedMatch cb clk => exact absurd rfl (hop cb clk)
  | pointerDown cb clk =>
      obtain ⟨rfl, -⟩ := hs
      intro hk
      rw [LockoutControl.check_of_ne_kNone hk.ne_kNone] at hk
      exact h hk
  | resetAccepted cb =>
      obtain ⟨rfl, -⟩ := hs
      intro hk
      exact hk.ne_kNone rfl
  | expired i now =>
      obtain ⟨t, -, rfl, -⟩ := hs
      cases ha : l.isLockoutTimerAborted with
      | true =>
          rw [LockoutControl.expire_aborted ha]
          exact h
      | false =>
          rw [LockoutControl.expire_live ha]
          intro hk
          exact hk.ne_kNone rfl

theorem unlocked_service {U : Util} {mem : Memory} {t : Handler}
    (hstep : (service U mem).step t.pre t.event = some (t.post, t.outs))
    (hf : isFailedMatch t = false) (h : ¬ t.pre.mEngine.mLockoutTracker.Locked) :
    ¬ t.post.mEngine.mLockoutTracker.Locked := by
  cases hop : lockoutOp t.pre t.event with
  | none =>
      have hl : t.post.lockout = t.pre.lockout := (step_unseen hstep hop).1
      show ¬ t.post.lockout.mLockoutTracker.Locked
      rw [hl]
      exact h
  | some op =>
      refine unlocked_step (step_seen hstep hop) ?_ h
      rintro cb clk rfl
      rw [isFailedMatch_iff.mpr ⟨cb, clk, hop⟩] at hf
      cases hf

/-- The invariant: the light is off, or on while the sensor is unlocked. -/
def DarkWhenLocked (us : List Handler) (w : Fingerprint) : Prop :=
  illumination (trace us) = .released ∨
    (illumination (trace us) = .pressed ∧ ¬ w.mEngine.mLockoutTracker.Locked)

theorem illumination_snoc (us : List Handler) (t : Handler) :
    illumination (trace (us ++ [t])) =
      t.outs.foldl Illumination.after (illumination (trace us)) := by
  rw [trace_append, illumination_append, trace_cons, trace_nil, List.append_nil]

theorem darkWhenLocked_step {U : Util} {mem : Memory} {us : List Handler} {t : Handler}
    (h : DarkWhenLocked us t.pre)
    (hstep : (service U mem).step t.pre t.event = some (t.post, t.outs)) :
    DarkWhenLocked (us ++ [t]) t.post := by
  unfold DarkWhenLocked
  rw [illumination_snoc]
  cases hf : isFailedMatch t with
  | true => exact Or.inl (failedMatch_light hstep hf _)
  | false =>
      rcases step_light hstep (illumination (trace us)) with hi | hi | ⟨hi, hu⟩
      · rw [hi]
        rcases h with h | ⟨h, hu⟩
        · exact Or.inl h
        · exact Or.inr ⟨h, unlocked_service hstep hf hu⟩
      · exact Or.inl hi
      · exact Or.inr ⟨hi, hu⟩

theorem darkWhenLocked_run {U : Util} {mem : Memory} {w₀ w : Fingerprint}
    {ts : List Handler} (hrun : (service U mem).Run w₀ ts w) : DarkWhenLocked ts w :=
  hrun.invariant (C := fun _ _ => True) (I := DarkWhenLocked) (fun _ _ _ _ => trivial)
    (Or.inl rfl) fun _ _ hI _ hs => darkWhenLocked_step hI hs

/-- **A sensor that is locked out is dark.** In every state a run leads to, the three
    outputs agree, and in a lockout all of them are released. -/
theorem locked_is_dark {U : Util} {mem : Memory} {w₀ w : Fingerprint} {ts : List Handler}
    (hrun : (service U mem).Run w₀ ts w) :
    (illumination (trace ts)).Agrees ∧
      (w.mEngine.mLockoutTracker.Locked → illumination (trace ts) = .released) := by
  rcases darkWhenLocked_run hrun with h | ⟨h, hu⟩
  · rw [h]
    exact ⟨Illumination.agrees_ofFinger false, fun _ => rfl⟩
  · rw [h]
    exact ⟨Illumination.agrees_ofFinger true, fun hk => absurd hk hu⟩

/-- A finger that stays on the sensor through five failed matches. -/
def pressedThroughFailures : List Event :=
  [.createSession 0 10 0] ++
    (List.replicate 5 [.request 0 (.onPointerDown 0 5 5), workAt 1, failureAt 2]).flatten ++
    [.request 0 (.onPointerDown 0 5 5), workAt 3]

theorem locked_is_dark_five :
    let M := service .millis .zeroed
    let ts := M.steps .ready pressedThroughFailures
    (∃ t ∈ ts, illumination t.outs = .pressed) ∧
      (M.final .ready pressedThroughFailures).mEngine.mLockoutTracker.Locked ∧
      illumination (trace ts) = .released :=
  ⟨by decide +kernel, by decide +kernel,
    (locked_is_dark (Machine.run_steps (by decide +kernel))).2 (by decide +kernel)⟩

end FingerprintHal
