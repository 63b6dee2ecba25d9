/-
  The device pointer, from the start on.

  The vendor module is opened by the constructor of the engine, and if that fails the
  pointer is null, which is only logged: the service is registered all the same. After the
  constructor every call in a run goes through the pointer it has left, the module's
  callback is not set again, and there is no call before the first session
  (`device_protocol`). So a service whose module could not be opened gets by as long as
  nobody creates a session, and the first session makes it call through the null pointer;
  a module that opens with a null device is called through it by the constructor itself
  (`null_call_iff`). The process would end at such a call; here it is put out like any
  other one, and what follows it does not happen.
-/
import FingerprintHal.Session.Steps
import FingerprintHal.Boot.Determinism

namespace FingerprintHal

open Lib

/-- A call through the pointer `d`, and not the one that sets the callback. -/
def Output.Through (d : Nat) : Output → Prop
  | .device dev c => dev = d ∧ c ≠ .set_notify
  | _ => True

instance (d : Nat) : DecidablePred (Output.Through d)
  | .device dev c => inferInstanceAs (Decidable (dev = d ∧ c ≠ .set_notify))
  | .callback _ _ => inferInstanceAs (Decidable True)
  | .display _ _ => inferInstanceAs (Decidable True)

/-! ## One pointer -/

section Engine

variable {e : FingerprintEngine} {o : Output}

theorem setFingerStatus_through {pressed : Bool} (h : o ∈ (e.setFingerStatus pressed).2) :
    o.Through e.mDevice := by
  simp only [FingerprintEngine.setFingerStatus, List.mem_cons, List.not_mem_nil, or_false] at h
  rcases h with rfl | rfl | rfl
  · exact ⟨rfl, by simp⟩
  · exact ⟨rfl, by simp⟩
  · trivial

theorem onPointerDownImpl_through {x y : BitVec 32} (h : o ∈ (e.onPointerDownImpl x y).2) :
    o.Through e.mDevice := by
  simp only [FingerprintEngine.onPointerDownImpl, List.mem_cons] at h
  rcases h with rfl | rfl | h
  · exact ⟨rfl, by simp⟩
  · exact ⟨rfl, by simp⟩
  · exact setFingerStatus_through h

theorem onPointerUpImpl_through (h : o ∈ e.onPointerUpImpl.2) : o.Through e.mDevice := by
  simp only [FingerprintEngine.onPointerUpImpl, List.mem_cons] at h
  rcases h with rfl | rfl | h
  · exact ⟨rfl, by simp⟩
  · exact ⟨rfl, by simp⟩
  · exact setFingerStatus_through h

theorem onAcquired_through {result vendorCode : BitVec 32}
    (h : o ∈ (e.onAcquired result vendorCode).2) : o.Through e.mDevice := by
  rcases FingerprintEngine.onAcquired_cases result vendorCode with ha | ha
  · rw [ha] at h
    cases h
  · rw [ha] at h
    exact setFingerStatus_through h

/-- Where there is no device call, nothing can go wrong with it. -/
theorem through_of_no_device {outs : List Output} {d : Nat}
    (hno : ∀ dev c, Output.device dev c ∉ outs) (h : o ∈ outs) : o.Through d := by
  cases o with
  | device dev c => exact absurd h (hno dev c)
  | _ => trivial

/-- A call of the engine that is followed by `failed` only. -/
theorem through_cons_failed {cb : SessionId} {error : BitVec 32} {d : Nat} {c : DeviceCall}
    (hc : c ≠ .set_notify) (h : o ∈ Output.device d c :: FingerprintEngine.failed cb error) :
    o.Through d := by
  rcases List.mem_cons.mp h with rfl | h
  · exact ⟨rfl, hc⟩
  · exact through_of_no_device (fun _ _ => failed_no_device) h

theorem through_unlessCancelled {cb : SessionId} {cancel : Nat} {outs : List Output}
    {w : Fingerprint} {d : Nat} (hall : ∀ o ∈ outs, o.Through d)
    (h : o ∈ w.unlessCancelled cb cancel outs) : o.Through d := by
  by_cases hc : cancel ∈ w.cancelled
  · rw [unlessCancelled_of_mem hc, List.mem_singleton] at h
    rw [h]
    trivial
  · rw [unlessCancelled_of_not_mem hc] at h
    exact hall o h

end Engine

section Steps

variable {U : Util} {mem : Memory} {w w' : Fingerprint} {o : Output}

/-- A task keeps the pointer and calls through it. -/
theorem run_through (U : Util) (inp : TaskInputs) (t : Task) (w : Fingerprint) :
    (t.run U inp w).1.mEngine.mDevice = w.mEngine.mDevice ∧
      ∀ o ∈ (t.run U inp w).2, o.Through w.mEngine.mDevice := by
  obtain ⟨s, body⟩ := t
  cases body with
  | enroll hat cancel =>
      exact ⟨rfl, fun o h =>
        through_unlessCancelled (fun _ => through_cons_failed (by simp)) h⟩
  | authenticate operationId cancel =>
      exact ⟨rfl, fun o h =>
        through_unlessCancelled (fun _ => through_cons_failed (by simp)) h⟩
  | detectInteraction cancel =>
      exact ⟨rfl, fun o h => through_unlessCancelled
        (fun _ => through_of_no_device fun _ _ => detectInteractionImpl_no_device) h⟩
  | enumerateEnrollments => exact ⟨rfl, fun o h => through_cons_failed (by simp) h⟩
  | resetLockout hat =>
      exact ⟨rfl, fun o h => through_of_no_device (fun _ _ => resetLockoutImpl_no_device) h⟩
  | onPointerDown x y =>
      simp only [Task.run]
      split
      · exact ⟨rfl, fun o h => through_of_no_device (fun _ _ => check_no_device) h⟩
      · refine ⟨rfl, fun o h => ?_⟩
        rcases List.mem_append.mp h with h | h
        · exact through_of_no_device (fun _ _ => check_no_device) h
        · exact onPointerDownImpl_through h
  | onPointerUp => exact ⟨rfl, fun o h => onPointerUpImpl_through h⟩
  | onUiReady => exact ⟨rfl, fun o h => by cases h⟩
  | _ =>
      refine ⟨rfl, fun o h => ?_⟩
      rw [List.mem_singleton.mp h]
      exact ⟨rfl, by simp⟩

/-- And so does a message. -/
theorem notify_through (U : Util) (s : SessionId) (msg : Msg) (clk : Readings)
    (w : Fingerprint) :
    (Session.notify U s msg clk w).1.mEngine.mDevice = w.mEngine.mDevice ∧
      ∀ o ∈ (Session.notify U s msg clk w).2, o.Through w.mEngine.mDevice := by
  cases msg with
  | FINGERPRINT_ACQUIRED acquired_info =>
      simp only [Session.notify, Fingerprint.withEngine]
      refine ⟨?_, fun o h => ?_⟩
      · rcases FingerprintEngine.onAcquired_cases _ _ with ha | ha
        · rw [ha]
        · rw [ha]
          rfl
      · rcases List.mem_append.mp h with h | h
        · exact onAcquired_through h
        · refine through_of_no_device (fun _ _ => ?_) h
          split <;> simp
  | FINGERPRINT_AUTHENTICATED fid hat =>
      simp only [Session.notify, Fingerprint.withEngine]
      split
      · refine ⟨rfl, fun o h => ?_⟩
        rcases List.mem_cons.mp h with rfl | h
        · trivial
        · exact onPointerUpImpl_through h
      · refine ⟨rfl, fun o h => ?_⟩
        rcases List.mem_cons.mp h with rfl | h
        · trivial
        · rcases List.mem_append.mp h with h | h
          · exact through_of_no_device (fun _ _ => check_no_device) h
          · exact onPointerUpImpl_through h
  | FINGERPRINT_TEMPLATE_ENUMERATING fid remaining =>
      simp only [Session.notify]
      split
      · refine ⟨rfl, fun o h => ?_⟩
        rw [List.mem_singleton.mp h]
        trivial
      · exact ⟨rfl, fun o h => by cases h⟩
  | FINGERPRINT_AUTHENTICATOR_ID_RETRIEVED data =>
      refine ⟨rfl, fun o h => ?_⟩
      rcases List.mem_append.mp h with h | h
      · exact onPointerUpImpl_through h
      · rw [List.mem_singleton.mp h]
        trivial
  | unknown type => exact ⟨rfl, fun o h => by cases h⟩
  | _ =>
      refine ⟨rfl, fun o h => ?_⟩
      rw [List.mem_singleton.mp h]
      trivial

/-- A timer that expires makes no device call. -/
theorem timer_no_device {i : Nat} {now : Int} {outs : List Output} {dev : Nat}
    {c : DeviceCall} (hstep : (service U mem).step w (.timer i now) = some (w', outs)) :
    Output.device dev c ∉ outs := by
  obtain ⟨t, -, he⟩ := step_timer.mp hstep
  rw [(Prod.mk.inj he).2]
  simp only [FingerprintEngine.onLockout, LockoutControl.lockoutTimerExpired,
    LockoutControl.clearLockout]
  split <;> simp

/-- Every step keeps the pointer and calls through it. -/
theorem step_through {e : Event} {outs : List Output}
    (hstep : (service U mem).step w e = some (w', outs)) :
    w'.mEngine.mDevice = w.mEngine.mDevice ∧ ∀ o ∈ outs, o.Through w.mEngine.mDevice := by
  cases e with
  | work inp =>
      obtain ⟨t, q, -, he⟩ := step_work.mp hstep
      have hr := run_through U inp t { w with mWorker := q, clock := inp.clk.atTimeLeft }
      rw [← he] at hr
      exact hr
  | message msg clk =>
      cases hs : w.openSession with
      | none =>
          obtain ⟨rfl, rfl⟩ := message_dropped hstep hs
          exact ⟨rfl, fun o h => by cases h⟩
      | some s =>
          obtain ⟨rfl, rfl⟩ := message_given hstep hs
          exact notify_through U s msg clk { w with clock := clk.atTimeLeft }
  | timer i now =>
      have hno : ∀ dev c, Output.device dev c ∉ outs := fun _ _ => timer_no_device hstep
      obtain ⟨t, -, he⟩ := step_timer.mp hstep
      rw [(Prod.mk.inj he).1]
      exact ⟨rfl, fun o h => through_of_no_device hno h⟩
  | _ =>
      have hc := client_frame hstep rfl
      refine ⟨congrArg FingerprintEngine.mDevice hc.1, ?_⟩
      rcases client_outs hstep rfl with rfl | ⟨s, rfl⟩ | ⟨userId, error, rfl⟩
      · exact fun o h => by cases h
      · intro o h
        rw [List.mem_singleton.mp h]
        trivial
      · intro o h
        rw [List.mem_singleton.mp h]
        exact ⟨rfl, by simp⟩

end Steps

/-! ## The first call -/

/-- The device call of an output. -/
def Output.deviceCall : Output → Option DeviceCall
  | .device _ c => some c
  | _ => none

/-- The call a new session of the user makes. -/
def groupCall (userId error : BitVec 32) : DeviceCall :=
  .setActiveGroup userId ("/data/vendor_de/" ++ toString userId.toInt ++ "/fpdata/") error

/-- The user of the first session of a run, and what `setActiveGroup` returns for it. -/
def firstCreation (ts : List Handler) : Option (BitVec 32 × BitVec 32) :=
  ts.findSome? fun t => t.event.creation

/-- No session has been made, and the worker has nothing to do. -/
structure Fingerprint.Fresh (w : Fingerprint) : Prop where
  sessions : w.sessions = []
  mSession : w.mSession = none
  items : w.mWorker.items = []

theorem fresh_boot (mem : Memory) (hw : HwModule) (now : Int) :
    (Fingerprint.boot mem hw now).1.Fresh := ⟨rfl, rfl, rfl⟩

section Fresh

variable {U : Util} {mem : Memory} {w w' w₀ : Fingerprint} {ts : List Handler}

/-- No call of a client can reach an object that was never made. -/
theorem Fingerprint.Fresh.not_lt (h : w.Fresh) (s : SessionId) : ¬ s < w.sessions.length := by
  rw [h.sessions]
  exact Nat.not_lt_zero s

theorem Fingerprint.Fresh.openSession (h : w.Fresh) : w.openSession = none := by
  unfold Fingerprint.openSession
  rw [h.mSession]

/-- Nothing but a new session brings a fresh service to a device call, or ends its being
    fresh. -/
theorem fresh_step {e : Event} {outs : List Output}
    (hstep : (service U mem).step w e = some (w', outs)) (h : w.Fresh)
    (he : e.creation = none) : w'.Fresh ∧ outs.filterMap Output.deviceCall = [] := by
  cases e with
  | createSession sensorId userId error => cases he
  | request s r => exact absurd (step_request.mp hstep).1 (h.not_lt s)
  | close s => exact absurd (step_close.mp hstep).1 (h.not_lt s)
  | clientDeath s => exact absurd (step_clientDeath.mp hstep).1 (h.not_lt s)
  | cancel signal =>
      obtain ⟨rfl, rfl⟩ := cancel_frame hstep
      exact ⟨⟨h.sessions, h.mSession, h.items⟩, rfl⟩
  | work inp =>
      obtain ⟨t, q, hi, -⟩ := step_work.mp hstep
      rw [h.items] at hi
      cases hi
  | message msg clk =>
      obtain ⟨rfl, rfl⟩ := message_dropped hstep h.openSession
      exact ⟨⟨h.sessions, h.mSession, h.items⟩, rfl⟩
  | timer i now =>
      have hno : outs.filterMap Output.deviceCall = [] := by
        rw [List.filterMap_eq_nil_iff]
        intro o ho
        cases o with
        | device dev c => exact absurd ho (timer_no_device hstep)
        | _ => rfl
      obtain ⟨_, rfl⟩ := timer_frame hstep
      exact ⟨⟨h.sessions, h.mSession, h.items⟩, hno⟩

/-- From a fresh service, the first device call is that of the first session. -/
theorem first_call (hrun : (service U mem).Run w₀ ts w) (h₀ : w₀.Fresh) :
    ((trace ts).filterMap Output.deviceCall).head? =
        (firstCreation ts).map (fun p => groupCall p.1 p.2) ∧
      (firstCreation ts = none → w.Fresh) := by
  induction hrun with
  | nil => exact ⟨rfl, fun _ => h₀⟩
  | @snoc ts w e w' outs _ hstep ih =>
      obtain ⟨hfirst, hfresh⟩ := ih
      rw [firstCreation, List.findSome?_append, ← firstCreation, trace_append,
        List.filterMap_append, List.head?_append, hfirst, trace_cons, trace_nil,
        List.append_nil]
      cases hc : firstCreation ts with
      | some p => exact ⟨rfl, fun h => by cases h⟩
      | none =>
          -- this step is the first that can make a call
          cases he : e.creation with
          | none =>
              obtain ⟨hw', hno⟩ := fresh_step hstep (hfresh hc) he
              exact ⟨by simp [he, hno], fun _ => hw'⟩
          | some p =>
              cases e with
              | createSession sensorId userId error =>
                  obtain ⟨-, -, -, -, rfl⟩ := step_createSession.mp hstep
                  exact ⟨rfl, fun h => by cases h⟩
              | _ => cases he

end Fresh

/-! ## A run from the start -/

/-- The module is opened so far that it is given the notify function. -/
structure HwModule.Reached (hw : HwModule) : Prop where
  found : hw.hw_get_module = 0 ∧ hw.hw_mdl = true
  opened : hw.openMethod = true ∧ hw.openError = 0
  version : hw.module_api_version = FINGERPRINT_MODULE_API_VERSION_2_1

theorem HwModule.opens_iff {hw : HwModule} : hw.Opens ↔ hw.Reached ∧ hw.set_notify = 0 :=
  ⟨fun h => ⟨⟨h.found, h.opened, h.version⟩, h.notified⟩,
    fun h => ⟨h.1.found, h.1.opened, h.1.version, h.2⟩⟩

/-- What opening the module does: nothing, or one call, through the pointer it has found. -/
theorem openFingerprintHal_cases (hw : HwModule) :
    (¬ hw.Reached ∧ FingerprintEngine.openFingerprintHal hw = (0, [])) ∨
    (hw.Reached ∧ FingerprintEngine.openFingerprintHal hw =
      (if hw.set_notify ≠ 0 then 0 else hw.device, [.device hw.device .set_notify])) := by
  unfold FingerprintEngine.openFingerprintHal
  split
  · next h => exact Or.inl ⟨fun hr => h hr.found.1, rfl⟩
  · next h1 =>
      split
      · next h => exact Or.inl ⟨fun hr => h hr.found.2, rfl⟩
      · next h2 =>
          split
          · next h => exact Or.inl ⟨fun hr => h hr.opened.1, rfl⟩
          · next h3 =>
              split
              · next h => exact Or.inl ⟨fun hr => h hr.opened.2, rfl⟩
              · next h4 =>
                  split
                  · next h => exact Or.inl ⟨fun hr => h hr.version, rfl⟩
                  · next h5 =>
                      simp only [ne_eq, Decidable.not_not] at h1 h2 h3 h4 h5
                      exact Or.inr ⟨⟨⟨h1, h2⟩, ⟨h3, h4⟩, h5⟩, rfl⟩

/-- When the constructor makes a call through the null pointer. -/
theorem boot_null_call_iff (mem : Memory) (hw : HwModule) (now : Int) :
    (∃ c, Output.device 0 c ∈ (Fingerprint.boot mem hw now).2) ↔
      mem.mDevice = 0 ∧ hw.Reached ∧ hw.device = 0 := by
  unfold Fingerprint.boot FingerprintEngine.new
  by_cases hm : mem.mDevice = 0
  · rcases openFingerprintHal_cases hw with ⟨hr, ho⟩ | ⟨hr, ho⟩
    · simp [hm, ho, hr]
    · simp only [hm, ho, hr, ne_eq, not_true_eq_false, if_false, List.mem_singleton,
        Output.device.injEq, exists_and_left, exists_eq, and_true, true_and]
      exact eq_comm
  · simp [hm]

/-- When it leaves a null pointer, without having called through it. -/
theorem new_mDevice_eq_zero {mem : Memory} {hw : HwModule}
    (h : ¬ (mem.mDevice = 0 ∧ hw.Reached ∧ hw.device = 0)) :
    (FingerprintEngine.new mem hw).1.mDevice = 0 ↔ mem.mDevice = 0 ∧ ¬ hw.Opens := by
  unfold FingerprintEngine.new
  by_cases hm : mem.mDevice = 0
  · rw [HwModule.opens_iff]
    rcases openFingerprintHal_cases hw with ⟨hr, ho⟩ | ⟨hr, ho⟩
    · simp [hm, ho, hr]
    · have hdevice : hw.device ≠ 0 := fun hd => h ⟨hm, hr, hd⟩
      simp [hm, ho, hr, hdevice]
  · simp [hm]

section Start

variable {U : Util} {mem : Memory} {hw : HwModule} {now : Int} {w : Fingerprint}
  {ts : List Handler}

/-- In a run the pointer stays what it was, and all calls go through it. -/
theorem run_device_through {w₀ : Fingerprint} (hrun : (service U mem).Run w₀ ts w) :
    w.mEngine.mDevice = w₀.mEngine.mDevice ∧ ∀ o ∈ trace ts, o.Through w₀.mEngine.mDevice := by
  induction hrun with
  | nil => exact ⟨rfl, fun o h => by cases h⟩
  | @snoc ts w e w' outs _ hstep ih =>
      obtain ⟨hkeep, hall⟩ := step_through hstep
      rw [ih.1] at hkeep hall
      refine ⟨hkeep, fun o h => ?_⟩
      rw [trace_append, trace_cons, trace_nil, List.append_nil] at h
      rcases List.mem_append.mp h with h | h
      · exact ih.2 o h
      · exact hall o h

/-- **One device, from the first session on.** In every run after the constructor all
    device calls go through the pointer it has left, none of them sets the callback, and
    the first of them is the `setActiveGroup` of the first session; while there was no
    session there is none. -/
theorem device_protocol (hrun : (service U mem).Run (Fingerprint.boot mem hw now).1 ts w) :
    (∀ dev c, Output.device dev c ∈ trace ts →
      dev = (FingerprintEngine.new mem hw).1.mDevice ∧ c ≠ .set_notify) ∧
    ((trace ts).filterMap Output.deviceCall).head? =
      (firstCreation ts).map fun p => groupCall p.1 p.2 :=
  ⟨fun dev c h => (run_device_through hrun).2 (.device dev c) h,
    (first_call hrun (fresh_boot mem hw now)).1⟩

/-- Two sessions, the first of which fails to set its group. -/
theorem device_protocol_two :
    let M := service .millis .zeroed
    let w₀ := (Fingerprint.boot .zeroed .working 0).1
    let es := [failureAt 1, .createSession 0 10 7, .request 0 .enumerateEnrollments, .close 0,
      .createSession 0 11 0, workAt 2]
    (∀ dev c, Output.device dev c ∈ trace (M.steps w₀ es) →
      dev = (FingerprintEngine.new .zeroed .working).1.mDevice ∧ c ≠ .set_notify) ∧
    ((trace (M.steps w₀ es)).filterMap Output.deviceCall).head? =
      (firstCreation (M.steps w₀ es)).map fun p => groupCall p.1 p.2 :=
  device_protocol (Machine.run_steps (by decide +kernel))

/-- **When it calls through the null pointer.** The constructor does exactly when it finds
    no pointer in its memory, and the module gets as far as to be given the notify function
    but its device is null. A run of a service whose constructor does not makes such a call
    exactly when there was no pointer in the memory, the module could not be opened, and a
    session was created. -/
theorem null_call_iff (hrun : (service U mem).Run (Fingerprint.boot mem hw now).1 ts w) :
    ((∃ c, Output.device 0 c ∈ (Fingerprint.boot mem hw now).2) ↔
      mem.mDevice = 0 ∧ hw.Reached ∧ hw.device = 0) ∧
    ((∀ c, Output.device 0 c ∉ (Fingerprint.boot mem hw now).2) →
      ((∃ c, Output.device 0 c ∈ trace ts) ↔
        mem.mDevice = 0 ∧ ¬ hw.Opens ∧ ∃ t ∈ ts, t.event.creation ≠ none)) := by
  refine ⟨boot_null_call_iff mem hw now, fun hboot => ?_⟩
  have hthrough := (run_device_through hrun).2
  have hfirst := (first_call hrun (fresh_boot mem hw now)).1
  have hnot : ¬ (mem.mDevice = 0 ∧ hw.Reached ∧ hw.device = 0) := by
    rw [← boot_null_call_iff mem hw now]
    rintro ⟨c, hc⟩
    exact hboot c hc
  rw [← and_assoc, ← new_mDevice_eq_zero hnot]
  constructor
  · rintro ⟨c, hc⟩
    refine ⟨(hthrough _ hc).1.symm, ?_⟩
    -- there is a call, so there is a first one, which is that of a session
    have hmem : c ∈ (trace ts).filterMap Output.deviceCall :=
      List.mem_filterMap.mpr ⟨_, hc, rfl⟩
    cases hcreate : firstCreation ts with
    | none =>
        rw [hcreate, Option.map_none, List.head?_eq_none_iff] at hfirst
        rw [hfirst] at hmem
        cases hmem
    | some p =>
        obtain ⟨t, ht, hp⟩ := List.exists_of_findSome?_eq_some hcreate
        exact ⟨t, ht, by simp [hp]⟩
  · rintro ⟨hnull, t, ht, hcreate⟩
    obtain ⟨p, hp⟩ : ∃ p, firstCreation ts = some p := by
      rw [← Option.isSome_iff_exists, firstCreation, List.findSome?_isSome_iff]
      exact ⟨t, ht, Option.isSome_iff_ne_none.mpr hcreate⟩
    rw [hp, Option.map_some] at hfirst
    obtain ⟨o, ho, hcall⟩ := List.mem_filterMap.mp (List.mem_of_head? hfirst)
    cases o with
    | device dev c =>
        have hdev : dev = 0 := (hthrough _ ho).1.trans hnull
        exact ⟨c, hdev ▸ ho⟩
    | _ => cases hcall

/-- A module of another version. -/
def HwModule.otherVersion : HwModule := { HwModule.working with module_api_version := 0x0200 }

/-- The first session calls through the null pointer. -/
theorem null_call_iff_version :
    ∃ c, Output.device 0 c ∈ trace ((service .millis .zeroed).steps
      (Fingerprint.boot .zeroed .otherVersion 0).1 [.createSession 0 10 0]) := by
  have hboot : (Fingerprint.boot .zeroed .otherVersion 0).2 = [] := by decide +kernel
  have hopens : ¬ HwModule.otherVersion.Opens := fun h => absurd h.version (by decide)
  refine ((@null_call_iff .millis .zeroed .otherVersion 0 _ _
    (Machine.run_steps (by decide +kernel))).2 fun c hc => ?_).mpr
      ⟨rfl, hopens, by decide +kernel⟩
  rw [hboot] at hc
  cases hc

end Start

end FingerprintHal
