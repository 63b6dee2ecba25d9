/-
  When a cancellation is honoured.

  A task looks at its signal once, before it starts its operation; the operation itself is
  not told of the signal, and the `cancel` of the vendor module is never called. So
  `cancel()` is answered with one `onError(CANCELED)`, and nothing comes of the operation
  after it, when the task of the request is still waiting in the queue, and otherwise only
  by chance: when the module gives the operation up by itself (`cancel_honoured_iff`).
-/
import FingerprintHal.Session.Operations

namespace FingerprintHal

open Lib

/-! ## What is said for an operation -/

/-- The operation a message of the vendor module is about. -/
def SystemEvent.signal : SystemEvent → Option Nat
  | .own _ => none
  | .answer k _ _ => some k

/-- The step runs the task of operation `k`, or handles a message about it. -/
def concerns (k : Nat) (t : OperationsHandler) : Bool :=
  leaves t == some k || t.event.signal == some k

/-- What is put out for operation `k`. -/
def putOutFor (k : Nat) (us : List OperationsHandler) : List Output :=
  trace (us.filter (concerns k))

/-- The callbacks of an operation that report a success. -/
def Output.isProgress : Output → Bool
  | .callback _ (.onAuthenticationSucceeded _ _) => true
  | .callback _ (.onEnrollmentProgress _ _) => true
  | _ => false

/-- The callbacks that end an operation of `s`. -/
def Output.isTerminal (s : SessionId) : Output → Bool
  | .callback cb (.onError _ _) => cb == s
  | .callback cb (.onAuthenticationSucceeded _ _) => cb == s
  | .callback cb (.onEnrollmentProgress _ remaining) => cb == s && remaining == 0
  | _ => false

/-- The call of `cancel()` in the step `t` is honoured: the session `s` is told once that
    operation `k` is cancelled, and of no success after the call. -/
structure Honoured (s : SessionId) (k : Nat) (before : List OperationsHandler)
    (t : OperationsHandler) (after : List OperationsHandler) : Prop where
  canceled : (putOutFor k (before ++ t :: after)).countP (Output.isError s .CANCELED) = 1
  silent : ∀ o ∈ putOutFor k after, o.isProgress = false

/-- The step finds operation `k` cancelled. -/
def findsCancelled (k : Nat) (t : OperationsHandler) : Bool :=
  leaves t == some k && decide (k ∈ t.pre.service.cancelled)

/-- The vendor module says that operation `k` is cancelled, while `s` is open. -/
def reportsCanceled (s : SessionId) (k : Nat) (t : OperationsHandler) : Bool :=
  match t.event with
  | .own _ => false
  | .answer j msg _ => j == k && (msg.isCanceled && t.pre.service.openSession == some s)

/-- The step says that operation `k` of `s` is cancelled. -/
def saysCanceled (s : SessionId) (k : Nat) (t : OperationsHandler) : Bool :=
  findsCancelled k t || reportsCanceled s k t

/-- A match, or progress of an `enroll`. -/
def Msg.isProgress : Msg → Bool
  | .FINGERPRINT_AUTHENTICATED fid _ => fid != 0
  | .FINGERPRINT_TEMPLATE_ENROLLING _ _ => true
  | _ => false

/-- The vendor module reports a success of operation `k`, while a session is open. -/
def reportsProgress (k : Nat) (t : OperationsHandler) : Bool :=
  match t.event with
  | .own _ => false
  | .answer j msg _ => j == k && (msg.isProgress && t.pre.service.openSession.isSome)

/-- Over the steps `after` the vendor module gives operation `k` up by itself: it says once
    that it is cancelled, and reports no success. -/
def GivesUp (s : SessionId) (k : Nat) (after : List OperationsHandler) : Prop :=
  after.countP (reportsCanceled s k) = 1 ∧ ∀ u ∈ after, reportsProgress k u = false

instance (s : SessionId) (k : Nat) : DecidablePred (GivesUp s k) :=
  fun after => inferInstanceAs (Decidable (after.countP (reportsCanceled s k) = 1 ∧
    ∀ u ∈ after, reportsProgress k u = false))

/-! ## A message -/

/-- An error that is handed on comes from a message that reports it. -/
theorem notify_error {U : Util} {s cb : SessionId} {msg : Msg} {clk : Readings}
    {w : Fingerprint} {error : Error} {vendorCode : BitVec 32}
    (h : Output.callback cb (.onError error vendorCode) ∈ (Session.notify U s msg clk w).2) :
    ∃ code, msg = .FINGERPRINT_ERROR code ∧
      error = (FingerprintEngine.convertError code).1 := by
  rcases (notify_callback h).2 with hm | hc
  · exact handedOn_onError hm
  · cases hc

/-- The session is told that an operation is cancelled by a message that says so. -/
theorem notify_canceled {U : Util} {s cb : SessionId} {msg : Msg} {clk : Readings}
    {w : Fingerprint} :
    (Session.notify U cb msg clk w).2.countP (Output.isError s .CANCELED) =
      if (msg.isCanceled && some cb == some s) = true then 1 else 0 := by
  by_cases hm : ∃ code, msg = .FINGERPRINT_ERROR code
  · obtain ⟨code, rfl⟩ := hm
    have hsame : Output.isError s .CANCELED
        (.callback cb (.onError (FingerprintEngine.convertError code).1
          (FingerprintEngine.convertError code).2)) =
        ((Msg.FINGERPRINT_ERROR code).isCanceled && some cb == some s) := by
      rw [Bool.and_comm]
      rfl
    rw [← hsame]
    exact List.countP_singleton
  · have hnot : msg.isCanceled = false := by
      cases msg with
      | FINGERPRINT_ERROR code => exact absurd ⟨code, rfl⟩ hm
      | _ => rfl
    rw [hnot, Bool.false_and, if_neg Bool.false_ne_true, List.countP_eq_zero]
    intro o ho he
    unfold Output.isError at he
    split at he
    · obtain ⟨code, hcode, -⟩ := notify_error ho
      exact hm ⟨code, hcode⟩
    · cases he

/-- What a message is handed on as reports a success if the message does. -/
theorem handedOn_isProgress {msg : Msg} (ids : List (BitVec 32)) (s : SessionId) :
    (msg.handedOn ids).any (fun c => (Output.callback s c).isProgress) = msg.isProgress := by
  cases msg with
  | FINGERPRINT_AUTHENTICATED fid hat =>
      simp only [Msg.handedOn, Msg.isProgress]
      split
      · next hf => exact (bne_iff_ne.mpr hf).symm
      · next hf => simp [Decidable.not_not.mp hf, Output.isProgress]
  | FINGERPRINT_TEMPLATE_ENUMERATING fid remaining =>
      simp only [Msg.handedOn]
      split <;> rfl
  | FINGERPRINT_ACQUIRED acquired_info =>
      simp only [Msg.handedOn]
      split <;> rfl
  | _ => rfl

theorem notify_progress {U : Util} {cb : SessionId} {msg : Msg} {clk : Readings}
    {w : Fingerprint} :
    (∃ o ∈ (Session.notify U cb msg clk w).2, o.isProgress = true) ↔
      msg.isProgress = true := by
  rw [← handedOn_isProgress w.enrollments cb, Option.any_eq_true]
  constructor
  · rintro ⟨o, ho, hp⟩
    obtain ⟨s, c, rfl⟩ : ∃ s c, o = .callback s c := by
      cases o with
      | callback s c => exact ⟨s, c, rfl⟩
      | _ => cases hp
    obtain ⟨rfl, hm | hc⟩ := notify_callback ho
    · exact ⟨c, hm, hp⟩
    · cases c with
      | onAuthenticationSucceeded fid hat => cases hc
      | onEnrollmentProgress fid remaining => cases hc
      | _ => cases hp
  · rintro ⟨c, hm, hp⟩
    exact ⟨_, handedOn_mem hm, hp⟩

/-! ## A task -/

section Task

variable {U : Util} {inp : TaskInputs} {task : Task} {w : Fingerprint} {k : Nat}

/-- A cancelled operation is told so. -/
theorem run_cancelled (h : task.body.signal = some k) (hc : k ∈ w.cancelled) :
    (task.run U inp w).2 = [.callback task.session (.onError Error.CANCELED 0)] := by
  obtain ⟨s, body⟩ := task
  cases body with
  | enroll hat cancel =>
      cases h
      exact unlessCancelled_of_mem hc _
  | authenticate operationId cancel =>
      cases h
      exact unlessCancelled_of_mem hc _
  | detectInteraction cancel =>
      cases h
      exact unlessCancelled_of_mem hc _
  | _ => cases h

theorem failed_not_canceled {cb s : SessionId} {error : BitVec 32} :
    (FingerprintEngine.failed cb error).countP (Output.isError s .CANCELED) = 0 := by
  have hne : (Error.UNABLE_TO_PROCESS == Error.CANCELED) = false := by decide
  unfold FingerprintEngine.failed
  split
  · simp [Output.isError, hne]
  · rfl

/-- And another one is not. -/
theorem run_not_cancelled (h : task.body.signal = some k) (hc : k ∉ w.cancelled)
    {s : SessionId} : (task.run U inp w).2.countP (Output.isError s .CANCELED) = 0 := by
  obtain ⟨cb, body⟩ := task
  cases body with
  | enroll hat cancel =>
      cases h
      show (w.unlessCancelled cb k _).countP _ = 0
      rw [unlessCancelled_of_not_mem hc, FingerprintEngine.enrollImpl, List.countP_cons,
        failed_not_canceled]
      rfl
  | authenticate operationId cancel =>
      cases h
      show (w.unlessCancelled cb k _).countP _ = 0
      rw [unlessCancelled_of_not_mem hc, FingerprintEngine.authenticateImpl, List.countP_cons,
        failed_not_canceled]
      rfl
  | detectInteraction cancel =>
      cases h
      have hne : (Error.UNABLE_TO_PROCESS == Error.CANCELED) = false := by decide
      show (w.unlessCancelled cb k _).countP _ = 0
      rw [unlessCancelled_of_not_mem hc, FingerprintEngine.detectInteractionImpl]
      split
      · rfl
      · simp [Output.isError, hne]
  | _ => cases h

/-- No task reports a success. -/
theorem run_no_progress {o : Output} (ho : o ∈ (task.run U inp w).2) :
    o.isProgress = false := by
  cases o with
  | callback cb c =>
      have hc := (run_callback ho).2
      cases c with
      | onAuthenticationSucceeded fid hat => cases hc
      | onEnrollmentProgress fid remaining => cases hc
      | _ => rfl
  | _ => rfl

end Task

/-! ## A step -/

section Step

variable {U : Util} {mem : Memory} {us : List OperationsHandler} {t : OperationsHandler}
  {k : Nat} {s : SessionId}

theorem concerns_cases (h : concerns k t = true) :
    leaves t = some k ∨ ∃ msg clk, t.event = .answer k msg clk := by
  unfold concerns at h
  rcases Bool.or_eq_true_iff.mp h with h | h
  · exact Or.inl (beq_iff_eq.mp h)
  · have hsig := beq_iff_eq.mp h
    unfold SystemEvent.signal at hsig
    split at hsig
    · cases hsig
    · next j msg clk he =>
        cases hsig
        exact Or.inr ⟨msg, clk, he⟩

/-- The task of operation `k`, of the session that asked for it. -/
theorem leaves_eq_some
    (hstep : (operations U mem).step t.pre t.event = some (t.post, t.outs))
    (hI : Tracked us t.pre) (h : leaves t = some k) :
    ∃ (task : Task) (inp : TaskInputs) (w : Fingerprint), task.body.signal = some k ∧
      w.cancelled = t.pre.service.cancelled ∧ t.outs = (task.run U inp w).2 ∧
      t.pre.askers[k]? = some task.session := by
  obtain ⟨task, hpopped, hk⟩ := Option.bind_eq_some_iff.mp h
  obtain ⟨inp, w, -, -, hc, hmem, ho⟩ := popped_eq_some (serviceStep_step hstep) hpopped
  exact ⟨task, inp, w, hk, hc, ho, hI.owner task hmem k hk⟩

/-- A message runs no task. -/
theorem leaves_of_answer {j : Nat} {msg : Msg} {clk : Readings}
    (h : t.event = .answer j msg clk) : leaves t = none := by
  simp [leaves, popped, serviceStep, h, SystemEvent.event]

/-- And a step that runs one is no message. -/
theorem own_of_leaves (h : leaves t = some k) : ∃ e, t.event = .own e := by
  cases he : t.event with
  | own e => exact ⟨e, rfl⟩
  | answer j msg clk =>
      rw [leaves_of_answer he] at h
      cases h

/-- Operation `k` is said to be cancelled by the step that finds it cancelled, or by a
    message that says so. -/
theorem canceled_step
    (hstep : (operations U mem).step t.pre t.event = some (t.post, t.outs))
    (hI : Tracked us t.pre) (hs : ∀ cb, t.pre.askers[k]? = some cb → cb = s)
    (hc : concerns k t = true) :
    t.outs.countP (Output.isError s .CANCELED) =
      if saysCanceled s k t = true then 1 else 0 := by
  unfold saysCanceled
  rcases concerns_cases hc with hl | ⟨msg, clk, he⟩
  · obtain ⟨task, inp, w, hk, hcancelled, ho, hasker⟩ := leaves_eq_some hstep hI hl
    have hsession := hs task.session hasker
    obtain ⟨e, hown⟩ := own_of_leaves hl
    have hreports : reportsCanceled s k t = false := by
      unfold reportsCanceled
      rw [hown]
    rw [ho, hreports, Bool.or_false]
    by_cases hmem : k ∈ t.pre.service.cancelled
    · have hfinds : findsCancelled k t = true := by simp [findsCancelled, hl, hmem]
      rw [if_pos hfinds, run_cancelled hk (by rw [hcancelled]; exact hmem), hsession]
      simp [Output.isError]
    · have hfinds : ¬ findsCancelled k t = true := by simp [findsCancelled, hmem]
      rw [if_neg hfinds]
      exact run_not_cancelled hk (by rw [hcancelled]; exact hmem)
  · have hfinds : findsCancelled k t = false := by
      unfold findsCancelled
      rw [leaves_of_answer he]
      rfl
    have hserv := (operations_step.mp hstep).2.1
    rw [he] at hserv
    simp only [hfinds, Bool.false_or, reportsCanceled, he, beq_self_eq_true, Bool.true_and]
    cases hopen : t.pre.service.openSession with
    | none =>
        rw [(message_dropped hserv hopen).2]
        simp
    | some cb =>
        rw [(message_given hserv hopen).2]
        exact notify_canceled

/-- A success of operation `k` is told by the messages that report one. -/
theorem progress_step
    (hstep : (operations U mem).step t.pre t.event = some (t.post, t.outs))
    (hI : Tracked us t.pre) (hc : concerns k t = true) :
    (∃ o ∈ t.outs, o.isProgress = true) ↔ reportsProgress k t = true := by
  rcases concerns_cases hc with hl | ⟨msg, clk, he⟩
  · obtain ⟨task, inp, w, -, -, ho, -⟩ := leaves_eq_some hstep hI hl
    obtain ⟨e, hown⟩ := own_of_leaves hl
    refine iff_of_false ?_ (by simp [reportsProgress, hown])
    rintro ⟨o, hout, hp⟩
    rw [ho] at hout
    rw [run_no_progress hout] at hp
    cases hp
  · have hserv := (operations_step.mp hstep).2.1
    rw [he] at hserv
    simp only [reportsProgress, he, beq_self_eq_true, Bool.true_and]
    cases hopen : t.pre.service.openSession with
    | none =>
        rw [(message_dropped hserv hopen).2]
        simp
    | some cb =>
        rw [(message_given hserv hopen).2, Option.isSome_some, Bool.and_true]
        exact notify_progress

/-- Only steps that concern operation `k` say that it is cancelled. -/
theorem concerns_of_saysCanceled (u : OperationsHandler) (h : saysCanceled s k u = true) :
    concerns k u = true := by
  unfold saysCanceled at h
  unfold concerns
  rcases Bool.or_eq_true_iff.mp h with h | h
  · unfold findsCancelled at h
    rw [(Bool.and_eq_true_iff.mp h).1, Bool.true_or]
  · unfold reportsCanceled at h
    split at h
    · cases h
    · next j msg clk he =>
        have hj : j = k := beq_iff_eq.mp (Bool.and_eq_true_iff.mp h).1
        simp [SystemEvent.signal, he, hj]

end Step

/-! ## Runs -/

section Run

variable {U : Util} {mem : Memory} {hw : HwModule} {now : Int} {o : Operations}
  {ts : List OperationsHandler} {k : Nat} {s : SessionId}

/-- Over a run, operation `k` is said to be cancelled by the steps that find it cancelled
    and by the messages that say so. -/
theorem canceled_of_mem (hrun : (operations U mem).Run (.boot mem hw now) ts o)
    (hs : o.askers[k]? = some s) :
    ∀ u ∈ ts, concerns k u = true → u.outs.countP (Output.isError s .CANCELED) =
      if saysCanceled s k u = true then 1 else 0 := by
  intro u hu hc
  obtain ⟨as, bs, -, hbefore, hstep, hafter⟩ := hrun.at_mem hu
  refine canceled_step hstep (tracked_run hbefore) (fun cb hcb => ?_) hc
  have hend := askers_run hafter (askers_step hstep hcb)
  exact Option.some.inj (hend.symm.trans hs)

theorem countP_leaves (us : List OperationsHandler) :
    us.countP (fun u => leaves u == some k) = (us.filterMap leaves).count k := by
  rw [List.count, List.countP_filterMap]
  refine List.countP_congr fun u _ => ?_
  cases leaves u with
  | none => simp
  | some j => simp

/-- A cancelled operation that has not been started, and will not be. -/
structure Dead (k : Nat) (o : Operations) : Prop where
  cancelled : k ∈ o.service.cancelled
  running : ∀ r ∈ o.running, r.1 ≠ k
  stopped : o.stopped = []

theorem dead_step {t : OperationsHandler} (h : Dead k t.pre)
    (hstep : (operations U mem).step t.pre t.event = some (t.post, t.outs)) :
    Dead k t.post := by
  obtain ⟨-, hrunning, hstopped⟩ := operations_next hstep
  refine ⟨step_cancelled (operations_step.mp hstep).2.1 h.cancelled, fun r hr => ?_,
    hstopped.trans h.stopped⟩
  rw [hrunning] at hr
  rcases List.mem_append.mp hr with hr | hr
  · exact h.running r hr
  · rintro rfl
    exact (started_leaves hstep hr).2 h.cancelled

/-- There is no message about an operation that does not run and was not stopped. -/
theorem no_answer {t : OperationsHandler}
    (hstep : (operations U mem).step t.pre t.event = some (t.post, t.outs))
    (hrunning : ∀ r ∈ t.pre.running, r.1 ≠ k) (hstopped : t.pre.stopped = []) :
    t.event.signal ≠ some k := by
  intro hsig
  unfold SystemEvent.signal at hsig
  split at hsig
  · cases hsig
  · next j msg clk he =>
      cases hsig
      have hallows := (operations_step.mp hstep).1
      rw [he] at hallows
      rcases hallows with ⟨r, hr, hk, -⟩ | ⟨hmem, -⟩
      · exact hrunning r hr hk
      · rw [hstopped] at hmem
        cases hmem

/-- So nothing is reported of it. -/
theorem not_reported {t : OperationsHandler} (s : SessionId)
    (h : t.event.signal ≠ some k) :
    reportsCanceled s k t = false ∧ reportsProgress k t = false := by
  unfold reportsCanceled reportsProgress
  cases he : t.event with
  | own e => exact ⟨rfl, rfl⟩
  | answer j msg clk =>
      have hj : (j == k) = false := by
        rw [beq_eq_false_iff_ne]
        rintro rfl
        exact h (by rw [he]; rfl)
      simp [hj]

end Run

/-! ## A call of `cancel()` -/

section Call

variable {U : Util} {mem : Memory} {hw : HwModule} {now : Int} {o : Operations}
  {before after : List OperationsHandler} {t : OperationsHandler} {k : Nat} {s : SessionId}

/-- What is said of the cancellation, before the call and over the whole run. -/
theorem count_canceled
    (hrun : (operations U mem).Run (.boot mem hw now) (before ++ t :: after) o)
    (ht : t.event = .own (.cancel k)) (hs : t.pre.askers[k]? = some s) :
    (putOutFor k before).countP (Output.isError s .CANCELED) =
        before.countP (saysCanceled s k) ∧
      (putOutFor k (before ++ t :: after)).countP (Output.isError s .CANCELED) =
        before.countP (saysCanceled s k) + after.countP (saysCanceled s k) := by
  obtain ⟨-, hstep, hafter⟩ := hrun.at_step
  have hcanceled := canceled_of_mem hrun (askers_run hafter (askers_step hstep hs))
  have hnone : ¬ saysCanceled s k t = true := by
    simp [saysCanceled, findsCancelled, reportsCanceled, leaves, popped, serviceStep, ht,
      SystemEvent.event]
  unfold putOutFor
  constructor
  · exact countP_trace_filter concerns_of_saysCanceled
      fun u hu => hcanceled u (List.mem_append_left _ hu)
  · rw [countP_trace_filter concerns_of_saysCanceled hcanceled, List.countP_append,
      List.countP_cons, if_neg hnone]
    rfl

/-- No success is told after the call when no message reports one. -/
theorem silent_iff
    (hrun : (operations U mem).Run (.boot mem hw now) (before ++ t :: after) o) :
    (∀ out ∈ putOutFor k after, out.isProgress = false) ↔
      ∀ u ∈ after, reportsProgress k u = false := by
  have hprogress : ∀ u ∈ after, concerns k u = true →
      ((∃ out ∈ u.outs, out.isProgress = true) ↔ reportsProgress k u = true) := by
    intro u hu hc
    have hin : u ∈ before ++ t :: after :=
      List.mem_append_right _ (List.mem_cons_of_mem t hu)
    obtain ⟨as, bs, -, hupto, hstep, -⟩ := hrun.at_mem hin
    exact progress_step hstep (tracked_run hupto) hc
  unfold putOutFor
  constructor
  · intro h u hu
    by_contra hne
    have hp : reportsProgress k u = true := by simpa using hne
    have hc : concerns k u = true := by
      unfold reportsProgress at hp
      split at hp
      · cases hp
      · next j msg clk he =>
          have hj : j = k := beq_iff_eq.mp (Bool.and_eq_true_iff.mp hp).1
          simp [concerns, SystemEvent.signal, he, hj]
    obtain ⟨out, hout, hout'⟩ := (hprogress u hu hc).mpr hp
    have hmem : out ∈ trace (after.filter (concerns k)) :=
      List.mem_flatMap.mpr ⟨u, List.mem_filter.mpr ⟨hu, hc⟩, hout⟩
    rw [h out hmem] at hout'
    cases hout'
  · intro h out hout
    obtain ⟨u, hu, hmem⟩ := List.mem_flatMap.mp hout
    obtain ⟨hu, hc⟩ := List.mem_filter.mp hu
    by_contra hne
    have hp := (hprogress u hu hc).mp ⟨out, hmem, by simpa using hne⟩
    rw [h u hu] at hp
    cases hp

/-- The task of an operation is run after the call as often as it waits at the call. -/
theorem runs_after
    (hrun : (operations U mem).Run (.boot mem hw now) (before ++ t :: after) o)
    (ht : t.event = .own (.cancel k)) (hs : t.pre.askers[k]? = some s)
    (hdone : k ∉ o.service.awaited) :
    (t.pre.service.awaited).count k = after.countP fun u => leaves u == some k := by
  obtain ⟨hbefore, hstep, hafter⟩ := hrun.at_step
  have hserv := (operations_step.mp hstep).2.1
  rw [ht] at hserv
  obtain ⟨hpost, -⟩ := cancel_frame hserv
  have hawaited : t.post.service.awaited = t.pre.service.awaited := by
    rw [hpost]
    rfl
  have hbound : k < t.post.service.signals := by
    have hlt := (List.getElem?_eq_some_iff.mp hs).1
    have hlen := (tracked_run hbefore).length
    rw [hpost]
    show k < t.pre.service.signals
    omega
  have hfresh := (operations_fresh U mem).count (operations_fifo U mem) hafter hbound
  rw [List.count_eq_zero.mpr hdone, Nat.add_zero, hawaited] at hfresh
  rw [countP_leaves]
  exact hfresh

/-- A call that finds no task waiting is honoured if the module gives up by itself. -/
theorem honoured_of_not_waiting
    (hrun : (operations U mem).Run (.boot mem hw now) (before ++ t :: after) o)
    (ht : t.event = .own (.cancel k)) (hs : t.pre.askers[k]? = some s)
    (hopen : ∀ out ∈ putOutFor k before, out.isTerminal s = false)
    (hdone : k ∉ o.service.awaited) (hk : k ∉ t.pre.service.awaited) :
    Honoured s k before t after ↔ GivesUp s k after := by
  obtain ⟨hsaid, hcount⟩ := count_canceled hrun ht hs
  have hbefore_zero : before.countP (saysCanceled s k) = 0 := by
    rw [← hsaid, List.countP_eq_zero]
    intro out hout hc
    have hend := hopen out hout
    unfold Output.isError at hc
    split at hc
    · next cb error vendorCode =>
        have hcb : (cb == s) = false := hend
        rw [hcb] at hc
        cases hc
    · cases hc
  have hleaves : ∀ u ∈ after, ¬ (leaves u == some k) = true := by
    rw [← List.countP_eq_zero, ← runs_after hrun ht hs hdone]
    exact List.count_eq_zero.mpr hk
  have hafter : after.countP (saysCanceled s k) = after.countP (reportsCanceled s k) := by
    refine List.countP_congr fun u hu => ?_
    unfold saysCanceled findsCancelled
    rw [Bool.eq_false_iff.mpr (hleaves u hu), Bool.false_and, Bool.false_or]
  rw [hbefore_zero, hafter, Nat.zero_add] at hcount
  constructor
  · intro h
    exact ⟨hcount ▸ h.canceled, (silent_iff hrun).mp h.silent⟩
  · intro h
    exact ⟨hcount.trans h.1, (silent_iff hrun).mpr h.2⟩

/-- A task that waits at the call has not been run, and is dead after it. -/
theorem dead_of_waiting
    (hrun : (operations U mem).Run (.boot mem hw now) (before ++ t :: after) o)
    (ht : t.event = .own (.cancel k)) (hk : k ∈ t.pre.service.awaited) :
    k ∉ before.filterMap leaves ∧ ∀ u ∈ after, Dead k u.pre := by
  obtain ⟨hbefore, hstep, hafter⟩ := hrun.at_step
  have hnodup := (operations_fresh U mem).nodup (operations_fifo U mem) hbefore rfl
  have hleft : k ∉ before.filterMap leaves := fun hmem =>
    (List.nodup_append.mp hnodup).2.2 k hmem k hk rfl
  have hI := tracked_run hbefore
  have hdead : Dead k t.post := by
    obtain ⟨-, hrunning, hstopped⟩ := operations_next hstep
    have hserv := (operations_step.mp hstep).2.1
    rw [ht] at hserv
    have hstarted : startedOps t.pre.service t.event.event t.outs = [] := by
      rw [ht]
      rfl
    rw [hstarted, List.append_nil] at hrunning
    refine ⟨by rw [(cancel_frame hserv).1]; exact List.mem_cons_self, fun r hr => ?_,
      hstopped.trans hI.stopped⟩
    rw [hrunning] at hr
    rintro rfl
    exact hleft (hI.started r hr)
  refine ⟨hleft, fun u hu => ?_⟩
  obtain ⟨as, bs, -, hbetween, -⟩ := hafter.at_mem hu
  exact hbetween.state_invariant (I := Dead k) hdead
    fun o e o' outs hI hs => dead_step (t := ⟨o, e, o', outs⟩) hI hs

/-- So no message is about it, before the call or after. -/
theorem no_answer_of_waiting
    (hrun : (operations U mem).Run (.boot mem hw now) (before ++ t :: after) o)
    (ht : t.event = .own (.cancel k)) (hk : k ∈ t.pre.service.awaited) :
    (∀ u ∈ before, u.event.signal ≠ some k) ∧ ∀ u ∈ after, u.event.signal ≠ some k := by
  obtain ⟨hleft, hdead⟩ := dead_of_waiting hrun ht hk
  constructor
  · intro u hu
    obtain ⟨as, bs, hsplit, hupto, hstep, -⟩ := hrun.at_step.1.at_mem hu
    have hI := tracked_run hupto
    refine no_answer hstep (fun r hr => ?_) hI.stopped
    rintro rfl
    refine hleft ?_
    rw [hsplit, List.filterMap_append]
    exact List.mem_append_left _ (hI.started r hr)
  · intro u hu
    have hin : u ∈ before ++ t :: after :=
      List.mem_append_right _ (List.mem_cons_of_mem t hu)
    exact no_answer (hrun.step_of_mem hin) (hdead u hu).running (hdead u hu).stopped

/-- A call that finds the task waiting is honoured. -/
theorem honoured_of_waiting
    (hrun : (operations U mem).Run (.boot mem hw now) (before ++ t :: after) o)
    (ht : t.event = .own (.cancel k)) (hs : t.pre.askers[k]? = some s)
    (hdone : k ∉ o.service.awaited) (hk : k ∈ t.pre.service.awaited) :
    Honoured s k before t after := by
  obtain ⟨hleft, hdead⟩ := dead_of_waiting hrun ht hk
  obtain ⟨hbefore, hafter⟩ := no_answer_of_waiting hrun ht hk
  have hnodup := (operations_fresh U mem).nodup (operations_fifo U mem) hrun.at_step.1 rfl
  have hwaits : (t.pre.service.awaited).count k = 1 := by
    rw [(List.nodup_append.mp hnodup).2.1.count, if_pos hk]
  refine ⟨?_, (silent_iff hrun).mpr fun u hu => (not_reported s (hafter u hu)).2⟩
  have hbefore_zero : before.countP (saysCanceled s k) = 0 := by
    rw [List.countP_eq_zero]
    intro u hu hf
    unfold saysCanceled at hf
    rw [(not_reported s (hbefore u hu)).1, Bool.or_false] at hf
    have hl := beq_iff_eq.mp (Bool.and_eq_true_iff.mp hf).1
    exact hleft (List.mem_filterMap.mpr ⟨u, hu, hl⟩)
  have hafter_one : after.countP (saysCanceled s k) = 1 := by
    rw [← hwaits, runs_after hrun ht hs hdone]
    refine List.countP_congr fun u hu => ?_
    unfold saysCanceled
    rw [(not_reported s (hafter u hu)).1, Bool.or_false]
    simp [findsCancelled, (hdead u hu).cancelled]
  rw [(count_canceled hrun ht hs).2, hbefore_zero, hafter_one]

end Call

/-- **When a cancellation is honoured.** In every run of the service with its vendor
    module: `cancel()` is called, in the step `t`, on the signal of an operation of `s` that
    `s` has not been told the end of, and by the end of the run its task does not wait
    any more. Then the call is honoured exactly when the task was waiting at the call, or
    the vendor module happens to give the operation up by itself. -/
theorem cancel_honoured_iff {U : Util} {mem : Memory} {hw : HwModule} {now : Int}
    {o : Operations} {before after : List OperationsHandler} {t : OperationsHandler}
    {k : Nat} {s : SessionId}
    (hrun : (operations U mem).Run (.boot mem hw now) (before ++ t :: after) o)
    (ht : t.event = .own (.cancel k)) (hs : t.pre.askers[k]? = some s)
    (hopen : ∀ out ∈ putOutFor k before, out.isTerminal s = false)
    (hdone : k ∉ o.service.awaited) :
    Honoured s k before t after ↔ k ∈ t.pre.service.awaited ∨ GivesUp s k after := by
  by_cases hk : k ∈ t.pre.service.awaited
  · exact iff_of_true (honoured_of_waiting hrun ht hs hdone hk) (Or.inl hk)
  · rw [honoured_of_not_waiting hrun ht hs hopen hdone hk]
    exact (or_iff_right hk).symm

/-- A client asks for an `enroll`. -/
def enrollAsked : List SystemEvent :=
  [.own (.createSession 0 10 0), .own (.request 0 (.enroll .default))]

/-- And calls `cancel()` on its signal after the events `es`. -/
def cancelledAfter (es : List SystemEvent) : OperationsHandler :=
  let M := operations .millis .zeroed
  let o := M.final (.boot .zeroed .working 0) es
  ⟨o, .own (.cancel 0), M.final o [.own (.cancel 0)], []⟩

theorem cancel_honoured_waiting :
    let M := operations .millis .zeroed
    let t := cancelledAfter enrollAsked
    Honoured 0 0 (M.steps (.boot .zeroed .working 0) enrollAsked) t
      (M.steps t.post [.own (workAt 1)]) :=
  (@cancel_honoured_iff .millis .zeroed .working 0 _ _ _ _ _ _
    ((Machine.run_steps (by decide +kernel)).append
      (Machine.Run.cons (by decide +kernel) (Machine.run_steps (by decide +kernel))))
    rfl (by decide +kernel) (by decide +kernel) (by decide +kernel)).mpr
      (Or.inl (by decide +kernel))

/-- The vendor module has started the `enroll` when `cancel()` is called: the session is
    not told that it is cancelled, and is told of progress. -/
theorem started_enroll_goes_on :
    let M := operations .millis .zeroed
    let o₀ := Operations.boot .zeroed .working 0
    let before := M.steps o₀ (enrollAsked ++ [.own (workAt 1)])
    let t := cancelledAfter (enrollAsked ++ [.own (workAt 1)])
    let es : List SystemEvent := [.answer 0 (.FINGERPRINT_TEMPLATE_ENROLLING 1 0) (.still 2)]
    let after := M.steps t.post es
    M.Run o₀ (before ++ t :: after) (M.final t.post es) ∧
      t.pre.askers[0]? = some 0 ∧
      (∀ out ∈ putOutFor 0 before, out.isTerminal 0 = false) ∧
      0 ∉ (M.final t.post es).service.awaited ∧
      Output.callback 0 (.onEnrollmentProgress 1 0) ∈ putOutFor 0 after ∧
      (putOutFor 0 (before ++ t :: after)).countP (Output.isError 0 .CANCELED) = 0 ∧
      ¬ Honoured 0 0 before t after := by
  refine ⟨(Machine.run_steps (by decide +kernel)).append
      (Machine.Run.cons (by decide +kernel) (Machine.run_steps (by decide +kernel))),
    by decide +kernel, by decide +kernel, by decide +kernel, by decide +kernel,
    by decide +kernel, fun h => ?_⟩
  have hsilent := h.silent (.callback 0 (.onEnrollmentProgress 1 0)) (by decide +kernel)
  cases hsilent

end FingerprintHal
