/-
  From the requests to the device, in order.

  What the vendor module is asked to do for the clients is what they asked for: the calls
  of their operations reach the device in the order in which the requests were accepted,
  each of them once at most and with the arguments of its request, and there are no others
  (`operations_in_order`). A call is missing when the future of the operation was ready
  before its task ran, since the client had cancelled it or let go of its signal, and when
  the task has none to make.
-/
import FingerprintHal.Session.Queue

namespace FingerprintHal

open Lib

/-- The calls that belong to the operations of clients. -/
def DeviceCall.isOperation : DeviceCall → Bool
  | .generateChallenge => true
  | .revokeChallenge _ _ => true
  | .enroll _ _ => true
  | .authenticate _ _ => true
  | .enumerate _ => true
  | .remove _ _ => true
  | .getAuthenticatorId => true
  | .invalidateAuthenticatorId => true
  | _ => false

def Output.operation : Output → Option DeviceCall
  | .device _ c => if c.isOperation then some c else none
  | _ => none

/-- The call a task makes, unless its future is among those that are ready. -/
def TaskBody.call (inp : TaskInputs) (cancelled : List Nat) (body : TaskBody) :
    Option DeviceCall :=
  match body.signal with
  | some k => if k ∈ cancelled then none else body.deviceCall inp
  | none => body.deviceCall inp

/-- The call a task makes when it is run in a step. -/
def Task.callAt (task : Task) (u : Handler) : Option DeviceCall :=
  match u.event with
  | .work inp => task.body.call inp u.pre.cancelled
  | _ => none

/-! ## One step -/

theorem operation_of_isPress {dev : Nat} {c : DeviceCall} (h : c.isPress = true) :
    (Output.device dev c).operation = none := by
  cases c with
  | goodixExtCmd cmd param => rfl
  | _ => cases h

/-- Where all device calls are press commands there is no operation. -/
theorem operation_none {outs : List Output}
    (h : ∀ dev c, Output.device dev c ∈ outs → c.isPress = true) :
    outs.filterMap Output.operation = [] := by
  rw [List.filterMap_eq_nil_iff]
  intro o ho
  cases o with
  | device dev c => exact operation_of_isPress (h dev c ho)
  | _ => rfl

theorem operation_failed (cb : SessionId) (error : BitVec 32) :
    (FingerprintEngine.failed cb error).filterMap Output.operation = [] :=
  operation_none fun _ _ h => absurd h failed_no_device

/-- The call of an operation that looks at what the device returns. -/
theorem operation_cons_failed {dev : Nat} {c : DeviceCall} (hc : c.isOperation = true)
    (cb : SessionId) (error : BitVec 32) :
    (Output.device dev c :: FingerprintEngine.failed cb error).filterMap Output.operation =
      [c] := by
  have ho : (Output.device dev c).operation = some c := if_pos hc
  rw [List.filterMap_cons_some ho, operation_failed]

/-- An operation that can be cancelled. -/
theorem operation_unlessCancelled {s : SessionId} {cancel : Nat} {outs : List Output}
    {w : Fingerprint} {c : Option DeviceCall}
    (h : outs.filterMap Output.operation = c.toList) :
    (w.unlessCancelled s cancel outs).filterMap Output.operation =
      (if cancel ∈ w.cancelled then none else c).toList := by
  by_cases hc : cancel ∈ w.cancelled
  · rw [unlessCancelled_of_mem hc, if_pos hc]
    rfl
  · rw [unlessCancelled_of_not_mem hc, if_neg hc, h]

/-- The operations among the outputs of a task: its call, or none. -/
theorem run_operation (U : Util) (inp : TaskInputs) (t : Task) (w : Fingerprint) :
    (t.run U inp w).2.filterMap Output.operation =
      (t.body.call inp w.cancelled).toList := by
  obtain ⟨s, body⟩ := t
  cases body with
  | enroll hat cancel =>
      exact operation_unlessCancelled
        (c := some (.enroll (translateToLegacy hat inp.stack) inp.error))
        (operation_cons_failed rfl s inp.error)
  | authenticate operationId cancel =>
      exact operation_unlessCancelled (c := some (.authenticate operationId inp.error))
        (operation_cons_failed rfl s inp.error)
  | detectInteraction cancel =>
      exact operation_unlessCancelled (c := none)
        (operation_none fun _ _ h => absurd h detectInteractionImpl_no_device)
  | enumerateEnrollments => exact operation_cons_failed rfl s inp.error
  | resetLockout hat =>
      exact operation_none fun _ _ h => absurd h resetLockoutImpl_no_device
  | onPointerDown x y =>
      refine operation_none fun dev c h => ?_
      rcases run_device h with hp | ⟨hc, -⟩
      · exact hp
      · cases hc
  | onPointerUp => rfl
  | _ => rfl

/-- The operations among the outputs of a step: the call of the task that is popped. -/
theorem step_operation {U : Util} {mem : Memory} {u : Handler}
    (hstep : (service U mem).step u.pre u.event = some (u.post, u.outs)) :
    u.outs.filterMap Output.operation =
      ((popped u).bind fun task => task.callAt u).toList := by
  obtain ⟨w, e, w', o⟩ := u
  dsimp only at hstep ⊢
  cases e with
  | work inp =>
      obtain ⟨t, q, hi, he⟩ := step_work.mp hstep
      have ho : o = (t.run U inp { w with mWorker := q, clock := inp.clk.atTimeLeft }).2 :=
        congrArg Prod.snd he
      rw [ho, run_operation]
      simp [popped, hi, Task.callAt]
  | createSession sensorId userId error =>
      obtain ⟨-, -, -, -, rfl⟩ := step_createSession.mp hstep
      rfl
  | _ =>
      refine operation_none fun dev c h => ?_
      rcases step_device hstep h with hp | ⟨_, _, _, he⟩ | ⟨_, _, _, he, -⟩
      · exact hp
      · cases he
      · cases he

/-! ## A run -/

/-- The operations in the trace are those of the tasks that are popped. -/
theorem run_operations {U : Util} {mem : Memory} {w₀ w : Fingerprint} {ts : List Handler}
    (hrun : (service U mem).Run w₀ ts w) :
    (trace ts).filterMap Output.operation =
      ts.filterMap fun u => (popped u).bind fun task => task.callAt u := by
  induction hrun with
  | nil => rfl
  | @snoc ts w e w' o _ hstep ih =>
      rw [trace_append, List.filterMap_append, ih, filterMap_snoc]
      refine congrArg _ ?_
      rw [trace_cons, trace_nil, List.append_nil]
      exact step_operation (u := ⟨w, e, w', o⟩) hstep

/-- The tasks that are popped, each with the step that runs it. -/
theorem popped_zip (ts : List Handler) :
    (ts.filterMap popped).zip (takers popped ts) =
      ts.filterMap fun u => (popped u).map fun task => (task, u) := by
  induction ts with
  | nil => rfl
  | cons u ts ih =>
      unfold takers at ih ⊢
      cases h : popped u with
      | none => simp [h, ih]
      | some task => simp [h, ih]

/-- **From the requests to the device, in order.** From an empty queue, the accepted
    requests are the tasks that have run and those that wait, in this order, and the
    operations the device is asked for are the calls of those that have run, in this
    order. -/
theorem operations_in_order {U : Util} {mem : Memory} {w₀ w : Fingerprint}
    {ts : List Handler} (hrun : (service U mem).Run w₀ ts w)
    (hidle : w₀.mWorker.items = []) :
    ∃ ran, ts.filterMap scheduled = ran ++ w.mWorker.items ∧
      ran.length = (takers popped ts).length ∧
      (trace ts).filterMap Output.operation =
        (ran.zip (takers popped ts)).filterMap fun p => p.1.callAt p.2 := by
  refine ⟨ts.filterMap popped, ?_, ?_, ?_⟩
  · have hfifo := (service_fifo U mem).run hrun
    rw [hidle, List.nil_append] at hfifo
    exact hfifo
  · exact (length_takers popped ts).symm
  · rw [popped_zip, run_operations hrun, List.filterMap_filterMap]
    refine congrArg (fun f => ts.filterMap f) (funext fun u => ?_)
    cases popped u <;> rfl

/-- Two operations, the first of which is cancelled before its task runs. -/
theorem operations_in_order_cancelled :
    let M := service .millis .zeroed
    let es := [.createSession 0 10 0, .request 0 (.authenticate 7), .cancel 0,
      .request 0 .enumerateEnrollments, .request 0 .generateChallenge, workAt 1, workAt 2]
    ∃ ran, (M.steps .ready es).filterMap scheduled =
        ran ++ (M.final .ready es).mWorker.items ∧
      ran.length = (takers popped (M.steps .ready es)).length ∧
      (trace (M.steps .ready es)).filterMap Output.operation =
        (ran.zip (takers popped (M.steps .ready es))).filterMap fun p => p.1.callAt p.2 :=
  operations_in_order (Machine.run_steps (by decide +kernel)) rfl

end FingerprintHal
