/-
  The operations a client can cancel, and what the vendor module does about them.

  `enroll`, `authenticate` and `detectInteraction` hand out a cancellation signal, numbered
  in their order; the number names the operation. `operations` is the service with a vendor
  module that keeps the operations it has started under their numbers. It may send the
  messages documented for them, errors among them, as often and as late as it likes, until
  its `cancel` is called; then it stops them, and says that they are cancelled
  (fingerprint-xiaomi.h: cancellation must be followed with an `Error::CANCELED` message).

  A signal is in the queue at most once and is never in it again (`operations_fresh`), a
  signal whose operation runs is not in the queue, and no operation is ever stopped, since
  nothing calls `cancel` (`tracked_run`).
-/
import FingerprintHal.Session.Answers
import FingerprintHal.Session.Queue

namespace FingerprintHal

open Lib

/-! ## Signals -/

/-- The requests that hand out a cancellation signal. -/
def Request.isCancellable : Request → Bool
  | .enroll _ => true
  | .authenticate _ => true
  | .detectInteraction => true
  | .authenticateWithContext _ => true
  | .enrollWithContext _ => true
  | .detectInteractionWithContext => true
  | _ => false

/-- The session that is handed out a signal. -/
def Event.asker : Event → Option SessionId
  | .request s r => if r.isCancellable then some s else none
  | _ => none

theorem asker_request (s : SessionId) (r : Request) :
    (Event.request s r).asker = if r.isCancellable then some s else none := rfl

/-- The signals of the operations that wait in the queue. -/
def Fingerprint.awaited (w : Fingerprint) : List Nat :=
  w.mWorker.items.filterMap fun t => t.body.signal

/-! ## The vendor module -/

def Msg.isCanceled : Msg → Bool
  | .FINGERPRINT_ERROR error => (FingerprintEngine.convertError error).1 == Error.CANCELED
  | _ => false

/-- The messages an operation may bring about while nobody stops it: those documented for
    its call, and errors, of which `CANCELED` is one: the module may give up by itself. -/
def DeviceCall.reports (c : DeviceCall) : Msg → Bool
  | .FINGERPRINT_ERROR _ => true
  | msg => c.answers msg

def Output.isCancelCall : Output → Bool
  | .device _ (.cancel _) => true
  | _ => false

/-- The accepted calls among the outputs of an operation. -/
def Output.accepted (signal : Nat) : Output → Option (Nat × DeviceCall)
  | .device _ c => if c.isAccepted then some (signal, c) else none
  | _ => none

/-- The operation the vendor module starts in a step. -/
def startedOps (w : Fingerprint) (e : Event) (o : List Output) : List (Nat × DeviceCall) :=
  match e, w.mWorker.items with
  | .work _, t :: _ =>
      match t.body.signal with
      | some k => o.filterMap (Output.accepted k)
      | none => []
  | _, _ => []

/-- The service, the sessions the signals were handed out to, the operations the vendor
    module has started, and those it has stopped. -/
structure Operations where
  service : Fingerprint
  askers : List SessionId
  running : List (Nat × DeviceCall)
  stopped : List Nat
deriving DecidableEq

namespace Operations

/-- What the vendor module may send: reports of what it has started, and that what it has
    stopped is cancelled. -/
def Allows (o : Operations) : SystemEvent → Prop
  | .own _ => True
  | .answer k msg _ =>
      (∃ r ∈ o.running, r.1 = k ∧ r.2.reports msg = true) ∨
        (k ∈ o.stopped ∧ msg.isCanceled = true)

instance (o : Operations) : DecidablePred o.Allows
  | .own _ => inferInstanceAs (Decidable True)
  | .answer k msg _ => inferInstanceAs (Decidable
      ((∃ r ∈ o.running, r.1 = k ∧ r.2.reports msg = true) ∨
        (k ∈ o.stopped ∧ msg.isCanceled = true)))

/-- The operations after a step of the service with the outputs `outs`. -/
def next (o : Operations) (e : Event) (w' : Fingerprint) (outs : List Output) :
    Operations where
  service := w'
  askers := o.askers ++ e.asker.toList
  running := (if outs.any Output.isCancelCall then [] else o.running) ++
    startedOps o.service e outs
  stopped := if outs.any Output.isCancelCall then o.stopped ++ o.running.map Prod.fst
    else o.stopped

/-- The constructor of `Fingerprint`, and a module that has started nothing. -/
def boot (mem : Memory) (hw : HwModule) (now : Int) : Operations :=
  ⟨(Fingerprint.boot mem hw now).1, [], [], []⟩

end Operations

/-- The service together with a vendor module that starts and stops operations. -/
def operations (U : Util) (mem : Memory) : Machine Operations SystemEvent Output where
  step o e :=
    if o.Allows e then
      (Fingerprint.step U mem o.service e.event).map fun r => (o.next e.event r.1 r.2, r.2)
    else none

abbrev OperationsHandler := Transition Operations SystemEvent Output

/-- The step of the service in it. -/
def serviceStep (t : OperationsHandler) : Handler :=
  ⟨t.pre.service, t.event.event, t.post.service, t.outs⟩

theorem operations_step {U : Util} {mem : Memory} {t : OperationsHandler} :
    (operations U mem).step t.pre t.event = some (t.post, t.outs) ↔
      t.pre.Allows t.event ∧
      (service U mem).step t.pre.service t.event.event = some (t.post.service, t.outs) ∧
      t.post = t.pre.next t.event.event t.post.service t.outs := by
  obtain ⟨o, e, o', outs⟩ := t
  simp only [operations, service]
  rw [Option.ite_none_right_eq_some, Option.map_eq_some_iff]
  refine and_congr_right fun _ => ⟨?_, ?_⟩
  · rintro ⟨⟨w, p⟩, hs, he⟩
    obtain ⟨rfl, rfl⟩ := Prod.mk.inj he
    exact ⟨hs, rfl⟩
  · rintro ⟨hs, hnext⟩
    refine ⟨(o'.service, outs), hs, ?_⟩
    dsimp only
    rw [← hnext]

/-- Every run of it is a run of the service. -/
theorem operations_run_service {U : Util} {mem : Memory} {o₀ o : Operations}
    {ts : List OperationsHandler} (h : (operations U mem).Run o₀ ts o) :
    (service U mem).Run o₀.service
      (ts.filterMap (Machine.absStep Operations.service (fun _ e => some e.event) id))
      o.service :=
  h.simulate Operations.service (fun _ e => some e.event) id
    fun o e o' outs hs => (operations_step (t := ⟨o, e, o', outs⟩).mp hs).2.1

section Step

variable {U : Util} {mem : Memory} {t : OperationsHandler}

theorem serviceStep_step (h : (operations U mem).step t.pre t.event = some (t.post, t.outs)) :
    (service U mem).step (serviceStep t).pre (serviceStep t).event =
      some ((serviceStep t).post, (serviceStep t).outs) :=
  (operations_step.mp h).2.1

/-- No step calls the `cancel` of the vendor module. -/
theorem no_cancel_call {w w' : Fingerprint} {e : Event} {o : List Output}
    (hstep : (service U mem).step w e = some (w', o)) :
    o.any Output.isCancelCall = false := by
  rw [List.any_eq_false]
  intro out hout hc
  unfold Output.isCancelCall at hc
  split at hc
  · next dev error =>
      rcases step_device hstep hout with h | ⟨sensorId, userId, err, rfl⟩ |
        ⟨inp, t, q, -, -, h, -⟩
      · cases h
      · obtain ⟨-, -, -, -, rfl⟩ := step_createSession.mp hstep
        simp [FingerprintEngine.setActiveGroup] at hout
      · cases hb : t.body <;> rw [hb] at h <;> cases h
  · exact absurd hc (by simp)

/-- What becomes of the operations in a step. -/
theorem operations_next (h : (operations U mem).step t.pre t.event = some (t.post, t.outs)) :
    t.post.askers = t.pre.askers ++ t.event.event.asker.toList ∧
      t.post.running = t.pre.running ++
        startedOps t.pre.service t.event.event t.outs ∧
      t.post.stopped = t.pre.stopped := by
  obtain ⟨-, hstep, hnext⟩ := operations_step.mp h
  rw [hnext]
  simp only [Operations.next, no_cancel_call hstep, Bool.false_eq_true, if_false, and_self]

end Step

/-! ## Signals are fresh -/

/-- The signal of the operation a step puts into the queue. -/
def enters (t : OperationsHandler) : Option Nat :=
  (scheduled (serviceStep t)).bind fun task => task.body.signal

/-- The signal of the operation whose task a step runs. -/
def leaves (t : OperationsHandler) : Option Nat :=
  (popped (serviceStep t)).bind fun task => task.body.signal

theorem call_signals (s : SessionId) (r : Request) (w : Fingerprint) :
    (Session.call s w r).signals = w.signals + (if r.isCancellable then 1 else 0) := by
  cases r <;> rfl

/-- Signals are handed out by requests only. -/
theorem step_signals {U : Util} {mem : Memory} {w w' : Fingerprint} {e : Event}
    {o : List Output} (hstep : (service U mem).step w e = some (w', o)) :
    w'.signals = w.signals + e.asker.toList.length := by
  cases e with
  | request s r =>
      rw [(Prod.mk.inj (step_request.mp hstep).2).1, call_signals, asker_request]
      cases r.isCancellable <;> rfl
  | _ => exact (queue_frame hstep rfl).1

/-- The task of a cancellable request carries the next signal. -/
theorem added_signal {s : SessionId} {r : Request} {w : Fingerprint} {task : Task}
    (h : w.added s r = some task) {k : Nat} (hk : task.body.signal = some k) :
    k = w.signals ∧ task.session = s ∧ r.isCancellable = true := by
  obtain ⟨body, hb, hif⟩ := Option.bind_eq_some_iff.mp h
  split at hif
  · cases hif
    cases r <;> cases hb <;> cases hk <;> exact ⟨rfl, rfl, rfl⟩
  · cases hif

theorem scheduled_signal {u : Handler} {task : Task} (h : scheduled u = some task) {k : Nat}
    (hk : task.body.signal = some k) :
    k = u.pre.signals ∧ u.event.asker = some task.session := by
  unfold scheduled at h
  split at h
  · next s r he =>
      obtain ⟨hsig, hs, hr⟩ := added_signal h hk
      refine ⟨hsig, ?_⟩
      rw [he, hs, asker_request, if_pos hr]
  · cases h

section Laws

variable (U : Util) (mem : Memory)

theorem operations_fifo :
    FifoLaw (operations U mem) (fun o => o.service.awaited) enters leaves where
  step t hstep := by
    have hlaw := (service_fifo U mem).step (serviceStep t) (serviceStep_step hstep)
    have hsig := congrArg (List.filterMap fun task : Task => task.body.signal) hlaw
    rw [List.filterMap_append, List.filterMap_append] at hsig
    have hopt : ∀ a : Option Task, (a.toList.filterMap fun task => task.body.signal) =
        (a.bind fun task => task.body.signal).toList := by
      intro a
      cases a with
      | none => rfl
      | some task =>
          rw [Option.toList_some, List.filterMap_cons, List.filterMap_nil, Option.bind_some]
          cases task.body.signal <;> rfl
    rw [hopt, hopt] at hsig
    exact hsig

/-- A signal is handed out once. -/
theorem operations_fresh : FreshLaw (operations U mem) (fun o => o.service.signals) enters where
  mono t hstep := by
    have hs := step_signals (operations_step.mp hstep).2.1
    show t.pre.service.signals ≤ t.post.service.signals
    omega
  fresh t hstep k hk := by
    obtain ⟨task, htask, hsig⟩ := Option.bind_eq_some_iff.mp hk
    obtain ⟨hk, hasker⟩ := scheduled_signal htask hsig
    have hs := step_signals (operations_step.mp hstep).2.1
    have ha : t.event.event.asker = some task.session := hasker
    rw [ha, Option.toList_some, List.length_singleton] at hs
    exact ⟨hk, by omega⟩

end Laws

/-! ## What is known of a signal -/

/-- A task in the queue was there before the step, or is scheduled by it. -/
theorem mem_items_after {U : Util} {mem : Memory} {u : Handler}
    (hstep : (service U mem).step u.pre u.event = some (u.post, u.outs)) {task : Task}
    (h : task ∈ u.post.mWorker.items) :
    task ∈ u.pre.mWorker.items ∨ scheduled u = some task := by
  have hlaw := (service_fifo U mem).step u hstep
  have hmem : task ∈ (popped u).toList ++ u.post.mWorker.items := List.mem_append_right _ h
  rw [← hlaw] at hmem
  rcases List.mem_append.mp hmem with h | h
  · exact Or.inl h
  · exact Or.inr (Option.mem_toList.mp h)

theorem not_accepted_of_isPress {c : DeviceCall} (h : c.isPress = true) :
    c.isAccepted = false := by
  cases c with
  | goodixExtCmd cmd param => rfl
  | _ => cases h

/-- An operation is started by the step that runs its task, when it is not cancelled. -/
theorem started_leaves {U : Util} {mem : Memory} {t : OperationsHandler}
    (hstep : (operations U mem).step t.pre t.event = some (t.post, t.outs))
    {r : Nat × DeviceCall} (h : r ∈ startedOps t.pre.service t.event.event t.outs) :
    leaves t = some r.1 ∧ r.1 ∉ t.pre.service.cancelled := by
  obtain ⟨o, e, o', outs⟩ := t
  unfold startedOps at h
  dsimp only at h
  split at h
  · next inp task q he hi =>
      split at h
      · next k hk =>
          obtain ⟨out, hout, hacc⟩ := List.mem_filterMap.mp h
          unfold Output.accepted at hacc
          split at hacc
          · next dev c =>
              split at hacc
              · next hc =>
                  cases hacc
                  have hleaves : leaves ⟨o, e, o', outs⟩ = some k := by
                    simp [leaves, popped, serviceStep, he, hi, hk]
                  refine ⟨hleaves, ?_⟩
                  rcases step_device (serviceStep_step hstep) hout with hp | ⟨_, _, _, he'⟩ |
                    ⟨inp', task', q', -, hi', -, hsig⟩
                  · rw [not_accepted_of_isPress hp] at hc
                    cases hc
                  · exact absurd (he.symm.trans he') (by simp)
                  · have hi'' : o.service.mWorker.items = task' :: q' := hi'
                    obtain ⟨rfl, -⟩ := List.cons.inj (hi.symm.trans hi'')
                    exact hsig k hk
              · cases hacc
          · cases hacc
      · cases h
  · cases h

/-- Every signal has its asker, a task in the queue is of the session that asked, what
    runs has left the queue, and nothing has been stopped. -/
structure Tracked (us : List OperationsHandler) (o : Operations) : Prop where
  length : o.askers.length = o.service.signals
  owner : ∀ task ∈ o.service.mWorker.items, ∀ k ∈ task.body.signal,
    o.askers[k]? = some task.session
  started : ∀ r ∈ o.running, r.1 ∈ us.filterMap leaves
  stopped : o.stopped = []

theorem tracked_boot {mem : Memory} {hw : HwModule} {now : Int} :
    Tracked [] (Operations.boot mem hw now) where
  length := rfl
  owner task h := by cases h
  started r h := by cases h
  stopped := rfl

/-- Askers are only added. -/
theorem askers_step {U : Util} {mem : Memory} {t : OperationsHandler}
    (hstep : (operations U mem).step t.pre t.event = some (t.post, t.outs)) {k : Nat}
    {s : SessionId} (h : t.pre.askers[k]? = some s) : t.post.askers[k]? = some s := by
  rw [(operations_next hstep).1,
    List.getElem?_append_left (List.getElem?_eq_some_iff.mp h).1]
  exact h

theorem askers_run {U : Util} {mem : Memory} {o₀ o : Operations}
    {ts : List OperationsHandler} (hrun : (operations U mem).Run o₀ ts o) {k : Nat}
    {s : SessionId} (h : o₀.askers[k]? = some s) : o.askers[k]? = some s :=
  hrun.state_invariant (I := fun o => o.askers[k]? = some s) h
    fun o e o' outs hI hs => askers_step (t := ⟨o, e, o', outs⟩) hs hI

theorem tracked_step {U : Util} {mem : Memory} {us : List OperationsHandler}
    {t : OperationsHandler} (h : Tracked us t.pre)
    (hstep : (operations U mem).step t.pre t.event = some (t.post, t.outs)) :
    Tracked (us ++ [t]) t.post := by
  obtain ⟨haskers, hrunning, hstopped⟩ := operations_next hstep
  have hsignals := step_signals (operations_step.mp hstep).2.1
  refine ⟨?_, fun task htask k hk => ?_, fun r hr => ?_, hstopped.trans h.stopped⟩
  · rw [haskers, List.length_append, hsignals, h.length]
  · rcases mem_items_after (serviceStep_step hstep) htask with hold | hnew
    · exact askers_step hstep (h.owner task hold k hk)
    · -- the signal that has just been handed out
      obtain ⟨hsig, hasker⟩ := scheduled_signal hnew hk
      have hk' : k = t.pre.askers.length := hsig.trans h.length.symm
      have ha : t.event.event.asker = some task.session := hasker
      rw [haskers, ha, hk']
      simp
  · rw [hrunning] at hr
    rw [filterMap_snoc]
    rcases List.mem_append.mp hr with hr | hr
    · exact List.mem_append_left _ (h.started r hr)
    · rw [(started_leaves hstep hr).1]
      exact List.mem_append_right _ (List.mem_singleton.mpr rfl)

theorem tracked_run {U : Util} {mem : Memory} {hw : HwModule} {now : Int} {o : Operations}
    {us : List OperationsHandler}
    (hrun : (operations U mem).Run (.boot mem hw now) us o) : Tracked us o :=
  hrun.invariant (C := fun _ _ => True) (I := Tracked) (fun _ _ _ _ => trivial) tracked_boot
    fun _ _ hI _ hs => tracked_step hI hs

end FingerprintHal
