/-
  Which requests vanish.

  A client is told that its request is accepted before anybody looks whether the queue has
  taken it. From then on a request is served by its task: by a device call that reports no
  error, or by a callback that ends it. Three kinds of requests get neither: those that
  find the queue full, a `revokeChallenge` the device refuses (that is only logged), and a
  `detectInteraction` on a device that is configured to support it (nothing is done).
  Every other request is served; one of the last two kinds is when the vendor module ends
  it by a message all the same (`served_iff`).

  The task of a request is found by its place in the queue: with `n` tasks before it, it is
  the `n`-th one that is popped from then on (`turn`, `FifoLaw.turn`).
-/
import FingerprintHal.Session.Answers
import FingerprintHal.Session.Queue

namespace FingerprintHal

open Lib

/-! ## Requests that are served -/

/-- The operations a client waits for. -/
def TaskBody.isOperation : TaskBody → Bool
  | .onPointerDown _ _ => false
  | .onPointerUp => false
  | .onUiReady => false
  | _ => true

/-- The requests that are made into one. -/
def Request.isOperation : Request → Bool
  | .onPointerDown _ _ _ => false
  | .onPointerUp _ => false
  | .onUiReady => false
  | .onPointerDownWithContext _ => false
  | .onPointerUpWithContext _ => false
  | .onContextChanged => false
  | .onPointerCancelWithContext _ => false
  | .setIgnoreDisplayTouches _ => false
  | _ => true

theorem body_of_operation {r : Request} (h : r.isOperation = true) (signal : Nat) :
    ∃ body, r.body signal = some body ∧ body.isOperation = true := by
  cases r with
  | onPointerDown pointerId x y => cases h
  | onPointerUp pointerId => cases h
  | onUiReady => cases h
  | onPointerDownWithContext context => cases h
  | onPointerUpWithContext context => cases h
  | onContextChanged => cases h
  | onPointerCancelWithContext context => cases h
  | setIgnoreDisplayTouches shouldIgnore => cases h
  | _ => exact ⟨_, rfl, rfl⟩

/-- The callbacks that end an operation, as documented for it in fingerprint-xiaomi.h. -/
def TaskBody.endedBy : TaskBody → Callback → Bool
  | _, .onError _ _ => true
  | .generateChallenge, .onChallengeGenerated _ => true
  | .revokeChallenge _, .onChallengeRevoked _ => true
  | .enroll _ _, .onEnrollmentProgress _ remaining => remaining == 0
  | .authenticate _ _, .onAuthenticationSucceeded _ _ => true
  | .enumerateEnrollments, .onEnrollmentsEnumerated _ => true
  | .removeEnrollments _, .onEnrollmentsRemoved _ => true
  | .getAuthenticatorId, .onAuthenticatorIdRetrieved _ => true
  | .invalidateAuthenticatorId, .onAuthenticatorIdInvalidated _ => true
  | .resetLockout _, .onLockoutCleared => true
  | _, _ => false

/-- The session of the task is told the end of its operation. -/
def Output.ends (task : Task) : Output → Bool
  | .callback cb c => cb == task.session && task.body.endedBy c
  | _ => false

/-- An output that serves the task which puts it out: the device has accepted the call, or
    the session of the task is told the end. -/
def Output.serves (task : Task) : Output → Bool
  | .device _ c => c.isAccepted
  | o => o.ends task

/-- The session of a task is told a callback that ends it. -/
theorem ends_callback {s : SessionId} {body : TaskBody} {c : Callback}
    (h : body.endedBy c = true) : (Output.callback s c).ends ⟨s, body⟩ = true :=
  Bool.and_eq_true_iff.mpr ⟨beq_self_eq_true s, h⟩

/-- The step that runs the task of the request `t`: the queue held as many tasks then as
    are popped before it in `vs`. -/
def turn (t : Handler) (vs : List Handler) : Option Handler :=
  (takers popped vs)[t.pre.mWorker.items.length]?

/-- The step that serves the request `t`, if it has been scheduled. -/
def servedBy (t : Handler) (vs : List Handler) : Option Handler :=
  (scheduled t).bind fun _ => turn t vs

/-- The steps after the one that runs the task of the request `t`. -/
def afterTurn (t : Handler) (vs : List Handler) : List Handler :=
  (fromTaker popped t.pre.mWorker.items.length vs).tail

theorem afterTurn_suffix {t u : Handler} {vs : List Handler} (h : turn t vs = some u) :
    u :: afterTurn t vs <:+ vs := by
  have hhead := (head?_fromTaker popped t.pre.mWorker.items.length vs).trans h
  unfold afterTurn
  rw [List.cons_head?_tail hhead]
  exact fromTaker_suffix popped _ vs

def Event.isMessage : Event → Bool
  | .message _ _ => true
  | _ => false

/-- A message of the vendor module that tells the session of the task the end. -/
def EndsTask (task : Task) (v : Handler) : Prop :=
  v.event.isMessage = true ∧ ∃ o ∈ v.outs, o.ends task = true

instance (task : Task) : DecidablePred (EndsTask task) :=
  fun v => inferInstanceAs
    (Decidable (v.event.isMessage = true ∧ ∃ o ∈ v.outs, o.ends task = true))

/-- The request `t` has been scheduled, and it is served: by the step among the later ones
    `vs` that runs its task, or by a message that comes after that. -/
def Served (t : Handler) (vs : List Handler) : Prop :=
  ∃ task ∈ scheduled t, (∃ u ∈ turn t vs, ∃ o ∈ u.outs, o.serves task = true) ∨
    ∃ v ∈ afterTurn t vs, EndsTask task v

instance (t : Handler) : DecidablePred (Served t) :=
  fun vs => inferInstanceAs (Decidable
    (∃ task ∈ scheduled t, (∃ u ∈ turn t vs, ∃ o ∈ u.outs, o.serves task = true) ∨
      ∃ v ∈ afterTurn t vs, EndsTask task v))

/-! ## What decides it -/

/-- The task does nothing that anybody hears of: a `revokeChallenge` the device refuses, a
    `detectInteraction` that is neither cancelled nor unsupported. -/
def TaskBody.vanishes (inp : TaskInputs) (cancelled : List Nat) : TaskBody → Bool
  | .revokeChallenge _ => inp.error != 0
  | .detectInteraction cancel =>
      inp.detect_interaction && !decide (cancel ∈ cancelled)
  | _ => false

/-- The step runs a task that vanishes. -/
def vanishesAt (u : Handler) : Bool :=
  match u.event, popped u with
  | .work inp, some task => task.body.vanishes inp u.pre.cancelled
  | _, _ => false

/-- A message comes while the session of the task is open, and is handed on as the end of
    its operation. -/
def bringsEnd (task : Task) (v : Handler) : Bool :=
  match v.event with
  | .message msg _ =>
      v.pre.openSession == some task.session &&
        (msg.handedOn v.pre.enrollments).any task.body.endedBy
  | _ => false

/-! ## A task -/

section Task

variable {U : Util} {inp : TaskInputs} {w : Fingerprint} {s : SessionId} {body : TaskBody}

/-- The call and the answer of an operation that looks at what the device returns. -/
theorem serves_failed {dev : Nat} {c : DeviceCall} {error : BitVec 32}
    (hc : c.isAccepted = (error == 0))
    (hb : ∀ e vendorCode, body.endedBy (.onError e vendorCode) = true) :
    ∃ o ∈ Output.device dev c :: FingerprintEngine.failed s error,
      o.serves ⟨s, body⟩ = true := by
  by_cases he : error = 0
  · refine ⟨.device dev c, List.mem_cons_self, ?_⟩
    rw [he] at hc
    exact hc
  · refine ⟨.callback s (.onError Error.UNABLE_TO_PROCESS error), ?_, ?_⟩
    · unfold FingerprintEngine.failed
      rw [if_pos he]
      exact List.mem_cons_of_mem _ (List.mem_singleton.mpr rfl)
    · exact ends_callback (hb _ _)

/-- A cancelled operation is told so, another one is served as `outs` serve it. -/
theorem serves_unlessCancelled {cancel : Nat} {outs : List Output}
    (hb : ∀ e vendorCode, body.endedBy (.onError e vendorCode) = true) :
    (∃ o ∈ w.unlessCancelled s cancel outs, o.serves ⟨s, body⟩ = true) ↔
      cancel ∈ w.cancelled ∨ ∃ o ∈ outs, o.serves ⟨s, body⟩ = true := by
  by_cases hc : cancel ∈ w.cancelled
  · rw [unlessCancelled_of_mem hc]
    exact iff_of_true ⟨_, List.mem_singleton.mpr rfl, ends_callback (hb _ _)⟩ (Or.inl hc)
  · rw [unlessCancelled_of_not_mem hc]
    simp only [hc, false_or]

/-- A `detectInteraction` is answered on a device that does not support it. -/
theorem serves_detectInteractionImpl {cancel : Nat} {supported : Bool} :
    (∃ o ∈ FingerprintEngine.detectInteractionImpl s supported,
      o.serves ⟨s, .detectInteraction cancel⟩ = true) ↔ supported = false := by
  cases supported with
  | true => exact iff_of_false (fun h => by obtain ⟨o, ho, -⟩ := h; cases ho) (by simp)
  | false => exact iff_of_true ⟨_, List.mem_singleton.mpr rfl, ends_callback rfl⟩ rfl

/-- A `resetLockout` is answered in any case. -/
theorem serves_resetLockoutImpl {hat : HardwareAuthToken} {l : LockoutControl} :
    ∃ o ∈ (l.resetLockoutImpl s hat).2, o.serves ⟨s, .resetLockout hat⟩ = true := by
  unfold LockoutControl.resetLockoutImpl
  split
  · exact ⟨_, List.mem_singleton.mpr rfl, ends_callback rfl⟩
  · exact ⟨_, List.mem_singleton.mpr rfl, ends_callback rfl⟩

/-- An operation is served by its task, unless it vanishes. -/
theorem run_serves_iff (hop : body.isOperation = true) :
    (∃ o ∈ ((Task.mk s body).run U inp w).2, o.serves ⟨s, body⟩ = true) ↔
      body.vanishes inp w.cancelled = false := by
  cases body with
  | revokeChallenge challenge =>
      have hv : (TaskBody.revokeChallenge challenge).vanishes inp w.cancelled =
        !(inp.error == 0) := rfl
      rw [hv, Bool.not_eq_false']
      constructor
      · intro h
        obtain ⟨o, ho, hs⟩ := h
        rw [List.mem_singleton.mp ho] at hs
        exact hs
      · intro h
        exact ⟨_, List.mem_singleton.mpr rfl, h⟩
  | detectInteraction cancel =>
      have hv : (TaskBody.detectInteraction cancel).vanishes inp w.cancelled =
        (inp.detect_interaction && !decide (cancel ∈ w.cancelled)) := rfl
      have hs := @serves_unlessCancelled w s (.detectInteraction cancel) cancel
        (FingerprintEngine.detectInteractionImpl s inp.detect_interaction) fun _ _ => rfl
      rw [serves_detectInteractionImpl] at hs
      refine hs.trans ?_
      rw [hv, Bool.and_eq_false_iff, Bool.not_eq_false', decide_eq_true_eq, or_comm]
  | enroll hat cancel =>
      refine iff_of_true ?_ rfl
      exact (serves_unlessCancelled fun _ _ => rfl).mpr
        (Or.inr (serves_failed rfl fun _ _ => rfl))
  | authenticate operationId cancel =>
      refine iff_of_true ?_ rfl
      exact (serves_unlessCancelled fun _ _ => rfl).mpr
        (Or.inr (serves_failed rfl fun _ _ => rfl))
  | enumerateEnrollments =>
      exact iff_of_true (serves_failed rfl fun _ _ => rfl) rfl
  | resetLockout hat => exact iff_of_true serves_resetLockoutImpl rfl
  | onPointerDown x y => cases hop
  | onPointerUp => cases hop
  | onUiReady => cases hop
  | _ => exact iff_of_true ⟨_, List.mem_singleton.mpr rfl, rfl⟩ rfl

end Task

/-! ## A run -/

section Run

variable {U : Util} {mem : Memory}

/-- The step that pops an operation serves it, unless it vanishes. -/
theorem popped_serves_iff {u : Handler}
    (hstep : (service U mem).step u.pre u.event = some (u.post, u.outs)) {s : SessionId}
    {body : TaskBody} (h : popped u = some ⟨s, body⟩) (hop : body.isOperation = true) :
    (∃ o ∈ u.outs, o.serves ⟨s, body⟩ = true) ↔ vanishesAt u = false := by
  obtain ⟨inp, w, he, -, hc, -, ho⟩ := popped_eq_some hstep h
  have hv : vanishesAt u = body.vanishes inp u.pre.cancelled := by
    unfold vanishesAt
    rw [he, h]
  rw [ho, hv, ← hc]
  exact run_serves_iff hop

/-- A task that is scheduled stands at the end of the queue. -/
theorem place_of_scheduled {t : Handler}
    (hstep : (service U mem).step t.pre t.event = some (t.post, t.outs)) {task : Task}
    (h : scheduled t = some task) :
    t.post.mWorker.items[t.pre.mWorker.items.length]? = some task := by
  have hlaw := (service_fifo U mem).step t hstep
  have hpop : popped t = none := by
    unfold scheduled at h
    unfold popped
    split at h
    · next he => rw [he]
    · cases h
  rw [h, hpop, Option.toList_some, Option.toList_none, List.nil_append] at hlaw
  rw [← hlaw]
  simp

/-- It is popped at its turn, once the queue is empty. -/
theorem turn_of_scheduled {t : Handler} {vs : List Handler} {w : Fingerprint}
    (hstep : (service U mem).step t.pre t.event = some (t.post, t.outs))
    (hrun : (service U mem).Run t.post vs w) (hidle : w.mWorker.items = []) {task : Task}
    (h : scheduled t = some task) :
    ∃ u, turn t vs = some u ∧ popped u = some task ∧ u ∈ vs := by
  obtain ⟨u, hu, hpopped⟩ :=
    (service_fifo U mem).turn hrun hidle (place_of_scheduled hstep h)
  have hmem : u ∈ takers popped vs := List.mem_of_getElem? hu
  exact ⟨u, hu, hpopped, (List.mem_filter.mp hmem).1⟩

/-- And nothing else is. -/
theorem popped_at_turn {t u : Handler} {vs : List Handler} {w : Fingerprint}
    (hstep : (service U mem).step t.pre t.event = some (t.post, t.outs))
    (hrun : (service U mem).Run t.post vs w) {task : Task} (h : scheduled t = some task)
    (hu : turn t vs = some u) : popped u = some task ∧ u ∈ vs := by
  have hmem : u ∈ takers popped vs := List.mem_of_getElem? hu
  exact ⟨(service_fifo U mem).at_turn hrun (place_of_scheduled hstep h) hu,
    (List.mem_filter.mp hmem).1⟩

/-- A lockout is the end of no operation. -/
theorem not_endedBy_of_fromCheck {body : TaskBody} {c : Callback} (h : c.FromCheck) :
    body.endedBy c = false := by
  cases c with
  | onLockoutTimed durationMillis => cases body <;> rfl
  | onLockoutPermanent => cases body <;> rfl
  | _ => cases h

/-- A message tells the session the end when it is handed on as that. -/
theorem endsTask_iff {v : Handler} {task : Task}
    (hstep : (service U mem).step v.pre v.event = some (v.post, v.outs)) :
    EndsTask task v ↔ bringsEnd task v = true := by
  obtain ⟨pre, event, post, outs⟩ := v
  cases event with
  | message msg clk =>
      unfold EndsTask bringsEnd
      dsimp only at hstep ⊢
      rw [Bool.and_eq_true, beq_iff_eq, Option.any_eq_true]
      constructor
      · rintro ⟨-, o, ho, hends⟩
        obtain ⟨cb, c, rfl⟩ : ∃ cb c, o = .callback cb c := by
          cases o with
          | callback cb c => exact ⟨cb, c, rfl⟩
          | _ => cases hends
        obtain ⟨hcb, hc⟩ := Bool.and_eq_true_iff.mp hends
        cases hopen : pre.openSession with
        | none =>
            rw [(message_dropped hstep hopen).2] at ho
            cases ho
        | some s =>
            rw [(message_given hstep hopen).2] at ho
            obtain ⟨rfl, hm | hcheck⟩ := notify_callback ho
            · exact ⟨congrArg some (beq_iff_eq.mp hcb), c, hm, hc⟩
            · rw [not_endedBy_of_fromCheck hcheck] at hc
              cases hc
      · rintro ⟨hopen, c, hm, hc⟩
        refine ⟨rfl, .callback task.session c, ?_, ends_callback hc⟩
        rw [(message_given hstep hopen).2]
        exact handedOn_mem hm
  | _ => exact iff_of_false (fun h => by cases h.1) (by simp [bringsEnd])

end Run

/-- What is asked for as step `k` of the events `es` is accepted, and nobody ever hears of
    it, although the worker has done all its work. -/
def Vanished (es : List Event) (k : Nat) : Prop :=
  let M := service .millis .zeroed
  let ts := M.steps .ready es
  M.Run .ready ts (M.final .ready es) ∧ (M.final .ready es).mWorker.items = [] ∧
    ∃ t ∈ ts[k]?, (∃ a ∈ t.event.asked, a.2.isOperation = true) ∧
      ¬ Served t (ts.drop (k + 1))

/-- A client asks for a `resetLockout`. -/
def resetAsked : Fingerprint :=
  (service .millis .zeroed).final .ready [.createSession 0 10 0, resetRequest 0]

/-- And then for an `authenticate`, which is the second task in the queue. -/
def authenticateAsked : Handler :=
  let e := Event.request 0 (.authenticate 7)
  ⟨resetAsked, e, (service .millis .zeroed).final resetAsked [e], []⟩

end FingerprintHal
