/-
  The worker queue over a run: a request becomes one task (`Request.body`), which is
  scheduled while there is room, and the worker pops the tasks in their order. That is the
  law of a first-in first-out queue (`service_fifo`): nothing that was scheduled is lost,
  repeated or overtaken.
-/
import FingerprintHal.Lib.History
import FingerprintHal.Session.Steps

namespace FingerprintHal

open Lib

/-- The task body a request is made into, when the next cancellation signal to be handed
    out has the number `signal`. -/
def Request.body (signal : Nat) : Request → Option TaskBody
  | .generateChallenge => some .generateChallenge
  | .revokeChallenge challenge => some (.revokeChallenge challenge)
  | .enroll hat => some (.enroll hat signal)
  | .authenticate operationId => some (.authenticate operationId signal)
  | .detectInteraction => some (.detectInteraction signal)
  | .enumerateEnrollments => some .enumerateEnrollments
  | .removeEnrollments enrollmentIds => some (.removeEnrollments enrollmentIds)
  | .getAuthenticatorId => some .getAuthenticatorId
  | .invalidateAuthenticatorId => some .invalidateAuthenticatorId
  | .resetLockout hat => some (.resetLockout hat)
  | .onPointerDown _ x y => some (.onPointerDown x y)
  | .onPointerUp _ => some .onPointerUp
  | .onUiReady => some .onUiReady
  | .authenticateWithContext operationId => some (.authenticate operationId signal)
  | .enrollWithContext hat => some (.enroll hat signal)
  | .detectInteractionWithContext => some (.detectInteraction signal)
  | .onPointerDownWithContext context => some (.onPointerDown context.x context.y)
  | .onPointerUpWithContext _ => some .onPointerUp
  | .onContextChanged => none
  | .onPointerCancelWithContext _ => none
  | .setIgnoreDisplayTouches _ => none

/-- There is room for one more task: `schedule` returns true. -/
def Fingerprint.HasRoom (w : Fingerprint) : Prop :=
  w.mWorker.items.length < MAX_WORKER_QUEUE_SIZE

instance : DecidablePred Fingerprint.HasRoom :=
  fun w => inferInstanceAs (Decidable (w.mWorker.items.length < MAX_WORKER_QUEUE_SIZE))

/-- The task a call of a client adds to the queue. -/
def Fingerprint.added (s : SessionId) (r : Request) (w : Fingerprint) : Option Task :=
  (r.body w.signals).bind fun body => if w.HasRoom then some ⟨s, body⟩ else none

theorem added_of_room {s : SessionId} {r : Request} {w : Fingerprint} (h : w.HasRoom) :
    w.added s r = (r.body w.signals).map fun body => ⟨s, body⟩ := by
  unfold Fingerprint.added
  cases r.body w.signals with
  | none => rfl
  | some body => exact if_pos h

theorem added_of_full {s : SessionId} {r : Request} {w : Fingerprint} (h : ¬ w.HasRoom) :
    w.added s r = none := by
  unfold Fingerprint.added
  cases r.body w.signals with
  | none => rfl
  | some body => exact if_neg h

theorem items_scheduled (q : BoundedQueue Task MAX_WORKER_QUEUE_SIZE) (t : Task) :
    (q.schedule t).2.items =
      q.items ++ (if q.items.length < MAX_WORKER_QUEUE_SIZE then some t else none).toList := by
  rw [BoundedQueue.items_schedule]
  split
  · rfl
  · rw [Option.toList_none, List.append_nil]

theorem call_items (s : SessionId) (r : Request) (w : Fingerprint) :
    (Session.call s w r).mWorker.items = w.mWorker.items ++ (w.added s r).toList := by
  cases r with
  | onContextChanged => exact (List.append_nil _).symm
  | onPointerCancelWithContext context => exact (List.append_nil _).symm
  | setIgnoreDisplayTouches shouldIgnore => exact (List.append_nil _).symm
  | _ => exact items_scheduled w.mWorker _

/-- The task a step schedules. -/
def scheduled (t : Handler) : Option Task :=
  match t.event with
  | .request s r => t.pre.added s r
  | _ => none

/-- The task a step pops. -/
def popped (t : Handler) : Option Task :=
  match t.event with
  | .work _ => t.pre.mWorker.items.head?
  | _ => none

/-- What is in the queue, and what is scheduled, is popped or still in the queue. -/
theorem service_fifo (U : Util) (mem : Memory) :
    FifoLaw (service U mem) (fun w => w.mWorker.items) scheduled popped where
  step t hstep := by
    obtain ⟨w, e, w', o⟩ := t
    dsimp only at hstep ⊢
    cases e with
    | request s r =>
        obtain ⟨-, he⟩ := step_request.mp hstep
        rw [(Prod.mk.inj he).1]
        exact (call_items s r w).symm
    | work inp =>
        obtain ⟨t, q, _, hi, rfl⟩ := work_frame hstep
        simp [scheduled, popped, hi]
    | _ =>
        rw [(queue_frame hstep rfl).2 rfl]
        exact List.append_nil _

/-- The step that pops a task runs it. -/
theorem popped_eq_some {U : Util} {mem : Memory} {u : Handler}
    (hstep : (service U mem).step u.pre u.event = some (u.post, u.outs)) {task : Task}
    (h : popped u = some task) :
    ∃ inp w, u.event = .work inp ∧ w.mEngine = u.pre.mEngine ∧
      w.cancelled = u.pre.cancelled ∧ task ∈ u.pre.mWorker.items ∧
      u.outs = (task.run U inp w).2 := by
  obtain ⟨pre, e, post, outs⟩ := u
  unfold popped at h
  dsimp only at hstep h ⊢
  split at h
  · next inp =>
      obtain ⟨task', q, hi, he⟩ := step_work.mp hstep
      rw [hi] at h
      obtain rfl := Option.some.inj h
      exact ⟨inp, { pre with mWorker := q, clock := inp.clk.atTimeLeft }, rfl, rfl, rfl,
        by rw [hi]; exact List.mem_cons_self, congrArg Prod.snd he⟩
  · cases h

end FingerprintHal
