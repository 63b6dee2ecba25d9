/-
  Whose templates a task works on.

  The active group of the device is switched when a session is created; the requests of
  the sessions before it may still be in the queue then, and a `setActiveGroup` that fails
  is only logged. So a task works on the templates of its own user in every run in which
  neither happens: whenever a session is created, what is left in the queue is for the
  user the device is then set to, and whenever work on templates is asked for, the device
  is set to the user of the session that asks (`users_isolated`).
-/
import FingerprintHal.Session.Steps

namespace FingerprintHal

open Lib

/-! ## The active group of the device -/

/-- What a call makes of the active group: the last `setActiveGroup` that returned 0 has
    set it. -/
def groupAfter (g : Option (BitVec 32)) : Output → Option (BitVec 32)
  | .device _ (.setActiveGroup userid _ error) => if error = 0 then some userid else g
  | _ => g

/-- The active group after the calls `os`; none was set before them. -/
def activeGroup (os : List Output) : Option (BitVec 32) := os.foldl groupAfter none

theorem activeGroup_append (os ps : List Output) :
    activeGroup (os ++ ps) = ps.foldl groupAfter (activeGroup os) := List.foldl_append

/-- Outputs among which no call sets a group. -/
theorem foldl_groupAfter {os : List Output} {g : Option (BitVec 32)}
    (h : ∀ dev userid path error,
      Output.device dev (.setActiveGroup userid path error) ∉ os) :
    os.foldl groupAfter g = g := by
  induction os with
  | nil => rfl
  | cons o os ih =>
      have ho : groupAfter g o = g := by
        unfold groupAfter
        split
        · exact absurd List.mem_cons_self (h _ _ _ _)
        · rfl
      rw [List.foldl_cons, ho]
      exact ih fun dev userid path error hm => h dev userid path error (List.mem_cons_of_mem _ hm)

/-- A task sets no group. -/
theorem deviceCall_ne_setActiveGroup {inp : TaskInputs} {body : TaskBody} {userid : BitVec 32}
    {path : String} {error : BitVec 32} :
    body.deviceCall inp ≠ some (.setActiveGroup userid path error) := by
  intro h
  cases body <;> cases h

/-- Only a new session sets a group. -/
theorem step_group {U : Util} {mem : Memory} {w w' : Fingerprint} {e : Event}
    {o : List Output} (hstep : (service U mem).step w e = some (w', o))
    (he : ∀ sensorId userId error, e ≠ .createSession sensorId userId error)
    (g : Option (BitVec 32)) : o.foldl groupAfter g = g := by
  refine foldl_groupAfter fun dev userid path error hm => ?_
  rcases step_device hstep hm with h | ⟨_, _, _, h⟩ | ⟨_, _, _, -, -, h, -⟩
  · cases h
  · exact he _ _ _ h
  · exact deviceCall_ne_setActiveGroup h

/-! ## Work on templates -/

def DeviceCall.isTemplate : DeviceCall → Bool
  | .enroll _ _ => true
  | .authenticate _ _ => true
  | .enumerate _ => true
  | .remove _ _ => true
  | .getAuthenticatorId => true
  | .invalidateAuthenticatorId => true
  | _ => false

def Output.isTemplate : Output → Bool
  | .device _ c => c.isTemplate
  | _ => false

theorem deviceCall_isTemplate {inp : TaskInputs} {body : TaskBody} {c : DeviceCall}
    (h : body.deviceCall inp = some c) : c.isTemplate = body.isTemplate := by
  cases body <;> cases h <;> rfl

/-- The user a session was created with. -/
def Fingerprint.userOf (s : SessionId) (w : Fingerprint) : Option (BitVec 32) :=
  w.sessions[s]?.map (·.mUserId)

/-- A task that will make a call on templates when it runs, as things are. -/
def Fingerprint.Pending (w : Fingerprint) (body : TaskBody) : Prop :=
  body.isTemplate = true ∧ ∀ k ∈ body.signal, k ∉ w.cancelled

instance (w : Fingerprint) : DecidablePred w.Pending :=
  fun body => inferInstanceAs (Decidable (_ ∧ ∀ k ∈ body.signal, k ∉ w.cancelled))

/-- A call on templates is made while the device is set to the user of the session whose
    task makes it. -/
def Isolated (us : List Handler) (t : Handler) : Prop :=
  ∀ o ∈ t.outs, o.isTemplate = true →
    ∃ task ∈ t.pre.mWorker.items.head?, ∃ x ∈ t.pre.sessions[task.session]?,
      activeGroup (trace us) = some x.mUserId

instance (us : List Handler) : DecidablePred (Isolated us) :=
  fun t => inferInstanceAs (Decidable (∀ o ∈ t.outs, o.isTemplate = true →
    ∃ task ∈ t.pre.mWorker.items.head?, ∃ x ∈ t.pre.sessions[task.session]?,
      activeGroup (trace us) = some x.mUserId))

/-! ## What keeps users apart -/

/-- A new session finds no work on templates in the queue but for the user the device is
    set to now, and work that is put into the queue is for the user the device is set to. -/
def KeepsUsersApart (us : List Handler) (t : Handler) : Prop :=
  (∀ c ∈ t.event.creation, ∀ task ∈ t.pre.mWorker.items, t.pre.Pending task.body →
    t.pre.userOf task.session = if c.2 = 0 then some c.1 else activeGroup (trace us)) ∧
  (∀ a ∈ t.event.asked, a.2.isTemplate = true →
    t.pre.mWorker.items.length < MAX_WORKER_QUEUE_SIZE →
    t.pre.userOf a.1 = activeGroup (trace us))

-- Named instances: one could also search all pairs of 32-bit words for the new session.
instance (us : List Handler) : DecidablePred (KeepsUsersApart us) :=
  fun _ => @instDecidableAnd _ _ (Option.decidableForallMem _) (Option.decidableForallMem _)

/-- The invariant: every task has its session, and work on templates that waits in the
    queue is for the user the device is set to. -/
structure QueueApart (us : List Handler) (w : Fingerprint) : Prop where
  known : w.QueueKnown
  users : ∀ task ∈ w.mWorker.items, w.Pending task.body →
    w.userOf task.session = activeGroup (trace us)

theorem queueApart_boot {mem : Memory} {hw : HwModule} {now : Int} :
    QueueApart [] (Fingerprint.boot mem hw now).1 where
  known task h := by cases h
  users task h := by cases h

/-- A session keeps its user. -/
theorem step_userOf {U : Util} {mem : Memory} {w w' : Fingerprint} {e : Event}
    {o : List Output} (hstep : (service U mem).step w e = some (w', o)) {s : SessionId}
    (h : s < w.sessions.length) : w'.userOf s = w.userOf s := by
  have hx := List.getElem?_eq_getElem h
  obtain ⟨y, hy, hl⟩ := step_sessions hstep hx
  unfold Fingerprint.userOf
  rw [hx, hy, Option.map_some, Option.map_some, hl.user]

/-- What is pending after a step was pending before. -/
theorem pending_of_step {U : Util} {mem : Memory} {w w' : Fingerprint} {e : Event}
    {o : List Output} (hstep : (service U mem).step w e = some (w', o)) {body : TaskBody}
    (h : w'.Pending body) : w.Pending body :=
  ⟨h.1, fun k hk hc => h.2 k hk (step_cancelled hstep hc)⟩

/-- The user a task is for after a step that keeps users apart. -/
theorem queueApart_step {U : Util} {mem : Memory} {us : List Handler} {t : Handler}
    (hI : QueueApart us t.pre) (hC : KeepsUsersApart us t)
    (hstep : (service U mem).step t.pre t.event = some (t.post, t.outs)) :
    QueueApart (us ++ [t]) t.post where
  known := queueKnown_step hstep hI.known
  users task htask hpend := by
    rw [trace_append, trace_cons, trace_nil, List.append_nil, activeGroup_append]
    by_cases hc : ∃ sensorId userId error, t.event = .createSession sensorId userId error
    · -- the queue is what it was, and the device is set anew
      obtain ⟨sensorId, userId, error, he⟩ := hc
      rcases step_queue hstep htask with h | ⟨_, hr, -⟩
      · rw [step_userOf hstep (hI.known task h)]
        have hu := hC.1 (userId, error) (by rw [he]; rfl) task h (pending_of_step hstep hpend)
        rw [he] at hstep
        rw [(step_createSession.mp hstep).2.2.2.2]
        exact hu
      · rw [he] at hr
        cases hr
    · rw [step_group hstep fun _ _ _ he => hc ⟨_, _, _, he⟩]
      rcases step_queue hstep htask with h | ⟨r, hr, hlt, hroom, hb⟩
      · rw [step_userOf hstep (hI.known task h)]
        exact hI.users task h (pending_of_step hstep hpend)
      · rw [step_userOf hstep hlt]
        exact hC.2 (task.session, r) (by rw [hr]; rfl) (hb.symm.trans hpend.1) hroom

/-- A call on templates, in a state whose queue is apart. -/
theorem isolated_of_queueApart {U : Util} {mem : Memory} {us : List Handler} {t : Handler}
    (hI : QueueApart us t.pre)
    (hstep : (service U mem).step t.pre t.event = some (t.post, t.outs)) : Isolated us t := by
  intro o ho ht
  cases o with
  | callback cb c => cases ht
  | display fd v => cases ht
  | device dev c =>
      have ht' : c.isTemplate = true := ht
      rcases step_device hstep ho with hp | ⟨sensorId, userId, error, he⟩ |
        ⟨inp, task, q, -, hi, hc, hs⟩
      · unfold DeviceCall.isPress at hp
        split at hp
        · cases ht'
        · cases hp
      · rw [he] at hstep
        rw [(step_createSession.mp hstep).2.2.2.2] at ho
        obtain ⟨-, rfl⟩ := Output.device.inj (List.mem_singleton.mp ho)
        cases ht'
      · have hmem : task ∈ t.pre.mWorker.items := by rw [hi]; exact List.mem_cons_self
        have hx := List.getElem?_eq_getElem (hI.known task hmem)
        have hu := hI.users task hmem ⟨(deviceCall_isTemplate hc).symm.trans ht', hs⟩
        unfold Fingerprint.userOf at hu
        rw [hx] at hu
        exact ⟨task, by rw [hi]; rfl, _, hx, hu.symm⟩

/-- **When users are isolated.** In every run of a service from its start whose steps all
    keep users apart, every call on templates is made while the device is set to the user
    of the session it is made for. -/
theorem users_isolated {U : Util} {mem : Memory} {hw : HwModule} {now : Int}
    {ts : List Handler} {w : Fingerprint}
    (hrun : (service U mem).Run (Fingerprint.boot mem hw now).1 ts w)
    (hapart : Along KeepsUsersApart ts) : Along Isolated ts :=
  hrun.along hapart queueApart_boot (fun _ _ hI hC hs => queueApart_step hI hC hs)
    fun _ _ hI _ hs => isolated_of_queueApart hI hs

/-- Two users one after the other, the first one done before the second comes. -/
def usersApart : List Event :=
  [.createSession 0 1 0, .request 0 .enumerateEnrollments, workAt 1, .close 0,
    .createSession 0 2 0, .request 1 .enumerateEnrollments, workAt 2]

theorem users_isolated_two :
    let ts := (service .millis .zeroed).steps .ready usersApart
    (trace ts).countP Output.isTemplate = 2 ∧ Along Isolated ts :=
  ⟨by decide +kernel,
    @users_isolated .millis .zeroed .working 0 _ _ (Machine.run_steps (by decide +kernel))
      (by decide +kernel)⟩

/-- The second user comes while the task of the first is in the queue. -/
def usersOverlap : List Event :=
  [.createSession 0 1 0, .request 0 .enumerateEnrollments, .close 0, .createSession 0 2 0,
    workAt 1]

theorem closed_session_reads_other_user :
    let M := service .millis .zeroed
    M.Run .ready (M.steps .ready usersOverlap) (M.final .ready usersOverlap) ∧
      ¬ Along Isolated (M.steps .ready usersOverlap) :=
  ⟨Machine.run_steps (by decide +kernel), by decide +kernel⟩

end FingerprintHal
