/-
  How long a session object lives, and who still points at it.

  A session object belongs to `Fingerprint::mSession` and to the client that holds the
  `ISession` it was given; when neither refers to it any more it is destroyed, its callback
  and all. Three others point at it without keeping it: a task has captured `this`, a
  lockout timer the bare pointer of its callback, and the death recipient has it as its
  cookie. `objects` is the service with these references: a client may let go of its
  session at any time, calls a session only while it holds it, and is reported dead only
  while its death recipient is linked.

  Nothing that was destroyed is touched, in any part of a run and what may follow that,
  exactly when no session is destroyed while one of the three points at it
  (`untouched_iff`). For a timer that is the callback, which goes with its session.
-/
import FingerprintHal.Lib.Borrow
import FingerprintHal.Lockout.Control
import FingerprintHal.Session.Turns

namespace FingerprintHal

open Lib

/-! ## The machine -/

/-- The service, the sessions whose clients hold them, the sessions whose death recipient
    has not been deleted, and those whose recipient is linked to the client. -/
structure Objects where
  service : Fingerprint
  held : List SessionId
  recipients : List SessionId
  linked : List SessionId
deriving DecidableEq

/-- An event of the service, or a client that lets go of its session. `linkToDeath` is
    whether that call succeeds when the event creates a session. -/
inductive ObjectEvent
  | own (e : Event) (linkToDeath : Bool)
  | release (s : SessionId)
deriving DecidableEq

namespace Objects

/-- The session objects that have not been destroyed. -/
def living (o : Objects) : List SessionId := o.service.mSession.toList ++ o.held

/-- A session is called by a client that holds it, and a client is reported dead through
    a linked recipient. -/
def Allows (o : Objects) : Event → Prop
  | .request s _ => s ∈ o.held
  | .close s => s ∈ o.held
  | .clientDeath s => s ∈ o.linked
  | _ => True

instance (o : Objects) : DecidablePred o.Allows
  | .request s _ => inferInstanceAs (Decidable (s ∈ o.held))
  | .close s => inferInstanceAs (Decidable (s ∈ o.held))
  | .clientDeath s => inferInstanceAs (Decidable (s ∈ o.linked))
  | .createSession _ _ _ => inferInstanceAs (Decidable True)
  | .cancel _ => inferInstanceAs (Decidable True)
  | .work _ => inferInstanceAs (Decidable True)
  | .message _ _ => inferInstanceAs (Decidable True)
  | .timer _ _ => inferInstanceAs (Decidable True)

/-- Without the recipient of session `s`, which unlinks it. -/
def deleteRecipient (s : SessionId) (o : Objects) : Objects :=
  { o with
    recipients := o.recipients.filter (· != s)
    linked := o.linked.filter (· != s) }

/-- The references after a step of the service to `w'`. `createSession` hands the new
    session out, with a recipient; `close` deletes the recipient; a link is used up when
    the death is reported. -/
def next (o : Objects) (w' : Fingerprint) : ObjectEvent → Objects
  | .own (.createSession _ _ _) linkToDeath =>
      let s := o.service.sessions.length
      { service := w'
        held := s :: o.held
        recipients := s :: o.recipients
        linked := if linkToDeath then s :: o.linked else o.linked }
  | .own (.close s) _ => { o.deleteRecipient s with service := w' }
  | .own (.clientDeath s) _ =>
      if o.service.isClosed s then
        { o with service := w', linked := o.linked.filter (· != s) }
      else { o.deleteRecipient s with service := w' }
  | _ => { o with service := w' }

def step (U : Util) (mem : Memory) (o : Objects) :
    ObjectEvent → Option (Objects × List Output)
  | .own e linkToDeath =>
      if o.Allows e then
        (Fingerprint.step U mem o.service e).map fun r =>
          (o.next r.1 (.own e linkToDeath), r.2)
      else none
  | .release s =>
      if s ∈ o.held then some ({ o with held := o.held.filter (· != s) }, []) else none

/-- The constructor of `Fingerprint`, and no session yet. -/
def boot (mem : Memory) (hw : HwModule) (now : Int) : Objects :=
  ⟨(Fingerprint.boot mem hw now).1, [], [], []⟩

end Objects

/-- The service with the references to its sessions. -/
def objects (U : Util) (mem : Memory) : Machine Objects ObjectEvent Output where
  step := Objects.step U mem

abbrev ObjectStep := Transition Objects ObjectEvent Output

section Step

variable {U : Util} {mem : Memory} {o o' : Objects} {e : Event} {l : Bool} {s : SessionId}
  {outs : List Output}

@[simp] theorem Objects.next_service (w' : Fingerprint) (e : Event) :
    (o.next w' (.own e l)).service = w' := by
  unfold Objects.next
  split
  · rfl
  · rfl
  · split <;> rfl
  · rfl

theorem objects_own :
    (objects U mem).step o (.own e l) = some (o', outs) ↔
      o.Allows e ∧ (service U mem).step o.service e = some (o'.service, outs) ∧
      o' = o.next o'.service (.own e l) := by
  simp only [objects, Objects.step, service]
  rw [Option.ite_none_right_eq_some, Option.map_eq_some_iff]
  refine and_congr_right fun _ => ⟨?_, ?_⟩
  · rintro ⟨⟨w, p⟩, hs, he⟩
    obtain ⟨rfl, rfl⟩ := Prod.mk.inj he
    rw [Objects.next_service]
    exact ⟨hs, rfl⟩
  · rintro ⟨hs, ho⟩
    exact ⟨(o'.service, outs), hs, Prod.ext ho.symm rfl⟩

/-- A step of the service that is allowed. -/
theorem objects_of_service {w' : Fingerprint} (h : o.Allows e)
    (hstep : (service U mem).step o.service e = some (w', outs)) :
    (objects U mem).step o (.own e l) = some (o.next w' (.own e l), outs) := by
  refine objects_own.mpr ⟨h, ?_, ?_⟩
  · rw [Objects.next_service]
    exact hstep
  · rw [Objects.next_service]

theorem objects_release :
    (objects U mem).step o (.release s) = some (o', outs) ↔
      s ∈ o.held ∧ o' = { o with held := o.held.filter (· != s) } ∧ outs = [] := by
  simp only [objects, Objects.step]
  rw [Option.ite_none_right_eq_some, Option.some.injEq, Prod.mk.injEq]
  exact and_congr_right fun _ => and_congr eq_comm eq_comm

end Step

/-! ## Who points at a session -/

/-- A timer that is not marked as aborted has the callback of session `s`. -/
def LockoutControl.LiveTimerOf (l : LockoutControl) (s : SessionId) : Prop :=
  l.isLockoutTimerAborted = false ∧ ∃ t ∈ l.timers, t.cb = s

instance (l : LockoutControl) : DecidablePred l.LiveTimerOf :=
  fun s => inferInstanceAs (Decidable (_ ∧ ∃ t ∈ l.timers, t.cb = s))

/-- A task that waits has captured session `s`, a live timer has its callback, or the
    recipient that is linked has it as its cookie. -/
def Objects.PointedAt (o : Objects) (s : SessionId) : Prop :=
  (∃ t ∈ o.service.mWorker.items, t.session = s) ∨ o.service.lockout.LiveTimerOf s ∨
    s ∈ o.linked

instance (o : Objects) : DecidablePred o.PointedAt :=
  fun s => inferInstanceAs (Decidable ((∃ t ∈ o.service.mWorker.items, t.session = s) ∨
    o.service.lockout.LiveTimerOf s ∨ s ∈ o.linked))

/-- The session objects a handler looks into. A timer that was marked as aborted leaves its
    callback alone. -/
def Event.derefs (w : Fingerprint) : Event → List SessionId
  | .createSession _ _ _ => w.mSession.toList
  | .request s _ => [s]
  | .close s => [s]
  | .clientDeath s => [s]
  | .cancel _ => []
  | .work _ => (w.mWorker.items.head?.map (·.session)).toList
  | .message _ _ => w.mSession.toList
  | .timer i _ =>
      if w.mEngine.isLockoutTimerAborted then []
      else (w.mEngine.timers[i]?.map (·.cb)).toList

/-- The session objects a step looks into. -/
def touched (t : ObjectStep) : List SessionId :=
  match t.event with
  | .own e _ => e.derefs t.pre.service
  | .release _ => []

/-- The step looks into a session that was destroyed. -/
def UseAfterFree (t : ObjectStep) : Prop := ∃ s ∈ touched t, s ∉ t.pre.living

instance : DecidablePred UseAfterFree :=
  fun t => inferInstanceAs (Decidable (∃ s ∈ touched t, s ∉ t.pre.living))

/-- A session the step destroys is idle: nothing points at it. -/
def DestroysIdle (t : ObjectStep) : Prop :=
  ∀ s ∈ t.pre.living, s ∉ t.post.living → ¬ t.post.PointedAt s

instance : DecidablePred DestroysIdle :=
  fun t => inferInstanceAs (Decidable (∀ s ∈ t.pre.living, s ∉ t.post.living →
    ¬ t.post.PointedAt s))

/-- What happens without a call of a client: the worker, the vendor module, the timers, and
    a client that dies. -/
def ObjectEvent.Unasked : ObjectEvent → Prop
  | .own (.work _) _ => True
  | .own (.message _ _) _ => True
  | .own (.timer _ _) _ => True
  | .own (.clientDeath _) _ => True
  | _ => False

/-! ## Only living sessions are pointed at anew -/

section Timers

variable {U : Util} {s cb : SessionId}

/-- A timer that `checkSensorLockout` launches is of the session it is called for. -/
theorem liveTimer_check {clk : Readings} {l : LockoutControl}
    (h : (l.checkSensorLockout U cb clk).2.1.LiveTimerOf s) : l.LiveTimerOf s ∨ s = cb := by
  obtain ⟨ha, t, ht, hs⟩ := h
  rcases LockoutControl.check_cases U cb clk l with ⟨-, e⟩ | ⟨-, -, e⟩ | ⟨-, -, e⟩ | ⟨-, -, e⟩
  · rw [e] at ha
    cases ha
  · rw [e] at ha ht
    dsimp only at ha ht
    split at ha
    · next hc =>
        rw [if_pos hc] at ht
        rcases List.mem_append.mp ht with ht | ht
        · exact Or.inl ⟨ha, t, ht, hs⟩
        · rw [List.mem_singleton.mp ht] at hs
          exact Or.inr hs.symm
    · next hc =>
        rw [if_neg hc] at ht
        exact Or.inl ⟨ha, t, ht, hs⟩
  · rw [e] at ha ht
    exact Or.inl ⟨ha, t, ht, hs⟩
  · rw [e] at ha ht
    exact Or.inl ⟨ha, t, ht, hs⟩

/-- A live timer was there before the step, or the step has looked for a lockout for its
    session. -/
theorem liveTimer_step {l l' : LockoutControl} {op : LockoutOp} {o : List Output}
    (h : l.Sound) (hstep : l.step U op = some (l', o)) (hs : l'.LiveTimerOf s) :
    l.LiveTimerOf s ∨ ∃ clk, op = .failedMatch s clk ∨ op = .pointerDown s clk := by
  have hcases := LockoutControl.step_cases hstep
  cases op with
  | matched =>
      obtain ⟨rfl, -⟩ := hcases
      exact Or.inl hs
  | failedMatch cb clk =>
      obtain ⟨rfl, -⟩ := hcases
      rcases liveTimer_check hs with hl | rfl
      · exact Or.inl hl
      · exact Or.inr ⟨clk, Or.inl rfl⟩
  | pointerDown cb clk =>
      obtain ⟨rfl, -⟩ := hcases
      rcases liveTimer_check hs with hl | rfl
      · exact Or.inl hl
      · exact Or.inr ⟨clk, Or.inr rfl⟩
  | resetAccepted cb =>
      obtain ⟨rfl, -⟩ := hcases
      obtain ⟨ha, ht⟩ := hs
      exact Or.inl ⟨(Bool.or_eq_false_iff.mp ha).2, ht⟩
  | expired i now =>
      obtain ⟨t, ht, rfl, -⟩ := hcases
      obtain ⟨-, u, hu, -⟩ := hs
      rw [(h.expire ht).1] at hu
      cases hu

/-- In the service: the session of the task that ran, or the one that was open. -/
theorem liveTimer_service {mem : Memory} {w w' : Fingerprint} {e : Event} {o : List Output}
    (h : w.lockout.Sound) (hstep : (service U mem).step w e = some (w', o))
    (hs : w'.lockout.LiveTimerOf s) :
    w.lockout.LiveTimerOf s ∨ (∃ t ∈ w.mWorker.items, t.session = s) ∨
      w.openSession = some s := by
  cases hop : lockoutOp w e with
  | none =>
      rw [(step_unseen hstep hop).1] at hs
      exact Or.inl hs
  | some op =>
      rcases liveTimer_step h (step_seen hstep hop) hs with hl | ⟨clk, rfl | rfl⟩
      · exact Or.inl hl
      · obtain ⟨hat, -, hopen⟩ := lockoutOp_cases hop
        exact Or.inr (Or.inr hopen)
      · obtain ⟨inp, x, y, q, -, hi, -⟩ := lockoutOp_cases hop
        exact Or.inr (Or.inl ⟨_, by rw [hi]; exact List.mem_cons_self, rfl⟩)

end Timers

section References

variable {U : Util} {mem : Memory} {w w' : Fingerprint} {o o' : Objects} {e : Event}
  {l : Bool} {s : SessionId} {outs : List Output}

namespace Objects

theorem held_next (he : e.creation = none) : (o.next w' (.own e l)).held = o.held := by
  cases e with
  | createSession sensorId userId error => cases he
  | clientDeath s =>
      simp only [next]
      split <;> rfl
  | _ => rfl

/-- A recipient that is linked was linked before, or belongs to the session just created. -/
theorem linked_next (hs : s ∈ (o.next w' (.own e l)).linked) :
    s ∈ o.linked ∨ e.creation ≠ none ∧ s = o.service.sessions.length := by
  cases e with
  | createSession sensorId userId error =>
      simp only [next] at hs
      split at hs
      · rcases List.mem_cons.mp hs with rfl | hs
        · exact Or.inr ⟨by simp [Event.creation], rfl⟩
        · exact Or.inl hs
      · exact Or.inl hs
  | close k => exact Or.inl (List.mem_filter.mp hs).1
  | clientDeath k =>
      simp only [next] at hs
      split at hs
      · exact Or.inl (List.mem_filter.mp hs).1
      · exact Or.inl (List.mem_filter.mp hs).1
  | _ => exact Or.inl hs

/-- The same sessions live until one is created. -/
theorem living_own (hstep : (objects U mem).step o (.own e l) = some (o', outs))
    (he : e.creation = none) : o'.living = o.living := by
  obtain ⟨-, hservice, ho⟩ := objects_own.mp hstep
  have hheld : o'.held = o.held := by
    rw [ho]
    exact held_next he
  unfold living
  rw [(sessions_step hservice he).1, hheld]

/-- The invariant: the timers are sound, and recipients belong to sessions that were
    created. -/
structure Known (o : Objects) : Prop where
  sound : o.service.lockout.Sound
  linked : ∀ s ∈ o.linked, s < o.service.sessions.length

theorem known_boot {hw : HwModule} {now : Int} : (boot mem hw now).Known where
  sound := LockoutControl.sound_of_no_timer rfl
  linked s h := by cases h

theorem known_own (h : o.Known)
    (hstep : (objects U mem).step o (.own e l) = some (o', outs)) : o'.Known := by
  obtain ⟨-, hservice, ho⟩ := objects_own.mp hstep
  constructor
  · cases hop : lockoutOp o.service e with
    | none =>
        rw [(step_unseen hservice hop).1]
        exact h.sound
    | some op => exact LockoutControl.sound_step h.sound (step_seen hservice hop)
  · intro s hs
    rw [ho] at hs
    rcases linked_next hs with hs | ⟨hc, rfl⟩
    · exact Nat.lt_of_lt_of_le (h.linked s hs) (sessions_length_le hservice)
    · cases e with
      | createSession sensorId userId error =>
          obtain ⟨-, -, -, hw, -⟩ := step_createSession.mp hservice
          rw [hw]
          simp
      | _ => exact absurd rfl hc

end Objects

/-- The worker can run the oldest task, whatever it finds. -/
theorem work_runs {t : Task} {q : List Task} (hi : w.mWorker.items = t :: q)
    (inp : TaskInputs) :
    ∃ w' outs, (service U mem).step w (.work inp) = some (w', outs) ∧
      w'.mWorker.items = q := by
  have hlen := w.mWorker.bounded
  rw [hi] at hlen
  have hq : q.length ≤ MAX_WORKER_QUEUE_SIZE := Nat.le_of_succ_le hlen
  obtain ⟨w', outs, hstep⟩ : ∃ w' outs, (service U mem).step w (.work inp) = some (w', outs) :=
    ⟨_, _, step_work.mpr ⟨t, ⟨q, hq⟩, hi, rfl⟩⟩
  obtain ⟨_, r, _, hr, rfl⟩ := work_frame hstep
  exact ⟨_, _, hstep, (List.cons.inj (hr.symm.trans hi)).2⟩

end References

/-! ## The law of the pointers -/

section Law

variable {U : Util} {mem : Memory} {o o' : Objects} {s : SessionId}

/-- What a handler looks into lives, or is pointed at. -/
theorem derefs_known {e : Event} {l : Bool} {outs : List Output}
    (hstep : (objects U mem).step o (.own e l) = some (o', outs))
    (hs : s ∈ e.derefs o.service) : s ∈ o.living ∨ o.PointedAt s := by
  obtain ⟨hallows, hservice, -⟩ := objects_own.mp hstep
  cases e with
  | createSession sensorId userId error => exact Or.inl (List.mem_append_left _ hs)
  | request k r =>
      obtain rfl := List.mem_singleton.mp hs
      exact Or.inl (List.mem_append_right _ hallows)
  | close k =>
      obtain rfl := List.mem_singleton.mp hs
      exact Or.inl (List.mem_append_right _ hallows)
  | clientDeath k =>
      obtain rfl := List.mem_singleton.mp hs
      exact Or.inr (Or.inr (Or.inr hallows))
  | cancel signal => cases hs
  | work inp =>
      obtain ⟨t, ht, he⟩ := Option.map_eq_some_iff.mp (Option.mem_toList.mp hs)
      exact Or.inr (Or.inl ⟨t, List.mem_of_mem_head? ht, he⟩)
  | message msg clk => exact Or.inl (List.mem_append_left _ hs)
  | timer i now =>
      simp only [Event.derefs] at hs
      split at hs
      · cases hs
      · next ha =>
          obtain ⟨t, ht, he⟩ := Option.map_eq_some_iff.mp (Option.mem_toList.mp hs)
          exact Or.inr (Or.inr (Or.inl
            ⟨by simpa using ha, t, List.mem_of_getElem? ht, he⟩))

/-- A pointer that is there after a step was there before, or is to a living session. -/
theorem pointedAt_own (h : o.Known) {e : Event} {l : Bool} {outs : List Output}
    (hstep : (objects U mem).step o (.own e l) = some (o', outs)) (hs : o'.PointedAt s) :
    s ∈ o'.living ∨ o.PointedAt s := by
  obtain ⟨hallows, hservice, ho⟩ := objects_own.mp hstep
  rcases hs with ⟨t, ht, rfl⟩ | hs | hs
  · rcases step_queue hservice ht with ht | ⟨r, rfl, -⟩
    · exact Or.inr (Or.inl ⟨t, ht, rfl⟩)
    · left
      rw [Objects.living_own hstep rfl]
      exact List.mem_append_right _ hallows
  · rcases liveTimer_service h.sound hservice hs with hl | hq | hopen
    · exact Or.inr (Or.inr (Or.inl hl))
    · exact Or.inr (Or.inl hq)
    · cases hc : e.creation with
      | none =>
          left
          rw [Objects.living_own hstep hc]
          exact List.mem_append_left _ (Option.mem_toList.mpr (openSession_eq_some hopen).1)
      | some c =>
          cases e with
          | createSession sensorId userId error =>
              rw [(step_createSession.mp hservice).1] at hopen
              cases hopen
          | _ => cases hc
  · rw [ho] at hs
    rcases Objects.linked_next hs with hl | ⟨hc, rfl⟩
    · exact Or.inr (Or.inr (Or.inr hl))
    · cases e with
      | createSession sensorId userId error =>
          obtain ⟨-, -, -, hw, -⟩ := step_createSession.mp hservice
          left
          refine List.mem_append_left _ (Option.mem_toList.mpr ?_)
          rw [hw]
      | _ => exact absurd rfl hc

/-- The worker comes to every task in the queue. -/
theorem task_touched : ∀ {n : Nat} {o : Objects} {t : Task},
    o.service.mWorker.items[n]? = some t →
    ∃ us o', (objects U mem).Run o us o' ∧ (∀ u ∈ us, u.event.Unasked) ∧
      ∃ u ∈ us, t.session ∈ touched u
  | n, o, t, ht => by
      cases hi : o.service.mWorker.items with
      | nil =>
          rw [hi] at ht
          cases ht
      | cons t' q =>
          obtain ⟨w', outs, hstep, hq⟩ := @work_runs U mem _ _ _ hi ⟨0, .zeroed, true, .still 0⟩
          have hown : (objects U mem).step o (.own (.work ⟨0, .zeroed, true, .still 0⟩) false) =
              some ({ o with service := w' }, outs) := objects_of_service trivial hstep
          rw [hi] at ht
          cases n with
          | zero =>
              obtain rfl : t' = t := Option.some.inj ht
              refine ⟨_, _, .single hown, fun u hu => ?_, _, List.mem_cons_self, ?_⟩
              · rw [List.mem_singleton.mp hu]
                trivial
              · simp [touched, Event.derefs, hi]
          | succ n =>
              have hn : w'.mWorker.items[n]? = some t := by
                rw [hq]
                exact ht
              obtain ⟨us, o', hus, hown', u, hu, hs⟩ :=
                @task_touched n { o with service := w' } t hn
              refine ⟨_, o', .cons hown hus, fun v hv => ?_, u, List.mem_cons_of_mem _ hu, hs⟩
              rcases List.mem_cons.mp hv with rfl | hv
              · trivial
              · exact hown' v hv

/-- Every pointer can be followed without a call of a client. -/
theorem pointer_followed (h : o.Known) (hs : o.PointedAt s) :
    ∃ us o', (objects U mem).Run o us o' ∧ (∀ u ∈ us, u.event.Unasked) ∧
      ∃ u ∈ us, s ∈ touched u := by
  rcases hs with ⟨t, ht, rfl⟩ | ⟨ha, t, ht, rfl⟩ | hs
  · obtain ⟨n, hn⟩ := List.getElem?_of_mem ht
    exact task_touched hn
  · obtain ⟨i, hi⟩ := List.getElem?_of_mem ht
    have hstep : ∃ r, (service U mem).step o.service (.timer i 0) = some r :=
      ⟨(_, _), step_timer.mpr ⟨t, hi, rfl⟩⟩
    obtain ⟨⟨w', outs⟩, hstep⟩ := hstep
    have hown : (objects U mem).step o (.own (.timer i 0) false) =
        some ({ o with service := w' }, outs) := objects_of_service trivial hstep
    refine ⟨_, _, .single hown, fun u hu => ?_, _, List.mem_cons_self, ?_⟩
    · rw [List.mem_singleton.mp hu]
      trivial
    · have ha' : o.service.mEngine.isLockoutTimerAborted = false := ha
      have hi' : o.service.mEngine.timers[i]? = some t := hi
      simp [touched, Event.derefs, ha', hi']
  · have hstep : ∃ r, (service U mem).step o.service (.clientDeath s) = some r :=
      ⟨(_, _), step_clientDeath.mpr ⟨h.linked s hs, rfl⟩⟩
    obtain ⟨⟨w', outs⟩, hstep⟩ := hstep
    have hown : (objects U mem).step o (.own (.clientDeath s) false) =
        some (o.next w' (.own (.clientDeath s) false), outs) := objects_of_service hs hstep
    refine ⟨_, _, .single hown, fun u hu => ?_, _, List.mem_cons_self, ?_⟩
    · rw [List.mem_singleton.mp hu]
      trivial
    · simp [touched, Event.derefs]

/-- What is destroyed was let go, or replaced; nothing else creates or destroys. -/
theorem living_unasked {t : ObjectStep} (ht : t.event.Unasked)
    (hstep : (objects U mem).step t.pre t.event = some (t.post, t.outs)) :
    t.post.living = t.pre.living := by
  obtain ⟨o, e, o', outs⟩ := t
  cases e with
  | release s => cases ht
  | own e l =>
      cases e with
      | work inp => exact Objects.living_own hstep rfl
      | message msg clk => exact Objects.living_own hstep rfl
      | timer i now => exact Objects.living_own hstep rfl
      | clientDeath s => exact Objects.living_own hstep rfl
      | _ => cases ht

/-- Only living sessions are borrowed. -/
theorem objects_borrow (U : Util) (mem : Memory) :
    BorrowLaw (objects U mem) Objects.Known (fun o s => s ∈ o.living) Objects.PointedAt
      (fun t s => s ∈ touched t) ObjectEvent.Unasked where
  keep t h hstep := by
    obtain ⟨o, e, o', outs⟩ := t
    cases e with
    | own e l => exact Objects.known_own h hstep
    | release s =>
        dsimp only at h hstep ⊢
        obtain ⟨-, rfl, -⟩ := objects_release.mp hstep
        exact ⟨h.sound, h.linked⟩
  touch t _ hstep s hs := by
    obtain ⟨o, e, o', outs⟩ := t
    cases e with
    | own e l => exact derefs_known hstep hs
    | release s => cases hs
  borrow t h hstep s hs := by
    obtain ⟨o, e, o', outs⟩ := t
    cases e with
    | own e l => exact pointedAt_own h hstep hs
    | release k =>
        dsimp only at hstep hs ⊢
        obtain ⟨-, rfl, -⟩ := objects_release.mp hstep
        exact Or.inr hs
  stay t ht hstep s := by rw [living_unasked ht hstep]
  follow o s h hs := pointer_followed h hs

end Law

/-- No step of a part of the run looks into a destroyed session, nor does one that follows
    it without a call of a client. -/
def NeverTouched (U : Util) (mem : Memory) (o₀ : Objects) (ts : List ObjectStep) : Prop :=
  ∀ us vs m o, us <+: ts → (objects U mem).Run o₀ us m → (objects U mem).Run m vs o →
    (∀ t ∈ vs, t.event.Unasked) → ∀ t ∈ us ++ vs, ¬ UseAfterFree t

/-- **When nothing that was destroyed is touched.** In every run from the start: each
    session is idle when it is destroyed, exactly when none is touched after that in any
    part of the run and what may follow that part without a call of a client. -/
theorem untouched_iff {U : Util} {mem : Memory} {hw : HwModule} {now : Int}
    {ts : List ObjectStep} {o : Objects}
    (hrun : (objects U mem).Run (Objects.boot mem hw now) ts o) :
    (∀ t ∈ ts, DestroysIdle t) ↔ NeverTouched U mem (Objects.boot mem hw now) ts := by
  refine (objects_borrow U mem).careful_iff hrun ⟨Objects.known_boot, fun s hs => ?_⟩
  rcases hs with ⟨t, ht, -⟩ | ⟨-, t, ht, -⟩ | hs
  · cases ht
  · cases ht
  · cases hs

/-- A session that has work in the queue, is closed and let go; then the next one. The
    task runs when `worked` is set. -/
def replacing (worked : Bool) : List ObjectEvent :=
  [.own (.createSession 0 10 0) true, .own (.request 0 .generateChallenge) false] ++
    (if worked then [.own (workAt 1) false] else []) ++
    [.own (.close 0) false, .release 0, .own (.createSession 0 10 0) true]

theorem untouched_after_work :
    let M := objects .millis .zeroed
    NeverTouched .millis .zeroed (.boot .zeroed .working 0)
      (M.steps (.boot .zeroed .working 0) (replacing true)) :=
  (untouched_iff (Machine.run_steps (by decide +kernel))).mp (by decide +kernel)

example : ¬ ∀ t ∈ (objects .millis .zeroed).steps (.boot .zeroed .working 0)
    (replacing false), DestroysIdle t := by decide +kernel

end FingerprintHal
