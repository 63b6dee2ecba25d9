/-
  When the light is left on without a finger.

  A press is taken back by a pointer-up that runs; a match, a failed match and some other
  messages take it back too, but nothing makes them come. Nobody takes it back when the
  client cancels the press (`onPointerCancelWithContext` does nothing), closes its session
  or dies, and a pointer-up that finds the queue full is lost. So the light is off whenever
  the service is at rest without a finger, in every run in which none of that happens
  while there is a press, and presses are reported on the open session only
  (`no_spot_left`).

  `pointerLeft` is what is left of the pointer events once the tasks that wait have run.
  The invariant is that it is a pointer-down only while that is what the client of the open
  session has said last (`PressReported`).
-/
import FingerprintHal.Light.Illumination
import FingerprintHal.Session.Queue

namespace FingerprintHal

open Lib

/-! ## What clients report -/

/-- The pointer event a request reports. -/
def Request.pointer : Request → Option Pointer
  | .onPointerDown _ _ _ => some .down
  | .onPointerUp _ => some .up
  | .onPointerDownWithContext _ => some .down
  | .onPointerUpWithContext _ => some .up
  | .onPointerCancelWithContext _ => some .cancel
  | _ => none

/-- The session on which a pointer event is reported, and the event. -/
def Event.pointer : Event → Option (SessionId × Pointer)
  | .request s r => r.pointer.map fun p => (s, p)
  | _ => none

/-- The session an event closes, if it is not closed yet. -/
def Event.closes : Event → Option SessionId
  | .close s => some s
  | .clientDeath s => some s
  | _ => none

/-- The pointer event that is reported on `s`. -/
def Event.pointerOn (s : SessionId) (e : Event) : Option Pointer :=
  e.pointer.bind fun q => if q.1 = s then some q.2 else none

/-- The last pointer event reported on `s`. -/
def lastPointer (s : SessionId) (us : List Handler) : Option Pointer :=
  (us.filterMap fun t => t.event.pointerOn s).getLast?

theorem lastPointer_snoc (s : SessionId) (us : List Handler) (t : Handler) :
    lastPointer s (us ++ [t]) = (t.event.pointerOn s).or (lastPointer s us) := by
  unfold lastPointer
  rw [filterMap_snoc, List.getLast?_append]
  cases t.event.pointerOn s <;> rfl

/-! ## What is left of them -/

/-- The pointer events that wait in the queue. -/
def Fingerprint.pointers (w : Fingerprint) : List Pointer :=
  w.mWorker.items.filterMap fun t => t.body.pointer

/-- What the light says about a finger. -/
def shown (us : List Handler) : Pointer :=
  if illumination (trace us) = .released then .up else .down

/-- The pointer event that stands once the tasks that wait have run: the last one in the
    queue, and while none waits what the light says. -/
def pointerLeft (us : List Handler) (w : Fingerprint) : Pointer :=
  w.pointers.getLast?.getD (shown us)

/-- The service is at rest without a finger: no task waits, and no session is open or the
    last pointer event on the open one was an up or a cancel. -/
structure FingerGone (us : List Handler) (w : Fingerprint) : Prop where
  idle : w.mWorker.items = []
  gone : ∀ s, w.openSession = some s →
    lastPointer s us = some .up ∨ lastPointer s us = some .cancel

/-! ## Pointer events that are not lost -/

/-- What a pointer event on `s` needs so that nothing is left of a press afterwards: a
    down is only made into a task on the open session; an up on the open session finds
    room in the queue, or nothing to take back; a cancel finds nothing to take back. -/
def Followed (us : List Handler) (w : Fingerprint) (s : SessionId) : Pointer → Prop
  | .down => w.HasRoom → w.openSession = some s
  | .up => w.openSession = some s → w.HasRoom ∨ pointerLeft us w ≠ .down
  | .cancel => w.openSession = some s → pointerLeft us w ≠ .down

instance (us : List Handler) (w : Fingerprint) (s : SessionId) :
    DecidablePred (Followed us w s)
  | .down => inferInstanceAs (Decidable (w.HasRoom → w.openSession = some s))
  | .up => inferInstanceAs (Decidable
      (w.openSession = some s → w.HasRoom ∨ pointerLeft us w ≠ .down))
  | .cancel => inferInstanceAs (Decidable
      (w.openSession = some s → pointerLeft us w ≠ .down))

/-- The step takes care of the press: so does its pointer event, and the open session is
    closed, or its client dies, with no press left only. -/
def TakesBack (us : List Handler) (t : Handler) : Prop :=
  (∀ q ∈ t.event.pointer, Followed us t.pre q.1 q.2) ∧
    ∀ s ∈ t.event.closes, t.pre.openSession = some s → pointerLeft us t.pre ≠ .down

instance (us : List Handler) : DecidablePred (TakesBack us) := fun t =>
  @instDecidableAnd _ _
    (@Option.decidableForallMem _ _ (fun _ => inferInstance) t.event.pointer)
    (@Option.decidableForallMem _ _ (fun _ => inferInstance) t.event.closes)

/-! ## The invariant -/

/-- A press that is left is what the client of the open session has reported last. -/
def PressReported (us : List Handler) (w : Fingerprint) : Prop :=
  pointerLeft us w = .down →
    ∃ s, w.openSession = some s ∧ lastPointer s us = some .down

section Left

variable {us : List Handler} {t : Handler}

/-- The light is not touched. -/
theorem shown_of_light (h : ∀ i : Illumination, t.outs.foldl Illumination.after i = i) :
    shown (us ++ [t]) = shown us := by
  unfold shown
  rw [illumination_snoc, h]

/-- The light is not touched, or switched off. -/
theorem shown_of_off (h : ∀ i : Illumination, t.outs.foldl Illumination.after i = i ∨
    t.outs.foldl Illumination.after i = .released) (hs : shown (us ++ [t]) = .down) :
    shown us = .down := by
  rcases h (illumination (trace us)) with h | h
  · unfold shown at hs ⊢
    rw [illumination_snoc, h] at hs
    exact hs
  · unfold shown at hs
    rw [illumination_snoc, h] at hs
    cases hs

/-- With the same queue, a press that is left was left before. -/
theorem pointerLeft_same {w w' : Fingerprint} {vs : List Handler}
    (hq : w'.mWorker = w.mWorker) (hs : shown vs = .down → shown us = .down)
    (h : pointerLeft vs w' = .down) : pointerLeft us w = .down := by
  have hp : w'.pointers = w.pointers := by
    unfold Fingerprint.pointers
    rw [hq]
  unfold pointerLeft at h ⊢
  rw [hp] at h
  cases hl : w.pointers.getLast? with
  | none =>
      rw [hl] at h
      exact hs h
  | some p =>
      rw [hl] at h
      exact h

/-- The oldest task is the one whose place the light takes. -/
theorem pointerLeft_cons {w : Fingerprint} {t : Task} {q : List Task}
    (hi : w.mWorker.items = t :: q) :
    pointerLeft us w =
      (q.filterMap fun t => t.body.pointer).getLast?.getD
        (t.body.pointer.getD (shown us)) := by
  unfold pointerLeft Fingerprint.pointers
  rw [hi, List.filterMap_cons]
  cases t.body.pointer with
  | none => rfl
  | some p =>
      dsimp only
      rw [List.getLast?_cons]
      cases hl : (q.filterMap fun t => t.body.pointer).getLast? <;> rfl

/-- A task that is added comes last. -/
theorem pointerLeft_added {w w' : Fingerprint} {a : Option Task} {vs : List Handler}
    (hi : w'.mWorker.items = w.mWorker.items ++ a.toList) (hs : shown vs = shown us) :
    pointerLeft vs w' = (a.bind fun t => t.body.pointer).getD (pointerLeft us w) := by
  unfold pointerLeft Fingerprint.pointers
  rw [hi, hs, List.filterMap_append]
  cases a with
  | none => rw [Option.toList_none, List.filterMap_nil, List.append_nil]; rfl
  | some t =>
      rw [Option.toList_some, List.filterMap_cons, List.filterMap_nil]
      cases hp : t.body.pointer with
      | none => rw [List.append_nil]; simp [hp]
      | some p => simp [hp]

end Left

/-- A task reports what the request reports that it comes from; there is none for a
    cancel. -/
theorem added_pointer (s : SessionId) (r : Request) (w : Fingerprint) :
    ((w.added s r).bind fun t => t.body.pointer) =
      if w.HasRoom ∧ r.pointer ≠ some .cancel then r.pointer else none := by
  by_cases hroom : w.HasRoom
  · rw [added_of_room hroom]
    simp only [hroom, true_and]
    cases r <;> rfl
  · rw [added_of_full hroom, if_neg fun h => hroom h.1]
    rfl

/-! ## Step by step -/

section Steps

variable {U : Util} {mem : Memory} {us : List Handler} {w w' : Fingerprint}
  {o : List Output}

/-- The history keeps what was reported on `s`, and adds what is reported now. -/
theorem lastPointer_request {s k : SessionId} {r : Request} :
    lastPointer k (us ++ [⟨w, .request s r, w', o⟩]) =
      if s = k then r.pointer.or (lastPointer k us) else lastPointer k us := by
  rw [lastPointer_snoc]
  unfold Event.pointerOn Event.pointer
  dsimp only
  cases r.pointer with
  | none => simp
  | some p =>
      by_cases hk : s = k
      · simp [hk]
      · simp [hk]

theorem lastPointer_other {e : Event} {k : SessionId} (h : e.pointer = none) :
    lastPointer k (us ++ [⟨w, e, w', o⟩]) = lastPointer k us := by
  rw [lastPointer_snoc]
  unfold Event.pointerOn
  dsimp only
  rw [h]
  rfl

/-- A request leaves what it reports, if its task finds room. -/
theorem pointerLeft_request {s : SessionId} {r : Request}
    (hstep : (service U mem).step w (.request s r) = some (w', o)) :
    pointerLeft (us ++ [⟨w, .request s r, w', o⟩]) w' =
      (if w.HasRoom ∧ r.pointer ≠ some .cancel then r.pointer else none).getD
        (pointerLeft us w) := by
  have hitems : w'.mWorker.items = w.mWorker.items ++ (w.added s r).toList := by
    rw [(Prod.mk.inj (step_request.mp hstep).2).1]
    exact call_items s r w
  rw [← added_pointer s]
  exact pointerLeft_added hitems (shown_of_light (client_light hstep rfl))

theorem pressReported_request {s : SessionId} {r : Request}
    (hstep : (service U mem).step w (.request s r) = some (w', o))
    (hf : ∀ p, r.pointer = some p → Followed us w s p) (h : PressReported us w) :
    PressReported (us ++ [⟨w, .request s r, w', o⟩]) w' := by
  intro hleft
  rw [pointerLeft_request hstep] at hleft
  have hopen : w'.openSession = w.openSession := by
    obtain ⟨_, _, rfl, -⟩ := request_frame hstep
    rfl
  simp only [lastPointer_request, hopen]
  by_cases hdown : w.HasRoom ∧ r.pointer = some .down
  · -- the press that has just been reported
    obtain ⟨hroom, hp⟩ := hdown
    have hs : w.openSession = some s := hf .down hp hroom
    exact ⟨s, hs, by rw [if_pos rfl, hp]; rfl⟩
  · -- a press that was left before
    have hbefore : pointerLeft us w = .down := by
      split at hleft
      · next hc =>
          cases hp : r.pointer with
          | none =>
              rw [hp] at hleft
              exact hleft
          | some p =>
              rw [hp] at hleft
              have hp' : p = .down := hleft
              exact absurd ⟨hc.1, hp.trans (congrArg some hp')⟩ hdown
      · exact hleft
    obtain ⟨k, hk, hlast⟩ := h hbefore
    refine ⟨k, hk, ?_⟩
    by_cases hs : s = k
    · rw [if_pos hs]
      cases hp : r.pointer with
      | none => exact hlast
      | some p =>
          have hfp := hf p hp
          cases p with
          | down => rfl
          | up =>
              have hup := hfp (hs ▸ hk)
              rw [hp] at hleft
              rcases hup with hroom | hne
              · rw [if_pos ⟨hroom, by simp⟩] at hleft
                cases hleft
              · exact absurd hbefore hne
          | cancel => exact absurd hbefore (hfp (hs ▸ hk))
    · rw [if_neg hs]
      exact hlast

/-- The worker runs the oldest task: a press that is left was left before. -/
theorem pointerLeft_work {inp : TaskInputs}
    (hstep : (service U mem).step w (.work inp) = some (w', o))
    (h : pointerLeft (us ++ [⟨w, .work inp, w', o⟩]) w' = .down) :
    pointerLeft us w = .down := by
  obtain ⟨t, q, hi, he⟩ := step_work.mp hstep
  have ho : o = _ := congrArg Prod.snd he
  obtain ⟨e, hf⟩ := run_frame U inp t { w with mWorker := q, clock := inp.clk.atTimeLeft }
  have hw : w' = _ := (congrArg Prod.fst he).trans hf
  have hq : w'.mWorker.items = q.items := by rw [hw]
  rw [pointerLeft_cons hi]
  unfold pointerLeft Fingerprint.pointers at h
  rw [hq] at h
  cases hl : (q.items.filterMap fun t => t.body.pointer).getLast? with
  | some p =>
      rw [hl] at h
      exact h
  | none =>
      rw [hl] at h
      -- no pointer task is left, so the light has the last word
      show t.body.pointer.getD (shown us) = .down
      have hs : shown (us ++ [⟨w, .work inp, w', o⟩]) = .down := h
      cases hp : t.body.pointer with
      | none =>
          refine (shown_of_light fun i => ?_).symm.trans hs
          show o.foldl Illumination.after i = i
          rw [ho]
          exact run_light_other hp i
      | some p =>
          cases p with
          | down => rfl
          | cancel => cases hb : t.body <;> rw [hb] at hp <;> cases hp
          | up =>
              unfold shown at hs
              rw [illumination_snoc] at hs
              dsimp only at hs
              rw [ho, run_light_up hp] at hs
              cases hs

theorem pressReported_close {s : SessionId} {e : Event}
    (hstep : (service U mem).step w (.close s) = some (w', o)) (he : e.pointer = none)
    (hc : w.openSession = some s → pointerLeft us w ≠ .down) (h : PressReported us w) :
    PressReported (us ++ [⟨w, e, w', o⟩]) w' := by
  intro hleft
  have hlight := client_light hstep rfl
  obtain ⟨rfl, -⟩ := close_frame hstep
  have hbefore := pointerLeft_same (w := w) rfl
    (fun hs => (@shown_of_light us ⟨w, e, _, o⟩ hlight).symm.trans hs) hleft
  obtain ⟨k, hk, hlast⟩ := h hbefore
  refine ⟨k, openSession_close hk ?_, (lastPointer_other he).trans hlast⟩
  rintro rfl
  exact hc hk hbefore

theorem pressReported_step {t : Handler} (h : PressReported us t.pre)
    (htb : TakesBack us t)
    (hstep : (service U mem).step t.pre t.event = some (t.post, t.outs)) :
    PressReported (us ++ [t]) t.post := by
  obtain ⟨w, e, w', o⟩ := t
  dsimp only at hstep h
  -- the queue and the open session stay, and the light is not switched on
  have hsame : e.pointer = none → w'.mWorker = w.mWorker →
      w'.openSession = w.openSession →
      (∀ i : Illumination, o.foldl Illumination.after i = i ∨
        o.foldl Illumination.after i = .released) →
      PressReported (us ++ [⟨w, e, w', o⟩]) w' := by
    intro he hq ho hlight hleft
    have hbefore := pointerLeft_same (w := w) hq
      (@shown_of_off us ⟨w, e, w', o⟩ hlight) hleft
    obtain ⟨k, hk, hlast⟩ := h hbefore
    exact ⟨k, ho.trans hk, (lastPointer_other he).trans hlast⟩
  cases e with
  | request s r =>
      refine pressReported_request hstep (fun p hp => ?_) h
      exact htb.1 (s, p) (by simp [Event.pointer, hp])
  | close s => exact pressReported_close hstep rfl (htb.2 s rfl) h
  | clientDeath s =>
      rcases clientDeath_frame hstep with ⟨-, hstep⟩ | ⟨-, rfl, rfl⟩
      · exact pressReported_close hstep rfl (htb.2 s rfl) h
      · exact hsame rfl rfl rfl fun i => Or.inl rfl
  | createSession sensorId userId error =>
      intro hleft
      have hlight := client_light hstep rfl
      obtain ⟨hnone, -, -, rfl, -⟩ := step_createSession.mp hstep
      have hbefore := pointerLeft_same (w := w) rfl
        (fun hs => (@shown_of_light us ⟨w, _, _, o⟩ hlight).symm.trans hs) hleft
      obtain ⟨k, hk, -⟩ := h hbefore
      rw [hnone] at hk
      cases hk
  | cancel signal =>
      obtain ⟨rfl, rfl⟩ := cancel_frame hstep
      exact hsame rfl rfl rfl fun i => Or.inl rfl
  | work inp =>
      intro hleft
      obtain ⟨k, hk, hlast⟩ := h (pointerLeft_work hstep hleft)
      obtain ⟨hs, hm, -⟩ := handler_frame hstep rfl
      exact ⟨k, (openSession_congr hs hm).trans hk, (lastPointer_other rfl).trans hlast⟩
  | message msg clk =>
      have hlight := message_light hstep
      obtain ⟨_, _, rfl⟩ := message_frame hstep
      exact hsame rfl rfl rfl hlight
  | timer i now =>
      have hlight := timer_light hstep
      obtain ⟨_, rfl⟩ := timer_frame hstep
      exact hsame rfl rfl rfl fun i => Or.inl (hlight i)

end Steps

/-- **When no spot is left.** In every run in which each step takes care of the press, the
    light is off in every state in which the service is at rest without a finger. -/
theorem no_spot_left {U : Util} {mem : Memory} {hw : HwModule} {now : Int}
    {w : Fingerprint} {ts : List Handler}
    (hrun : (service U mem).Run (Fingerprint.boot mem hw now).1 ts w)
    (hback : Along TakesBack ts) (hgone : FingerGone ts w) :
    illumination (trace ts) = .released := by
  have hI : PressReported ts w := by
    refine hrun.invariant hback (I := PressReported) ?_
      fun us t hI hC hs => pressReported_step hI hC hs
    intro h
    cases h
  have hleft : pointerLeft ts w = shown ts := by
    unfold pointerLeft Fingerprint.pointers
    rw [hgone.idle]
    rfl
  by_cases hoff : illumination (trace ts) = .released
  · exact hoff
  · have hdown : pointerLeft ts w = .down := by
      rw [hleft]
      exact if_neg hoff
    obtain ⟨s, hs, hlast⟩ := hI hdown
    rcases hgone.gone s hs with h | h
    · rw [hlast] at h
      cases h
    · rw [hlast] at h
      cases h

/-- A press and a pointer-up after it. -/
def pressAndLift : List Event :=
  [.createSession 0 10 0, .request 0 (.onPointerDown 0 5 5), workAt 1,
    .request 0 (.onPointerUp 0), workAt 2]

theorem no_spot_left_lift :
    illumination (trace ((service .millis .zeroed).steps .ready pressAndLift)) =
      .released :=
  @no_spot_left .millis .zeroed .working 0 _ _ (Machine.run_steps (by decide +kernel))
    (by decide +kernel)
    ⟨by decide +kernel, fun s h => by
      have h0 : ((service .millis .zeroed).final .ready pressAndLift).openSession =
        some 0 := by decide +kernel
      obtain rfl := Option.some.inj (h0.symm.trans h)
      exact Or.inl (by decide +kernel)⟩

/-- A press that the client cancels: the light stays on. -/
theorem cancelled_press_stays :
    let M := service .millis .zeroed
    let es := [.createSession 0 10 0, .request 0 (.onPointerDown 0 5 5), workAt 1,
      .request 0 (.onPointerCancelWithContext ⟨0, 5, 5⟩)]
    M.Run .ready (M.steps .ready es) (M.final .ready es) ∧
      FingerGone (M.steps .ready es) (M.final .ready es) ∧
      illumination (trace (M.steps .ready es)) = .pressed := by
  refine ⟨Machine.run_steps (by decide +kernel), ⟨by decide +kernel, fun s h => ?_⟩,
    by decide +kernel⟩
  have h0 : ((service .millis .zeroed).final .ready [.createSession 0 10 0,
      .request 0 (.onPointerDown 0 5 5), workAt 1,
      .request 0 (.onPointerCancelWithContext ⟨0, 5, 5⟩)]).openSession = some 0 := by
    decide +kernel
  obtain rfl := Option.some.inj (h0.symm.trans h)
  exact Or.inr (by decide +kernel)

end FingerprintHal
