/-
  The death recipients of the clients.

  `createSession` links a recipient to the client, with the session as its cookie, and
  `close` deletes it. While new sessions are open, a client that is reported dead has the
  session that is open now, and only a client that closes a closed session makes the
  service delete a recipient twice (`recipients_run`).

  A client that dies before its recipient is linked is never reported. Its session stays
  open then, and `createSession` ends the process from there on (`recovers_iff`).
-/
import FingerprintHal.Session.Lifetime

namespace FingerprintHal

open Lib

/-! ## What is deleted -/

/-- The deletions of the recipient of a session in a step. -/
def deletedRecipients (t : ObjectStep) : List SessionId :=
  match t.event with
  | .own (.close s) _ => [s]
  | .own (.clientDeath s) _ => if t.pre.service.isClosed s then [] else [s]
  | _ => []

/-- The step deletes a recipient that has been deleted before. -/
def DeletesTwice (t : ObjectStep) : Prop := ∃ s ∈ deletedRecipients t, s ∉ t.pre.recipients

instance : DecidablePred DeletesTwice :=
  fun t => inferInstanceAs (Decidable (∃ s ∈ deletedRecipients t, s ∉ t.pre.recipients))

/-- A client closes a session that is closed. -/
def ClosesTwice (t : ObjectStep) : Prop :=
  match t.event with
  | .own (.close s) _ => t.pre.service.isClosed s = true
  | _ => False

/-- Whoever is reported dead has the open session. -/
def ReportsOpen (t : ObjectStep) : Prop :=
  match t.event with
  | .own (.clientDeath s) _ => t.pre.service.openSession = some s
  | _ => True

namespace Objects

/-- The invariant: the recipients that were not deleted are those of open sessions, which
    is one session at most. -/
structure Registered (o : Objects) : Prop where
  oneOpen : o.service.OneOpen
  recipients : ∀ s, s ∈ o.recipients ↔ o.service.isClosed s = false
  linked : ∀ s ∈ o.linked, s ∈ o.recipients

section Registered

variable {U : Util} {mem : Memory} {o o' : Objects} {s k : SessionId} {w' : Fingerprint}

theorem registered_boot {hw : HwModule} {now : Int} : (boot mem hw now).Registered where
  oneOpen := oneOpen_boot
  recipients s := by simp [boot, Fingerprint.boot, Fingerprint.isClosed]
  linked s h := by cases h

/-- A closed session, and no other, has lost its recipient. -/
theorem registered_close (h : o.Registered) :
    Registered { o.deleteRecipient k with service := { o.service with
      sessions := o.service.sessions.modify k fun x => { x with mIsClosed := true } } } where
  oneOpen := oneOpen_close h.oneOpen k
  recipients s := by
    simp only [deleteRecipient, List.mem_filter, bne_iff_ne, h.recipients s]
    unfold Fingerprint.isClosed
    dsimp only
    by_cases hk : k = s
    · subst hk
      rw [List.getElem?_modify_eq]
      cases o.service.sessions[k]? <;> simp
    · rw [List.getElem?_modify_ne _ _ hk]
      simp [Ne.symm hk]
  linked s hs := by
    simp only [deleteRecipient, List.mem_filter] at hs ⊢
    exact ⟨h.linked s hs.1, hs.2⟩

/-- Nothing changes when the references and the session objects stay. -/
theorem registered_same (h : o.Registered) (hs : w'.sessions = o.service.sessions)
    (hm : w'.mSession = o.service.mSession) : Registered { o with service := w' } where
  oneOpen := h.oneOpen.of_eq hs hm
  recipients s := by
    unfold Fingerprint.isClosed
    dsimp only
    rw [hs]
    exact h.recipients s
  linked := h.linked

theorem registered_own (hmem : ∀ n, mem.mIsClosed n = false) (h : o.Registered) {e : Event}
    {l : Bool} {outs : List Output}
    (hstep : (objects U mem).step o (.own e l) = some (o', outs)) : o'.Registered := by
  obtain ⟨hallows, hservice, ho⟩ := objects_own.mp hstep
  have hopen := oneOpen_step hservice h.oneOpen
  rw [ho]
  cases e with
  | createSession sensorId userId error =>
      obtain ⟨-, -, -, hw, -⟩ := step_createSession.mp hservice
      have hnext : ∀ s, o'.service.isClosed s = false ↔
          s = o.service.sessions.length ∨ o.service.isClosed s = false := by
        intro s
        rw [hw, isClosed_eq_false, isClosed_eq_false]
        rcases Nat.lt_trichotomy s o.service.sessions.length with hlt | rfl | hgt
        · -- an old session is as it was
          rw [List.getElem?_append_left hlt]
          exact (or_iff_right (Nat.ne_of_lt hlt)).symm
        · -- the new one is open
          refine iff_of_true ⟨_, List.getElem?_concat_length, ?_⟩ (Or.inl rfl)
          exact hmem _
        · -- and there is none beyond it
          rw [List.getElem?_eq_none (by simp; omega), List.getElem?_eq_none (by omega)]
          simp [Nat.ne_of_gt hgt]
      refine ⟨hopen, fun s => ?_, fun s hs => ?_⟩
      · simp only [next, List.mem_cons, h.recipients s]
        exact (hnext s).symm
      · simp only [next] at hs ⊢
        split at hs
        · exact List.mem_cons.mpr ((List.mem_cons.mp hs).imp_right (h.linked s))
        · exact List.mem_cons_of_mem _ (h.linked s hs)
  | close k =>
      obtain ⟨hw, -⟩ := close_frame hservice
      rw [hw]
      exact registered_close h
  | clientDeath k =>
      have hc : o.service.isClosed k = false := (h.recipients k).mp (h.linked k hallows)
      rcases clientDeath_frame hservice with ⟨-, hservice⟩ | ⟨hc', -⟩
      · obtain ⟨hw, -⟩ := close_frame hservice
        rw [hw]
        simp only [next, hc, Bool.false_eq_true, if_false]
        exact registered_close h
      · rw [hc] at hc'
        cases hc'
  | request k r =>
      obtain ⟨_, _, hw, -⟩ := request_frame hservice
      exact registered_same h (by rw [hw]) (by rw [hw])
  | cancel signal =>
      obtain ⟨hw, -⟩ := cancel_frame hservice
      exact registered_same h (by rw [hw]) (by rw [hw])
  | _ =>
      obtain ⟨hs, hm, -⟩ := handler_frame hservice rfl
      exact registered_same h hs hm

theorem registered_run {hw : HwModule} {now : Int} (hmem : ∀ n, mem.mIsClosed n = false)
    {ts : List ObjectStep} (hrun : (objects U mem).Run (boot mem hw now) ts o) :
    o.Registered := by
  refine hrun.state_invariant registered_boot fun o e o' outs h hstep => ?_
  cases e with
  | own e l => exact registered_own hmem h hstep
  | release s =>
      obtain ⟨-, rfl, -⟩ := objects_release.mp hstep
      exact ⟨h.oneOpen, h.recipients, h.linked⟩

end Registered

end Objects

/-- **Death recipients.** In every run in which new sessions are open: a client that is
    reported dead has the session that is open now, and a recipient is deleted a second
    time exactly when a client closes a session that is closed. -/
theorem recipients_run {U : Util} {mem : Memory} {hw : HwModule} {now : Int}
    (hmem : ∀ n, mem.mIsClosed n = false) {ts : List ObjectStep} {o : Objects}
    (hrun : (objects U mem).Run (Objects.boot mem hw now) ts o) :
    ∀ t ∈ ts, ReportsOpen t ∧ (DeletesTwice t ↔ ClosesTwice t) := by
  intro t ht
  obtain ⟨us, vs, -, hbefore, hstep, -⟩ := hrun.at_mem ht
  have hreg := Objects.registered_run hmem hbefore
  obtain ⟨o, e, o', outs⟩ := t
  dsimp only at hstep hreg
  -- only a `close` and a death delete a recipient
  cases e with
  | release s => exact ⟨trivial, by simp [DeletesTwice, deletedRecipients, ClosesTwice]⟩
  | own e l =>
      cases e with
      | close s =>
          refine ⟨trivial, ?_⟩
          simp [DeletesTwice, deletedRecipients, ClosesTwice, hreg.recipients]
      | clientDeath s =>
          have hl := hreg.linked s (objects_own.mp hstep).1
          have hc := (hreg.recipients s).mp hl
          refine ⟨hreg.oneOpen.openSession hc, ?_⟩
          simp [DeletesTwice, deletedRecipients, ClosesTwice, hc, hl]
      | _ => exact ⟨trivial, by simp [DeletesTwice, deletedRecipients, ClosesTwice]⟩

/-- A client that dies, with the next one coming. -/
theorem recipients_of_death :
    let ts := (objects .millis .zeroed).steps (.boot .zeroed .working 0)
      [.own (.createSession 0 10 0) true, .own (.clientDeath 0) false, .release 0,
        .own (.createSession 0 10 0) true]
    ∀ t ∈ ts, ReportsOpen t ∧ (DeletesTwice t ↔ ClosesTwice t) :=
  recipients_run (fun _ => rfl) (Machine.run_steps (by decide +kernel))

/-! ## A client that is gone -/

/-- The open session stays open, when its client is gone and was not linked. -/
theorem blocked_step {U : Util} {mem : Memory} {o o' : Objects} {e : ObjectEvent}
    {s : SessionId} {outs : List Output} (hopen : o.service.openSession = some s)
    (hheld : s ∉ o.held) (hlinked : s ∉ o.linked)
    (hstep : (objects U mem).step o e = some (o', outs)) :
    o'.service.openSession = some s ∧ s ∉ o'.held ∧ s ∉ o'.linked := by
  cases e with
  | release k =>
      obtain ⟨-, rfl, -⟩ := objects_release.mp hstep
      exact ⟨hopen, fun h => hheld (List.mem_filter.mp h).1, hlinked⟩
  | own e l =>
      obtain ⟨hallows, hservice, ho⟩ := objects_own.mp hstep
      have hcreate : e.creation = none := creation_of_open hservice hopen
      refine ⟨?_, ?_, ?_⟩
      · -- whoever closes a session holds it, or is linked
        rcases openSession_step hservice hopen with h | ⟨rfl | rfl, -⟩
        · exact h
        · exact absurd hallows hheld
        · exact absurd hallows hlinked
      · rw [ho, Objects.held_next hcreate]
        exact hheld
      · intro hs
        rw [ho] at hs
        rcases Objects.linked_next hs with hs | ⟨hc, -⟩
        · exact hlinked hs
        · exact hc hcreate

/-- Once its death is reported, the open session is closed. -/
theorem openSession_clientDeath {U : Util} {mem : Memory} {w w' : Fingerprint} {s : SessionId}
    {outs : List Output} (hopen : w.openSession = some s)
    (hstep : (service U mem).step w (.clientDeath s) = some (w', outs)) :
    w'.openSession = none := by
  obtain ⟨hm, hc⟩ := openSession_eq_some hopen
  rcases clientDeath_frame hstep with ⟨-, hstep⟩ | ⟨hc', -⟩
  · obtain ⟨rfl, -⟩ := close_frame hstep
    cases ho : Fingerprint.openSession { w with
        sessions := w.sessions.modify s fun x => { x with mIsClosed := true } } with
    | none => rfl
    | some k =>
        obtain ⟨hk, hopen'⟩ := openSession_eq_some ho
        obtain rfl : s = k := Option.some.inj (hm.symm.trans hk)
        obtain ⟨x, hx, hxc⟩ := isClosed_eq_false.mp hopen'
        rw [List.getElem?_modify_eq] at hx
        obtain ⟨y, -, rfl⟩ := Option.map_eq_some_iff.mp hx
        cases hxc
  · rw [hc] at hc'
    cases hc'

/-- Some continuation creates a session. -/
def Recovers (U : Util) (mem : Memory) (o : Objects) : Prop :=
  ∃ ts o', (objects U mem).Run o ts o' ∧
    ∃ t ∈ ts, ∃ sensorId userId error l,
      t.event = .own (.createSession sensorId userId error) l

/-- **A client that is gone.** While its session is open, another session can be created
    after all exactly when its death recipient is linked. -/
theorem recovers_iff {U : Util} {mem : Memory} {o : Objects} {s : SessionId}
    (hopen : o.service.openSession = some s) (hheld : s ∉ o.held) :
    Recovers U mem o ↔ s ∈ o.linked := by
  constructor
  · rintro ⟨ts, o', hrun, t, ht, sensorId, userId, error, l, he⟩
    refine Classical.byContradiction fun hlinked => ?_
    obtain ⟨us, vs, -, hbefore, hstep, -⟩ := hrun.at_mem ht
    obtain ⟨hpre, -⟩ := hbefore.state_invariant (I := fun o =>
        o.service.openSession = some s ∧ s ∉ o.held ∧ s ∉ o.linked)
      ⟨hopen, hheld, hlinked⟩ fun _ _ _ _ h hs => blocked_step h.1 h.2.1 h.2.2 hs
    rw [he] at hstep
    rw [(step_createSession.mp (objects_own.mp hstep).2.1).1] at hpre
    cases hpre
  · -- the death is reported, the session closed, and then there is room for another one
    intro hlinked
    obtain ⟨x, hx, -⟩ := isClosed_eq_false.mp (openSession_eq_some hopen).2
    have hs : s < o.service.sessions.length := (List.getElem?_eq_some_iff.mp hx).1
    obtain ⟨⟨w', outs⟩, hdeath⟩ :
        ∃ r, (service U mem).step o.service (.clientDeath s) = some r :=
      ⟨(_, _), step_clientDeath.mpr ⟨hs, rfl⟩⟩
    have hd : (objects U mem).step o (.own (.clientDeath s) false) =
        some (o.next w' (.own (.clientDeath s) false), outs) := objects_of_service hlinked hdeath
    have hnone : (o.next w' (.own (.clientDeath s) false)).service.openSession = none := by
      rw [Objects.next_service]
      exact openSession_clientDeath hopen hdeath
    have hnew : (objects U mem).step (o.next w' (.own (.clientDeath s) false))
        (.own (.createSession 0 0 0) false) = some (_, _) :=
      objects_of_service trivial
        (step_createSession.mpr ⟨hnone, by decide, by decide, rfl, rfl⟩)
    exact ⟨_, _, .cons hd (.single hnew), _, List.mem_cons_of_mem _ List.mem_cons_self,
      0, 0, 0, false, rfl⟩

/-- The client dies before `linkToDeath` is called. -/
theorem recovers_iff_unlinked :
    let o := (objects .millis .zeroed).final (.boot .zeroed .working 0)
      [.own (.createSession 0 10 0) false, .release 0]
    Recovers .millis .zeroed o ↔ 0 ∈ o.linked :=
  recovers_iff (by decide +kernel) (by decide +kernel)

end FingerprintHal
