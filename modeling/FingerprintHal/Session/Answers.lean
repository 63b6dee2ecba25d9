/-
  Who gets the answers of the vendor module.

  The service and the vendor module as one machine (`system`): every call the module has
  accepted is kept with the session it was made for, and the module may answer each of
  them, as often and as late as it likes, with the messages documented for it in
  fingerprint-xiaomi.h. What else the module sends is an event of the service as before.

  A message carries no session; it is handed on to the session that is open when it comes,
  and the last message of an enumeration with all that the static vector has kept, whoever
  asked for it. So answers go to the session that asked, or to nobody, exactly when no later
  session is open when they are handed on (`answers_to_asker_iff`).
-/
import FingerprintHal.Lib.History
import FingerprintHal.Session.Enumeration
import FingerprintHal.Session.Steps

namespace FingerprintHal

open Lib

/-! ## The vendor module -/

/-- A call the vendor module has accepted, and the session it was made for. -/
structure DeviceOp where
  session : SessionId
  call : DeviceCall
deriving DecidableEq

/-- Whether the module has accepted the call, as far as the engine can tell. -/
def DeviceCall.isAccepted : DeviceCall → Bool
  | .generateChallenge => true
  | .revokeChallenge _ error => error == 0
  | .enroll _ error => error == 0
  | .authenticate _ error => error == 0
  | .enumerate error => error == 0
  | .remove _ _ => true
  | .getAuthenticatorId => true
  | .invalidateAuthenticatorId => true
  | _ => false

/-- The messages documented for a call. -/
def DeviceCall.answers : DeviceCall → Msg → Bool
  | .generateChallenge, .FINGERPRINT_CHALLENGE_GENERATED _ => true
  | .revokeChallenge _ _, .FINGERPRINT_CHALLENGE_REVOKED _ => true
  | .enroll _ _, .FINGERPRINT_TEMPLATE_ENROLLING _ _ => true
  | .authenticate _ _, .FINGERPRINT_AUTHENTICATED _ _ => true
  | .enumerate _, .FINGERPRINT_TEMPLATE_ENUMERATING _ _ => true
  | .remove _ _, .FINGERPRINT_TEMPLATE_REMOVED _ _ => true
  | .getAuthenticatorId, .FINGERPRINT_AUTHENTICATOR_ID_RETRIEVED _ => true
  | .invalidateAuthenticatorId, .FINGERPRINT_AUTHENTICATOR_ID_INVALIDATED _ => true
  | _, _ => false

/-- What the module has accepted in a step: the calls of the task that ran. -/
def acceptedOps (w : Fingerprint) (e : Event) (o : List Output) : List DeviceOp :=
  match e, w.mWorker.items with
  | .work _, t :: _ => o.filterMap fun x =>
      match x with
      | .device _ c => if c.isAccepted then some ⟨t.session, c⟩ else none
      | _ => none
  | _, _ => []

/-- The service, and what the vendor module has accepted so far, in order. -/
structure System where
  service : Fingerprint
  ops : List DeviceOp

/-- An event of the service, or an answer to the `k`-th accepted call. -/
inductive SystemEvent
  | own (e : Event)
  | answer (k : Nat) (msg : Msg) (clk : Readings)

namespace SystemEvent

/-- What the service gets to see. -/
def event : SystemEvent → Event
  | .own e => e
  | .answer _ msg clk => .message msg clk

/-- The module answers what it has accepted, and as documented. -/
def Allowed (ops : List DeviceOp) : SystemEvent → Prop
  | .own _ => True
  | .answer k msg _ => ∃ op ∈ ops[k]?, op.call.answers msg = true

instance (ops : List DeviceOp) : DecidablePred (Allowed ops)
  | .own _ => inferInstanceAs (Decidable True)
  | .answer k msg _ => inferInstanceAs (Decidable (∃ op ∈ ops[k]?, op.call.answers msg = true))

/-- The call an event answers. -/
def answered (ops : List DeviceOp) : SystemEvent → Option DeviceOp
  | .own _ => none
  | .answer k _ _ => ops[k]?

end SystemEvent

/-- The service together with the vendor module. -/
def system (U : Util) (mem : Memory) : Machine System SystemEvent Output where
  step s e :=
    if e.Allowed s.ops then
      (Fingerprint.step U mem s.service e.event).map fun r =>
        (⟨r.1, s.ops ++ acceptedOps s.service e.event r.2⟩, r.2)
    else none

/-- The constructor of `Fingerprint`, and a module that has accepted nothing. -/
def System.boot (mem : Memory) (hw : HwModule) (now : Int) : System :=
  ⟨(Fingerprint.boot mem hw now).1, []⟩

abbrev SystemHandler := Transition System SystemEvent Output

theorem system_step {U : Util} {mem : Memory} {s s' : System} {e : SystemEvent}
    {o : List Output} :
    (system U mem).step s e = some (s', o) ↔
      e.Allowed s.ops ∧ (service U mem).step s.service e.event = some (s'.service, o) ∧
      s'.ops = s.ops ++ acceptedOps s.service e.event o := by
  simp only [system, service]
  rw [Option.ite_none_right_eq_some, Option.map_eq_some_iff]
  refine and_congr_right fun _ => ⟨?_, ?_⟩
  · rintro ⟨⟨w, p⟩, hs, he⟩
    obtain ⟨rfl, rfl⟩ := Prod.mk.inj he
    exact ⟨hs, rfl⟩
  · rintro ⟨hs, hops⟩
    refine ⟨(s'.service, o), hs, ?_⟩
    dsimp only
    rw [← hops]

/-- Every run of the system is a run of the service. -/
theorem system_run_service {U : Util} {mem : Memory} {s₀ s : System}
    {ts : List SystemHandler} (h : (system U mem).Run s₀ ts s) :
    (service U mem).Run s₀.service
      (ts.filterMap (Machine.absStep System.service (fun _ e => some e.event) id))
      s.service :=
  h.simulate System.service (fun _ e => some e.event) id
    fun _ _ _ _ hs => (system_step.mp hs).2.1

/-! ## At most one session is open -/

/-- The current session is the last one created, and no other is open. -/
structure Fingerprint.OneOpen (w : Fingerprint) : Prop where
  last : ∀ s, w.mSession = some s → s + 1 = w.sessions.length
  only : ∀ s, w.isClosed s = false → w.mSession = some s

theorem Fingerprint.OneOpen.openSession {w : Fingerprint} (h : w.OneOpen) {s : SessionId}
    (hs : w.isClosed s = false) : w.openSession = some s :=
  openSession_of (h.only s hs) hs

/-- A session that is open after a `close` was open before. -/
theorem isClosed_of_modify {w : Fingerprint} {s k : SessionId}
    (h : Fingerprint.isClosed s { w with
      sessions := w.sessions.modify k fun x => { x with mIsClosed := true } } = false) :
    w.isClosed s = false := by
  obtain ⟨x, hx, hc⟩ := isClosed_eq_false.mp h
  rw [List.getElem?_modify] at hx
  obtain ⟨y, hy, rfl⟩ := Option.map_eq_some_iff.mp hx
  refine isClosed_eq_false.mpr ⟨y, hy, ?_⟩
  split at hc
  · cases hc
  · exact hc

theorem oneOpen_boot {mem : Memory} {hw : HwModule} {now : Int} :
    (Fingerprint.boot mem hw now).1.OneOpen where
  last s h := by cases h
  only s h := by cases h

theorem oneOpen_close {w : Fingerprint} (h : w.OneOpen) (k : SessionId) :
    Fingerprint.OneOpen { w with
      sessions := w.sessions.modify k fun x => { x with mIsClosed := true } } where
  last s hs := by
    rw [List.length_modify]
    exact h.last s hs
  only s hs := h.only s (isClosed_of_modify hs)

/-- It only depends on the session objects. -/
theorem Fingerprint.OneOpen.of_eq {w w' : Fingerprint} (h : w.OneOpen)
    (hs : w'.sessions = w.sessions) (hm : w'.mSession = w.mSession) : w'.OneOpen where
  last s hc := by
    rw [hs]
    exact h.last s (hm.symm.trans hc)
  only s hc := by
    unfold Fingerprint.isClosed at hc
    rw [hs] at hc
    exact hm.trans (h.only s hc)

/-- `createSession` ends the process while a session is open, so there is at most one. -/
theorem oneOpen_step {U : Util} {mem : Memory} {w w' : Fingerprint} {e : Event}
    {o : List Output} (hstep : (service U mem).step w e = some (w', o)) (h : w.OneOpen) :
    w'.OneOpen := by
  cases e with
  | createSession sensorId userId error =>
      obtain ⟨hopen, -, -, rfl, -⟩ := step_createSession.mp hstep
      refine ⟨fun s hs => ?_, fun s hs => ?_⟩
      · cases hs
        simp
      · obtain ⟨x, hx, hc⟩ := isClosed_eq_false.mp hs
        dsimp only at hx
        rcases Nat.lt_trichotomy s w.sessions.length with hlt | rfl | hgt
        · rw [List.getElem?_append_left hlt] at hx
          have := h.openSession (isClosed_eq_false.mpr ⟨x, hx, hc⟩)
          rw [hopen] at this
          cases this
        · rfl
        · rw [List.getElem?_eq_none (by simp; omega)] at hx
          cases hx
  | close s =>
      obtain ⟨rfl, -⟩ := close_frame hstep
      exact oneOpen_close h s
  | clientDeath s =>
      rcases clientDeath_frame hstep with ⟨-, hstep⟩ | ⟨-, rfl, -⟩
      · obtain ⟨rfl, -⟩ := close_frame hstep
        exact oneOpen_close h s
      · exact h
  | request s r =>
      obtain ⟨_, _, rfl, -⟩ := request_frame hstep
      exact h.of_eq rfl rfl
  | cancel signal =>
      obtain ⟨rfl, -⟩ := cancel_frame hstep
      exact h.of_eq rfl rfl
  | _ =>
      obtain ⟨hs, hm, -⟩ := handler_frame hstep rfl
      exact h.of_eq hs hm

/-! ## Answers -/

/-- The callbacks that hand on an answer. -/
def Callback.isAnswer : Callback → Bool
  | .onChallengeGenerated _ => true
  | .onChallengeRevoked _ => true
  | .onAuthenticatorIdRetrieved _ => true
  | .onAuthenticatorIdInvalidated _ => true
  | .onEnrollmentProgress _ _ => true
  | .onAuthenticationSucceeded _ _ => true
  | .onAuthenticationFailed => true
  | .onEnrollmentsEnumerated _ => true
  | .onEnrollmentsRemoved _ => true
  | _ => false

def Output.isAnswer : Output → Bool
  | .callback _ c => c.isAnswer
  | _ => false

/-- The callbacks the answers to a call are handed on as. -/
def DeviceCall.handedOnAs : DeviceCall → Callback → Bool
  | .generateChallenge, .onChallengeGenerated _ => true
  | .revokeChallenge _ _, .onChallengeRevoked _ => true
  | .enroll _ _, .onEnrollmentProgress _ _ => true
  | .authenticate _ _, .onAuthenticationSucceeded _ _ => true
  | .authenticate _ _, .onAuthenticationFailed => true
  | .enumerate _, .onEnrollmentsEnumerated _ => true
  | .remove _ _, .onEnrollmentsRemoved _ => true
  | .getAuthenticatorId, .onAuthenticatorIdRetrieved _ => true
  | .invalidateAuthenticatorId, .onAuthenticatorIdInvalidated _ => true
  | _, _ => false

/-- The session that asked is told the answer. -/
def Output.answers (op : DeviceOp) : Output → Bool
  | .callback s c => s == op.session && op.call.handedOnAs c
  | _ => false

theorem isAnswer_of_handedOnAs {call : DeviceCall} {c : Callback}
    (h : call.handedOnAs c = true) : c.isAnswer = true := by
  unfold DeviceCall.handedOnAs at h
  split at h <;> first | rfl | cases h

/-! ## Whose answers a step hands on

  An answer is handed on with its own message, but for the fingerprints of an enumeration:
  they stay in the static vector of `Session::notify`, which belongs to no session, and
  are all handed on with the message that ends it. So each of them is labelled here with
  the call it answers. -/

/-- What the service sees of a step. -/
def ofService (t : SystemHandler) : Handler :=
  ⟨t.pre.service, t.event.event, t.post.service, t.outs⟩

/-- The piece of an enumeration a step brings, labelled. -/
def piece (t : SystemHandler) : Option (Chunk (BitVec 32 × Option DeviceOp)) :=
  (report (ofService t)).map (Chunk.map fun fid => (fid, t.event.answered t.pre.ops))

/-- The fingerprints that are in the static vector after `us`, labelled. -/
def kept (us : List SystemHandler) : List (BitVec 32 × Option DeviceOp) :=
  Chunk.collected (us.filterMap piece)

/-- The fingerprints a step hands on when it ends an enumeration, labelled. -/
def ended (us : List SystemHandler) (t : SystemHandler) :
    List (BitVec 32 × Option DeviceOp) :=
  match piece t with
  | some c => if c.remaining = 0 then kept us ++ [c.item] else []
  | none => []

/-- The calls whose answers are to be handed on with a step. -/
def due (us : List SystemHandler) (t : SystemHandler) : List DeviceOp :=
  match piece t with
  | some _ => (ended us t).filterMap Prod.snd
  | none => (t.event.answered t.pre.ops).toList

/-- The answers of a step go to those who asked: the fingerprints that are told are those
    it hands on; no session but the one that asked is told an answer, and that one is told
    when it is not closed. -/
structure AnswersAsker (us : List SystemHandler) (t : SystemHandler) : Prop where
  told : ∀ o ∈ t.outs, ∀ ids ∈ o.enumerated, ids = (ended us t).map Prod.fst
  only : ∀ op ∈ due us t, ∀ o ∈ t.outs, o.isAnswer = true → o.recipient = some op.session
  delivered : ∀ op ∈ due us t, t.pre.service.isClosed op.session = false →
    ∃ o ∈ t.outs, o.answers op = true

instance (us : List SystemHandler) (t : SystemHandler) : Decidable (AnswersAsker us t) :=
  decidable_of_iff
    ((∀ o ∈ t.outs, ∀ ids ∈ o.enumerated, ids = (ended us t).map Prod.fst) ∧
      (∀ op ∈ due us t, ∀ o ∈ t.outs, o.isAnswer = true → o.recipient = some op.session) ∧
      ∀ op ∈ due us t, t.pre.service.isClosed op.session = false →
        ∃ o ∈ t.outs, o.answers op = true)
    ⟨fun h => ⟨h.1, h.2.1, h.2.2⟩, fun h => ⟨h.told, h.only, h.delivered⟩⟩

/-- No session that was created after the one that asked is open when its answer is to be
    handed on. -/
def NoLaterSession (us : List SystemHandler) (t : SystemHandler) : Prop :=
  ∀ op ∈ due us t, ∀ s < t.pre.service.sessions.length, op.session < s →
    t.pre.service.isClosed s = true

instance (us : List SystemHandler) : DecidablePred (NoLaterSession us) :=
  fun t => inferInstanceAs (Decidable (∀ op ∈ due us t,
    ∀ s < t.pre.service.sessions.length, op.session < s → t.pre.service.isClosed s = true))

/-- The invariant: one session is open, and tasks and accepted calls are of sessions that
    were created. -/
structure System.WellFormed (s : System) : Prop where
  oneOpen : s.service.OneOpen
  queue : s.service.QueueKnown
  ops : ∀ op ∈ s.ops, op.session < s.service.sessions.length

theorem acceptedOps_session {w : Fingerprint} {e : Event} {o : List Output} {op : DeviceOp}
    (h : op ∈ acceptedOps w e o) : ∃ t ∈ w.mWorker.items, op.session = t.session := by
  unfold acceptedOps at h
  split at h
  · next t q hi =>
      obtain ⟨x, -, hx⟩ := List.mem_filterMap.mp h
      refine ⟨t, by rw [hi]; exact List.mem_cons_self, ?_⟩
      split at hx
      · split at hx
        · cases hx
          rfl
        · cases hx
      · cases hx
  · cases h

theorem wellFormed_boot {mem : Memory} {hw : HwModule} {now : Int} :
    (System.boot mem hw now).WellFormed where
  oneOpen := oneOpen_boot
  queue t h := by cases h
  ops op h := by cases h

theorem wellFormed_step {U : Util} {mem : Memory} {s s' : System} {e : SystemEvent}
    {o : List Output} (h : s.WellFormed) (hstep : (system U mem).step s e = some (s', o)) :
    s'.WellFormed := by
  obtain ⟨-, hs, hops⟩ := system_step.mp hstep
  refine ⟨oneOpen_step hs h.oneOpen, queueKnown_step hs h.queue, fun op hop => ?_⟩
  refine Nat.lt_of_lt_of_le ?_ (sessions_length_le hs)
  rw [hops] at hop
  rcases List.mem_append.mp hop with hop | hop
  · exact h.ops op hop
  · obtain ⟨t, ht, he⟩ := acceptedOps_session hop
    rw [he]
    exact h.queue t ht

theorem wellFormed_run {U : Util} {mem : Memory} {s₀ s : System} {ts : List SystemHandler}
    (h : (system U mem).Run s₀ ts s) (h₀ : s₀.WellFormed) : s.WellFormed :=
  h.state_invariant h₀ fun _ _ _ _ hw hs => wellFormed_step hw hs

/-! ## What is kept in the static vector -/

section Kept

variable {U : Util} {mem : Memory} {hw : HwModule} {now : Int} {s : System}
  {us : List SystemHandler} {t : SystemHandler}

theorem ofService_step (hstep : (system U mem).step t.pre t.event = some (t.post, t.outs)) :
    (service U mem).step (ofService t).pre (ofService t).event =
      some ((ofService t).post, (ofService t).outs) :=
  (system_step.mp hstep).2.1

theorem kept_snoc (us : List SystemHandler) (t : SystemHandler) :
    kept (us ++ [t]) = (piece t).elim (kept us) (Chunk.push (kept us)) := by
  unfold kept
  rw [filterMap_snoc]
  cases piece t with
  | none => simp
  | some c => exact Chunk.collected_snoc _ _

/-- Without their labels, what is kept is what the static vector holds. -/
theorem enrollments_kept (hrun : (system U mem).Run (System.boot mem hw now) us s) :
    s.service.enrollments = (kept us).map Prod.fst := by
  refine hrun.invariant (C := fun _ _ => True)
    (I := fun us s => s.service.enrollments = (kept us).map Prod.fst)
    (fun _ _ _ _ => trivial) rfl ?_
  intro us t hI _ hstep
  have hnext := step_enrollments (ofService_step hstep)
  rw [kept_snoc]
  show (ofService t).post.enrollments = _
  rw [hnext]
  unfold piece
  cases report (ofService t) with
  | none => exact hI
  | some c =>
      rw [Option.map_some, Option.elim_some, Option.elim_some, ← Chunk.push_map]
      show Chunk.push t.pre.service.enrollments c = _
      rw [hI]
      rfl

/-- A label is an accepted call for an enumeration. -/
def Labelled (s : System) (p : BitVec 32 × Option DeviceOp) : Prop :=
  ∀ op ∈ p.2, op ∈ s.ops ∧ ∀ ids, op.call.handedOnAs (.onEnrollmentsEnumerated ids) = true

/-- A step that brings a piece of an enumeration. -/
theorem piece_eq_some {c : Chunk (BitVec 32 × Option DeviceOp)} (h : piece t = some c) :
    ∃ fid remaining clk,
      t.event.event = .message (.FINGERPRINT_TEMPLATE_ENUMERATING fid remaining) clk ∧
      c = ⟨(fid, t.event.answered t.pre.ops), remaining.toNat,
        t.pre.service.openSession.isSome⟩ := by
  obtain ⟨d, hd, rfl⟩ := Option.map_eq_some_iff.mp h
  unfold report at hd
  split at hd
  · next fid remaining clk he =>
      cases hd
      exact ⟨fid, remaining, clk, he, rfl⟩
  · cases hd

theorem labelled_piece (hstep : (system U mem).step t.pre t.event = some (t.post, t.outs))
    {c : Chunk (BitVec 32 × Option DeviceOp)} (h : piece t = some c) :
    Labelled t.pre c.item := by
  obtain ⟨fid, remaining, clk, he, rfl⟩ := piece_eq_some h
  obtain ⟨hallow, -, -⟩ := system_step.mp hstep
  intro op hop
  dsimp only at hop
  cases hev : t.event with
  | own e =>
      rw [hev] at hop
      cases hop
  | answer k msg clk' =>
      rw [hev] at hop hallow he
      obtain ⟨op', hop', hans⟩ := hallow
      cases hop.symm.trans hop'
      obtain rfl : msg = _ := (Event.message.inj he).1
      refine ⟨List.mem_of_getElem? hop, fun ids => ?_⟩
      obtain ⟨session, call⟩ := op
      cases call with
      | enumerate error => rfl
      | _ => cases hans

theorem labelled_kept (hrun : (system U mem).Run (System.boot mem hw now) us s) :
    ∀ p ∈ kept us, Labelled s p := by
  refine hrun.invariant (C := fun _ _ => True) (I := fun us s => ∀ p ∈ kept us, Labelled s p)
    (fun _ _ _ _ => trivial) (fun p h => by cases h) ?_
  intro us t hI _ hstep p hp
  -- a label that is there stays right, since calls are only added
  have hpre : Labelled t.pre p := by
    rw [kept_snoc] at hp
    cases hc : piece t with
    | none =>
        rw [hc] at hp
        exact hI p hp
    | some c =>
        rw [hc] at hp
        rcases Chunk.mem_push hp with hp | rfl
        · exact hI p hp
        · exact labelled_piece hstep hc
  intro op hop
  obtain ⟨hmem, hcall⟩ := hpre op hop
  rw [(system_step.mp hstep).2.2]
  exact ⟨List.mem_append_left _ hmem, hcall⟩

end Kept

/-! ## One step -/

/-- An answer that is handed on by itself. -/
theorem answers_handedOn {c : DeviceCall} {msg : Msg} (ids : List (BitVec 32))
    (h : c.answers msg = true)
    (hne : ∀ fid remaining, msg ≠ .FINGERPRINT_TEMPLATE_ENUMERATING fid remaining) :
    ∃ a, msg.handedOn ids = some a ∧ c.handedOnAs a = true := by
  unfold DeviceCall.answers at h
  split at h
  · exact ⟨_, rfl, rfl⟩
  · exact ⟨_, rfl, rfl⟩
  · exact ⟨_, rfl, rfl⟩
  · next fid hat =>
      simp only [Msg.handedOn]
      split
      · exact ⟨_, rfl, rfl⟩
      · exact ⟨_, rfl, rfl⟩
  · exact absurd rfl (hne _ _)
  · exact ⟨_, rfl, rfl⟩
  · exact ⟨_, rfl, rfl⟩
  · exact ⟨_, rfl, rfl⟩
  · cases h

section Step

variable {U : Util} {mem : Memory} {us : List SystemHandler} {t : SystemHandler}
  {op : DeviceOp}

/-- A step that is to hand on an answer has a message that is handed on as it. -/
theorem due_message (hstep : (system U mem).step t.pre t.event = some (t.post, t.outs))
    (hkept : ∀ p ∈ kept us, Labelled t.pre p) (h : op ∈ due us t) :
    op ∈ t.pre.ops ∧ ∃ msg clk a, t.event.event = .message msg clk ∧
      msg.handedOn t.pre.service.enrollments = some a ∧ op.call.handedOnAs a = true := by
  unfold due at h
  cases hc : piece t with
  | some c =>
      obtain ⟨fid, remaining, clk, he, hce⟩ := piece_eq_some hc
      have hitem := labelled_piece hstep hc
      simp only [hc, ended] at h
      split at h
      · next hr =>
          obtain ⟨p, hp, hlabel⟩ := List.mem_filterMap.mp h
          have hp' : Labelled t.pre p := by
            rcases List.mem_append.mp hp with hp | hp
            · exact hkept p hp
            · rw [List.mem_singleton.mp hp]
              exact hitem
          obtain ⟨hmem, hcall⟩ := hp' op hlabel
          have hzero : remaining = 0 := by
            rw [hce] at hr
            exact BitVec.eq_of_toNat_eq hr
          exact ⟨hmem, _, clk, _, he, if_pos hzero, hcall _⟩
      · cases h
  | none =>
      simp only [hc, Option.mem_toList] at h
      obtain ⟨hallow, -, -⟩ := system_step.mp hstep
      cases hev : t.event with
      | own e =>
          rw [hev] at h
          cases h
      | answer k msg clk =>
          rw [hev] at h hallow
          obtain ⟨op', hop', hans⟩ := hallow
          cases h.symm.trans hop'
          have hne : ∀ fid remaining,
              msg ≠ .FINGERPRINT_TEMPLATE_ENUMERATING fid remaining := by
            rintro fid remaining rfl
            simp [piece, report, ofService, hev, SystemEvent.event] at hc
          obtain ⟨a, ha, has⟩ := answers_handedOn t.pre.service.enrollments hans hne
          exact ⟨List.mem_of_getElem? h, msg, clk, a, rfl, ha, has⟩

/-- The fingerprints that are told are those that are kept, and the last one. -/
theorem told_ended (hstep : (system U mem).step t.pre t.event = some (t.post, t.outs))
    (hkept : t.pre.service.enrollments = (kept us).map Prod.fst) {o : Output}
    (ho : o ∈ t.outs) {ids : List (BitVec 32)} (hids : ids ∈ o.enumerated) :
    ids = (ended us t).map Prod.fst := by
  obtain ⟨c, hc, -, hr, rfl⟩ := step_enumerated (ofService_step hstep) ho hids
  have hpiece : piece t = some (c.map fun fid => (fid, t.event.answered t.pre.ops)) := by
    unfold piece
    rw [hc]
    rfl
  have hzero : (c.map fun fid => (fid, t.event.answered t.pre.ops)).remaining = 0 := hr
  unfold ended
  rw [hpiece]
  dsimp only
  rw [if_pos hzero, List.map_append, ← hkept]
  rfl

/-- The open session is told the answers that are to be handed on. -/
theorem due_told (hstep : (system U mem).step t.pre t.event = some (t.post, t.outs))
    (hkept : ∀ p ∈ kept us, Labelled t.pre p) (h : op ∈ due us t) {s : SessionId}
    (hopen : t.pre.service.openSession = some s) :
    ∃ a, Output.callback s a ∈ t.outs ∧ op.call.handedOnAs a = true := by
  obtain ⟨-, msg, clk, a, he, ha, has⟩ := due_message hstep hkept h
  have hs := (system_step.mp hstep).2.1
  rw [he] at hs
  refine ⟨a, ?_, has⟩
  rw [(message_given hs hopen).2]
  exact handedOn_mem ha

/-- And no other session is told an answer. -/
theorem due_recipient (hstep : (system U mem).step t.pre t.event = some (t.post, t.outs))
    (hkept : ∀ p ∈ kept us, Labelled t.pre p) (h : op ∈ due us t) {o : Output}
    (ho : o ∈ t.outs) (hans : o.isAnswer = true) :
    ∃ s, t.pre.service.openSession = some s ∧ o.recipient = some s := by
  obtain ⟨-, msg, clk, -, he, -⟩ := due_message hstep hkept h
  have hs := (system_step.mp hstep).2.1
  rw [he] at hs
  cases hopen : t.pre.service.openSession with
  | none =>
      rw [(message_dropped hs hopen).2] at ho
      cases ho
  | some s =>
      rw [(message_given hs hopen).2] at ho
      cases o with
      | callback cb c =>
          rw [(notify_callback ho).1]
          exact ⟨s, rfl, rfl⟩
      | device dev c => cases hans
      | display fd v => cases hans

/-- A step hands its answers on as it should when no later session is open. -/
theorem answersAsker_step (hwf : t.pre.WellFormed)
    (hstep : (system U mem).step t.pre t.event = some (t.post, t.outs))
    (henrollments : t.pre.service.enrollments = (kept us).map Prod.fst)
    (hkept : ∀ p ∈ kept us, Labelled t.pre p) :
    AnswersAsker us t ↔ NoLaterSession us t := by
  constructor
  · intro h op hop s hlt hlater
    cases hc : t.pre.service.isClosed s with
    | true => rfl
    | false =>
        obtain ⟨a, ha, has⟩ := due_told hstep hkept hop (hwf.oneOpen.openSession hc)
        have hto := h.only op hop _ ha (isAnswer_of_handedOnAs has)
        have heq : s = op.session := Option.some.inj hto
        exact absurd hlater (by rw [heq]; exact Nat.lt_irrefl _)
  · intro h
    refine ⟨fun o ho ids hids => told_ended hstep henrollments ho hids,
      fun op hop o ho hans => ?_, fun op hop hc => ?_⟩
    · obtain ⟨s, hopen, hto⟩ := due_recipient hstep hkept hop ho hans
      -- the open session is the last one, so it is the one that asked
      obtain ⟨hcur, hc⟩ := openSession_eq_some hopen
      have hlast : s + 1 = t.pre.service.sessions.length := hwf.oneOpen.last s hcur
      have hlt : op.session < s + 1 := hlast ▸ hwf.ops op (due_message hstep hkept hop).1
      have hle : ¬ op.session < s := by
        intro hlater
        have hclosed := h op hop s (hlast ▸ Nat.lt_succ_self s) hlater
        rw [hc] at hclosed
        cases hclosed
      have heq : op.session = s :=
        Nat.le_antisymm (Nat.le_of_lt_succ hlt) (Nat.le_of_not_lt hle)
      rw [hto, heq]
    · obtain ⟨a, ha, has⟩ := due_told hstep hkept hop (hwf.oneOpen.openSession hc)
      exact ⟨_, ha, by simp [Output.answers, has]⟩

end Step

/-- **When answers go to the session that asked.** In every run of the service with a
    vendor module that answers what it has accepted, at any time: all answers are handed on
    to the session that asked, or to nobody when that is closed, exactly when no later
    session is open whenever one is to be handed on. -/
theorem answers_to_asker_iff {U : Util} {mem : Memory} {hw : HwModule} {now : Int}
    {ts : List SystemHandler} {s : System}
    (hrun : (system U mem).Run (System.boot mem hw now) ts s) :
    Along AnswersAsker ts ↔ Along NoLaterSession ts := by
  refine forall₃_congr fun us t vs => forall_congr' fun hts => ?_
  rw [hts] at hrun
  obtain ⟨hbefore, hstep, -⟩ := hrun.at_step
  exact answersAsker_step (wellFormed_run hbefore wellFormed_boot) hstep
    (enrollments_kept hbefore) (labelled_kept hbefore)

/-- One session that authenticates. -/
def authenticating : List SystemEvent :=
  [.own (.createSession 0 10 0), .own (.request 0 (.authenticate 0)), .own (workAt 1)]

/-- A match of the fingerprint 1, in answer to the `k`-th accepted call. -/
def matchAnswer (k : Nat) : SystemEvent :=
  .answer k (.FINGERPRINT_AUTHENTICATED 1 .zeroed) (.still 2)

theorem answers_to_asker_match :
    let ts := (system .millis .zeroed).steps (.boot .zeroed .working 0)
      (authenticating ++ [matchAnswer 0])
    (∃ o ∈ trace ts, o.isAnswer = true) ∧ Along AnswersAsker ts :=
  ⟨by decide +kernel,
    (answers_to_asker_iff (Machine.run_steps (by decide +kernel))).mpr (by decide +kernel)⟩

/-- The session that asked is closed, and one of another user is opened. -/
def replaced : List SystemEvent := [.own (.close 0), .own (.createSession 0 11 0)]

/-- One session that enumerates and is closed after the first of two fingerprints, and the
    next one, which is told of both. -/
def enumeratingTwice : List SystemEvent :=
  [.own (.createSession 0 10 0), .own (.request 0 .enumerateEnrollments), .own (workAt 1),
    .answer 0 (.FINGERPRINT_TEMPLATE_ENUMERATING 1 1) (.still 2)] ++ replaced ++
  [.own (.request 1 .enumerateEnrollments), .own (workAt 3),
    .answer 1 (.FINGERPRINT_TEMPLATE_ENUMERATING 7 0) (.still 4)]

/-- A match that goes to the session of another user, and a fingerprint that does. -/
theorem match_for_other_user :
    let M := system .millis .zeroed
    let es := authenticating ++ replaced ++ [matchAnswer 0]
    (M.Run (.boot .zeroed .working 0) (M.steps (.boot .zeroed .working 0) es)
        (M.final (.boot .zeroed .working 0) es) ∧
      ¬ Along AnswersAsker (M.steps (.boot .zeroed .working 0) es)) ∧
    M.Run (.boot .zeroed .working 0) (M.steps (.boot .zeroed .working 0) enumeratingTwice)
        (M.final (.boot .zeroed .working 0) enumeratingTwice) ∧
      Output.callback 1 (.onEnrollmentsEnumerated [1, 7]) ∈
        trace (M.steps (.boot .zeroed .working 0) enumeratingTwice) ∧
      ¬ Along AnswersAsker (M.steps (.boot .zeroed .working 0) enumeratingTwice) :=
  ⟨⟨Machine.run_steps (by decide +kernel), by decide +kernel⟩,
    Machine.run_steps (by decide +kernel), by decide +kernel, by decide +kernel⟩

end FingerprintHal
