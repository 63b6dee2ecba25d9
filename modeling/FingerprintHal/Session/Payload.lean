/-
  What becomes of the numbers in a message.

  A challenge or an authenticator id has 64 bits, the id of a finger 32. Each case of
  `Session::notify` puts its number into a variable of its own before it hands it on, and
  one of these is too small: the authenticator id that is retrieved goes through an `int`,
  where the one that is new after an invalidation keeps its 64 bits. The fingers come
  through, to the client and back to the device, as long as the queue has room for the
  request (`payloads_survive_iff`).
-/
import FingerprintHal.Lib.Bytes
import FingerprintHal.Session.Served

namespace FingerprintHal

open Lib

/-! ## Numbers on their way -/

/-- The callback for a message with a number of 64 bits, with that number. -/
def Msg.payload : Msg → Option Callback
  | .FINGERPRINT_CHALLENGE_GENERATED data => some (.onChallengeGenerated data)
  | .FINGERPRINT_CHALLENGE_REVOKED data => some (.onChallengeRevoked data)
  | .FINGERPRINT_AUTHENTICATOR_ID_RETRIEVED data => some (.onAuthenticatorIdRetrieved data)
  | .FINGERPRINT_AUTHENTICATOR_ID_INVALIDATED data =>
      some (.onAuthenticatorIdInvalidated data)
  | _ => none

/-- An authenticator id that is retrieved has room in an `int`. -/
def Msg.fitsInt : Msg → Bool
  | .FINGERPRINT_AUTHENTICATOR_ID_RETRIEVED data =>
      decide (-2 ^ 31 ≤ data.toInt ∧ data.toInt < 2 ^ 31)
  | _ => true

/-- The finger a message reports; 0 is that of a failed match, and no finger. -/
def Msg.finger : Msg → Option (BitVec 32)
  | .FINGERPRINT_TEMPLATE_ENROLLING fid _ => some fid
  | .FINGERPRINT_TEMPLATE_REMOVED fid _ => some fid
  | .FINGERPRINT_AUTHENTICATED fid _ => if fid ≠ 0 then some fid else none
  | .FINGERPRINT_TEMPLATE_ENUMERATING fid _ => some fid
  | _ => none

/-- The fingers a client is told. -/
def Callback.fingers : Callback → List (BitVec 32)
  | .onEnrollmentProgress enrollmentId _ => [enrollmentId]
  | .onAuthenticationSucceeded enrollmentId _ => [enrollmentId]
  | .onEnrollmentsEnumerated enrollmentIds => enrollmentIds
  | .onEnrollmentsRemoved enrollmentIds => enrollmentIds
  | _ => []

/-- The fingers a client hands back. -/
def Request.removal : Request → Option (List (BitVec 32))
  | .removeEnrollments enrollmentIds => some enrollmentIds
  | _ => none

/-- The fingers that clients are told. -/
def toldFingers (outs : List Output) : List (BitVec 32) :=
  (outs.filterMap Output.spoken).flatMap fun p => p.2.fingers

/-- The message a step gives to the open session. -/
def received (t : Handler) : Option (SessionId × Msg) :=
  match t.event with
  | .message msg _ => t.pre.openSession.map fun s => (s, msg)
  | _ => none

/-- The finger the device reports in a step. -/
def reportedFinger (t : Handler) : Option (BitVec 32) := (received t).bind fun r => r.2.finger

/-- The `removeEnrollments` of the step `t` gets into the queue, and its task, when its
    turn comes in the steps `vs` that lead to `w`, hands `ids` to the device; the turn has
    come once the queue is empty. -/
def ReachesDevice (s : SessionId) (ids : List (BitVec 32)) (t : Handler)
    (vs : List Handler) (w : Fingerprint) : Prop :=
  scheduled t = some ⟨s, .removeEnrollments ids⟩ ∧
  (∀ u ∈ turn t vs, u.outs =
    [.device u.pre.mEngine.mDevice (.remove ids (BitVec.ofNat 32 ids.length))]) ∧
  (w.mWorker.items = [] → (turn t vs).isSome = true)

/-- The numbers in the messages of a run `ts` to `w` survive. -/
structure PayloadsSurvive (ts : List Handler) (w : Fingerprint) : Prop where
  /-- A number of 64 bits is told to the open session, and nothing else is. -/
  payload : ∀ t ∈ ts, ∀ r ∈ received t, ∀ c ∈ r.2.payload,
    t.outs.filterMap Output.spoken = [(r.1, c)]
  /-- A finger is told or kept for later, and what was kept is told or kept further on. -/
  finger : ∀ t ∈ ts, (toldFingers t.outs ++ t.post.enrollments).Perm
    (t.pre.enrollments ++ (reportedFinger t).toList)
  /-- The fingers that are handed back reach the device. -/
  removal : ∀ us t vs, ts = us ++ t :: vs → ∀ a ∈ t.event.asked, ∀ ids ∈ a.2.removal,
    ReachesDevice a.1 ids t vs w

/-! ## Fingers -/

section Fingers

variable {U : Util} {mem : Memory} {w w' : Fingerprint} {e : Event} {o : List Output}

@[simp] theorem toldFingers_append (outs outs' : List Output) :
    toldFingers (outs ++ outs') = toldFingers outs ++ toldFingers outs' := by
  simp [toldFingers]

theorem toldFingers_eq_nil (h : ∀ cb c, Output.callback cb c ∈ o → c.fingers = []) :
    toldFingers o = [] := by
  refine List.flatMap_eq_nil_iff.mpr fun p hp => ?_
  obtain ⟨out, hout, hspoken⟩ := List.mem_filterMap.mp hp
  cases out with
  | callback cb c =>
      cases hspoken
      exact h cb c hout
  | device dev call => cases hspoken
  | display fd value => cases hspoken

theorem fingers_of_task {c : Callback} (h : c.FromTask) : c.fingers = [] := by
  cases c with
  | onError error vendorCode => rfl
  | onLockoutTimed durationMillis => rfl
  | onLockoutPermanent => rfl
  | onLockoutCleared => rfl
  | _ => exact h.elim

theorem onPointerUpImpl_fingers (e : FingerprintEngine) :
    toldFingers e.onPointerUpImpl.2 = [] :=
  toldFingers_eq_nil fun _ _ h => absurd h (onPointerUpImpl_no_callback _ _ _)

theorem onAcquired_fingers (e : FingerprintEngine) (result vendorCode : BitVec 32) :
    toldFingers (e.onAcquired result vendorCode).2 = [] :=
  toldFingers_eq_nil fun _ _ h => absurd h (onAcquired_no_callback _ _ _ _ _)

theorem check_fingers {s : SessionId} {clk : Readings} {l : LockoutControl} :
    toldFingers (l.checkSensorLockout U s clk).2.2 = [] :=
  toldFingers_eq_nil fun _ _ h => fingers_of_task (mem_check h).2.1.fromTask

/-- A message that is given to a session. -/
theorem notify_fingers {s : SessionId} {msg : Msg} {clk : Readings} :
    (toldFingers (Session.notify U s msg clk w).2 ++
        (Session.notify U s msg clk w).1.enrollments).Perm
      (w.enrollments ++ msg.finger.toList) := by
  cases msg with
  | FINGERPRINT_ACQUIRED acquired_info =>
      simp only [Session.notify, Fingerprint.withEngine, toldFingers_append,
        onAcquired_fingers, List.nil_append]
      split
      · exact .of_eq (List.append_nil _).symm
      · exact .of_eq (List.append_nil _).symm
  | FINGERPRINT_AUTHENTICATED fid hat =>
      simp only [Session.notify, Fingerprint.withEngine, Msg.finger]
      split
      · rw [← List.singleton_append, toldFingers_append, onPointerUpImpl_fingers,
          List.append_nil]
        exact List.perm_append_comm
      · rw [← List.singleton_append, toldFingers_append, toldFingers_append, check_fingers,
          onPointerUpImpl_fingers]
        exact .of_eq (List.append_nil _).symm
  | FINGERPRINT_TEMPLATE_ENUMERATING fid remaining =>
      simp only [Session.notify]
      split
      · simp [toldFingers, Output.spoken, Callback.fingers, Msg.finger]
      · exact .refl _
  | FINGERPRINT_AUTHENTICATOR_ID_RETRIEVED data =>
      simp only [Session.notify, Fingerprint.withEngine, toldFingers_append,
        onPointerUpImpl_fingers]
      exact .of_eq (List.append_nil _).symm
  | FINGERPRINT_TEMPLATE_ENROLLING fid remaining => exact List.perm_append_comm
  | FINGERPRINT_TEMPLATE_REMOVED fid remaining => exact List.perm_append_comm
  | _ => exact .of_eq (List.append_nil _).symm

/-- What is no message tells of no finger. -/
theorem toldFingers_of_ne_message (hstep : (service U mem).step w e = some (w', o))
    (he : ∀ msg clk, e ≠ .message msg clk) : toldFingers o = [] := by
  refine toldFingers_eq_nil fun cb c hc => ?_
  rcases step_callback hstep hc with ⟨_, _, _, _, _, h⟩ | ⟨msg, clk, h, -⟩ |
    ⟨_, _, _, _, _, _, _, rfl⟩ | ⟨-, rfl⟩
  · exact fingers_of_task h
  · exact absurd h (he msg clk)
  · rfl
  · rfl

/-- And keeps what was kept. -/
theorem enrollments_of_ne_message (hstep : (service U mem).step w e = some (w', o))
    (he : ∀ msg clk, e ≠ .message msg clk) : w'.enrollments = w.enrollments := by
  cases e with
  | work inp =>
      obtain ⟨_, _, _, _, rfl⟩ := work_frame hstep
      rfl
  | timer i now =>
      obtain ⟨_, rfl⟩ := timer_frame hstep
      rfl
  | message msg clk => exact absurd rfl (he msg clk)
  | _ => exact (client_frame hstep rfl).2.1

theorem reportedFinger_message {msg : Msg} {clk : Readings} :
    reportedFinger ⟨w, .message msg clk, w', o⟩ =
      w.openSession.bind fun _ => msg.finger := by
  unfold reportedFinger received
  cases w.openSession <;> rfl

/-- In every step a finger is told or kept, and no other is. -/
theorem step_fingers {t : Handler}
    (hstep : (service U mem).step t.pre t.event = some (t.post, t.outs)) :
    (toldFingers t.outs ++ t.post.enrollments).Perm
      (t.pre.enrollments ++ (reportedFinger t).toList) := by
  obtain ⟨pre, event, post, outs⟩ := t
  dsimp only at hstep ⊢
  cases event with
  | message msg clk =>
      cases hs : pre.openSession with
      | none =>
          obtain ⟨rfl, rfl⟩ := message_dropped hstep hs
          rw [reportedFinger_message, hs]
          exact .of_eq (List.append_nil _).symm
      | some s =>
          obtain ⟨rfl, rfl⟩ := message_given hstep hs
          rw [reportedFinger_message, hs]
          exact notify_fingers
  | _ =>
      rw [toldFingers_of_ne_message hstep (fun _ _ h => by cases h),
        enrollments_of_ne_message hstep (fun _ _ h => by cases h)]
      exact .of_eq (List.append_nil _).symm

/-- **No finger is lost, added or changed over a run**: those that were kept or reported
    are those that are told or kept. -/
theorem run_fingers {w₀ : Fingerprint} {ts : List Handler} (hrun : (service U mem).Run w₀ ts w) :
    (toldFingers (trace ts) ++ w.enrollments).Perm
      (w₀.enrollments ++ ts.filterMap reportedFinger) := by
  induction hrun with
  | nil => exact .of_eq (List.append_nil _).symm
  | @snoc ts w e w' o _ hstep ih =>
      have hlast := @step_fingers U mem ⟨w, e, w', o⟩ hstep
      have hall := ih.append_right (reportedFinger ⟨w, e, w', o⟩).toList
      rw [List.append_assoc, List.append_assoc] at hall
      rw [trace_append, trace_cons, trace_nil, List.append_nil, toldFingers_append,
        List.append_assoc, filterMap_snoc]
      exact (hlast.append_left _).trans hall

/-- An enumeration that is under way, and a finger that is enrolled meanwhile. -/
theorem run_fingers_enumeration :
    let M := service .millis .zeroed
    let es := [.createSession 0 10 0,
      .message (.FINGERPRINT_TEMPLATE_ENUMERATING 1 1) (.still 1),
      .message (.FINGERPRINT_TEMPLATE_ENROLLING 2 0) (.still 1)]
    (toldFingers (trace (M.steps .ready es)) ++ (M.final .ready es).enrollments).Perm
      (Fingerprint.ready.enrollments ++ (M.steps .ready es).filterMap reportedFinger) :=
  run_fingers (Machine.run_steps (by decide +kernel))

end Fingers

/-! ## Numbers of 64 bits -/

/-- The number is told as it is, but for an authenticator id too large for an `int`. -/
theorem notify_payload {U : Util} {s : SessionId} {msg : Msg} {clk : Readings}
    {w : Fingerprint} {c : Callback} (h : msg.payload = some c) :
    (Session.notify U s msg clk w).2.filterMap Output.spoken = [(s, c)] ↔
      msg.fitsInt = true := by
  cases msg with
  | FINGERPRINT_AUTHENTICATOR_ID_RETRIEVED data =>
      cases h
      simp only [Session.notify, Fingerprint.withEngine, List.filterMap_append,
        spoken_eq_nil (onPointerUpImpl_no_callback _), List.nil_append]
      have hfits : (data.setWidth 32).signExtend 64 = data ↔ _ :=
        signExtend_setWidth_iff (by omega) (by omega)
      simp [Output.spoken, Msg.fitsInt, hfits]
  | FINGERPRINT_CHALLENGE_GENERATED data =>
      cases h
      exact iff_of_true rfl rfl
  | FINGERPRINT_CHALLENGE_REVOKED data =>
      cases h
      exact iff_of_true rfl rfl
  | FINGERPRINT_AUTHENTICATOR_ID_INVALIDATED data =>
      cases h
      exact iff_of_true rfl rfl
  | _ => cases h

theorem fitsInt_of_no_payload {msg : Msg} (h : msg.payload = none) : msg.fitsInt = true := by
  cases msg with
  | FINGERPRINT_AUTHENTICATOR_ID_RETRIEVED data => cases h
  | _ => rfl

theorem received_eq_some {t : Handler} {r : SessionId × Msg} (h : received t = some r) :
    ∃ clk, t.event = .message r.2 clk ∧ t.pre.openSession = some r.1 := by
  unfold received at h
  split at h
  · next msg clk he =>
      obtain ⟨s, hs, rfl⟩ := Option.map_eq_some_iff.mp h
      exact ⟨clk, he, hs⟩
  · cases h

theorem step_payload {U : Util} {mem : Memory} {t : Handler}
    (hstep : (service U mem).step t.pre t.event = some (t.post, t.outs))
    {r : SessionId × Msg} (hr : received t = some r) {c : Callback}
    (hc : r.2.payload = some c) :
    t.outs.filterMap Output.spoken = [(r.1, c)] ↔ r.2.fitsInt = true := by
  obtain ⟨clk, he, hs⟩ := received_eq_some hr
  rw [he] at hstep
  rw [(message_given hstep hs).2]
  exact notify_payload hc

/-! ## The way back -/

/-- What a client hands back reaches the device when there is room for the request. -/
theorem reachesDevice_iff {U : Util} {mem : Memory} {t : Handler} {vs : List Handler}
    {w : Fingerprint} (hstep : (service U mem).step t.pre t.event = some (t.post, t.outs))
    (hrun : (service U mem).Run t.post vs w) {s : SessionId} {ids : List (BitVec 32)}
    (he : t.event = .request s (.removeEnrollments ids)) :
    ReachesDevice s ids t vs w ↔ t.pre.HasRoom := by
  have hadded : scheduled t = t.pre.added s (.removeEnrollments ids) := by
    unfold scheduled
    rw [he]
  by_cases hroom : t.pre.HasRoom
  · have htask : scheduled t = some ⟨s, .removeEnrollments ids⟩ := by
      rw [hadded, added_of_room hroom]
      rfl
    refine iff_of_true ⟨htask, fun u hu => ?_, fun hidle => ?_⟩ hroom
    · obtain ⟨hpopped, hmem⟩ := popped_at_turn hstep hrun htask hu
      obtain ⟨inp, w', -, he', -, -, ho⟩ := popped_eq_some (hrun.step_of_mem hmem) hpopped
      rw [ho, ← he']
      rfl
    · obtain ⟨u, hu, -⟩ := turn_of_scheduled hstep hrun hidle htask
      rw [hu]
      rfl
  · refine iff_of_false (fun h => ?_) hroom
    have hnone := hadded.symm.trans h.1
    rw [added_of_full hroom] at hnone
    cases hnone

theorem removal_eq_some {a : SessionId × Request} {ids : List (BitVec 32)}
    (h : a.2.removal = some ids) : a.2 = .removeEnrollments ids := by
  unfold Request.removal at h
  split at h
  · next hr =>
      cases h
      exact hr
  · cases h

theorem asked_eq_some {e : Event} {a : SessionId × Request} (h : e.asked = some a) :
    e = .request a.1 a.2 := by
  unfold Event.asked at h
  split at h
  · cases h
    rfl
  · cases h

/-- **Which numbers survive.** In every run, from any state, the numbers in messages reach
    the client as they are, and the fingers it hands back the device, exactly when every
    authenticator id that is retrieved fits an `int` and every `removeEnrollments` finds
    room in the queue. -/
theorem payloads_survive_iff {U : Util} {mem : Memory} {w₀ w : Fingerprint}
    {ts : List Handler} (hrun : (service U mem).Run w₀ ts w) :
    PayloadsSurvive ts w ↔
      (∀ t ∈ ts, ∀ r ∈ received t, r.2.fitsInt = true) ∧
      (∀ t ∈ ts, ∀ a ∈ t.event.asked, ∀ ids ∈ a.2.removal, t.pre.HasRoom) := by
  have hreach : ∀ us t vs, ts = us ++ t :: vs → ∀ a ∈ t.event.asked, ∀ ids ∈ a.2.removal,
      (ReachesDevice a.1 ids t vs w ↔ t.pre.HasRoom) := by
    intro us t vs e a ha ids hids
    rw [e] at hrun
    obtain ⟨-, hstep, hrest⟩ := hrun.at_step
    have hreq := asked_eq_some ha
    rw [removal_eq_some hids] at hreq
    exact reachesDevice_iff hstep hrest hreq
  constructor
  · intro h
    refine ⟨fun t ht r hr => ?_, fun t ht a ha ids hids => ?_⟩
    · cases hc : r.2.payload with
      | none => exact fitsInt_of_no_payload hc
      | some c =>
          exact (step_payload (hrun.step_of_mem ht) hr hc).mp (h.payload t ht r hr c hc)
    · obtain ⟨us, vs, e⟩ := List.append_of_mem ht
      exact (hreach us t vs e a ha ids hids).mp (h.removal us t vs e a ha ids hids)
  · intro h
    obtain ⟨hfits, hroom⟩ := h
    refine ⟨fun t ht r hr c hc => ?_, fun t ht => step_fingers (hrun.step_of_mem ht),
      fun us t vs e a ha ids hids => ?_⟩
    · exact (step_payload (hrun.step_of_mem ht) hr hc).mpr (hfits t ht r hr)
    · have ht : t ∈ ts := by rw [e]; simp
      exact (hreach us t vs e a ha ids hids).mpr (hroom t ht a ha ids hids)

/-- The messages `msgs` come while a session is open, and the client has the finger `fid`
    removed. -/
def numbersOf (msgs : List Msg) (fid : BitVec 32) : List Event :=
  .createSession 0 10 0 :: msgs.map (fun msg => .message msg (.still 1)) ++
    [.request 0 (.removeEnrollments [fid]), workAt 2]

/-- Numbers at the ends of their types, and an authenticator id that fits. -/
def extremes : List Event :=
  numbersOf [.FINGERPRINT_CHALLENGE_GENERATED 0x8000000000000000,
    .FINGERPRINT_AUTHENTICATOR_ID_RETRIEVED 0xFFFFFFFF80000000,
    .FINGERPRINT_TEMPLATE_ENROLLING 0xFFFFFFFF 0,
    .FINGERPRINT_TEMPLATE_ENUMERATING 0x80000000 1,
    .FINGERPRINT_TEMPLATE_ENUMERATING 0xFFFFFFFF 0] 0xFFFFFFFF

theorem payloads_survive_iff_extremes :
    PayloadsSurvive ((service .millis .zeroed).steps .ready extremes)
      ((service .millis .zeroed).final .ready extremes) :=
  (payloads_survive_iff (Machine.run_steps (by decide +kernel))).mpr
    ⟨by decide +kernel, by decide +kernel⟩

/-- An authenticator id that is new, and is retrieved afterwards. -/
def newId (data : BitVec 64) : List Event :=
  numbersOf [.FINGERPRINT_AUTHENTICATOR_ID_INVALIDATED data,
    .FINGERPRINT_AUTHENTICATOR_ID_RETRIEVED data] 1

/-- The client is told 2^32 and then 0. -/
theorem id_not_told :
    let M := service .millis .zeroed
    let ts := M.steps .ready (newId 0x100000000)
    M.Run .ready ts (M.final .ready (newId 0x100000000)) ∧
      (trace ts).filterMap Output.spoken =
        [(0, .onAuthenticatorIdInvalidated 0x100000000), (0, .onAuthenticatorIdRetrieved 0)] ∧
      ¬ PayloadsSurvive ts (M.final .ready (newId 0x100000000)) :=
  ⟨Machine.run_steps (by decide +kernel), by decide +kernel,
    fun h => absurd h.payload (by decide +kernel)⟩

end FingerprintHal
