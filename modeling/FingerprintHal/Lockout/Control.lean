/-
  The lockout machine: the five things that can happen to `LockoutControl`, and the proof
  that every run of the service is a run of it (`service_run_lockout`). What the other
  handlers do is invisible to it.

  `Sound` is the invariant of the timers: there is at most one, none without the started
  flag, and in a permanent lockout it is marked as aborted. It holds of every state of the
  service, whatever the memory held at the construction (`sound_service`). From a clean
  engine the started flag also tells that there is one (`WF`, `wf_run`).
-/
import FingerprintHal.Model.Service

namespace FingerprintHal

open Lib

/-! ## Locked out -/

/-- The tracker is in one of the two lockouts. -/
def LockoutTracker.Locked (t : LockoutTracker) : Prop :=
  t.mCurrentMode = .kTimed ∨ t.mCurrentMode = .kPermanent

instance : DecidablePred LockoutTracker.Locked :=
  fun _ => inferInstanceAs (Decidable (_ ∨ _))

theorem LockoutTracker.Locked.ne_kNone {t : LockoutTracker} (h : t.Locked) :
    t.mCurrentMode ≠ .kNone := by
  rcases h with h | h <;> simp [h]

/-- A failed attempt does not lead out of a lockout. -/
theorem LockoutTracker.locked_addFailedAttempt {now : Int} {t : LockoutTracker}
    (h : t.Locked) : (t.addFailedAttempt now).Locked := by
  unfold Locked
  rw [addFailedAttempt_mode]
  split
  · exact Or.inr rfl
  · rw [if_neg (by rintro ⟨-, hn⟩; exact h.ne_kNone hn)]
    exact h

/-- A timed lockout whose time is over at `now`. -/
def LockoutTracker.Lapsed (U : Util) (now : Int) (t : LockoutTracker) : Prop :=
  t.mCurrentMode = .kTimed ∧
    U.hasElapsed now t.mLockoutTimedStart LOCKOUT_TIMED_DURATION = true

instance (U : Util) (now : Int) : DecidablePred (LockoutTracker.Lapsed U now) :=
  fun _ => inferInstanceAs (Decidable (_ ∧ _))

/-! ## The machine -/

/-- What can happen to the lockout part of the engine. -/
inductive LockoutOp
  | matched
  | failedMatch (cb : SessionId) (clk : Readings)
  | pointerDown (cb : SessionId) (clk : Readings)
  | resetAccepted (cb : SessionId)
  | expired (i : Nat) (now : Int)

namespace LockoutControl

/-- The failed branch of `FINGERPRINT_AUTHENTICATED`. -/
def failedMatch (U : Util) (cb : SessionId) (clk : Readings) (l : LockoutControl) :
    LockoutControl × List Output :=
  ({ l with mLockoutTracker :=
      l.mLockoutTracker.addFailedAttempt clk.atFailure }.checkSensorLockout U cb clk).2

/-- The successful branch of `FINGERPRINT_AUTHENTICATED`. -/
def matched (l : LockoutControl) : LockoutControl :=
  { l with mLockoutTracker := l.mLockoutTracker.reset true }

/-- The timer `i` has slept: it is gone, and `lockoutTimerExpired` runs. -/
def expire (i : Nat) (t : LockoutTimer) (l : LockoutControl) :
    LockoutControl × List Output :=
  { l with timers := l.timers.eraseIdx i }.lockoutTimerExpired t.cb

def step (U : Util) (l : LockoutControl) : LockoutOp → Option (LockoutControl × List Output)
  | .matched => some (l.matched, [])
  | .failedMatch cb clk => some (l.failedMatch U cb clk)
  | .pointerDown cb clk => some (l.checkSensorLockout U cb clk).2
  | .resetAccepted cb => some (l.acceptReset cb)
  | .expired i _ =>
      match l.timers[i]? with
      | none => none
      | some t => some (l.expire i t)

end LockoutControl

def lockoutMachine (U : Util) : Machine LockoutControl LockoutOp Output where
  step := LockoutControl.step U

/-! ## The service refines it -/

/-- The lockout part of the service. -/
abbrev Fingerprint.lockout (w : Fingerprint) : LockoutControl := w.mEngine.toLockoutControl

/-- What an event means for the lockout part; nothing for most. -/
def lockoutOp (w : Fingerprint) : Event → Option LockoutOp
  | .work inp =>
      match w.mWorker.items with
      | ⟨s, .onPointerDown _ _⟩ :: _ => some (.pointerDown s inp.clk)
      | ⟨s, .resetLockout hat⟩ :: _ => if hat.mac = [] then none else some (.resetAccepted s)
      | _ => none
  | .message (.FINGERPRINT_AUTHENTICATED fid _) clk =>
      match w.openSession with
      | some s => if fid ≠ 0 then some .matched else some (.failedMatch s clk)
      | none => none
  | .timer i now => some (.expired i now)
  | _ => none

/-- The callbacks that tell a session about lockouts. -/
def Output.isLockout : Output → Bool
  | .callback _ (.onLockoutTimed _) => true
  | .callback _ .onLockoutPermanent => true
  | .callback _ .onLockoutCleared => true
  | _ => false

section Outputs

variable (e : FingerprintEngine)

@[simp] theorem onPointerDownImpl_isLockout (x y : BitVec 32) :
    (e.onPointerDownImpl x y).2.filter Output.isLockout = [] := rfl

@[simp] theorem onPointerUpImpl_isLockout :
    e.onPointerUpImpl.2.filter Output.isLockout = [] := rfl

@[simp] theorem onAcquired_lockout (result vendorCode : BitVec 32) :
    (e.onAcquired result vendorCode).1.toLockoutControl = e.toLockoutControl := by
  rcases FingerprintEngine.onAcquired_cases result vendorCode with h | h
  · rw [h]
  · rw [h]
    rfl

@[simp] theorem onAcquired_isLockout (result vendorCode : BitVec 32) :
    (e.onAcquired result vendorCode).2.filter Output.isLockout = [] := by
  rcases FingerprintEngine.onAcquired_cases result vendorCode with h | h
  · rw [h]
    rfl
  · rw [h]
    rfl

@[simp] theorem failed_isLockout (cb : SessionId) (error : BitVec 32) :
    (FingerprintEngine.failed cb error).filter Output.isLockout = [] := by
  unfold FingerprintEngine.failed
  split <;> rfl

@[simp] theorem detectInteractionImpl_isLockout (cb : SessionId) (supported : Bool) :
    (FingerprintEngine.detectInteractionImpl cb supported).filter Output.isLockout = [] := by
  unfold FingerprintEngine.detectInteractionImpl
  split <;> rfl

theorem unlessCancelled_isLockout {cb : SessionId} {cancel : Nat} {outs : List Output}
    {w : Fingerprint} (h : outs.filter Output.isLockout = []) :
    (w.unlessCancelled cb cancel outs).filter Output.isLockout = [] := by
  unfold Fingerprint.unlessCancelled
  split
  · rfl
  · exact h

/-- All that `checkSensorLockout` puts out are lockout callbacks. -/
theorem check_isLockout (U : Util) (cb : SessionId) (clk : Readings) (l : LockoutControl) :
    (l.checkSensorLockout U cb clk).2.2.filter Output.isLockout =
      (l.checkSensorLockout U cb clk).2.2 := by
  unfold LockoutControl.checkSensorLockout
  dsimp only
  split <;> rfl

theorem expire_isLockout (i : Nat) (t : LockoutTimer) (l : LockoutControl) :
    (l.expire i t).2.filter Output.isLockout = (l.expire i t).2 := by
  unfold LockoutControl.expire LockoutControl.lockoutTimerExpired
  dsimp only
  split <;> rfl

end Outputs

/-- A task acts on the lockout part as `lockoutOp` says. -/
theorem run_lockout (U : Util) (inp : TaskInputs) (t : Task) (w : Fingerprint) :
    match t.body with
    | .onPointerDown _ _ =>
        ((t.run U inp w).1.lockout, (t.run U inp w).2.filter Output.isLockout) =
          (w.lockout.checkSensorLockout U t.session inp.clk).2
    | .resetLockout hat =>
        ((t.run U inp w).1.lockout, (t.run U inp w).2.filter Output.isLockout) =
          if hat.mac = [] then (w.lockout, []) else w.lockout.acceptReset t.session
    | _ => (t.run U inp w).1.lockout = w.lockout ∧
        (t.run U inp w).2.filter Output.isLockout = [] := by
  obtain ⟨s, body⟩ := t
  cases body with
  | onPointerDown x y =>
      simp only [Task.run, Fingerprint.withEngine]
      split
      · rw [check_isLockout]
      · rw [List.filter_append, check_isLockout, onPointerDownImpl_isLockout, List.append_nil]
        rfl
  | resetLockout hat =>
      simp only [Task.run, Fingerprint.withEngine, FingerprintEngine.onLockout,
        LockoutControl.resetLockoutImpl]
      split
      · rfl
      · rfl
  | enroll hat cancel =>
      exact ⟨rfl, unlessCancelled_isLockout (failed_isLockout s inp.error)⟩
  | authenticate operationId cancel =>
      exact ⟨rfl, unlessCancelled_isLockout (failed_isLockout s inp.error)⟩
  | detectInteraction cancel =>
      exact ⟨rfl, unlessCancelled_isLockout
        (detectInteractionImpl_isLockout s inp.detect_interaction)⟩
  | enumerateEnrollments => exact ⟨rfl, failed_isLockout s inp.error⟩
  | _ => exact ⟨rfl, rfl⟩

/-- `Session::notify` acts on the lockout part through `FINGERPRINT_AUTHENTICATED` only. -/
theorem notify_lockout (U : Util) (s : SessionId) (msg : Msg) (clk : Readings)
    (w : Fingerprint) :
    match msg with
    | .FINGERPRINT_AUTHENTICATED fid _ =>
        ((Session.notify U s msg clk w).1.lockout,
          (Session.notify U s msg clk w).2.filter Output.isLockout) =
          if fid ≠ 0 then (w.lockout.matched, []) else w.lockout.failedMatch U s clk
    | _ => (Session.notify U s msg clk w).1.lockout = w.lockout ∧
        (Session.notify U s msg clk w).2.filter Output.isLockout = [] := by
  cases msg with
  | FINGERPRINT_AUTHENTICATED fid hat =>
      simp only [Session.notify, Fingerprint.withEngine]
      split
      · rfl
      · simp only [List.filter_cons, Output.isLockout, Bool.false_eq_true, if_false,
          List.filter_append, check_isLockout, onPointerUpImpl_isLockout, List.append_nil]
        rfl
  | FINGERPRINT_ACQUIRED acquired_info =>
      simp only [Session.notify, Fingerprint.withEngine]
      refine ⟨onAcquired_lockout _ _ _, ?_⟩
      rw [List.filter_append, onAcquired_isLockout]
      split <;> rfl
  | FINGERPRINT_TEMPLATE_ENUMERATING fid remaining =>
      simp only [Session.notify]
      split <;> exact ⟨rfl, rfl⟩
  | FINGERPRINT_AUTHENTICATOR_ID_RETRIEVED data => exact ⟨rfl, rfl⟩
  | _ => exact ⟨rfl, rfl⟩

/-- Every step of the service is a step of the lockout machine, or leaves the lockout part
    alone and says nothing about lockouts. -/
theorem step_lockout {U : Util} {mem : Memory} {w w' : Fingerprint} {e : Event}
    {o : List Output} (h : (service U mem).step w e = some (w', o)) :
    match lockoutOp w e with
    | some op => (lockoutMachine U).step w.lockout op =
        some (w'.lockout, o.filter Output.isLockout)
    | none => w'.lockout = w.lockout ∧ o.filter Output.isLockout = [] := by
  cases e with
  | work inp =>
      obtain ⟨⟨s, body⟩, q, hitems, he⟩ := step_work.mp h
      have hr := run_lockout U inp ⟨s, body⟩
        { w with mWorker := q, clock := inp.clk.atTimeLeft }
      rw [← he] at hr
      simp only [lockoutOp, hitems]
      cases body with
      | onPointerDown x y => exact congrArg some hr.symm
      | resetLockout hat =>
          dsimp only at hr ⊢
          split at hr
          · next hm =>
              rw [if_pos hm]
              exact Prod.mk.inj hr
          · next hm =>
              rw [if_neg hm]
              exact congrArg some hr.symm
      | _ => exact hr
  | message msg clk =>
      cases hs : w.openSession with
      | none =>
          obtain ⟨rfl, rfl⟩ := message_dropped h hs
          cases msg <;> simp [lockoutOp, hs]
      | some s =>
          obtain ⟨rfl, rfl⟩ := message_given h hs
          have hn := notify_lockout U s msg clk { w with clock := clk.atTimeLeft }
          cases msg with
          | FINGERPRINT_AUTHENTICATED fid hat =>
              simp only [lockoutOp, hs]
              dsimp only at hn
              split at hn
              · next hf =>
                  rw [if_pos hf]
                  exact congrArg some hn.symm
              · next hf =>
                  rw [if_neg hf]
                  exact congrArg some hn.symm
          | _ => exact hn
  | timer i now =>
      obtain ⟨t, ht, he⟩ := step_timer.mp h
      simp only [lockoutOp, lockoutMachine, LockoutControl.step, ht]
      obtain ⟨rfl, rfl⟩ := Prod.mk.inj he
      exact congrArg some (Prod.ext rfl (expire_isLockout i t w.lockout).symm)
  | _ =>
      have hl := congrArg FingerprintEngine.toLockoutControl (client_frame h rfl).1
      rcases client_outs h rfl with rfl | ⟨s, rfl⟩ | ⟨userId, error, rfl⟩
      · exact ⟨hl, rfl⟩
      · exact ⟨hl, rfl⟩
      · exact ⟨hl, rfl⟩

theorem step_seen {U : Util} {mem : Memory} {w w' : Fingerprint} {e : Event}
    {o : List Output} {op : LockoutOp} (h : (service U mem).step w e = some (w', o))
    (hop : lockoutOp w e = some op) :
    w.lockout.step U op = some (w'.lockout, o.filter Output.isLockout) := by
  have hl := step_lockout h
  rw [hop] at hl
  exact hl

theorem step_unseen {U : Util} {mem : Memory} {w w' : Fingerprint} {e : Event}
    {o : List Output} (h : (service U mem).step w e = some (w', o))
    (hop : lockoutOp w e = none) :
    w'.lockout = w.lockout ∧ o.filter Output.isLockout = [] := by
  have hl := step_lockout h
  rw [hop] at hl
  exact hl

/-- What the lockout machine sees of a step of the service. -/
def lockoutStep (t : Handler) : Option (Transition LockoutControl LockoutOp Output) :=
  Machine.absStep Fingerprint.lockout lockoutOp (List.filter Output.isLockout) t

/-- Every run of the service is a run of the lockout machine. -/
theorem service_run_lockout {U : Util} {mem : Memory} {w₀ w : Fingerprint}
    {ts : List Handler} (h : (service U mem).Run w₀ ts w) :
    (lockoutMachine U).Run w₀.lockout (ts.filterMap lockoutStep) w.lockout := by
  refine h.simulate Fingerprint.lockout lockoutOp (List.filter Output.isLockout) ?_
  intro s e s' o hs
  have hl := step_lockout hs
  split at hl
  · next op hop =>
      rw [hop]
      exact hl
  · next hop =>
      rw [hop]
      exact hl.1

/-! ## Matches and resets in a run of the service -/

/-- A match given to an open session. -/
def isMatch (t : Handler) : Bool :=
  match t.event with
  | .message (.FINGERPRINT_AUTHENTICATED fid _) _ => fid != 0 && t.pre.openSession.isSome
  | _ => false

/-- A failed match given to an open session. -/
def isFailedMatch (t : Handler) : Bool :=
  match t.event with
  | .message (.FINGERPRINT_AUTHENTICATED fid _) _ => fid == 0 && t.pre.openSession.isSome
  | _ => false

/-- The worker runs a `resetLockout` whose token passes the check of `resetLockoutImpl`. -/
def isAcceptedReset (t : Handler) : Bool :=
  match t.event, t.pre.mWorker.items with
  | .work _, ⟨_, .resetLockout hat⟩ :: _ => !hat.mac.isEmpty
  | _, _ => false

/-- What happens in the service when the lockout machine sees the operation. -/
def LockoutOp.ArisesFrom (w : Fingerprint) (e : Event) : LockoutOp → Prop
  | .matched => ∃ fid hat clk s, e = .message (.FINGERPRINT_AUTHENTICATED fid hat) clk ∧
      w.openSession = some s ∧ fid ≠ 0
  | .failedMatch cb clk => ∃ hat, e = .message (.FINGERPRINT_AUTHENTICATED 0 hat) clk ∧
      w.openSession = some cb
  | .pointerDown cb clk => ∃ inp x y q, e = .work inp ∧
      w.mWorker.items = ⟨cb, .onPointerDown x y⟩ :: q ∧ clk = inp.clk
  | .resetAccepted cb => ∃ inp hat q, e = .work inp ∧
      w.mWorker.items = ⟨cb, .resetLockout hat⟩ :: q ∧ hat.mac ≠ []
  | .expired i now => e = .timer i now

theorem lockoutOp_cases {w : Fingerprint} {e : Event} {op : LockoutOp}
    (h : lockoutOp w e = some op) : op.ArisesFrom w e := by
  unfold lockoutOp at h
  split at h
  · next inp =>
      split at h
      · next s x y q hi =>
          cases h
          exact ⟨inp, x, y, q, rfl, hi, rfl⟩
      · next s hat q hi =>
          split at h
          · cases h
          · next hm =>
              cases h
              exact ⟨inp, hat, q, rfl, hi, hm⟩
      · cases h
  · next fid hat clk =>
      split at h
      · next s hs =>
          split at h
          · next hf =>
              cases h
              exact ⟨fid, hat, clk, s, rfl, hs, hf⟩
          · next hf =>
              cases h
              obtain rfl : fid = 0 := Decidable.not_not.mp hf
              exact ⟨hat, rfl, hs⟩
      · cases h
  · next i now =>
      cases h
      rfl
  · cases h

theorem isMatch_iff {t : Handler} :
    isMatch t = true ↔ lockoutOp t.pre t.event = some .matched := by
  constructor
  · intro h
    unfold isMatch at h
    split at h
    · next fid hat clk he =>
        simp only [Bool.and_eq_true, bne_iff_ne, Option.isSome_iff_exists] at h
        obtain ⟨hf, s, hs⟩ := h
        simp only [he, lockoutOp, hs, if_pos hf]
    · cases h
  · intro h
    obtain ⟨fid, hat, clk, s, he, hs, hf⟩ := lockoutOp_cases h
    simp only [isMatch, he, hs, Option.isSome_some, Bool.and_true, bne_iff_ne]
    exact hf

theorem isFailedMatch_iff {t : Handler} :
    isFailedMatch t = true ↔
      ∃ cb clk, lockoutOp t.pre t.event = some (.failedMatch cb clk) := by
  constructor
  · intro h
    unfold isFailedMatch at h
    split at h
    · next fid hat clk he =>
        simp only [Bool.and_eq_true, beq_iff_eq, Option.isSome_iff_exists] at h
        obtain ⟨rfl, s, hs⟩ := h
        exact ⟨s, clk, by simp [he, lockoutOp, hs]⟩
    · cases h
  · rintro ⟨cb, clk, h⟩
    obtain ⟨hat, he, hs⟩ := lockoutOp_cases h
    simp [isFailedMatch, he, hs]

theorem isAcceptedReset_iff {t : Handler} :
    isAcceptedReset t = true ↔
      ∃ cb, lockoutOp t.pre t.event = some (.resetAccepted cb) := by
  constructor
  · intro h
    unfold isAcceptedReset at h
    split at h
    · next inp s hat q he hi =>
        have hm : hat.mac ≠ [] := by simpa using h
        exact ⟨s, by simp only [he, lockoutOp, hi, if_neg hm]⟩
    · cases h
  · rintro ⟨cb, h⟩
    obtain ⟨inp, hat, q, he, hi, hm⟩ := lockoutOp_cases h
    simp [isAcceptedReset, he, hi, hm]

/-! ## The timers -/

namespace LockoutControl

/-- The lockout part as a fresh engine should have it. -/
structure Clean (l : LockoutControl) : Prop where
  supported : l.isLockoutTimerSupported = true
  started : l.isLockoutTimerStarted = false
  aborted : l.isLockoutTimerAborted = false
  tracker : l.mLockoutTracker = ⟨0, 0, .kNone⟩
  timers : l.timers = []

/-- At most one timer is asleep, none when the started flag is down, and in a permanent
    lockout it is marked as aborted. -/
structure Sound (l : LockoutControl) : Prop where
  asleep : l.timers.length ≤ if l.isLockoutTimerStarted then 1 else 0
  permanent : l.mLockoutTracker.mCurrentMode = .kPermanent →
    l.timers ≠ [] → l.isLockoutTimerAborted = true

/-- The started flag is up only while a timer is asleep. -/
structure WF (l : LockoutControl) : Prop extends Sound l where
  supported : l.isLockoutTimerSupported = true
  outstanding : l.isLockoutTimerStarted = true → l.timers ≠ []

theorem sound_of_no_timer {l : LockoutControl} (h : l.timers = []) : l.Sound where
  asleep := by rw [h]; exact Nat.zero_le _
  permanent _ hn := absurd h hn

theorem Clean.wf {l : LockoutControl} (h : l.Clean) : l.WF where
  toSound := sound_of_no_timer h.timers
  supported := h.supported
  outstanding hs := by rw [h.started] at hs; cases hs

/-- A timer that is asleep is the only one, and the started flag is up. -/
theorem Sound.only_timer {l : LockoutControl} (h : l.Sound) {i : Nat} {t : LockoutTimer}
    (ht : l.timers[i]? = some t) :
    i = 0 ∧ l.timers = [t] ∧ l.isLockoutTimerStarted = true := by
  obtain ⟨hi, hget⟩ := List.getElem?_eq_some_iff.mp ht
  have hlen := h.asleep
  split at hlen
  · next hs =>
      obtain ⟨u, hu⟩ := List.length_eq_one_iff.mp (show l.timers.length = 1 by omega)
      have hi0 : i = 0 := by omega
      subst hi0
      rw [hu] at ht
      cases ht
      exact ⟨rfl, hu, hs⟩
  · omega

/-- With the started flag up there is exactly one timer. -/
theorem WF.the_timer {l : LockoutControl} (h : l.WF) (hs : l.isLockoutTimerStarted = true) :
    ∃ t, l.timers = [t] := by
  obtain ⟨t, q, hq⟩ := List.exists_cons_of_ne_nil (h.outstanding hs)
  have ht : l.timers[0]? = some t := by rw [hq]; rfl
  exact ⟨t, (h.only_timer ht).2.1⟩

/-- The four things `checkSensorLockout` can find, and what it does then. -/
theorem check_cases (U : Util) (cb : SessionId) (clk : Readings) (l : LockoutControl) :
    (l.mLockoutTracker.mCurrentMode = .kPermanent ∧
      l.checkSensorLockout U cb clk =
        (true, { l with isLockoutTimerAborted := true },
          [.callback cb .onLockoutPermanent])) ∨
    (l.mLockoutTracker.mCurrentMode = .kTimed ∧
      U.hasElapsed clk.atMode l.mLockoutTracker.mLockoutTimedStart
        LOCKOUT_TIMED_DURATION = false ∧
      l.checkSensorLockout U cb clk =
        (true,
          if l.isLockoutTimerSupported ∧ ¬ l.isLockoutTimerStarted then
            l.startLockoutTimer (l.mLockoutTracker.getLockoutTimeLeft clk.atTimeLeft) cb
              clk.atTimeLeft
          else l,
          [.callback cb (.onLockoutTimed
            (l.mLockoutTracker.getLockoutTimeLeft clk.atTimeLeft))])) ∨
    (l.mLockoutTracker.mCurrentMode = .kTimed ∧
      U.hasElapsed clk.atMode l.mLockoutTracker.mLockoutTimedStart
        LOCKOUT_TIMED_DURATION = true ∧
      l.checkSensorLockout U cb clk =
        (false, { l with mLockoutTracker := l.mLockoutTracker.reset true }, [])) ∨
    (l.mLockoutTracker.mCurrentMode ≠ .kPermanent ∧
      l.mLockoutTracker.mCurrentMode ≠ .kTimed ∧
      l.checkSensorLockout U cb clk = (false, l, [])) := by
  by_cases hp : l.mLockoutTracker.mCurrentMode = .kPermanent
  · exact Or.inl ⟨hp, check_permanent hp⟩
  · by_cases ht : l.mLockoutTracker.mCurrentMode = .kTimed
    · cases hr : U.hasElapsed clk.atMode l.mLockoutTracker.mLockoutTimedStart
          LOCKOUT_TIMED_DURATION with
      | false => exact Or.inr (Or.inl ⟨ht, rfl, check_timed ht hr⟩)
      | true => exact Or.inr (Or.inr (Or.inl ⟨ht, rfl, check_elapsed ht hr⟩))
    · exact Or.inr (Or.inr (Or.inr ⟨hp, ht, check_unlocked hp ht⟩))

/-- A timer that was marked as aborted only takes the two flags back. -/
theorem expire_aborted {i : Nat} {t : LockoutTimer} {l : LockoutControl}
    (h : l.isLockoutTimerAborted = true) :
    l.expire i t = ({ l with
      timers := l.timers.eraseIdx i
      isLockoutTimerStarted := false
      isLockoutTimerAborted := false }, []) := by
  unfold expire lockoutTimerExpired
  simp only [h, if_true]

/-- A timer that was not marked ends the lockout and says so. -/
theorem expire_live {i : Nat} {t : LockoutTimer} {l : LockoutControl}
    (h : l.isLockoutTimerAborted = false) :
    l.expire i t = ({ l with
      mLockoutTracker := l.mLockoutTracker.reset true
      timers := l.timers.eraseIdx i
      isLockoutTimerStarted := false
      isLockoutTimerAborted := false }, [.callback t.cb .onLockoutCleared]) := by
  unfold expire lockoutTimerExpired clearLockout
  simp only [h, Bool.false_eq_true, if_false]

/-- `checkSensorLockout` leaves the timers sound, whatever mode it finds: in a permanent
    lockout it marks the timer itself. -/
theorem sound_check {U : Util} {cb : SessionId} {clk : Readings} {l : LockoutControl}
    (h : l.timers.length ≤ if l.isLockoutTimerStarted then 1 else 0) :
    (l.checkSensorLockout U cb clk).2.1.Sound := by
  rcases check_cases U cb clk l with ⟨hm, e⟩ | ⟨hm, -, e⟩ | ⟨-, -, e⟩ | ⟨hm, -, e⟩
  · rw [e]
    exact ⟨h, fun _ _ => rfl⟩
  · rw [e]
    dsimp only
    split
    · next hc =>
        refine ⟨?_, fun hp => absurd (hm.symm.trans hp) (by simp)⟩
        have hs : l.isLockoutTimerStarted = false := by simpa using hc.2
        rw [hs] at h
        simpa [startLockoutTimer] using h
    · exact ⟨h, fun hp => absurd (hm.symm.trans hp) (by simp)⟩
  · rw [e]
    exact ⟨h, fun hp => absurd hp (by simp)⟩
  · rw [e]
    exact ⟨h, fun hp => absurd hp hm⟩

/-- `checkSensorLockout` raises the started flag only with a timer. -/
theorem outstanding_check {U : Util} {cb : SessionId} {clk : Readings} {l : LockoutControl}
    (h : l.isLockoutTimerStarted = true → l.timers ≠ []) :
    (l.checkSensorLockout U cb clk).2.1.isLockoutTimerStarted = true →
      (l.checkSensorLockout U cb clk).2.1.timers ≠ [] := by
  rcases check_cases U cb clk l with ⟨-, e⟩ | ⟨-, -, e⟩ | ⟨-, -, e⟩ | ⟨-, -, e⟩
  · rw [e]
    exact h
  · rw [e]
    dsimp only
    split
    · exact fun _ => by simp [startLockoutTimer]
    · exact h
  · rw [e]
    exact h
  · rw [e]
    exact h

theorem check_supported (U : Util) (cb : SessionId) (clk : Readings) (l : LockoutControl) :
    (l.checkSensorLockout U cb clk).2.1.isLockoutTimerSupported =
      l.isLockoutTimerSupported := by
  rcases check_cases U cb clk l with ⟨-, e⟩ | ⟨-, -, e⟩ | ⟨-, -, e⟩ | ⟨-, -, e⟩
  · rw [e]
  · rw [e]
    dsimp only
    split <;> rfl
  · rw [e]
  · rw [e]

/-- What `checkSensorLockout` leaves of an engine whose flags and timers fit. -/
theorem wf_check {U : Util} {cb : SessionId} {clk : Readings} {l l' : LockoutControl}
    (h : l.WF) (hs : l'.isLockoutTimerSupported = l.isLockoutTimerSupported)
    (hst : l'.isLockoutTimerStarted = l.isLockoutTimerStarted) (ht : l'.timers = l.timers) :
    (l'.checkSensorLockout U cb clk).2.1.WF where
  toSound := sound_check (by rw [ht, hst]; exact h.asleep)
  supported := (check_supported U cb clk l').trans (hs.trans h.supported)
  outstanding := outstanding_check (by rw [ht, hst]; exact h.outstanding)

/-- What a step is, operation by operation. -/
theorem step_cases {U : Util} {l l' : LockoutControl} {op : LockoutOp} {o : List Output}
    (h : l.step U op = some (l', o)) :
    match op with
    | .matched => l' = l.matched ∧ o = []
    | .failedMatch cb clk =>
        l' = (l.failedMatch U cb clk).1 ∧ o = (l.failedMatch U cb clk).2
    | .pointerDown cb clk =>
        l' = (l.checkSensorLockout U cb clk).2.1 ∧ o = (l.checkSensorLockout U cb clk).2.2
    | .resetAccepted cb =>
        l' = { l with
          mLockoutTracker := l.mLockoutTracker.reset false
          isLockoutTimerAborted := l.isLockoutTimerStarted || l.isLockoutTimerAborted } ∧
        o = [.callback cb .onLockoutCleared]
    | .expired i _ => ∃ t, l.timers[i]? = some t ∧ l' = (l.expire i t).1 ∧
        o = (l.expire i t).2 := by
  cases op with
  | matched => exact Prod.mk.inj (Option.some.inj h).symm
  | failedMatch cb clk => exact Prod.mk.inj (Option.some.inj h).symm
  | pointerDown cb clk => exact Prod.mk.inj (Option.some.inj h).symm
  | resetAccepted cb =>
      have he : l.acceptReset cb = (l', o) := Option.some.inj h
      rw [acceptReset_eq] at he
      exact Prod.mk.inj he.symm
  | expired i now =>
      simp only [step] at h
      split at h
      · cases h
      · next t ht => exact ⟨t, ht, Prod.mk.inj (Option.some.inj h).symm⟩

/-- A timer that has slept leaves no timer and the started flag down. -/
theorem Sound.expire {l : LockoutControl} (h : l.Sound) {i : Nat} {t : LockoutTimer}
    (ht : l.timers[i]? = some t) :
    (l.expire i t).1.timers = [] ∧ (l.expire i t).1.isLockoutTimerStarted = false := by
  obtain ⟨rfl, hts, -⟩ := h.only_timer ht
  have he : l.timers.eraseIdx 0 = [] := by rw [hts]; rfl
  cases ha : l.isLockoutTimerAborted with
  | true => rw [expire_aborted ha]; exact ⟨he, rfl⟩
  | false => rw [expire_live ha]; exact ⟨he, rfl⟩

/-- Every step keeps the timers sound. -/
theorem sound_step {U : Util} {l l' : LockoutControl} {op : LockoutOp} {o : List Output}
    (h : l.Sound) (hstep : l.step U op = some (l', o)) : l'.Sound := by
  have hs := step_cases hstep
  cases op with
  | matched =>
      obtain ⟨rfl, -⟩ := hs
      exact ⟨h.asleep, fun hp => absurd hp (by simp [matched])⟩
  | failedMatch cb clk =>
      obtain ⟨rfl, -⟩ := hs
      exact sound_check h.asleep
  | pointerDown cb clk =>
      obtain ⟨rfl, -⟩ := hs
      exact sound_check h.asleep
  | resetAccepted cb =>
      obtain ⟨rfl, -⟩ := hs
      exact ⟨h.asleep, fun hp => absurd hp (by simp)⟩
  | expired i now =>
      obtain ⟨t, ht, rfl, -⟩ := hs
      exact sound_of_no_timer (h.expire ht).1

/-- Every step keeps the flags and the timers fitting. -/
theorem wf_step {U : Util} {l l' : LockoutControl} {op : LockoutOp} {o : List Output}
    (h : l.WF) (hstep : l.step U op = some (l', o)) : l'.WF := by
  have hsound := sound_step h.toSound hstep
  have hs := step_cases hstep
  cases op with
  | matched =>
      obtain ⟨rfl, -⟩ := hs
      exact ⟨hsound, h.supported, h.outstanding⟩
  | failedMatch cb clk =>
      obtain ⟨rfl, -⟩ := hs
      exact wf_check h rfl rfl rfl
  | pointerDown cb clk =>
      obtain ⟨rfl, -⟩ := hs
      exact wf_check h rfl rfl rfl
  | resetAccepted cb =>
      obtain ⟨rfl, -⟩ := hs
      exact ⟨hsound, h.supported, h.outstanding⟩
  | expired i now =>
      obtain ⟨t, ht, rfl, -⟩ := hs
      obtain ⟨-, hdown⟩ := h.toSound.expire ht
      refine ⟨hsound, ?_, fun hup => absurd (hdown.symm.trans hup) (by simp)⟩
      cases ha : l.isLockoutTimerAborted with
      | true => rw [expire_aborted ha]; exact h.supported
      | false => rw [expire_live ha]; exact h.supported

end LockoutControl

/-- In every run of the lockout machine the timers stay sound. -/
theorem sound_run {U : Util} {l₀ l : LockoutControl}
    {ts : List (Transition LockoutControl LockoutOp Output)}
    (h : (lockoutMachine U).Run l₀ ts l) (h₀ : l₀.Sound) : l.Sound :=
  h.state_invariant h₀ fun _ _ _ _ hw hs => LockoutControl.sound_step hw hs

/-- In every run of the lockout machine the flags and the timers fit. -/
theorem wf_run {U : Util} {l₀ l : LockoutControl}
    {ts : List (Transition LockoutControl LockoutOp Output)}
    (h : (lockoutMachine U).Run l₀ ts l) (h₀ : l₀.WF) : l.WF :=
  h.state_invariant h₀ fun _ _ _ _ hw hs => LockoutControl.wf_step hw hs

/-- In every state of the service the timers are sound, whatever the memory held that the
    constructors do not write. -/
theorem sound_service {U : Util} {mem : Memory} {hw : HwModule} {now : Int}
    {w : Fingerprint} {ts : List Handler}
    (h : (service U mem).Run (Fingerprint.boot mem hw now).1 ts w) : w.lockout.Sound :=
  sound_run (service_run_lockout h) (LockoutControl.sound_of_no_timer rfl)

end FingerprintHal
