/-
  Unlocking during a lockout.

  The lockout is looked at when a finger goes down, not when a match arrives: a match that
  is given to an open session is passed on as it is, and resets the tracker. So no message
  unlocks during a lockout exactly when no match arrives in it (`noUnlock_iff`). What else
  happens does not matter: failed matches, pointer tasks and timers never send
  `onAuthenticationSucceeded`, and a failed match does not lead out of a lockout before its
  time is over.
-/
import FingerprintHal.Lockout.Permanent
import FingerprintHal.Session.Callbacks

namespace FingerprintHal

open Lib

/-! ## Locked out -/

/-- A lockout that started at `start` still lasts at `now`. -/
def StillLasts (start now : Int) : Prop := now - start ≤ LOCKOUT_TIMED_DURATION * 1000000

/-- The service is locked out in `w`, and `us` stays within that lockout: all of it when
    the lockout is permanent, up to its end when it is timed. Only a tracker that still
    holds what the memory held at its construction could have a start in the future. -/
def LockedOutDuring (w : Fingerprint) (us : List Handler) : Prop :=
  w.mEngine.mLockoutTracker.mCurrentMode = .kPermanent ∨
  (w.mEngine.mLockoutTracker.mCurrentMode = .kTimed ∧
    w.mEngine.mLockoutTracker.mLockoutTimedStart ≤ w.clock ∧
    StillLasts w.mEngine.mLockoutTracker.mLockoutTimedStart w.clock ∧
    ∀ u ∈ us, ∀ r, u.event.ends = some r →
      StillLasts w.mEngine.mLockoutTracker.mLockoutTimedStart r)

/-- No session is told of a success, and no message leads out of a lockout. -/
def NoUnlock (us : List Handler) : Prop :=
  (∀ s fid hat, Output.callback s (.onAuthenticationSucceeded fid hat) ∉ trace us) ∧
  ∀ u ∈ us, (∃ msg clk, u.event = .message msg clk) →
    u.pre.mEngine.mLockoutTracker.Locked → u.post.mEngine.mLockoutTracker.Locked

/-! ## Who tells of a success -/

/-- A match given to an open session is passed on. -/
theorem success_of_isMatch {U : Util} {mem : Memory} {t : Handler}
    (hstep : (service U mem).step t.pre t.event = some (t.post, t.outs))
    (h : isMatch t = true) :
    ∃ s fid hat, Output.callback s (.onAuthenticationSucceeded fid hat) ∈ t.outs := by
  obtain ⟨fid, hat, clk, s, he, hs, hf⟩ := lockoutOp_cases (isMatch_iff.mp h)
  rw [he] at hstep
  rw [(message_given hstep hs).2]
  exact ⟨s, fid, _, handedOn_mem (if_pos hf)⟩

/-- Only a match is handed on as a success. -/
theorem handedOn_success {msg : Msg} {enrollments : List (BitVec 32)} {fid : BitVec 32}
    {hat : HardwareAuthToken}
    (h : msg.handedOn enrollments = some (.onAuthenticationSucceeded fid hat)) :
    fid ≠ 0 ∧ ∃ hat', msg = .FINGERPRINT_AUTHENTICATED fid hat' := by
  cases msg with
  | FINGERPRINT_AUTHENTICATED fid' hat' =>
      simp only [Msg.handedOn] at h
      split at h
      · next hf =>
          cases h
          exact ⟨hf, hat', rfl⟩
      · cases h
  | _ => simp [Msg.handedOn] at h

/-- Nothing but a match given to an open session tells of a success. -/
theorem isMatch_of_success {U : Util} {mem : Memory} {t : Handler}
    (hstep : (service U mem).step t.pre t.event = some (t.post, t.outs)) {s : SessionId}
    {fid : BitVec 32} {hat : HardwareAuthToken}
    (h : Output.callback s (.onAuthenticationSucceeded fid hat) ∈ t.outs) :
    isMatch t = true := by
  rcases step_callback hstep h with ⟨_, _, _, _, _, hc⟩ | ⟨msg, clk, he, hs, hc | hc⟩ |
    ⟨_, _, _, _, _, _, _, hc⟩ | ⟨_, hc⟩
  · exact hc.elim
  · obtain ⟨hf, hat', rfl⟩ := handedOn_success hc
    simp only [isMatch, he, hs, Option.isSome_some, Bool.and_true, bne_iff_ne]
    exact hf
  · exact hc.elim
  · cases hc
  · cases hc

/-! ## A failed match during a lockout -/

/-- Before the time is over, `checkSensorLockout` leaves a lockout as it is. -/
theorem check_locked {U : Util} (hU : U.Lawful) {cb : SessionId} {clk : Readings}
    {l : LockoutControl} (h : l.mLockoutTracker.Locked)
    (hlast : l.mLockoutTracker.mCurrentMode = .kTimed →
      StillLasts l.mLockoutTracker.mLockoutTimedStart clk.atMode) :
    (l.checkSensorLockout U cb clk).2.1.mLockoutTracker = l.mLockoutTracker := by
  rcases LockoutControl.check_cases U cb clk l with ⟨-, e⟩ | ⟨-, -, e⟩ | ⟨hm, hr, -⟩ |
    ⟨h1, h2, -⟩
  · rw [e]
  · rw [e]
    dsimp only
    split <;> rfl
  · have h1 := hU.elapsed _ _ _ hr
    have h2 := hlast hm
    unfold StillLasts at h2
    omega
  · rcases h with h | h
    · exact absurd h h2
    · exact absurd h h1

/-- A failed match does not lead out of a lockout that still lasts. -/
theorem failedMatch_locked {U : Util} (hU : U.Lawful) {cb : SessionId} {clk : Readings}
    {l : LockoutControl} (h : l.mLockoutTracker.Locked)
    (hlast : l.mLockoutTracker.mCurrentMode = .kTimed →
      StillLasts l.mLockoutTracker.mLockoutTimedStart clk.atMode) :
    (l.failedMatch U cb clk).1.mLockoutTracker.Locked := by
  have hmode : (l.mLockoutTracker.addFailedAttempt clk.atFailure).Locked :=
    LockoutTracker.locked_addFailedAttempt h
  unfold LockoutControl.failedMatch
  rw [check_locked hU hmode]
  · exact hmode
  · intro hk
    rcases LockoutTracker.addFailedAttempt_kTimed hk with ⟨hm, hs⟩ | ⟨hm, -⟩
    · dsimp only
      rw [hs]
      exact hlast hm
    · exact absurd hm h.ne_kNone

/-! ## The start of a lockout and the clock -/

/-- A timed lockout of `w` started at `start` or later, and not in the future. -/
structure StartedSince (start : Int) (w : Fingerprint) : Prop where
  since : w.mEngine.mLockoutTracker.mCurrentMode = .kTimed →
    start ≤ w.mEngine.mLockoutTracker.mLockoutTimedStart
  past : w.mEngine.mLockoutTracker.mCurrentMode = .kTimed →
    w.mEngine.mLockoutTracker.mLockoutTimedStart ≤ w.clock
  clock : start ≤ w.clock

/-- A timed lockout after `checkSensorLockout` was there before. -/
theorem check_kTimed {U : Util} {cb : SessionId} {clk : Readings} {l : LockoutControl}
    (h : (l.checkSensorLockout U cb clk).2.1.mLockoutTracker.mCurrentMode = .kTimed) :
    (l.checkSensorLockout U cb clk).2.1.mLockoutTracker = l.mLockoutTracker :=
  LockoutControl.check_of_ne_kNone (by rw [h]; simp)

/-- A timed lockout after a step was there before, or a failed match has just started it. -/
theorem step_kTimed {U : Util} {l l' : LockoutControl} {op : LockoutOp} {o : List Output}
    (h : l.step U op = some (l', o)) (hm : l'.mLockoutTracker.mCurrentMode = .kTimed) :
    (l.mLockoutTracker.mCurrentMode = .kTimed ∧
      l'.mLockoutTracker.mLockoutTimedStart = l.mLockoutTracker.mLockoutTimedStart) ∨
    (∃ cb clk, op = .failedMatch cb clk ∧ l.mLockoutTracker.mCurrentMode = .kNone ∧
      l'.mLockoutTracker.mLockoutTimedStart = clk.atFailure) := by
  have hs := LockoutControl.step_cases h
  cases op with
  | matched =>
      obtain ⟨rfl, -⟩ := hs
      cases hm
  | failedMatch cb clk =>
      obtain ⟨rfl, -⟩ := hs
      have ht := check_kTimed hm
      unfold LockoutControl.failedMatch at hm ⊢
      rw [ht] at hm ⊢
      rcases LockoutTracker.addFailedAttempt_kTimed hm with h1 | ⟨h1, h2⟩
      · exact Or.inl h1
      · exact Or.inr ⟨cb, clk, rfl, h1, h2⟩
  | pointerDown cb clk =>
      obtain ⟨rfl, -⟩ := hs
      have ht := check_kTimed hm
      rw [ht] at hm ⊢
      exact Or.inl ⟨hm, rfl⟩
  | resetAccepted cb =>
      obtain ⟨rfl, -⟩ := hs
      cases hm
  | expired i now =>
      obtain ⟨t, ht, rfl, -⟩ := hs
      cases ha : l.isLockoutTimerAborted with
      | true =>
          rw [LockoutControl.expire_aborted ha] at hm ⊢
          exact Or.inl ⟨hm, rfl⟩
      | false =>
          rw [LockoutControl.expire_live ha] at hm
          cases hm

/-- The readings of a step that is a failed match to the lockout machine. -/
theorem starts_of_failedMatch {w : Fingerprint} {e : Event} {cb : SessionId}
    {clk : Readings} (h : lockoutOp w e = some (.failedMatch cb clk)) :
    e.starts = some clk.atFailure ∧ e.ends = some clk.atTimeLeft := by
  obtain ⟨hat, rfl, -⟩ := lockoutOp_cases h
  exact ⟨rfl, rfl⟩

/-- While the clock does not go back, lockouts start one after the other. -/
theorem startedSince_step {U : Util} {mem : Memory} {t : Handler} {start : Int}
    (h : StartedSince start t.pre) (hn : Nondecreasing t)
    (hstep : (service U mem).step t.pre t.event = some (t.post, t.outs)) :
    StartedSince start t.post := by
  have hclk := clock_le hstep hn
  cases hop : lockoutOp t.pre t.event with
  | none =>
      have hl := step_unseen hstep hop
      have he : t.post.mEngine.mLockoutTracker = t.pre.mEngine.mLockoutTracker :=
        congrArg LockoutControl.mLockoutTracker hl.1
      refine ⟨?_, ?_, Int.le_trans h.clock hclk⟩
      · rw [he]; exact h.since
      · rw [he]; exact fun hm => Int.le_trans (h.past hm) hclk
  | some op =>
      have hl := step_seen hstep hop
      have hk : t.post.mEngine.mLockoutTracker.mCurrentMode = .kTimed →
          start ≤ t.post.mEngine.mLockoutTracker.mLockoutTimedStart ∧
            t.post.mEngine.mLockoutTracker.mLockoutTimedStart ≤ t.post.clock := by
        intro hm
        rcases step_kTimed hl hm with ⟨h1, h2⟩ | ⟨cb, clk, rfl, -, h2⟩
        · have hs := h.since h1
          have hp := h.past h1
          exact ⟨by rw [h2]; exact hs, by rw [h2]; exact Int.le_trans hp hclk⟩
        · obtain ⟨hst, hen⟩ := starts_of_failedMatch hop
          have h3 := hn _ hst
          have h4 := step_clock hstep
          rw [hen, Option.getD_some] at h4
          have h5 := h.clock
          have h6 := clk.mode_after
          have h7 := clk.timeLeft_after
          exact ⟨by rw [h2]; omega, by rw [h2, h4]; omega⟩
      exact ⟨fun hm => (hk hm).1, fun hm => (hk hm).2, Int.le_trans h.clock hclk⟩

theorem startedSince_run {U : Util} {mem : Memory} {w₀ w : Fingerprint} {ts : List Handler}
    {start : Int} (h : (service U mem).Run w₀ ts w) (hn : ∀ t ∈ ts, Nondecreasing t)
    (h₀ : StartedSince start w₀) : StartedSince start w :=
  h.invariant (C := fun _ t => Nondecreasing t) (I := fun _ w => StartedSince start w)
    (along_mem.mpr hn) h₀ fun _ _ hI hC hs => startedSince_step hI hC hs

/-! ## Runs that stay within a lockout -/

/-- Without a match, a message does not lead out of a lockout that lasts. -/
theorem message_locked {U : Util} {mem : Memory} (hU : U.Lawful) {u : Handler}
    (hstep : (service U mem).step u.pre u.event = some (u.post, u.outs))
    (hmsg : ∃ msg clk, u.event = .message msg clk) (hmatch : isMatch u = false)
    (hlock : u.pre.mEngine.mLockoutTracker.Locked)
    (hlast : u.pre.mEngine.mLockoutTracker.mCurrentMode = .kTimed →
      ∀ r, u.event.ends = some r →
        StillLasts u.pre.mEngine.mLockoutTracker.mLockoutTimedStart r) :
    u.post.mEngine.mLockoutTracker.Locked := by
  cases hop : lockoutOp u.pre u.event with
  | none =>
      have hl := step_unseen hstep hop
      have he : u.post.mEngine.mLockoutTracker = u.pre.mEngine.mLockoutTracker :=
        congrArg LockoutControl.mLockoutTracker hl.1
      rw [he]
      exact hlock
  | some op =>
      have hl := step_seen hstep hop
      obtain ⟨msg, clk, he⟩ := hmsg
      have hc := lockoutOp_cases hop
      cases op with
      | matched =>
          rw [isMatch_iff.mpr hop] at hmatch
          cases hmatch
      | failedMatch s clk' =>
          obtain ⟨hat, e, -⟩ := hc
          obtain ⟨hpost, -⟩ := LockoutControl.step_cases hl
          have hmode :
              (u.pre.mEngine.toLockoutControl.failedMatch U s clk').1.mLockoutTracker.Locked :=
            failedMatch_locked hU hlock fun hm => by
              have h1 := hlast hm clk'.atTimeLeft (by rw [e]; rfl)
              have h2 := clk'.timeLeft_after
              unfold StillLasts at h1 ⊢
              omega
          rw [← hpost] at hmode
          exact hmode
      | pointerDown cb clk' =>
          obtain ⟨_, _, _, _, e, -⟩ := hc
          cases he.symm.trans e
      | resetAccepted cb =>
          obtain ⟨_, _, _, e, -⟩ := hc
          cases he.symm.trans e
      | expired i now => cases he.symm.trans hc

/-- **A match is all that unlocks during a lockout.** Let the service be locked out in a
    state `w` that it has reached, and let `us` be what happens from there within that
    lockout, without an accepted `resetLockout`. No session is told of a success and no
    message leads out of the lockout, exactly when no match is given to an open session. -/
theorem noUnlock_iff {U : Util} {mem : Memory} {hw : HwModule} {now : Int}
    {w w' : Fingerprint} {ts us : List Handler} (hU : U.Lawful)
    (hts : (service U mem).Run (Fingerprint.boot mem hw now).1 ts w)
    (hus : (service U mem).Run w us w') (hclock : ∀ u ∈ us, Nondecreasing u)
    (hreset : ∀ u ∈ us, isAcceptedReset u = false) (hlock : LockedOutDuring w us) :
    NoUnlock us ↔ ∀ u ∈ us, isMatch u = false := by
  constructor
  · rintro ⟨hno, -⟩ u hu
    cases hm : isMatch u with
    | false => rfl
    | true =>
        obtain ⟨s, fid, hat, hout⟩ := success_of_isMatch (hus.step_of_mem hu) hm
        exact absurd (List.mem_flatMap.mpr ⟨u, hu, hout⟩) (hno s fid hat)
  · intro hm
    refine ⟨fun s fid hat hout => ?_, fun u hu hmsg hpre => ?_⟩
    · obtain ⟨u, hu, hout⟩ := List.mem_flatMap.mp hout
      have := isMatch_of_success (hus.step_of_mem hu) hout
      rw [hm u hu] at this
      cases this
    · obtain ⟨us₁, us₂, rfl, h1, h2, -⟩ := hus.at_mem hu
      refine message_locked hU h2 hmsg (hm u hu) hpre fun hk r hr => ?_
      rcases hlock with hp | ⟨hkw, hpast, -, hlast⟩
      · -- permanent at `w`, so it is still permanent here
        have hc : w.lockout.Counted 20 :=
          ⟨sound_service hts, fun h => by omega, fun _ => hp⟩
        have hperm := (counted_service hc h1 fun t ht =>
          ⟨hm t (by simp [ht]), hreset t (by simp [ht])⟩).permanent (by omega)
        exact absurd (hk.symm.trans hperm) (by simp)
      · -- a timed lockout seen here started no earlier than the one of `w`
        have hs := startedSince_run h1 (fun t ht => hclock t (by simp [ht]))
          ⟨fun _ => Int.le_refl _, fun _ => hpast, hpast⟩
        have h3 := hs.since hk
        have h4 := hlast u hu r hr
        unfold StillLasts at h4 ⊢
        omega

/-! ## On a service with twenty failures -/

/-- A match that arrives after twenty failures unlocks: the clock does not go back, no
    `resetLockout` is accepted, and the session is told of a success. -/
theorem match_unlocks_permanent :
    let M := service .millis .zeroed
    let w := M.final .ready twentyFailures
    let us := M.steps w [matchAt 1]
    M.Run .ready (M.steps .ready twentyFailures) w ∧ M.Run w us (M.final w [matchAt 1]) ∧
      w.mEngine.mLockoutTracker.mCurrentMode = .kPermanent ∧
      (∀ u ∈ us, Nondecreasing u) ∧
      (∀ u ∈ us, isAcceptedReset u = false) ∧ ¬ NoUnlock us := by
  refine ⟨Machine.run_steps (by decide +kernel), Machine.run_steps (by decide +kernel),
    by decide +kernel, by decide +kernel, by decide +kernel, ?_⟩
  rintro ⟨h, -⟩
  exact h 0 1 (translateToAidl .zeroed .default) (by decide +kernel)

theorem noUnlock_iff_failure :
    NoUnlock ((service .millis .zeroed).steps
      ((service .millis .zeroed).final .ready twentyFailures) [failureAt 1]) :=
  (@noUnlock_iff .millis .zeroed .working 0 _ _
    ((service .millis .zeroed).steps .ready twentyFailures) _
    Util.millis_lawful (Machine.run_steps (by decide +kernel))
    (Machine.run_steps (by decide +kernel)) (by decide +kernel) (by decide +kernel)
    (Or.inl (by decide +kernel))).mpr (by decide +kernel)

end FingerprintHal
