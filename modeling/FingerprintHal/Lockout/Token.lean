/-
  Which tokens clear a lockout.

  The vendor module has a function that verifies a token and clears its own lockout,
  `resetLockout`. The engine has no call for it: `resetLockoutImpl` takes every token that
  has a mac. And a request that finds the queue full is dropped, whatever its token is. So
  the lockout is cleared on verified tokens only, and other tokens are rejected, exactly
  when the token has no mac and the queue has room (`cleared_on_verified_iff`).
-/
import FingerprintHal.Lockout.Timer
import FingerprintHal.Session.Served

namespace FingerprintHal

open Lib

/-- The device was asked to verify the token, and did. -/
def Verified (hat : HardwareAuthToken) (os : List Output) : Prop :=
  ∃ dev stack, Output.device dev (.resetLockout (translateToLegacy hat stack) 0) ∈ os

/-- The request is rejected with one error, and changes nothing about lockouts. -/
structure Rejects (s : SessionId) (u : Handler) : Prop where
  error : u.outs.countP (Output.isError s Error.UNABLE_TO_PROCESS) = 1
  tracker : u.post.mEngine.mLockoutTracker = u.pre.mEngine.mLockoutTracker
  started : u.post.mEngine.isLockoutTimerStarted = u.pre.mEngine.isLockoutTimerStarted
  aborted : u.post.mEngine.isLockoutTimerAborted = u.pre.mEngine.isLockoutTimerAborted

/-- The `resetLockout` that `s` asks for in the step `t`, with the token `hat`, clears the
    lockout and touches the tracker if the token is verified, and is rejected otherwise:
    both in the one step among the later ones `vs` that serves it. -/
structure ClearsOnVerified (s : SessionId) (hat : HardwareAuthToken) (t : Handler)
    (vs : List Handler) : Prop where
  cleared : ∀ u ∈ servedBy t vs, Clears u.outs → Verified hat u.outs
  tracker : ∀ u ∈ servedBy t vs,
    u.post.mEngine.mLockoutTracker ≠ u.pre.mEngine.mLockoutTracker → Verified hat u.outs
  rejected : (∀ u ∈ servedBy t vs, ¬ Verified hat u.outs) → ∃ u ∈ servedBy t vs, Rejects s u

/-- What the step does that serves a `resetLockout`. -/
theorem popped_resetLockout {U : Util} {mem : Memory} {u : Handler} {s : SessionId}
    {hat : HardwareAuthToken}
    (hstep : (service U mem).step u.pre u.event = some (u.post, u.outs))
    (hpopped : popped u = some ⟨s, .resetLockout hat⟩) :
    (u.post.lockout, u.outs) = u.pre.lockout.resetLockoutImpl s hat := by
  obtain ⟨inp, w, he, -⟩ := popped_eq_some hstep hpopped
  rw [he] at hstep
  obtain ⟨t, r, hi, hrun⟩ := step_work.mp hstep
  have ht : t = ⟨s, .resetLockout hat⟩ := by
    unfold popped at hpopped
    rw [he, hi] at hpopped
    exact Option.some.inj hpopped
  obtain ⟨hpost, houts⟩ := Prod.mk.inj hrun
  rw [hpost, houts, ht]
  rfl

/-- A token without a mac is rejected. -/
theorem resetLockoutImpl_rejected {s : SessionId} {hat : HardwareAuthToken}
    {l : LockoutControl} (h : hat.mac = []) :
    l.resetLockoutImpl s hat = (l, [.callback s (.onError Error.UNABLE_TO_PROCESS 0)]) := by
  unfold LockoutControl.resetLockoutImpl
  rw [if_pos h]

/-- Every other token clears the lockout. -/
theorem resetLockoutImpl_accepted {s : SessionId} {hat : HardwareAuthToken}
    {l : LockoutControl} (h : hat.mac ≠ []) :
    l.resetLockoutImpl s hat = ({ l with
      mLockoutTracker := l.mLockoutTracker.reset false
      isLockoutTimerAborted := l.isLockoutTimerStarted || l.isLockoutTimerAborted },
      [.callback s .onLockoutCleared]) := by
  unfold LockoutControl.resetLockoutImpl
  rw [if_neg h, LockoutControl.acceptReset_eq]

/-- The engine never has a token verified. -/
theorem not_verified {s : SessionId} {hat : HardwareAuthToken} {l : LockoutControl} :
    ¬ Verified hat (l.resetLockoutImpl s hat).2 := by
  rintro ⟨dev, stack, h⟩
  exact resetLockoutImpl_no_device h

/-- A step that serves a `resetLockout` rejects a token without a mac, and clears the
    lockout on any other. -/
theorem rejects_iff {s : SessionId} {hat : HardwareAuthToken} {u : Handler}
    (h : (u.post.lockout, u.outs) = u.pre.lockout.resetLockoutImpl s hat) :
    (hat.mac = [] → Rejects s u ∧ ¬ Clears u.outs) ∧ (hat.mac ≠ [] → Clears u.outs) := by
  constructor
  · intro hm
    rw [resetLockoutImpl_rejected hm] at h
    obtain ⟨hpost, houts⟩ := Prod.mk.inj h
    refine ⟨⟨?_, congrArg LockoutControl.mLockoutTracker hpost,
      congrArg LockoutControl.isLockoutTimerStarted hpost,
      congrArg LockoutControl.isLockoutTimerAborted hpost⟩, ?_⟩
    · rw [houts]
      simp [Output.isError]
    · rintro ⟨o, ho, hc⟩
      rw [houts, List.mem_singleton] at ho
      rw [ho] at hc
      cases hc
  · intro hm
    rw [resetLockoutImpl_accepted hm] at h
    rw [(Prod.mk.inj h).2]
    exact ⟨_, List.mem_singleton.mpr rfl, rfl⟩

/-- **Which tokens are treated as they should be.** In every run that ends with an empty
    queue, a `resetLockout` clears the lockout on a verified token only, and is rejected
    with one error and no change on every other token, exactly when the token has no mac
    and the queue had room for the request. -/
theorem cleared_on_verified_iff {U : Util} {mem : Memory} {w₀ w : Fingerprint}
    {us vs : List Handler} {t : Handler} {s : SessionId} {hat : HardwareAuthToken}
    (hrun : (service U mem).Run w₀ (us ++ t :: vs) w)
    (hreq : t.event = .request s (.resetLockout hat)) (hidle : w.mWorker.items = []) :
    ClearsOnVerified s hat t vs ↔ hat.mac = [] ∧ t.pre.HasRoom := by
  obtain ⟨-, hstep, hrest⟩ := hrun.at_step
  have hadded : scheduled t = t.pre.added s (.resetLockout hat) := by
    unfold scheduled
    rw [hreq]
  by_cases hroom : t.pre.HasRoom
  · have htask : scheduled t = some ⟨s, .resetLockout hat⟩ := by
      rw [hadded, added_of_room hroom]
      rfl
    obtain ⟨u, hu, hpopped, hmem⟩ := turn_of_scheduled hstep hrest hidle htask
    have hby : servedBy t vs = some u := by
      unfold servedBy
      rw [htask]
      exact hu
    have hserved := popped_resetLockout (hrest.step_of_mem hmem) hpopped
    obtain ⟨hreject, hclear⟩ := rejects_iff hserved
    have hnot : ¬ Verified hat u.outs := by
      rw [(Prod.mk.inj hserved).2]
      exact not_verified
    constructor
    · intro h
      refine ⟨?_, hroom⟩
      by_cases hm : hat.mac = []
      · exact hm
      · exact absurd (h.cleared u hby (hclear hm)) hnot
    · rintro ⟨hm, -⟩
      obtain ⟨hrejects, hnoclear⟩ := hreject hm
      refine ⟨fun u' hu' hc => ?_, fun u' hu' hne => ?_, fun _ => ⟨u, hby, hrejects⟩⟩
      · obtain rfl : u' = u := Option.some.inj (hu'.symm.trans hby)
        exact absurd hc hnoclear
      · obtain rfl : u' = u := Option.some.inj (hu'.symm.trans hby)
        exact absurd hrejects.tracker hne
  · -- nobody hears of a request that was refused
    have hnone : servedBy t vs = none := by
      unfold servedBy
      rw [hadded, added_of_full hroom]
      rfl
    refine iff_of_false (fun h => ?_) fun h => hroom h.2
    obtain ⟨u, hu, -⟩ := h.rejected fun u hu => by
      rw [hnone] at hu
      cases hu
    rw [hnone] at hu
    cases hu

/-- A client asks for a `resetLockout` with the mac `mac`, in a permanent lockout. -/
def resetAfterTwenty (mac : List Byte) : Handler :=
  let w := (service .millis .zeroed).final .ready twentyFailures
  let e := Event.request 0 (.resetLockout ⟨0, 0, 0, 0, 0, mac⟩)
  ⟨w, e, (service .millis .zeroed).final w [e], []⟩

theorem cleared_on_verified_no_mac :
    ClearsOnVerified 0 ⟨0, 0, 0, 0, 0, []⟩ (resetAfterTwenty [])
      ((service .millis .zeroed).steps (resetAfterTwenty []).post [workAt 2]) :=
  (@cleared_on_verified_iff .millis .zeroed .ready _
    ((service .millis .zeroed).steps .ready twentyFailures) _ (resetAfterTwenty []) 0
    ⟨0, 0, 0, 0, 0, []⟩
    ((Machine.run_steps (by decide +kernel)).append
      (Machine.Run.cons (by decide +kernel) (Machine.run_steps (by decide +kernel))))
    rfl (by decide +kernel)).mpr ⟨rfl, by decide +kernel⟩

/-- A token with a mac of one byte, which nobody has verified, clears a permanent
    lockout. -/
theorem unverified_token_clears :
    let M := service .millis .zeroed
    let t := resetAfterTwenty [1]
    let vs := M.steps t.post [workAt 2]
    let w := M.final t.post [workAt 2]
    M.Run .ready (M.steps .ready twentyFailures ++ t :: vs) w ∧ w.mWorker.items = [] ∧
      t.pre.mEngine.mLockoutTracker.mCurrentMode = .kPermanent ∧
      w.mEngine.mLockoutTracker.mCurrentMode = .kNone ∧
      ¬ ClearsOnVerified 0 ⟨0, 0, 0, 0, 0, [1]⟩ t vs := by
  intro M t vs w
  refine ⟨(Machine.run_steps (by decide +kernel)).append
      (Machine.Run.cons (by decide +kernel) (Machine.run_steps (by decide +kernel))),
    by decide +kernel, by decide +kernel, by decide +kernel, fun h => ?_⟩
  have hby : (servedBy t vs).map (·.outs) = some [.callback 0 .onLockoutCleared] := by
    decide +kernel
  obtain ⟨u, hu, houts⟩ := Option.map_eq_some_iff.mp hby
  obtain ⟨dev, stack, hv⟩ := h.cleared u hu (by rw [houts]; decide)
  rw [houts] at hv
  simp at hv

end FingerprintHal
