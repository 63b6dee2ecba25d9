/-
  What a removal reports.

  `Session::notify` hands on every message of a removal as an `onEnrollmentsRemoved` of its
  own, where for an enumeration it collects what has come until the last message. To the
  framework this callback is the end of the operation. So a removal is reported once, at
  its end and as a whole, exactly when it is the removal of one template
  (`removal_reported_iff`).
-/
import FingerprintHal.Lib.Chunks
import FingerprintHal.Lib.History
import FingerprintHal.Session.Callbacks

namespace FingerprintHal

open Lib

/-- The template a message reports as removed, and how many are still to be removed. -/
def Event.removal : Event → Option (BitVec 32 × Nat)
  | .message (.FINGERPRINT_TEMPLATE_REMOVED fid remaining_templates) _ =>
      some (fid, remaining_templates.toNat)
  | _ => none

/-- What the device has reported of removals. -/
def removals (us : List Handler) : List (BitVec 32 × Nat) :=
  us.filterMap fun t => t.event.removal

/-- The templates a callback reports as removed. -/
def Output.removed (s : SessionId) : Output → Option (List (BitVec 32))
  | .callback cb (.onEnrollmentsRemoved ids) => if cb = s then some ids else none
  | _ => none

/-- Among the steps `ts` the session is told once of a removal, of all of `fids` in their
    order, and with the last message. -/
structure ReportsOnce (s : SessionId) (fids : List (BitVec 32)) (ts : List Handler) :
    Prop where
  once : (trace ts).filterMap (Output.removed s) = [fids]
  atEnd : ∀ t ∈ ts, ∀ ids, Output.callback s (.onEnrollmentsRemoved ids) ∈ t.outs →
    ∃ fid, t.event.removal = some (fid, 0)

/-! ## One step -/

/-- Only a message of a removal is handed on as one. -/
theorem handedOn_removed {msg : Msg} {enrollments ids : List (BitVec 32)}
    (h : msg.handedOn enrollments = some (.onEnrollmentsRemoved ids)) :
    ∃ fid remaining, msg = .FINGERPRINT_TEMPLATE_REMOVED fid remaining ∧ ids = [fid] := by
  cases msg with
  | FINGERPRINT_TEMPLATE_REMOVED fid remaining =>
      cases h
      exact ⟨fid, remaining, rfl, rfl⟩
  | FINGERPRINT_AUTHENTICATED fid hat =>
      simp only [Msg.handedOn] at h
      split at h <;> cases h
  | _ => simp [Msg.handedOn] at h

section Step

variable {U : Util} {mem : Memory} {w w' : Fingerprint} {e : Event} {o : List Output}
  {s : SessionId}

/-- A session is told of a removal by a message of it. -/
theorem removed_of_callback (hstep : (service U mem).step w e = some (w', o))
    {ids : List (BitVec 32)} (h : Output.callback s (.onEnrollmentsRemoved ids) ∈ o) :
    ∃ fid remaining, e.removal = some (fid, remaining) ∧ ids = [fid] := by
  rcases step_callback hstep h with ⟨_, _, _, _, _, hc⟩ | ⟨msg, clk, he, hs, hc | hc⟩ |
    ⟨_, _, _, _, _, _, _, hc⟩ | ⟨-, hc⟩
  · exact hc.elim
  · obtain ⟨fid, remaining, rfl, rfl⟩ := handedOn_removed hc
    exact ⟨fid, remaining.toNat, by rw [he]; rfl, rfl⟩
  · exact hc.elim
  · cases hc
  · cases hc

/-- The output a list is read from. -/
theorem removed_eq_some {out : Output} {ids : List (BitVec 32)}
    (h : out.removed s = some ids) : out = .callback s (.onEnrollmentsRemoved ids) := by
  unfold Output.removed at h
  split at h
  · next cb ids' =>
      split at h
      · next hs =>
          cases h
          rw [hs]
      · cases h
  · cases h

/-- Every message of a removal is reported at once, by itself. -/
theorem step_removed (hstep : (service U mem).step w e = some (w', o))
    (hopen : e.removal.isSome → w.openSession = some s) :
    o.filterMap (Output.removed s) = e.removal.toList.map fun r => [r.1] := by
  cases hr : e.removal with
  | none =>
      show o.filterMap (Output.removed s) = []
      rw [List.filterMap_eq_nil_iff]
      intro out hout
      cases hid : out.removed s with
      | none => rfl
      | some ids =>
          rw [removed_eq_some hid] at hout
          obtain ⟨fid, remaining, he, -⟩ := removed_of_callback hstep hout
          rw [hr] at he
          cases he
  | some r =>
      have hs := hopen (by rw [hr]; rfl)
      unfold Event.removal at hr
      split at hr
      · next fid remaining clk =>
          cases hr
          rw [(message_given hstep hs).2]
          show [Output.callback s (.onEnrollmentsRemoved [fid])].filterMap
            (Output.removed s) = [[fid]]
          simp [Output.removed]
      · cases hr

end Step

/-! ## A removal -/

/-- Over a run, one report for each message. -/
theorem removed_run {U : Util} {mem : Memory} {w₀ w : Fingerprint} {ts : List Handler}
    {s : SessionId} (hrun : (service U mem).Run w₀ ts w)
    (hopen : ∀ t ∈ ts, t.event.removal.isSome → t.pre.openSession = some s) :
    (trace ts).filterMap (Output.removed s) = (removals ts).map fun r => [r.1] := by
  induction hrun with
  | nil => rfl
  | @snoc ts w e w' o _ hstep ih =>
      have hlast := hopen ⟨w, e, w', o⟩ (List.mem_append_right _ (List.mem_singleton.mpr rfl))
      have hbefore := ih fun t ht => hopen t (List.mem_append_left _ ht)
      unfold removals
      rw [filterMap_snoc, List.map_append, trace_append, List.filterMap_append, hbefore,
        trace_cons, trace_nil, List.append_nil, step_removed hstep hlast]
      rfl

/-- **Which removals are reported as they should be.** From any state: the device reports
    the removal of `fids` with messages that count down to 0, among any other steps, and
    the session `s` is open whenever one comes. Then the session is told of it once, at the
    end and as a whole, exactly when `fids` is one template. -/
theorem removal_reported_iff {U : Util} {mem : Memory} {w₀ w : Fingerprint}
    {ts : List Handler} {s : SessionId} {fids : List (BitVec 32)}
    (hrun : (service U mem).Run w₀ ts w)
    (hopen : ∀ t ∈ ts, t.event.removal.isSome → t.pre.openSession = some s)
    (hfids : removals ts = fids.zip (Chunk.countdown fids.length 0)) :
    ReportsOnce s fids ts ↔ fids.length = 1 := by
  have hlen : (Chunk.countdown fids.length 0).length = fids.length := by
    simp [Chunk.countdown]
  have hreports : (trace ts).filterMap (Output.removed s) = fids.map fun fid => [fid] := by
    have hfst : (removals ts).map Prod.fst = fids := by
      rw [hfids]
      exact List.map_fst_zip (Nat.le_of_eq hlen.symm)
    rw [removed_run hrun hopen]
    conv_rhs => rw [← hfst]
    rw [List.map_map]
    rfl
  constructor
  · intro h
    have honce := congrArg List.length (hreports.symm.trans h.once)
    simpa using honce
  · intro h
    obtain ⟨fid, rfl⟩ := List.length_eq_one_iff.mp h
    refine ⟨hreports, fun t ht ids hc => ?_⟩
    obtain ⟨fid', remaining, he, -⟩ := removed_of_callback (hrun.step_of_mem ht) hc
    have hmem : (fid', remaining) ∈ removals ts := List.mem_filterMap.mpr ⟨t, ht, he⟩
    rw [hfids] at hmem
    obtain ⟨rfl, rfl⟩ := Prod.mk.inj (List.mem_singleton.mp hmem)
    exact ⟨fid', he⟩

/-- A client asks for the removal of `fids`, and the device removes them. -/
def removing (fids : List (BitVec 32)) : List Event :=
  [.createSession 0 10 0, .request 0 (.removeEnrollments fids), workAt 1] ++
    (fids.zip (Chunk.countdown fids.length 0)).map fun r =>
      .message (.FINGERPRINT_TEMPLATE_REMOVED r.1 (BitVec.ofNat 32 r.2)) (.still 2)

theorem removal_reported_one :
    ReportsOnce 0 [7] ((service .millis .zeroed).steps .ready (removing [7])) :=
  (removal_reported_iff (Machine.run_steps (by decide +kernel)) (by decide +kernel)
    (by decide +kernel)).mpr rfl

/-- The removal of two templates is reported twice, the first time before its end. -/
theorem removal_reported_twice :
    let M := service .millis .zeroed
    let ts := M.steps .ready (removing [7, 8])
    M.Run .ready ts (M.final .ready (removing [7, 8])) ∧
      (∀ t ∈ ts, t.event.removal.isSome → t.pre.openSession = some 0) ∧
      removals ts = [(7, 1), (8, 0)] ∧
      (trace ts).filterMap (Output.removed 0) = [[7], [8]] ∧
      ¬ ReportsOnce 0 [7, 8] ts := by
  have hout : (trace ((service .millis .zeroed).steps .ready (removing [7, 8]))).filterMap
      (Output.removed 0) = [[7], [8]] := by decide +kernel
  refine ⟨Machine.run_steps (by decide +kernel), by decide +kernel, by decide +kernel, hout,
    fun h => ?_⟩
  have honce := h.once
  rw [hout] at honce
  cases honce

end FingerprintHal
