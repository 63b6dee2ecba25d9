/-
  What an enumeration reports.

  `Session::notify` collects the fingerprints of an enumeration in a static vector that
  all sessions share and that is cleared with the last message only. A message that comes
  while no session is open does not get there. So the vector is the receiver of
  Lib/Chunks.lean (`enrollments_eq`), with the enumerations as its series, and what a
  session is told is exactly the enumeration that is complete when every enumeration
  reaches the service as a whole or not at all (`enumerations_exact`).
-/
import FingerprintHal.Lib.Chunks
import FingerprintHal.Session.Callbacks

namespace FingerprintHal

open Lib

/-- The piece of an enumeration that a step brings; it is given to the service when a
    session is open. -/
def report (t : Handler) : Option (Chunk (BitVec 32)) :=
  match t.event with
  | .message (.FINGERPRINT_TEMPLATE_ENUMERATING fid remaining_templates) _ =>
      some ⟨fid, remaining_templates.toNat, t.pre.openSession.isSome⟩
  | _ => none

/-- What the device has reported of enumerations. -/
def reports (us : List Handler) : List (Chunk (BitVec 32)) := us.filterMap report

/-- The fingerprints a callback enumerates. -/
def Output.enumerated : Output → Option (List (BitVec 32))
  | .callback _ (.onEnrollmentsEnumerated ids) => some ids
  | _ => none

/-- A session is told of exactly the fingerprints of the enumeration that is complete. -/
def EnumeratesExactly (us : List Handler) (t : Handler) : Prop :=
  ∀ o ∈ t.outs, ∀ ids ∈ o.enumerated, Chunk.Completes (reports (us ++ [t])) ids

instance (us : List Handler) : DecidablePred (EnumeratesExactly us) :=
  fun t => inferInstanceAs (Decidable
    (∀ o ∈ t.outs, ∀ ids ∈ o.enumerated, Chunk.Completes (reports (us ++ [t])) ids))

/-! ## One message -/

/-- Only a message of an enumeration touches the static vector. -/
theorem notify_enrollments {U : Util} {s : SessionId} {msg : Msg} {clk : Readings}
    {w : Fingerprint} :
    (Session.notify U s msg clk w).1.enrollments =
      match msg with
      | .FINGERPRINT_TEMPLATE_ENUMERATING fid remaining_templates =>
          Chunk.push w.enrollments ⟨fid, remaining_templates.toNat, true⟩
      | _ => w.enrollments := by
  cases msg with
  | FINGERPRINT_TEMPLATE_ENUMERATING fid remaining =>
      simp only [Session.notify, Chunk.push, if_true]
      by_cases hr : remaining = 0
      · rw [if_pos hr, if_pos (by rw [hr]; rfl)]
      · have hr' : remaining.toNat ≠ 0 := fun h => hr (BitVec.eq_of_toNat_eq h)
        rw [if_neg hr, if_neg hr']
  | FINGERPRINT_AUTHENTICATED fid hat =>
      simp only [Session.notify]
      split <;> rfl
  | _ => rfl

/-- Only the last message of an enumeration is handed on as fingerprints. -/
theorem handedOn_enumerated {msg : Msg} {enrollments ids : List (BitVec 32)}
    (h : msg.handedOn enrollments = some (.onEnrollmentsEnumerated ids)) :
    ∃ fid, msg = .FINGERPRINT_TEMPLATE_ENUMERATING fid 0 ∧ ids = enrollments ++ [fid] := by
  cases msg with
  | FINGERPRINT_TEMPLATE_ENUMERATING fid remaining =>
      simp only [Msg.handedOn] at h
      split at h
      · next hr =>
          cases h
          exact ⟨fid, by rw [hr], rfl⟩
      · cases h
  | FINGERPRINT_AUTHENTICATED fid hat =>
      simp only [Msg.handedOn] at h
      split at h <;> cases h
  | _ => simp [Msg.handedOn] at h

/-! ## Runs -/

section Step

variable {U : Util} {mem : Memory} {t : Handler}

/-- The static vector takes what it is given, in every step. -/
theorem step_enrollments
    (hstep : (service U mem).step t.pre t.event = some (t.post, t.outs)) :
    t.post.enrollments = (report t).elim t.pre.enrollments (Chunk.push t.pre.enrollments) := by
  obtain ⟨pre, event, post, outs⟩ := t
  replace hstep : (service U mem).step pre event = some (post, outs) := hstep
  cases event with
  | message msg clk =>
      cases hs : pre.openSession with
      | none =>
          rw [(message_dropped hstep hs).1]
          cases msg with
          | FINGERPRINT_TEMPLATE_ENUMERATING fid remaining =>
              simp [report, hs, Chunk.push]
          | _ => rfl
      | some s =>
          rw [(message_given hstep hs).1, notify_enrollments]
          cases msg with
          | FINGERPRINT_TEMPLATE_ENUMERATING fid remaining => simp [report, hs]
          | _ => rfl
  | work inp =>
      obtain ⟨_, _, _, _, rfl⟩ := work_frame hstep
      rfl
  | timer i now =>
      obtain ⟨_, rfl⟩ := timer_frame hstep
      rfl
  | _ => exact (client_frame hstep rfl).2.1

/-- A session is told of fingerprints by the last message of an enumeration, of what the
    vector holds and the one of this message. -/
theorem step_enumerated
    (hstep : (service U mem).step t.pre t.event = some (t.post, t.outs)) {o : Output}
    (ho : o ∈ t.outs) {ids : List (BitVec 32)} (hids : ids ∈ o.enumerated) :
    ∃ c, report t = some c ∧ c.given = true ∧ c.remaining = 0 ∧
      ids = t.pre.enrollments ++ [c.item] := by
  obtain ⟨cb, rfl⟩ : ∃ cb, o = .callback cb (.onEnrollmentsEnumerated ids) := by
    unfold Output.enumerated at hids
    split at hids
    · next cb ids' =>
        cases hids
        exact ⟨cb, rfl⟩
    · cases hids
  rcases step_callback hstep ho with ⟨_, _, _, _, _, hc⟩ | ⟨msg, clk, he, hs, hc | hc⟩ |
    ⟨_, _, _, _, _, _, _, hc⟩ | ⟨-, hc⟩
  · exact hc.elim
  · obtain ⟨fid, rfl, rfl⟩ := handedOn_enumerated hc
    exact ⟨⟨fid, 0, true⟩, by simp [report, he, hs], rfl, rfl, rfl⟩
  · exact hc.elim
  · cases hc
  · cases hc

end Step

theorem reports_snoc (us : List Handler) (t : Handler) :
    reports (us ++ [t]) = reports us ++ (report t).toList := by
  unfold reports
  rw [List.filterMap_append]
  cases h : report t with
  | none => simp [h]
  | some c => simp [h]

/-- The static vector holds what a receiver of the reports has collected. -/
theorem enrollments_eq {U : Util} {mem : Memory} {hw : HwModule} {now : Int}
    {us : List Handler} {w : Fingerprint}
    (hrun : (service U mem).Run (Fingerprint.boot mem hw now).1 us w) :
    w.enrollments = Chunk.collected (reports us) := by
  refine hrun.invariant (C := fun _ _ => True)
    (I := fun us w => w.enrollments = Chunk.collected (reports us))
    (fun _ _ _ _ => trivial) rfl ?_
  intro us t hI _ hstep
  rw [step_enrollments hstep, reports_snoc, hI]
  cases report t with
  | none => simp
  | some c => exact (Chunk.collected_snoc _ _).symm

/-- **When enumerations are exact.** In every run of a service from its start, with a
    device whose enumerations count down to 0: if no enumeration reaches the service in
    part only, every session that is told of enrollments is told of exactly those of the
    enumeration that is complete, in the order reported. -/
theorem enumerations_exact {U : Util} {mem : Memory} {hw : HwModule} {now : Int}
    {ts : List Handler} {w : Fingerprint}
    (hrun : (service U mem).Run (Fingerprint.boot mem hw now).1 ts w)
    (hcount : (reports ts).IsChain Chunk.Follows)
    (hwhole : (reports ts).IsChain Chunk.SameFate) : Along EnumeratesExactly ts := by
  rintro us t vs rfl o ho ids hids
  obtain ⟨h1, hstep, -⟩ := hrun.at_step
  obtain ⟨c, hc, hg, hr, rfl⟩ := step_enumerated hstep ho hids
  have hsplit : reports (us ++ t :: vs) = (reports us ++ [c]) ++ reports vs := by
    unfold reports
    rw [List.filterMap_append, List.filterMap_cons_some hc, List.append_assoc]
    rfl
  rw [hsplit] at hcount hwhole
  have hus : reports (us ++ [t]) = reports us ++ [c] := by rw [reports_snoc, hc]; rfl
  rw [enrollments_eq h1, hus]
  exact Chunk.completes_of_given hcount.left_of_append hwhole.left_of_append hg hr

/-- A message of an enumeration. -/
def enumerating (fid remaining : BitVec 32) : Event :=
  .message (.FINGERPRINT_TEMPLATE_ENUMERATING fid remaining) (.still 1)

/-- An enumeration that is dropped as a whole, and one that reaches the second session. -/
def wholeEnumerations : List Event :=
  [.createSession 0 10 0, .close 0, enumerating 1 1, enumerating 2 0,
    .createSession 0 11 0, enumerating 7 1, enumerating 8 0]

theorem enumerations_exact_whole :
    let ts := (service .millis .zeroed).steps .ready wholeEnumerations
    Output.callback 1 (.onEnrollmentsEnumerated [7, 8]) ∈ trace ts ∧
      Along EnumeratesExactly ts :=
  ⟨by decide +kernel,
    @enumerations_exact .millis .zeroed .working 0 _ _ (Machine.run_steps (by decide +kernel))
      (by decide +kernel) (by decide +kernel)⟩

/-- The first session is closed within its enumeration; the second one is told of the
    fingerprint that is left over. -/
def interruptedEnumeration : List Event :=
  [.createSession 0 10 0, enumerating 1 1, .close 0, enumerating 2 0,
    .createSession 0 11 0, enumerating 7 0]

theorem left_over_enumerated :
    let M := service .millis .zeroed
    let ts := M.steps .ready interruptedEnumeration
    M.Run .ready ts (M.final .ready interruptedEnumeration) ∧
      (reports ts).IsChain Chunk.Follows ∧
      Output.callback 1 (.onEnrollmentsEnumerated [1, 7]) ∈ trace ts ∧
      ¬ Along EnumeratesExactly ts :=
  ⟨Machine.run_steps (by decide +kernel), by decide +kernel, by decide +kernel,
    by decide +kernel⟩

end FingerprintHal
