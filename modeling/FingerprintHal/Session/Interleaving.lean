/-
  Requests in between.

  A request and a cancellation are only noted: the first in the queue, the other with its
  signal. Nothing of that is looked at by the handlers of messages and timers, and they
  change nothing that is looked at there. So the calls of the clients may come in between
  the messages of the vendor module and the timers in any way: the service ends up in the
  same state, and has put out the same (`calls_interleave`).
-/
import FingerprintHal.Lib.Commute
import FingerprintHal.Model.Service

namespace FingerprintHal

open Lib

/-! ## Two parts of the service -/

/-- What requests and cancellations write. -/
structure Inbox where
  mWorker : BoundedQueue Task MAX_WORKER_QUEUE_SIZE
  signals : Nat
  cancelled : List Nat

/-- What messages and timers write. -/
structure Sensing where
  mEngine : FingerprintEngine
  enrollments : List (BitVec 32)
  clock : Int

namespace Fingerprint

def putInbox (x : Inbox) (w : Fingerprint) : Fingerprint :=
  { w with mWorker := x.mWorker, signals := x.signals, cancelled := x.cancelled }

def putSensing (y : Sensing) (w : Fingerprint) : Fingerprint :=
  { w with mEngine := y.mEngine, enrollments := y.enrollments, clock := y.clock }

end Fingerprint

/-- A request, or a cancellation. -/
def Event.isCall : Event → Bool
  | .request _ _ => true
  | .cancel _ => true
  | _ => false

/-- A message of the vendor module, or a timer. -/
def Event.isReport : Event → Bool
  | .message _ _ => true
  | .timer _ _ => true
  | _ => false

section Parts

variable {U : Util} {mem : Memory} {w w' : Fingerprint} {e : Event} {o : List Output}

/-- A call writes the inbox, and puts out nothing. -/
theorem call_writes (he : e.isCall = true) (h : (service U mem).step w e = some (w', o)) :
    o = [] ∧ ∃ x, w' = w.putInbox x := by
  cases e with
  | request s r =>
      obtain ⟨q, n, rfl, rfl⟩ := request_frame h
      exact ⟨rfl, ⟨q, n, w.cancelled⟩, rfl⟩
  | cancel signal =>
      obtain ⟨rfl, rfl⟩ := cancel_frame h
      exact ⟨rfl, ⟨w.mWorker, w.signals, signal :: w.cancelled⟩, rfl⟩
  | _ => cases he

/-- And does not look at what messages and timers write. -/
theorem call_reads (he : e.isCall = true) (y : Sensing) :
    (service U mem).step (w.putSensing y) e =
      ((service U mem).step w e).map fun r => (r.1.putSensing y, r.2) := by
  cases e with
  | request s r =>
      have hc : Session.call s (w.putSensing y) r = (Session.call s w r).putSensing y := by
        cases r <;> rfl
      have hl : (w.putSensing y).sessions.length = w.sessions.length := rfl
      simp only [service, Fingerprint.step, hc, hl]
      split <;> rfl
  | cancel signal =>
      have hl : (w.putSensing y).signals = w.signals := rfl
      simp only [service, Fingerprint.step, hl]
      split <;> rfl
  | _ => cases he

/-- Messages and timers leave the inbox alone. -/
theorem report_writes (he : e.isReport = true)
    (h : (service U mem).step w e = some (w', o)) : ∃ y, w' = w.putSensing y := by
  cases e with
  | message msg clk =>
      obtain ⟨engine, fids, rfl⟩ := message_frame h
      exact ⟨⟨engine, fids, clk.atTimeLeft⟩, rfl⟩
  | timer i now =>
      obtain ⟨engine, rfl⟩ := timer_frame h
      exact ⟨⟨engine, w.enrollments, now⟩, rfl⟩
  | _ => cases he

theorem notify_reads (U : Util) (s : SessionId) (msg : Msg) (clk : Readings)
    (w : Fingerprint) (x : Inbox) :
    Session.notify U s msg clk (w.putInbox x) =
      ((Session.notify U s msg clk w).1.putInbox x, (Session.notify U s msg clk w).2) := by
  cases msg with
  | FINGERPRINT_AUTHENTICATED fid hat =>
      simp only [Session.notify]
      split <;> rfl
  | FINGERPRINT_TEMPLATE_ENUMERATING fid remaining =>
      simp only [Session.notify]
      split <;> rfl
  | _ => rfl

/-- And do not look at it. -/
theorem report_reads (he : e.isReport = true) (x : Inbox) :
    (service U mem).step (w.putInbox x) e =
      ((service U mem).step w e).map fun r => (r.1.putInbox x, r.2) := by
  cases e with
  | message msg clk =>
      have ho : { w.putInbox x with clock := clk.atTimeLeft }.openSession =
          { w with clock := clk.atTimeLeft }.openSession := rfl
      simp only [service, Fingerprint.step, Fingerprint.notify, ho, Option.map_some]
      cases { w with clock := clk.atTimeLeft }.openSession with
      | none => rfl
      | some s =>
          exact congrArg some (notify_reads U s msg clk { w with clock := clk.atTimeLeft } x)
  | timer i now =>
      have ht : (w.putInbox x).mEngine.timers = w.mEngine.timers := rfl
      simp only [service, Fingerprint.step, Fingerprint.timerExpired, ht]
      cases w.mEngine.timers[i]? with
      | none => rfl
      | some t => rfl
  | _ => cases he

/-- Calls commute with messages and timers. -/
theorem call_commutes {e' : Event} (he : e.isCall = true) (he' : e'.isReport = true) :
    (service U mem).Commutes e e' := by
  have hput : ∀ (x : Inbox) (y : Sensing) (w : Fingerprint),
      (w.putSensing y).putInbox x = (w.putInbox x).putSensing y := fun _ _ _ => rfl
  exact Machine.commutes_of_parts hput (fun _ _ _ => call_writes he)
    (fun y _ => call_reads he y) (fun _ _ _ => report_writes he') fun x _ => report_reads he' x

end Parts

/-- **Requests in between.** Take a run, and any list of events that agrees with it in all
    but the requests and cancellations, and in all but the messages and timers. Then these
    events are a run as well, to the same state and with the same outputs. -/
theorem calls_interleave {U : Util} {mem : Memory} {w₀ w : Fingerprint} {ts : List Handler}
    (hrun : (service U mem).Run w₀ ts w) {es : List Event}
    (hcalls : (ts.map (·.event)).filter (fun e => !e.isCall) = es.filter fun e => !e.isCall)
    (hreports :
      (ts.map (·.event)).filter (fun e => !e.isReport) = es.filter fun e => !e.isReport) :
    ∃ us, (service U mem).Run w₀ us w ∧ us.map (·.event) = es ∧ trace us = trace ts := by
  have hone : ∀ e : Event, e.isCall = true → e.isReport = false := by
    intro e he
    cases e <;> first | rfl | cases he
  have heq := Machine.result_interleave (M := service U mem) (s := w₀)
    (fun _ _ ha hb => call_commutes ha hb) hone hcalls hreports
  rw [Machine.result_eq_some_iff.mpr ⟨ts, hrun, rfl, rfl⟩] at heq
  exact Machine.result_eq_some_iff.mp heq.symm

/-- A request and its cancellation, between two failed matches or after them. -/
theorem calls_interleave_failures :
    let M := service .millis .zeroed
    let es := [.createSession 0 10 0, .request 0 (.authenticate 7), failureAt 1, .cancel 0,
      failureAt 2]
    ∃ us, M.Run .ready us (M.final .ready es) ∧
      us.map (·.event) = [.createSession 0 10 0, failureAt 1, failureAt 2,
        .request 0 (.authenticate 7), .cancel 0] ∧
      trace us = trace (M.steps .ready es) :=
  calls_interleave (Machine.run_steps (by decide +kernel)) (by decide +kernel)
    (by decide +kernel)

end FingerprintHal
