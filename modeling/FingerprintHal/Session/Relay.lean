/-
  What clients hear of the vendor module.

  Errors, lockouts and the closing of a session apart, a client hears of nothing but the
  messages that come while its session is open, each as one callback, and of an enumeration
  as one for all of it. `relay` is the function from these messages to these callbacks, and
  the service computes it (`service_relays`): requests, tasks, cancellations and timers have
  no part in it.
-/
import FingerprintHal.Session.Payload

namespace FingerprintHal

open Lib

/-! ## The relay -/

/-- What only messages are handed on as: tasks report errors too, and tasks and timers
    lockouts. -/
def Callback.isRelayed : Callback → Bool
  | .onError _ _ => false
  | .onLockoutTimed _ => false
  | .onLockoutPermanent => false
  | .onLockoutCleared => false
  | .onSessionClosed => false
  | _ => true

def Output.relayed (o : Output) : Option (SessionId × Callback) :=
  o.spoken.filter fun p => p.2.isRelayed

/-- What is kept of an enumeration after a message. -/
def Msg.keeps (kept : List (BitVec 32)) : Msg → List (BitVec 32)
  | .FINGERPRINT_TEMPLATE_ENUMERATING fid remaining_templates =>
      if remaining_templates = 0 then [] else kept ++ [fid]
  | _ => kept

/-- The callback for one message, with what is kept before it. -/
def Msg.relayed (kept : List (BitVec 32)) (s : SessionId) (msg : Msg) :
    List (SessionId × Callback) :=
  (((msg.handedOn kept).filter Callback.isRelayed).map fun c => (s, c)).toList

/-- The callbacks for a list of messages, each with the session that was open. -/
def relay (kept : List (BitVec 32)) : List (SessionId × Msg) → List (SessionId × Callback)
  | [] => []
  | (s, msg) :: rs => msg.relayed kept s ++ relay (msg.keeps kept) rs

/-- What is kept after a list of messages. -/
def keptAfter (kept : List (BitVec 32)) (rs : List (SessionId × Msg)) : List (BitVec 32) :=
  rs.foldl (fun kept r => r.2.keeps kept) kept

theorem relay_append (rs rs' : List (SessionId × Msg)) (kept : List (BitVec 32)) :
    relay kept (rs ++ rs') = relay kept rs ++ relay (keptAfter kept rs) rs' := by
  induction rs generalizing kept with
  | nil => rfl
  | cons r rs ih =>
      rw [List.cons_append, relay, relay, ih, List.append_assoc]
      rfl

/-! ## One step -/

section Step

variable {U : Util} {mem : Memory} {w w' : Fingerprint} {outs : List Output}

theorem relayed_eq_nil
    (h : ∀ cb c, Output.callback cb c ∈ outs → c.isRelayed = false) :
    outs.filterMap Output.relayed = [] := by
  rw [List.filterMap_eq_nil_iff]
  intro o ho
  cases o with
  | callback cb c => simp [Output.relayed, Output.spoken, h cb c ho]
  | device dev call => rfl
  | display fd value => rfl

theorem isRelayed_of_task {c : Callback} (h : c.FromTask) : c.isRelayed = false := by
  cases c <;> first | rfl | cases h

theorem relayed_check {s : SessionId} {clk : Readings} {l : LockoutControl} :
    (l.checkSensorLockout U s clk).2.2.filterMap Output.relayed = [] :=
  relayed_eq_nil fun _ _ h => isRelayed_of_task (mem_check h).2.1.fromTask

theorem relayed_onPointerUpImpl (e : FingerprintEngine) :
    e.onPointerUpImpl.2.filterMap Output.relayed = [] :=
  relayed_eq_nil fun _ _ h => absurd h (onPointerUpImpl_no_callback _ _ _)

theorem relayed_onAcquired (e : FingerprintEngine) (result vendorCode : BitVec 32) :
    (e.onAcquired result vendorCode).2.filterMap Output.relayed = [] :=
  relayed_eq_nil fun _ _ h => absurd h (onAcquired_no_callback _ _ _ _ _)

/-- A message that is given to a session. -/
theorem notify_relayed {s : SessionId} {msg : Msg} {clk : Readings} :
    (Session.notify U s msg clk w).2.filterMap Output.relayed = msg.relayed w.enrollments s ∧
      (Session.notify U s msg clk w).1.enrollments = msg.keeps w.enrollments := by
  cases msg with
  | FINGERPRINT_ACQUIRED acquired_info =>
      refine ⟨?_, rfl⟩
      simp only [Session.notify, Fingerprint.withEngine, List.filterMap_append,
        relayed_onAcquired, List.nil_append, Msg.relayed, Msg.handedOn]
      split <;> rfl
  | FINGERPRINT_AUTHENTICATED fid hat =>
      simp only [Session.notify, Fingerprint.withEngine, Msg.relayed, Msg.handedOn]
      split
      · refine ⟨?_, rfl⟩
        rw [List.filterMap_cons, relayed_onPointerUpImpl]
        rfl
      · refine ⟨?_, rfl⟩
        rw [List.filterMap_cons, List.filterMap_append, relayed_check, relayed_onPointerUpImpl]
        rfl
  | FINGERPRINT_TEMPLATE_ENUMERATING fid remaining =>
      simp only [Session.notify, Msg.relayed, Msg.handedOn, Msg.keeps]
      split
      · exact ⟨rfl, rfl⟩
      · exact ⟨rfl, rfl⟩
  | FINGERPRINT_AUTHENTICATOR_ID_RETRIEVED data =>
      refine ⟨?_, rfl⟩
      simp only [Session.notify, Fingerprint.withEngine, List.filterMap_append,
        relayed_onPointerUpImpl, List.nil_append]
      rfl
  | _ => exact ⟨rfl, rfl⟩

/-- A step relays the message it gives to the open session, and nothing else. -/
theorem step_relayed {t : Handler}
    (hstep : (service U mem).step t.pre t.event = some (t.post, t.outs)) :
    t.outs.filterMap Output.relayed = relay t.pre.enrollments (received t).toList ∧
      t.post.enrollments = keptAfter t.pre.enrollments (received t).toList := by
  cases hr : received t with
  | some r =>
      obtain ⟨clk, he, hs⟩ := received_eq_some hr
      rw [he] at hstep
      obtain ⟨hpost, houts⟩ := message_given hstep hs
      rw [hpost, houts, Option.toList_some, relay, relay, List.append_nil]
      exact notify_relayed
  | none =>
      obtain ⟨pre, e, post, outs⟩ := t
      dsimp only at hstep ⊢
      cases e with
      | message msg clk =>
          cases hs : pre.openSession with
          | none =>
              obtain ⟨rfl, rfl⟩ := message_dropped hstep hs
              exact ⟨rfl, rfl⟩
          | some s => simp [received, hs] at hr
      | _ =>
          refine ⟨relayed_eq_nil fun cb c hc => ?_,
            enrollments_of_ne_message hstep fun _ _ h => by cases h⟩
          rcases step_callback hstep hc with ⟨_, _, _, _, _, h⟩ | ⟨_, _, h, -⟩ |
            ⟨_, _, _, _, _, _, _, rfl⟩ | ⟨-, rfl⟩
          · exact isRelayed_of_task h
          · cases h
          · rfl
          · rfl

end Step

/-! ## A run -/

/-- **The service relays.** In every run, from any state, what clients hear of the vendor
    module is `relay` of the messages that were given to open sessions: a function of these
    messages alone, with what the accumulator held at the start. -/
theorem service_relays {U : Util} {mem : Memory} {w₀ w : Fingerprint} {ts : List Handler}
    (hrun : (service U mem).Run w₀ ts w) :
    (trace ts).filterMap Output.relayed = relay w₀.enrollments (ts.filterMap received) ∧
      w.enrollments = keptAfter w₀.enrollments (ts.filterMap received) := by
  induction hrun with
  | nil => exact ⟨rfl, rfl⟩
  | @snoc ts w e w' outs _ hstep ih =>
      obtain ⟨hheard, hkept⟩ := ih
      have hlast := @step_relayed U mem ⟨w, e, w', outs⟩ hstep
      dsimp only at hlast
      rw [trace_append, List.filterMap_append, filterMap_snoc, relay_append, hheard, ← hkept,
        ← hlast.1]
      refine ⟨by simp, ?_⟩
      rw [hlast.2, hkept]
      exact List.foldl_append.symm

/-- An enumeration that goes on after a timer, an error and a request. -/
theorem service_relays_enumeration :
    let M := service .millis .zeroed
    let es := [.createSession 0 10 0,
      .message (.FINGERPRINT_TEMPLATE_ENUMERATING 1 1) (.still 1),
      .request 0 .getAuthenticatorId, .message (.FINGERPRINT_ERROR 1) (.still 1),
      .message (.FINGERPRINT_TEMPLATE_ENUMERATING 2 0) (.still 1), workAt 2]
    (trace (M.steps .ready es)).filterMap Output.relayed =
        relay Fingerprint.ready.enrollments ((M.steps .ready es).filterMap received) ∧
      (M.final .ready es).enrollments =
        keptAfter Fingerprint.ready.enrollments ((M.steps .ready es).filterMap received) :=
  service_relays (Machine.run_steps (by decide +kernel))

end FingerprintHal
