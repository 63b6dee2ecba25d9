/-
  Session.cpp and Fingerprint.cpp: the service as one machine.

  The state (`Fingerprint`) is the service object with its engine, its worker queue and
  every session object made so far, plus what lives outside of objects: the static
  accumulator of `Session::notify`, the cancellation signals, the clock. One event is one
  handler run to its end: a call of a client, one task of the worker, one message of the
  vendor module, one lockout timer. An event that cannot happen, or a failed `CHECK` (the
  process ends), is `none`.

  A session object is never freed here: the tasks and the timers that hold a pointer to
  it find it as it was left.

  The worker queue stands for `thread/WorkerThread.h`, which is not part of the repository:
  that it holds `MAX_WORKER_QUEUE_SIZE` tasks at most, refuses another one, and runs what
  it has accepted once each, in order, is assumed of it. So is what `CancellationSignal`
  does: `cancel` is the moment the future of a request becomes ready, which is when the
  client calls `cancel()`, or lets go of the signal, whose promise is then broken.

  Left out is what can happen within a handler: a message that is past the test of
  `isClosed` while the session is being closed is still handed on to it, and a task that
  has found its future not ready goes on when it becomes ready then.
-/
import FingerprintHal.Lib.Machine
import FingerprintHal.Lib.BoundedQueue
import FingerprintHal.Model.Engine

namespace FingerprintHal

open Lib

/-! ## State -/

def MAX_WORKER_QUEUE_SIZE : Nat := 5

/-- The lambdas a session schedules. `cancel` is the number of the future that was handed
    out with the request. -/
inductive TaskBody
  | generateChallenge
  | revokeChallenge (challenge : BitVec 64)
  | enroll (hat : HardwareAuthToken) (cancel : Nat)
  | authenticate (operationId : BitVec 64) (cancel : Nat)
  | detectInteraction (cancel : Nat)
  | enumerateEnrollments
  | removeEnrollments (enrollmentIds : List (BitVec 32))
  | getAuthenticatorId
  | invalidateAuthenticatorId
  | resetLockout (hat : HardwareAuthToken)
  | onPointerDown (x y : BitVec 32)
  | onPointerUp
  | onUiReady
deriving DecidableEq

/-- A task of the worker, with the session it captured. -/
structure Task where
  session : SessionId
  body : TaskBody
deriving DecidableEq

structure Session where
  mSensorId : BitVec 32
  mUserId : BitVec 32
  mIsClosed : Bool
deriving DecidableEq

/-- The service. `sessions` are the session objects in the order of creation,
    `enrollments` is the static accumulator of `Session::notify`, `signals` counts the
    cancellation signals handed out and `cancelled` are those whose future is ready: the
    client has cancelled them, or let go of them. `clock` is the last reading of the
    clock. -/
structure Fingerprint where
  mEngine : FingerprintEngine
  mWorker : BoundedQueue Task MAX_WORKER_QUEUE_SIZE
  mSession : Option SessionId
  sessions : List Session
  enrollments : List (BitVec 32)
  signals : Nat
  cancelled : List Nat
  clock : Int
deriving DecidableEq

namespace Fingerprint

/-- `Session::isClosed` of session `s`; what was never created counts as closed. -/
def isClosed (s : SessionId) (w : Fingerprint) : Bool :=
  match w.sessions[s]? with
  | some x => x.mIsClosed
  | none => true

/-- The session messages are given to: the current one, unless it is closed. -/
def openSession (w : Fingerprint) : Option SessionId :=
  match w.mSession with
  | none => none
  | some s => if w.isClosed s then none else some s

def withEngine (w : Fingerprint) (r : FingerprintEngine × List Output) :
    Fingerprint × List Output :=
  ({ w with mEngine := r.1 }, r.2)

/-- `mWorker->schedule`; no caller looks at its result. -/
def schedule (self : SessionId) (body : TaskBody) (w : Fingerprint) : Fingerprint :=
  { w with mWorker := (w.mWorker.schedule ⟨self, body⟩).2 }

/-- `shouldCancel` on the future with number `cancel`: whether it is ready. -/
def shouldCancel (cancel : Nat) (w : Fingerprint) : Bool := decide (cancel ∈ w.cancelled)

end Fingerprint

/-! ## Session: what a client can call -/

/-- AIDL `PointerContext`, less the fields nothing reads. The coordinates are floats there;
    here they are what the call of `onPointerDown` makes of them. -/
structure PointerContext where
  pointerId : BitVec 32
  x : BitVec 32
  y : BitVec 32
deriving DecidableEq

/-- The methods of `ISession`, `close` apart. -/
inductive Request
  | generateChallenge
  | revokeChallenge (challenge : BitVec 64)
  | enroll (hat : HardwareAuthToken)
  | authenticate (operationId : BitVec 64)
  | detectInteraction
  | enumerateEnrollments
  | removeEnrollments (enrollmentIds : List (BitVec 32))
  | getAuthenticatorId
  | invalidateAuthenticatorId
  | resetLockout (hat : HardwareAuthToken)
  | onPointerDown (pointerId x y : BitVec 32)
  | onPointerUp (pointerId : BitVec 32)
  | onUiReady
  | authenticateWithContext (operationId : BitVec 64)
  | enrollWithContext (hat : HardwareAuthToken)
  | detectInteractionWithContext
  | onPointerDownWithContext (context : PointerContext)
  | onPointerUpWithContext (context : PointerContext)
  | onContextChanged
  | onPointerCancelWithContext (context : PointerContext)
  | setIgnoreDisplayTouches (shouldIgnore : Bool)
deriving DecidableEq

namespace Session

open Fingerprint

variable (self : SessionId) (w : Fingerprint)

def generateChallenge : Fingerprint := w.schedule self .generateChallenge

def revokeChallenge (challenge : BitVec 64) : Fingerprint :=
  w.schedule self (.revokeChallenge challenge)

/-- A request that hands out a cancellation signal: the task gets the future that belongs
    to it. -/
def scheduleCancellable (body : Nat → TaskBody) : Fingerprint :=
  { w.schedule self (body w.signals) with signals := w.signals + 1 }

def enroll (hat : HardwareAuthToken) : Fingerprint :=
  scheduleCancellable self w (.enroll hat)

def authenticate (operationId : BitVec 64) : Fingerprint :=
  scheduleCancellable self w (.authenticate operationId)

def detectInteraction : Fingerprint := scheduleCancellable self w .detectInteraction

def enumerateEnrollments : Fingerprint := w.schedule self .enumerateEnrollments

def removeEnrollments (enrollmentIds : List (BitVec 32)) : Fingerprint :=
  w.schedule self (.removeEnrollments enrollmentIds)

def getAuthenticatorId : Fingerprint := w.schedule self .getAuthenticatorId

def invalidateAuthenticatorId : Fingerprint := w.schedule self .invalidateAuthenticatorId

def resetLockout (hat : HardwareAuthToken) : Fingerprint :=
  w.schedule self (.resetLockout hat)

def onPointerDown (_pointerId x y : BitVec 32) : Fingerprint :=
  w.schedule self (.onPointerDown x y)

def onPointerUp (_pointerId : BitVec 32) : Fingerprint := w.schedule self .onPointerUp

def onUiReady : Fingerprint := w.schedule self .onUiReady

def authenticateWithContext (operationId : BitVec 64) : Fingerprint :=
  authenticate self w operationId

def enrollWithContext (hat : HardwareAuthToken) : Fingerprint := enroll self w hat

def detectInteractionWithContext : Fingerprint := detectInteraction self w

def onPointerDownWithContext (context : PointerContext) : Fingerprint :=
  onPointerDown self w context.pointerId context.x context.y

def onPointerUpWithContext (context : PointerContext) : Fingerprint :=
  onPointerUp self w context.pointerId

def onContextChanged : Fingerprint := w

def onPointerCancelWithContext (_context : PointerContext) : Fingerprint := w

def setIgnoreDisplayTouches (_shouldIgnore : Bool) : Fingerprint := w

/-- A call of a client on the session object `self`. -/
def call : Request → Fingerprint
  | .generateChallenge => generateChallenge self w
  | .revokeChallenge challenge => revokeChallenge self w challenge
  | .enroll hat => enroll self w hat
  | .authenticate operationId => authenticate self w operationId
  | .detectInteraction => detectInteraction self w
  | .enumerateEnrollments => enumerateEnrollments self w
  | .removeEnrollments enrollmentIds => removeEnrollments self w enrollmentIds
  | .getAuthenticatorId => getAuthenticatorId self w
  | .invalidateAuthenticatorId => invalidateAuthenticatorId self w
  | .resetLockout hat => resetLockout self w hat
  | .onPointerDown pointerId x y => onPointerDown self w pointerId x y
  | .onPointerUp pointerId => onPointerUp self w pointerId
  | .onUiReady => onUiReady self w
  | .authenticateWithContext operationId => authenticateWithContext self w operationId
  | .enrollWithContext hat => enrollWithContext self w hat
  | .detectInteractionWithContext => detectInteractionWithContext self w
  | .onPointerDownWithContext context => onPointerDownWithContext self w context
  | .onPointerUpWithContext context => onPointerUpWithContext self w context
  | .onContextChanged => onContextChanged w
  | .onPointerCancelWithContext context => onPointerCancelWithContext w context
  | .setIgnoreDisplayTouches shouldIgnore => setIgnoreDisplayTouches w shouldIgnore

def close : Fingerprint × List Output :=
  ({ w with sessions := w.sessions.modify self fun x => { x with mIsClosed := true } },
    [.callback self .onSessionClosed])

/-- `onClientDeath` with the session as its cookie. -/
def onClientDeath : Fingerprint × List Output :=
  if ¬ w.isClosed self then close self w else (w, [])

end Session

/-! ## The worker -/

/-- What a task finds besides the state: the result of its device call, the prior content
    of `enrollImpl`'s local `authToken`, the configuration value `detect_interaction`, and
    the clock. -/
structure TaskInputs where
  error : BitVec 32
  stack : HwAuthToken
  detect_interaction : Bool
  clk : Readings
deriving DecidableEq

/-- An operation that is not started when its future is ready by then. -/
def Fingerprint.unlessCancelled (self : SessionId) (cancel : Nat) (outs : List Output)
    (w : Fingerprint) : List Output :=
  if w.shouldCancel cancel then [.callback self (.onError Error.CANCELED 0)] else outs

theorem unlessCancelled_of_mem {self : SessionId} {cancel : Nat} {w : Fingerprint}
    (h : cancel ∈ w.cancelled) (outs : List Output) :
    w.unlessCancelled self cancel outs = [.callback self (.onError Error.CANCELED 0)] :=
  if_pos (decide_eq_true h)

theorem unlessCancelled_of_not_mem {self : SessionId} {cancel : Nat} {w : Fingerprint}
    (h : cancel ∉ w.cancelled) (outs : List Output) :
    w.unlessCancelled self cancel outs = outs := by
  unfold Fingerprint.unlessCancelled Fingerprint.shouldCancel
  rw [if_neg (by simpa using h)]

/-- Run a task. -/
def Task.run (U : Util) (inp : TaskInputs) (t : Task) (w : Fingerprint) :
    Fingerprint × List Output :=
  let e := w.mEngine
  match t.body with
  | .generateChallenge => (w, e.generateChallengeImpl)
  | .revokeChallenge challenge => (w, e.revokeChallengeImpl challenge inp.error)
  | .enroll hat cancel =>
      (w, w.unlessCancelled t.session cancel
        (e.enrollImpl t.session hat inp.stack inp.error))
  | .authenticate operationId cancel =>
      (w, w.unlessCancelled t.session cancel
        (e.authenticateImpl t.session operationId inp.error))
  | .detectInteraction cancel =>
      (w, w.unlessCancelled t.session cancel
        (FingerprintEngine.detectInteractionImpl t.session inp.detect_interaction))
  | .enumerateEnrollments => (w, e.enumerateEnrollmentsImpl t.session inp.error)
  | .removeEnrollments enrollmentIds => (w, e.removeEnrollmentsImpl enrollmentIds)
  | .getAuthenticatorId => (w, e.getAuthenticatorIdImpl)
  | .invalidateAuthenticatorId => (w, e.invalidateAuthenticatorIdImpl)
  | .resetLockout hat =>
      w.withEngine (e.onLockout fun l => l.resetLockoutImpl t.session hat)
  | .onPointerDown x y =>
      let r := e.toLockoutControl.checkSensorLockout U t.session inp.clk
      let e := { e with toLockoutControl := r.2.1 }
      if r.1 then w.withEngine (e, r.2.2)
      else
        let d := e.onPointerDownImpl x y
        w.withEngine (d.1, r.2.2 ++ d.2)
  | .onPointerUp => w.withEngine e.onPointerUpImpl
  | .onUiReady => (w, [])

/-! ## Messages of the vendor module -/

/-- `Session::notify` on the session `self`. -/
def Session.notify (U : Util) (self : SessionId) (msg : Msg) (clk : Readings)
    (w : Fingerprint) : Fingerprint × List Output :=
  let e := w.mEngine
  match msg with
  | .FINGERPRINT_ERROR error =>
      let result := FingerprintEngine.convertError error
      (w, [.callback self (.onError result.1 result.2)])
  | .FINGERPRINT_ACQUIRED acquired_info =>
      let result := FingerprintEngine.convertAcquiredInfo acquired_info
      let r := e.onAcquired (result.1.ordinal.signExtend 32) result.2
      w.withEngine (r.1, r.2 ++
        if result.1 ≠ AcquiredInfo.VENDOR then
          [.callback self (.onAcquired result.1 result.2)] else [])
  | .FINGERPRINT_TEMPLATE_ENROLLING fid samples_remaining =>
      (w, [.callback self (.onEnrollmentProgress fid samples_remaining)])
  | .FINGERPRINT_TEMPLATE_REMOVED fid _ =>
      (w, [.callback self (.onEnrollmentsRemoved [fid])])
  | .FINGERPRINT_AUTHENTICATED fid hat =>
      if fid ≠ 0 then
        let authToken := translateToAidl hat HardwareAuthToken.default
        let e := { e with mLockoutTracker := e.mLockoutTracker.reset true }
        let u := e.onPointerUpImpl
        w.withEngine (u.1, .callback self (.onAuthenticationSucceeded fid authToken) :: u.2)
      else
        let e := { e with mLockoutTracker := e.mLockoutTracker.addFailedAttempt clk.atFailure }
        let r := e.toLockoutControl.checkSensorLockout U self clk
        let u := { e with toLockoutControl := r.2.1 }.onPointerUpImpl
        w.withEngine (u.1, .callback self .onAuthenticationFailed :: (r.2.2 ++ u.2))
  | .FINGERPRINT_TEMPLATE_ENUMERATING fid remaining_templates =>
      let enrollments := w.enrollments ++ [fid]
      if remaining_templates = 0 then
        ({ w with enrollments := [] },
          [.callback self (.onEnrollmentsEnumerated enrollments)])
      else ({ w with enrollments := enrollments }, [])
  | .FINGERPRINT_CHALLENGE_GENERATED data =>
      (w, [.callback self (.onChallengeGenerated data)])
  | .FINGERPRINT_CHALLENGE_REVOKED data =>
      (w, [.callback self (.onChallengeRevoked data)])
  | .FINGERPRINT_AUTHENTICATOR_ID_RETRIEVED data =>
      -- the local is an `int`: the low 32 bits, widened again for the callback
      let auth_id := (data.setWidth 32).signExtend 64
      let u := e.onPointerUpImpl
      w.withEngine (u.1, u.2 ++ [.callback self (.onAuthenticatorIdRetrieved auth_id)])
  | .FINGERPRINT_AUTHENTICATOR_ID_INVALIDATED data =>
      (w, [.callback self (.onAuthenticatorIdInvalidated data)])
  | .unknown _ => (w, [])

namespace Fingerprint

/-- `Fingerprint::notify`. -/
def notify (U : Util) (msg : Msg) (clk : Readings) (w : Fingerprint) :
    Fingerprint × List Output :=
  match w.openSession with
  | none => (w, [])
  | some s => Session.notify U s msg clk w

/-- `Fingerprint::createSession` with the constructor of `Session`; `error` is the result
    of the device's `setActiveGroup`. -/
def createSession (mem : Memory) (sensorId userId error : BitVec 32) (w : Fingerprint) :
    Option (Fingerprint × List Output) :=
  if w.openSession.isSome then none
  else if sensorId.toInt < 0 ∨ userId.toInt < 0 then none
  else
    let s := w.sessions.length
    some ({ w with
        mSession := some s
        sessions := w.sessions ++ [⟨sensorId, userId, mem.mIsClosed s⟩] },
      w.mEngine.setActiveGroup userId error)

/-- The constructor of `Fingerprint`, with the clock at `now`. -/
def boot (mem : Memory) (hw : HwModule) (now : Int) : Fingerprint × List Output :=
  let e := FingerprintEngine.new mem hw
  ({ mEngine := e.1
     mWorker := BoundedQueue.empty
     mSession := none
     sessions := []
     enrollments := []
     signals := 0
     cancelled := []
     clock := now }, e.2)

end Fingerprint

/-! ## The machine -/

/-- What can happen to the service. `cancel` makes the future of a signal ready. -/
inductive Event
  | createSession (sensorId userId error : BitVec 32)
  | request (s : SessionId) (r : Request)
  | close (s : SessionId)
  | clientDeath (s : SessionId)
  | cancel (signal : Nat)
  | work (inp : TaskInputs)
  | message (msg : Msg) (clk : Readings)
  | timer (i : Nat) (now : Int)
deriving DecidableEq

namespace Fingerprint

/-- The worker takes the oldest task and runs it. -/
def work (U : Util) (inp : TaskInputs) (w : Fingerprint) :
    Option (Fingerprint × List Output) :=
  match w.mWorker.pop with
  | none => none
  | some (t, q) =>
      some (t.run U inp { w with mWorker := q, clock := inp.clk.atTimeLeft })

/-- The `i`-th lockout timer wakes up at `now`. -/
def timerExpired (i : Nat) (now : Int) (w : Fingerprint) :
    Option (Fingerprint × List Output) :=
  match w.mEngine.timers[i]? with
  | none => none
  | some t =>
      some ({ w with clock := now }.withEngine
        (w.mEngine.onLockout fun l =>
          { l with timers := l.timers.eraseIdx i }.lockoutTimerExpired t.cb))

def step (U : Util) (mem : Memory) (w : Fingerprint) :
    Event → Option (Fingerprint × List Output)
  | .createSession sensorId userId error => w.createSession mem sensorId userId error
  | .request s r => if s < w.sessions.length then some (Session.call s w r, []) else none
  | .close s => if s < w.sessions.length then some (Session.close s w) else none
  | .clientDeath s =>
      if s < w.sessions.length then some (Session.onClientDeath s w) else none
  | .cancel signal =>
      if signal < w.signals then some ({ w with cancelled := signal :: w.cancelled }, [])
      else none
  | .work inp => w.work U inp
  | .message msg clk => some ({ w with clock := clk.atTimeLeft }.notify U msg clk)
  | .timer i now => w.timerExpired i now

end Fingerprint

/-- The service as a machine. -/
def service (U : Util) (mem : Memory) : Machine Fingerprint Event Output where
  step := Fingerprint.step U mem

/-- One step of the service, with the state before and after. -/
abbrev Handler := Transition Fingerprint Event Output

/-! ## What an event is about -/

namespace Event

/-- The user of a new session, and what `setActiveGroup` returns for it. -/
def creation : Event → Option (BitVec 32 × BitVec 32)
  | .createSession _ userId error => some (userId, error)
  | _ => none

/-- The session a client calls, and the request. -/
def asked : Event → Option (SessionId × Request)
  | .request s r => some (s, r)
  | _ => none

/-- What the task that runs finds besides the state. -/
def worked : Event → Option TaskInputs
  | .work inp => some inp
  | _ => none

/-- The event is brought about by a client. -/
def isClient : Event → Bool
  | .work _ => false
  | .message _ _ => false
  | .timer _ _ => false
  | _ => true

/-- The timer that expires, and when. -/
def expiry : Event → Option (Nat × Int)
  | .timer i now => some (i, now)
  | _ => none

end Event

/-! ## A service that starts as it should -/

/-- Memory that happens to hold what the constructors ought to write. -/
def Memory.zeroed : Memory where
  mLockoutTimedStart := 0
  mCurrentMode := .kNone
  mDevice := 0
  isLockoutTimerStarted := false
  isLockoutTimerAborted := false
  mIsClosed _ := false

/-- A vendor module that opens, with its device at address 1, and a display. -/
def HwModule.working : HwModule where
  hw_get_module := 0
  hw_mdl := true
  openMethod := true
  openError := 0
  module_api_version := FINGERPRINT_MODULE_API_VERSION_2_1
  device := 1
  set_notify := 0
  disp_fd := 3

/-- The service on such memory, its clock at 0. -/
def Fingerprint.ready : Fingerprint := (Fingerprint.boot .zeroed .working 0).1

def HwAuthToken.zeroed : HwAuthToken := ⟨0, 0, 0, 0, 0, 0, Vector.replicate 32 0⟩

/-! Events during which the clock stands still at `now`. -/

/-- A failed match. -/
def failureAt (now : Int) : Event :=
  .message (.FINGERPRINT_AUTHENTICATED 0 .zeroed) (.still now)

/-- A match of the fingerprint 1. -/
def matchAt (now : Int) : Event :=
  .message (.FINGERPRINT_AUTHENTICATED 1 .zeroed) (.still now)

/-- The worker runs a task, and the device accepts what it asks for. -/
def workAt (now : Int) : Event := .work ⟨0, .zeroed, true, .still now⟩

/-- A client asks for a `resetLockout` with a token that has a mac. -/
def resetRequest (s : SessionId) : Event :=
  .request s (.resetLockout ⟨0, 0, 0, 0, 0, [1]⟩)

/-! ## What a step can be, event by event -/

section Steps

variable {U : Util} {mem : Memory} {w w' : Fingerprint} {o : List Output}

theorem step_createSession {sensorId userId error : BitVec 32} :
    (service U mem).step w (.createSession sensorId userId error) = some (w', o) ↔
      w.openSession = none ∧ 0 ≤ sensorId.toInt ∧ 0 ≤ userId.toInt ∧
      w' = { w with
        mSession := some w.sessions.length
        sessions := w.sessions ++ [⟨sensorId, userId, mem.mIsClosed w.sessions.length⟩] } ∧
      o = w.mEngine.setActiveGroup userId error := by
  simp only [service, Fingerprint.step, Fingerprint.createSession]
  cases w.openSession with
  | some s => simp
  | none =>
      simp only [Option.isSome_none, Bool.false_eq_true, if_false, true_and]
      split
      · next h =>
          constructor
          · intro h'
            cases h'
          · rintro ⟨h1, h2, -, -⟩
            omega
      · next h =>
          rw [Option.some.injEq, Prod.mk.injEq]
          constructor
          · rintro ⟨rfl, rfl⟩
            exact ⟨by omega, by omega, rfl, rfl⟩
          · rintro ⟨-, -, rfl, rfl⟩
            exact ⟨rfl, rfl⟩

/-- A step that can only be taken when `p` holds. -/
theorem ite_some_iff {p : Prop} [Decidable p] {a b : Fingerprint × List Output} :
    (if p then some a else none) = some b ↔ p ∧ b = a := by
  split
  · next h => simp [h, eq_comm]
  · next h => simp [h]

theorem step_request {s : SessionId} {r : Request} :
    (service U mem).step w (.request s r) = some (w', o) ↔
      s < w.sessions.length ∧ (w', o) = (Session.call s w r, []) := ite_some_iff

theorem step_close {s : SessionId} :
    (service U mem).step w (.close s) = some (w', o) ↔
      s < w.sessions.length ∧ (w', o) = Session.close s w := ite_some_iff

theorem step_clientDeath {s : SessionId} :
    (service U mem).step w (.clientDeath s) = some (w', o) ↔
      s < w.sessions.length ∧ (w', o) = Session.onClientDeath s w := ite_some_iff

theorem step_cancel {signal : Nat} :
    (service U mem).step w (.cancel signal) = some (w', o) ↔
      signal < w.signals ∧
        (w', o) = ({ w with cancelled := signal :: w.cancelled }, []) := ite_some_iff

theorem step_work {inp : TaskInputs} :
    (service U mem).step w (.work inp) = some (w', o) ↔
      ∃ t q, w.mWorker.items = t :: q.items ∧
        (w', o) = t.run U inp { w with mWorker := q, clock := inp.clk.atTimeLeft } := by
  simp only [service, Fingerprint.step, Fingerprint.work]
  split
  · next h =>
      rw [BoundedQueue.pop_eq_none] at h
      simp [h]
  · next t q h =>
      rw [BoundedQueue.pop_eq_some] at h
      constructor
      · intro e
        exact ⟨t, q, h, (Option.some.inj e).symm⟩
      · rintro ⟨t', q', h', e⟩
        obtain ⟨rfl, hq⟩ := List.cons.inj (h.symm.trans h')
        obtain rfl := BoundedQueue.ext hq
        rw [e]

theorem step_message {msg : Msg} {clk : Readings} :
    (service U mem).step w (.message msg clk) = some (w', o) ↔
      (w', o) = { w with clock := clk.atTimeLeft }.notify U msg clk := by
  simp only [service, Fingerprint.step, Option.some.injEq]
  exact eq_comm

theorem step_timer {i : Nat} {now : Int} :
    (service U mem).step w (.timer i now) = some (w', o) ↔
      ∃ t, w.mEngine.timers[i]? = some t ∧
        (w', o) = { w with clock := now }.withEngine (w.mEngine.onLockout fun l =>
          { l with timers := l.timers.eraseIdx i }.lockoutTimerExpired t.cb) := by
  simp only [service, Fingerprint.step, Fingerprint.timerExpired]
  split
  · next h => simp [h]
  · next t h =>
      simp only [h, Option.some.injEq, exists_eq_left']
      exact eq_comm

end Steps

/-! ## What a step leaves alone -/

/-- A task changes nothing but the engine. -/
theorem run_frame (U : Util) (inp : TaskInputs) (t : Task) (w : Fingerprint) :
    ∃ e, (t.run U inp w).1 = { w with mEngine := e } := by
  obtain ⟨s, body⟩ := t
  cases body with
  | resetLockout hat => exact ⟨_, rfl⟩
  | onPointerDown x y =>
      simp only [Task.run]
      split
      · exact ⟨_, rfl⟩
      · exact ⟨_, rfl⟩
  | onPointerUp => exact ⟨_, rfl⟩
  | _ => exact ⟨w.mEngine, rfl⟩

/-- A message changes nothing but the engine and the static accumulator. -/
theorem notify_frame (U : Util) (s : SessionId) (msg : Msg) (clk : Readings)
    (w : Fingerprint) :
    ∃ e fids, (Session.notify U s msg clk w).1 =
      { w with mEngine := e, enrollments := fids } := by
  cases msg with
  | FINGERPRINT_ACQUIRED acquired_info => exact ⟨_, w.enrollments, rfl⟩
  | FINGERPRINT_AUTHENTICATED fid hat =>
      simp only [Session.notify]
      split
      · exact ⟨_, w.enrollments, rfl⟩
      · exact ⟨_, w.enrollments, rfl⟩
  | FINGERPRINT_TEMPLATE_ENUMERATING fid remaining =>
      simp only [Session.notify]
      split
      · exact ⟨w.mEngine, [], rfl⟩
      · exact ⟨w.mEngine, w.enrollments ++ [fid], rfl⟩
  | FINGERPRINT_AUTHENTICATOR_ID_RETRIEVED data => exact ⟨_, w.enrollments, rfl⟩
  | _ => exact ⟨w.mEngine, w.enrollments, rfl⟩

/-- A call of a client changes nothing but the queue and the count of signals. -/
theorem call_frame (s : SessionId) (r : Request) (w : Fingerprint) :
    ∃ q n, Session.call s w r = { w with mWorker := q, signals := n } := by
  cases r <;> exact ⟨_, _, rfl⟩

section Frames

variable {U : Util} {mem : Memory} {w w' : Fingerprint} {o : List Output}

theorem work_frame {inp : TaskInputs}
    (h : (service U mem).step w (.work inp) = some (w', o)) :
    ∃ t q e, w.mWorker.items = t :: q.items ∧
      w' = { w with mWorker := q, clock := inp.clk.atTimeLeft, mEngine := e } := by
  obtain ⟨t, q, hi, he⟩ := step_work.mp h
  obtain ⟨e, hf⟩ := run_frame U inp t { w with mWorker := q, clock := inp.clk.atTimeLeft }
  have hw : w' = _ := congrArg Prod.fst he
  exact ⟨t, q, e, hi, hw.trans hf⟩

/-- While no session is open a message is dropped. -/
theorem message_dropped {msg : Msg} {clk : Readings}
    (h : (service U mem).step w (.message msg clk) = some (w', o))
    (hs : w.openSession = none) : w' = { w with clock := clk.atTimeLeft } ∧ o = [] := by
  have hn := step_message.mp h
  have hs' : { w with clock := clk.atTimeLeft }.openSession = none := hs
  rw [Fingerprint.notify, hs'] at hn
  exact Prod.mk.inj hn

/-- And otherwise it is given to the open session. -/
theorem message_given {msg : Msg} {clk : Readings} {s : SessionId}
    (h : (service U mem).step w (.message msg clk) = some (w', o))
    (hs : w.openSession = some s) :
    w' = (Session.notify U s msg clk { w with clock := clk.atTimeLeft }).1 ∧
      o = (Session.notify U s msg clk { w with clock := clk.atTimeLeft }).2 := by
  have hn := step_message.mp h
  have hs' : { w with clock := clk.atTimeLeft }.openSession = some s := hs
  rw [Fingerprint.notify, hs'] at hn
  exact Prod.mk.inj hn

theorem message_frame {msg : Msg} {clk : Readings}
    (h : (service U mem).step w (.message msg clk) = some (w', o)) :
    ∃ e fids, w' = { w with clock := clk.atTimeLeft, mEngine := e, enrollments := fids } := by
  cases hs : w.openSession with
  | none => exact ⟨w.mEngine, w.enrollments, (message_dropped h hs).1⟩
  | some s =>
      obtain ⟨e, fids, hf⟩ := notify_frame U s msg clk { w with clock := clk.atTimeLeft }
      exact ⟨e, fids, (message_given h hs).1.trans hf⟩

theorem timer_frame {i : Nat} {now : Int}
    (h : (service U mem).step w (.timer i now) = some (w', o)) :
    ∃ e, w' = { w with clock := now, mEngine := e } := by
  obtain ⟨t, -, he⟩ := step_timer.mp h
  exact ⟨_, congrArg Prod.fst he⟩

theorem request_frame {s : SessionId} {r : Request}
    (h : (service U mem).step w (.request s r) = some (w', o)) :
    ∃ q n, w' = { w with mWorker := q, signals := n } ∧ o = [] := by
  obtain ⟨q, n, hf⟩ := call_frame s r w
  obtain ⟨hw, ho⟩ := Prod.mk.inj (step_request.mp h).2
  exact ⟨q, n, hw.trans hf, ho⟩

theorem close_frame {s : SessionId} (h : (service U mem).step w (.close s) = some (w', o)) :
    w' = { w with
      sessions := w.sessions.modify s fun x => { x with mIsClosed := true } } ∧
    o = [.callback s .onSessionClosed] :=
  Prod.mk.inj (step_close.mp h).2

/-- A client that dies is a `close` of its session, when that is not closed yet. -/
theorem clientDeath_frame {s : SessionId}
    (h : (service U mem).step w (.clientDeath s) = some (w', o)) :
    (w.isClosed s = false ∧ (service U mem).step w (.close s) = some (w', o)) ∨
    (w.isClosed s = true ∧ w' = w ∧ o = []) := by
  obtain ⟨hs, he⟩ := step_clientDeath.mp h
  unfold Session.onClientDeath at he
  split at he
  · next hc => exact Or.inl ⟨by simpa using hc, step_close.mpr ⟨hs, he⟩⟩
  · next hc => exact Or.inr ⟨by simpa using hc, Prod.mk.inj he⟩

theorem cancel_frame {signal : Nat}
    (h : (service U mem).step w (.cancel signal) = some (w', o)) :
    w' = { w with cancelled := signal :: w.cancelled } ∧ o = [] :=
  Prod.mk.inj (step_cancel.mp h).2

/-- What clients do leaves the engine, the static accumulator and the clock alone. -/
theorem client_frame {e : Event} (h : (service U mem).step w e = some (w', o))
    (he : e.isClient = true) :
    w'.mEngine = w.mEngine ∧ w'.enrollments = w.enrollments ∧ w'.clock = w.clock := by
  cases e with
  | createSession sensorId userId error =>
      obtain ⟨-, -, -, rfl, -⟩ := step_createSession.mp h
      exact ⟨rfl, rfl, rfl⟩
  | request s r =>
      obtain ⟨_, _, rfl, -⟩ := request_frame h
      exact ⟨rfl, rfl, rfl⟩
  | close s =>
      obtain ⟨rfl, -⟩ := close_frame h
      exact ⟨rfl, rfl, rfl⟩
  | clientDeath s =>
      rcases clientDeath_frame h with ⟨-, h⟩ | ⟨-, rfl, -⟩
      · obtain ⟨rfl, -⟩ := close_frame h
        exact ⟨rfl, rfl, rfl⟩
      · exact ⟨rfl, rfl, rfl⟩
  | cancel signal =>
      obtain ⟨rfl, -⟩ := cancel_frame h
      exact ⟨rfl, rfl, rfl⟩
  | _ => cases he

/-- And puts out the `setActiveGroup` of a new session, or that a session is closed. -/
theorem client_outs {e : Event} (h : (service U mem).step w e = some (w', o))
    (he : e.isClient = true) :
    o = [] ∨ (∃ s, o = [.callback s .onSessionClosed]) ∨
      ∃ userId error, o = w.mEngine.setActiveGroup userId error := by
  cases e with
  | createSession sensorId userId error =>
      obtain ⟨-, -, -, -, rfl⟩ := step_createSession.mp h
      exact Or.inr (Or.inr ⟨userId, error, rfl⟩)
  | request s r =>
      obtain ⟨_, _, -, rfl⟩ := request_frame h
      exact Or.inl rfl
  | close s => exact Or.inr (Or.inl ⟨s, (close_frame h).2⟩)
  | clientDeath s =>
      rcases clientDeath_frame h with ⟨-, h⟩ | ⟨-, -, rfl⟩
      · exact Or.inr (Or.inl ⟨s, (close_frame h).2⟩)
      · exact Or.inl rfl
  | cancel signal => exact Or.inl (cancel_frame h).2
  | _ => cases he

/-- The worker, the vendor module and the timers leave the session objects and the
    cancellation signals alone. -/
theorem handler_frame {e : Event} (h : (service U mem).step w e = some (w', o))
    (he : e.isClient = false) :
    w'.sessions = w.sessions ∧ w'.mSession = w.mSession ∧ w'.signals = w.signals ∧
      w'.cancelled = w.cancelled := by
  cases e with
  | work inp =>
      obtain ⟨_, _, _, _, rfl⟩ := work_frame h
      exact ⟨rfl, rfl, rfl, rfl⟩
  | message msg clk =>
      obtain ⟨_, _, rfl⟩ := message_frame h
      exact ⟨rfl, rfl, rfl, rfl⟩
  | timer i now =>
      obtain ⟨_, rfl⟩ := timer_frame h
      exact ⟨rfl, rfl, rfl, rfl⟩
  | _ => cases he

/-- Only a request hands out a signal or puts a task into the queue, and only the worker
    takes one out. -/
theorem queue_frame {e : Event} (h : (service U mem).step w e = some (w', o))
    (hr : e.asked = none) :
    w'.signals = w.signals ∧ (e.worked = none → w'.mWorker = w.mWorker) := by
  cases e with
  | request s r => cases hr
  | createSession sensorId userId error =>
      obtain ⟨-, -, -, rfl, -⟩ := step_createSession.mp h
      exact ⟨rfl, fun _ => rfl⟩
  | close s =>
      obtain ⟨rfl, -⟩ := close_frame h
      exact ⟨rfl, fun _ => rfl⟩
  | clientDeath s =>
      rcases clientDeath_frame h with ⟨-, h⟩ | ⟨-, rfl, -⟩
      · obtain ⟨rfl, -⟩ := close_frame h
        exact ⟨rfl, fun _ => rfl⟩
      · exact ⟨rfl, fun _ => rfl⟩
  | cancel signal =>
      obtain ⟨rfl, -⟩ := cancel_frame h
      exact ⟨rfl, fun _ => rfl⟩
  | work inp =>
      obtain ⟨_, _, _, _, rfl⟩ := work_frame h
      exact ⟨rfl, fun hw => by cases hw⟩
  | message msg clk =>
      obtain ⟨_, _, rfl⟩ := message_frame h
      exact ⟨rfl, fun _ => rfl⟩
  | timer i now =>
      obtain ⟨_, rfl⟩ := timer_frame h
      exact ⟨rfl, fun _ => rfl⟩

end Frames

/-! ## The clock -/

/-- The first clock reading a handler may take. -/
def Event.starts : Event → Option Int
  | .work inp => some inp.clk.atFailure
  | .message _ clk => some clk.atFailure
  | .timer _ now => some now
  | _ => none

/-- The last clock reading a handler may take. -/
def Event.ends : Event → Option Int
  | .work inp => some inp.clk.atTimeLeft
  | .message _ clk => some clk.atTimeLeft
  | .timer _ now => some now
  | _ => none

/-- The clock has not gone back since the last handler. -/
def Nondecreasing (t : Handler) : Prop := ∀ r ∈ t.event.starts, t.pre.clock ≤ r

instance : DecidablePred Nondecreasing :=
  fun t => inferInstanceAs (Decidable (∀ r ∈ t.event.starts, t.pre.clock ≤ r))

/-- The clock shows the last reading. -/
theorem step_clock {U : Util} {mem : Memory} {w w' : Fingerprint} {e : Event}
    {o : List Output} (h : (service U mem).step w e = some (w', o)) :
    w'.clock = e.ends.getD w.clock := by
  cases e with
  | work inp =>
      obtain ⟨_, _, _, _, rfl⟩ := work_frame h
      rfl
  | message msg clk =>
      obtain ⟨_, _, rfl⟩ := message_frame h
      rfl
  | timer i now =>
      obtain ⟨_, rfl⟩ := timer_frame h
      rfl
  | _ => exact (client_frame h rfl).2.2

theorem Event.starts_le_ends {e : Event} {r : Int} (h : e.ends = some r) :
    ∃ r₀, e.starts = some r₀ ∧ r₀ ≤ r := by
  cases e with
  | work inp =>
      cases h
      exact ⟨_, rfl, Int.le_trans inp.clk.mode_after inp.clk.timeLeft_after⟩
  | message msg clk =>
      cases h
      exact ⟨_, rfl, Int.le_trans clk.mode_after clk.timeLeft_after⟩
  | timer i now =>
      cases h
      exact ⟨_, rfl, Int.le_refl _⟩
  | _ => cases h

/-- Over a step that starts no earlier than the last one ended, the clock advances. -/
theorem clock_le {U : Util} {mem : Memory} {t : Handler}
    (h : (service U mem).step t.pre t.event = some (t.post, t.outs)) (hn : Nondecreasing t) :
    t.pre.clock ≤ t.post.clock := by
  rw [step_clock h]
  cases he : t.event.ends with
  | none => exact Int.le_refl _
  | some r =>
      obtain ⟨r₀, h0, hle⟩ := Event.starts_le_ends he
      exact Int.le_trans (hn r₀ h0) hle

end FingerprintHal
