/-
  FingerprintEngine.cpp. The fields the lockout code works on are a record of their own
  (`LockoutControl`, extended by `FingerprintEngine`), so that what touches neither the
  tracker nor the timers leaves that record alone by definition.

  A method is a function from the engine (or from its lockout part) to the engine
  afterwards and what it put out. The result of a device function is an argument where
  the engine reads it. A lockout timer is a detached thread: `startLockoutTimer` adds it to
  `timers`, and the step that runs `lockoutTimerExpired` takes it out.
-/
import FingerprintHal.Model.Message
import FingerprintHal.Model.LockoutTracker

namespace FingerprintHal

/-! ## The lockout part -/

/-- A thread launched by `startLockoutTimer` that has not yet run `lockoutTimerExpired`:
    the callback it captured, the milliseconds it sleeps, and the clock at its launch. -/
structure LockoutTimer where
  cb : SessionId
  timeout : Int
  launched : Int
deriving DecidableEq, Repr

/-- The clock before which the sleep of the timer cannot end. -/
def LockoutTimer.deadline (t : LockoutTimer) : Int := t.launched + t.timeout * 1000000

/-- The fields of `FingerprintEngine` that lockouts are decided with. -/
structure LockoutControl where
  isLockoutTimerSupported : Bool
  isLockoutTimerStarted : Bool
  isLockoutTimerAborted : Bool
  mLockoutTracker : LockoutTracker
  timers : List LockoutTimer
deriving DecidableEq, Repr

namespace LockoutControl

def clearLockout (cb : SessionId) (dueToTimeout : Bool) (l : LockoutControl) :
    LockoutControl × List Output :=
  ({ l with mLockoutTracker := l.mLockoutTracker.reset dueToTimeout },
    [.callback cb .onLockoutCleared])

/-- `startLockoutTimer`; `now` is the clock when the thread is launched. -/
def startLockoutTimer (timeout : Int) (cb : SessionId) (now : Int) (l : LockoutControl) :
    LockoutControl :=
  { l with
    timers := l.timers ++ [⟨cb, timeout, now⟩]
    isLockoutTimerStarted := true }

/-- `checkSensorLockout`: whether the sensor is locked, and the two lockout callbacks. -/
def checkSensorLockout (U : Util) (cb : SessionId) (clk : Readings) (l : LockoutControl) :
    Bool × LockoutControl × List Output :=
  let l := { l with mLockoutTracker := l.mLockoutTracker.getMode U clk.atMode }
  match l.mLockoutTracker.mCurrentMode with
  | .kPermanent =>
      (true, { l with isLockoutTimerAborted := true }, [.callback cb .onLockoutPermanent])
  | .kTimed =>
      let timeLeft := l.mLockoutTracker.getLockoutTimeLeft clk.atTimeLeft
      (true,
        if l.isLockoutTimerSupported ∧ ¬ l.isLockoutTimerStarted then
          l.startLockoutTimer timeLeft cb clk.atTimeLeft
        else l,
        [.callback cb (.onLockoutTimed timeLeft)])
  | _ => (false, l, [])

def lockoutTimerExpired (cb : SessionId) (l : LockoutControl) :
    LockoutControl × List Output :=
  let r := if l.isLockoutTimerAborted then (l, []) else l.clearLockout cb true
  ({ r.1 with isLockoutTimerStarted := false, isLockoutTimerAborted := false }, r.2)

/-- `resetLockoutImpl` past its check of the token. -/
def acceptReset (cb : SessionId) (l : LockoutControl) : LockoutControl × List Output :=
  let r := l.clearLockout cb false
  (if r.1.isLockoutTimerStarted then { r.1 with isLockoutTimerAborted := true } else r.1,
    r.2)

def resetLockoutImpl (cb : SessionId) (hat : HardwareAuthToken) (l : LockoutControl) :
    LockoutControl × List Output :=
  if hat.mac = [] then (l, [.callback cb (.onError Error.UNABLE_TO_PROCESS 0)])
  else l.acceptReset cb

/-- An accepted `resetLockout` marks a timer that was started. -/
theorem acceptReset_eq (cb : SessionId) (l : LockoutControl) :
    l.acceptReset cb = ({ l with
      mLockoutTracker := l.mLockoutTracker.reset false
      isLockoutTimerAborted := l.isLockoutTimerStarted || l.isLockoutTimerAborted },
      [.callback cb .onLockoutCleared]) := by
  unfold acceptReset clearLockout
  dsimp only
  cases l.isLockoutTimerStarted <;> rfl

/-! ### What `checkSensorLockout` does, by the stored mode -/

section Check

variable {U : Util} {cb : SessionId} {clk : Readings} {l : LockoutControl}

theorem check_permanent (h : l.mLockoutTracker.mCurrentMode = .kPermanent) :
    l.checkSensorLockout U cb clk =
      (true, { l with isLockoutTimerAborted := true },
        [.callback cb .onLockoutPermanent]) := by
  unfold checkSensorLockout
  simp only [LockoutTracker.getMode_kPermanent h, h]

theorem check_timed (h : l.mLockoutTracker.mCurrentMode = .kTimed)
    (hr : U.hasElapsed clk.atMode l.mLockoutTracker.mLockoutTimedStart
      LOCKOUT_TIMED_DURATION = false) :
    l.checkSensorLockout U cb clk =
      (true,
        if l.isLockoutTimerSupported ∧ ¬ l.isLockoutTimerStarted then
          l.startLockoutTimer (l.mLockoutTracker.getLockoutTimeLeft clk.atTimeLeft) cb
            clk.atTimeLeft
        else l,
        [.callback cb (.onLockoutTimed
          (l.mLockoutTracker.getLockoutTimeLeft clk.atTimeLeft))]) := by
  have hg : l.mLockoutTracker.getMode U clk.atMode = l.mLockoutTracker := by
    unfold LockoutTracker.getMode
    rw [if_neg (by simp [hr])]
  unfold checkSensorLockout
  simp only [hg, h]

/-- A timed lockout whose time is over ends here, and nobody is told. -/
theorem check_elapsed (h : l.mLockoutTracker.mCurrentMode = .kTimed)
    (hr : U.hasElapsed clk.atMode l.mLockoutTracker.mLockoutTimedStart
      LOCKOUT_TIMED_DURATION = true) :
    l.checkSensorLockout U cb clk =
      (false, { l with mLockoutTracker := l.mLockoutTracker.reset true }, []) := by
  have hg : l.mLockoutTracker.getMode U clk.atMode = l.mLockoutTracker.reset true := by
    unfold LockoutTracker.getMode
    rw [if_pos ⟨h, hr⟩]
    rfl
  unfold checkSensorLockout
  simp only [hg, LockoutTracker.reset_mode]

theorem check_unlocked (h1 : l.mLockoutTracker.mCurrentMode ≠ .kPermanent)
    (h2 : l.mLockoutTracker.mCurrentMode ≠ .kTimed) :
    l.checkSensorLockout U cb clk = (false, l, []) := by
  have hg : l.mLockoutTracker.getMode U clk.atMode = l.mLockoutTracker := by
    unfold LockoutTracker.getMode
    rw [if_neg (by simp [h2])]
  unfold checkSensorLockout
  simp only [hg]

/-- To the tracker `checkSensorLockout` is `getMode`. -/
theorem check_tracker (U : Util) (cb : SessionId) (clk : Readings) (l : LockoutControl) :
    (l.checkSensorLockout U cb clk).2.1.mLockoutTracker =
      l.mLockoutTracker.getMode U clk.atMode := by
  unfold checkSensorLockout
  dsimp only
  split
  · rfl
  · split <;> rfl
  · rfl

/-- It leads into no lockout: what it leaves as one was stored before. -/
theorem check_of_ne_kNone
    (h : (l.checkSensorLockout U cb clk).2.1.mLockoutTracker.mCurrentMode ≠ .kNone) :
    (l.checkSensorLockout U cb clk).2.1.mLockoutTracker = l.mLockoutTracker := by
  rw [check_tracker] at h ⊢
  exact LockoutTracker.getMode_eq_of_ne_kNone h

end Check

end LockoutControl

/-! ## The engine -/

structure FingerprintEngine extends LockoutControl where
  /-- `fingerprint_device_t*`; 0 is the null pointer. -/
  mDevice : Nat
  /-- The display file descriptor; -1 when none is open. -/
  disp_fd_ : Int
  /-- `req.local_hbm_value`. -/
  req : LocalHbm
deriving DecidableEq, Repr

/-- What the constructors of `LockoutTracker`, `FingerprintEngine` and `Session` find in
    the memory they do not write: `mIsClosed n` is for the `n`-th session object. -/
structure Memory where
  mLockoutTimedStart : Int
  mCurrentMode : LockoutMode
  mDevice : Nat
  isLockoutTimerStarted : Bool
  isLockoutTimerAborted : Bool
  mIsClosed : SessionId → Bool

/-- What the environment answers while the vendor module and the display are opened. -/
structure HwModule where
  hw_get_module : BitVec 32
  hw_mdl : Bool
  openMethod : Bool
  openError : BitVec 32
  module_api_version : BitVec 16
  device : Nat
  set_notify : BitVec 32
  disp_fd : Int

def FINGERPRINT_MODULE_API_VERSION_2_1 : BitVec 16 := 0x0201

namespace FingerprintEngine

/-- `openFingerprintHal`: the device pointer, null when a step fails. A call through a null
    pointer is put out like any other; the process would end at it. -/
def openFingerprintHal (hw : HwModule) : Nat × List Output :=
  if hw.hw_get_module ≠ 0 then (0, [])
  else if ¬ hw.hw_mdl then (0, [])
  else if ¬ hw.openMethod then (0, [])
  else if hw.openError ≠ 0 then (0, [])
  else if hw.module_api_version ≠ FINGERPRINT_MODULE_API_VERSION_2_1 then (0, [])
  else (if hw.set_notify ≠ 0 then 0 else hw.device, [.device hw.device .set_notify])

/-- The constructor, over the memory it does not initialise. A device pointer that is
    not null there is taken for an open device. -/
def new (mem : Memory) (hw : HwModule) : FingerprintEngine × List Output :=
  let opened := if mem.mDevice ≠ 0 then (mem.mDevice, []) else openFingerprintHal hw
  ({ isLockoutTimerSupported := true
     isLockoutTimerStarted := mem.isLockoutTimerStarted
     isLockoutTimerAborted := mem.isLockoutTimerAborted
     mLockoutTracker := ⟨0, mem.mLockoutTimedStart, mem.mCurrentMode⟩
     timers := []
     mDevice := opened.1
     disp_fd_ := if mem.mDevice ≠ 0 then -1 else hw.disp_fd
     req := .LHBM_TARGET_BRIGHTNESS_OFF_FINGER_UP }, opened.2)

/-- Run a lockout method inside the engine. -/
def onLockout (f : LockoutControl → LockoutControl × List Output) (e : FingerprintEngine) :
    FingerprintEngine × List Output :=
  let r := f e.toLockoutControl
  ({ e with toLockoutControl := r.1 }, r.2)

def setActiveGroup (userId : BitVec 32) (error : BitVec 32) (e : FingerprintEngine) :
    List Output :=
  let path := "/data/vendor_de/" ++ toString userId.toInt ++ "/fpdata/"
  [.device e.mDevice (.setActiveGroup userId path error)]

def setFingerStatus (pressed : Bool) (e : FingerprintEngine) :
    FingerprintEngine × List Output :=
  let value := if pressed then LocalHbm.LHBM_TARGET_BRIGHTNESS_WHITE_1000NIT
    else LocalHbm.LHBM_TARGET_BRIGHTNESS_OFF_FINGER_UP
  ({ e with req := value },
    [.device e.mDevice (.goodixExtCmd COMMAND_FOD_PRESS_STATUS
        (if pressed then PARAM_FOD_PRESSED else PARAM_FOD_RELEASED)),
      .device e.mDevice (.goodixExtCmd COMMAND_NIT
        (if pressed then PARAM_NIT_FOD else PARAM_NIT_NONE)),
      .display e.disp_fd_ value])

def onAcquired (result vendorCode : BitVec 32) (e : FingerprintEngine) :
    FingerprintEngine × List Output :=
  if result ≠ FINGERPRINT_ACQUIRED_VENDOR then e.setFingerStatus false
  else if vendorCode = 20 ∨ vendorCode = 22 then (e, [])
  else if vendorCode = 44 then e.setFingerStatus false
  else (e, [])

/-- The two codes decide what `onAcquired` does: nothing, or the finger is up. -/
theorem onAcquired_cases (result vendorCode : BitVec 32) :
    (∀ e : FingerprintEngine, e.onAcquired result vendorCode = (e, [])) ∨
    ∀ e : FingerprintEngine, e.onAcquired result vendorCode = e.setFingerStatus false := by
  by_cases hr : result = FINGERPRINT_ACQUIRED_VENDOR
  · by_cases h0 : vendorCode = 20 ∨ vendorCode = 22
    · left
      intro e
      rw [onAcquired, if_neg (not_not_intro hr), if_pos h0]
    · by_cases h44 : vendorCode = 44
      · right
        intro e
        rw [onAcquired, if_neg (not_not_intro hr), if_neg h0, if_pos h44]
      · left
        intro e
        rw [onAcquired, if_neg (not_not_intro hr), if_neg h0, if_neg h44]
  · right
    intro e
    rw [onAcquired, if_pos hr]

def FINGERPRINT_ACQUIRED_VENDOR_BASE : BitVec 32 := 1000
def FINGERPRINT_ERROR_VENDOR_BASE : BitVec 32 := 1000

def convertAcquiredInfo (code : BitVec 32) : AcquiredInfo × BitVec 32 :=
  if FINGERPRINT_ACQUIRED_VENDOR_BASE.toInt < code.toInt then
    (AcquiredInfo.VENDOR, code - FINGERPRINT_ACQUIRED_VENDOR_BASE)
  else (⟨code.setWidth 8⟩, 0)

def convertError (code : BitVec 32) : Error × BitVec 32 :=
  if FINGERPRINT_ERROR_VENDOR_BASE.toInt < code.toInt then
    (Error.VENDOR, code - FINGERPRINT_ERROR_VENDOR_BASE)
  else (⟨code.setWidth 8⟩, 0)

/-! ### The operations a session asks for

  Those that leave the engine as it is return what they put out only. -/

def generateChallengeImpl (e : FingerprintEngine) : List Output :=
  [.device e.mDevice .generateChallenge]

def revokeChallengeImpl (challenge : BitVec 64) (error : BitVec 32) (e : FingerprintEngine) :
    List Output :=
  [.device e.mDevice (.revokeChallenge challenge error)]

/-- The `onError(UNABLE_TO_PROCESS, error)` of an operation the device refused. -/
def failed (cb : SessionId) (error : BitVec 32) : List Output :=
  if error ≠ 0 then [.callback cb (.onError Error.UNABLE_TO_PROCESS error)] else []

/-- `enrollImpl`; `stack` is what the variable `authToken` holds before the translation. -/
def enrollImpl (cb : SessionId) (hat : HardwareAuthToken) (stack : HwAuthToken)
    (error : BitVec 32) (e : FingerprintEngine) : List Output :=
  .device e.mDevice (.enroll (translateToLegacy hat stack) error) :: failed cb error

def authenticateImpl (cb : SessionId) (operationId : BitVec 64) (error : BitVec 32)
    (e : FingerprintEngine) : List Output :=
  .device e.mDevice (.authenticate operationId error) :: failed cb error

/-- `detectInteractionImpl`; `detectInteraction` is the configuration value
    `detect_interaction`. -/
def detectInteractionImpl (cb : SessionId) (detectInteraction : Bool) : List Output :=
  if detectInteraction then [] else [.callback cb (.onError Error.UNABLE_TO_PROCESS 0)]

def enumerateEnrollmentsImpl (cb : SessionId) (error : BitVec 32) (e : FingerprintEngine) :
    List Output :=
  .device e.mDevice (.enumerate error) :: failed cb error

def removeEnrollmentsImpl (enrollmentIds : List (BitVec 32)) (e : FingerprintEngine) :
    List Output :=
  [.device e.mDevice (.remove enrollmentIds (BitVec.ofNat 32 enrollmentIds.length))]

def getAuthenticatorIdImpl (e : FingerprintEngine) : List Output :=
  [.device e.mDevice .getAuthenticatorId]

def invalidateAuthenticatorIdImpl (e : FingerprintEngine) : List Output :=
  [.device e.mDevice .invalidateAuthenticatorId]

def onPointerDownImpl (x y : BitVec 32) (e : FingerprintEngine) :
    FingerprintEngine × List Output :=
  let r := e.setFingerStatus true
  (r.1, .device e.mDevice (.goodixExtCmd COMMAND_FOD_PRESS_X x) ::
    .device e.mDevice (.goodixExtCmd COMMAND_FOD_PRESS_Y y) :: r.2)

def onPointerUpImpl (e : FingerprintEngine) : FingerprintEngine × List Output :=
  let r := e.setFingerStatus false
  (r.1, .device e.mDevice (.goodixExtCmd COMMAND_FOD_PRESS_X 0) ::
    .device e.mDevice (.goodixExtCmd COMMAND_FOD_PRESS_Y 0) :: r.2)

end FingerprintEngine

end FingerprintHal
