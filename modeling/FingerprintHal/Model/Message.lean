/-
  The data that crosses the borders of the service: the messages and the device functions
  of fingerprint-xiaomi.h, the callbacks of the session (AIDL `ISessionCallback`), the
  requests to the display driver, and the two forms of an auth token with the translations
  of Legacy2Aidl.h.

  Fixed-width values are `BitVec`s. A message is one constructor per
  `fingerprint_msg_type`, with the union member that `Session::notify` reads for that type.
  An AIDL enumeration is its backing byte, since the code casts any 32-bit code to it.
-/

namespace FingerprintHal

abbrev Byte := BitVec 8

/-! ## Auth tokens (Legacy2Aidl.h) -/

/-- `hw_auth_token_t` of hardware/hw_auth_token.h. -/
structure HwAuthToken where
  version : Byte
  challenge : BitVec 64
  user_id : BitVec 64
  authenticator_id : BitVec 64
  authenticator_type : BitVec 32
  timestamp : BitVec 64
  hmac : Vector Byte 32
deriving DecidableEq, Repr

/-- AIDL `HardwareAuthToken`; `timestamp` is `timestamp.milliSeconds`. -/
structure HardwareAuthToken where
  challenge : BitVec 64
  userId : BitVec 64
  authenticatorId : BitVec 64
  authenticatorType : BitVec 32
  timestamp : BitVec 64
  mac : List Byte
deriving DecidableEq, Repr

/-- `htobe32` on a little-endian host; also `be32toh`. -/
def htobe32 (x : BitVec 32) : BitVec 32 :=
  x.extractLsb' 0 8 ++ x.extractLsb' 8 8 ++ x.extractLsb' 16 8 ++ x.extractLsb' 24 8

/-- `htobe64` on a little-endian host; also `be64toh`. -/
def htobe64 (x : BitVec 64) : BitVec 64 :=
  htobe32 (x.extractLsb' 0 32) ++ htobe32 (x.extractLsb' 32 32)

/-- `std::copy` of the mac to the start of `hmac`: the array afterwards, and the bytes
    that are written behind its end. -/
def copyMac (mac : List Byte) (hmac : Vector Byte 32) : Vector Byte 32 × List Byte :=
  (Vector.ofFn fun i => mac.getD i (hmac.get i), mac.drop 32)

/-- `translate` from AIDL to the legacy form, into a target with prior content `hat`. -/
def translateToLegacy (authToken : HardwareAuthToken) (hat : HwAuthToken) : HwAuthToken :=
  { hat with
    challenge := authToken.challenge
    user_id := authToken.userId
    authenticator_id := authToken.authenticatorId
    authenticator_type := htobe32 authToken.authenticatorType
    timestamp := htobe64 authToken.timestamp
    hmac := (copyMac authToken.mac hat.hmac).1 }

/-- `translate` from the legacy form to AIDL. The mac is inserted in front of what the
    target's mac holds. -/
def translateToAidl (hat : HwAuthToken) (authToken : HardwareAuthToken) :
    HardwareAuthToken :=
  { challenge := hat.challenge
    userId := hat.user_id
    authenticatorId := hat.authenticator_id
    authenticatorType := htobe32 hat.authenticator_type
    timestamp := htobe64 hat.timestamp
    mac := hat.hmac.toList ++ authToken.mac }

/-- A `HardwareAuthToken` as its default constructor leaves it. -/
def HardwareAuthToken.default : HardwareAuthToken := ⟨0, 0, 0, 0, 0, []⟩

/-! ## Messages of the vendor module -/

/-- `fingerprint_msg_t`. Types without a case in `Session::notify` (such as
    `FINGERPRINT_RESET_LOCKOUT`) are `unknown`. -/
inductive Msg
  | FINGERPRINT_ERROR (error : BitVec 32)
  | FINGERPRINT_ACQUIRED (acquired_info : BitVec 32)
  | FINGERPRINT_TEMPLATE_ENROLLING (fid samples_remaining : BitVec 32)
  | FINGERPRINT_TEMPLATE_REMOVED (fid remaining_templates : BitVec 32)
  | FINGERPRINT_AUTHENTICATED (fid : BitVec 32) (hat : HwAuthToken)
  | FINGERPRINT_TEMPLATE_ENUMERATING (fid remaining_templates : BitVec 32)
  | FINGERPRINT_CHALLENGE_GENERATED (data : BitVec 64)
  | FINGERPRINT_CHALLENGE_REVOKED (data : BitVec 64)
  | FINGERPRINT_AUTHENTICATOR_ID_RETRIEVED (data : BitVec 64)
  | FINGERPRINT_AUTHENTICATOR_ID_INVALIDATED (data : BitVec 64)
  | unknown (type : BitVec 32)
deriving DecidableEq, Repr

/-! ## Callbacks of the session -/

/-- AIDL `AcquiredInfo` (backing type byte). -/
structure AcquiredInfo where
  ordinal : Byte
deriving DecidableEq, Repr

/-- AIDL `Error` (backing type byte). -/
structure Error where
  ordinal : Byte
deriving DecidableEq, Repr

namespace AcquiredInfo

def VENDOR : AcquiredInfo := ⟨7⟩

end AcquiredInfo

namespace Error

def UNABLE_TO_PROCESS : Error := ⟨2⟩
def CANCELED : Error := ⟨5⟩
def VENDOR : Error := ⟨7⟩

end Error

/-- The calls on `ISessionCallback`. -/
inductive Callback
  | onChallengeGenerated (challenge : BitVec 64)
  | onChallengeRevoked (challenge : BitVec 64)
  | onAuthenticatorIdRetrieved (authenticatorId : BitVec 64)
  | onAuthenticatorIdInvalidated (newAuthenticatorId : BitVec 64)
  | onAcquired (info : AcquiredInfo) (vendorCode : BitVec 32)
  | onError (error : Error) (vendorCode : BitVec 32)
  | onEnrollmentProgress (enrollmentId remaining : BitVec 32)
  | onAuthenticationSucceeded (enrollmentId : BitVec 32) (hat : HardwareAuthToken)
  | onAuthenticationFailed
  | onEnrollmentsEnumerated (enrollmentIds : List (BitVec 32))
  | onEnrollmentsRemoved (enrollmentIds : List (BitVec 32))
  | onLockoutTimed (durationMillis : Int)
  | onLockoutPermanent
  | onLockoutCleared
  | onSessionClosed
deriving DecidableEq, Repr

/-! ## Calls on the vendor module and the display -/

def COMMAND_NIT : BitVec 32 := 10
def PARAM_NIT_FOD : BitVec 32 := 1
def PARAM_NIT_NONE : BitVec 32 := 0
def COMMAND_FOD_PRESS_STATUS : BitVec 32 := 1
def COMMAND_FOD_PRESS_X : BitVec 32 := 2
def COMMAND_FOD_PRESS_Y : BitVec 32 := 3
def PARAM_FOD_PRESSED : BitVec 32 := 1
def PARAM_FOD_RELEASED : BitVec 32 := 0
def FINGERPRINT_ACQUIRED_VENDOR : BitVec 32 := 7

/-- The calls on `fingerprint_device_t`. `error` is what the function returned, where the
    engine reads it. `cancel` and `resetLockout` are functions of the module that the
    engine has no call for. -/
inductive DeviceCall
  | set_notify
  | setActiveGroup (userid : BitVec 32) (store_path : String) (error : BitVec 32)
  | generateChallenge
  | revokeChallenge (challenge : BitVec 64) (error : BitVec 32)
  | enroll (hat : HwAuthToken) (error : BitVec 32)
  | authenticate (operation_id : BitVec 64) (error : BitVec 32)
  | enumerate (error : BitVec 32)
  | remove (enrollmentIds : List (BitVec 32)) (count : BitVec 32)
  | getAuthenticatorId
  | invalidateAuthenticatorId
  | goodixExtCmd (cmd param : BitVec 32)
  | cancel (error : BitVec 32)
  | resetLockout (hat : HwAuthToken) (error : BitVec 32)
deriving DecidableEq, Repr

/-- The values of `local_hbm_value` the engine asks the display for. -/
inductive LocalHbm
  | LHBM_TARGET_BRIGHTNESS_OFF_FINGER_UP
  | LHBM_TARGET_BRIGHTNESS_WHITE_1000NIT
deriving DecidableEq, Repr

/-- A session object, by its place in the order of creation. It also stands for the
    callback object the session was created with. -/
abbrev SessionId := Nat

/-- What the service does to the outside: a call on a session's callback, a call through
    a device pointer, an `MI_DISP_IOCTL_SET_LOCAL_HBM` request on a file descriptor. -/
inductive Output
  | callback (cb : SessionId) (call : Callback)
  | device (dev : Nat) (call : DeviceCall)
  | display (fd : Int) (local_hbm_value : LocalHbm)
deriving DecidableEq, Repr

/-- The session an output goes to. -/
def Output.recipient : Output → Option SessionId
  | .callback cb _ => some cb
  | _ => none

end FingerprintHal
