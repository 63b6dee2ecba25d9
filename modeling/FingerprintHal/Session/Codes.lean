/-
  What becomes of the codes in a message.

  The vendor module and AIDL number the same conditions, each in its own way, and from a
  base on the numbers are the vendor's own. The conversions test for a number above the
  base, where the vendor's codes start at it, and otherwise cast the number as it is. For
  errors the two numberings agree, but for a lockout, whose number is that of a vendor
  error; those of an acquired image differ by one. So an acquired code keeps its meaning
  exactly when it is neither the base nor a standard code, and an error code when it is
  neither the base nor that of a lockout (`codes_keep_meaning_iff`).
-/
import FingerprintHal.Light.Illumination
import FingerprintHal.Session.Callbacks

namespace FingerprintHal

open Lib

/-! ## The numberings -/

namespace AcquiredInfo

def UNKNOWN : AcquiredInfo := ⟨0⟩
def GOOD : AcquiredInfo := ⟨1⟩
def PARTIAL : AcquiredInfo := ⟨2⟩
def INSUFFICIENT : AcquiredInfo := ⟨3⟩
def SENSOR_DIRTY : AcquiredInfo := ⟨4⟩
def TOO_SLOW : AcquiredInfo := ⟨5⟩
def TOO_FAST : AcquiredInfo := ⟨6⟩

end AcquiredInfo

namespace Error

def UNKNOWN : Error := ⟨0⟩
def HW_UNAVAILABLE : Error := ⟨1⟩
def TIMEOUT : Error := ⟨3⟩
def NO_SPACE : Error := ⟨4⟩
def UNABLE_TO_REMOVE : Error := ⟨6⟩

end Error

/-- The standard codes of `fingerprint_acquired_info`. -/
inductive FingerprintAcquiredInfo
  | FINGERPRINT_ACQUIRED_GOOD
  | FINGERPRINT_ACQUIRED_PARTIAL
  | FINGERPRINT_ACQUIRED_INSUFFICIENT
  | FINGERPRINT_ACQUIRED_IMAGER_DIRTY
  | FINGERPRINT_ACQUIRED_TOO_SLOW
  | FINGERPRINT_ACQUIRED_TOO_FAST
  | FINGERPRINT_ACQUIRED_DETECTED
deriving DecidableEq, Repr

namespace FingerprintAcquiredInfo

def code : FingerprintAcquiredInfo → BitVec 32
  | FINGERPRINT_ACQUIRED_GOOD => 0
  | FINGERPRINT_ACQUIRED_PARTIAL => 1
  | FINGERPRINT_ACQUIRED_INSUFFICIENT => 2
  | FINGERPRINT_ACQUIRED_IMAGER_DIRTY => 3
  | FINGERPRINT_ACQUIRED_TOO_SLOW => 4
  | FINGERPRINT_ACQUIRED_TOO_FAST => 5
  | FINGERPRINT_ACQUIRED_DETECTED => 6

/-- The AIDL constant of the same meaning; there is none for a finger that is detected. -/
def aidl : FingerprintAcquiredInfo → Option AcquiredInfo
  | FINGERPRINT_ACQUIRED_GOOD => some .GOOD
  | FINGERPRINT_ACQUIRED_PARTIAL => some .PARTIAL
  | FINGERPRINT_ACQUIRED_INSUFFICIENT => some .INSUFFICIENT
  | FINGERPRINT_ACQUIRED_IMAGER_DIRTY => some .SENSOR_DIRTY
  | FINGERPRINT_ACQUIRED_TOO_SLOW => some .TOO_SLOW
  | FINGERPRINT_ACQUIRED_TOO_FAST => some .TOO_FAST
  | FINGERPRINT_ACQUIRED_DETECTED => none

end FingerprintAcquiredInfo

/-- The standard codes of `fingerprint_error`. -/
inductive FingerprintError
  | FINGERPRINT_ERROR_HW_UNAVAILABLE
  | FINGERPRINT_ERROR_UNABLE_TO_PROCESS
  | FINGERPRINT_ERROR_TIMEOUT
  | FINGERPRINT_ERROR_NO_SPACE
  | FINGERPRINT_ERROR_CANCELED
  | FINGERPRINT_ERROR_UNABLE_TO_REMOVE
  | FINGERPRINT_ERROR_LOCKOUT
deriving DecidableEq, Repr

namespace FingerprintError

def code : FingerprintError → BitVec 32
  | FINGERPRINT_ERROR_HW_UNAVAILABLE => 1
  | FINGERPRINT_ERROR_UNABLE_TO_PROCESS => 2
  | FINGERPRINT_ERROR_TIMEOUT => 3
  | FINGERPRINT_ERROR_NO_SPACE => 4
  | FINGERPRINT_ERROR_CANCELED => 5
  | FINGERPRINT_ERROR_UNABLE_TO_REMOVE => 6
  | FINGERPRINT_ERROR_LOCKOUT => 7

/-- The AIDL constant of the same meaning; a lockout has callbacks of its own. -/
def aidl : FingerprintError → Option Error
  | FINGERPRINT_ERROR_HW_UNAVAILABLE => some .HW_UNAVAILABLE
  | FINGERPRINT_ERROR_UNABLE_TO_PROCESS => some .UNABLE_TO_PROCESS
  | FINGERPRINT_ERROR_TIMEOUT => some .TIMEOUT
  | FINGERPRINT_ERROR_NO_SPACE => some .NO_SPACE
  | FINGERPRINT_ERROR_CANCELED => some .CANCELED
  | FINGERPRINT_ERROR_UNABLE_TO_REMOVE => some .UNABLE_TO_REMOVE
  | FINGERPRINT_ERROR_LOCKOUT => none

end FingerprintError

/-! ## Codes that keep their meaning -/

section Meaning

variable {κ α : Type}

/-- `a` is the constant of the same meaning; where there is none, it is at least neither
    the unknown one nor the vendor's, nor that of another standard code. -/
def Expresses (aidl : κ → Option α) (unknown vendor : α) (k : κ) (a : α) : Prop :=
  match aidl k with
  | some b => a = b
  | none => a ≠ unknown ∧ a ≠ vendor ∧ ∀ k', aidl k' ≠ some a

/-- What a conversion makes of a code keeps its meaning. -/
structure KeepsCode (convert : BitVec 32 → α × BitVec 32) (base : BitVec 32)
    (code : κ → BitVec 32) (aidl : κ → Option α) (unknown vendor : α) (c : BitVec 32) :
    Prop where
  ofVendor : base.toInt ≤ c.toInt → convert c = (vendor, c - base)
  ofStandard : ∀ k, code k = c → Expresses aidl unknown vendor k (convert c).1

end Meaning

/-- After the calls `o` nothing says any more that there is a finger. -/
def Releases (o : List Output) : Prop :=
  ∀ i : Illumination, o.foldl Illumination.after i = .released

open FingerprintEngine in
/-- An acquired code that the session `s` is given keeps its meaning, and `o` is what has
    to follow from it. -/
structure AcquiredKept (s : SessionId) (c : BitVec 32) (o : List Output) : Prop where
  converted : KeepsCode convertAcquiredInfo FINGERPRINT_ACQUIRED_VENDOR_BASE
    FingerprintAcquiredInfo.code FingerprintAcquiredInfo.aidl .UNKNOWN .VENDOR c
  vendor : FINGERPRINT_ACQUIRED_VENDOR_BASE.toInt ≤ c.toInt →
    o.filterMap Output.spoken = [] ∧
      (Releases o ↔ c - FINGERPRINT_ACQUIRED_VENDOR_BASE = 44)
  standard : ∀ k : FingerprintAcquiredInfo, k.code = c → Releases o ∧
    ∃ v, o.filterMap Output.spoken = [(s, .onAcquired (convertAcquiredInfo c).1 v)]

open FingerprintEngine in
/-- And an error code. -/
structure ErrorKept (s : SessionId) (c : BitVec 32) (o : List Output) : Prop where
  converted : KeepsCode convertError FINGERPRINT_ERROR_VENDOR_BASE
    FingerprintError.code FingerprintError.aidl .UNKNOWN .VENDOR c
  told : o.filterMap Output.spoken = [(s, .onError (convertError c).1 (convertError c).2)]

/-- The code in a message, if there is one, keeps its meaning. -/
def CodeKept (s : SessionId) (msg : Msg) (o : List Output) : Prop :=
  match msg with
  | .FINGERPRINT_ACQUIRED acquired_info => AcquiredKept s acquired_info o
  | .FINGERPRINT_ERROR error => ErrorKept s error o
  | _ => True

/-- A code for which the conversions are right. -/
def Msg.Convertible : Msg → Prop
  | .FINGERPRINT_ACQUIRED acquired_info =>
      acquired_info ≠ FingerprintEngine.FINGERPRINT_ACQUIRED_VENDOR_BASE ∧
        ∀ k : FingerprintAcquiredInfo, k.code ≠ acquired_info
  | .FINGERPRINT_ERROR error =>
      error ≠ FingerprintEngine.FINGERPRINT_ERROR_VENDOR_BASE ∧
        error ≠ FingerprintError.FINGERPRINT_ERROR_LOCKOUT.code
  | _ => True

/-! ## The conversions -/

open FingerprintEngine

theorem convertAcquiredInfo_vendor {c : BitVec 32}
    (h : FINGERPRINT_ACQUIRED_VENDOR_BASE.toInt ≤ c.toInt)
    (hne : c ≠ FINGERPRINT_ACQUIRED_VENDOR_BASE) :
    convertAcquiredInfo c = (.VENDOR, c - FINGERPRINT_ACQUIRED_VENDOR_BASE) := by
  have hlt := Int.lt_iff_le_and_ne.mpr ⟨h, fun e => hne (BitVec.eq_of_toInt_eq e.symm)⟩
  exact if_pos hlt

theorem convertError_vendor {c : BitVec 32}
    (h : FINGERPRINT_ERROR_VENDOR_BASE.toInt ≤ c.toInt)
    (hne : c ≠ FINGERPRINT_ERROR_VENDOR_BASE) :
    convertError c = (.VENDOR, c - FINGERPRINT_ERROR_VENDOR_BASE) := by
  have hlt := Int.lt_iff_le_and_ne.mpr ⟨h, fun e => hne (BitVec.eq_of_toInt_eq e.symm)⟩
  exact if_pos hlt

/-- The base is taken for no code of the vendor. -/
theorem convertAcquiredInfo_base :
    (convertAcquiredInfo FINGERPRINT_ACQUIRED_VENDOR_BASE).1 ≠ .VENDOR := by decide

theorem convertError_base :
    (convertError FINGERPRINT_ERROR_VENDOR_BASE).1 ≠ .VENDOR := by decide

/-- Every standard code of an acquired image is given the constant of another one, or
    `UNKNOWN`. -/
theorem not_expresses_acquired (k : FingerprintAcquiredInfo) :
    ¬ Expresses FingerprintAcquiredInfo.aidl .UNKNOWN .VENDOR k
      (convertAcquiredInfo k.code).1 := by
  cases k with
  | FINGERPRINT_ACQUIRED_DETECTED =>
      intro h
      exact h.2.2 .FINGERPRINT_ACQUIRED_TOO_FAST rfl
  | _ =>
      show ¬ (_ : AcquiredInfo) = _
      decide

/-- A lockout is taken for a vendor error. -/
theorem not_expresses_lockout :
    ¬ Expresses FingerprintError.aidl .UNKNOWN .VENDOR .FINGERPRINT_ERROR_LOCKOUT
      (convertError FingerprintError.FINGERPRINT_ERROR_LOCKOUT.code).1 := by
  intro h
  exact h.2.1 rfl

/-- The other standard errors keep their number. -/
theorem expresses_error {k : FingerprintError} (h : k ≠ .FINGERPRINT_ERROR_LOCKOUT) :
    Expresses FingerprintError.aidl .UNKNOWN .VENDOR k (convertError k.code).1 := by
  cases k with
  | FINGERPRINT_ERROR_LOCKOUT => exact absurd rfl h
  | _ => rfl

/-! ## What follows from a code -/

section Notify

variable {U : Util} {s : SessionId} {clk : Readings} {w : Fingerprint} {c : BitVec 32}

/-- Of the vendor's codes only 44 lets go of the finger. -/
theorem releases_onAcquired_vendor (e : FingerprintEngine) (v : BitVec 32) :
    Releases (e.onAcquired FINGERPRINT_ACQUIRED_VENDOR v).2 ↔ v = 44 := by
  have hkeeps : ¬ Releases [] := fun h => absurd (h .pressed) (by decide)
  unfold onAcquired
  rw [if_neg (by decide)]
  by_cases hwaits : v = 20 ∨ v = 22
  · rw [if_pos hwaits]
    refine iff_of_false hkeeps fun h => ?_
    rw [h] at hwaits
    revert hwaits
    decide
  · rw [if_neg hwaits]
    by_cases hfailed : v = 44
    · rw [if_pos hfailed]
      exact iff_of_true (fun i => setFingerStatus_light e i false) hfailed
    · rw [if_neg hfailed]
      exact iff_of_false hkeeps hfailed

/-- An acquired code of the vendor is not handed on. -/
theorem notify_acquired_vendor {v : BitVec 32} (h : convertAcquiredInfo c = (.VENDOR, v)) :
    (Session.notify U s (.FINGERPRINT_ACQUIRED c) clk w).2 =
      (w.mEngine.onAcquired FINGERPRINT_ACQUIRED_VENDOR v).2 := by
  simp only [Session.notify, Fingerprint.withEngine, h]
  exact List.append_nil _

theorem acquiredKept_iff :
    AcquiredKept s c (Session.notify U s (.FINGERPRINT_ACQUIRED c) clk w).2 ↔
      c ≠ FINGERPRINT_ACQUIRED_VENDOR_BASE ∧ ∀ k : FingerprintAcquiredInfo, k.code ≠ c := by
  constructor
  · intro h
    constructor
    · rintro rfl
      exact convertAcquiredInfo_base
        (congrArg Prod.fst (h.converted.ofVendor (Int.le_refl _)))
    · rintro k rfl
      exact not_expresses_acquired k (h.converted.ofStandard k rfl)
  · rintro ⟨hbase, hstandard⟩
    refine ⟨⟨fun hle => convertAcquiredInfo_vendor hle hbase,
      fun k hk => absurd hk (hstandard k)⟩, fun hle => ?_, fun k hk => absurd hk (hstandard k)⟩
    rw [notify_acquired_vendor (convertAcquiredInfo_vendor hle hbase)]
    exact ⟨spoken_eq_nil fun cb c => onAcquired_no_callback _ cb c _ _,
      releases_onAcquired_vendor _ _⟩

theorem errorKept_iff :
    ErrorKept s c (Session.notify U s (.FINGERPRINT_ERROR c) clk w).2 ↔
      c ≠ FINGERPRINT_ERROR_VENDOR_BASE ∧
        c ≠ FingerprintError.FINGERPRINT_ERROR_LOCKOUT.code := by
  constructor
  · intro h
    constructor
    · rintro rfl
      exact convertError_base (congrArg Prod.fst (h.converted.ofVendor (Int.le_refl _)))
    · rintro rfl
      exact not_expresses_lockout (h.converted.ofStandard _ rfl)
  · rintro ⟨hbase, hlockout⟩
    refine ⟨⟨fun hle => convertError_vendor hle hbase, ?_⟩, rfl⟩
    rintro k rfl
    exact expresses_error fun hk => hlockout (by rw [hk])

end Notify

/-- **Which codes keep their meaning.** When a message is given to the open session `s`,
    in any state, the code in it keeps its meaning exactly when it is convertible: an
    acquired code that is neither the base nor a standard code, an error code that is
    neither the base nor that of a lockout. -/
theorem codes_keep_meaning_iff {U : Util} {mem : Memory} {w w' : Fingerprint} {msg : Msg}
    {clk : Readings} {o : List Output} {s : SessionId}
    (hstep : (service U mem).step w (.message msg clk) = some (w', o))
    (hs : w.openSession = some s) : CodeKept s msg o ↔ msg.Convertible := by
  rw [(message_given hstep hs).2]
  cases msg with
  | FINGERPRINT_ACQUIRED acquired_info => exact acquiredKept_iff
  | FINGERPRINT_ERROR error => exact errorKept_iff
  | _ => exact Iff.rfl

/-- A session has been created. -/
def sessionCreated : Fingerprint :=
  (service .millis .zeroed).final .ready [.createSession 0 10 0]

/-- What comes of a message then. -/
def codeOuts (msg : Msg) : List Output := (sessionCreated.notify .millis msg (.still 1)).2

theorem codes_keep_meaning_iff_scan_failed :
    CodeKept 0 (.FINGERPRINT_ACQUIRED 1044) (codeOuts (.FINGERPRINT_ACQUIRED 1044)) :=
  (@codes_keep_meaning_iff .millis .zeroed sessionCreated _ (.FINGERPRINT_ACQUIRED 1044)
    (.still 1) _ 0 rfl rfl).mpr ⟨by decide, fun k => by cases k <;> decide⟩

/-- A good image is taken for an unknown one, the first code of the vendor for a standard
    code, a lockout for an error of the vendor. -/
theorem codes_misread :
    ¬ CodeKept 0 (.FINGERPRINT_ACQUIRED 0) (codeOuts (.FINGERPRINT_ACQUIRED 0)) ∧
    ¬ CodeKept 0 (.FINGERPRINT_ACQUIRED 1000) (codeOuts (.FINGERPRINT_ACQUIRED 1000)) ∧
    ¬ CodeKept 0 (.FINGERPRINT_ERROR 1000) (codeOuts (.FINGERPRINT_ERROR 1000)) ∧
    ¬ CodeKept 0 (.FINGERPRINT_ERROR 7) (codeOuts (.FINGERPRINT_ERROR 7)) := by
  refine ⟨fun h => ?_, fun h => ?_, fun h => ?_, fun h => ?_⟩
  · exact not_expresses_acquired .FINGERPRINT_ACQUIRED_GOOD (h.converted.ofStandard _ rfl)
  · exact convertAcquiredInfo_base
      (congrArg Prod.fst (h.converted.ofVendor (Int.le_refl _)))
  · exact convertError_base (congrArg Prod.fst (h.converted.ofVendor (Int.le_refl _)))
  · exact not_expresses_lockout (h.converted.ofStandard _ rfl)

end FingerprintHal
