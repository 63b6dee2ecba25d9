/-
  The token that `enroll` gives to the device.

  `enrollImpl` translates into a variable on the stack that nobody has written before.
  `translate` leaves its version alone, and of `hmac` what lies behind the mac; a mac that
  is too long is copied on behind `hmac`. So two runs that differ in the prior content of
  the variable give the device the same token, and write nothing out of bounds, exactly
  when that content agrees where the translation does not write and the mac fits
  (`token_determined_iff`).
-/
import Mathlib.Data.List.GetD
import FingerprintHal.Session.Steps
import FingerprintHal.Token.Translation

namespace FingerprintHal

open Lib

/-- The token of a call of the device's `enroll`. -/
def Output.enrolled : Output → Option HwAuthToken
  | .device _ (.enroll hat _) => some hat
  | _ => none

/-- An error for the session. -/
def Output.isErrorTo (s : SessionId) : Output → Bool
  | .callback cb (.onError _ _) => cb == s
  | _ => false

/-- What the copy of the mac writes behind `hmac`. -/
def overrun (hat : HardwareAuthToken) (stack : HwAuthToken) : List Byte :=
  (copyMac hat.mac stack.hmac).2

/-- The `enroll` has not reached the device, and the session is told of an error. -/
def Rejected (s : SessionId) (o : List Output) : Prop :=
  o.filterMap Output.enrolled = [] ∧ o.any (Output.isErrorTo s) = true

instance (s : SessionId) : DecidablePred (Rejected s) :=
  fun o => inferInstanceAs (Decidable
    (o.filterMap Output.enrolled = [] ∧ o.any (Output.isErrorTo s) = true))

/-- An `enroll` of `s` with the token `hat` has put out `o₁` with the prior content `st₁`
    of the variable and `o₂` with `st₂`: it is rejected, or the device is given the same
    bytes, and none is written out of bounds. -/
def TokenDetermined (s : SessionId) (hat : HardwareAuthToken) (st₁ st₂ : HwAuthToken)
    (o₁ o₂ : List Output) : Prop :=
  (Rejected s o₁ ∧ Rejected s o₂) ∨
    ((o₁.filterMap Output.enrolled).map HwAuthToken.bytes =
        (o₂.filterMap Output.enrolled).map HwAuthToken.bytes ∧
      overrun hat st₁ = [] ∧ overrun hat st₂ = [])

instance (s : SessionId) (hat : HardwareAuthToken) (st₁ st₂ : HwAuthToken)
    (o₁ o₂ : List Output) : Decidable (TokenDetermined s hat st₁ st₂ o₁ o₂) :=
  inferInstanceAs (Decidable ((Rejected s o₁ ∧ Rejected s o₂) ∨
    ((o₁.filterMap Output.enrolled).map HwAuthToken.bytes =
        (o₂.filterMap Output.enrolled).map HwAuthToken.bytes ∧
      overrun hat st₁ = [] ∧ overrun hat st₂ = [])))

/-- The two contents agree where a translation with a mac of `n` bytes does not write. -/
def AgreeBehind (n : Nat) (st₁ st₂ : HwAuthToken) : Prop :=
  st₁.version = st₂.version ∧ ∀ i : Fin 32, n ≤ i → st₁.hmac.get i = st₂.hmac.get i

instance (n : Nat) (st₁ st₂ : HwAuthToken) : Decidable (AgreeBehind n st₁ st₂) :=
  inferInstanceAs (Decidable (st₁.version = st₂.version ∧
    ∀ i : Fin 32, n ≤ i → st₁.hmac.get i = st₂.hmac.get i))

/-! ## The translation -/

/-- The copy of a mac into two targets. -/
theorem copyMac_eq_iff {mac : List Byte} {x y : Vector Byte 32} :
    (copyMac mac x).1 = (copyMac mac y).1 ↔
      ∀ i : Fin 32, mac.length ≤ i → x.get i = y.get i := by
  constructor
  · intro h i hi
    have hget : (copyMac mac x).1[i.val] = (copyMac mac y).1[i.val] := by rw [h]
    rw [getElem_copyMac mac x i.isLt, getElem_copyMac mac y i.isLt,
      List.getD_eq_default _ _ hi, List.getD_eq_default _ _ hi] at hget
    exact hget
  · intro h
    apply Vector.ext
    intro i hi
    rw [getElem_copyMac mac x hi, getElem_copyMac mac y hi]
    by_cases hlt : i < mac.length
    · simp [hlt]
    · have hle : mac.length ≤ i := Nat.le_of_not_lt hlt
      have hxy : x[i] = y[i] := h ⟨i, hi⟩ hle
      rw [List.getD_eq_default _ _ hle, List.getD_eq_default _ _ hle, hxy]

/-- The same token, translated into two targets. -/
theorem translateToLegacy_eq_iff {hat : HardwareAuthToken} {st₁ st₂ : HwAuthToken} :
    translateToLegacy hat st₁ = translateToLegacy hat st₂ ↔
      AgreeBehind hat.mac.length st₁ st₂ := by
  unfold AgreeBehind translateToLegacy
  rw [← copyMac_eq_iff]
  simp

/-- A mac that fits is not copied out of bounds. -/
theorem overrun_eq_nil {hat : HardwareAuthToken} {stack : HwAuthToken} :
    overrun hat stack = [] ↔ hat.mac.length ≤ 32 := List.drop_eq_nil_iff

/-! ## The step -/

section Step

variable {U : Util} {mem : Memory} {w w' : Fingerprint} {inp : TaskInputs} {s : SessionId}
  {hat : HardwareAuthToken} {k : Nat} {q : List Task} {o : List Output}

theorem step_enroll (hstep : (service U mem).step w (.work inp) = some (w', o))
    (hq : w.mWorker.items = ⟨s, .enroll hat k⟩ :: q) :
    o = w.unlessCancelled s k (w.mEngine.enrollImpl s hat inp.stack inp.error) := by
  obtain ⟨t, r, hi, he⟩ := step_work.mp hstep
  obtain ⟨rfl, -⟩ := List.cons.inj (hi.symm.trans hq)
  exact congrArg Prod.snd he

/-- A cancelled `enroll` is rejected. -/
theorem step_enroll_cancelled (hstep : (service U mem).step w (.work inp) = some (w', o))
    (hq : w.mWorker.items = ⟨s, .enroll hat k⟩ :: q) (hc : k ∈ w.cancelled) :
    Rejected s o := by
  rw [step_enroll hstep hq, unlessCancelled_of_mem hc]
  simp [Rejected, Output.enrolled, Output.isErrorTo]

theorem failed_enrolled (error : BitVec 32) :
    (FingerprintEngine.failed s error).filterMap Output.enrolled = [] := by
  unfold FingerprintEngine.failed
  split
  · rfl
  · rfl

/-- Another one gives the device its token. -/
theorem step_enroll_enrolled (hstep : (service U mem).step w (.work inp) = some (w', o))
    (hq : w.mWorker.items = ⟨s, .enroll hat k⟩ :: q) (hc : k ∉ w.cancelled) :
    o.filterMap Output.enrolled = [translateToLegacy hat inp.stack] := by
  rw [step_enroll hstep hq, unlessCancelled_of_not_mem hc, FingerprintEngine.enrollImpl]
  show translateToLegacy hat inp.stack ::
    (FingerprintEngine.failed s inp.error).filterMap Output.enrolled = _
  rw [failed_enrolled]

end Step

/-- **When the token is determined.** The worker runs an `enroll` from one state with two
    prior contents of the variable: it is rejected, or gives the device the same bytes and
    writes none out of bounds, exactly when it is cancelled by then, or the mac fits and
    the contents agree where the translation does not write. -/
theorem token_determined_iff {U : Util} {mem : Memory} {w w₁ w₂ : Fingerprint}
    {inp : TaskInputs} {stack : HwAuthToken} {s : SessionId} {hat : HardwareAuthToken}
    {k : Nat} {q : List Task} {o₁ o₂ : List Output}
    (h₁ : (service U mem).step w (.work inp) = some (w₁, o₁))
    (h₂ : (service U mem).step w (.work { inp with stack := stack }) = some (w₂, o₂))
    (hq : w.mWorker.items = ⟨s, .enroll hat k⟩ :: q) :
    TokenDetermined s hat inp.stack stack o₁ o₂ ↔
      k ∈ w.cancelled ∨
        (hat.mac.length ≤ 32 ∧ AgreeBehind hat.mac.length inp.stack stack) := by
  unfold TokenDetermined
  by_cases hc : k ∈ w.cancelled
  · have hr₁ := step_enroll_cancelled h₁ hq hc
    have hr₂ := step_enroll_cancelled h₂ hq hc
    exact iff_of_true (Or.inl ⟨hr₁, hr₂⟩) (Or.inl hc)
  · have he₁ := step_enroll_enrolled h₁ hq hc
    have he₂ := step_enroll_enrolled h₂ hq hc
    have hn : ¬ (Rejected s o₁ ∧ Rejected s o₂) := by
      intro h
      have hnil := h.1.1
      rw [he₁] at hnil
      cases hnil
    rw [he₁, he₂, overrun_eq_nil, overrun_eq_nil, and_self]
    simp only [hn, hc, false_or, List.map_cons, List.map_nil, List.cons.injEq, and_true]
    constructor
    · intro h
      exact ⟨h.2, translateToLegacy_eq_iff.mp (HwAuthToken.bytes_injective h.1)⟩
    · intro h
      exact ⟨congrArg HwAuthToken.bytes (translateToLegacy_eq_iff.mpr h.2), h.1⟩

/-! ## Three tokens -/

/-- A token with that mac. -/
def tokenWith (mac : List Byte) : HardwareAuthToken := ⟨1, 2, 3, 4, 5, mac⟩

/-- Its `enroll` waits for the worker. -/
def enrollWaits (mac : List Byte) : Fingerprint :=
  (service .millis .zeroed).final .ready
    [.createSession 0 10 0, .request 0 (.enroll (tokenWith mac))]

/-- What the task finds: the device accepts, and `stack` is in the variable. -/
def foundOn (stack : HwAuthToken) : TaskInputs := ⟨0, stack, true, .still 1⟩

/-- The worker has run it. -/
def enrolledOn (mac : List Byte) (stack : HwAuthToken) : Fingerprint × List Output :=
  (((enrollWaits mac).work .millis (foundOn stack)).getD (.ready, []))

/-- Another content of the variable, with the same version. -/
def sameVersion : HwAuthToken := ⟨0, 9, 9, 9, 9, 9, Vector.replicate 32 9⟩

/-- And one with another version. -/
def otherVersion : HwAuthToken := { HwAuthToken.zeroed with version := 1 }

theorem token_determined_iff_same_version :
    TokenDetermined 0 (tokenWith (List.replicate 32 7)) .zeroed sameVersion
      (enrolledOn (List.replicate 32 7) .zeroed).2
      (enrolledOn (List.replicate 32 7) sameVersion).2 :=
  (@token_determined_iff .millis .zeroed (enrollWaits (List.replicate 32 7)) _ _
    (foundOn .zeroed) sameVersion 0 (tokenWith (List.replicate 32 7)) 0 [] _ _
    rfl rfl rfl).mpr (Or.inr (by decide +kernel))

/-- A mac of 32 bytes with two versions in the variable, an empty mac with two contents of
    `hmac`, a mac of 33 bytes. -/
theorem token_not_determined :
    ¬ TokenDetermined 0 (tokenWith (List.replicate 32 7)) .zeroed otherVersion
      (enrolledOn (List.replicate 32 7) .zeroed).2
      (enrolledOn (List.replicate 32 7) otherVersion).2 ∧
    ¬ TokenDetermined 0 (tokenWith []) .zeroed sameVersion
      (enrolledOn [] .zeroed).2 (enrolledOn [] sameVersion).2 ∧
    ¬ TokenDetermined 0 (tokenWith (List.replicate 33 7)) .zeroed .zeroed
      (enrolledOn (List.replicate 33 7) .zeroed).2
      (enrolledOn (List.replicate 33 7) .zeroed).2 :=
  ⟨by decide +kernel, by decide +kernel, by decide +kernel⟩

end FingerprintHal
