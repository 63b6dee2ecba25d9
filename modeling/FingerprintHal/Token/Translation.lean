/-
  Auth tokens in their two forms (Legacy2Aidl.h).

  The legacy form is a packed struct, so it is its bytes (`HwAuthToken.bytes`). The host
  keeps the low byte first; `translate` turns the bytes of the type and of the timestamp
  round on the way there and on the way back. Either way and back again leaves the token
  as it was (`translations_inverse`).
-/
import FingerprintHal.Lib.Bytes
import FingerprintHal.Model.Message

namespace FingerprintHal

open Lib

/-! ## Byte order -/

theorem htobe32_reverses : ReversesBytes 4 htobe32 := by
  intro x
  unfold htobe32
  show littleEndian (1 + (1 + (1 + 1))) _ = _
  rw [littleEndian_append _ _ rfl, littleEndian_append _ _ rfl, littleEndian_append _ _ rfl,
    littleEndian_byte, littleEndian_byte, littleEndian_byte, littleEndian_byte]
  rfl

theorem htobe64_reverses : ReversesBytes 8 htobe64 := by
  intro x
  unfold htobe64
  show littleEndian (4 + 4) _ = _
  rw [littleEndian_append _ _ rfl, htobe32_reverses, htobe32_reverses]
  unfold bigEndian
  rw [← List.reverse_append, ← littleEndian_add]

/-! ## The legacy form as bytes -/

/-- `hw_auth_token_t` in memory. -/
def HwAuthToken.bytes (hat : HwAuthToken) : List Byte :=
  hat.version :: (littleEndian 8 hat.challenge ++ littleEndian 8 hat.user_id ++
    littleEndian 8 hat.authenticator_id ++ littleEndian 4 hat.authenticator_type ++
    littleEndian 8 hat.timestamp ++ hat.hmac.toList)

theorem HwAuthToken.length_bytes (hat : HwAuthToken) : hat.bytes.length = 69 := by
  simp [HwAuthToken.bytes]

/-- Tokens with the same bytes are the same. -/
theorem HwAuthToken.bytes_injective {h k : HwAuthToken} (e : h.bytes = k.bytes) : h = k := by
  obtain ⟨hversion, e⟩ := List.cons.inj e
  obtain ⟨e, hhmac⟩ := List.append_inj' e (by simp)
  obtain ⟨e, htimestamp⟩ := List.append_inj' e (by simp)
  obtain ⟨e, htype⟩ := List.append_inj' e (by simp)
  obtain ⟨e, hauthenticator⟩ := List.append_inj' e (by simp)
  obtain ⟨hchallenge, huser⟩ := List.append_inj' e (by simp)
  cases h
  cases k
  simp only [HwAuthToken.mk.injEq]
  exact ⟨hversion, littleEndian_injective (by omega) hchallenge,
    littleEndian_injective (by omega) huser, littleEndian_injective (by omega) hauthenticator,
    littleEndian_injective (by omega) htype, littleEndian_injective (by omega) htimestamp,
    Vector.toList_inj.mp hhmac⟩

/-! ## The mac -/

/-- Byte `i` of `hmac` after the copy. -/
theorem getElem_copyMac (mac : List Byte) (hmac : Vector Byte 32) {i : Nat} (hi : i < 32) :
    (copyMac mac hmac).1[i] = mac.getD i hmac[i] := by
  simp [copyMac, Vector.get]

/-- A mac of 32 bytes is what `hmac` holds after the copy. -/
theorem toList_copyMac {mac : List Byte} (h : mac.length = 32) (hmac : Vector Byte 32) :
    (copyMac mac hmac).1.toList = mac := by
  apply List.ext_getElem
  · simp [h]
  · intro i h1 h2
    have hi : i < 32 := by omega
    rw [Vector.getElem_toList, getElem_copyMac mac hmac hi]
    simp [h2]

/-- And the other way round. -/
theorem copyMac_toList (hmac target : Vector Byte 32) :
    (copyMac hmac.toList target).1 = hmac := by
  apply Vector.toList_inj.mp
  exact toList_copyMac hmac.length_toList target

/-! ## There and back again -/

/-- The two legacy tokens say the same, the version apart. -/
structure SameToken (h k : HwAuthToken) : Prop where
  challenge : h.challenge = k.challenge
  user_id : h.user_id = k.user_id
  authenticator_id : h.authenticator_id = k.authenticator_id
  authenticator_type : h.authenticator_type = k.authenticator_type
  timestamp : h.timestamp = k.timestamp
  hmac : h.hmac = k.hmac

/-- To the legacy form and back, with a mac of 32 bytes. -/
theorem legacy_and_back {target t : HardwareAuthToken} (htarget : target.mac = [])
    (h : t.mac.length = 32) (hat : HwAuthToken) :
    translateToAidl (translateToLegacy t hat) target = t := by
  unfold translateToAidl translateToLegacy
  dsimp only
  rw [htobe32_reverses.involutive (by omega), htobe64_reverses.involutive (by omega),
    toList_copyMac h, htarget, List.append_nil]

/-- To AIDL and back. -/
theorem aidl_and_back {target : HardwareAuthToken} (htarget : target.mac = [])
    (t hat : HwAuthToken) : SameToken (translateToLegacy (translateToAidl t target) hat) t where
  challenge := rfl
  user_id := rfl
  authenticator_id := rfl
  authenticator_type := htobe32_reverses.involutive (by omega) t.authenticator_type
  timestamp := htobe64_reverses.involutive (by omega) t.timestamp
  hmac := by
    show (copyMac (t.hmac.toList ++ target.mac) hat.hmac).1 = t.hmac
    rw [htarget, List.append_nil]
    exact copyMac_toList t.hmac hat.hmac

/-- The legacy form in memory: the ids in host order, the type and the timestamp with the
    most significant byte first. -/
theorem bytes_translateToLegacy (t : HardwareAuthToken) (hat : HwAuthToken) :
    (translateToLegacy t hat).bytes =
      hat.version :: (littleEndian 8 t.challenge ++ littleEndian 8 t.userId ++
        littleEndian 8 t.authenticatorId ++ bigEndian 4 t.authenticatorType ++
        bigEndian 8 t.timestamp ++ (copyMac t.mac hat.hmac).1.toList) := by
  unfold HwAuthToken.bytes translateToLegacy
  dsimp only
  rw [htobe32_reverses, htobe64_reverses]

/-- **The translations undo each other.** An AIDL token with a mac of 32 bytes comes back
    from the legacy form as it was, and a legacy token from AIDL, whatever the targets hold
    apart from an empty mac; and in memory the type and the timestamp of the legacy form
    have their most significant byte first, the ids are in host order. -/
theorem translations_inverse {target : HardwareAuthToken} (htarget : target.mac = [])
    (hat : HwAuthToken) :
    (∀ t : HardwareAuthToken, t.mac.length = 32 →
      translateToAidl (translateToLegacy t hat) target = t) ∧
    (∀ t : HwAuthToken, SameToken (translateToLegacy (translateToAidl t target) hat) t) ∧
    (∀ t : HardwareAuthToken, (translateToLegacy t hat).bytes =
      hat.version :: (littleEndian 8 t.challenge ++ littleEndian 8 t.userId ++
        littleEndian 8 t.authenticatorId ++ bigEndian 4 t.authenticatorType ++
        bigEndian 8 t.timestamp ++ (copyMac t.mac hat.hmac).1.toList)) :=
  ⟨fun _ h => legacy_and_back htarget h hat, fun t => aidl_and_back htarget t hat,
    fun t => bytes_translateToLegacy t hat⟩

/-- A token of the type "all ones", with a negative timestamp. -/
def allOnes : HardwareAuthToken :=
  ⟨7, 8, 9, 0xFFFFFFFF, 0xFFFFFFFFFFFFFFFE, List.replicate 32 5⟩

/-- A target that held another token before. -/
def usedTarget : HwAuthToken := ⟨1, 2, 3, 4, 5, 6, Vector.replicate 32 7⟩

theorem translations_inverse_all_ones :
    translateToAidl (translateToLegacy allOnes usedTarget) .default = allOnes :=
  (translations_inverse rfl usedTarget).1 allOnes rfl

end FingerprintHal
