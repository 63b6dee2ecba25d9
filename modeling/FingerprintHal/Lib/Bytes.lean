/-
  The bytes of a bit vector.

  `littleEndian n x` are the first `n` bytes of `x`, the least significant one first: how a
  host that stores the low byte first lays `x` out. `bigEndian n x` is the other order. A
  bit vector of `8 * n` bits is determined by its `n` bytes (`littleEndian_injective`), so
  a function that turns the order of the bytes round (`ReversesBytes`) undoes itself.

  A bit vector that is narrowed and widened again with its sign comes back when the
  narrow type has its value (`signExtend_setWidth_iff`).
-/
import Mathlib.Algebra.Group.Int.Defs

namespace Lib

variable {u v w : Nat}

/-- The first `n` bytes of `x`, the least significant one first. -/
def littleEndian (n : Nat) (x : BitVec w) : List (BitVec 8) :=
  (List.range n).map fun i => x.extractLsb' (8 * i) 8

/-- The first `n` bytes of `x`, the most significant one first. -/
def bigEndian (n : Nat) (x : BitVec w) : List (BitVec 8) := (littleEndian n x).reverse

@[simp] theorem length_littleEndian (n : Nat) (x : BitVec w) : (littleEndian n x).length = n := by
  simp [littleEndian]

@[simp] theorem length_bigEndian (n : Nat) (x : BitVec w) : (bigEndian n x).length = n := by
  simp [bigEndian]

/-- A bit vector is determined by its bytes. -/
theorem littleEndian_injective {n : Nat} {x y : BitVec w} (hw : w ≤ 8 * n)
    (h : littleEndian n x = littleEndian n y) : x = y := by
  apply BitVec.eq_of_getLsbD_eq
  intro k hk
  have hbyte : x.extractLsb' (8 * (k / 8)) 8 = y.extractLsb' (8 * (k / 8)) 8 := by
    have hget := congrArg (fun l => l[k / 8]?) h
    have hlt : k / 8 < n := by omega
    simpa [littleEndian, hlt] using hget
  have hbit := congrArg (fun b => b.getLsbD (k % 8)) hbyte
  have hlt : k % 8 < 8 := Nat.mod_lt _ (by omega)
  simp only [BitVec.getLsbD_extractLsb', hlt, decide_true, Bool.true_and,
    Nat.div_add_mod] at hbit
  exact hbit

/-- And determines them, up to the last bit of them. -/
theorem littleEndian_congr {n : Nat} {x : BitVec u} {y : BitVec v}
    (h : ∀ k < 8 * n, x.getLsbD k = y.getLsbD k) : littleEndian n x = littleEndian n y := by
  apply List.map_congr_left
  intro i hi
  have hin := List.mem_range.mp hi
  apply BitVec.eq_of_getLsbD_eq
  intro k hk
  have hbit := h (8 * i + k) (by omega)
  simp [hk, hbit]

/-- The bytes of a bit vector are those of its low part and those of its high part. -/
theorem littleEndian_add (m n : Nat) (x : BitVec w) :
    littleEndian (n + m) x = littleEndian n (x.extractLsb' 0 (8 * n)) ++
      littleEndian m (x.extractLsb' (8 * n) (8 * m)) := by
  have hlow : littleEndian n x = littleEndian n (x.extractLsb' 0 (8 * n)) :=
    littleEndian_congr fun k hk => by simp [hk]
  rw [← hlow]
  unfold littleEndian
  rw [List.range_add, List.map_append, List.map_map]
  congr 1
  apply List.map_congr_left
  intro i hi
  have him := List.mem_range.mp hi
  apply BitVec.eq_of_getLsbD_eq
  intro k hk
  have hhigh : 8 * i + k < 8 * m := by omega
  have hadd : 8 * (n + i) + k = 8 * n + (8 * i + k) := by omega
  simp [hk, hhigh, hadd]

/-- The bytes of two bit vectors side by side: those of the low one come first. -/
theorem littleEndian_append {m n : Nat} (x : BitVec u) (y : BitVec v) (hv : v = 8 * n) :
    littleEndian (n + m) (x ++ y) = littleEndian n y ++ littleEndian m x := by
  subst hv
  rw [littleEndian_add]
  congr 1
  · exact littleEndian_congr fun k hk => by simp [BitVec.getLsbD_append, hk]
  · exact littleEndian_congr fun k hk => by simp [BitVec.getLsbD_append, hk]

/-- One byte. -/
theorem littleEndian_byte (b : BitVec 8) : littleEndian 1 b = [b] := by
  have h : b.extractLsb' (8 * 0) 8 = b := by
    apply BitVec.eq_of_getLsbD_eq
    intro k hk
    simp [hk]
  simp only [littleEndian, List.range_one, List.map_cons, List.map_nil, h]

/-- `f` turns the order of the `n` bytes round. -/
def ReversesBytes (n : Nat) (f : BitVec w → BitVec w) : Prop :=
  ∀ x, littleEndian n (f x) = bigEndian n x

/-- What turns the bytes round undoes itself. -/
theorem ReversesBytes.involutive {n : Nat} {f : BitVec w → BitVec w} (h : ReversesBytes n f)
    (hw : w ≤ 8 * n) (x : BitVec w) : f (f x) = x := by
  apply littleEndian_injective hw
  calc littleEndian n (f (f x))
      = (littleEndian n (f x)).reverse := h (f x)
    _ = (bigEndian n x).reverse := by rw [h x]
    _ = littleEndian n x := List.reverse_reverse _

/-! ## Narrowing -/

/-- Narrowed to `v` bits and widened again. -/
theorem signExtend_setWidth_iff (hv : 0 < v) (hle : v ≤ w) {x : BitVec w} :
    (x.setWidth v).signExtend w = x ↔ -2 ^ (v - 1) ≤ x.toInt ∧ x.toInt < 2 ^ (v - 1) := by
  have hnarrow : (x.setWidth v).toInt = x.toInt.bmod (2 ^ v) := by
    rw [BitVec.toInt_setWidth, BitVec.toInt_eq_toNat_bmod x,
      Int.bmod_bmod_of_dvd (Nat.pow_dvd_pow 2 hle)]
  rw [← BitVec.toInt_inj, BitVec.toInt_signExtend_of_le hle]
  constructor
  · intro h
    rw [← h]
    exact ⟨BitVec.le_toInt _, BitVec.toInt_lt⟩
  · intro h
    rw [hnarrow, ← Nat.two_pow_pred_mul_two hv]
    apply Int.bmod_eq_of_le_mul_two
    · push_cast
      omega
    · push_cast
      omega

end Lib
