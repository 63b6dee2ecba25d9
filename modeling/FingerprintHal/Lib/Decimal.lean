/-
  Integers as decimal text: `printInt` writes a sign where it is needed and digits,
  `readInt` reads an optional sign and at least one digit, and nothing else. What is
  written is read back (`readInt_printInt`), and holds no character but digits and the
  minus sign (`not_mem_printInt`), so it can stand between separators.
-/

namespace Lib

/-- The number that digits stand for. -/
def readNat (s : List Char) : Option Nat :=
  if s ≠ [] ∧ s.all Char.isDigit = true then some (Nat.ofDigitChars 10 s 0) else none

/-- The integer that a text stands for. -/
def readInt : List Char → Option Int
  | '-' :: digits => (readNat digits).map fun (n : Nat) => -(n : Int)
  | '+' :: digits => (readNat digits).map fun (n : Nat) => (n : Int)
  | digits => (readNat digits).map fun (n : Nat) => (n : Int)

/-- The decimal text of an integer. -/
def printInt (x : Int) : List Char :=
  if x < 0 then '-' :: Nat.toDigits 10 x.natAbs else Nat.toDigits 10 x.natAbs

theorem isDigit_toDigits {c : Char} {n : Nat} (h : c ∈ Nat.toDigits 10 n) :
    c.isDigit = true := Nat.isDigit_of_mem_toDigits (by omega) (by omega) h

theorem readNat_toDigits (n : Nat) : readNat (Nat.toDigits 10 n) = some n := by
  have hdigits : (Nat.toDigits 10 n).all Char.isDigit = true :=
    List.all_eq_true.mpr fun _ hc => isDigit_toDigits hc
  unfold readNat
  rw [if_pos ⟨Nat.toDigits_ne_nil, hdigits⟩, Nat.ofDigitChars_ten_toDigits]

/-- Without a sign in front a text is read as its digits. -/
theorem readInt_unsigned {s : List Char} (h : s.all Char.isDigit = true) :
    readInt s = (readNat s).map fun (n : Nat) => (n : Int) := by
  unfold readInt
  split
  · simp at h
  · simp at h
  · rfl

/-- What is written is read back. -/
theorem readInt_printInt (x : Int) : readInt (printInt x) = some x := by
  unfold printInt
  split
  · next hneg =>
      have hx : -(x.natAbs : Int) = x := by omega
      show (readNat (Nat.toDigits 10 x.natAbs)).map (fun (n : Nat) => -(n : Int)) = some x
      rw [readNat_toDigits, Option.map_some, hx]
  · next hpos =>
      have hx : (x.natAbs : Int) = x := by omega
      have hdigits : (Nat.toDigits 10 x.natAbs).all Char.isDigit = true :=
        List.all_eq_true.mpr fun _ hc => isDigit_toDigits hc
      rw [readInt_unsigned hdigits, readNat_toDigits, Option.map_some, hx]

/-- What is neither a digit nor the minus sign is not in the text of an integer. -/
theorem not_mem_printInt {c : Char} (hdigit : c.isDigit = false) (hminus : c ≠ '-') (x : Int) :
    c ∉ printInt x := by
  have hdigits : c ∉ Nat.toDigits 10 x.natAbs := by
    intro h
    rw [isDigit_toDigits h] at hdigit
    cases hdigit
  unfold printInt
  split
  · exact List.not_mem_cons_of_ne_of_not_mem hminus hdigits
  · exact hdigits

end Lib
