/-
  The sensor location in the configuration (`getSensorLocation`), as documented in
  fingerprint.sysprop: `<x>:<y>:<radius>`, after which the code takes the name of a display.

  The text is cut at every colon, so a display whose name has one makes more than four
  fields, and such a text is refused as a whole. Every other location is read as it was
  written, and what has no three numbers in front gives the default location
  (`sensor_location_reads`).

  Text is a list of characters. `Util::split` and `ParseInt` are library functions and not
  part of the repository.
-/
import FingerprintHal.Lib.Decimal

namespace FingerprintHal

open Lib

/-- AIDL `SensorLocation`, less the shape, which nobody sets. -/
structure SensorLocation where
  sensorLocationX : BitVec 32
  sensorLocationY : BitVec 32
  sensorRadius : BitVec 32
  display : List Char
deriving DecidableEq, Repr

/-- As its default constructor leaves it. -/
def SensorLocation.default : SensorLocation := ⟨0, 0, 0, []⟩

/-- The functions on text the code calls. -/
structure TextUtil where
  split : (str : List Char) → (sep : Char) → List (List Char)
  ParseInt : List Char → Option (BitVec 32)

/-- What the code relies on: `split` cuts at every separator, and `ParseInt` accepts the
    decimal integers in the range of an `int32_t`. -/
structure TextUtil.Lawful (T : TextUtil) : Prop where
  split : ∀ str sep, T.split str sep = str.splitOn sep
  parse : ∀ s x, T.ParseInt s = some x ↔ readInt s = some x.toInt

namespace FingerprintEngine

/-- `getSensorLocation`, with the value of `sensor_location` in `loc`. -/
def getSensorLocation (T : TextUtil) (loc : List Char) : SensorLocation :=
  let dim := T.split loc ':'
  if dim.length < 3 ∨ 4 < dim.length then .default
  else
    let d := if 4 ≤ dim.length then dim.getD 3 [] else []
    match T.ParseInt (dim.getD 0 []), T.ParseInt (dim.getD 1 []), T.ParseInt (dim.getD 2 []) with
    | some x, some y, some r => ⟨x, y, r, d⟩
    | _, _, _ => .default

end FingerprintEngine

open FingerprintEngine

/-- The text `x:y:r`. -/
def locationText (x y r : BitVec 32) : List Char :=
  printInt x.toInt ++ ':' :: (printInt y.toInt ++ ':' :: printInt r.toInt)

/-- The text `x:y:r:d`. -/
def locationOn (x y r : BitVec 32) (d : List Char) : List Char :=
  printInt x.toInt ++ ':' :: (printInt y.toInt ++ ':' :: (printInt r.toInt ++ ':' :: d))

/-- The text starts with three fields that are decimal integers of 32 bits. -/
def StartsWithNumbers (loc : List Char) : Prop :=
  ∃ (x y r : BitVec 32) (a b c : List Char) (rest : List (List Char)),
    loc.splitOn ':' = a :: b :: c :: rest ∧
    readInt a = some x.toInt ∧ readInt b = some y.toInt ∧ readInt c = some r.toInt

section

variable {T : TextUtil} {loc : List Char}

theorem colon_not_mem (x : BitVec 32) : ':' ∉ printInt x.toInt :=
  not_mem_printInt (by decide) (by decide) x.toInt

theorem parse_printInt (hT : T.Lawful) (x : BitVec 32) :
    T.ParseInt (printInt x.toInt) = some x :=
  (hT.parse _ x).mpr (readInt_printInt x.toInt)

theorem split_locationText (x y r : BitVec 32) :
    (locationText x y r).splitOn ':' =
      [printInt x.toInt, printInt y.toInt, printInt r.toInt] := by
  unfold locationText
  rw [List.splitOn_append_cons_self_of_not_mem (colon_not_mem x),
    List.splitOn_append_cons_self_of_not_mem (colon_not_mem y),
    List.splitOn_eq_singleton (colon_not_mem r)]

theorem split_locationOn (x y r : BitVec 32) (d : List Char) :
    (locationOn x y r d).splitOn ':' =
      printInt x.toInt :: printInt y.toInt :: printInt r.toInt :: d.splitOn ':' := by
  unfold locationOn
  rw [List.splitOn_append_cons_self_of_not_mem (colon_not_mem x),
    List.splitOn_append_cons_self_of_not_mem (colon_not_mem y),
    List.splitOn_append_cons_self_of_not_mem (colon_not_mem r)]

/-- A name with a colon makes more than one field. -/
theorem two_le_split {d : List Char} (h : ':' ∈ d) : 2 ≤ (d.splitOn ':').length := by
  obtain ⟨d₁, d₂, rfl⟩ := List.append_of_mem h
  have h₁ := List.length_pos_iff.mpr (List.splitOn_ne_nil ':' d₁)
  have h₂ := List.length_pos_iff.mpr (List.splitOn_ne_nil ':' d₂)
  rw [List.splitOn_append_cons_self, List.length_append]
  omega

/-- A location without a display. -/
theorem getSensorLocation_locationText (hT : T.Lawful) (x y r : BitVec 32) :
    getSensorLocation T (locationText x y r) = ⟨x, y, r, []⟩ := by
  unfold getSensorLocation
  rw [hT.split, split_locationText]
  simp [parse_printInt hT]

/-- A location on a display with a name that has no colon. -/
theorem getSensorLocation_locationOn (hT : T.Lawful) (x y r : BitVec 32) {d : List Char}
    (h : ':' ∉ d) : getSensorLocation T (locationOn x y r d) = ⟨x, y, r, d⟩ := by
  unfold getSensorLocation
  rw [hT.split, split_locationOn, List.splitOn_eq_singleton h]
  simp [parse_printInt hT]

/-- A location on a display with a name that has one. -/
theorem getSensorLocation_colon (hT : T.Lawful) (x y r : BitVec 32) {d : List Char}
    (h : ':' ∈ d) : getSensorLocation T (locationOn x y r d) = .default := by
  have hlen := two_le_split h
  unfold getSensorLocation
  rw [hT.split, split_locationOn]
  refine if_pos (Or.inr ?_)
  simp only [List.length_cons]
  omega

/-- A location that is not the default one comes from three numbers. -/
theorem startsWithNumbers_of_ne (hT : T.Lawful) (h : getSensorLocation T loc ≠ .default) :
    StartsWithNumbers loc := by
  unfold getSensorLocation at h
  rw [hT.split] at h
  dsimp only at h
  split at h
  · exact absurd rfl h
  · next hlen =>
      split at h
      · next x y r hx hy hr =>
          match hs : loc.splitOn ':' with
          | [] => simp [hs] at hlen
          | [_] => simp [hs] at hlen
          | [_, _] => simp [hs] at hlen
          | a :: b :: c :: rest =>
              rw [hs] at hx hy hr
              exact ⟨x, y, r, a, b, c, rest, hs, (hT.parse a x).mp hx, (hT.parse b y).mp hy,
                (hT.parse c r).mp hr⟩
      · exact absurd rfl h

end

/-- **What is read from the configuration.** `x:y:r:d` with a name without a colon, and
    `x:y:r`, are read as they were written; a name with a colon, and whatever does not
    start with three numbers, gives the default location. -/
theorem sensor_location_reads {T : TextUtil} (hT : T.Lawful) :
    (∀ x y r d, d ≠ [] → ':' ∉ d → getSensorLocation T (locationOn x y r d) = ⟨x, y, r, d⟩) ∧
    (∀ x y r d, ':' ∈ d → getSensorLocation T (locationOn x y r d) = .default) ∧
    (∀ x y r, getSensorLocation T (locationText x y r) = ⟨x, y, r, []⟩) ∧
    (∀ loc, ¬ StartsWithNumbers loc → getSensorLocation T loc = .default) :=
  ⟨fun x y r _ _ h => getSensorLocation_locationOn hT x y r h,
    fun x y r _ h => getSensorLocation_colon hT x y r h,
    fun x y r => getSensorLocation_locationText hT x y r,
    fun _ h => Decidable.byContradiction fun hne => h (startsWithNumbers_of_ne hT hne)⟩

/-- The two functions as they are documented. -/
def TextUtil.decimal : TextUtil where
  split str sep := str.splitOn sep
  ParseInt s := (readInt s).bind fun n =>
    if -2147483648 ≤ n ∧ n < 2147483648 then some (BitVec.ofInt 32 n) else none

theorem TextUtil.decimal_lawful : TextUtil.decimal.Lawful where
  split _ _ := rfl
  parse s x := by
    have hlt := x.toInt_lt
    have hle := x.le_toInt
    constructor
    · intro h
      obtain ⟨n, hn, hx⟩ := Option.bind_eq_some_iff.mp h
      split at hx
      · next hrange =>
          cases hx
          rw [hn, BitVec.toInt_ofInt, Int.bmod_eq_of_le_mul_two (by omega) (by omega)]
      · cases hx
    · intro h
      show (readInt s).bind _ = some x
      rw [h, Option.bind_some, if_pos (by omega), BitVec.ofInt_toInt]

theorem sensor_location_reads_display :
    getSensorLocation .decimal (locationOn 720 2532 128 "display0".toList) =
      ⟨720, 2532, 128, "display0".toList⟩ :=
  (sensor_location_reads TextUtil.decimal_lawful).1 720 2532 128 _ (by decide) (by decide)

/-- The first physical display of the system. -/
theorem physical_display_refused :
    getSensorLocation .decimal (locationOn 720 2532 128 "local:0".toList) = .default ∧
    getSensorLocation .decimal (locationOn 720 2532 128 "local:0".toList) ≠
      ⟨720, 2532, 128, "local:0".toList⟩ :=
  ⟨by decide +kernel, by decide +kernel⟩

end FingerprintHal
