/-
  LockoutTracker.cpp, with the clock made explicit.

  `Util` comes from the AIDL common library, which is not part of the repository.
  `Util::getSystemNanoTime` is a reading handed to the function that calls it;
  `Util::hasElapsed` is a parameter, and `Util.Lawful` says what the code relies on: it
  answers whether more than the given milliseconds have passed, exact up to the fraction
  of a millisecond that counting in whole milliseconds drops.

  `mFailedCount` is an `int32_t` and wraps; times are nanoseconds as `Int`.
-/

namespace FingerprintHal

/-- `Util::hasElapsed(start, durationMillis)` at the clock reading `now`. -/
structure Util where
  hasElapsed : (now start durationMillis : Int) → Bool

/-- What the code relies on in `Util::hasElapsed`. -/
structure Util.Lawful (U : Util) : Prop where
  elapsed : ∀ now start d, U.hasElapsed now start d = true → d * 1000000 < now - start
  pending : ∀ now start d, 0 ≤ d → U.hasElapsed now start d = false →
    now - start < (d + 1) * 1000000

/-- `Util::hasElapsed` as it counts on the device: whole milliseconds, and nothing has
    elapsed while the clock is behind `start`. -/
def Util.millis : Util where
  hasElapsed now start d := decide (start ≤ now ∧ d < (now - start) / 1000000)

theorem Util.millis_lawful : Util.millis.Lawful where
  elapsed now start d h := by
    simp only [millis, decide_eq_true_eq] at h
    omega
  pending now start d hd h := by
    simp only [millis, decide_eq_false_iff_not] at h
    omega

/-- The clock readings one handler may take, in the order it takes them: when a failed
    attempt is counted, when the mode is asked for, when the time left is computed. -/
structure Readings where
  atFailure : Int
  atMode : Int
  atTimeLeft : Int
  mode_after : atFailure ≤ atMode
  timeLeft_after : atMode ≤ atTimeLeft
deriving DecidableEq

/-- A handler that is over before the clock moves on. -/
def Readings.still (now : Int) : Readings := ⟨now, now, now, Int.le_refl _, Int.le_refl _⟩

def LOCKOUT_TIMED_THRESHOLD : Int := 5
def LOCKOUT_TIMED_DURATION : Int := 10000
def LOCKOUT_PERMANENT_THRESHOLD : Int := 20

/-- `LockoutMode`. `other` is any byte that is none of the three enumerators: only memory
    that was never written holds one, and no comparison of the code matches it. -/
inductive LockoutMode
  | kNone
  | kTimed
  | kPermanent
  | other
deriving DecidableEq, Repr

/-- `int32_t` arithmetic, wrapping around. -/
def int32 (x : Int) : Int := (x + 2147483648) % 4294967296 - 2147483648

theorem int32_of_lt {x : Int} (h0 : -2147483648 ≤ x) (h1 : x < 2147483648) : int32 x = x := by
  unfold int32
  omega

structure LockoutTracker where
  mFailedCount : Int
  mLockoutTimedStart : Int
  mCurrentMode : LockoutMode
deriving DecidableEq, Repr

namespace LockoutTracker

def reset (dueToTimeout : Bool) (t : LockoutTracker) : LockoutTracker :=
  { mFailedCount := if dueToTimeout then t.mFailedCount else 0
    mLockoutTimedStart := 0
    mCurrentMode := .kNone }

/-- `addFailedAttempt`; `now` is the clock reading it takes when it starts a lockout. -/
def addFailedAttempt (now : Int) (t : LockoutTracker) : LockoutTracker :=
  let count := int32 (t.mFailedCount + 1)
  if LOCKOUT_PERMANENT_THRESHOLD ≤ count then
    { t with mFailedCount := count, mCurrentMode := .kPermanent }
  else if LOCKOUT_TIMED_THRESHOLD ≤ count ∧ t.mCurrentMode = .kNone then
    { mFailedCount := count, mLockoutTimedStart := now, mCurrentMode := .kTimed }
  else { t with mFailedCount := count }

/-- `getMode`, a getter that ends a timed lockout whose time is over: the tracker it
    leaves, whose `mCurrentMode` is what it returns. -/
def getMode (U : Util) (now : Int) (t : LockoutTracker) : LockoutTracker :=
  if t.mCurrentMode = .kTimed ∧
      U.hasElapsed now t.mLockoutTimedStart LOCKOUT_TIMED_DURATION = true then
    { t with mCurrentMode := .kNone, mLockoutTimedStart := 0 }
  else t

/-- `getLockoutTimeLeft` at the clock reading `now`. Division truncates, as in C++. -/
def getLockoutTimeLeft (now : Int) (t : LockoutTracker) : Int :=
  if 0 < t.mLockoutTimedStart then
    LOCKOUT_TIMED_DURATION - (now - t.mLockoutTimedStart).tdiv 1000000
  else 0

/-! ## What each operation does to the three fields -/

section Fields

variable (U : Util) (now : Int) (b : Bool) (t : LockoutTracker)

@[simp] theorem reset_mode : (t.reset b).mCurrentMode = .kNone := rfl

@[simp] theorem addFailedAttempt_count :
    (t.addFailedAttempt now).mFailedCount = int32 (t.mFailedCount + 1) := by
  unfold addFailedAttempt
  dsimp only
  split
  · rfl
  · split <;> rfl

@[simp] theorem getMode_count : (t.getMode U now).mFailedCount = t.mFailedCount := by
  unfold getMode
  split <;> rfl

end Fields

/-- The mode after a failed attempt: permanent from the twentieth on, timed from the
    fifth on when there was no lockout, otherwise what it was. -/
theorem addFailedAttempt_mode (now : Int) (t : LockoutTracker) :
    (t.addFailedAttempt now).mCurrentMode =
      if LOCKOUT_PERMANENT_THRESHOLD ≤ int32 (t.mFailedCount + 1) then .kPermanent
      else if LOCKOUT_TIMED_THRESHOLD ≤ int32 (t.mFailedCount + 1) ∧ t.mCurrentMode = .kNone
      then .kTimed else t.mCurrentMode := by
  unfold addFailedAttempt
  dsimp only
  split
  · rfl
  · split <;> rfl

/-- A failed attempt keeps a permanent lockout. -/
theorem addFailedAttempt_kPermanent {now : Int} {t : LockoutTracker}
    (h : t.mCurrentMode = .kPermanent) :
    (t.addFailedAttempt now).mCurrentMode = .kPermanent := by
  rw [addFailedAttempt_mode]
  simp [h]

/-- A tracker that is in a timed lockout after a failed attempt was in it before, with
    the same start, or has just entered it. -/
theorem addFailedAttempt_kTimed {now : Int} {t : LockoutTracker}
    (h : (t.addFailedAttempt now).mCurrentMode = .kTimed) :
    (t.mCurrentMode = .kTimed ∧
      (t.addFailedAttempt now).mLockoutTimedStart = t.mLockoutTimedStart) ∨
    (t.mCurrentMode = .kNone ∧ (t.addFailedAttempt now).mLockoutTimedStart = now) := by
  unfold addFailedAttempt at h ⊢
  dsimp only at h ⊢
  split at h
  · cases h
  · split at h
    · next hn hc => right; simp [hn, hc]
    · next hn hc =>
        left
        rw [if_neg hn, if_neg hc]
        exact ⟨h, rfl⟩

/-- Such a tracker is short of the permanent threshold. -/
theorem addFailedAttempt_lt_permanent {now : Int} {t : LockoutTracker}
    (h : (t.addFailedAttempt now).mCurrentMode = .kTimed) :
    int32 (t.mFailedCount + 1) < LOCKOUT_PERMANENT_THRESHOLD := by
  rw [addFailedAttempt_mode] at h
  split at h
  · cases h
  · next hp => exact Int.not_le.mp hp

/-- A timed lockout is entered on its threshold. -/
theorem addFailedAttempt_enters_timed {now : Int} {t : LockoutTracker}
    (h : t.mCurrentMode = .kNone) (hk : (t.addFailedAttempt now).mCurrentMode = .kTimed) :
    LOCKOUT_TIMED_THRESHOLD ≤ int32 (t.mFailedCount + 1) := by
  rw [addFailedAttempt_mode, h] at hk
  split at hk
  · cases hk
  · split at hk
    · next hc => exact hc.1
    · cases hk

/-- And so is a permanent one. -/
theorem addFailedAttempt_enters_permanent {now : Int} {t : LockoutTracker}
    (h : t.mCurrentMode ≠ .kPermanent)
    (hk : (t.addFailedAttempt now).mCurrentMode = .kPermanent) :
    LOCKOUT_PERMANENT_THRESHOLD ≤ int32 (t.mFailedCount + 1) := by
  rw [addFailedAttempt_mode] at hk
  split at hk
  · next hc => exact hc
  · split at hk
    · cases hk
    · exact absurd hk h

/-- Where there is no lockout after a failed attempt, it has only been counted. -/
theorem addFailedAttempt_kNone {now : Int} {t : LockoutTracker}
    (h : (t.addFailedAttempt now).mCurrentMode = .kNone) :
    t.mCurrentMode = .kNone ∧
      (t.addFailedAttempt now).mLockoutTimedStart = t.mLockoutTimedStart := by
  unfold addFailedAttempt at h ⊢
  dsimp only at h ⊢
  split at h
  · cases h
  · next hp =>
      split at h
      · cases h
      · next ht =>
          rw [if_neg hp, if_neg ht]
          exact ⟨h, rfl⟩

/-- `getMode` changes nothing, or ends a timed lockout whose time is over. -/
theorem getMode_cases (U : Util) (now : Int) (t : LockoutTracker) :
    t.getMode U now = t ∨
    (t.mCurrentMode = .kTimed ∧
      U.hasElapsed now t.mLockoutTimedStart LOCKOUT_TIMED_DURATION = true ∧
      (t.getMode U now).mCurrentMode = .kNone) := by
  unfold getMode
  split
  · next h => exact Or.inr ⟨h.1, h.2, rfl⟩
  · exact Or.inl rfl

theorem getMode_kPermanent {U : Util} {now : Int} {t : LockoutTracker}
    (h : t.mCurrentMode = .kPermanent) : t.getMode U now = t := by
  unfold getMode
  simp [h]

/-- `getMode` leads to no lockout that was not there. -/
theorem getMode_eq_of_ne_kNone {U : Util} {now : Int} {t : LockoutTracker}
    (h : (t.getMode U now).mCurrentMode ≠ .kNone) : t.getMode U now = t := by
  rcases getMode_cases U now t with h' | ⟨-, -, h'⟩
  · exact h'
  · exact absurd h' h

end LockoutTracker

end FingerprintHal
