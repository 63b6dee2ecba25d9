/-
  What the service makes of memory it does not initialise.

  Two services are made over different memory, with the same vendor module, and fed the
  same events. They put out the same exactly when the memory agrees on all that is looked
  at (`deterministic_iff`): the device pointer, the closed flag of every session object,
  the mode of the tracker, the start of a timed lockout, and the flags of the timer.

  That this is enough is Boot/Alike.lean. That it is needed is shown with the games of
  Boot/Play.lean: the same events are put to both services until the difference is heard.
  A pointer-down task tells the mode and the start, a timer that can or cannot expire tells
  the started flag, what it says tells the aborted flag, and a second session can be
  created exactly when the first one was born closed.
-/
import FingerprintHal.Boot.Alike
import FingerprintHal.Boot.Play

namespace FingerprintHal

open Lib

/-! ## The condition -/

/-- The lockout part of an engine made over `mem`. -/
def Memory.lockout (mem : Memory) : LockoutControl where
  isLockoutTimerSupported := true
  isLockoutTimerStarted := mem.isLockoutTimerStarted
  isLockoutTimerAborted := mem.isLockoutTimerAborted
  mLockoutTracker := ⟨0, mem.mLockoutTimedStart, mem.mCurrentMode⟩
  timers := []

/-- Some session object made over `mem` is born open. -/
def Memory.Live (mem : Memory) : Prop := ∃ s, mem.mIsClosed s = false

/-- Neither in a timed nor in a permanent lockout. -/
def Memory.Unlocked (mem : Memory) : Prop :=
  mem.mCurrentMode ≠ .kTimed ∧ mem.mCurrentMode ≠ .kPermanent

/-- The memory agrees on all that is looked at. Where no session can be open, a failed
    match never gets to the engine, and less is looked at. -/
structure SameStart (U : Util) (m₁ m₂ : Memory) : Prop where
  device : m₁.mDevice = m₂.mDevice
  closed : ∀ s, m₁.mIsClosed s = m₂.mIsClosed s
  mode : m₁.mCurrentMode = m₂.mCurrentMode ∨ (¬ m₁.Live ∧ m₁.Unlocked ∧ m₂.Unlocked)
  start : m₁.mCurrentMode = .kTimed →
    U.StartsAlike m₁.mLockoutTimedStart m₂.mLockoutTimedStart
  started : m₁.Live ∨ m₁.mCurrentMode = .kTimed →
    m₁.isLockoutTimerStarted = m₂.isLockoutTimerStarted
  aborted : m₁.Live ∨ m₁.mCurrentMode = .kTimed → m₁.isLockoutTimerStarted = false →
    m₁.isLockoutTimerAborted = m₂.isLockoutTimerAborted

/-- The vendor module is opened, and takes the notify function. -/
structure HwModule.Opens (hw : HwModule) : Prop where
  found : hw.hw_get_module = 0 ∧ hw.hw_mdl = true
  opened : hw.openMethod = true ∧ hw.openError = 0
  version : hw.module_api_version = FINGERPRINT_MODULE_API_VERSION_2_1
  notified : hw.set_notify = 0

/-- Services made over `m₁` and `m₂` put out the same, from their constructor on. -/
def SameAnswers (U : Util) (hw : HwModule) (now : Int) (m₁ m₂ : Memory) : Prop :=
  (Fingerprint.boot m₁ hw now).2 = (Fingerprint.boot m₂ hw now).2 ∧
  ∀ es, (service U m₁).respond (Fingerprint.boot m₁ hw now).1 es =
    (service U m₂).respond (Fingerprint.boot m₂ hw now).1 es

/-! ## It is enough -/

theorem SameStart.alike {U : Util} {m₁ m₂ : Memory} (h : SameStart U m₁ m₂) :
    LockoutControl.Alike U m₁.Live m₁.lockout m₂.lockout where
  supported := rfl
  timers := rfl
  count := rfl
  mode := by
    rcases h.mode with hm | ⟨hl, h1, h2⟩
    · exact Or.inl hm
    · refine Or.inr ⟨hl, ?_, ?_⟩
      · rintro (hk | hp)
        · exact h1.1 hk
        · exact h1.2 hp
      · rintro (hk | hp)
        · exact h2.1 hk
        · exact h2.2 hp
  start := h.start
  flags hf := by
    have hf' : m₁.Live ∨ m₁.mCurrentMode = .kTimed := by
      rcases hf with hf | hf | hf
      · exact Or.inl hf
      · exact Or.inr hf
      · exact absurd rfl hf
    refine ⟨h.started hf', ?_⟩
    cases hst : m₁.isLockoutTimerStarted with
    | true => exact Or.inl ⟨hst, rfl⟩
    | false => exact Or.inr (h.aborted hf' hst)

/-- Memory that agrees on the device gives alike services. -/
theorem alike_boot {U : Util} {hw : HwModule} {now : Int} {m₁ m₂ : Memory}
    (h : SameStart U m₁ m₂) :
    (Fingerprint.boot m₁ hw now).2 = (Fingerprint.boot m₂ hw now).2 ∧
    AlikeServices U m₁.Live (Fingerprint.boot m₁ hw now).1 (Fingerprint.boot m₂ hw now).1 := by
  constructor
  · simp only [Fingerprint.boot, FingerprintEngine.new, h.device]
  · refine ⟨m₂.lockout, ?_, h.alike, fun _ x hx => by cases hx⟩
    simp only [Fingerprint.boot, FingerprintEngine.new, Fingerprint.withLockout,
      Memory.lockout, h.device]

/-- The condition is enough. -/
theorem sameAnswers_of_sameStart {U : Util} {hw : HwModule} {now : Int} {m₁ m₂ : Memory}
    (h : SameStart U m₁ m₂) : SameAnswers U hw now m₁ m₂ := by
  obtain ⟨ho, hs⟩ := @alike_boot U hw now _ _ h
  have hdead : ¬ m₁.Live → ∀ s, m₁.mIsClosed s = true := by
    intro hl s
    cases hc : m₁.mIsClosed s with
    | true => rfl
    | false => exact absurd ⟨s, hc⟩ hl
  exact ⟨ho, fun es => Machine.respond_eq (service_bisimulation h.closed hdead) es _ _ hs⟩

/-! ## It is needed -/

theorem waiting_boot (mem : Memory) (hw : HwModule) (now : Int) :
    Waiting 0 mem.lockout (Fingerprint.boot mem hw now).1 where
  made := rfl
  none_open := rfl
  idle := rfl
  lockout := rfl

/-- A device pointer that is not null is never opened, one that is null is. -/
theorem boot_outs {hw : HwModule} (hopen : hw.Opens) (mem : Memory) (now : Int) :
    (Fingerprint.boot mem hw now).2 =
      if mem.mDevice ≠ 0 then [] else [.device hw.device .set_notify] := by
  have h : FingerprintEngine.openFingerprintHal hw =
      (hw.device, [.device hw.device .set_notify]) := by
    simp [FingerprintEngine.openFingerprintHal, hopen.found, hopen.opened, hopen.version,
      hopen.notified]
  simp only [Fingerprint.boot, FingerprintEngine.new, h]
  split <;> rfl

section Needed

variable {U : Util} {hw : HwModule} {now : Int} {m₁ m₂ : Memory}

theorem SameAnswers.device (h : SameAnswers U hw now m₁ m₂) (hopen : hw.Opens) :
    m₁.mDevice = m₂.mDevice := by
  obtain ⟨ho, hs⟩ := h
  rw [boot_outs hopen, boot_outs hopen] at ho
  have hd := mDevice_of_indistinct (waiting_boot m₁ hw now) (waiting_boot m₂ hw now) hs
  by_cases h₁ : m₁.mDevice = 0
  · by_cases h₂ : m₂.mDevice = 0
    · rw [h₁, h₂]
    · simp [h₁, h₂] at ho
  · by_cases h₂ : m₂.mDevice = 0
    · simp [h₁, h₂] at ho
    · simpa only [Fingerprint.boot, FingerprintEngine.new, if_pos h₁, if_pos h₂] using hd

theorem SameAnswers.untold (h : SameAnswers U hw now m₁ m₂) (n : Nat) :
    Untold U m₁ m₂ n m₁.lockout m₂.lockout :=
  untold_of_indistinct (waiting_boot m₁ hw now) (waiting_boot m₂ hw now) h.2 n

theorem SameAnswers.mode (h : SameAnswers U hw now m₁ m₂) (hU : U.Lawful) :
    m₁.mCurrentMode = m₂.mCurrentMode ∨ (¬ m₁.Live ∧ m₁.Unlocked ∧ m₂.Unlocked) := by
  rcases (h.untold 0).mode hU with hm | ⟨h₁, h₂⟩
  · exact Or.inl hm
  · by_cases hl : m₁.Live
    · obtain ⟨n, hn⟩ := hl
      exact Or.inl ((h.untold n).unlocked hU hn ⟨rfl, h₁⟩ ⟨rfl, h₂⟩)
    · exact Or.inr ⟨hl, not_or.mp h₁, not_or.mp h₂⟩

theorem SameAnswers.kTimed (h : SameAnswers U hw now m₁ m₂) (hU : U.Lawful)
    (hk : m₁.mCurrentMode = .kTimed) : m₂.mCurrentMode = .kTimed := by
  rcases h.mode hU with hm | ⟨-, hu, -⟩
  · exact hm.symm.trans hk
  · exact absurd hk hu.1

theorem SameAnswers.flags (h : SameAnswers U hw now m₁ m₂) (hU : U.Lawful)
    (hf : m₁.Live ∨ m₁.mCurrentMode = .kTimed) :
    m₁.isLockoutTimerStarted = m₂.isLockoutTimerStarted ∧
      (m₁.isLockoutTimerStarted = false →
        m₁.isLockoutTimerAborted = m₂.isLockoutTimerAborted) := by
  rcases hf with ⟨n, hn⟩ | hk
  · exact (h.untold n).flags hU hn ⟨rfl, rfl⟩ ⟨rfl, rfl⟩
  · exact (h.untold 0).flags_of_kTimed hU ⟨rfl, rfl⟩ ⟨rfl, rfl⟩ hk (h.kTimed hU hk)

/-- The condition is needed. -/
theorem SameAnswers.sameStart (h : SameAnswers U hw now m₁ m₂) (hU : U.Lawful)
    (hopen : hw.Opens) : SameStart U m₁ m₂ where
  device := h.device hopen
  closed s := (h.untold s).born
  mode := h.mode hU
  start hk := (h.untold 0).startsAlike hU hk (h.kTimed hU hk)
  started hf := (h.flags hU hf).1
  aborted hf := (h.flags hU hf).2

end Needed

/-! ## The main result -/

/-- **Same answers, same start.** With a vendor module that opens, services made over `m₁`
    and `m₂` answer every list of events alike exactly when the memory agrees on all that is
    looked at. -/
theorem deterministic_iff {U : Util} (hU : U.Lawful) {hw : HwModule} (hopen : hw.Opens)
    (now : Int) (m₁ m₂ : Memory) : SameAnswers U hw now m₁ m₂ ↔ SameStart U m₁ m₂ :=
  ⟨fun h => h.sameStart hU hopen, sameAnswers_of_sameStart⟩

theorem HwModule.working_opens : HwModule.working.Opens where
  found := ⟨rfl, rfl⟩
  opened := ⟨rfl, rfl⟩
  version := rfl
  notified := rfl

/-- The start of a lockout that is none is not looked at. -/
theorem deterministic_iff_start :
    SameAnswers .millis .working 0 .zeroed { Memory.zeroed with mLockoutTimedStart := 77 } :=
  (deterministic_iff Util.millis_lawful HwModule.working_opens 0 _ _).mpr {
    device := rfl
    closed := fun _ => rfl
    mode := Or.inl rfl
    start := fun h => by cases h
    started := fun _ => rfl
    aborted := fun _ _ => rfl }

/-- A service whose session objects are born closed does not answer as one whose session
    objects are born open: the first match is dropped. -/
theorem born_closed_differs :
    ¬ SameAnswers .millis .working 0 .zeroed
      { Memory.zeroed with mIsClosed := fun _ => true } := by
  intro h
  have := h.2 [.createSession 0 10 0, matchAt 1]
  revert this
  decide +kernel

end FingerprintHal
