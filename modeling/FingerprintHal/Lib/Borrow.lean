/-
  Objects that owners keep alive, and raw pointers to them.

  A pointer does not keep its object alive, and a step that follows one touches the
  object. `BorrowLaw` is the law of a machine that borrows only what lives: what a step
  touches is owned or pointed at, and a pointer is taken to a living object only. Then
  nothing that is gone is ever touched, if a step that destroys an object leaves no
  pointer to it (`BorrowLaw.not_dangles`).

  Some events are the machine's own: they create and destroy nothing, and every pointer
  can be followed by them alone. When that is so too, there is no other way to be safe
  (`BorrowLaw.careful_iff`).
-/
import FingerprintHal.Lib.Machine

namespace Lib

universe u v w x

variable {σ : Type u} {ε : Type v} {ο : Type w} {α : Type x}

/-- The step touches an object that is gone. -/
def Dangles (alive : σ → α → Prop) (touched : Transition σ ε ο → α → Prop)
    (t : Transition σ ε ο) : Prop :=
  ∃ a, touched t a ∧ ¬ alive t.pre a

/-- Nothing points at what the step destroys. -/
def Careful (alive refers : σ → α → Prop) (t : Transition σ ε ο) : Prop :=
  ∀ a, alive t.pre a → ¬ alive t.post a → ¬ refers t.post a

/-- Only what lives is borrowed. -/
structure BorrowLaw (M : Machine σ ε ο) (inv : σ → Prop) (alive refers : σ → α → Prop)
    (touched : Transition σ ε ο → α → Prop) (own : ε → Prop) : Prop where
  keep : ∀ t : Transition σ ε ο, inv t.pre →
    M.step t.pre t.event = some (t.post, t.outs) → inv t.post
  touch : ∀ t : Transition σ ε ο, inv t.pre →
    M.step t.pre t.event = some (t.post, t.outs) → ∀ a, touched t a → alive t.pre a ∨ refers t.pre a
  borrow : ∀ t : Transition σ ε ο, inv t.pre →
    M.step t.pre t.event = some (t.post, t.outs) → ∀ a, refers t.post a → alive t.post a ∨ refers t.pre a
  stay : ∀ t : Transition σ ε ο, own t.event →
    M.step t.pre t.event = some (t.post, t.outs) → ∀ a, alive t.post a ↔ alive t.pre a
  follow : ∀ s a, inv s → refers s a →
    ∃ ts s', M.Run s ts s' ∧ (∀ t ∈ ts, own t.event) ∧ ∃ t ∈ ts, touched t a

namespace BorrowLaw

variable {M : Machine σ ε ο} {inv : σ → Prop} {alive refers : σ → α → Prop}
  {touched : Transition σ ε ο → α → Prop} {own : ε → Prop} {s₀ s : σ}
  {ts : List (Transition σ ε ο)}

/-- Every pointer is to a living object. -/
def Safe (inv : σ → Prop) (alive refers : σ → α → Prop) (s : σ) : Prop :=
  inv s ∧ ∀ a, refers s a → alive s a

theorem safe_step (hM : BorrowLaw M inv alive refers touched own) {t : Transition σ ε ο}
    (h : Safe inv alive refers t.pre)
    (hstep : M.step t.pre t.event = some (t.post, t.outs)) (hc : Careful alive refers t) :
    Safe inv alive refers t.post := by
  refine ⟨hM.keep t h.1 hstep, fun a ha => ?_⟩
  rcases hM.borrow t h.1 hstep a ha with hl | hr
  · exact hl
  · exact Classical.byContradiction fun hgone => hc a (h.2 a hr) hgone ha

theorem safe_run (hM : BorrowLaw M inv alive refers touched own) (hrun : M.Run s₀ ts s)
    (h₀ : Safe inv alive refers s₀) (hc : ∀ t ∈ ts, Careful alive refers t) :
    Safe inv alive refers s :=
  hrun.invariant (I := fun _ s => Safe inv alive refers s) (along_mem.mpr hc) h₀
    fun _ _ h hc hstep => hM.safe_step h hstep hc

/-- Safety: a run whose steps leave no pointer to what they destroy touches nothing that
    is gone. -/
theorem not_dangles (hM : BorrowLaw M inv alive refers touched own) (hrun : M.Run s₀ ts s)
    (h₀ : Safe inv alive refers s₀) (hc : ∀ t ∈ ts, Careful alive refers t) :
    ∀ t ∈ ts, ¬ Dangles alive touched t := by
  rintro t ht ⟨a, ha, hgone⟩
  obtain ⟨us, vs, rfl, hbefore, hstep, -⟩ := hrun.at_mem ht
  have hpre := hM.safe_run hbefore h₀ fun u hu => hc u (List.mem_append_left _ hu)
  rcases hM.touch t hpre.1 hstep a ha with hl | hr
  · exact hgone hl
  · exact hgone (hpre.2 a hr)

/-- The machine's own events destroy nothing. -/
theorem careful_of_own (hM : BorrowLaw M inv alive refers touched own)
    {t : Transition σ ε ο} (ht : own t.event)
    (hstep : M.step t.pre t.event = some (t.post, t.outs)) : Careful alive refers t :=
  fun a hl hgone => absurd ((hM.stay t ht hstep a).mpr hl) hgone

/-- Along a run of own events the same objects live. -/
theorem alive_run (hM : BorrowLaw M inv alive refers touched own) (hrun : M.Run s₀ ts s)
    (hown : ∀ t ∈ ts, own t.event) (a : α) : alive s a ↔ alive s₀ a := by
  induction hrun with
  | nil => exact Iff.rfl
  | @snoc ts s e s' o _ hstep ih =>
      have hlast : own e := hown ⟨s, e, s', o⟩ (List.mem_append_right _ List.mem_cons_self)
      rw [hM.stay ⟨s, e, s', o⟩ hlast hstep a]
      exact ih fun t ht => hown t (List.mem_append_left _ ht)

/-- A pointer to an object that is gone is followed some time. -/
theorem dangles_of_refers (hM : BorrowLaw M inv alive refers touched own) (hs : inv s) {a : α}
    (hr : refers s a) (hgone : ¬ alive s a) :
    ∃ us s', M.Run s us s' ∧ (∀ t ∈ us, own t.event) ∧
      ∃ t ∈ us, Dangles alive touched t := by
  obtain ⟨us, s', hus, hown, t, ht, ha⟩ := hM.follow s a hs hr
  refine ⟨us, s', hus, hown, t, ht, a, ha, ?_⟩
  obtain ⟨vs, ws, rfl, hbefore, -⟩ := hus.at_mem ht
  rw [hM.alive_run hbefore (fun u hu => hown u (List.mem_append_left _ hu)) a]
  exact hgone

/-- **Safety and its price.** The steps of a run leave no pointer to what they destroy
    exactly when nothing that is gone is touched by any part of the run and what the
    machine may do after it by itself. -/
theorem careful_iff (hM : BorrowLaw M inv alive refers touched own) (hrun : M.Run s₀ ts s)
    (h₀ : Safe inv alive refers s₀) :
    (∀ t ∈ ts, Careful alive refers t) ↔
      ∀ us vs m s', us <+: ts → M.Run s₀ us m → M.Run m vs s' → (∀ t ∈ vs, own t.event) →
        ∀ t ∈ us ++ vs, ¬ Dangles alive touched t := by
  constructor
  · intro hc us vs m s' hpre hus hvs hown
    obtain ⟨ws, rfl⟩ := hpre
    refine hM.not_dangles (hus.append hvs) h₀ fun t ht => ?_
    rcases List.mem_append.mp ht with ht | ht
    · exact hc t (List.mem_append_left _ ht)
    · exact hM.careful_of_own (hown t ht) (hvs.step_of_mem ht)
  · -- the pointer that is left would be followed after the careless step
    intro h t ht a _ hgone hr
    obtain ⟨us, ws, rfl, hbefore, hstep, -⟩ := hrun.at_mem ht
    have hinv : inv t.post := (hbefore.snoc hstep).state_invariant h₀.1
      fun m e m' o hm hs => hM.keep ⟨m, e, m', o⟩ hm hs
    obtain ⟨vs, s', hvs, hown, u, hu, hd⟩ := hM.dangles_of_refers hinv hr hgone
    refine h (us ++ [t]) vs t.post s' ⟨ws, by simp⟩ (hbefore.snoc hstep) hvs hown u ?_ hd
    exact List.mem_append_right _ hu

end BorrowLaw

end Lib
