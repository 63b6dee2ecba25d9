/-
  Histories: what a list of steps says about the past, for invariants that relate a state
  to what has happened before it.

  `sinceLast p ts` are the steps after the last one that meets `p`; a step either empties
  it or is added at its end (`sinceLast_snoc`).

  `FifoLaw` is the law of a machine with a queue inside: what is in the queue before a
  step, followed by what the step puts in, is what the step takes out, followed by what is
  in the queue after it. The same holds over a run (`FifoLaw.run`), so the entry at place
  `n` is the one that is taken out as number `n` from now on (`FifoLaw.turn`), and moves up
  until then (`FifoLaw.waits`).

  `FreshLaw` is the law of a machine that numbers what it puts into the queue: a number is
  never given twice (`FreshLaw.run`), so it is never taken out twice either
  (`FreshLaw.nodup`), and what was numbered before is taken out, or still there
  (`FreshLaw.count`).
-/
import FingerprintHal.Lib.Machine

namespace Lib

universe u v w x

/-! ## Since the last time -/

section Since

variable {τ : Type u} (p q : τ → Bool) (ts : List τ) (t : τ)

/-- What comes after the last entry that meets `p`; all of it when none does. -/
def sinceLast : List τ := (ts.reverse.takeWhile fun t => !p t).reverse

@[simp] theorem sinceLast_nil : sinceLast p [] = [] := rfl

theorem sinceLast_snoc :
    sinceLast p (ts ++ [t]) = if p t = true then [] else sinceLast p ts ++ [t] := by
  unfold sinceLast
  rw [List.reverse_append, List.reverse_singleton, List.singleton_append]
  cases h : p t with
  | true => rw [List.takeWhile_cons_of_neg (by simp [h])]; rfl
  | false =>
      rw [List.takeWhile_cons_of_pos (by simp [h]), List.reverse_cons]
      rfl

theorem sinceLast_sublist : (sinceLast p ts).Sublist ts := by
  unfold sinceLast
  have h := (List.takeWhile_sublist (l := ts.reverse) fun t => !p t).reverse
  rwa [List.reverse_reverse] at h

/-- One more entry, in the count of those that meet `q`. -/
theorem countP_sinceLast_snoc :
    (sinceLast p (ts ++ [t])).countP q =
      if p t = true then 0 else (sinceLast p ts).countP q + if q t = true then 1 else 0 := by
  rw [sinceLast_snoc]
  split
  · rfl
  · rw [List.countP_append, List.countP_singleton]

end Since

/-! ## What some of the steps put out -/

/-- When each step that meets `c` puts out one `p` if it meets `q`, and none otherwise,
    these steps put out as many as there are steps that meet `q`. -/
theorem countP_trace_filter {σ : Type u} {ε : Type v} {ο : Type w} {p : ο → Bool}
    {c q : Transition σ ε ο → Bool} (hq : ∀ t, q t = true → c t = true) :
    ∀ {ts : List (Transition σ ε ο)},
      (∀ t ∈ ts, c t = true → t.outs.countP p = if q t = true then 1 else 0) →
      (trace (ts.filter c)).countP p = ts.countP q
  | [], _ => rfl
  | t :: ts, h => by
      have ih := countP_trace_filter hq fun u hu => h u (List.mem_cons_of_mem t hu)
      rw [List.countP_cons]
      by_cases hc : c t = true
      · rw [List.filter_cons_of_pos hc, trace_cons, List.countP_append, ih,
          h t List.mem_cons_self hc]
        omega
      · have hqt : ¬ q t = true := fun h => hc (hq t h)
        rw [List.filter_cons_of_neg hc, ih, if_neg hqt]
        rfl

/-! ## First in, first out -/

section Fifo

variable {σ : Type u} {ε : Type v} {ο : Type w} {α : Type x}

/-- What a step puts into the queue and takes out of it. -/
structure FifoLaw (M : Machine σ ε ο) (contents : σ → List α)
    (entered taken : Transition σ ε ο → Option α) : Prop where
  step : ∀ t, M.step t.pre t.event = some (t.post, t.outs) →
    contents t.pre ++ (entered t).toList = (taken t).toList ++ contents t.post

variable {M : Machine σ ε ο} {contents : σ → List α}
  {entered taken : Transition σ ε ο → Option α} {s₀ s : σ} {ts : List (Transition σ ε ο)}

theorem filterMap_snoc (f : Transition σ ε ο → Option α) (ts : List (Transition σ ε ο))
    (t : Transition σ ε ο) : (ts ++ [t]).filterMap f = ts.filterMap f ++ (f t).toList := by
  rw [List.filterMap_append]
  cases h : f t with
  | none => simp [h]
  | some a => simp [h]

/-- Nothing is lost, added or reordered over a run. -/
theorem FifoLaw.run (hM : FifoLaw M contents entered taken) (h : M.Run s₀ ts s) :
    contents s₀ ++ ts.filterMap entered = ts.filterMap taken ++ contents s := by
  induction h with
  | nil => simp
  | @snoc ts s e s' o _ hstep ih =>
      have hs := hM.step ⟨s, e, s', o⟩ hstep
      rw [filterMap_snoc, filterMap_snoc, ← List.append_assoc, ih, List.append_assoc, hs,
        List.append_assoc]

/-- The steps that take something out. -/
def takers (taken : Transition σ ε ο → Option α) (ts : List (Transition σ ε ο)) :
    List (Transition σ ε ο) :=
  ts.filter fun t => (taken t).isSome

/-- The steps from taker number `n` on. -/
def fromTaker (taken : Transition σ ε ο → Option α) :
    Nat → List (Transition σ ε ο) → List (Transition σ ε ο)
  | _, [] => []
  | n, t :: ts =>
      if (taken t).isSome then
        match n with
        | 0 => t :: ts
        | n + 1 => fromTaker taken n ts
      else fromTaker taken n ts

/-- They start with it. -/
theorem head?_fromTaker (taken : Transition σ ε ο → Option α) (n : Nat)
    (ts : List (Transition σ ε ο)) :
    (fromTaker taken n ts).head? = (takers taken ts)[n]? := by
  unfold takers
  induction ts generalizing n with
  | nil => rfl
  | cons t ts ih =>
      unfold fromTaker
      split
      · next h =>
          rw [List.filter_cons, if_pos h]
          cases n with
          | zero => rfl
          | succ n => exact ih n
      · next h =>
          rw [List.filter_cons, if_neg h]
          exact ih n

theorem fromTaker_suffix (taken : Transition σ ε ο → Option α) (n : Nat)
    (ts : List (Transition σ ε ο)) : fromTaker taken n ts <:+ ts := by
  induction ts generalizing n with
  | nil => exact List.suffix_rfl
  | cons t ts ih =>
      unfold fromTaker
      split
      · cases n with
        | zero => exact List.suffix_rfl
        | succ n => exact (ih n).trans (List.suffix_cons t ts)
      · exact (ih n).trans (List.suffix_cons t ts)

theorem length_takers (taken : Transition σ ε ο → Option α) (ts : List (Transition σ ε ο)) :
    (takers taken ts).length = (ts.filterMap taken).length := by
  unfold takers
  rw [List.length_filterMap_eq_countP, List.countP_eq_length_filter]

/-- What is taken out as number `n` is taken out by taker number `n`. -/
theorem getElem?_takers (taken : Transition σ ε ο → Option α)
    (ts : List (Transition σ ε ο)) (n : Nat) :
    (ts.filterMap taken)[n]? = ((takers taken ts)[n]?).bind taken := by
  unfold takers
  induction ts generalizing n with
  | nil => rfl
  | cons t ts ih =>
      cases h : taken t with
      | none =>
          rw [List.filterMap_cons_none h, List.filter_cons_of_neg (by simp [h])]
          exact ih n
      | some a =>
          rw [List.filterMap_cons_some h, List.filter_cons_of_pos (by simp [h])]
          cases n with
          | zero => exact h.symm
          | succ n => exact ih n

/-- An entry at place `n` is taken out by taker number `n`, once the queue is empty. -/
theorem FifoLaw.turn (hM : FifoLaw M contents entered taken) (h : M.Run s₀ ts s)
    (hs : contents s = []) {n : Nat} {a : α} (hn : (contents s₀)[n]? = some a) :
    ∃ t, (takers taken ts)[n]? = some t ∧ taken t = some a := by
  have hrun := hM.run h
  rw [hs, List.append_nil] at hrun
  have hlt : n < (contents s₀).length := (List.getElem?_eq_some_iff.mp hn).1
  have ht : (ts.filterMap taken)[n]? = some a := by
    rw [← hrun, List.getElem?_append_left hlt]
    exact hn
  rw [getElem?_takers] at ht
  exact Option.bind_eq_some_iff.mp ht

/-- What taker number `n` takes out is the entry at place `n`, whatever is still there. -/
theorem FifoLaw.at_turn (hM : FifoLaw M contents entered taken) (h : M.Run s₀ ts s) {n : Nat}
    {a : α} {t : Transition σ ε ο} (hn : (contents s₀)[n]? = some a)
    (ht : (takers taken ts)[n]? = some t) : taken t = some a := by
  have hget : (ts.filterMap taken)[n]? = taken t := by rw [getElem?_takers, ht]; rfl
  obtain ⟨b, hb⟩ := Option.isSome_iff_exists.mp
    (List.mem_filter.mp (List.mem_of_getElem? ht)).2
  rw [hb] at hget ⊢
  have hleft := (List.getElem?_eq_some_iff.mp hn).1
  have hright := (List.getElem?_eq_some_iff.mp hget).1
  have hrun := congrArg (fun l => l[n]?) (hM.run h)
  rw [List.getElem?_append_left hleft, List.getElem?_append_left hright, hn, hget] at hrun
  exact hrun.symm

/-- Before its turn an entry moves up by one place for each that is taken out. -/
theorem FifoLaw.waits (hM : FifoLaw M contents entered taken) (h : M.Run s₀ ts s) {n : Nat}
    {a : α} (hn : (contents s₀)[n]? = some a) (hle : (takers taken ts).length ≤ n) :
    (contents s)[n - (takers taken ts).length]? = some a := by
  have hleft := (List.getElem?_eq_some_iff.mp hn).1
  have hrun := congrArg (fun l => l[n]?) (hM.run h)
  rw [length_takers] at hle ⊢
  rwa [List.getElem?_append_left hleft, List.getElem?_append_right hle, hn, eq_comm] at hrun

end Fifo

/-! ## Fresh numbers -/

section Fresh

variable {σ : Type u} {ε : Type v} {ο : Type w}

/-- The numbers that enter are given in turn: `next` is the one that comes next. -/
structure FreshLaw (M : Machine σ ε ο) (next : σ → Nat)
    (entered : Transition σ ε ο → Option Nat) : Prop where
  mono : ∀ t : Transition σ ε ο, M.step t.pre t.event = some (t.post, t.outs) →
    next t.pre ≤ next t.post
  fresh : ∀ t : Transition σ ε ο, M.step t.pre t.event = some (t.post, t.outs) → ∀ n ∈ entered t,
    n = next t.pre ∧ next t.pre < next t.post

variable {M : Machine σ ε ο} {next : σ → Nat} {contents : σ → List Nat}
  {entered taken : Transition σ ε ο → Option Nat} {s₀ s : σ} {ts : List (Transition σ ε ο)}

/-- The numbers given over a run. -/
theorem FreshLaw.run (hF : FreshLaw M next entered) (h : M.Run s₀ ts s) :
    next s₀ ≤ next s ∧ (∀ n ∈ ts.filterMap entered, next s₀ ≤ n ∧ n < next s) ∧
      (ts.filterMap entered).Nodup := by
  induction h with
  | nil => exact ⟨Nat.le_refl _, by simp, List.nodup_nil⟩
  | @snoc ts s e s' o _ hstep ih =>
      obtain ⟨hle, hbound, hnodup⟩ := ih
      have hmono : next s ≤ next s' := hF.mono ⟨s, e, s', o⟩ hstep
      have hold : ∀ n ∈ ts.filterMap entered, next s₀ ≤ n ∧ n < next s' := fun n hn =>
        ⟨(hbound n hn).1, Nat.lt_of_lt_of_le (hbound n hn).2 hmono⟩
      rw [filterMap_snoc]
      cases hentered : entered ⟨s, e, s', o⟩ with
      | none =>
          rw [Option.toList_none, List.append_nil]
          exact ⟨Nat.le_trans hle hmono, hold, hnodup⟩
      | some m =>
          obtain ⟨rfl, hlt⟩ := hF.fresh ⟨s, e, s', o⟩ hstep m hentered
          rw [Option.toList_some]
          refine ⟨Nat.le_trans hle hmono, fun n hn => ?_, ?_⟩
          · rcases List.mem_append.mp hn with hn | hn
            · exact hold n hn
            · rw [List.mem_singleton.mp hn]
              exact ⟨hle, hlt⟩
          · refine List.nodup_append.mpr ⟨hnodup, by simp, fun a ha b hb => ?_⟩
            have hlta := (hbound a ha).2
            have heq := List.mem_singleton.mp hb
            show a ≠ b
            rw [heq]
            exact Nat.ne_of_lt hlta

/-- From an empty queue, what is taken out and what is still there has no number twice. -/
theorem FreshLaw.nodup (hF : FreshLaw M next entered) (hM : FifoLaw M contents entered taken)
    (h : M.Run s₀ ts s) (h₀ : contents s₀ = []) :
    (ts.filterMap taken ++ contents s).Nodup := by
  rw [← hM.run h, h₀, List.nil_append]
  exact (hF.run h).2.2

/-- A number given before the run is taken out in it, or still there. -/
theorem FreshLaw.count (hF : FreshLaw M next entered) (hM : FifoLaw M contents entered taken)
    (h : M.Run s₀ ts s) {n : Nat} (hn : n < next s₀) :
    (contents s₀).count n = (ts.filterMap taken).count n + (contents s).count n := by
  have hnew : (ts.filterMap entered).count n = 0 := by
    rw [List.count_eq_zero]
    intro hmem
    have hge := ((hF.run h).2.1 n hmem).1
    omega
  have hcount := congrArg (List.count n) (hM.run h)
  rw [List.count_append, List.count_append, hnew] at hcount
  exact hcount

end Fresh

end Lib
