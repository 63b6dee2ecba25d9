/-
  Events that commute.

  Two events commute when a machine cannot tell in which order they come: the same can
  happen after both, and the same was put out. Two parties whose events commute can be
  interleaved in any way (`result_interleave`): what counts is the order of the events of
  each of them among all that is not of the other. Events that use different parts of the
  state commute (`commutes_of_parts`).
-/
import FingerprintHal.Lib.Machine

namespace Lib

namespace Machine

universe u v w u' v'

variable {σ : Type u} {ε : Type v} {ο : Type w} (M : Machine σ ε ο)

/-- The state a list of events leads to and all that is put out, when they can all
    happen. -/
def result (s : σ) (es : List ε) : Option (σ × List ο) :=
  (M.exec s es).map fun r => (r.2, trace r.1)

/-- The order of the two events makes no difference. -/
def Commutes (a b : ε) : Prop := ∀ s, M.result s [a, b] = M.result s [b, a]

variable {M} {s s' : σ} {a b e : ε} {es fs : List ε} {o : List ο}

@[simp] theorem result_nil : M.result s [] = some (s, []) := rfl

/-- The first event, and the rest from where it leads. -/
theorem result_cons : M.result s (e :: es) =
    (M.step s e).bind fun r => (M.result r.1 es).map fun q => (q.1, r.2 ++ q.2) := by
  unfold result
  rw [exec]
  cases M.step s e with
  | none => rfl
  | some r =>
      simp only [Option.bind_some, Option.map_map]
      congr 1

/-- One event more. -/
theorem result_snoc : ∀ {es : List ε} {s s₁ s₂ : σ} {o₁ o₂ : List ο},
    M.result s es = some (s₁, o₁) → M.step s₁ e = some (s₂, o₂) →
    M.result s (es ++ [e]) = some (s₂, o₁ ++ o₂)
  | [], s, s₁, s₂, o₁, o₂, h, hs => by
      cases h
      rw [List.nil_append, result_cons, hs]
      simp
  | f :: es, s, s₁, s₂, o₁, o₂, h, hs => by
      rw [result_cons] at h
      obtain ⟨⟨m, o₀⟩, hm, h⟩ := Option.bind_eq_some_iff.mp h
      obtain ⟨⟨s₃, o₃⟩, h₃, he⟩ := Option.map_eq_some_iff.mp h
      obtain ⟨rfl, rfl⟩ := Prod.mk.inj he
      rw [List.cons_append, result_cons, hm, Option.bind_some, result_snoc h₃ hs]
      simp

theorem exec_events : ∀ {es : List ε} {s s' : σ} {ts : List (Transition σ ε ο)},
    M.exec s es = some (ts, s') → ts.map (·.event) = es
  | [], s, s', ts, h => by
      cases h
      rfl
  | e :: es, s, s', ts, h => by
      simp only [exec] at h
      split at h
      · cases h
      · obtain ⟨⟨us, s₂⟩, hr, he⟩ := Option.map_eq_some_iff.mp h
        cases he
        rw [List.map_cons, exec_events hr]

/-- Results are those of runs. -/
theorem result_eq_some_iff : M.result s es = some (s', o) ↔
    ∃ ts, M.Run s ts s' ∧ ts.map (·.event) = es ∧ trace ts = o := by
  constructor
  · intro h
    obtain ⟨⟨ts, s₁⟩, hexec, he⟩ := Option.map_eq_some_iff.mp h
    cases he
    exact ⟨ts, run_of_exec hexec, exec_events hexec, rfl⟩
  · rintro ⟨ts, hrun, rfl, rfl⟩
    induction hrun with
    | nil => rfl
    | snoc _ hstep ih =>
        rw [List.map_append, trace_append]
        simpa using result_snoc ih hstep

theorem result_single : M.result s [e] = M.step s e := by
  rw [result_cons]
  cases M.step s e with
  | none => rfl
  | some r => simp

theorem result_two : M.result s [a, b] =
    (M.step s a).bind fun r => (M.step r.1 b).map fun q => (q.1, r.2 ++ q.2) := by
  rw [result_cons]
  simp only [result_single]

/-- Two events in front of the rest. -/
theorem result_pair : M.result s (a :: b :: es) =
    (M.result s [a, b]).bind fun r => (M.result r.1 es).map fun q => (q.1, r.2 ++ q.2) := by
  rw [result_cons, result_two]
  cases M.step s a with
  | none => rfl
  | some r =>
      rw [Option.bind_some, Option.bind_some, result_cons]
      cases M.step r.1 b with
      | none => rfl
      | some q =>
          simp only [Option.bind_some, Option.map_some, Option.map_map]
          congr 1
          funext p
          simp

/-- Events that write parts of the state which have nothing in common, and do not look at
    the part the other one writes. One of them puts out nothing. -/
theorem commutes_of_parts {α : Type u'} {β : Type v'} {put₁ : α → σ → σ} {put₂ : β → σ → σ}
    (hput : ∀ x y s, put₁ x (put₂ y s) = put₂ y (put₁ x s))
    (ha : ∀ s s' o, M.step s a = some (s', o) → o = [] ∧ ∃ x, s' = put₁ x s)
    (ha₂ : ∀ y s, M.step (put₂ y s) a = (M.step s a).map fun r => (put₂ y r.1, r.2))
    (hb : ∀ s s' o, M.step s b = some (s', o) → ∃ y, s' = put₂ y s)
    (hb₁ : ∀ x s, M.step (put₁ x s) b = (M.step s b).map fun r => (put₁ x r.1, r.2)) :
    M.Commutes a b := by
  intro s
  rw [result_two, result_two]
  cases hsa : M.step s a with
  | none =>
      cases hsb : M.step s b with
      | none => rfl
      | some q =>
          obtain ⟨y, hy⟩ := hb s q.1 q.2 hsb
          simp only [Option.bind_none, Option.bind_some]
          rw [hy, ha₂, hsa]
          rfl
  | some r =>
      obtain ⟨ho, x, hx⟩ := ha s r.1 r.2 hsa
      cases hsb : M.step s b with
      | none =>
          simp only [Option.bind_none, Option.bind_some]
          rw [hx, hb₁, hsb]
          rfl
      | some q =>
          obtain ⟨y, hy⟩ := hb s q.1 q.2 hsb
          simp only [Option.bind_some]
          rw [hx, hb₁, hsb, hy, ha₂, hsa]
          simp only [Option.map_some, ho, List.nil_append, List.append_nil]
          rw [hx, hy, hput]

/-- Commuting events in front of the rest may be swapped. -/
theorem Commutes.swap (h : M.Commutes a b) :
    M.result s (a :: b :: es) = M.result s (b :: a :: es) := by
  rw [result_pair, result_pair (a := b), h]

/-- An event goes in front of those it commutes with. -/
theorem result_front : ∀ {fs : List ε} {s : σ}, (∀ b ∈ fs, M.Commutes e b) →
    M.result s (fs ++ e :: es) = M.result s (e :: (fs ++ es))
  | [], _, _ => rfl
  | b :: fs, s, h => by
      have hb := h b List.mem_cons_self
      rw [List.cons_append, result_cons]
      have hrest : ∀ s', M.result s' (fs ++ e :: es) = M.result s' (e :: (fs ++ es)) :=
        fun s' => result_front fun c hc => h c (List.mem_cons_of_mem _ hc)
      simp only [hrest]
      rw [← result_cons, List.cons_append]
      exact hb.swap.symm

/-- An event stands in `fs` where the filter shows it, behind events that are filtered
    out. Those it commutes with, and it goes in front of them. -/
theorem result_pull {p q : ε → Bool} (hcomm : ∀ b, q b = true → M.Commutes e b)
    (he : p e = true) (h : fs.filter (fun a => !q a) = e :: es) :
    ∃ gs, (∀ s, M.result s fs = M.result s (e :: gs)) ∧ gs.filter (fun a => !q a) = es ∧
      fs.filter (fun a => !p a) = gs.filter (fun a => !p a) := by
  obtain ⟨bs, cs, rfl, hbs, -, hcs⟩ := List.filter_eq_cons_iff.mp h
  have hq : ∀ b ∈ bs, q b = true := fun b hb => by simpa using hbs b hb
  refine ⟨bs ++ cs, fun s => result_front fun b hb => hcomm b (hq b hb), ?_, ?_⟩
  · rw [List.filter_append, hcs, List.filter_eq_nil_iff.mpr hbs, List.nil_append]
  · simp [he]

theorem Commutes.symm (h : M.Commutes a b) : M.Commutes b a := fun s => (h s).symm

/-- **Interleavings.** Let the events of `p` commute with those of `q`, and none be of
    both. Lists that agree in what is not of `p`, and in what is not of `q`, have the same
    result. -/
theorem result_interleave {p q : ε → Bool}
    (hcomm : ∀ a b, p a = true → q b = true → M.Commutes a b)
    (hone : ∀ a, p a = true → q a = false) : ∀ {es fs : List ε} {s : σ},
    es.filter (fun a => !p a) = fs.filter (fun a => !p a) →
    es.filter (fun a => !q a) = fs.filter (fun a => !q a) → M.result s es = M.result s fs
  | [], fs, s, hp, hq => by
      cases fs with
      | nil => rfl
      | cons f fs =>
          have h1 : p f = true := by
            simpa using List.filter_eq_nil_iff.mp hp.symm f List.mem_cons_self
          have h2 : q f = true := by
            simpa using List.filter_eq_nil_iff.mp hq.symm f List.mem_cons_self
          rw [hone f h1] at h2
          cases h2
  | e :: es, fs, s, hp, hq => by
      obtain ⟨gs, hgs, hp', hq'⟩ : ∃ gs, (∀ s, M.result s fs = M.result s (e :: gs)) ∧
          es.filter (fun a => !p a) = gs.filter (fun a => !p a) ∧
          es.filter (fun a => !q a) = gs.filter (fun a => !q a) := by
        cases he : p e with
        | true =>
            rw [List.filter_cons_of_pos (by simp [hone e he])] at hq
            rw [List.filter_cons_of_neg (by simp [he])] at hp
            obtain ⟨gs, hgs, h1, h2⟩ := result_pull (fun b hb => hcomm e b he hb) he hq.symm
            exact ⟨gs, hgs, hp.trans h2, h1.symm⟩
        | false =>
            rw [List.filter_cons_of_pos (by simp [he])] at hp
            cases hqe : q e with
            | true =>
                rw [List.filter_cons_of_neg (by simp [hqe])] at hq
                obtain ⟨gs, hgs, h1, h2⟩ :=
                  result_pull (fun b hb => (hcomm b e hb hqe).symm) hqe hp.symm
                exact ⟨gs, hgs, h1.symm, hq.trans h2⟩
            | false =>
                -- an event of neither comes first in both lists
                rw [List.filter_cons_of_pos (by simp [hqe])] at hq
                cases fs with
                | nil => cases hp
                | cons f fs =>
                    obtain rfl : e = f := by
                      cases hpf : p f with
                      | false =>
                          rw [List.filter_cons_of_pos (by simp [hpf])] at hp
                          exact (List.cons.inj hp).1
                      | true =>
                          rw [List.filter_cons_of_pos (by simp [hone f hpf])] at hq
                          exact (List.cons.inj hq).1
                    rw [List.filter_cons_of_pos (by simp [he])] at hp
                    rw [List.filter_cons_of_pos (by simp [hqe])] at hq
                    exact ⟨fs, fun _ => rfl, (List.cons.inj hp).2, (List.cons.inj hq).2⟩
      rw [hgs, result_cons, result_cons]
      have hrest : ∀ s', M.result s' es = M.result s' gs :=
        fun s' => result_interleave hcomm hone hp' hq'
      simp only [hrest]

end Machine

end Lib
