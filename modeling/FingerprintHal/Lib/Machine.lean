/-
  Machines that answer events with outputs, their runs, and the rules the proofs use.

  A `Machine` is a partial step function: `step s e = none` says that the event `e`
  cannot happen in `s` (or that the program ends there). `M.Run s₀ ts s` is a finite
  run, kept as its list of `Transition`s, oldest first; `ts` is the history a property
  can talk about (`trace ts` is what was put out so far).

  `Along C ts` says that `C` holds at every step of `ts`, given the steps before it. Both
  a property of runs and a condition on the inputs of runs are written with it, and
  `Run.along` is the one rule that leads from the second to the first: an invariant
  kept by every step that meets the condition, and the property of one step from it.

  `Run.simulate` maps a run to a run of another machine that sees only some of the
  events (`Run.trace_absStep` is about the outputs), `Run.refine` does so along a relation
  between the states. `respond_eq` is the two-run rule: related states answer every list of
  events alike.
-/

namespace Lib

universe u v w

/-- A partial step function with outputs. -/
structure Machine (σ : Type u) (ε : Type v) (ο : Type w) where
  step : σ → ε → Option (σ × List ο)

/-- One step taken: state before, event, state after, outputs. -/
structure Transition (σ : Type u) (ε : Type v) (ο : Type w) where
  pre : σ
  event : ε
  post : σ
  outs : List ο

variable {σ : Type u} {ε : Type v} {ο : Type w}

/-- Everything put out along a list of steps. -/
def trace (ts : List (Transition σ ε ο)) : List ο := ts.flatMap (·.outs)

@[simp] theorem trace_nil : trace ([] : List (Transition σ ε ο)) = [] := rfl

@[simp] theorem trace_append (ts us : List (Transition σ ε ο)) :
    trace (ts ++ us) = trace ts ++ trace us := List.flatMap_append

@[simp] theorem trace_cons (t : Transition σ ε ο) (ts : List (Transition σ ε ο)) :
    trace (t :: ts) = t.outs ++ trace ts := List.flatMap_cons

/-! ## Properties along a list of steps -/

/-- `C` holds at every step of `ts`, given the steps before it. -/
def Along (C : List (Transition σ ε ο) → Transition σ ε ο → Prop)
    (ts : List (Transition σ ε ο)) : Prop :=
  ∀ us t vs, ts = us ++ t :: vs → C us t

theorem along_snoc {C : List (Transition σ ε ο) → Transition σ ε ο → Prop}
    {ts : List (Transition σ ε ο)} {t : Transition σ ε ο} :
    Along C (ts ++ [t]) ↔ Along C ts ∧ C ts t := by
  constructor
  · intro h
    refine ⟨fun us u vs e => h us u (vs ++ [t]) ?_, h ts t [] rfl⟩
    rw [e]; simp
  · rintro ⟨h, ht⟩ us u vs e
    rcases List.eq_nil_or_concat vs with rfl | ⟨ws, v, rfl⟩
    · obtain ⟨rfl, e2⟩ := List.append_inj' e rfl
      cases e2
      exact ht
    · have e' : ts ++ [t] = (us ++ u :: ws) ++ [v] := by rw [e]; simp
      obtain ⟨e1, -⟩ := List.append_inj' e' rfl
      exact h us u ws e1

/-- A condition that looks at the single step only is one on the members of the list. -/
theorem along_mem {P : Transition σ ε ο → Prop} {ts : List (Transition σ ε ο)} :
    Along (fun _ t => P t) ts ↔ ∀ t ∈ ts, P t := by
  constructor
  · intro h t ht
    obtain ⟨us, vs, e⟩ := List.append_of_mem ht
    exact h us t vs e
  · intro h us t vs e
    exact h t (by rw [e]; simp)

/-- `Along`, one step after the other, with the steps taken before in `us`. -/
def AlongFrom (C : List (Transition σ ε ο) → Transition σ ε ο → Prop)
    (us : List (Transition σ ε ο)) : List (Transition σ ε ο) → Prop
  | [] => True
  | t :: ts => C us t ∧ AlongFrom C (us ++ [t]) ts

instance decidableAlongFrom {C : List (Transition σ ε ο) → Transition σ ε ο → Prop}
    [∀ us t, Decidable (C us t)] (us : List (Transition σ ε ο)) :
    (ts : List (Transition σ ε ο)) → Decidable (AlongFrom C us ts)
  | [] => inferInstanceAs (Decidable True)
  | t :: ts =>
      have := decidableAlongFrom (C := C) (us ++ [t]) ts
      inferInstanceAs (Decidable (C us t ∧ AlongFrom C (us ++ [t]) ts))

theorem alongFrom_iff {C : List (Transition σ ε ο) → Transition σ ε ο → Prop} :
    ∀ {ts us : List (Transition σ ε ο)},
      AlongFrom C us ts ↔ ∀ vs t ws, ts = vs ++ t :: ws → C (us ++ vs) t
  | [], us => by simp [AlongFrom]
  | t :: ts, us => by
      rw [AlongFrom, alongFrom_iff]
      constructor
      · rintro ⟨ht, h⟩ vs u ws e
        cases vs with
        | nil =>
            cases e
            simpa using ht
        | cons v vs =>
            obtain ⟨rfl, e'⟩ := List.cons.inj e
            simpa using h vs u ws e'
      · intro h
        refine ⟨by simpa using h [] t ts rfl, fun vs u ws e => ?_⟩
        simpa using h (t :: vs) u ws (by rw [e]; rfl)

/-- `Along` can be decided on a list of steps that is given. -/
instance {C : List (Transition σ ε ο) → Transition σ ε ο → Prop}
    [∀ us t, Decidable (C us t)] (ts : List (Transition σ ε ο)) : Decidable (Along C ts) :=
  decidable_of_iff (AlongFrom C [] ts) (alongFrom_iff.trans Iff.rfl)

theorem Along.of_append {C : List (Transition σ ε ο) → Transition σ ε ο → Prop}
    {ts us : List (Transition σ ε ο)} (h : Along C (ts ++ us)) : Along C ts := by
  intro as t bs e
  exact h as t (bs ++ us) (by rw [e]; simp)

/-! ## Runs -/

namespace Machine

variable (M : Machine σ ε ο)

/-- `M.Run s₀ ts s`: the steps `ts` lead from `s₀` to `s`. -/
inductive Run (s₀ : σ) : List (Transition σ ε ο) → σ → Prop
  | nil : Run s₀ [] s₀
  | snoc {ts : List (Transition σ ε ο)} {s : σ} {e : ε} {s' : σ} {o : List ο} :
      Run s₀ ts s → M.step s e = some (s', o) → Run s₀ (ts ++ [⟨s, e, s', o⟩]) s'

/-- The steps a list of events leads through, when all of them can happen. -/
def exec : σ → List ε → Option (List (Transition σ ε ο) × σ)
  | s, [] => some ([], s)
  | s, e :: es =>
      match M.step s e with
      | none => none
      | some (s', o) => (exec s' es).map fun r => (⟨s, e, s', o⟩ :: r.1, r.2)

/-- The steps of `exec`, none when an event cannot happen. -/
def steps (s : σ) (es : List ε) : List (Transition σ ε ο) :=
  ((M.exec s es).getD ([], s)).1

/-- The state `exec` ends in. -/
def final (s : σ) (es : List ε) : σ := ((M.exec s es).getD ([], s)).2

/-- What the machine answers to a list of events, one entry for each, up to the first
    event that cannot happen. -/
def respond : σ → List ε → List (Option (List ο))
  | _, [] => []
  | s, e :: es =>
      match M.step s e with
      | none => [none]
      | some (s', o) => some o :: respond s' es

variable {M}

theorem Run.single {s s' : σ} {e : ε} {o : List ο} (h : M.step s e = some (s', o)) :
    M.Run s [⟨s, e, s', o⟩] s' :=
  show M.Run s ([] ++ [⟨s, e, s', o⟩]) s' from Run.snoc Run.nil h

theorem Run.append {s₀ s s' : σ} {ts us : List (Transition σ ε ο)} (h : M.Run s₀ ts s)
    (h' : M.Run s us s') : M.Run s₀ (ts ++ us) s' := by
  induction h' with
  | nil => simpa using h
  | snoc _ hstep ih =>
      rw [← List.append_assoc]
      exact Run.snoc ih hstep

theorem Run.cons {s s' s'' : σ} {e : ε} {o : List ο} {ts : List (Transition σ ε ο)}
    (h : M.step s e = some (s', o)) (h' : M.Run s' ts s'') :
    M.Run s (⟨s, e, s', o⟩ :: ts) s'' :=
  (Run.single h).append h'

/-- `exec` yields runs. -/
theorem run_of_exec : ∀ {es : List ε} {s s' : σ} {ts : List (Transition σ ε ο)},
    M.exec s es = some (ts, s') → M.Run s ts s'
  | [], s, s', ts, h => by
      simp only [exec, Option.some.injEq, Prod.mk.injEq] at h
      obtain ⟨rfl, rfl⟩ := h
      exact Run.nil
  | e :: es, s, s', ts, h => by
      simp only [exec] at h
      split at h
      · cases h
      · next s₁ o hstep =>
          obtain ⟨⟨us, s₂⟩, hr, he⟩ := Option.map_eq_some_iff.mp h
          cases he
          exact Run.cons hstep (run_of_exec hr)

/-- A list of events that can all happen is a run. -/
theorem run_steps {s : σ} {es : List ε} (h : (M.exec s es).isSome = true) :
    M.Run s (M.steps s es) (M.final s es) := by
  obtain ⟨⟨ts, s'⟩, he⟩ := Option.isSome_iff_exists.mp h
  have := run_of_exec he
  simpa only [steps, final, he, Option.getD_some] using this

/-- The last step of a run that ends in `t`. -/
theorem run_snoc_iff {s₀ s : σ} {ts : List (Transition σ ε ο)} {t : Transition σ ε ο} :
    M.Run s₀ (ts ++ [t]) s ↔
      M.Run s₀ ts t.pre ∧ M.step t.pre t.event = some (t.post, t.outs) ∧ s = t.post := by
  constructor
  · intro h
    generalize hl : ts ++ [t] = l at h
    cases h with
    | nil => simp at hl
    | snoc h hstep =>
        obtain ⟨rfl, e⟩ := List.append_inj' hl rfl
        cases e
        exact ⟨h, hstep, rfl⟩
  · rintro ⟨h, hstep, rfl⟩
    exact Run.snoc h hstep

/-- A run cut in two. -/
theorem run_append_iff {s₀ s : σ} {ts us : List (Transition σ ε ο)} :
    M.Run s₀ (ts ++ us) s ↔ ∃ m, M.Run s₀ ts m ∧ M.Run m us s := by
  constructor
  · intro h
    generalize hl : ts ++ us = l at h
    induction h generalizing us with
    | nil =>
        obtain ⟨rfl, rfl⟩ := List.append_eq_nil_iff.mp hl
        exact ⟨s₀, Run.nil, Run.nil⟩
    | snoc h hstep ih =>
        rcases List.eq_nil_or_concat us with rfl | ⟨vs, v, rfl⟩
        · rw [List.append_nil] at hl
          subst hl
          exact ⟨_, Run.snoc h hstep, Run.nil⟩
        · rw [List.concat_eq_append, ← List.append_assoc] at hl
          obtain ⟨e1, e2⟩ := List.append_inj' hl rfl
          cases e2
          obtain ⟨m, h1, h2⟩ := ih e1
          refine ⟨m, h1, ?_⟩
          rw [List.concat_eq_append]
          exact Run.snoc h2 hstep
  · rintro ⟨m, h1, h2⟩
    exact h1.append h2

/-- A run cut at one of its steps. -/
theorem Run.at_step {s₀ s : σ} {us vs : List (Transition σ ε ο)} {t : Transition σ ε ο}
    (h : M.Run s₀ (us ++ t :: vs) s) :
    M.Run s₀ us t.pre ∧ M.step t.pre t.event = some (t.post, t.outs) ∧ M.Run t.post vs s := by
  have e : us ++ t :: vs = (us ++ [t]) ++ vs := by simp
  rw [e, run_append_iff] at h
  obtain ⟨m, h1, h2⟩ := h
  obtain ⟨h3, h4, rfl⟩ := run_snoc_iff.mp h1
  exact ⟨h3, h4, h2⟩

/-- The run before a step, the step, and the run after it. -/
theorem Run.at_mem {s₀ s : σ} {ts : List (Transition σ ε ο)} (h : M.Run s₀ ts s)
    {t : Transition σ ε ο} (ht : t ∈ ts) :
    ∃ us vs, ts = us ++ t :: vs ∧ M.Run s₀ us t.pre ∧
      M.step t.pre t.event = some (t.post, t.outs) ∧ M.Run t.post vs s := by
  obtain ⟨us, vs, rfl⟩ := List.append_of_mem ht
  exact ⟨us, vs, rfl, h.at_step⟩

theorem Run.step_of_mem {s₀ s : σ} {ts : List (Transition σ ε ο)} (h : M.Run s₀ ts s)
    {t : Transition σ ε ο} (ht : t ∈ ts) :
    M.step t.pre t.event = some (t.post, t.outs) := by
  obtain ⟨us, vs, -, -, hstep, -⟩ := h.at_mem ht
  exact hstep

/-! ## Invariants -/

/-- Invariant rule: `I` of history and state holds at the start and is kept by every
    step that meets `C`, so it holds at the end of every run whose steps meet `C`. -/
theorem Run.invariant {C : List (Transition σ ε ο) → Transition σ ε ο → Prop}
    {I : List (Transition σ ε ο) → σ → Prop} {s₀ s : σ} {ts : List (Transition σ ε ο)}
    (h : M.Run s₀ ts s) (hC : Along C ts) (h₀ : I [] s₀)
    (hstep : ∀ ts t, I ts t.pre → C ts t → M.step t.pre t.event = some (t.post, t.outs) →
      I (ts ++ [t]) t.post) : I ts s := by
  induction h with
  | nil => exact h₀
  | snoc h hs ih =>
      obtain ⟨hC1, hC2⟩ := along_snoc.mp hC
      exact hstep _ ⟨_, _, _, _⟩ (ih hC1) hC2 hs

/-- From an invariant under `C` to a property of every step of the run. -/
theorem Run.along {C P : List (Transition σ ε ο) → Transition σ ε ο → Prop}
    {I : List (Transition σ ε ο) → σ → Prop} {s₀ s : σ} {ts : List (Transition σ ε ο)}
    (h : M.Run s₀ ts s) (hC : Along C ts) (h₀ : I [] s₀)
    (hstep : ∀ ts t, I ts t.pre → C ts t → M.step t.pre t.event = some (t.post, t.outs) →
      I (ts ++ [t]) t.post)
    (hP : ∀ ts t, I ts t.pre → C ts t → M.step t.pre t.event = some (t.post, t.outs) →
      P ts t) : Along P ts := by
  intro us t vs e
  subst e
  obtain ⟨h1, h2, -⟩ := h.at_step
  have hpre : Along C ((us ++ [t]) ++ vs) := by simpa using hC
  have hC' := along_snoc.mp hpre.of_append
  exact hP us t (h1.invariant hC'.1 h₀ hstep) hC'.2 h2

/-- The invariant rule for a state invariant kept by every step. -/
theorem Run.state_invariant {I : σ → Prop} {s₀ s : σ} {ts : List (Transition σ ε ο)}
    (h : M.Run s₀ ts s) (h₀ : I s₀)
    (hstep : ∀ s e s' o, I s → M.step s e = some (s', o) → I s') : I s :=
  h.invariant (C := fun _ _ => True) (I := fun _ s => I s) (fun _ _ _ _ => trivial) h₀
    fun _ _ hI _ hs => hstep _ _ _ _ hI hs

/-! ## Simulation -/

section Simulate

universe u' v' w'

variable {α : Type u'} {β : Type v'} {ω : Type w'} {A : Machine α β ω}
variable (abs : σ → α) (label : σ → ε → Option β) (vis : List ο → List ω)

/-- What the abstract machine sees of a step. -/
def absStep (t : Transition σ ε ο) : Option (Transition α β ω) :=
  (label t.pre t.event).map fun b => ⟨abs t.pre, b, abs t.post, vis t.outs⟩

/-- Every run of `M` is a run of `A`, when each step of `M` is either a step of `A` or
    invisible to it. -/
theorem Run.simulate {s₀ s : σ} {ts : List (Transition σ ε ο)} (h : M.Run s₀ ts s)
    (hsim : ∀ s e s' o, M.step s e = some (s', o) →
      match label s e with
      | some b => A.step (abs s) b = some (abs s', vis o)
      | none => abs s' = abs s) :
    A.Run (abs s₀) (ts.filterMap (absStep abs label vis)) (abs s) := by
  induction h with
  | nil => exact Run.nil
  | @snoc ts s e s' o _ hstep ih =>
      have hs := hsim _ _ _ _ hstep
      rw [List.filterMap_append]
      cases hl : label s e with
      | none =>
          rw [hl] at hs
          simp only [List.filterMap_cons, List.filterMap_nil, absStep, hl, Option.map_none,
            List.append_nil]
          rw [hs]
          exact ih
      | some b =>
          rw [hl] at hs
          simp only [List.filterMap_cons, List.filterMap_nil, absStep, hl, Option.map_some]
          exact Run.snoc ih hs

/-- What is visible of a run is what `A` is seen to put out, when the invisible steps put
    out nothing visible. -/
theorem Run.trace_absStep {s₀ s : σ} {ts : List (Transition σ ε ο)} (h : M.Run s₀ ts s)
    (hnil : vis [] = []) (happend : ∀ o p, vis (o ++ p) = vis o ++ vis p)
    (hvis : ∀ s e s' o, M.step s e = some (s', o) → label s e = none → vis o = []) :
    trace (ts.filterMap (absStep abs label vis)) = vis (trace ts) := by
  induction h with
  | nil => exact hnil.symm
  | @snoc ts s e s' o _ hstep ih =>
      rw [List.filterMap_append, trace_append, trace_append, happend, ih]
      refine congrArg _ ?_
      rw [trace_cons, trace_nil, List.append_nil]
      cases hl : label s e with
      | none => simp [absStep, hl, hvis s e s' o hstep hl]
      | some b => simp [absStep, hl]

/-- With a relation between the states: each step of `M` is matched by one of `A` that puts
    out the same, or puts out nothing and stays related. -/
theorem Run.refine {τ : Type u'} {A : Machine τ β ο} {R : σ → τ → Prop} {s₀ s : σ} {t₀ : τ}
    {ts : List (Transition σ ε ο)} (h : M.Run s₀ ts s) (h₀ : R s₀ t₀)
    (hsim : ∀ s e s' o t, R s t → M.step s e = some (s', o) →
      match label s e with
      | some b => ∃ t', A.step t b = some (t', o) ∧ R s' t'
      | none => o = [] ∧ R s' t) :
    ∃ us t, A.Run t₀ us t ∧ R s t ∧ trace us = trace ts ∧
      us.map (·.event) = ts.filterMap fun t => label t.pre t.event := by
  induction h with
  | nil => exact ⟨[], t₀, Run.nil, h₀, rfl, rfl⟩
  | @snoc ts s e s' o _ hstep ih =>
      obtain ⟨us, t, hus, hR, htrace, hevents⟩ := ih
      have hs := hsim s e s' o t hR hstep
      cases hl : label s e with
      | none =>
          rw [hl] at hs
          obtain ⟨rfl, hR'⟩ := hs
          exact ⟨us, t, hus, hR', by simp [htrace], by simp [hevents, hl]⟩
      | some b =>
          rw [hl] at hs
          obtain ⟨t', hb, hR'⟩ := hs
          exact ⟨_, t', hus.snoc hb, hR', by simp [htrace], by simp [hevents, hl]⟩

end Simulate

/-! ## Two runs -/

/-- Two answers to one event: none, or the same outputs and related states. -/
def Answers (R : σ → σ → Prop) : Option (σ × List ο) → Option (σ × List ο) → Prop
  | none, none => True
  | some (s, o), some (t, p) => o = p ∧ R s t
  | _, _ => False

/-- Related states can take the same events, put out the same and stay related. -/
def Bisimulation (M N : Machine σ ε ο) (R : σ → σ → Prop) : Prop :=
  ∀ s t e, R s t → Answers R (M.step s e) (N.step t e)

/-- Two-run rule: related states answer every list of events alike. -/
theorem respond_eq {M N : Machine σ ε ο} {R : σ → σ → Prop} (hR : Bisimulation M N R) :
    ∀ (es : List ε) (s t : σ), R s t → M.respond s es = N.respond t es
  | [], _, _, _ => rfl
  | e :: es, s, t, h => by
      have hs := hR s t e h
      simp only [respond]
      cases hm : M.step s e with
      | none =>
          cases hn : N.step t e with
          | none => rfl
          | some q => rw [hm, hn] at hs; exact hs.elim
      | some p =>
          cases hn : N.step t e with
          | none => rw [hm, hn] at hs; exact hs.elim
          | some q =>
              rw [hm, hn] at hs
              obtain ⟨ho, hr⟩ := hs
              simp only [ho, respond_eq hR es _ _ hr]

/-- No list of events tells the two states apart. -/
def Indistinct (M N : Machine σ ε ο) (s t : σ) : Prop :=
  ∀ es, M.respond s es = N.respond t es

section Indistinct

variable {N : Machine σ ε ο} {s s' t t' : σ} {e : ε} {o p : List ο}

/-- What cannot be told apart answers one event alike, and cannot be told apart after it. -/
theorem Indistinct.next (h : Indistinct M N s t) (hs : M.step s e = some (s', o))
    (ht : N.step t e = some (t', p)) : o = p ∧ Indistinct M N s' t' := by
  have hcons : ∀ es, o = p ∧ M.respond s' es = N.respond t' es := by
    intro es
    have := h (e :: es)
    simp only [respond, hs, ht] at this
    obtain ⟨h1, h2⟩ := List.cons.inj this
    exact ⟨Option.some.inj h1, h2⟩
  exact ⟨(hcons []).1, fun es => (hcons es).2⟩

/-- What cannot be told apart takes the same events. -/
theorem Indistinct.none_iff (h : Indistinct M N s t) :
    M.step s e = none ↔ N.step t e = none := by
  have := h [e]
  simp only [respond] at this
  cases hs : M.step s e with
  | none =>
      cases ht : N.step t e with
      | none => simp
      | some q => rw [hs, ht] at this; simp at this
  | some p =>
      cases ht : N.step t e with
      | none => rw [hs, ht] at this; simp at this
      | some q => simp

end Indistinct

end Machine

end Lib
