/-
  Stores that are written entry by entry.

  A store has a lookup `get` and a write `put`, which may be refused: `takes k a v` says
  that the key `k`, with `a` behind it so far, takes the value `v`. `WriteLaw` is the law
  of such a store. After a list of writes to different keys, each key has what it was
  written, if it took that, and all others are as they were (`get_writes_of_mem`,
  `get_writes_of_not_mem`).
-/

namespace Lib

universe u v w

variable {σ : Type u} {κ : Type v} {ν : Type w}

/-- A write that is taken shows in the lookup of its key, and nowhere else. -/
structure WriteLaw (get : σ → κ → Option ν) (put : κ → ν → σ → σ)
    (takes : κ → Option ν → ν → Prop) : Prop where
  taken : ∀ s k v, takes k (get s k) v → get (put k v s) k = some v
  refused : ∀ s k v, ¬ takes k (get s k) v → get (put k v s) k = get s k
  frame : ∀ s k v k', k' ≠ k → get (put k v s) k' = get s k'

/-- One write after the other. -/
def writes (put : κ → ν → σ → σ) (ws : List (κ × ν)) (s : σ) : σ :=
  ws.foldl (fun s w => put w.1 w.2 s) s

variable {get : σ → κ → Option ν} {put : κ → ν → σ → σ} {takes : κ → Option ν → ν → Prop}
  {k : κ} {x : ν}

@[simp] theorem writes_nil (s : σ) : writes put [] s = s := rfl

@[simp] theorem writes_cons (w : κ × ν) (ws : List (κ × ν)) (s : σ) :
    writes put (w :: ws) s = writes put ws (put w.1 w.2 s) := rfl

@[simp] theorem writes_append (vs ws : List (κ × ν)) (s : σ) :
    writes put (vs ++ ws) s = writes put ws (writes put vs s) := List.foldl_append

/-- What is not written stays as it was. -/
theorem get_writes_of_not_mem (h : WriteLaw get put takes) :
    ∀ {ws : List (κ × ν)} {s : σ}, k ∉ ws.map Prod.fst → get (writes put ws s) k = get s k
  | [], _, _ => rfl
  | w :: ws, s, hk => by
      rw [List.map_cons, List.mem_cons, not_or] at hk
      rw [writes_cons, get_writes_of_not_mem h hk.2, h.frame s w.1 w.2 k hk.1]

/-- What is written once is taken, or refused, by what was there before. -/
theorem get_writes_of_mem (h : WriteLaw get put takes) :
    ∀ {ws : List (κ × ν)} {s : σ}, (ws.map Prod.fst).Nodup → (k, x) ∈ ws →
      (takes k (get s k) x → get (writes put ws s) k = some x) ∧
      (¬ takes k (get s k) x → get (writes put ws s) k = get s k)
  | [], _, _, hmem => by cases hmem
  | w :: ws, s, hnodup, hmem => by
      rw [List.map_cons, List.nodup_cons] at hnodup
      rcases List.mem_cons.mp hmem with rfl | hmem
      · rw [writes_cons, get_writes_of_not_mem h hnodup.1]
        exact ⟨h.taken s k x, h.refused s k x⟩
      · have hne : k ≠ w.1 := by
          rintro rfl
          exact hnodup.1 (List.mem_map.mpr ⟨_, hmem, rfl⟩)
        have ih := get_writes_of_mem h (s := put w.1 w.2 s) hnodup.2 hmem
        rw [h.frame s w.1 w.2 k hne] at ih
        exact ih

end Lib
