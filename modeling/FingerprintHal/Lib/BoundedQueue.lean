/-
  A first-in first-out queue that never holds more than `cap` entries: the bound is a
  field, so a queue over its bound cannot be built. `schedule` refuses when the queue is
  full and says so in its first component; `pop` takes the oldest entry. Where it stands
  for a queue whose code is not at hand, the bound, the refusal and the order are what is
  assumed of that.
-/

namespace Lib

universe u

/-- A queue of at most `cap` entries, oldest first. -/
structure BoundedQueue (α : Type u) (cap : Nat) where
  items : List α
  bounded : items.length ≤ cap
deriving DecidableEq

namespace BoundedQueue

variable {α : Type u} {cap : Nat}

@[ext] theorem ext {q r : BoundedQueue α cap} (h : q.items = r.items) : q = r := by
  cases q
  cases r
  cases h
  rfl

/-- The queue with no entries. -/
def empty : BoundedQueue α cap := ⟨[], Nat.zero_le _⟩

/-- Add an entry at the end, unless the queue is full. -/
def schedule (q : BoundedQueue α cap) (a : α) : Bool × BoundedQueue α cap :=
  if h : q.items.length < cap then (true, ⟨q.items ++ [a], by rw [List.length_append]; exact h⟩)
  else (false, q)

/-- The oldest entry, with the queue that is left. -/
def pop (q : BoundedQueue α cap) : Option (α × BoundedQueue α cap) :=
  match hq : q.items with
  | [] => none
  | a :: as => some (a, ⟨as, by have := q.bounded; rw [hq] at this; simp at this; omega⟩)

theorem items_schedule (q : BoundedQueue α cap) (a : α) :
    (q.schedule a).2.items = if q.items.length < cap then q.items ++ [a] else q.items := by
  unfold schedule
  split <;> rfl

/-- What is in the queue after `schedule` was there before, or is the new entry and
    there was room for it. -/
theorem mem_schedule {q : BoundedQueue α cap} {a b : α} (h : b ∈ (q.schedule a).2.items) :
    b ∈ q.items ∨ (b = a ∧ q.items.length < cap) := by
  rw [items_schedule] at h
  split at h
  · next hlt =>
      rcases List.mem_append.mp h with h | h
      · exact Or.inl h
      · exact Or.inr ⟨List.mem_singleton.mp h, hlt⟩
  · exact Or.inl h

theorem pop_eq_none {q : BoundedQueue α cap} : q.pop = none ↔ q.items = [] := by
  unfold pop
  split <;> simp_all

theorem pop_eq_some {q r : BoundedQueue α cap} {a : α} :
    q.pop = some (a, r) ↔ q.items = a :: r.items := by
  unfold pop
  split
  · next h => simp [h]
  · next b bs h =>
      constructor
      · intro e
        cases e
        exact h
      · intro e
        obtain ⟨rfl, rfl⟩ := List.cons.inj (h.symm.trans e)
        rfl

end BoundedQueue

end Lib
