/-
  Series that arrive piece by piece. Each piece says how many are still to come, so the
  pieces of one series count down to 0, and one series follows the other. A receiver keeps
  what it is given until it is given the last piece of a series; it does not see the
  pieces that are not given to it.

  What the receiver has at the last piece is exactly the series that this piece completes
  (`completes_of_given`), when every series is given to it as a whole or not at all
  (`SameFate`). A piece that is lost otherwise stays in, or is missing from, what is
  collected next. The receiver does not look at what the pieces carry (`push_map`), so a
  label can be put on each of them, and read off what is collected.
-/
import Mathlib.Data.List.Chain

namespace Lib

universe u

/-- A piece of a series: what it carries, how many are to come after it, and whether the
    receiver gets it. -/
structure Chunk (α : Type u) where
  item : α
  remaining : Nat
  given : Bool
deriving DecidableEq

namespace Chunk

variable {α : Type u}

/-- The pieces of a series count down; after the last one any may come. -/
def Follows (a b : Chunk α) : Prop := a.remaining ≠ 0 → b.remaining + 1 = a.remaining

instance : DecidableRel (Follows (α := α)) :=
  fun a b => inferInstanceAs (Decidable (a.remaining ≠ 0 → b.remaining + 1 = a.remaining))

/-- The pieces of a series are all given, or none is. -/
def SameFate (a b : Chunk α) : Prop := a.remaining ≠ 0 → b.given = a.given

instance : DecidableRel (SameFate (α := α)) :=
  fun a b => inferInstanceAs (Decidable (a.remaining ≠ 0 → b.given = a.given))

/-- What the receiver keeps after a piece. -/
def push (acc : List α) (c : Chunk α) : List α :=
  if c.given then if c.remaining = 0 then [] else acc ++ [c.item] else acc

/-- What the receiver keeps after the pieces `cs`. -/
def collected (cs : List (Chunk α)) : List α := cs.foldl push []

theorem collected_snoc (cs : List (Chunk α)) (c : Chunk α) :
    collected (cs ++ [c]) = push (collected cs) c := by
  unfold collected
  rw [List.foldl_append, List.foldl_cons, List.foldl_nil]

/-- What is kept was kept before, or has just come. -/
theorem mem_push {acc : List α} {c : Chunk α} {a : α} (h : a ∈ push acc c) :
    a ∈ acc ∨ a = c.item := by
  unfold push at h
  split at h
  · split at h
    · cases h
    · exact (List.mem_append.mp h).imp_right List.mem_singleton.mp
  · exact Or.inl h

/-! ## Labels -/

section Map

variable {β : Type u} (f : α → β)

/-- The piece with another content. -/
def map (c : Chunk α) : Chunk β := ⟨f c.item, c.remaining, c.given⟩

/-- A receiver does not look at what the pieces carry. -/
theorem push_map (acc : List α) (c : Chunk α) :
    push (acc.map f) (c.map f) = (push acc c).map f := by
  unfold push map
  dsimp only
  split
  · split
    · rfl
    · rw [List.map_append, List.map_singleton]
  · rfl

end Map

/-! ## Counting down -/

/-- `n` numbers that count down to `last`. -/
def countdown (n last : Nat) : List Nat := (List.range n).reverse.map (· + last)

theorem countdown_succ (n last : Nat) :
    countdown (n + 1) last = countdown n (last + 1) ++ [last] := by
  unfold countdown
  rw [List.range_succ_eq_map, List.reverse_cons, List.map_append, ← List.map_reverse,
    List.map_map]
  have hf : ((· + last) ∘ Nat.succ : Nat → Nat) = (· + (last + 1)) := by
    funext k
    simp only [Function.comp_apply]
    omega
  rw [hf]
  simp

/-- The last piece of `cs` completes a series, and `items` is what this series carries: a
    series before it is over, and its own pieces count down to 0. -/
def Completes (cs : List (Chunk α)) (items : List α) : Prop :=
  items ≠ [] ∧
  (∀ c ∈ (cs.take (cs.length - items.length)).getLast?, c.remaining = 0) ∧
  (cs.drop (cs.length - items.length)).map (·.item) = items ∧
  (cs.drop (cs.length - items.length)).map (·.remaining) = countdown items.length 0

instance [DecidableEq α] (cs : List (Chunk α)) : DecidablePred (Completes cs) :=
  fun items => inferInstanceAs (Decidable (items ≠ [] ∧
    (∀ c ∈ (cs.take (cs.length - items.length)).getLast?, c.remaining = 0) ∧
    (cs.drop (cs.length - items.length)).map (·.item) = items ∧
    (cs.drop (cs.length - items.length)).map (·.remaining) = countdown items.length 0))

/-! ## The series that is under way -/

/-- After `cs`, the series with the pieces `block` is under way: none if `block` is
    empty. All of it was given if `given` holds, else none of it. -/
structure UnderWay (cs earlier block : List (Chunk α)) (given : Bool) : Prop where
  split : cs = earlier ++ block
  ended : ∀ c ∈ earlier.getLast?, c.remaining = 0
  counts : ∀ c ∈ block.getLast?,
    c.remaining ≠ 0 ∧ block.map (·.remaining) = countdown block.length c.remaining
  fate : ∀ c ∈ block.getLast?, c.given = given
  kept : collected cs = if given then block.map (·.item) else []

theorem underWay_nil : UnderWay ([] : List (Chunk α)) [] [] true where
  split := rfl
  ended c h := by cases h
  counts c h := by cases h
  fate c h := by cases h
  kept := rfl

section Next

variable {cs earlier block : List (Chunk α)} {given : Bool} {c : Chunk α}

/-- The piece after `cs` belongs to the series that is under way. -/
theorem UnderWay.next (h : UnderWay cs earlier block given)
    (hc : ∀ a ∈ cs.getLast?, Follows a c ∧ SameFate a c) :
    block.map (·.remaining) = countdown block.length (c.remaining + 1) ∧
      collected cs = if c.given then block.map (·.item) else [] := by
  rcases List.eq_nil_or_concat block with rfl | ⟨block', a, rfl⟩
  · -- a new series: nothing was kept
    have hk := h.kept
    simp only [List.map_nil, ite_self] at hk ⊢
    exact ⟨rfl, hk⟩
  · have ha : a ∈ (block' ++ [a]).getLast? := by simp
    rw [List.concat_eq_append] at h ⊢
    obtain ⟨hne, hcount⟩ := h.counts a ha
    have hlast : a ∈ cs.getLast? := by rw [h.split, ← List.append_assoc]; simp
    obtain ⟨hf, hs⟩ := hc a hlast
    rw [hf hne, hs hne, h.fate a ha]
    exact ⟨hcount, h.kept⟩

/-- One more piece. -/
theorem UnderWay.snoc (h : UnderWay cs earlier block given)
    (hc : ∀ a ∈ cs.getLast?, Follows a c ∧ SameFate a c) :
    ∃ earlier' block', UnderWay (cs ++ [c]) earlier' block' c.given := by
  obtain ⟨hcount, hkept⟩ := h.next hc
  by_cases hr : c.remaining = 0
  · -- the series is over
    refine ⟨cs ++ [c], [], by simp, ?_, fun d hd => (by cases hd), fun d hd => (by cases hd), ?_⟩
    · intro d hd
      rw [List.getLast?_concat] at hd
      cases hd
      exact hr
    · rw [collected_snoc, push, if_pos hr]
      cases hg : c.given with
      | true => rfl
      | false =>
          rw [hg] at hkept
          simpa using hkept
  · refine ⟨earlier, block ++ [c], by rw [h.split, List.append_assoc], h.ended, ?_, ?_, ?_⟩
    · intro d hd
      rw [List.getLast?_concat] at hd
      cases hd
      refine ⟨hr, ?_⟩
      rw [List.map_append, hcount, List.length_append, List.length_singleton,
        countdown_succ]
      rfl
    · intro d hd
      rw [List.getLast?_concat] at hd
      cases hd
      rfl
    · rw [collected_snoc, push, if_neg hr, hkept]
      cases c.given with
      | true => simp
      | false => simp

/-- The last piece of a series, given to the receiver. -/
theorem UnderWay.completes (h : UnderWay cs earlier block given)
    (hc : ∀ a ∈ cs.getLast?, Follows a c ∧ SameFate a c) (hg : c.given = true)
    (hr : c.remaining = 0) : Completes (cs ++ [c]) (collected cs ++ [c.item]) := by
  obtain ⟨hcount, hkept⟩ := h.next hc
  rw [hg, if_pos rfl] at hkept
  have hitems : collected cs ++ [c.item] = (block ++ [c]).map (·.item) := by
    rw [hkept, List.map_append]
    rfl
  have hlen : (cs ++ [c]).length - (collected cs ++ [c.item]).length = earlier.length := by
    rw [hitems, h.split]
    simp only [List.length_append, List.length_map, List.length_singleton]
    omega
  have hsplit : cs ++ [c] = earlier ++ (block ++ [c]) := by rw [h.split, List.append_assoc]
  unfold Completes
  rw [hlen, hsplit, List.take_left, List.drop_left]
  refine ⟨by simp, h.ended, hitems.symm, ?_⟩
  rw [hitems, List.length_map, List.length_append, List.length_singleton, countdown_succ,
    List.map_append, hcount, hr]
  rw [List.map_singleton, hr]

end Next

/-- The relations between neighbours, at the end of a list. -/
theorem chain_snoc {R : Chunk α → Chunk α → Prop} {cs : List (Chunk α)} {c : Chunk α}
    (h : (cs ++ [c]).IsChain R) : cs.IsChain R ∧ ∀ a ∈ cs.getLast?, R a c := by
  obtain ⟨h1, -, h2⟩ := List.isChain_append.mp h
  exact ⟨h1, fun a ha => h2 a ha c rfl⟩

/-- Along a list of series, each given as a whole or not at all, one is under way. -/
theorem exists_underWay (cs : List (Chunk α)) (hf : cs.IsChain Follows)
    (hs : cs.IsChain SameFate) : ∃ earlier block given, UnderWay cs earlier block given := by
  induction cs using List.reverseRecOn with
  | nil => exact ⟨[], [], true, underWay_nil⟩
  | append_singleton cs c ih =>
      obtain ⟨hf1, hf2⟩ := chain_snoc hf
      obtain ⟨hs1, hs2⟩ := chain_snoc hs
      obtain ⟨earlier, block, given, h⟩ := ih hf1 hs1
      obtain ⟨earlier', block', h'⟩ := h.snoc fun a ha => ⟨hf2 a ha, hs2 a ha⟩
      exact ⟨earlier', block', c.given, h'⟩

/-- What the receiver has at the last piece of a series is what the series carries. -/
theorem completes_of_given {cs : List (Chunk α)} {c : Chunk α}
    (hf : (cs ++ [c]).IsChain Follows) (hs : (cs ++ [c]).IsChain SameFate)
    (hg : c.given = true) (hr : c.remaining = 0) :
    Completes (cs ++ [c]) (collected cs ++ [c.item]) := by
  obtain ⟨hf1, hf2⟩ := chain_snoc hf
  obtain ⟨hs1, hs2⟩ := chain_snoc hs
  obtain ⟨_, _, _, h⟩ := exists_underWay cs hf1 hs1
  exact h.completes (fun a ha => ⟨hf2 a ha, hs2 a ha⟩) hg hr

end Chunk

end Lib
