import Mathlib

/-!
# A store of cells addressed by numbers

`put f a xs` is `f` with the list `xs` stored from address `a` on, and `read f a n` the `n` cells
from `a` on. What is read back from a write is what was written (`read_put`), the cells outside it
keep their values (`put_of_lt`, `put_of_ge`), a run of writes at consecutive addresses is one write
of their concatenation (`put_append`), and a write that falls inside an earlier one is spliced into
it (`put_put_inside`). A cell of `put f a xs` depends on `f` only at that cell (`put_congr`), which
lets a store be followed cell by cell through a model whose addresses are bounded.
-/

namespace Store

variable {α : Type _} {f g : Nat → α} {a n : Nat} {xs ys : List α}

/-- `f` with `xs` stored from address `a` on. -/
def put (f : Nat → α) (a : Nat) (xs : List α) : Nat → α :=
  fun n => if h : a ≤ n ∧ n - a < xs.length then xs[n - a] else f n

/-- The `n` cells from address `a` on. -/
def read (f : Nat → α) (a n : Nat) : List α :=
  (List.range n).map fun i => f (a + i)

theorem put_of_lt (h : n < a) : put f a xs n = f n := by
  rw [put, dif_neg (by omega)]

theorem put_of_ge (h : a + xs.length ≤ n) : put f a xs n = f n := by
  rw [put, dif_neg (by omega)]

theorem put_of_mem (h₁ : a ≤ n) (h₂ : n - a < xs.length) : put f a xs n = xs[n - a] := by
  rw [put, dif_pos ⟨h₁, h₂⟩]

theorem put_congr (h : f n = g n) : put f a xs n = put g a xs n := by
  unfold put
  split
  · rfl
  · exact h

/-- Writing `xs ++ ys` is writing `xs`, then `ys` right after it. -/
theorem put_append : put f a (xs ++ ys) = put (put f a xs) (a + xs.length) ys := by
  funext n
  have hlen : (xs ++ ys).length = xs.length + ys.length := List.length_append
  by_cases h₁ : n < a + xs.length
  · rw [put_of_lt h₁]
    by_cases h₂ : a ≤ n
    · rw [put_of_mem h₂ (by omega), put_of_mem h₂ (by omega), List.getElem_append_left]
    · rw [put_of_lt (by omega), put_of_lt (by omega)]
  · by_cases h₃ : n < a + xs.length + ys.length
    · rw [put_of_mem (by omega) (by omega), put_of_mem (by omega) (by omega),
        List.getElem_append_right (by omega)]
      congr 1
      omega
    · rw [put_of_ge (by omega), put_of_ge (by omega), put_of_ge (by omega)]

/-- A write that falls inside an earlier one replaces that part of it. -/
theorem put_put_inside {k : Nat} (h : k + ys.length ≤ xs.length) :
    put (put f a xs) (a + k) ys = put f a (xs.take k ++ ys ++ xs.drop (k + ys.length)) := by
  have hlen : (xs.take k ++ ys ++ xs.drop (k + ys.length)).length = xs.length := by
    simp only [List.length_append, List.length_take, List.length_drop]
    omega
  funext n
  -- the cells before the new write, in it, after it, and outside both
  by_cases h₁ : n < a
  · rw [put_of_lt (by omega), put_of_lt h₁, put_of_lt h₁]
  by_cases h₂ : n < a + k
  · rw [put_of_lt h₂, put_of_mem (by omega) (by omega), put_of_mem (by omega) (by omega)]
    simp only [List.getElem_append, List.length_append, List.length_take, List.getElem_take]
    rw [dif_pos (by omega), dif_pos (by omega)]
  by_cases h₃ : n < a + k + ys.length
  · rw [put_of_mem (by omega) (by omega), put_of_mem (by omega) (by omega)]
    simp only [List.getElem_append, List.length_append, List.length_take]
    rw [dif_pos (by omega), dif_neg (by omega)]
    congr 1
    omega
  by_cases h₄ : n < a + xs.length
  · rw [put_of_ge (by omega), put_of_mem (by omega) (by omega), put_of_mem (by omega) (by omega)]
    simp only [List.getElem_append, List.length_append, List.length_take, List.getElem_drop]
    rw [dif_neg (by omega)]
    congr 1
    omega
  · rw [put_of_ge (by omega), put_of_ge (by omega), put_of_ge (by omega)]

theorem read_put : read (put f a xs) a xs.length = xs := by
  apply List.ext_getElem
  · simp [read]
  · intro i h₁ h₂
    simp only [read, List.getElem_map, List.getElem_range]
    rw [put_of_mem (by omega) (by omega)]
    congr 1
    omega

theorem length_read : (read f a n).length = n := by
  simp [read]

end Store
