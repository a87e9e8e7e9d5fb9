import Mathlib

/-!
# Ring buffers over a flat store

A ring buffer of capacity `cap` keeps its elements in a store `Nat → α`: the `i`-th element from
the tail sits at position `(tail + i) % cap`, and `Holds cap data tail xs` says that the store
holds the elements `xs` that way. A push copies the new elements from the head position up to the
end of the store and the rest from position `0` (`put`); it keeps the elements already held and
adds the new ones behind them (`Holds.put`). Moving the tail forward drops elements from the front
(`Holds.drop`), and a run of elements that does not pass the end of the store is read as one
slice (`Holds.slice`).
-/

namespace Ring

variable {α : Type}

/-- `data[ofs..ofs + src.len()].copy_from_slice(src)`. -/
def copy (data : Nat → α) (ofs : Nat) (src : List α) : Nat → α :=
  fun i => if h : ofs ≤ i ∧ i < ofs + src.length then src[i - ofs] else data i

/-- `&data[ofs..ofs + len]`. -/
def slice (data : Nat → α) (ofs len : Nat) : List α :=
  (List.range len).map fun i => data (ofs + i)

/-- The copies of a push at position `head_ofs`: up to the end of the store, and what does not
fit from position `0`. -/
def put (cap : Nat) (data : Nat → α) (head_ofs : Nat) (src : List α) : Nat → α :=
  let len := min (cap - head_ofs) src.length
  let data := copy data head_ofs (src.take len)
  if len < src.length then copy data 0 (src.drop len) else data

/-- The store holds `xs` from position `tail` on, around a ring of `cap` positions. -/
def Holds (cap : Nat) (data : Nat → α) (tail : Nat) (xs : List α) : Prop :=
  ∀ i (h : i < xs.length), data ((tail + i) % cap) = xs[i]

@[simp] theorem length_slice (data : Nat → α) (ofs len : Nat) : (slice data ofs len).length = len := by
  simp [slice]

theorem copy_inside {data : Nat → α} {ofs : Nat} {src : List α} {i : Nat} (h : i < src.length) :
    copy data ofs src (ofs + i) = src[i] := by
  simp only [copy, Nat.add_sub_cancel_left]
  rw [dif_pos (by omega)]

theorem copy_outside {data : Nat → α} {ofs : Nat} {src : List α} {i : Nat}
    (h : ¬ (ofs ≤ i ∧ i < ofs + src.length)) : copy data ofs src i = data i := by
  simp only [copy]
  rw [dif_neg h]

/-- Two positions a ring apart from the same tail are different. -/
theorem pos_inj {cap tail i j : Nat} (hi : i < cap) (hj : j < cap)
    (h : (tail + i) % cap = (tail + j) % cap) : i = j :=
  (Nat.ModEq.add_left_cancel' tail h).eq_of_lt_of_lt hi hj

/-- A position past the end of the store, by less than the store, wraps once. -/
theorem mod_of_lt_two {cap a : Nat} (h₁ : cap ≤ a) (h₂ : a < 2 * cap) : a % cap = a - cap := by
  rw [Nat.mod_eq_sub_mod h₁, Nat.mod_eq_of_lt (by omega)]

section Put

variable {cap : Nat} {data : Nat → α} {h : Nat} {src : List α}

/-- Element `j` of a push lands `j` positions after the head, around the ring. -/
theorem put_written (hh : h < cap) (hs : src.length ≤ cap) {j : Nat} (hj : j < src.length) :
    put cap data h src ((h + j) % cap) = src[j] := by
  simp only [put]
  by_cases hw : h + j < cap
  · -- the first copy, which the second does not reach
    rw [Nat.mod_eq_of_lt hw]
    have hlen : j < min (cap - h) src.length := by omega
    have hfirst : copy data h (src.take (min (cap - h) src.length)) (h + j) = src[j] := by
      rw [copy_inside (by simp; omega), List.getElem_take]
    split_ifs
    · rw [copy_outside (by simp; omega), hfirst]
    · exact hfirst
  · -- the second copy, from the start of the store
    rw [mod_of_lt_two (by omega) (by omega)]
    have hlen : min (cap - h) src.length = cap - h := by omega
    rw [if_pos (by omega), hlen, show h + j - cap = 0 + (h + j - cap) by omega,
      copy_inside (by simp; omega), List.getElem_drop]
    congr 1
    omega

/-- A position that no element of a push lands on keeps its value. -/
theorem put_unwritten (hh : h < cap) {p : Nat} (hp : p < cap)
    (hne : ∀ j < src.length, (h + j) % cap ≠ p) : put cap data h src p = data p := by
  simp only [put]
  have hfirst : copy data h (src.take (min (cap - h) src.length)) p = data p := by
    refine copy_outside fun ⟨h₁, h₂⟩ => hne (p - h) (by simp at h₂; omega) ?_
    rw [Nat.add_sub_cancel' h₁, Nat.mod_eq_of_lt hp]
  split_ifs with hwrap
  · rw [copy_outside, hfirst]
    rintro ⟨-, h₂⟩
    -- the second copy holds the elements from `cap - h` on, which land at `p`
    refine hne (cap - h + p) (by simp at h₂; omega) ?_
    rw [show h + (cap - h + p) = p + cap by omega, Nat.add_mod_right, Nat.mod_eq_of_lt hp]
  · exact hfirst

end Put

section Holds

variable {cap : Nat} {data : Nat → α} {tail : Nat} {xs : List α}

theorem Holds.congr (h : Holds cap data tail xs) {tail' : Nat} (ht : tail' % cap = tail % cap) :
    Holds cap data tail' xs := by
  intro i hi
  rw [← Nat.mod_add_mod, ht, Nat.mod_add_mod]
  exact h i hi

/-- Moving the tail forward by `w` drops the first `w` elements. -/
theorem Holds.drop (h : Holds cap data tail xs) (w : Nat) :
    Holds cap data (tail + w) (xs.drop w) := by
  intro i hi
  rw [List.getElem_drop, ← h (w + i) (by simp at hi; omega), Nat.add_assoc]

/-- The first `k` elements, when they do not pass the end of the store, are one slice. -/
theorem Holds.slice (h : Holds cap data tail xs) {k : Nat} (hk : k ≤ xs.length)
    (hend : tail % cap + k ≤ cap) : slice data (tail % cap) k = xs.take k := by
  apply List.ext_getElem (by simp; omega)
  intro i hi _
  simp only [Ring.slice, List.getElem_map, List.getElem_range, List.getElem_take]
  simp only [length_slice] at hi
  rw [← h i (by omega), ← Nat.mod_add_mod, Nat.mod_eq_of_lt (show tail % cap + i < cap by omega)]

/-- A push at the position after the elements held adds its elements behind them. -/
theorem Holds.put (h : Holds cap data tail xs) {src : List α} (hcap : 0 < cap)
    (hfit : xs.length + src.length ≤ cap) :
    Holds cap (Ring.put cap data ((tail + xs.length) % cap) src) tail (xs ++ src) := by
  intro i hi
  by_cases hold : i < xs.length
  · -- an element held before: no element of the push lands on it
    rw [List.getElem_append_left hold, put_unwritten (Nat.mod_lt _ hcap) (Nat.mod_lt _ hcap),
      h i hold]
    intro j hj heq
    rw [Nat.mod_add_mod, Nat.add_assoc] at heq
    have := pos_inj (by omega) (by omega) heq
    omega
  · -- an element of the push
    have hj : i - xs.length < src.length := by simp at hi; omega
    have hpos : (tail + i) % cap = ((tail + xs.length) % cap + (i - xs.length)) % cap := by
      rw [Nat.mod_add_mod, Nat.add_assoc, Nat.add_sub_cancel' (by omega)]
    rw [List.getElem_append_right (by omega), hpos, put_written (Nat.mod_lt _ hcap) (by omega) hj]

end Holds

end Ring
