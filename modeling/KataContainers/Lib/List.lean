import Mathlib

/-!
# List lemmas

Facts about lists that the models' lookups rest on: the last element of a filtered list in a
list ordered by a relation, which is what a binary search by key finds, an executable infix test,
the membership of what `List.lookup` returns, and how an ordered list splits around one of its
elements, which is what the in-order walk of a search tree gives, what a key finds once the pairs
of another key are dropped or its own are replaced, the split of a list around one separator, and
the stability of `mergeSort` on a list already in order, and the prefix of a table filled slot by
slot.
-/

namespace List

/-- In a list, if `x` passes `p` and no element after it does, `x` is the last that passes. -/
theorem getLast?_filter_of_after {α : Type _} {p : α → Bool} {R : α → α → Prop}
    {l : List α} {x : α} (hl : l.Pairwise R) (hx : x ∈ l) (hpx : p x = true)
    (hafter : ∀ y, R x y → p y = false) : (l.filter p).getLast? = some x := by
  induction l with
  | nil => cases hx
  | cons y ys ih =>
    obtain ⟨hy, hys⟩ := List.pairwise_cons.mp hl
    rcases List.mem_cons.mp hx with rfl | hx'
    · -- `x` heads the list: nothing after it passes
      have hnone : ys.filter p = [] := List.filter_eq_nil_iff.mpr fun y hy' => by
        simp [hafter y (hy y hy')]
      simp [hpx, hnone]
    · have hlast := ih hys hx'
      have hne : ys.filter p ≠ [] := fun h => by simp [h] at hlast
      by_cases hpy : p y = true
      · rw [List.filter_cons_of_pos hpy, List.getLast?_cons, hlast]
        rfl
      · rw [List.filter_cons_of_neg hpy, hlast]

/-- Whether `l₁` occurs in `l₂`, by trying it as a prefix of every tail: a test that evaluates
in linear steps per tail, where the `Decidable` instance of `<:+:` does not. -/
def isInfix {α : Type _} [BEq α] (l₁ l₂ : List α) : Bool :=
  l₂.tails.any l₁.isPrefixOf

theorem isInfix_iff {α : Type _} [BEq α] [LawfulBEq α] {l₁ l₂ : List α} :
    isInfix l₁ l₂ = true ↔ l₁ <:+: l₂ := by
  rw [isInfix, List.any_eq_true, List.infix_iff_prefix_suffix]
  constructor
  · rintro ⟨t, ht, hp⟩
    exact ⟨t, List.isPrefixOf_iff_prefix.mp hp, (List.mem_tails _ _).mp ht⟩
  · rintro ⟨t, hp, hs⟩
    exact ⟨t, (List.mem_tails _ _).mpr hs, List.isPrefixOf_iff_prefix.mpr hp⟩

/-- What `lookup` finds is in the list. -/
theorem mem_of_lookup_eq_some {α β : Type _} [BEq α] [LawfulBEq α] {l : List (α × β)} {k : α}
    {v : β} (h : l.lookup k = some v) : (k, v) ∈ l := by
  induction l with
  | nil => cases h
  | cons e es ih =>
    obtain ⟨k', v'⟩ := e
    by_cases hk : k = k'
    · subst hk
      simp only [List.lookup_cons, beq_self_eq_true, Option.some.injEq] at h
      subst h
      exact List.mem_cons_self
    · have hne : (k == k') = false := beq_false_of_ne hk
      simp only [List.lookup_cons, hne] at h
      exact List.mem_cons_of_mem _ (ih h)

/-- What a joined list holds comes from the separator or from one of the pieces. -/
theorem mem_intercalate {α : Type _} {sep : List α} {ls : List (List α)} {x : α}
    (h : x ∈ sep.intercalate ls) : x ∈ sep ∨ ∃ l ∈ ls, x ∈ l := by
  induction ls with
  | nil => simp at h
  | cons l rest ih =>
    cases rest with
    | nil =>
      rw [List.intercalate_singleton] at h
      exact .inr ⟨l, List.mem_cons_self, h⟩
    | cons l' rest =>
      rw [List.intercalate_cons_cons] at h
      rcases List.mem_append.mp h with h | h
      · rcases List.mem_append.mp h with h | h
        · exact .inr ⟨l, List.mem_cons_self, h⟩
        · exact .inl h
      · rcases ih h with h | ⟨l'', hl'', h⟩
        · exact .inl h
        · exact .inr ⟨l'', List.mem_cons_of_mem _ hl'', h⟩

/-- A list with `a` between `l` and `r` is ordered by a relation that is transitive through `a`
exactly when both sides are, `l` lies below `a` and `r` above it. -/
theorem pairwise_append_cons_iff {α : Type _} {R : α → α → Prop} {l r : List α} {a : α}
    (htrans : ∀ x y, R x a → R a y → R x y) :
    (l ++ a :: r).Pairwise R ↔ l.Pairwise R ∧ r.Pairwise R ∧ (∀ x ∈ l, R x a) ∧ ∀ y ∈ r, R a y := by
  rw [List.pairwise_append, List.pairwise_cons]
  constructor
  · rintro ⟨hl, ⟨ha, hr⟩, hlr⟩
    exact ⟨hl, hr, fun x hx => hlr x hx a List.mem_cons_self, ha⟩
  · rintro ⟨hl, hr, hla, har⟩
    refine ⟨hl, ⟨har, hr⟩, fun x hx y hy => ?_⟩
    rcases List.mem_cons.mp hy with rfl | hy
    · exact hla x hx
    · exact htrans x y (hla x hx) (har y hy)

/-- Two different elements of a list ordered by `R` are related one way or the other. -/
theorem Pairwise.rel_or_rel {α : Type _} {R : α → α → Prop} {l : List α} (h : l.Pairwise R)
    {a b : α} (ha : a ∈ l) (hb : b ∈ l) (hne : a ≠ b) : R a b ∨ R b a := by
  induction l with
  | nil => cases ha
  | cons x xs ih =>
    obtain ⟨hx, hxs⟩ := List.pairwise_cons.mp h
    rcases List.mem_cons.mp ha with rfl | ha'
    · rcases List.mem_cons.mp hb with rfl | hb'
      · exact absurd rfl hne
      · exact .inl (hx b hb')
    · rcases List.mem_cons.mp hb with rfl | hb'
      · exact .inr (hx a ha')
      · exact ih hxs ha' hb'

/-- A key that no pair has is not found. -/
theorem lookup_eq_none_of_forall_ne {α β : Type _} [BEq α] [LawfulBEq α] {l : List (α × β)} {k : α}
    (h : ∀ e ∈ l, e.1 ≠ k) : l.lookup k = none :=
  List.lookup_eq_none_iff.mpr fun e he => bne_iff_ne.mpr (h e he).symm

/-- With distinct keys, a key finds the value it is paired with. -/
theorem lookup_eq_some_of_mem {α β : Type _} [BEq α] [LawfulBEq α] {l : List (α × β)} {k : α}
    {v : β} (hd : (l.map Prod.fst).Nodup) (h : (k, v) ∈ l) : l.lookup k = some v := by
  obtain ⟨l₁, l₂, rfl⟩ := List.append_of_mem h
  refine List.lookup_eq_some_iff.mpr ⟨l₁, l₂, rfl, fun p hp => bne_iff_ne.mpr fun hk => ?_⟩
  rw [List.map_append, List.map_cons, List.nodup_append] at hd
  exact hd.2.2 _ (List.mem_map_of_mem hp) _ List.mem_cons_self hk.symm

/-- When at most one element satisfies `p`, `find?` finds exactly that one. -/
theorem find?_eq_some_iff_of_unique {α : Type _} {l : List α} {p : α → Bool} {a : α}
    (hu : ∀ b ∈ l, ∀ c ∈ l, p b = true → p c = true → b = c) :
    l.find? p = some a ↔ a ∈ l ∧ p a = true := by
  refine ⟨fun h => ⟨List.mem_of_find?_eq_some h, List.find?_some h⟩, fun ⟨ha, hpa⟩ => ?_⟩
  cases hf : l.find? p with
  | none => exact absurd hpa (List.find?_eq_none.mp hf a ha)
  | some b => rw [hu b (List.mem_of_find?_eq_some hf) a ha (List.find?_some hf) hpa]

/-- Dropping the pairs of another key leaves what a key finds. -/
theorem lookup_filter_of_ne {α β : Type _} [BEq α] [LawfulBEq α] {l : List (α × β)} {k p : α}
    (h : k ≠ p) : (l.filter fun e => e.1 != p).lookup k = l.lookup k := by
  induction l with
  | nil => rfl
  | cons e es ih =>
    obtain ⟨k', v'⟩ := e
    by_cases hk : k' = p
    · subst hk
      simp [List.lookup_cons, beq_false_of_ne h, ih]
    · simp [hk, List.lookup_cons, ih]

/-- Once the pairs of a key that is there are replaced, the key finds the new value. -/
theorem lookup_map_replace {α β : Type _} [DecidableEq α] {l : List (α × β)} {k : α} {v : β}
    (h : (l.lookup k).isSome) : (l.map fun e => if e.1 = k then (k, v) else e).lookup k = some v := by
  induction l with
  | nil => cases h
  | cons e es ih =>
    obtain ⟨k', v'⟩ := e
    by_cases hk : k' = k
    · subst hk
      simp
    · have hne : (k == k') = false := beq_false_of_ne (Ne.symm hk)
      simp only [List.lookup_cons, hne] at h
      simp [hk, List.lookup_cons, hne, ih h]

/-- A list of two pieces around one separator, neither holding it, splits into the two. -/
theorem splitOn_append_cons_of_not_mem {α : Type _} [BEq α] [LawfulBEq α] {c : α} {l r : List α}
    (hl : c ∉ l) (hr : c ∉ r) : (l ++ c :: r).splitOn c = [l, r] := by
  rw [List.splitOn_append_cons_self_of_not_mem hl, List.splitOn_eq_singleton hr]

/-- A list that splits into two pieces is the two around the separator. -/
theorem eq_append_cons_of_splitOn_eq_pair {α : Type _} [BEq α] [LawfulBEq α] {c : α}
    {l a b : List α} (h : l.splitOn c = [a, b]) : l = a ++ c :: b := by
  have hjoin : [c].intercalate (l.splitOn c) = l := List.intercalate_splitOn c
  rw [h] at hjoin
  simpa using hjoin.symm

/-- A stable sort leaves a list that is already in order as it is. -/
theorem mergeSort_eq_self_of_pairwise {α : Type _} {le : α → α → Bool}
    (trans : ∀ a b c, le a b = true → le b c = true → le a c = true)
    (total : ∀ a b, (le a b || le b a) = true) {l : List α}
    (h : l.Pairwise fun a b => le a b = true) : l.mergeSort le = l :=
  ((List.sublist_mergeSort trans total h (List.Sublist.refl l)).eq_of_length
    (List.mergeSort_perm l le).length_eq.symm).symm

/-- Writing the element after a prefix extends the prefix by it: how a table filled slot by slot
grows. -/
theorem take_add_one_set {α : Type _} {l : List α} {n : Nat} (e : α) (h : n < l.length) :
    (l.set n e).take (n + 1) = l.take n ++ [e] := by
  rw [List.take_add_one, List.getElem?_set_self h, List.take_set,
    List.set_eq_of_length_le (List.length_take_le n l)]
  rfl

end List
