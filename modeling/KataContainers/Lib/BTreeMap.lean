import KataContainers.Lib.List

/-!
# `BTreeMap` under a key order that compares part of the key

Rust's `BTreeMap<K, V>` orders its keys by `Ord for K`, and two keys that compare `Equal` are one
key to the map even when they differ in other fields. Here that order is the order of `key k` in a
linear order `B`, and a map is the list of its entries in increasing order (`Sorted`).

`insert` keeps the key already in the map and replaces its value, as `BTreeMap::insert` does, and
returns the old value; `remove` takes out the entry of an equivalent key; `last_le` is
`range(..=k).next_back()`. Each is specified through `find`, the entry whose key is equivalent to
a given one (`find_insert`, `insert_snd`, `find_remove`, `remove_snd`, `last_le_eq_some_iff`), and
`eq_of_find_eq` says that `find` determines a sorted map.
-/

namespace BTreeMap

variable {K V B : Type} [LinearOrder B] (key : K → B)

/-- The entries in strictly increasing key order. -/
def Sorted (m : List (K × V)) : Prop := m.Pairwise (fun a b => key a.1 < key b.1)

/-- The entry whose key is equivalent to `b`. -/
def find (m : List (K × V)) (b : B) : Option (K × V) := m.find? (fun e => key e.1 = b)

/-- `BTreeMap::insert`: the map, and the value that the key had. An entry already there keeps its
key and takes the new value. -/
def insert : List (K × V) → K → V → List (K × V) × Option V
  | [], k, v => ([(k, v)], none)
  | (k', v') :: rest, k, v =>
    if key k < key k' then ((k, v) :: (k', v') :: rest, none)
    else if key k = key k' then ((k', v) :: rest, some v')
    else ((k', v') :: (insert rest k v).1, (insert rest k v).2)

/-- `BTreeMap::remove`: the map without the entry of `k`'s key, and that entry's value. -/
def remove : List (K × V) → K → List (K × V) × Option V
  | [], _ => ([], none)
  | (k', v') :: rest, k =>
    if key k' = key k then (rest, some v')
    else ((k', v') :: (remove rest k).1, (remove rest k).2)

/-- `range(..=k).next_back()`: the last entry whose key is at most `k`'s. -/
def last_le (m : List (K × V)) (k : K) : Option (K × V) :=
  (m.filter fun e => key e.1 ≤ key k).getLast?

variable {key}

@[simp] theorem sorted_nil : Sorted key ([] : List (K × V)) := List.Pairwise.nil

theorem sorted_cons {e : K × V} {m : List (K × V)} :
    Sorted key (e :: m) ↔ (∀ e' ∈ m, key e.1 < key e'.1) ∧ Sorted key m :=
  List.pairwise_cons

@[simp] theorem find_nil {b : B} : find key ([] : List (K × V)) b = none := rfl

theorem find_cons {e : K × V} {m : List (K × V)} {b : B} :
    find key (e :: m) b = if key e.1 = b then some e else find key m b := by
  by_cases h : key e.1 = b <;> simp [find, h]

theorem find_eq_none {m : List (K × V)} {b : B} :
    find key m b = none ↔ ∀ e ∈ m, key e.1 ≠ b := by
  simp [find, List.find?_eq_none]

theorem find_spec {m : List (K × V)} {b : B} {e : K × V} (h : find key m b = some e) :
    e ∈ m ∧ key e.1 = b := by
  have hp := List.find?_some h
  exact ⟨List.mem_of_find?_eq_some h, by simpa using hp⟩

/-- In a sorted map, an entry is what `find` gives for its key. -/
theorem find_of_mem {m : List (K × V)} (hs : Sorted key m) {e : K × V} (he : e ∈ m) :
    find key m (key e.1) = some e := by
  induction m with
  | nil => cases he
  | cons e' m ih =>
    obtain ⟨hlt, hs'⟩ := sorted_cons.mp hs
    rw [find_cons]
    rcases List.mem_cons.mp he with rfl | he'
    · simp
    · have hne : key e'.1 ≠ key e.1 := ne_of_lt (hlt e he')
      rw [if_neg hne]
      exact ih hs' he'

/-! ## `insert` -/

theorem mem_insert {m : List (K × V)} {k : K} {v : V} {e : K × V}
    (he : e ∈ (insert key m k v).1) :
    e = (k, v) ∨ e ∈ m ∨ (key e.1 = key k ∧ ∃ v', (e.1, v') ∈ m) := by
  induction m with
  | nil => simpa [insert] using he
  | cons e' m ih =>
    obtain ⟨k', v'⟩ := e'
    simp only [insert] at he
    split_ifs at he with hlt heq
    · rcases List.mem_cons.mp he with rfl | he'
      · exact .inl rfl
      · exact .inr (.inl he')
    · rcases List.mem_cons.mp he with rfl | he'
      · exact .inr (.inr ⟨heq.symm, v', by simp⟩)
      · exact .inr (.inl (List.mem_cons_of_mem _ he'))
    · rcases List.mem_cons.mp he with rfl | he'
      · exact .inr (.inl (by simp))
      · rcases ih he' with h | h | ⟨hk, v'', hv⟩
        · exact .inl h
        · exact .inr (.inl (List.mem_cons_of_mem _ h))
        · exact .inr (.inr ⟨hk, v'', List.mem_cons_of_mem _ hv⟩)

theorem insert_sorted {m : List (K × V)} (hs : Sorted key m) (k : K) (v : V) :
    Sorted key (insert key m k v).1 := by
  induction m with
  | nil => simp [insert, Sorted]
  | cons e' m ih =>
    obtain ⟨k', v'⟩ := e'
    obtain ⟨hlt, hs'⟩ := sorted_cons.mp hs
    simp only [insert]
    split_ifs with hk heq
    · refine sorted_cons.mpr ⟨fun e he => ?_, hs⟩
      rcases List.mem_cons.mp he with rfl | he'
      · exact hk
      · exact lt_trans hk (hlt e he')
    · exact sorted_cons.mpr ⟨hlt, hs'⟩
    · -- `k` goes after `k'`: so does every entry of the insert into the rest
      have hgt : key k' < key k := lt_of_le_of_ne (not_lt.mp hk) (Ne.symm heq)
      refine sorted_cons.mpr ⟨fun e he => ?_, ih hs'⟩
      rcases mem_insert he with rfl | he' | ⟨hke, v'', hv⟩
      · exact hgt
      · exact hlt e he'
      · exact hlt (e.1, v'') hv

/-- What `insert` finds: the entry of `k`'s key takes the value `v` and keeps its key if it had
one; every other key is as before. -/
theorem find_insert {m : List (K × V)} (hs : Sorted key m) (k : K) (v : V) (b : B) :
    find key (insert key m k v).1 b =
      if key k = b then some (((find key m b).map Prod.fst).getD k, v) else find key m b := by
  induction m with
  | nil => by_cases h : key k = b <;> simp [insert, find_cons, h]
  | cons e' m ih =>
    obtain ⟨k', v'⟩ := e'
    obtain ⟨hlt, hs'⟩ := sorted_cons.mp hs
    simp only [insert]
    by_cases hk : key k < key k'
    · rw [if_pos hk]
      by_cases hb : key k = b
      · -- `k` is new and least: nothing in the map has its key
        subst hb
        have hnone : find key ((k', v') :: m) (key k) = none := find_eq_none.mpr fun e he => by
          rcases List.mem_cons.mp he with rfl | he'
          · exact ne_of_gt hk
          · exact ne_of_gt (lt_trans hk (hlt e he'))
        simp [find_cons, hnone]
      · rw [if_neg hb, find_cons, if_neg hb]
    rw [if_neg hk]
    by_cases heq : key k = key k'
    · -- the entry of `k'` keeps its key and takes `v`
      rw [if_pos heq]
      by_cases hb : key k = b
      · subst hb
        simp [find_cons, heq]
      · have hb' : key k' ≠ b := heq ▸ hb
        rw [if_neg hb, find_cons, find_cons, if_neg (show ¬ key (k', v).1 = b from hb'),
          if_neg (show ¬ key (k', v').1 = b from hb')]
    · rw [if_neg heq]
      have hne : key k' ≠ key k := Ne.symm heq
      by_cases hb : key k = b
      · subst hb
        rw [find_cons, if_neg hne, ih hs', if_pos rfl, if_pos rfl, find_cons, if_neg hne]
      · rw [if_neg hb, find_cons, find_cons, ih hs', if_neg hb]

/-- `insert` returns the value the key had. -/
theorem insert_snd {m : List (K × V)} (hs : Sorted key m) (k : K) (v : V) :
    (insert key m k v).2 = (find key m (key k)).map Prod.snd := by
  induction m with
  | nil => rfl
  | cons e' m ih =>
    obtain ⟨k', v'⟩ := e'
    obtain ⟨hlt, hs'⟩ := sorted_cons.mp hs
    simp only [insert]
    split_ifs with hk heq
    · have hnone : find key ((k', v') :: m) (key k) = none := find_eq_none.mpr fun e he => by
        rcases List.mem_cons.mp he with rfl | he'
        · exact ne_of_gt hk
        · exact ne_of_gt (lt_trans hk (hlt e he'))
      rw [hnone]
      rfl
    · simp [find_cons, heq]
    · rw [ih hs', find_cons, if_neg (Ne.symm heq)]

/-! ## `remove` -/

theorem remove_sublist (m : List (K × V)) (k : K) : List.Sublist (remove key m k).1 m := by
  induction m with
  | nil => exact List.Sublist.slnil
  | cons e' m ih =>
    simp only [remove]
    split_ifs
    · exact List.sublist_cons_self _ _
    · exact ih.cons_cons _

theorem remove_sorted {m : List (K × V)} (hs : Sorted key m) (k : K) :
    Sorted key (remove key m k).1 :=
  hs.sublist (remove_sublist m k)

theorem find_remove {m : List (K × V)} (hs : Sorted key m) (k : K) (b : B) :
    find key (remove key m k).1 b = if key k = b then none else find key m b := by
  induction m with
  | nil => by_cases h : key k = b <;> simp [remove, h]
  | cons e' m ih =>
    obtain ⟨hlt, hs'⟩ := sorted_cons.mp hs
    simp only [remove]
    split_ifs with heq hb hb
    · -- the removed entry was the only one with the key
      subst hb
      exact find_eq_none.mpr fun e he => heq ▸ ne_of_gt (hlt e he)
    · rw [find_cons, heq, if_neg hb]
    · subst hb
      rw [find_cons, if_neg heq, ih hs', if_pos rfl]
    · rw [find_cons, find_cons, ih hs', if_neg hb]

theorem remove_snd (m : List (K × V)) (k : K) :
    (remove key m k).2 = (find key m (key k)).map Prod.snd := by
  induction m with
  | nil => rfl
  | cons e' m ih =>
    simp only [remove]
    split_ifs with heq
    · simp [find_cons, heq]
    · rw [ih, find_cons, if_neg heq]

/-! ## `last_le` -/

theorem last_le_spec {m : List (K × V)} (hs : Sorted key m) {k : K} {e : K × V}
    (h : last_le key m k = some e) :
    e ∈ m ∧ key e.1 ≤ key k ∧ ∀ e' ∈ m, key e'.1 ≤ key k → key e'.1 ≤ key e.1 := by
  obtain ⟨ys, hys⟩ := List.getLast?_eq_some_iff.mp h
  have hmem : e ∈ m.filter fun e => key e.1 ≤ key k := by
    rw [hys]
    exact List.mem_append_right _ (List.mem_singleton_self e)
  obtain ⟨he, hle⟩ := List.mem_filter.mp hmem
  refine ⟨he, by simpa using hle, fun e' he' hle' => ?_⟩
  -- the filtered list is sorted and ends with `e`, so every other entry of it is below `e`
  have hsorted : Sorted key (ys ++ [e]) := hys ▸ hs.filter _
  have hmem' : e' ∈ ys ++ [e] := hys ▸ List.mem_filter.mpr ⟨he', by simpa using hle'⟩
  rcases List.mem_append.mp hmem' with hy | hy
  · exact le_of_lt ((List.pairwise_append.mp hsorted).2.2 e' hy e (List.mem_singleton_self e))
  · rw [List.mem_singleton.mp hy]

/-- In a sorted map, `range(..=k).next_back()` is the entry with the greatest key at most `k`'s. -/
theorem last_le_eq_some_iff {m : List (K × V)} (hs : Sorted key m) {k : K} {e : K × V} :
    last_le key m k = some e ↔
      e ∈ m ∧ key e.1 ≤ key k ∧ ∀ e' ∈ m, key e'.1 ≤ key k → key e'.1 ≤ key e.1 := by
  refine ⟨last_le_spec hs, fun ⟨he, hle, hmax⟩ => ?_⟩
  cases h : last_le key m k with
  | none =>
    have hnil := List.getLast?_eq_none_iff.mp h
    have hmem : e ∈ m.filter fun e => key e.1 ≤ key k := List.mem_filter.mpr ⟨he, by simpa using hle⟩
    rw [hnil] at hmem
    cases hmem
  | some e₀ =>
    -- both are greatest, so their keys agree, and a sorted map has one entry per key
    obtain ⟨he₀, hle₀, hmax₀⟩ := last_le_spec hs h
    have hkey : key e.1 = key e₀.1 := le_antisymm (hmax₀ e he hle) (hmax e₀ he₀ hle₀)
    have h₁ := find_of_mem hs he
    rw [hkey, find_of_mem hs he₀] at h₁
    rw [h₁]

/-! ## Extensionality -/

/-- The head of a sorted map has the least key. -/
theorem Sorted.head_le {e : K × V} {m : List (K × V)} (hs : Sorted key (e :: m)) {e' : K × V}
    (he' : e' ∈ e :: m) : key e.1 ≤ key e'.1 := by
  rcases List.mem_cons.mp he' with rfl | he'
  · exact le_refl _
  · exact le_of_lt ((sorted_cons.mp hs).1 e' he')

/-- Two sorted maps with the same `find` are equal. -/
theorem eq_of_find_eq {m₁ m₂ : List (K × V)} (h₁ : Sorted key m₁) (h₂ : Sorted key m₂)
    (h : ∀ b, find key m₁ b = find key m₂ b) : m₁ = m₂ := by
  induction m₁ generalizing m₂ with
  | nil =>
    cases m₂ with
    | nil => rfl
    | cons e m₂ => simpa [find_cons] using (h (key e.1)).symm
  | cons e₁ m₁ ih =>
    cases m₂ with
    | nil => simpa [find_cons] using h (key e₁.1)
    | cons e₂ m₂ =>
      -- each head is in the other map, so each key is at most the other
      have he₂ := (find_spec ((h (key e₂.1)).trans (find_of_mem h₂ List.mem_cons_self))).1
      have he₁ := (find_spec ((h (key e₁.1)).symm.trans (find_of_mem h₁ List.mem_cons_self))).1
      have hkey : key e₁.1 = key e₂.1 := le_antisymm (h₁.head_le he₂) (h₂.head_le he₁)
      have heq : e₁ = e₂ := by
        have := h (key e₁.1)
        rw [find_of_mem h₁ List.mem_cons_self, hkey, find_of_mem h₂ List.mem_cons_self] at this
        exact Option.some.inj this
      subst heq
      obtain ⟨hlt₁, hs₁⟩ := sorted_cons.mp h₁
      obtain ⟨hlt₂, hs₂⟩ := sorted_cons.mp h₂
      refine congrArg _ (ih hs₁ hs₂ fun b => ?_)
      by_cases hb : key e₁.1 = b
      · subst hb
        rw [find_eq_none.mpr fun e he => ne_of_gt (hlt₁ e he),
          find_eq_none.mpr fun e he => ne_of_gt (hlt₂ e he)]
      · have := h b
        rwa [find_cons, find_cons, if_neg hb, if_neg hb] at this

end BTreeMap
