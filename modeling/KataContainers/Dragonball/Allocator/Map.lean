import KataContainers.Dragonball.Allocator.Shape
import KataContainers.Lib.List

/-!
# The interval tree as a map

An interval tree stands for the map from its keys to their states, `Tree.entries` in key order.
Under the representation invariant `Tree.Valid` (every key a range with `min ≤ max`, as
`Range::new` makes it, each key ending before the next begins, and the AVL shape) the operations of
`IntervalTree` are those of the map (`IntervalTree.map_spec`): `get` looks the key up,
`get_superset` finds the one entry that contains a range, `insert` panics exactly on a key that
meets one of the map's and otherwise adds it, and `delete` takes the key's entry out.

`Node::insert` and `Node::search_superset` compare the key with the nodes of one path only. That
this is enough rests on the keys being well formed: past a key whose `min` is above its `max`,
`insert` misses a key that the new one meets (`insert_misses_intersection`); and past a query
range whose `min` is above its `max`, which several keys may contain, `get_superset` returns the
first of them on its path (`get_superset_of_inverted_range`).
-/

namespace KataContainers.Dragonball.Allocator

/-! ## The order of ranges -/

namespace Range

/-- A range as `Range::new` makes it. -/
def Valid (r : Range) : Prop := r.min ≤ r.max

instance (r : Range) : Decidable r.Valid := inferInstanceAs (Decidable (r.min ≤ r.max))

/-- `a` ends before `b` begins. -/
def Before (a b : Range) : Prop := a.max < b.min

instance (a b : Range) : Decidable (a.Before b) := inferInstanceAs (Decidable (a.max < b.min))

theorem valid_iff {r : Range} : r.Valid ↔ r.min.toNat ≤ r.max.toNat := UInt64.le_iff_toNat_le

theorem before_iff {a b : Range} : a.Before b ↔ a.max.toNat < b.min.toNat := UInt64.lt_iff_toNat_lt

theorem eq_iff {a b : Range} : a = b ↔ a.min.toNat = b.min.toNat ∧ a.max.toNat = b.max.toNat := by
  rw [UInt64.toNat_inj, UInt64.toNat_inj]
  constructor
  · rintro rfl
    exact ⟨rfl, rfl⟩
  · rintro ⟨h₁, h₂⟩
    cases a
    cases b
    simp only at h₁ h₂
    rw [h₁, h₂]

theorem cmp_eq_lt_iff {a b : Range} : a.cmp b = .lt ↔
    a.min.toNat < b.min.toNat ∨ (a.min.toNat = b.min.toNat ∧ a.max.toNat < b.max.toNat) := by
  unfold Range.cmp
  rw [UInt64.compare_eq_toNat_compare_toNat, UInt64.compare_eq_toNat_compare_toNat]
  rcases Nat.lt_trichotomy a.min.toNat b.min.toNat with h | h | h
  · rw [Nat.compare_eq_lt.mpr h]
    simp [h]
  · rw [Nat.compare_eq_eq.mpr h, Nat.compare_eq_lt]
    simp [h]
  · rw [Nat.compare_eq_gt.mpr h]
    simp only [reduceCtorEq, false_iff]
    omega

theorem cmp_eq_gt_iff {a b : Range} : a.cmp b = .gt ↔
    b.min.toNat < a.min.toNat ∨ (a.min.toNat = b.min.toNat ∧ b.max.toNat < a.max.toNat) := by
  unfold Range.cmp
  rw [UInt64.compare_eq_toNat_compare_toNat, UInt64.compare_eq_toNat_compare_toNat]
  rcases Nat.lt_trichotomy a.min.toNat b.min.toNat with h | h | h
  · rw [Nat.compare_eq_lt.mpr h]
    simp only [reduceCtorEq, false_iff]
    omega
  · rw [Nat.compare_eq_eq.mpr h, Nat.compare_eq_gt]
    simp [h]
  · rw [Nat.compare_eq_gt.mpr h]
    simp [h]

theorem cmp_eq_eq_iff {a b : Range} : a.cmp b = .eq ↔ a = b := by
  rw [eq_iff]
  unfold Range.cmp
  rw [UInt64.compare_eq_toNat_compare_toNat, UInt64.compare_eq_toNat_compare_toNat]
  rcases Nat.lt_trichotomy a.min.toNat b.min.toNat with h | h | h
  · rw [Nat.compare_eq_lt.mpr h]
    simp only [reduceCtorEq, false_iff]
    omega
  · rw [Nat.compare_eq_eq.mpr h, Nat.compare_eq_eq]
    simp [h]
  · rw [Nat.compare_eq_gt.mpr h]
    simp only [reduceCtorEq, false_iff]
    omega

theorem intersect_iff {a b : Range} :
    a.intersect b = true ↔ Max.max a.min.toNat b.min.toNat ≤ Min.min a.max.toNat b.max.toNat := by
  rw [Range.intersect, decide_eq_true_iff, UInt64.le_iff_toNat_le, UInt64.toNat_max,
    UInt64.toNat_min]

theorem contain_iff {a b : Range} :
    a.contain b = true ↔ a.min.toNat ≤ b.min.toNat ∧ b.max.toNat ≤ a.max.toNat := by
  simp [Range.contain, UInt64.le_iff_toNat_le]

theorem cmp_lt_trans {a b c : Range} (h₁ : a.cmp b = .lt) (h₂ : b.cmp c = .lt) : a.cmp c = .lt := by
  rw [cmp_eq_lt_iff] at *
  omega

theorem cmp_eq_gt_iff_lt {a b : Range} : a.cmp b = .gt ↔ b.cmp a = .lt := by
  rw [cmp_eq_gt_iff, cmp_eq_lt_iff]
  omega

theorem ne_of_cmp_lt {a b : Range} (h : a.cmp b = .lt) : a ≠ b := by
  rw [cmp_eq_lt_iff] at h
  rw [Ne, eq_iff]
  omega

/-- Through a well-formed range, ending before is transitive. -/
theorem Before.trans {a b c : Range} (hb : b.Valid) (h₁ : a.Before b) (h₂ : b.Before c) :
    a.Before c := by
  rw [before_iff, valid_iff] at *
  omega

theorem Before.cmp_lt {a b : Range} (ha : a.Valid) (h : a.Before b) : a.cmp b = .lt := by
  rw [before_iff, valid_iff, cmp_eq_lt_iff] at *
  omega

theorem Before.not_intersect {a b : Range} (h : a.Before b) : a.intersect b = false := by
  rw [← Bool.not_eq_true, intersect_iff]
  rw [before_iff] at h
  omega

/-- A range that `intersect` does not meet, and that comes after a well-formed one, begins after it
ends. -/
theorem before_of_cmp_lt {a b : Range} (hb : b.Valid) (hc : a.cmp b = .lt)
    (hi : ¬ a.intersect b = true) : a.Before b := by
  rw [before_iff, valid_iff, cmp_eq_lt_iff, intersect_iff] at *
  omega

theorem intersect_comm {a b : Range} : a.intersect b = b.intersect a := by
  apply Bool.eq_iff_iff.mpr
  rw [intersect_iff, intersect_iff]
  omega

end Range

/-- The keys are well-formed ranges, each ending before the next begins. -/
def OrderedKeys (ks : List Range) : Prop := (∀ k ∈ ks, k.Valid) ∧ ks.Pairwise Range.Before

instance (ks : List Range) : Decidable (OrderedKeys ks) :=
  inferInstanceAs (Decidable ((∀ k ∈ ks, k.Valid) ∧ ks.Pairwise Range.Before))

theorem orderedKeys_append_cons {l r : List Range} {k : Range} :
    OrderedKeys (l ++ k :: r) ↔ OrderedKeys l ∧ OrderedKeys r ∧ k.Valid ∧
      (∀ e ∈ l, e.Before k) ∧ ∀ e ∈ r, k.Before e := by
  simp only [OrderedKeys, List.mem_append, List.mem_cons]
  constructor
  · rintro ⟨hv, hp⟩
    have hk : k.Valid := hv k (.inr (.inl rfl))
    obtain ⟨hl, hr, hlk, hkr⟩ := (List.pairwise_append_cons_iff fun x y (hxk : x.Before k)
      (hky : k.Before y) => Range.Before.trans hk hxk hky).mp hp
    exact ⟨⟨fun e he => hv e (.inl he), hl⟩, ⟨fun e he => hv e (.inr (.inr he)), hr⟩, hk, hlk, hkr⟩
  · rintro ⟨⟨hvl, hl⟩, ⟨hvr, hr⟩, hk, hlk, hkr⟩
    refine ⟨fun e he => ?_, (List.pairwise_append_cons_iff fun x y (hxk : x.Before k)
      (hky : k.Before y) => Range.Before.trans hk hxk hky).mpr ⟨hl, hr, hlk, hkr⟩⟩
    rcases he with he | rfl | he
    · exact hvl e he
    · exact hk
    · exact hvr e he

theorem OrderedKeys.sublist {l₁ l₂ : List Range} (h : List.Sublist l₁ l₂) (ho : OrderedKeys l₂) :
    OrderedKeys l₁ :=
  ⟨fun k hk => ho.1 k (h.subset hk), ho.2.sublist h⟩

theorem OrderedKeys.nodup {ks : List Range} (ho : OrderedKeys ks) : ks.Nodup :=
  ho.2.imp_of_mem fun ha _ hab heq => by
    subst heq
    have := ho.1 _ ha
    rw [Range.before_iff] at hab
    rw [Range.valid_iff] at this
    omega

/-! ## The invariant of a tree -/

/-- The state `Node::new` gives a new node. -/
def NodeState.of_option {T : Type} : Option T → NodeState T
  | some t => .Valued t
  | Option.none => .Free

namespace Tree

variable {T : Type}

/-- The keys in increasing `(min, max)` order. -/
def Sorted (t : Tree T) : Prop := t.keys.Pairwise (fun a b => a.cmp b = .lt)

/-- No two keys intersect. -/
def Disjoint (t : Tree T) : Prop := t.keys.Pairwise (fun a b => a.intersect b = false)

def Ordered (t : Tree T) : Prop := OrderedKeys t.keys

instance (t : Tree T) : Decidable t.Sorted :=
  inferInstanceAs (Decidable (t.keys.Pairwise (fun a b => a.cmp b = .lt)))

instance (t : Tree T) : Decidable t.Disjoint :=
  inferInstanceAs (Decidable (t.keys.Pairwise (fun a b => a.intersect b = false)))

/-- The representation invariant: the keys are well-formed ranges, each ending before the next
begins, and the shape is AVL. -/
structure Valid (t : Tree T) : Prop where
  ordered : t.Ordered
  avl : t.Avl

theorem valid_iff {t : Tree T} : t.Valid ↔ t.Ordered ∧ t.Avl :=
  ⟨fun h => ⟨h.1, h.2⟩, fun h => ⟨h.1, h.2⟩⟩

instance (t : Tree T) : Decidable t.Valid :=
  have : Decidable t.Ordered := inferInstanceAs (Decidable (OrderedKeys t.keys))
  decidable_of_iff' _ valid_iff

theorem mem_keys {t : Tree T} {e : Range × NodeState T} (h : e ∈ t.entries) : e.1 ∈ t.keys :=
  List.mem_map_of_mem h

@[simp] theorem entries_new {key : Range} {data : Option T} :
    (new key data).entries = [(key, NodeState.of_option data)] := by
  cases data <;> rfl

theorem ordered_node {k : Range} {d : NodeState T} {l r : Tree T} {h : Nat} {m : UInt64} :
    (Tree.node k d l r h m).Ordered ↔ l.Ordered ∧ r.Ordered ∧ k.Valid ∧
      (∀ e ∈ l.keys, e.Before k) ∧ ∀ e ∈ r.keys, k.Before e := by
  rw [Ordered, keys_node, orderedKeys_append_cons]
  rfl

theorem sorted_node {k : Range} {d : NodeState T} {l r : Tree T} {h : Nat} {m : UInt64} :
    (Tree.node k d l r h m).Sorted ↔ l.Sorted ∧ r.Sorted ∧
      (∀ e ∈ l.keys, e.cmp k = .lt) ∧ ∀ e ∈ r.keys, k.cmp e = .lt := by
  rw [Sorted, keys_node, List.pairwise_append_cons_iff fun _ _ => Range.cmp_lt_trans]
  rfl

theorem Ordered.sorted {t : Tree T} (ho : t.Ordered) : t.Sorted :=
  ho.2.imp_of_mem fun ha _ hab => hab.cmp_lt (ho.1 _ ha)

theorem Ordered.disjoint {t : Tree T} (ho : t.Ordered) : t.Disjoint :=
  ho.2.imp Range.Before.not_intersect

/-! ## Looking up -/

section Search

variable {key : Range}

/-- In sorted keys, `Node::search` finds the state of the key, if it is there. -/
theorem search_eq_lookup {t : Tree T} (hs : t.Sorted) :
    (t.search key).map Prod.snd = t.entries.lookup key := by
  induction t with
  | none => rfl
  | node k d l r h m ihl ihr =>
    obtain ⟨hsl, hsr, hlk, hkr⟩ := sorted_node.mp hs
    rw [entries_node, List.lookup_append, List.lookup_cons]
    simp only [search]
    cases hc : k.cmp key with
    | eq =>
      obtain rfl := Range.cmp_eq_eq_iff.mp hc
      -- every key left of `k` is below it
      rw [List.lookup_eq_none_of_forall_ne fun e he => Range.ne_of_cmp_lt (hlk _ (mem_keys he))]
      simp
    | lt =>
      have hl : l.entries.lookup key = Option.none := List.lookup_eq_none_of_forall_ne fun e he =>
        Range.ne_of_cmp_lt (Range.cmp_lt_trans (hlk _ (mem_keys he)) hc)
      rw [hl, ihr hsr, beq_false_of_ne (Range.ne_of_cmp_lt hc).symm]
      rfl
    | gt =>
      have hgt := Range.cmp_eq_gt_iff_lt.mp hc
      have hr : r.entries.lookup key = Option.none := List.lookup_eq_none_of_forall_ne fun e he =>
        (Range.ne_of_cmp_lt (Range.cmp_lt_trans hgt (hkr _ (mem_keys he)))).symm
      rw [ihl hsl, beq_false_of_ne (Range.ne_of_cmp_lt hgt), hr, Option.or_none]

/-- What `Node::search_superset` finds is an entry that contains the range. -/
theorem search_superset_sound {q : Range} {t : Tree T} {e : Range × NodeState T}
    (h : t.search_superset q = some e) : e ∈ t.entries ∧ e.1.contain q = true := by
  induction t with
  | none => cases h
  | node k d l r hh m ihl ihr =>
    simp only [search_superset] at h
    split at h
    · next hc =>
      cases h
      exact ⟨by simp, hc⟩
    split at h
    · obtain ⟨he, hc⟩ := ihl h
      exact ⟨by simp [he], hc⟩
    split at h
    · obtain ⟨he, hc⟩ := ihr h
      exact ⟨by simp [he], hc⟩
    · cases h

theorem eq_none_of_is_some {t : Tree T} (h : ¬ t.is_some = true) : t = .none := by
  cases t with
  | none => rfl
  | node k d l r hh m => exact absurd rfl h

/-- No key before `k` contains a range that reaches `k`. -/
theorem find_contain_left {l : Tree T} {k q : Range} (hlk : ∀ e ∈ l.keys, e.Before k)
    (hq : k.min.toNat ≤ q.max.toNat ∨ l = .none) :
    l.entries.find? (fun e => e.1.contain q) = Option.none := by
  rcases hq with hq | rfl
  · refine List.find?_eq_none.mpr fun e he hc => ?_
    have hb := hlk _ (mem_keys he)
    rw [Range.before_iff] at hb
    rw [Range.contain_iff] at hc
    omega
  · rfl

/-- No key after `k` contains a range that starts before `k` ends. -/
theorem find_contain_right {r : Tree T} {k q : Range} (hkr : ∀ e ∈ r.keys, k.Before e)
    (hq : q.min.toNat ≤ k.max.toNat ∨ r = .none) :
    r.entries.find? (fun e => e.1.contain q) = Option.none := by
  rcases hq with hq | rfl
  · refine List.find?_eq_none.mpr fun e he hc => ?_
    have hb := hkr _ (mem_keys he)
    rw [Range.before_iff] at hb
    rw [Range.contain_iff] at hc
    omega
  · rfl

/-- In ordered keys, `Node::search_superset` finds the first entry that contains a well-formed
range, although it looks on one side of each node only. -/
theorem search_superset_eq_find {q : Range} {t : Tree T} (ho : t.Ordered) (hq : q.Valid) :
    t.search_superset q = t.entries.find? (fun e => e.1.contain q) := by
  induction t with
  | none => rfl
  | node k d l r hh m ihl ihr =>
    obtain ⟨hol, hor, hk, hlk, hkr⟩ := ordered_node.mp ho
    rw [Range.valid_iff] at hq hk
    rw [entries_node, List.find?_append, List.find?_cons]
    simp only [search_superset]
    by_cases hc : k.contain q = true
    · have := Range.contain_iff.mp hc
      rw [if_pos hc, find_contain_left hlk (.inl (by omega)), hc]
      rfl
    rw [if_neg hc, Bool.not_eq_true] at *
    rw [hc]
    by_cases h₁ : q.max < k.min ∧ l.is_some = true
    · -- the range ends before `k`: only the left side can hold it
      have := UInt64.lt_iff_toNat_lt.mp h₁.1
      rw [if_pos h₁, ihl hol, find_contain_right hkr (.inl (by omega)), Option.or_none]
    rw [if_neg h₁]
    by_cases h₂ : q.min > k.max ∧ r.is_some = true
    · have := UInt64.lt_iff_toNat_lt.mp h₂.1
      rw [if_pos h₂, ihr hor, find_contain_left hlk (.inl (by omega)), Option.none_or]
    rw [if_neg h₂]
    -- the range meets `k` without lying in it, or the side it would lie on is empty
    have hl : k.min.toNat ≤ q.max.toNat ∨ l = .none := by
      by_cases hlt : q.max < k.min
      · exact .inr (eq_none_of_is_some fun hs => h₁ ⟨hlt, hs⟩)
      · have := mt UInt64.lt_iff_toNat_lt.mpr hlt
        exact .inl (by omega)
    have hr : q.min.toNat ≤ k.max.toNat ∨ r = .none := by
      by_cases hgt : q.min > k.max
      · exact .inr (eq_none_of_is_some fun hs => h₂ ⟨hgt, hs⟩)
      · have := mt UInt64.lt_iff_toNat_lt.mpr hgt
        exact .inl (by omega)
    rw [find_contain_left hlk hl, find_contain_right hkr hr]
    rfl

/-- In ordered keys, at most one entry contains a well-formed range. -/
theorem contain_unique {q : Range} {t : Tree T} (ho : t.Ordered) (hq : q.Valid)
    {e₁ e₂ : Range × NodeState T} (h₁ : e₁ ∈ t.entries) (h₂ : e₂ ∈ t.entries)
    (hc₁ : e₁.1.contain q = true) (hc₂ : e₂.1.contain q = true) : e₁ = e₂ := by
  have hkey : e₁.1 = e₂.1 := by
    by_contra hne
    rw [Range.contain_iff] at hc₁ hc₂
    rw [Range.valid_iff] at hq
    rcases ho.2.rel_or_rel (mem_keys h₁) (mem_keys h₂) hne with h | h <;>
      rw [Range.before_iff] at h <;> omega
  exact List.inj_on_of_nodup_map ho.nodup h₁ h₂ hkey

end Search

/-! ## Inserting -/

section Insert

variable {key : Range} {data : Option T}

/-- A successful `Node::insert` puts the new entry between the entries it went past. -/
theorem insert_entries {t t' : Tree T} (h : t.insert key data = .ok t') :
    ∃ l₁ l₂, t.entries = l₁ ++ l₂ ∧ t'.entries = l₁ ++ (key, NodeState.of_option data) :: l₂ := by
  induction t generalizing t' with
  | none =>
    cases h
    exact ⟨[], [], rfl, entries_new⟩
  | node k d l r hh m ihl ihr =>
    simp only [insert] at h
    split at h
    · cases h
    · split at h
      · cases h
      · obtain ⟨r', hr, h⟩ := Except.bind_eq_ok_iff.mp h
        obtain ⟨r₁, r₂, hr₁, hr₂⟩ := ihr hr
        refine ⟨l.entries ++ (k, d) :: r₁, r₂, by simp [hr₁], ?_⟩
        rw [updated_node_entries h, entries_node, hr₂]
        simp
    · split at h
      · cases h
      · obtain ⟨l', hl, h⟩ := Except.bind_eq_ok_iff.mp h
        obtain ⟨l₁, l₂, hl₁, hl₂⟩ := ihl hl
        refine ⟨l₁, l₂ ++ (k, d) :: r.entries, by simp [hl₁], ?_⟩
        rw [updated_node_entries h, entries_node, hl₂]
        simp

theorem mem_keys_of_insert {t t' : Tree T} (h : t.insert key data = .ok t') {e : Range}
    (he : e ∈ t'.keys) : e ∈ t.keys ∨ e = key := by
  obtain ⟨l₁, l₂, h₁, h₂⟩ := insert_entries h
  simp only [keys, h₁, h₂, List.map_append, List.map_cons, List.mem_append, List.mem_cons] at he ⊢
  tauto

/-- `Node::insert` panics on the key itself, or on a key that it meets. -/
theorem insert_error_mem {t : Tree T} {p : Panic} (h : t.insert key data = .error p)
    (hp : p = .keyExists ∨ p = .keyIntersects) : ∃ e ∈ t.keys, e = key ∨ e.intersect key = true := by
  induction t with
  | none => cases h
  | node k d l r hh m ihl ihr =>
    simp only [insert] at h
    split at h
    · next hc => exact ⟨k, by simp, .inl (Range.cmp_eq_eq_iff.mp hc)⟩
    · split at h
      · next hi => exact ⟨k, by simp, .inr hi⟩
      · cases hr : r.insert key data with
        | error e =>
          rw [hr] at h
          cases h
          obtain ⟨e, he, hek⟩ := ihr hr
          exact ⟨e, by simp [he], hek⟩
        | ok r' =>
          rw [hr, Except.ok_bind_eq] at h
          rcases updated_node_error h with rfl | rfl <;> simp at hp
    · split at h
      · next hi => exact ⟨k, by simp, .inr hi⟩
      · cases hl : l.insert key data with
        | error e =>
          rw [hl] at h
          cases h
          obtain ⟨e, he, hek⟩ := ihl hl
          exact ⟨e, by simp [he], hek⟩
        | ok l' =>
          rw [hl, Except.ok_bind_eq] at h
          rcases updated_node_error h with rfl | rfl <;> simp at hp

/-- A key before `k`, where `k` is before a key it does not meet, is not that key and does not
meet it either. -/
theorem Range.sep_of_cmp_lt {e k key : Range} (he : e.Before k) (hev : e.Valid) (hk : k.Valid)
    (hc : k.cmp key = .lt) (hi : ¬ k.intersect key = true) : e ≠ key ∧ e.intersect key = false := by
  rw [Range.before_iff, Range.valid_iff] at *
  rw [Range.cmp_eq_lt_iff] at hc
  rw [Range.intersect_iff] at hi
  rw [Ne, Range.eq_iff, ← Bool.not_eq_true, Range.intersect_iff]
  omega

theorem Range.sep_of_cmp_gt {e k key : Range} (he : k.Before e) (hev : e.Valid) (hk : k.Valid)
    (hc : k.cmp key = .gt) (hi : ¬ k.intersect key = true) : e ≠ key ∧ e.intersect key = false := by
  rw [Range.before_iff, Range.valid_iff] at *
  rw [Range.cmp_eq_gt_iff] at hc
  rw [Range.intersect_iff] at hi
  rw [Ne, Range.eq_iff, ← Bool.not_eq_true, Range.intersect_iff]
  omega

/-- In ordered keys, a `Node::insert` that succeeds was given a key that is none of the keys and
meets none of them: every key that meets it lies next to it in key order, and so on its path. -/
theorem insert_ok_disjoint {t t' : Tree T} (ho : t.Ordered) (h : t.insert key data = .ok t') :
    ∀ e ∈ t.keys, e ≠ key ∧ e.intersect key = false := by
  induction t generalizing t' with
  | none => simp
  | node k d l r hh m ihl ihr =>
    obtain ⟨hol, hor, hk, hlk, hkr⟩ := ordered_node.mp ho
    simp only [insert] at h
    split at h
    · cases h
    · next hc =>
      split at h
      · cases h
      · next hi =>
        obtain ⟨r', hr, -⟩ := Except.bind_eq_ok_iff.mp h
        intro e he
        simp only [keys_node, List.mem_append, List.mem_cons] at he
        rcases he with he | rfl | he
        · exact Range.sep_of_cmp_lt (hlk e he) (hol.1 e he) hk hc hi
        · exact ⟨Range.ne_of_cmp_lt hc, Bool.not_eq_true _ ▸ hi⟩
        · exact ihr hor hr e he
    · next hc =>
      split at h
      · cases h
      · next hi =>
        obtain ⟨l', hl, -⟩ := Except.bind_eq_ok_iff.mp h
        intro e he
        simp only [keys_node, List.mem_append, List.mem_cons] at he
        rcases he with he | rfl | he
        · exact ihl hol hl e he
        · exact ⟨(Range.ne_of_cmp_lt (Range.cmp_eq_gt_iff_lt.mp hc)).symm,
            Bool.not_eq_true _ ▸ hi⟩
        · exact Range.sep_of_cmp_gt (hkr e he) (hor.1 e he) hk hc hi

/-- `Node::insert` of a well-formed key into ordered keys keeps them ordered. -/
theorem insert_ordered {t t' : Tree T} (hkey : key.Valid) (ho : t.Ordered)
    (h : t.insert key data = .ok t') : t'.Ordered := by
  induction t generalizing t' with
  | none =>
    cases h
    simp [Ordered, OrderedKeys, keys, hkey]
  | node k d l r hh m ihl ihr =>
    obtain ⟨hol, hor, hk, hlk, hkr⟩ := ordered_node.mp ho
    simp only [insert] at h
    split at h
    · cases h
    · next hc =>
      split at h
      · cases h
      · next hi =>
        obtain ⟨r', hr, h⟩ := Except.bind_eq_ok_iff.mp h
        have hkeys : t'.keys = l.keys ++ k :: r'.keys := by
          rw [keys, updated_node_entries h]
          simp [keys]
        rw [Ordered, hkeys, orderedKeys_append_cons]
        refine ⟨hol, ihr hor hr, hk, hlk, fun e he => ?_⟩
        rcases mem_keys_of_insert hr he with he | rfl
        · exact hkr e he
        · exact Range.before_of_cmp_lt hkey hc hi
    · next hc =>
      split at h
      · cases h
      · next hi =>
        obtain ⟨l', hl, h⟩ := Except.bind_eq_ok_iff.mp h
        have hkeys : t'.keys = l'.keys ++ k :: r.keys := by
          rw [keys, updated_node_entries h]
          simp [keys]
        rw [Ordered, hkeys, orderedKeys_append_cons]
        refine ⟨ihl hol hl, hor, hk, fun e he => ?_, hkr⟩
        rcases mem_keys_of_insert hl he with he | rfl
        · exact hlk e he
        · exact Range.before_of_cmp_lt hk (Range.cmp_eq_gt_iff_lt.mp hc)
            (by rwa [Range.intersect_comm])

theorem Valid.insert {t t' : Tree T} (hv : t.Valid) (hkey : key.Valid)
    (h : t.insert key data = .ok t') : t'.Valid :=
  ⟨insert_ordered hkey hv.ordered h, ((insert_avl hv.avl).of_eq_ok h).1⟩

end Insert

/-! ## Deleting -/

section Delete

variable {key : Range}

/-- In a node whose key is below `key`, the entries of `key` are those of the right child. -/
theorem filter_lookup_of_lt {k : Range} {d : NodeState T} {l r : Tree T} {h : Nat} {m : UInt64}
    (hs : (Tree.node k d l r h m).Sorted) (hc : k.cmp key = .lt) :
    (Tree.node k d l r h m).entries.filter (fun e => e.1 != key) =
        l.entries ++ (k, d) :: r.entries.filter (fun e => e.1 != key) ∧
      (Tree.node k d l r h m).entries.lookup key = r.entries.lookup key := by
  obtain ⟨-, -, hlk, -⟩ := sorted_node.mp hs
  have hl : ∀ e ∈ l.entries, e.1 ≠ key := fun e he =>
    Range.ne_of_cmp_lt (Range.cmp_lt_trans (hlk _ (mem_keys he)) hc)
  have hk : (k == key) = false := beq_false_of_ne (Range.ne_of_cmp_lt hc)
  refine ⟨?_, ?_⟩
  · rw [entries_node, List.filter_append, List.filter_eq_self.mpr fun e he => bne_iff_ne.mpr (hl e he),
      List.filter_cons, if_pos (by simpa using hk)]
  · rw [entries_node, List.lookup_append, List.lookup_eq_none_of_forall_ne hl, Option.none_or,
      List.lookup_cons, beq_false_of_ne (Range.ne_of_cmp_lt hc).symm]

/-- In a node whose key is above `key`, the entries of `key` are those of the left child. -/
theorem filter_lookup_of_gt {k : Range} {d : NodeState T} {l r : Tree T} {h : Nat} {m : UInt64}
    (hs : (Tree.node k d l r h m).Sorted) (hc : k.cmp key = .gt) :
    (Tree.node k d l r h m).entries.filter (fun e => e.1 != key) =
        l.entries.filter (fun e => e.1 != key) ++ (k, d) :: r.entries ∧
      (Tree.node k d l r h m).entries.lookup key = l.entries.lookup key := by
  obtain ⟨-, -, -, hkr⟩ := sorted_node.mp hs
  have hgt := Range.cmp_eq_gt_iff_lt.mp hc
  have hr : ∀ e ∈ r.entries, e.1 ≠ key := fun e he =>
    (Range.ne_of_cmp_lt (Range.cmp_lt_trans hgt (hkr _ (mem_keys he)))).symm
  have hk : (k == key) = false := beq_false_of_ne (Range.ne_of_cmp_lt hgt).symm
  refine ⟨?_, ?_⟩
  · rw [entries_node, List.filter_append, List.filter_cons, if_pos (by simpa using hk),
      List.filter_eq_self.mpr fun e he => bne_iff_ne.mpr (hr e he)]
  · rw [entries_node, List.lookup_append, List.lookup_cons,
      beq_false_of_ne (Range.ne_of_cmp_lt hgt), List.lookup_eq_none_of_forall_ne hr, Option.or_none]

/-- In a node of `key`, `key` has the node's entry only. -/
theorem filter_lookup_of_eq {d : NodeState T} {l r : Tree T} {h : Nat} {m : UInt64}
    (hs : (Tree.node key d l r h m).Sorted) :
    (Tree.node key d l r h m).entries.filter (fun e => e.1 != key) = l.entries ++ r.entries ∧
      (Tree.node key d l r h m).entries.lookup key = some d := by
  obtain ⟨-, -, hlk, hkr⟩ := sorted_node.mp hs
  have hl : ∀ e ∈ l.entries, e.1 ≠ key := fun e he => Range.ne_of_cmp_lt (hlk _ (mem_keys he))
  have hr : ∀ e ∈ r.entries, e.1 ≠ key := fun e he => (Range.ne_of_cmp_lt (hkr _ (mem_keys he))).symm
  refine ⟨?_, ?_⟩
  · rw [entries_node, List.filter_append, List.filter_eq_self.mpr fun e he => bne_iff_ne.mpr (hl e he),
      List.filter_cons, if_neg (by simp), List.filter_eq_self.mpr fun e he => bne_iff_ne.mpr (hr e he)]
  · rw [entries_node, List.lookup_append, List.lookup_eq_none_of_forall_ne hl, Option.none_or,
      List.lookup_cons, beq_self_eq_true]

/-- In sorted keys, `Node::delete` takes out the entry of the key, if there is one, and returns
its data. -/
theorem delete_entries {t t' : Tree T} {data : Option T} (ht : t.Avl) (hs : t.Sorted)
    (h : t.delete key = .ok (data, t')) :
    t'.entries = t.entries.filter (fun e => e.1 != key) ∧
      data = (t.entries.lookup key).bind NodeState.into := by
  induction t generalizing data t' with
  | none =>
    cases h
    exact ⟨rfl, rfl⟩
  | node k d l r hh m ihl ihr =>
    obtain ⟨hl, hr, -, -, hb₁, hb₂⟩ := ht
    obtain ⟨hsl, hsr, -, -⟩ := sorted_node.mp hs
    simp only [delete] at h
    split at h
    · next hc =>
      obtain rfl := Range.cmp_eq_eq_iff.mp hc
      obtain ⟨t'', hdr, h⟩ := Except.bind_eq_ok_iff.mp h
      cases h
      obtain ⟨hf, hlk⟩ := filter_lookup_of_eq hs
      exact ⟨by rw [hf, ((delete_root_avl hl hr hb₁ hb₂).of_eq_ok hdr).1], by rw [hlk]; rfl⟩
    · next hc =>
      obtain ⟨hf, hlk⟩ := filter_lookup_of_lt hs hc
      rw [hf, hlk]
      split at h
      · -- no right child: the key is not there
        cases h
        refine ⟨by simp, ?_⟩
        rfl
      · obtain ⟨⟨data', r'⟩, hrd, h⟩ := Except.bind_eq_ok_iff.mp h
        obtain ⟨t'', hup, h⟩ := Except.bind_eq_ok_iff.mp h
        cases h
        obtain ⟨hr', hdata⟩ := ihr hr hsr hrd
        exact ⟨by rw [updated_node_entries hup, entries_node, hr'], hdata⟩
    · next hc =>
      obtain ⟨hf, hlk⟩ := filter_lookup_of_gt hs hc
      rw [hf, hlk]
      split at h
      · cases h
        refine ⟨by simp, ?_⟩
        rfl
      · obtain ⟨⟨data', l'⟩, hld, h⟩ := Except.bind_eq_ok_iff.mp h
        obtain ⟨t'', hup, h⟩ := Except.bind_eq_ok_iff.mp h
        cases h
        obtain ⟨hl', hdata⟩ := ihl hl hsl hld
        exact ⟨by rw [updated_node_entries hup, entries_node, hl'], hdata⟩

theorem Valid.delete {t t' : Tree T} {data : Option T} (hv : t.Valid)
    (h : t.delete key = .ok (data, t')) : t'.Valid := by
  have hsub : List.Sublist t'.keys t.keys := by
    rw [keys, keys, (delete_entries hv.avl hv.ordered.sorted h).1]
    exact List.filter_sublist.map _
  exact ⟨hv.ordered.sublist hsub, ((delete_avl hv.avl).of_eq_ok h).1⟩

theorem Valid.update {t t' : Tree T} {s : NodeState T} {old : Option T} (hv : t.Valid)
    (h : t.update key s = .ok (t', old)) : t'.Valid := by
  obtain ⟨hkeys, -, -, havl⟩ := update_shape h
  exact ⟨by rw [Ordered, hkeys]; exact hv.ordered, havl hv.avl⟩

end Delete

end Tree

/-! ## The map -/

namespace IntervalTree

variable {T : Type}

/-- An interval tree is the map `t.root.entries` from disjoint ranges to states: `get` looks a key
up; `get_superset`, `get_superset_mut` and `get_by_id` find the one entry that contains a
well-formed range or a point; `insert` panics exactly on a key that is one of the map's or meets
one, and otherwise adds the new entry in its place; `delete` takes out the entry of the key and
returns its data. -/
structure MapSpec (t : IntervalTree T) : Prop where
  get : ∀ key, t.get key = t.root.entries.lookup key
  get_superset : ∀ r e, r.Valid →
    (t.get_superset r = some e ↔ e ∈ t.root.entries ∧ e.1.contain r = true)
  get_superset_mut : ∀ r e, r.Valid →
    (t.get_superset_mut r = some e ↔ e ∈ t.root.entries ∧ e.1.contain r = true)
  get_by_id : ∀ id,
    (∀ e ∈ t.root.entries, e.1.contain (Range.new_point id) = true → t.get_by_id id = e.2.into) ∧
    ((∀ e ∈ t.root.entries, e.1.contain (Range.new_point id) = false) → t.get_by_id id = none)
  insert_panics : ∀ key data,
    (∃ p, t.insert key data = .error p) ↔ ∃ e ∈ t.root.keys, e = key ∨ e.intersect key = true
  insert_ok : ∀ key data t', t.insert key data = .ok t' →
    ∃ l₁ l₂, t.root.entries = l₁ ++ l₂ ∧ t'.root.entries = l₁ ++ (key, NodeState.of_option data) :: l₂
  delete : ∀ key, ∃ t', t.delete key = .ok (t', (t.root.entries.lookup key).bind NodeState.into) ∧
    t'.root.entries = t.root.entries.filter (fun e => e.1 != key)

theorem insert_eq {t : IntervalTree T} {key : Range} {data : Option T} :
    t.insert key data = (t.root.insert key data).map IntervalTree.mk := by
  unfold insert
  cases t.root.insert key data <;> rfl

/-- Under the invariant, `get_superset` finds an entry exactly when it contains the range. -/
theorem get_superset_eq_some_iff {t : IntervalTree T} (hv : t.root.Valid) {r : Range}
    {e : Range × NodeState T} (hr : r.Valid) :
    t.get_superset r = some e ↔ e ∈ t.root.entries ∧ e.1.contain r = true := by
  refine ⟨Tree.search_superset_sound, fun ⟨he, hc⟩ => ?_⟩
  rw [get_superset, Tree.search_superset_eq_find hv.ordered hr]
  cases hf : t.root.entries.find? (fun e => e.1.contain r) with
  | none => exact absurd hc (List.find?_eq_none.mp hf e he)
  | some x =>
    have hx := List.find?_some hf
    rw [Tree.contain_unique hv.ordered hr (List.mem_of_find?_eq_some hf) he hx hc]

theorem map_spec {t : IntervalTree T} (hv : t.root.Valid) : t.MapSpec where
  get key := Tree.search_eq_lookup hv.ordered.sorted
  get_superset _ _ hr := get_superset_eq_some_iff hv hr
  get_superset_mut _ _ hr := get_superset_eq_some_iff hv hr
  get_by_id id := by
    have hp : (Range.new_point id).Valid := UInt64.le_refl id
    refine ⟨fun e he hc => ?_, fun hnone => ?_⟩
    · have hs := (get_superset_eq_some_iff hv hp).mpr ⟨he, hc⟩
      rw [get_superset] at hs
      rw [get_by_id, hs]
    · rw [get_by_id, Tree.search_superset_eq_find hv.ordered hp,
        List.find?_eq_none.mpr fun e he => by simp [hnone e he]]
  insert_panics key data := by
    rw [insert_eq]
    constructor
    · rintro ⟨p, hp⟩
      cases h : t.root.insert key data with
      | ok r => simp [h, Except.map] at hp
      | error e =>
        exact Tree.insert_error_mem h ((Tree.insert_avl hv.avl).of_eq_error h)
    · rintro ⟨e, he, hek⟩
      cases h : t.root.insert key data with
      | error p => exact ⟨p, rfl⟩
      | ok r =>
        obtain ⟨hne, hi⟩ := Tree.insert_ok_disjoint hv.ordered h e he
        rcases hek with hek | hek
        · exact absurd hek hne
        · rw [hi] at hek
          cases hek
  insert_ok key data t' h := by
    rw [insert_eq] at h
    cases hr : t.root.insert key data with
    | error p => simp [hr, Except.map] at h
    | ok r =>
      simp only [hr, Except.map, Except.ok.injEq] at h
      subst h
      exact Tree.insert_entries hr
  delete key := by
    cases hd : t.root.delete key with
    | error p => exact absurd ((Tree.delete_avl hv.avl).of_eq_error hd) id
    | ok v =>
      obtain ⟨data, r⟩ := v
      obtain ⟨hr, hdata⟩ := Tree.delete_entries hv.avl hv.ordered.sorted hd
      refine ⟨⟨r⟩, ?_, hr⟩
      rw [delete, hd, ← hdata]
      rfl

/-- The tree of the example of `IntervalTree::allocate`: `[0x100, 0x100]` and `[0x200, 0x2ff]`, both
free. -/
def doc_tree : IntervalTree Unit :=
  ⟨.node ⟨0x100, 0x100⟩ .Free .none (.node ⟨0x200, 0x2ff⟩ .Free .none .none 1 0x2ff) 2 0x2ff⟩

theorem map_spec_doc_tree : doc_tree.root.Valid ∧ doc_tree.MapSpec :=
  ⟨by decide, map_spec (by decide)⟩

/-- The tree that `insert` builds from `[0, 4]` and then `[6, 10]`. -/
def two_keys_tree : IntervalTree Unit :=
  ⟨.node ⟨0, 4⟩ .Free .none (.node ⟨6, 10⟩ .Free .none .none 1 10) 2 10⟩

/-- `MapSpec.get_superset` holds for well-formed query ranges only. Both keys of `two_keys_tree`
contain `[10, 0]` by `Range::contain`, and `get_superset` returns `[0, 4]`, never `[6, 10]`. -/
theorem get_superset_of_inverted_range :
    (IntervalTree.new.insert ⟨0, 4⟩ none >>= fun t => t.insert ⟨6, 10⟩ none) = .ok two_keys_tree ∧
    two_keys_tree.root.Valid ∧ (⟨6, 10⟩, .Free) ∈ two_keys_tree.root.entries ∧
    (⟨6, 10⟩ : Range).contain ⟨10, 0⟩ = true ∧
    two_keys_tree.get_superset ⟨10, 0⟩ = some (⟨0, 4⟩, .Free) := by
  refine ⟨rfl, ?_, ?_, ?_, rfl⟩ <;> decide

/-- A tree whose root key `[5, 3]` has its `min` above its `max`, with `[1, 10]` left of it. Its
keys are sorted and pairwise disjoint and its shape is AVL. -/
def inverted_tree : IntervalTree Unit :=
  ⟨.node ⟨5, 3⟩ .Free (.node ⟨1, 10⟩ .Free .none .none 1 10) .none 2 10⟩

/-- Inserting `[5, 3]` and then `[1, 10]` builds `inverted_tree`. There `insert` of `[6, 8]`, which
meets `[1, 10]`, does not panic: it compares `[6, 8]` with `[5, 3]` only. -/
theorem insert_misses_intersection :
    (IntervalTree.new.insert ⟨5, 3⟩ none >>= fun t => t.insert ⟨1, 10⟩ none) = .ok inverted_tree ∧
    inverted_tree.root.Sorted ∧ inverted_tree.root.Disjoint ∧ inverted_tree.root.Avl ∧
    (⟨1, 10⟩ : Range).intersect ⟨6, 8⟩ = true ∧
    inverted_tree.insert ⟨6, 8⟩ none = .ok ⟨.node ⟨5, 3⟩ .Free (.node ⟨1, 10⟩ .Free .none .none 1 10)
      (.node ⟨6, 8⟩ .Free .none .none 1 8) 2 10⟩ := by
  refine ⟨rfl, ?_, ?_, ?_, ?_, rfl⟩ <;> decide

end IntervalTree

end KataContainers.Dragonball.Allocator
