import KataContainers.Dragonball.Allocator
import KataContainers.Lib.Except

/-!
# The AVL shape of the interval tree

What the nodes of `interval_tree.rs` hold in key order, `Tree.entries`, and the AVL invariant of
their shape, `Tree.Avl`: each node caches one more than the greater height of its children and the
greatest `max` below it, and its children's heights differ by at most one.

The rotations keep the entries in order (`rotate_entries`); on children that are AVL trees whose
heights differ by at most two, `updated_node` succeeds and gives an AVL tree at most one higher
than its higher child (`updated_node_avl`). From these, `Node::insert` grows a tree by at most one,
`Node::delete` shrinks it by at most one, and neither ever reaches a rotation's panic.
-/

namespace KataContainers.Dragonball.Allocator

namespace Tree

variable {T : Type}

/-- The nodes' keys and states, in key order. -/
def entries : Tree T → List (Range × NodeState T)
  | .none => []
  | .node k d l r _ _ => l.entries ++ (k, d) :: r.entries

def keys (t : Tree T) : List Range := t.entries.map Prod.fst

/-- A node whose cached fields are computed from its children, as `update_cached_info` leaves it. -/
def mk (k : Range) (d : NodeState T) (l r : Tree T) : Tree T :=
  .node k d l r (max l.height r.height + 1) (Max.max l.max_key (Max.max r.max_key k.max))

/-- At every node the cached height is one more than the greater of the children's, the cached
`max_key` is the greatest of the children's and the node's own `max`, and the children's heights
differ by at most one. -/
def Avl : Tree T → Prop
  | .none => True
  | .node k _ l r h m =>
    l.Avl ∧ r.Avl ∧ h = max l.height r.height + 1 ∧
      m = Max.max l.max_key (Max.max r.max_key k.max) ∧
      l.height ≤ r.height + 1 ∧ r.height ≤ l.height + 1

@[simp] theorem entries_none : (Tree.none : Tree T).entries = [] := rfl

@[simp] theorem entries_node {k : Range} {d : NodeState T} {l r : Tree T} {h : Nat} {m : UInt64} :
    (Tree.node k d l r h m).entries = l.entries ++ (k, d) :: r.entries := rfl

@[simp] theorem entries_mk {k : Range} {d : NodeState T} {l r : Tree T} :
    (mk k d l r).entries = l.entries ++ (k, d) :: r.entries := rfl

@[simp] theorem keys_none : (Tree.none : Tree T).keys = [] := rfl

@[simp] theorem keys_node {k : Range} {d : NodeState T} {l r : Tree T} {h : Nat} {m : UInt64} :
    (Tree.node k d l r h m).keys = l.keys ++ k :: r.keys := by
  simp [keys]

@[simp] theorem height_mk {k : Range} {d : NodeState T} {l r : Tree T} :
    (mk k d l r).height = max l.height r.height + 1 := rfl

@[simp] theorem height_node {k : Range} {d : NodeState T} {l r : Tree T} {h : Nat} {m : UInt64} :
    (Tree.node k d l r h m).height = h := rfl

@[simp] theorem height_none : (Tree.none : Tree T).height = 0 := rfl

@[simp] theorem max_key_node {k : Range} {d : NodeState T} {l r : Tree T} {h : Nat} {m : UInt64} :
    (Tree.node k d l r h m).max_key = m := rfl

@[simp] theorem max_key_none : (Tree.none : Tree T).max_key = 0 := rfl

@[simp] theorem avl_none : (Tree.none : Tree T).Avl := trivial

theorem avl_node {k : Range} {d : NodeState T} {l r : Tree T} {h : Nat} {m : UInt64} :
    (Tree.node k d l r h m).Avl ↔ l.Avl ∧ r.Avl ∧ h = max l.height r.height + 1 ∧
      m = Max.max l.max_key (Max.max r.max_key k.max) ∧
      l.height ≤ r.height + 1 ∧ r.height ≤ l.height + 1 := Iff.rfl

@[simp] theorem avl_mk {k : Range} {d : NodeState T} {l r : Tree T} :
    (mk k d l r).Avl ↔ l.Avl ∧ r.Avl ∧ l.height ≤ r.height + 1 ∧ r.height ≤ l.height + 1 := by
  simp [mk, avl_node]

@[simp] theorem update_cached_info_node {k : Range} {d : NodeState T} {l r : Tree T} {h : Nat}
    {m : UInt64} : (Tree.node k d l r h m).update_cached_info = mk k d l r := rfl

instance decidableAvl : (t : Tree T) → Decidable t.Avl
  | .none => isTrue trivial
  | .node _ _ l r _ _ =>
    have := decidableAvl l
    have := decidableAvl r
    decidable_of_iff' _ avl_node

/-- Under the invariant the cached `max_key` is the greatest `max` of the keys below: none ends
above it, and one ends at it. -/
theorem Avl.max_key_greatest {t : Tree T} (ht : t.Avl) :
    (∀ e ∈ t.keys, e.max ≤ t.max_key) ∧ (t ≠ .none → ∃ e ∈ t.keys, e.max = t.max_key) := by
  induction t with
  | none => simp
  | node k d l r h m ihl ihr =>
    obtain ⟨hl, hr, -, rfl, -⟩ := ht
    obtain ⟨hl₁, hl₂⟩ := ihl hl
    obtain ⟨hr₁, hr₂⟩ := ihr hr
    have hmax : (Max.max l.max_key (Max.max r.max_key k.max)).toNat =
        max l.max_key.toNat (max r.max_key.toNat k.max.toNat) := by
      simp only [UInt64.toNat_max]
    simp only [max_key_node, keys_node, List.mem_append, List.mem_cons]
    refine ⟨fun e he => ?_, fun _ => ?_⟩
    · rw [UInt64.le_iff_toNat_le, hmax]
      rcases he with he | rfl | he
      · have := UInt64.le_iff_toNat_le.mp (hl₁ e he)
        omega
      · omega
      · have := UInt64.le_iff_toNat_le.mp (hr₁ e he)
        omega
    · -- the greatest of the three is the node's own `max` or one of its children's
      by_cases hk : l.max_key.toNat ≤ k.max.toNat ∧ r.max_key.toNat ≤ k.max.toNat
      · exact ⟨k, .inr (.inl rfl), UInt64.toNat_inj.mp (by rw [hmax]; omega)⟩
      by_cases hlr : r.max_key.toNat ≤ l.max_key.toNat
      · have hne : l ≠ .none := by
          rintro rfl
          simp only [max_key_none, UInt64.toNat_zero] at hk hlr
          omega
        obtain ⟨e, he, heq⟩ := hl₂ hne
        refine ⟨e, .inl he, UInt64.toNat_inj.mp ?_⟩
        rw [heq, hmax]
        omega
      · have hne : r ≠ .none := by
          rintro rfl
          simp only [max_key_none, UInt64.toNat_zero] at hlr
          omega
        obtain ⟨e, he, heq⟩ := hr₂ hne
        refine ⟨e, .inr (.inr he), UInt64.toNat_inj.mp ?_⟩
        rw [heq, hmax]
        omega

/-- A node is an AVL tree exactly when it is the balanced node of its children. -/
theorem Avl.eq_mk {k : Range} {d : NodeState T} {l r : Tree T} {h : Nat} {m : UInt64}
    (ht : (Tree.node k d l r h m).Avl) : Tree.node k d l r h m = mk k d l r := by
  obtain ⟨-, -, rfl, rfl, -⟩ := ht
  rfl

/-! ## Rotations keep the entries in order -/

theorem rotate_left_node {k : Range} {d : NodeState T} {l : Tree T} {h : Nat} {m : UInt64}
    {rk : Range} {rd : NodeState T} {rl rr : Tree T} {rh : Nat} {rm : UInt64} :
    (Tree.node k d l (.node rk rd rl rr rh rm) h m).rotate_left = .ok (mk rk rd (mk k d l rl) rr) :=
  rfl

theorem rotate_right_node {k : Range} {d : NodeState T} {r : Tree T} {h : Nat} {m : UInt64}
    {lk : Range} {ld : NodeState T} {ll lr : Tree T} {lh : Nat} {lm : UInt64} :
    (Tree.node k d (.node lk ld ll lr lh lm) r h m).rotate_right = .ok (mk lk ld ll (mk k d lr r)) :=
  rfl

theorem rotate_left_entries {t t' : Tree T} (h : t.rotate_left = .ok t') : t'.entries = t.entries := by
  cases t with
  | none =>
    cases h
    rfl
  | node k d l r _ _ =>
    cases r with
    | none => cases h
    | node rk rd rl rr _ _ =>
      rw [rotate_left_node] at h
      cases h
      simp

theorem rotate_right_entries {t t' : Tree T} (h : t.rotate_right = .ok t') :
    t'.entries = t.entries := by
  cases t with
  | none =>
    cases h
    rfl
  | node k d l r _ _ =>
    cases l with
    | none => cases h
    | node lk ld ll lr _ _ =>
      rw [rotate_right_node] at h
      cases h
      simp

theorem rotate_left_successor_entries {t t' : Tree T} (h : t.rotate_left_successor = .ok t') :
    t'.entries = t.entries := by
  cases t with
  | none =>
    cases h
    rfl
  | node k d l r hh m =>
    cases l with
    | none => cases h
    | node lk ld ll lr lh lm =>
      simp only [rotate_left_successor] at h
      split at h
      · -- the double rotation: the left child is rotated first
        obtain ⟨rotated, hrot, h⟩ := Except.bind_eq_ok_iff.mp h
        rw [update_cached_info_node] at h
        rw [rotate_right_entries h, entries_mk, rotate_left_entries hrot]
        rfl
      · rw [rotate_right_entries h]

theorem rotate_right_successor_entries {t t' : Tree T} (h : t.rotate_right_successor = .ok t') :
    t'.entries = t.entries := by
  cases t with
  | none =>
    cases h
    rfl
  | node k d l r hh m =>
    cases r with
    | none => cases h
    | node rk rd rl rr rh rm =>
      simp only [rotate_right_successor] at h
      split at h
      · obtain ⟨rotated, hrot, h⟩ := Except.bind_eq_ok_iff.mp h
        rw [update_cached_info_node] at h
        rw [rotate_left_entries h, entries_mk, rotate_right_entries hrot]
        rfl
      · rw [rotate_left_entries h]

theorem rotate_entries {t t' : Tree T} (h : t.rotate = .ok t') : t'.entries = t.entries := by
  cases t with
  | none =>
    cases h
    rfl
  | node k d l r hh m =>
    simp only [rotate] at h
    split at h
    · cases h
      rfl
    split at h
    · exact rotate_left_successor_entries h
    split at h
    · exact rotate_right_successor_entries h
    · cases h

theorem updated_node_entries {t t' : Tree T} (h : t.updated_node = .ok t') :
    t'.entries = t.entries := by
  rw [rotate_entries h]
  cases t <;> rfl

theorem rotate_left_error {t : Tree T} {p : Panic} (h : t.rotate_left = .error p) :
    p = .nodeBroken := by
  cases t with
  | none => cases h
  | node k d l r _ _ =>
    cases r with
    | none =>
      cases h
      rfl
    | node rk rd rl rr _ _ =>
      rw [rotate_left_node] at h
      cases h

theorem rotate_right_error {t : Tree T} {p : Panic} (h : t.rotate_right = .error p) :
    p = .nodeBroken := by
  cases t with
  | none => cases h
  | node k d l r _ _ =>
    cases l with
    | none =>
      cases h
      rfl
    | node lk ld ll lr _ _ =>
      rw [rotate_right_node] at h
      cases h

theorem rotate_left_successor_error {t : Tree T} {p : Panic}
    (h : t.rotate_left_successor = .error p) : p = .nodeBroken := by
  cases t with
  | none => cases h
  | node k d l r hh m =>
    cases l with
    | none =>
      cases h
      rfl
    | node lk ld ll lr lh lm =>
      simp only [rotate_left_successor] at h
      split at h
      · cases hrot : (Tree.node lk ld ll lr lh lm).rotate_left with
        | error e =>
          rw [hrot] at h
          cases h
          exact rotate_left_error hrot
        | ok rotated =>
          rw [hrot, Except.ok_bind_eq] at h
          exact rotate_right_error h
      · exact rotate_right_error h

theorem rotate_right_successor_error {t : Tree T} {p : Panic}
    (h : t.rotate_right_successor = .error p) : p = .nodeBroken := by
  cases t with
  | none => cases h
  | node k d l r hh m =>
    cases r with
    | none =>
      cases h
      rfl
    | node rk rd rl rr rh rm =>
      simp only [rotate_right_successor] at h
      split at h
      · cases hrot : (Tree.node rk rd rl rr rh rm).rotate_right with
        | error e =>
          rw [hrot] at h
          cases h
          exact rotate_right_error hrot
        | ok rotated =>
          rw [hrot, Except.ok_bind_eq] at h
          exact rotate_left_error h
      · exact rotate_left_error h

/-- `updated_node` only panics in a rotation. -/
theorem updated_node_error {t : Tree T} {p : Panic} (h : t.updated_node = .error p) :
    p = .nodeBroken ∨ p = .unreachable := by
  cases t with
  | none => cases h
  | node k d l r hh m =>
    simp only [updated_node, update_cached_info_node, mk, rotate] at h
    split at h
    · cases h
    split at h
    · exact .inl (rotate_left_successor_error h)
    split at h
    · exact .inl (rotate_right_successor_error h)
    · cases h
      exact .inr rfl

/-! ## Rebalancing -/

/-- `t'` is an AVL tree of the entries of `l`, the node `(k, d)` and `r`, no lower than the higher
of `l` and `r` and at most one above it, and exactly one above when `l` and `r` were balanced: what
`updated_node` makes of a node. -/
structure Rebuilt (k : Range) (d : NodeState T) (l r t' : Tree T) : Prop where
  entries : t'.entries = l.entries ++ (k, d) :: r.entries
  avl : t'.Avl
  height_ge : max l.height r.height ≤ t'.height
  height_le : t'.height ≤ max l.height r.height + 1
  height_eq : l.height ≤ r.height + 1 → r.height ≤ l.height + 1 →
    t'.height = max l.height r.height + 1

section Rebalance

variable {k : Range} {d : NodeState T} {l r : Tree T}

theorem rebuilt_mk (hl : l.Avl) (hr : r.Avl) (h₁ : l.height ≤ r.height + 1)
    (h₂ : r.height ≤ l.height + 1) : Rebuilt k d l r (mk k d l r) where
  entries := entries_mk
  avl := avl_mk.mpr ⟨hl, hr, h₁, h₂⟩
  height_ge := by simp
  height_le := by simp
  height_eq _ _ := height_mk

theorem rotate_mk_of_balanced (h₁ : l.height ≤ r.height + 1) (h₂ : r.height ≤ l.height + 1) :
    (mk k d l r).rotate = .ok (mk k d l r) := by
  simp only [rotate, mk]
  rw [if_pos (by omega)]

theorem rotate_mk_of_left_heavy (hh : l.height = r.height + 2) :
    (mk k d l r).rotate = (mk k d l r).rotate_left_successor := by
  simp only [rotate, mk]
  rw [if_neg (by omega), if_pos (by omega)]

theorem rotate_mk_of_right_heavy (hh : r.height = l.height + 2) :
    (mk k d l r).rotate = (mk k d l r).rotate_right_successor := by
  simp only [rotate, mk]
  rw [if_neg (by omega), if_neg (by omega), if_pos (by omega)]

theorem rotate_left_successor_double {lk lrk : Range} {ld lrd : NodeState T} {ll lrl lrr : Tree T}
    {lh lrh : Nat} {lm lrm : UInt64} (hlt : ll.height < lrh) :
    (mk k d (.node lk ld ll (.node lrk lrd lrl lrr lrh lrm) lh lm) r).rotate_left_successor =
      .ok (mk lrk lrd (mk lk ld ll lrl) (mk k d lrr r)) := by
  unfold rotate_left_successor mk
  simp only [height_node, hlt, if_true]
  rfl

theorem rotate_left_successor_single {lk : Range} {ld : NodeState T} {ll lr : Tree T} {lh : Nat}
    {lm : UInt64} (hge : ¬ ll.height < lr.height) :
    (mk k d (.node lk ld ll lr lh lm) r).rotate_left_successor = .ok (mk lk ld ll (mk k d lr r)) := by
  unfold rotate_left_successor mk
  simp only [hge, if_false]
  rfl

theorem rotate_right_successor_double {rk rlk : Range} {rd rld : NodeState T} {rll rlr rr : Tree T}
    {rh rlh : Nat} {rm rlm : UInt64} (hgt : rlh > rr.height) :
    (mk k d l (.node rk rd (.node rlk rld rll rlr rlh rlm) rr rh rm)).rotate_right_successor =
      .ok (mk rlk rld (mk k d l rll) (mk rk rd rlr rr)) := by
  unfold rotate_right_successor mk
  simp only [height_node, hgt, if_true]
  rfl

theorem rotate_right_successor_single {rk : Range} {rd : NodeState T} {rl rr : Tree T} {rh : Nat}
    {rm : UInt64} (hle : ¬ rl.height > rr.height) :
    (mk k d l (.node rk rd rl rr rh rm)).rotate_right_successor = .ok (mk rk rd (mk k d l rl) rr) := by
  unfold rotate_right_successor mk
  simp only [hle, if_false]
  rfl

/-- A left child two higher than the right is brought back into balance by one rotation, or by
two when it leans right. -/
theorem rotate_left_successor_avl (hl : l.Avl) (hr : r.Avl) (hh : l.height = r.height + 2) :
    Except.Post (Rebuilt k d l r) (fun _ => False) (mk k d l r).rotate_left_successor := by
  cases l with
  | none => simp at hh
  | node lk ld ll lr lh lm =>
    by_cases hlt : ll.height < lr.height
    · -- the left child leans right: it is rotated left first
      cases lr with
      | none => simp at hlt
      | node lrk lrd lrl lrr lrh lrm =>
        simp only [height_node] at hlt
        rw [rotate_left_successor_double hlt, Except.post_ok]
        obtain ⟨hll, ⟨hlrl, hlrr, rfl, -, hc₁, hc₂⟩, rfl, -, hb₁, hb₂⟩ := hl
        simp only [height_node] at hh hlt hb₁ hb₂
        refine ⟨by simp, avl_mk.mpr ⟨avl_mk.mpr ⟨hll, hlrl, ?_, ?_⟩, avl_mk.mpr ⟨hlrr, hr, ?_, ?_⟩,
          ?_, ?_⟩, ?_, ?_, ?_⟩ <;> (try simp only [height_mk, height_node]) <;> omega
    · rw [rotate_left_successor_single hlt, Except.post_ok]
      obtain ⟨hll, hlr, rfl, -, hb₁, hb₂⟩ := hl
      simp only [height_node] at hh
      refine ⟨by simp, avl_mk.mpr ⟨hll, avl_mk.mpr ⟨hlr, hr, ?_, ?_⟩, ?_, ?_⟩, ?_, ?_, ?_⟩ <;>
        (try simp only [height_mk, height_node]) <;> omega

/-- The mirror image of `rotate_left_successor_avl`. -/
theorem rotate_right_successor_avl (hl : l.Avl) (hr : r.Avl) (hh : r.height = l.height + 2) :
    Except.Post (Rebuilt k d l r) (fun _ => False) (mk k d l r).rotate_right_successor := by
  cases r with
  | none => simp at hh
  | node rk rd rl rr rh rm =>
    by_cases hgt : rl.height > rr.height
    · -- the right child leans left: it is rotated right first
      cases rl with
      | none => simp at hgt
      | node rlk rld rll rlr rlh rlm =>
        simp only [height_node] at hgt
        rw [rotate_right_successor_double hgt, Except.post_ok]
        obtain ⟨⟨hrll, hrlr, rfl, -, hc₁, hc₂⟩, hrr, rfl, -, hb₁, hb₂⟩ := hr
        simp only [height_node] at hh hgt hb₁ hb₂
        refine ⟨by simp, avl_mk.mpr ⟨avl_mk.mpr ⟨hl, hrll, ?_, ?_⟩, avl_mk.mpr ⟨hrlr, hrr, ?_, ?_⟩,
          ?_, ?_⟩, ?_, ?_, ?_⟩ <;> (try simp only [height_mk, height_node]) <;> omega
    · rw [rotate_right_successor_single hgt, Except.post_ok]
      obtain ⟨hrl, hrr, rfl, -, hb₁, hb₂⟩ := hr
      simp only [height_node] at hh
      refine ⟨by simp, avl_mk.mpr ⟨avl_mk.mpr ⟨hl, hrl, ?_, ?_⟩, hrr, ?_, ?_⟩, ?_, ?_, ?_⟩ <;>
        (try simp only [height_mk, height_node]) <;> omega

/-- On AVL children whose heights differ by at most two, `updated_node` never panics and
rebalances the node. -/
theorem updated_node_avl {h : Nat} {m : UInt64} (hl : l.Avl) (hr : r.Avl)
    (h₁ : l.height ≤ r.height + 2) (h₂ : r.height ≤ l.height + 2) :
    Except.Post (Rebuilt k d l r) (fun _ => False) (Tree.node k d l r h m).updated_node := by
  rw [updated_node, update_cached_info_node]
  by_cases hb : l.height ≤ r.height + 1 ∧ r.height ≤ l.height + 1
  · rw [rotate_mk_of_balanced hb.1 hb.2, Except.post_ok]
    exact rebuilt_mk hl hr hb.1 hb.2
  · rcases (by omega : l.height = r.height + 2 ∨ r.height = l.height + 2) with hh | hh
    · rw [rotate_mk_of_left_heavy hh]
      exact rotate_left_successor_avl hl hr hh
    · rw [rotate_mk_of_right_heavy hh]
      exact rotate_right_successor_avl hl hr hh

end Rebalance


/-! ## The operations keep the shape -/

section Operations

variable {key : Range}

theorem avl_new {data : Option T} : (new key data).Avl := by
  refine ⟨trivial, trivial, rfl, ?_, by simp, by simp⟩
  apply UInt64.toNat_inj.mp
  simp only [max_key_none, UInt64.toNat_max, UInt64.toNat_zero]
  omega

@[simp] theorem height_new {data : Option T} : (new key data).height = 1 := rfl

/-- `Node::insert` keeps a tree AVL and grows it by at most one; it panics only on the key itself
or on a key it meets. -/
theorem insert_avl {data : Option T} {t : Tree T} (ht : t.Avl) :
    Except.Post (fun t' => t'.Avl ∧ t.height ≤ t'.height ∧ t'.height ≤ t.height + 1)
      (fun p => p = .keyExists ∨ p = .keyIntersects) (t.insert key data) := by
  induction t with
  | none => exact ⟨avl_new, by simp, by simp⟩
  | node k d l r h m ihl ihr =>
    obtain ⟨hl, hr, rfl, rfl, hb₁, hb₂⟩ := ht
    simp only [insert]
    split
    · exact .inl rfl
    · split
      · exact .inr rfl
      · -- the key goes right; the right child grows by at most one
        refine Except.post_bind (ihr hr) fun r' ⟨hr', hge, hle⟩ => ?_
        refine (updated_node_avl hl hr' (by omega) (by omega)).mono (fun t' ht' => ?_)
          (fun _ h => h.elim)
        have h₁ := ht'.height_ge
        have h₂ := ht'.height_le
        have h₃ := ht'.height_eq
        exact ⟨ht'.avl, by simp only [height_node]; omega, by simp only [height_node]; omega⟩
    · split
      · exact .inr rfl
      · refine Except.post_bind (ihl hl) fun l' ⟨hl', hge, hle⟩ => ?_
        refine (updated_node_avl hl' hr (by omega) (by omega)).mono (fun t' ht' => ?_)
          (fun _ h => h.elim)
        have h₁ := ht'.height_ge
        have h₂ := ht'.height_le
        have h₃ := ht'.height_eq
        exact ⟨ht'.avl, by simp only [height_node]; omega, by simp only [height_node]; omega⟩

/-- `get_new_root` takes the least node out of a non-empty AVL tree; what remains is AVL and at
most one lower. -/
theorem get_new_root_avl {t : Tree T} (ht : t.Avl) (hne : t ≠ .none) :
    Except.Post (fun p => (∃ k d h m, p.1 = .node k d .none .none h m ∧
        t.entries = (k, d) :: p.2.entries) ∧ p.2.Avl ∧ t.height ≤ p.2.height + 1 ∧
        p.2.height ≤ t.height)
      (fun _ => False) t.get_new_root := by
  induction t with
  | none => exact absurd rfl hne
  | node k d l r h m ihl _ =>
    obtain ⟨hl, hr, rfl, rfl, hb₁, hb₂⟩ := ht
    cases l with
    | none =>
      refine ⟨⟨k, d, _, _, rfl, rfl⟩, hr, ?_, ?_⟩ <;> simp only [height_node, height_none] <;> omega
    | node lk ld ll lr lh lm =>
      simp only [get_new_root]
      refine Except.post_bind (ihl hl (by simp)) ?_
      rintro ⟨mn, l'⟩ ⟨⟨k', d', h', m', hmn, hent⟩, hl', hge, hle⟩
      refine Except.post_bind (updated_node_avl hl' hr (by omega) (by omega)) fun t' ht' => ?_
      have h₁ := ht'.height_ge
      have h₂ := ht'.height_le
      have h₃ := ht'.height_eq
      refine ⟨⟨k', d', h', m', hmn, ?_⟩, ht'.avl, ?_, ?_⟩
      · rw [ht'.entries, entries_node, hent]
        rfl
      all_goals simp only [height_node] at *; omega

/-- `combine_subtrees` joins two balanced AVL trees under the least node of the right one. -/
theorem combine_subtrees_avl {l r : Tree T} (hl : l.Avl) (hr : r.Avl) (hne : r ≠ .none)
    (h₁ : l.height ≤ r.height + 1) (h₂ : r.height ≤ l.height + 1) :
    Except.Post (fun t' => t'.entries = l.entries ++ r.entries ∧ t'.Avl ∧
        max l.height r.height ≤ t'.height ∧ t'.height ≤ max l.height r.height + 1)
      (fun _ => False) (combine_subtrees l r) := by
  refine Except.post_bind (get_new_root_avl hr hne) ?_
  rintro ⟨mn, rem⟩ ⟨⟨k, d, h, m, rfl, hent⟩, hrem, hge, hle⟩
  refine (updated_node_avl hl hrem (by omega) (by omega)).mono (fun t' ht' => ?_) (fun _ h => h)
  have h₃ := ht'.height_ge
  have h₄ := ht'.height_le
  have h₅ := ht'.height_eq
  refine ⟨by rw [ht'.entries, hent], ht'.avl, by omega, by omega⟩

/-- `delete_root` joins the children of a deleted AVL node. -/
theorem delete_root_avl {l r : Tree T} (hl : l.Avl) (hr : r.Avl) (h₁ : l.height ≤ r.height + 1)
    (h₂ : r.height ≤ l.height + 1) :
    Except.Post (fun t' => t'.entries = l.entries ++ r.entries ∧ t'.Avl ∧
        max l.height r.height ≤ t'.height ∧ t'.height ≤ max l.height r.height + 1)
      (fun _ => False) (delete_root l r) := by
  cases l with
  | none =>
    cases r with
    | none => exact ⟨rfl, trivial, by simp, by simp⟩
    | node rk rd rl rr rh rm => exact ⟨by simp, hr, by simp, by simp⟩
  | node lk ld ll lr lh lm =>
    cases r with
    | none => exact ⟨by simp, hl, by simp, by simp⟩
    | node rk rd rl rr rh rm => exact combine_subtrees_avl hl hr (by simp) h₁ h₂

/-- `Node::delete` keeps a tree AVL and shrinks it by at most one, and never panics. -/
theorem delete_avl {t : Tree T} (ht : t.Avl) :
    Except.Post (fun p => p.2.Avl ∧ p.2.height ≤ t.height ∧ t.height ≤ p.2.height + 1)
      (fun _ => False) (t.delete key) := by
  induction t with
  | none => exact ⟨trivial, Nat.le_refl 0, Nat.le_succ 0⟩
  | node k d l r h m ihl ihr =>
    have hnode := ht
    obtain ⟨hl, hr, rfl, rfl, hb₁, hb₂⟩ := ht
    simp only [delete]
    split
    · refine Except.post_bind (delete_root_avl hl hr hb₁ hb₂) fun t' ⟨_, ht', hge, hle⟩ => ?_
      exact ⟨ht', by simp only [height_node]; omega, by simp only [height_node]; omega⟩
    · split
      · exact ⟨hnode, Nat.le_refl _, Nat.le_succ _⟩
      · refine Except.post_bind (ihr hr) ?_
        rintro ⟨data, r'⟩ ⟨hr', hle, hge⟩
        refine Except.post_bind (updated_node_avl hl hr' (by omega) (by omega)) fun t' ht' => ?_
        have h₁ := ht'.height_ge
        have h₂ := ht'.height_le
        have h₃ := ht'.height_eq
        exact ⟨ht'.avl, by simp only [height_node] at *; omega, by simp only [height_node] at *; omega⟩
    · split
      · exact ⟨hnode, Nat.le_refl _, Nat.le_succ _⟩
      · refine Except.post_bind (ihl hl) ?_
        rintro ⟨data, l'⟩ ⟨hl', hle, hge⟩
        refine Except.post_bind (updated_node_avl hl' hr (by omega) (by omega)) fun t' ht' => ?_
        have h₁ := ht'.height_ge
        have h₂ := ht'.height_le
        have h₃ := ht'.height_eq
        exact ⟨ht'.avl, by simp only [height_node] at *; omega, by simp only [height_node] at *; omega⟩

/-- A node stays AVL when a child is replaced by an AVL tree of the same height and `max_key`,
as `Node::update` replaces it. -/
theorem Avl.replace_left {k : Range} {d : NodeState T} {l l' r : Tree T} {h : Nat} {m : UInt64}
    (ht : (node k d l r h m).Avl) (hl : l'.Avl) (hh : l'.height = l.height)
    (hm : l'.max_key = l.max_key) : (node k d l' r h m).Avl := by
  obtain ⟨-, hr, h₁, h₂, h₃, h₄⟩ := ht
  exact ⟨hl, hr, by rw [hh]; exact h₁, by rw [hm]; exact h₂, by rw [hh]; exact h₃, by rw [hh]; exact h₄⟩

theorem Avl.replace_right {k : Range} {d : NodeState T} {l r r' : Tree T} {h : Nat} {m : UInt64}
    (ht : (node k d l r h m).Avl) (hr : r'.Avl) (hh : r'.height = r.height)
    (hm : r'.max_key = r.max_key) : (node k d l r' h m).Avl := by
  obtain ⟨hl, -, h₁, h₂, h₃, h₄⟩ := ht
  exact ⟨hl, hr, by rw [hh]; exact h₁, by rw [hm]; exact h₂, by rw [hh]; exact h₃, by rw [hh]; exact h₄⟩

/-- `Node::update` changes a state and nothing of the shape. -/
theorem update_shape {s : NodeState T} {t t' : Tree T} {old : Option T}
    (h : t.update key s = .ok (t', old)) :
    t'.keys = t.keys ∧ t'.height = t.height ∧ t'.max_key = t.max_key ∧ (t.Avl → t'.Avl) := by
  induction t generalizing t' old with
  | none =>
    cases h
    exact ⟨rfl, rfl, rfl, id⟩
  | node k d l r hh m ihl ihr =>
    simp only [update] at h
    split at h
    · split at h
      · cases h
      · cases h
        exact ⟨by simp, rfl, rfl, id⟩
    · obtain ⟨⟨r', old'⟩, hr, h⟩ := Except.bind_eq_ok_iff.mp h
      cases h
      obtain ⟨hkeys, hheight, hmax, havl⟩ := ihr hr
      exact ⟨by simp [hkeys], rfl, rfl, fun ht => ht.replace_right (havl ht.2.1) hheight hmax⟩
    · obtain ⟨⟨l', old'⟩, hl, h⟩ := Except.bind_eq_ok_iff.mp h
      cases h
      obtain ⟨hkeys, hheight, hmax, havl⟩ := ihl hl
      exact ⟨by simp [hkeys], rfl, rfl, fun ht => ht.replace_left (havl ht.1) hheight hmax⟩

/-- `Node::update` panics only on a transition it refuses. -/
theorem update_error {s : NodeState T} {t : Tree T} {p : Panic}
    (h : t.update key s = .error p) : p = .updateUnallocated := by
  induction t with
  | none => cases h
  | node k d l r hh m ihl ihr =>
    simp only [update] at h
    split at h
    · split at h
      · cases h
        rfl
      · cases h
    · cases hr : r.update key s with
      | error e =>
        rw [hr] at h
        cases h
        exact ihr hr
      | ok v =>
        rw [hr] at h
        cases h
    · cases hl : l.update key s with
      | error e =>
        rw [hl] at h
        cases h
        exact ihl hl
      | ok v =>
        rw [hl] at h
        cases h

end Operations

end Tree

end KataContainers.Dragonball.Allocator
