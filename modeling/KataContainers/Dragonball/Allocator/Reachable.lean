import KataContainers.Dragonball.Allocator.Map

/-!
# The invariant of the interval tree over whole runs

`IntervalTree.Reachable` is what `IntervalTree::new` and any sequence of `insert` (of a
well-formed key), `delete`, `update`, `allocate` and `free` (of a key that is an allocated node)
reach. Every such tree satisfies the representation invariant of `Tree.Valid`, and from it no
operation panics in a rotation (`reachable_valid`).

The proof goes through the invariant one operation at a time: each operation of `IntervalTree`
keeps it and panics, if at all, outside the rotations (`post_allocate`, `post_free`). `allocate`
and `free` only insert keys that `Range::new` built, or that lie between the keys of nodes, so
they never insert a malformed key.

With keys whose `min` is above their `max`, which `Range`'s public fields allow, `free` merges
the wrong neighbours and leaves two keys that meet, even on a run (`ReachableAnyKey`) whose
inserts only add keys that meet no key already there (`free_inverted_key_overlaps`).

`free` writes the merged key without `Range::new`, so it can make the key `[0, u64::MAX]` that
`Range::new` rejects; the next `allocate` that finds it free panics (`free_makes_full_range`).
-/

namespace KataContainers.Dragonball.Allocator

/-- The panics of `rotate`, `rotate_left` and `rotate_right`: the `unreachable!()` arm and the
`"Node is broken"` expects. -/
def Panic.InRotation : Panic → Prop
  | .nodeBroken | .unreachable => True
  | _ => False

/-- The checks of ranges panic outside the rotations. -/
theorem Panic.not_inRotation_of_eq_invalidRange {p : Panic} (h : p = .invalidRange) :
    ¬ p.InRotation := by
  subst h
  exact id

/-! ## Ranges and constraints -/

theorem Range.new_post {a b : UInt64} :
    Except.Post (fun r : Range => r.min = a ∧ r.max = b ∧ r.Valid) (fun p => p = .invalidRange)
      (Range.new a b) := by
  unfold Range.new
  split
  · rfl
  · next h => exact ⟨rfl, rfl, UInt64.not_lt.mp fun hlt => h (.inl hlt)⟩

theorem Range.align_to_post {r : Range} {align : UInt64} :
    Except.Post (fun _ => True) (fun p => p = .invalidRange) (r.align_to align) := by
  unfold Range.align_to
  split
  · trivial
  split
  · trivial
  split
  · trivial
  · dsimp only
    split
    · exact Except.post_map Range.new_post fun _ _ => trivial
    · trivial

namespace Tree

variable {T : Type}

theorem check_constraint_post {c : Constraint} {t : Tree T} :
    Except.Post (fun _ => True) (fun p => p = .invalidRange) (t.check_constraint c) := by
  cases t with
  | none => trivial
  | node k d l r h m =>
    unfold check_constraint
    dsimp only
    by_cases hfree : d.is_free = true
    · rw [if_pos hfree]
      by_cases hle : Max.max k.min c.min ≤ Min.min k.max c.max
      · rw [if_pos hle]
        refine Except.post_bind Range.new_post fun key _ => ?_
        by_cases ha : c.align = 0 ∨ c.align = 1
        · simp only [ha, if_true]
          trivial
        · simp only [ha, if_false]
          exact Except.post_bind Range.align_to_post fun a _ => by cases a <;> trivial
      · rw [if_neg hle]
        trivial
    · rw [if_neg hfree]
      trivial

theorem first_match_post {c : Constraint} {t : Tree T} :
    Except.Post (fun _ => True) (fun p => p = .invalidRange) (t.first_match c) := by
  induction t with
  | none => trivial
  | node k d l r h m ihl ihr =>
    unfold first_match
    simp only [Except.pure_eq_ok, Except.ok_bind_eq]
    -- the node itself, and then its right child, once the left child found nothing
    have hnode : Except.Post (fun _ => True) (fun p => p = .invalidRange)
        (check_constraint c (.node k d l r h m) >>= fun b =>
          if b = true then .ok (some (k, d))
          else if r.is_some = true then r.first_match c else .ok Option.none) := by
      refine Except.post_bind check_constraint_post fun b _ => ?_
      split
      · trivial
      split
      · exact ihr
      · trivial
    split
    · refine Except.post_bind ihl fun candidate _ => ?_
      cases candidate with
      | some found => trivial
      | none => exact hnode
    · exact hnode

theorem find_candidate_post {c : Constraint} {t : Tree T} :
    Except.Post (fun _ => True) (fun p => p = .invalidRange) (t.find_candidate c) := by
  unfold find_candidate
  split <;> exact first_match_post

end Tree

/-! ## The operations of `IntervalTree` keep the invariant -/

namespace IntervalTree

variable {T : Type} {t : IntervalTree T} {key : Range}

theorem post_insert (hv : t.root.Valid) {data : Option T} :
    Except.Post (fun t' => key.Valid → t'.root.Valid) (fun p => ¬ p.InRotation)
      (t.insert key data) := by
  rw [insert_eq]
  cases h : t.root.insert key data with
  | error p =>
    rcases (Tree.insert_avl hv.avl).of_eq_error h with rfl | rfl <;> exact id
  | ok r => exact fun hkey => hv.insert hkey h

theorem post_delete (hv : t.root.Valid) :
    Except.Post (fun p => p.1.root.Valid) (fun p => ¬ p.InRotation) (t.delete key) := by
  cases h : t.root.delete key with
  | error p => exact absurd ((Tree.delete_avl hv.avl).of_eq_error h) id
  | ok v =>
    obtain ⟨data, r⟩ := v
    simp only [delete, h, Except.ok_bind_eq, Except.pure_eq_ok, Except.post_ok]
    exact hv.delete h

/-- `Node::update` keeps the invariant, and panics only on a transition it refuses. -/
theorem Tree.post_update {r : Tree T} (hv : r.Valid) {s : NodeState T} :
    Except.Post (fun p => p.1.Valid) (fun p => ¬ p.InRotation) (r.update key s) := by
  cases h : r.update key s with
  | error p =>
    rw [Except.post_error, Tree.update_error h]
    exact id
  | ok v => exact hv.update h

theorem post_update (hv : t.root.Valid) {data : T} :
    Except.Post (fun p => p.1.root.Valid) (fun p => ¬ p.InRotation) (t.update key data) := by
  unfold update
  exact Except.post_bind (Tree.post_update hv) fun _ hr => hr

theorem post_mark_allocated (hv : t.root.Valid) :
    Except.Post (fun t' => t'.root.Valid) (fun p => ¬ p.InRotation) (t.mark_allocated key) := by
  unfold mark_allocated
  extract_lets jp
  split
  · exact id
  · exact Except.post_bind (Tree.post_update hv) fun _ hr => hr

/-- What `Range::new` makes is well formed, and it panics outside the rotations. -/
theorem range_new_post {a b : UInt64} :
    Except.Post (fun r : Range => r.min = a ∧ r.max = b ∧ r.Valid) (fun p => ¬ p.InRotation)
      (Range.new a b) :=
  Range.new_post.mono (fun _ h => h) fun _ => Panic.not_inRotation_of_eq_invalidRange

/-- `allocate` keeps the invariant: the node it splits is deleted and its pieces, each built by
`Range::new`, are inserted back. -/
theorem post_allocate (hv : t.root.Valid) {c : Constraint} :
    Except.Post (fun p => p.1.root.Valid) (fun p => ¬ p.InRotation) (t.allocate c) := by
  unfold allocate
  split
  · exact hv
  refine Except.post_bind (Tree.find_candidate_post.mono (fun _ h => h)
    fun _ => Panic.not_inRotation_of_eq_invalidRange) ?_
  rintro (_ | ⟨node_key, s⟩) -
  · exact hv
  refine Except.post_bind range_new_post fun range _ => ?_
  refine Except.post_bind (Range.align_to_post.mono (fun _ h => h)
    fun _ => Panic.not_inRotation_of_eq_invalidRange) fun aligned _ => ?_
  cases aligned with
  | none => exact id
  | some aligned_key =>
    refine Except.post_bind range_new_post fun result ⟨_, _, hresult⟩ => ?_
    split
    · -- the node is taken whole
      exact Except.post_bind (post_mark_allocated hv) fun _ h => h
    refine Except.post_bind (post_delete hv) ?_
    rintro ⟨t₁, data⟩ hv₁
    dsimp -zeta only
    -- the join points of the two optional pieces: the mark, and the result with the piece above
    extract_lets mark upper
    have hmark : ∀ t₂ : IntervalTree T, t₂.root.Valid →
        Except.Post (fun p => p.1.root.Valid) (fun p => ¬ p.InRotation) (mark t₂) := by
      intro t₂ hv₂
      simp only [mark]
      exact Except.post_bind (post_mark_allocated hv₂) fun _ h => h
    have hupper : ∀ t₂ : IntervalTree T, t₂.root.Valid →
        Except.Post (fun p => p.1.root.Valid) (fun p => ¬ p.InRotation) (upper t₂) := by
      intro t₂ hv₂
      simp only [upper]
      refine Except.post_bind (post_insert hv₂) fun t₃ h₃ => ?_
      split
      · refine Except.post_bind range_new_post fun piece ⟨_, _, hpiece⟩ => ?_
        exact Except.post_bind (post_insert (h₃ hresult)) fun t₄ h₄ => hmark t₄ (h₄ hpiece)
      · exact Except.post_bind (Except.post_pure (h₃ hresult)) hmark
    split
    · refine Except.post_bind range_new_post fun piece ⟨_, _, hpiece⟩ => ?_
      exact Except.post_bind (post_insert hv₁) fun t₂ h₂ => hupper t₂ (h₂ hpiece)
    · exact Except.post_bind (Except.post_pure hv₁) hupper

theorem toNat_sub_one {a : UInt64} (h : a > 0) : (a - 1).toNat = a.toNat - 1 :=
  UInt64.toNat_sub_of_le a 1 h

theorem toNat_add_one {a : UInt64} (h : a < U64_MAX) : (a + 1).toNat = a.toNat + 1 := by
  have hlt : a.toNat < U64_MAX.toNat := UInt64.lt_iff_toNat_lt.mp h
  have hmax : U64_MAX.toNat = 2 ^ 64 - 1 := rfl
  rw [UInt64.toNat_add, UInt64.toNat_one]
  omega

/-- The node holding a range contains it: it starts no later and ends no earlier. -/
theorem get_superset_bounds {q r : Range} {v : NodeState T}
    (h : t.get_superset q = some (r, v)) :
    r.min.toNat ≤ q.min.toNat ∧ q.max.toNat ≤ r.max.toNat :=
  Range.contain_iff.mp (Tree.search_superset_sound h).2

/-- The step of `free` that deletes a neighbour merged into the freed range. -/
theorem post_delete_new {β : Type} {Q : β → Prop} {a b : UInt64}
    {k : IntervalTree T → Except Panic β} (hv : t.root.Valid)
    (hk : ∀ t' : IntervalTree T, t'.root.Valid → Except.Post Q (fun p => ¬ p.InRotation) (k t')) :
    Except.Post Q (fun p => ¬ p.InRotation)
      (do let d ← Range.new a b; let x ← t.delete d; let t' ← pure x.1; k t') :=
  Except.post_bind range_new_post fun _ _ =>
    Except.post_bind (post_delete hv) fun _ hx => Except.post_bind (Except.post_pure hx) hk

/-- `free` keeps the invariant when the key it frees is well formed: the merged range runs from
the start of the free node below the key to the end of the free node above it, so it is well
formed too. -/
theorem post_free (hv : t.root.Valid) :
    Except.Post (fun p => key.Valid → p.1.root.Valid) (fun p => ¬ p.InRotation) (t.free key) := by
  unfold free
  refine Except.post_bind (post_delete hv) ?_
  rintro ⟨t₁, data⟩ hv₁
  dsimp -zeta only
  extract_lets lo_jp
  have hlo : ∀ lo : UInt64, (key.Valid → lo.toNat ≤ key.min.toNat) →
      Except.Post (fun p => key.Valid → p.1.root.Valid) (fun p => ¬ p.InRotation) (lo_jp lo) := by
    intro lo hle
    dsimp -zeta only [lo_jp]
    extract_lets hi_jp
    have hhi : ∀ hi : UInt64, (key.Valid → key.max.toNat ≤ hi.toNat) →
        Except.Post (fun p => key.Valid → p.1.root.Valid) (fun p => ¬ p.InRotation) (hi_jp hi) := by
      intro hi hge
      dsimp -zeta only [hi_jp]
      extract_lets range insert_jp upper_jp
      have hrange : key.Valid → range.Valid := fun hk => by
        have h₁ := hle hk
        have h₂ := hge hk
        rw [Range.valid_iff] at hk ⊢
        exact Nat.le_trans h₁ (Nat.le_trans hk h₂)
      have hins : ∀ t₂ : IntervalTree T, t₂.root.Valid →
          Except.Post (fun p => key.Valid → p.1.root.Valid) (fun p => ¬ p.InRotation)
            (insert_jp t₂) := by
        intro t₂ hv₂
        simp only [insert_jp]
        exact Except.post_bind (post_insert hv₂) fun _ h₃ => Except.post_pure fun hk => h₃ (hrange hk)
      have hupper : ∀ t₂ : IntervalTree T, t₂.root.Valid →
          Except.Post (fun p => key.Valid → p.1.root.Valid) (fun p => ¬ p.InRotation)
            (upper_jp t₂) := by
        intro t₂ hv₂
        simp only [upper_jp]
        split
        · exact post_delete_new hv₂ hins
        · exact Except.post_bind (Except.post_pure hv₂) hins
      split
      · exact post_delete_new hv₁ hupper
      · exact Except.post_bind (Except.post_pure hv₁) hupper
    split
    · next hlt =>
      refine Except.post_bind range_new_post ?_
      rintro q ⟨-, hqmax, -⟩
      split
      · next r v hsup =>
        refine Except.post_bind (Except.post_pure ?_) hhi
        intro hk
        split
        · have hr := (get_superset_bounds hsup).2
          rw [hqmax, toNat_add_one hlt] at hr
          omega
        · exact Nat.le_refl _
      · exact Except.post_bind (Except.post_pure fun _ => Nat.le_refl _) hhi
    · exact Except.post_bind (Except.post_pure fun _ => Nat.le_refl _) hhi
  split
  · next hpos =>
    refine Except.post_bind range_new_post ?_
    rintro q ⟨hqmin, -, -⟩
    split
    · next r v hsup =>
      refine Except.post_bind (Except.post_pure ?_) hlo
      intro hk
      split
      · have hr := (get_superset_bounds hsup).1
        rw [hqmin, toNat_sub_one hpos] at hr
        omega
      · exact Nat.le_refl _
    · exact Except.post_bind (Except.post_pure fun _ => Nat.le_refl _) hlo
  · exact Except.post_bind (Except.post_pure fun _ => Nat.le_refl _) hlo

/-! ## Reachable trees -/

/-- The trees that `IntervalTree::new` and the public operations reach. The keys given to `insert`
and `free` are well formed, as `Range::new` makes them. -/
inductive Reachable : IntervalTree T → Prop
  | new : Reachable .new
  | insert {t t' : IntervalTree T} {key : Range} {data : Option T} :
      Reachable t → key.Valid → t.insert key data = .ok t' → Reachable t'
  | delete {t t' : IntervalTree T} {key : Range} {data : Option T} :
      Reachable t → t.delete key = .ok (t', data) → Reachable t'
  | update {t t' : IntervalTree T} {key : Range} {data : T} {old : Option T} :
      Reachable t → t.update key data = .ok (t', old) → Reachable t'
  | allocate {t t' : IntervalTree T} {c : Constraint} {result : Option Range} :
      Reachable t → t.allocate c = .ok (t', result) → Reachable t'
  | free {t t' : IntervalTree T} {key : Range} {data : Option T} :
      Reachable t → key.Valid → t.free key = .ok (t', data) → Reachable t'

/-- No operation panics in a rotation, whatever its arguments. -/
structure NoRotationPanic (t : IntervalTree T) : Prop where
  insert : ∀ (key : Range) (data : Option T) (p : Panic), t.insert key data = .error p →
    ¬ p.InRotation
  delete : ∀ (key : Range) (p : Panic), t.delete key = .error p → ¬ p.InRotation
  update : ∀ (key : Range) (data : T) (p : Panic), t.update key data = .error p → ¬ p.InRotation
  allocate : ∀ (c : Constraint) (p : Panic), t.allocate c = .error p → ¬ p.InRotation
  free : ∀ (key : Range) (p : Panic), t.free key = .error p → ¬ p.InRotation

theorem valid_new : (IntervalTree.new : IntervalTree T).root.Valid :=
  ⟨by simp [Tree.Ordered, OrderedKeys, IntervalTree.new], trivial⟩

theorem Reachable.root_valid (h : t.Reachable) : t.root.Valid := by
  induction h with
  | new => exact valid_new
  | insert _ hkey ht ih => exact (post_insert ih).of_eq_ok ht hkey
  | delete _ ht ih => exact (post_delete ih).of_eq_ok ht
  | update _ ht ih => exact (post_update ih).of_eq_ok ht
  | allocate _ ht ih => exact (post_allocate ih).of_eq_ok ht
  | free _ hkey ht ih => exact (post_free ih).of_eq_ok ht hkey

theorem noRotationPanic_of_valid (hv : t.root.Valid) : t.NoRotationPanic where
  insert _ _ _ h := (post_insert hv).of_eq_error h
  delete _ _ h := (post_delete hv).of_eq_error h
  update _ _ _ h := (post_update hv).of_eq_error h
  allocate _ _ h := (post_allocate hv).of_eq_error h
  free _ _ h := (post_free hv).of_eq_error h

/-- Freeing a node of a reachable tree, as the allocator does, stays among the reachable trees:
every node's key is well formed. -/
theorem Reachable.free_node {t' : IntervalTree T} {s : NodeState T} {data : Option T}
    (h : t.Reachable) (hget : t.get key = some s) (hf : t.free key = .ok (t', data)) :
    t'.Reachable := by
  have hv := h.root_valid
  rw [get, Tree.search_eq_lookup hv.ordered.sorted] at hget
  have hkey : key ∈ t.root.keys := Tree.mem_keys (List.mem_of_lookup_eq_some hget)
  exact .free h (hv.ordered.1 key hkey) hf

/-- Every reachable tree keeps the representation invariant: its keys in increasing order and
pairwise disjoint, its cached heights and `max_key`s right and its shape balanced at every node
(`Tree.Avl`; `Avl.max_key_greatest` reads the cached `max_key` as the greatest end). From such a
tree no operation panics in a rotation. -/
theorem reachable_valid (h : t.Reachable) :
    t.root.Sorted ∧ t.root.Disjoint ∧ t.root.Avl ∧ t.NoRotationPanic :=
  have hv := h.root_valid
  ⟨hv.ordered.sorted, hv.ordered.disjoint, hv.avl, noRotationPanic_of_valid hv⟩

/-- `doc_tree` after the allocation of its example: two bytes at `0x200`, split off the free node
`[0x200, 0x2ff]`. -/
def doc_tree_allocated : IntervalTree Unit :=
  ⟨.node ⟨0x200, 0x201⟩ .Allocated (.node ⟨0x100, 0x100⟩ .Free .none .none 1 0x100)
    (.node ⟨0x202, 0x2ff⟩ .Free .none .none 1 0x2ff) 2 0x2ff⟩

theorem doc_tree_allocated_reachable : doc_tree_allocated.Reachable := by
  have h₁ : (IntervalTree.new : IntervalTree Unit).insert ⟨0x100, 0x100⟩ none =
      .ok ⟨.node ⟨0x100, 0x100⟩ .Free .none .none 1 0x100⟩ := by decide
  have h₂ : IntervalTree.insert ⟨.node ⟨0x100, 0x100⟩ .Free .none .none 1 0x100⟩ ⟨0x200, 0x2ff⟩
      none = .ok doc_tree := by decide
  have h₃ : doc_tree.allocate (Constraint.new 2) =
      .ok (doc_tree_allocated, some ⟨0x200, 0x201⟩) := by decide
  exact .allocate (.insert (.insert .new (by decide) h₁) (by decide) h₂) h₃

theorem reachable_valid_doc_tree_allocated :
    doc_tree_allocated.Reachable ∧ (doc_tree_allocated.root.Sorted ∧
      doc_tree_allocated.root.Disjoint ∧ doc_tree_allocated.root.Avl ∧
      doc_tree_allocated.NoRotationPanic) :=
  ⟨doc_tree_allocated_reachable, reachable_valid doc_tree_allocated_reachable⟩

/-! ## Inverted keys -/

/-- The runs the invariant was first stated for: inserts of keys that meet no key of the tree and
frees of allocated or valued nodes, with nothing said of the order of a key's two ends. -/
inductive ReachableAnyKey : IntervalTree T → Prop
  | new : ReachableAnyKey .new
  | insert {t t' : IntervalTree T} {key : Range} {data : Option T} :
      ReachableAnyKey t → (∀ k ∈ t.root.keys, k.intersect key = false) →
      t.insert key data = .ok t' → ReachableAnyKey t'
  | delete {t t' : IntervalTree T} {key : Range} {data : Option T} :
      ReachableAnyKey t → t.delete key = .ok (t', data) → ReachableAnyKey t'
  | update {t t' : IntervalTree T} {key : Range} {data : T} {old : Option T} :
      ReachableAnyKey t → t.update key data = .ok (t', old) → ReachableAnyKey t'
  | allocate {t t' : IntervalTree T} {c : Constraint} {result : Option Range} :
      ReachableAnyKey t → t.allocate c = .ok (t', result) → ReachableAnyKey t'
  | free {t t' : IntervalTree T} {key : Range} {s : NodeState T} {data : Option T} :
      ReachableAnyKey t → t.get key = some s → s.is_free = false →
      t.free key = .ok (t', data) → ReachableAnyKey t'

/-- Free nodes `[30, 20]` and `[0, 100]` and the valued node `[50, 10]`, inserted in that order;
each key meets none before it, and the keys are sorted and disjoint. -/
def inverted_keys_tree : IntervalTree Unit :=
  ⟨.node ⟨30, 20⟩ .Free (.node ⟨0, 100⟩ .Free .none .none 1 100)
    (.node ⟨50, 10⟩ (.Valued ()) .none .none 1 10) 2 100⟩

/-- `inverted_keys_tree` after `free` of `[50, 10]`: the search below `50` finds `[0, 100]`, so the
freed node becomes `[50, 100]`, which meets `[0, 100]`. -/
def inverted_keys_freed : IntervalTree Unit :=
  ⟨.node ⟨30, 20⟩ .Free (.node ⟨0, 100⟩ .Free .none .none 1 100)
    (.node ⟨50, 100⟩ .Free .none .none 1 100) 2 100⟩

theorem free_inverted_key_overlaps :
    inverted_keys_freed.ReachableAnyKey ∧ ¬ inverted_keys_freed.root.Disjoint := by
  have h₁ : (IntervalTree.new : IntervalTree Unit).insert ⟨30, 20⟩ none =
      .ok ⟨.node ⟨30, 20⟩ .Free .none .none 1 20⟩ := by decide
  have h₂ : IntervalTree.insert ⟨.node ⟨30, 20⟩ .Free .none .none 1 20⟩ ⟨0, 100⟩ none =
      .ok (⟨.node ⟨30, 20⟩ .Free (.node ⟨0, 100⟩ .Free .none .none 1 100) .none 2 100⟩ :
        IntervalTree Unit) := by
    decide
  have h₃ : IntervalTree.insert
      ⟨.node ⟨30, 20⟩ .Free (.node ⟨0, 100⟩ .Free .none .none 1 100) .none 2 100⟩ ⟨50, 10⟩
      (some ()) = .ok inverted_keys_tree := by decide
  have hget : inverted_keys_tree.get ⟨50, 10⟩ = some (.Valued ()) := by decide
  have h₄ : inverted_keys_tree.free ⟨50, 10⟩ = .ok (inverted_keys_freed, some ()) := by decide
  have hr : inverted_keys_tree.ReachableAnyKey :=
    .insert (.insert (.insert .new (by decide) h₁) (by decide) h₂) (by decide) h₃
  exact ⟨.free hr hget rfl h₄, by decide⟩

/-! ## The whole of `u64` -/

/-- The trees that `IntervalTree::new` and inserts of keys built by `Range::new` reach. -/
inductive Built : IntervalTree T → Prop
  | new : Built .new
  | insert {t t' : IntervalTree T} {a b : UInt64} {key : Range} {data : Option T} :
      Built t → Range.new a b = .ok key → t.insert key data = .ok t' → Built t'

/-- An allocator in service: a built tree, then `allocate` with any constraint and `free` of a key
that `allocate` handed out and that is not freed yet. `handed` lists those keys. -/
inductive Served : IntervalTree T → List Range → Prop
  | built {t : IntervalTree T} : Built t → Served t []
  | allocate {t t' : IntervalTree T} {handed : List Range} {c : Constraint} {r : Option Range} :
      Served t handed → t.allocate c = .ok (t', r) → Served t' (r.toList ++ handed)
  | free {t t' : IntervalTree T} {handed : List Range} {key : Range} {data : Option T} :
      Served t handed → key ∈ handed → t.free key = .ok (t', data) → Served t' (handed.erase key)

/-- The free nodes `[0, 9]` and `[10, u64::MAX]`, each built by `Range::new`. -/
def split_u64_tree : IntervalTree Unit :=
  ⟨.node ⟨0, 9⟩ .Free .none (.node ⟨10, U64_MAX⟩ .Free .none .none 1 U64_MAX) 2 U64_MAX⟩

/-- One free node over the whole of `u64`, a key that `Range::new` rejects. -/
def full_u64_tree : IntervalTree Unit := ⟨.node ⟨0, U64_MAX⟩ .Free .none .none 1 U64_MAX⟩

/-- Allocating `[0, 9]` from `split_u64_tree` and freeing it merges it with `[10, u64::MAX]`: the
merged key is written without `Range::new`, and the next `allocate` panics in `check_constraint`,
whose `Range::new` sees the whole of `u64`. -/
theorem free_makes_full_range :
    Served full_u64_tree [] ∧ (⟨0, U64_MAX⟩ : Range) ∈ full_u64_tree.root.keys ∧
      full_u64_tree.allocate (Constraint.new 1) = .error .invalidRange := by
  have h₁ : (IntervalTree.new : IntervalTree Unit).insert ⟨0, 9⟩ none =
      .ok ⟨.node ⟨0, 9⟩ .Free .none .none 1 9⟩ := by decide
  have h₂ : IntervalTree.insert ⟨.node ⟨0, 9⟩ .Free .none .none 1 9⟩ ⟨10, U64_MAX⟩ none =
      .ok split_u64_tree := by decide
  have h₃ : split_u64_tree.allocate (Constraint.new 10) =
      .ok (⟨.node ⟨0, 9⟩ .Allocated .none (.node ⟨10, U64_MAX⟩ .Free .none .none 1 U64_MAX)
        2 U64_MAX⟩, some ⟨0, 9⟩) := by decide
  have h₄ : IntervalTree.free ⟨.node ⟨0, 9⟩ .Allocated .none
      (.node ⟨10, U64_MAX⟩ .Free .none .none 1 U64_MAX) 2 U64_MAX⟩ ⟨0, 9⟩ =
      .ok (full_u64_tree, Option.none) := by decide
  have hbuilt : Built split_u64_tree :=
    .insert (.insert .new (a := 0) (b := 9) (by decide) h₁) (a := 10) (b := U64_MAX) (by decide) h₂
  have hserved := Served.free (.allocate (.built hbuilt) h₃) (List.mem_singleton_self _) h₄
  exact ⟨hserved, by decide, by decide⟩

end IntervalTree

end KataContainers.Dragonball.Allocator
