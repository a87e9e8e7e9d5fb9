import KataContainers.Dragonball.Allocator.Allocate

/-!
# What `free` gives back

`IntervalTree::free` deletes the node of a key `k`, looks at the address right below `k` and the
address right above it (`get_superset` of `k.min - 1` and `k.max + 1`, guarded at `0` and
`u64::MAX`), deletes the free nodes it finds there by keys it rebuilds from `k`, and inserts the
merged range as a free node. Under the invariant the rebuilt keys are the keys of those nodes, so
`free` replaces `k` and the free nodes right next to it by one free node (`free_spec`, with the
nodes named by `free_below`, `free_above` and `merged`). It keeps the addresses the tree covers
and the nodes that are not free (`FreeSpec.covers`, `FreeSpec.mem_iff_of_ne_free`), and adds the
addresses of `k` to the free ones (`FreeSpec.freeAt`).

After `allocate` hands out `r` the free addresses are those before but the ones of `r`
(`Replaces.freeAt_split`); so `free r` right after gives back the free addresses and the nodes
that are not free exactly as they were (`allocate_free_spec`), though the free nodes themselves
may be cut differently: `free` also merges free nodes that `allocate` never split.
-/

namespace KataContainers.Dragonball.Allocator

theorem NodeState.is_free_iff {T : Type} {d : NodeState T} : d.is_free = true ↔ d = .Free := by
  cases d <;> simp [NodeState.is_free]

namespace IntervalTree

variable {T : Type} {t t₁ : IntervalTree T}

/-! ## The nodes `free` merges -/

/-- The key of the first free node whose key satisfies `p`. -/
def free_node (t : IntervalTree T) (p : Range → Bool) : Option Range :=
  (t.root.entries.find? fun e => e.2.is_free && p e.1).map Prod.fst

/-- The free node of `t` that ends right below `k`, if there is one. -/
def free_below (t : IntervalTree T) (k : Range) : Option Range :=
  t.free_node fun M => M.max.toNat + 1 == k.min.toNat

/-- The free node of `t` that starts right above `k`, if there is one. -/
def free_above (t : IntervalTree T) (k : Range) : Option Range :=
  t.free_node fun M => k.max.toNat + 1 == M.min.toNat

/-- `k` extended by the free nodes right below and right above it. -/
def merged (t : IntervalTree T) (k : Range) : Range :=
  ⟨((free_below t k).map Range.min).getD k.min, ((free_above t k).map Range.max).getD k.max⟩

/-- The keys of the nodes that `merged t k` takes the place of. -/
def merged_keys (t : IntervalTree T) (k : Range) : List Range :=
  [k] ++ (free_below t k).toList ++ (free_above t k).toList

theorem valid_of_mem (hv : t.root.Valid) {e : Range × NodeState T} (he : e ∈ t.root.entries) :
    e.1.Valid :=
  hv.ordered.1 _ (List.mem_map_of_mem he)

/-- Under the invariant a key has one state, and `lookup` finds it. -/
theorem lookup_of_mem (hv : t.root.Valid) {k : Range} {d : NodeState T}
    (h : (k, d) ∈ t.root.entries) : t.root.entries.lookup k = some d :=
  List.lookup_eq_some_of_mem (hv.ordered.sorted.imp Range.ne_of_cmp_lt) h

/-- Two nodes holding one address are one node. -/
theorem eq_of_contain_point (hv : t.root.Valid) {q : UInt64} {e₁ e₂ : Range × NodeState T}
    (h₁ : e₁ ∈ t.root.entries) (h₂ : e₂ ∈ t.root.entries)
    (hq₁ : e₁.1.min.toNat ≤ q.toNat ∧ q.toNat ≤ e₁.1.max.toNat)
    (hq₂ : e₂.1.min.toNat ≤ q.toNat ∧ q.toNat ≤ e₂.1.max.toNat) : e₁ = e₂ :=
  Tree.contain_unique hv.ordered (q := ⟨q, q⟩) (UInt64.le_refl q) h₁ h₂
    (Range.contain_iff.mpr hq₁) (Range.contain_iff.mpr hq₂)

/-- Another node lies wholly below or wholly above the node `k`. -/
theorem below_or_above (hv : t.root.Valid) {k : Range} {d : NodeState T}
    (hk : (k, d) ∈ t.root.entries) {e : Range × NodeState T} (he : e ∈ t.root.entries)
    (hne : e.1 ≠ k) : e.1.max.toNat < k.min.toNat ∨ k.max.toNat < e.1.min.toNat := by
  rcases hv.ordered.2.rel_or_rel (List.mem_map_of_mem he) (List.mem_map_of_mem hk) hne with h | h
  · exact .inl (Range.before_iff.mp h)
  · exact .inr (Range.before_iff.mp h)

/-- Where at most one free node satisfies `p`, `free_node` finds it. -/
theorem free_node_eq_some_iff {p : Range → Bool}
    (hu : ∀ M₁ M₂, (M₁, NodeState.Free) ∈ t.root.entries → (M₂, NodeState.Free) ∈ t.root.entries →
      p M₁ = true → p M₂ = true → M₁ = M₂) {M : Range} :
    t.free_node p = some M ↔ (M, NodeState.Free) ∈ t.root.entries ∧ p M = true := by
  have hp : ∀ e : Range × NodeState T, (e.2.is_free && p e.1) = true ↔ e.2 = .Free ∧ p e.1 = true :=
    fun e => by rw [Bool.and_eq_true, NodeState.is_free_iff]
  have hu' : ∀ b ∈ t.root.entries, ∀ c ∈ t.root.entries,
      (b.2.is_free && p b.1) = true → (c.2.is_free && p c.1) = true → b = c := by
    rintro ⟨kb, db⟩ hb ⟨kc, dc⟩ hc hpb hpc
    obtain ⟨rfl, hpb⟩ := (hp _).mp hpb
    obtain ⟨rfl, hpc⟩ := (hp _).mp hpc
    rw [hu kb kc hb hc hpb hpc]
  unfold free_node
  rw [Option.map_eq_some_iff]
  constructor
  · rintro ⟨e, he, rfl⟩
    obtain ⟨hmem, hpe⟩ := (List.find?_eq_some_iff_of_unique hu').mp he
    obtain ⟨hfree, hpe⟩ := (hp e).mp hpe
    exact ⟨hfree ▸ hmem, hpe⟩
  · rintro ⟨hmem, hpM⟩
    exact ⟨(M, .Free), (List.find?_eq_some_iff_of_unique hu').mpr ⟨hmem, (hp _).mpr ⟨rfl, hpM⟩⟩,
      rfl⟩

theorem free_below_eq_some_iff (hv : t.root.Valid) {k M : Range} :
    free_below t k = some M ↔
      (M, NodeState.Free) ∈ t.root.entries ∧ M.max.toNat + 1 = k.min.toNat := by
  rw [free_below, free_node_eq_some_iff, beq_iff_eq]
  -- two such nodes hold the address right below `k`
  intro M₁ M₂ h₁ h₂ hp₁ hp₂
  rw [beq_iff_eq] at hp₁ hp₂
  have hv₁ : M₁.min.toNat ≤ M₁.max.toNat := Range.valid_iff.mp (valid_of_mem hv h₁)
  have hv₂ : M₂.min.toNat ≤ M₂.max.toNat := Range.valid_iff.mp (valid_of_mem hv h₂)
  exact congrArg Prod.fst (eq_of_contain_point hv (q := M₁.max) h₁ h₂ (by dsimp only; omega)
    (by dsimp only; omega))

theorem free_above_eq_some_iff (hv : t.root.Valid) {k M : Range} :
    free_above t k = some M ↔
      (M, NodeState.Free) ∈ t.root.entries ∧ k.max.toNat + 1 = M.min.toNat := by
  rw [free_above, free_node_eq_some_iff, beq_iff_eq]
  -- two such nodes hold the address right above `k`
  intro M₁ M₂ h₁ h₂ hp₁ hp₂
  rw [beq_iff_eq] at hp₁ hp₂
  have hv₁ : M₁.min.toNat ≤ M₁.max.toNat := Range.valid_iff.mp (valid_of_mem hv h₁)
  have hv₂ : M₂.min.toNat ≤ M₂.max.toNat := Range.valid_iff.mp (valid_of_mem hv h₂)
  exact congrArg Prod.fst (eq_of_contain_point hv (q := M₁.min) h₁ h₂ (by dsimp only; omega)
    (by dsimp only; omega))

/-! ## The steps of `free` -/

/-- `t'` is `t` without the nodes whose keys are in `ks`, and keeps the invariant. -/
def Removed (t t' : IntervalTree T) (ks : List Range) : Prop :=
  t'.root.Valid ∧ ∀ e, e ∈ t'.root.entries ↔ e ∈ t.root.entries ∧ e.1 ∉ ks

/-- Deleting `k` removes it, and gives what its node held. -/
theorem removed_delete (hv : t.root.Valid) (k : Range) :
    Except.Post (fun p => Removed t p.1 [k] ∧ p.2 = (t.root.entries.lookup k).bind NodeState.into)
      (fun _ => False) (t.delete k) :=
  (delete_post hv k).mono
    (fun _ ⟨hv', hd, hent⟩ => ⟨⟨hv', fun e => by rw [hent, List.mem_singleton]⟩, hd⟩) fun _ h => h

/-- Deleting one more key removes it too. -/
theorem Removed.delete {ks : List Range} (h : Removed t t₁ ks) (M : Range) :
    Except.Post (fun p => Removed t p.1 (ks ++ [M])) (fun _ => False) (t₁.delete M) :=
  (delete_post h.1 M).mono (fun _ ⟨hv', _, hent⟩ => ⟨hv', fun e => by
    rw [hent, h.2, List.mem_append, List.mem_singleton, and_assoc, not_or]⟩) fun _ h => h

section Probe

variable {k : Range} {d : NodeState T} (hv : t.root.Valid) (hk : (k, d) ∈ t.root.entries)
include hv hk

/-- The free node right below `k` is another node, and is still there once `k` is deleted. -/
theorem free_below_spec (h₁ : Removed t t₁ [k]) {M : Range} (hb : free_below t k = some M) :
    (M, NodeState.Free) ∈ t₁.root.entries ∧ M.min.toNat ≤ M.max.toNat ∧
      M.max.toNat + 1 = k.min.toNat := by
  obtain ⟨hM, hadj⟩ := (free_below_eq_some_iff hv).mp hb
  have hMv : M.min.toNat ≤ M.max.toNat := Range.valid_iff.mp (valid_of_mem hv hM)
  have hkv : k.min.toNat ≤ k.max.toNat := Range.valid_iff.mp (valid_of_mem hv hk)
  refine ⟨(h₁.2 _).mpr ⟨hM, ?_⟩, hMv, hadj⟩
  rw [List.mem_singleton]
  intro hMk
  dsimp only at hMk
  subst hMk
  omega

/-- The free node right above `k` is another node, and is still there once `k` is deleted. -/
theorem free_above_spec (h₁ : Removed t t₁ [k]) {M : Range} (hb : free_above t k = some M) :
    (M, NodeState.Free) ∈ t₁.root.entries ∧ M.min.toNat ≤ M.max.toNat ∧
      k.max.toNat + 1 = M.min.toNat := by
  obtain ⟨hM, hadj⟩ := (free_above_eq_some_iff hv).mp hb
  have hMv : M.min.toNat ≤ M.max.toNat := Range.valid_iff.mp (valid_of_mem hv hM)
  have hkv : k.min.toNat ≤ k.max.toNat := Range.valid_iff.mp (valid_of_mem hv hk)
  refine ⟨(h₁.2 _).mpr ⟨hM, ?_⟩, hMv, hadj⟩
  rw [List.mem_singleton]
  intro hMk
  dsimp only at hMk
  subst hMk
  omega

/-- What `free` finds at the address below `k`, once `k` is deleted: the free node right below
`k`, a node in another state, or nothing. -/
theorem free_below_of_probe (h₁ : Removed t t₁ [k]) (hpos : k.min > 0) :
    free_below t k = match t₁.get_superset ⟨k.min - 1, k.min - 1⟩ with
      | some (r, v) => if v.is_free then some r else none
      | none => none := by
  have hq := UInt64.toNat_sub_one_of_lt hpos
  have hpos' := UInt64.lt_iff_toNat_lt.mp hpos
  have hkv : k.min.toNat ≤ k.max.toNat := Range.valid_iff.mp (valid_of_mem hv hk)
  have hprobe : ∀ e, t₁.get_superset ⟨k.min - 1, k.min - 1⟩ = some e ↔
      e ∈ t₁.root.entries ∧ e.1.contain ⟨k.min - 1, k.min - 1⟩ = true :=
    fun _ => get_superset_eq_some_iff h₁.1 (UInt64.le_refl _)
  split
  · next r v hsup =>
    obtain ⟨hr₁, hrc⟩ := (hprobe _).mp hsup
    obtain ⟨hr, hrk⟩ := (h₁.2 _).mp hr₁
    rw [Range.contain_iff] at hrc
    -- `r` holds the address below `k` and is not `k`, so it ends right below `k`
    have hadj : r.max.toNat + 1 = k.min.toNat := by
      have := below_or_above hv hk hr (List.ne_of_not_mem_cons hrk)
      dsimp only at hrc this
      omega
    split
    · next hfree =>
      rw [NodeState.is_free_iff] at hfree
      subst hfree
      exact (free_below_eq_some_iff hv).mpr ⟨hr, hadj⟩
    · next hfree =>
      cases hb : free_below t k with
      | none => rfl
      | some M =>
        obtain ⟨hM₁, hMv, hMadj⟩ := free_below_spec hv hk h₁ hb
        have hMr := eq_of_contain_point h₁.1 (q := k.min - 1) hM₁ hr₁ (by dsimp only; omega)
          (by dsimp only at hrc ⊢; omega)
        rw [← (Prod.mk.inj hMr).2] at hfree
        exact absurd rfl hfree
  · next hsup =>
    cases hb : free_below t k with
    | none => rfl
    | some M =>
      obtain ⟨hM₁, hMv, hMadj⟩ := free_below_spec hv hk h₁ hb
      have := (hprobe _).mpr ⟨hM₁, Range.contain_iff.mpr (by dsimp only; omega)⟩
      rw [hsup] at this
      cases this

/-- What `free` finds at the address above `k`, once `k` is deleted: the free node right above
`k`, a node in another state, or nothing. -/
theorem free_above_of_probe (h₁ : Removed t t₁ [k]) (hlt : k.max < U64_MAX) :
    free_above t k = match t₁.get_superset ⟨k.max + 1, k.max + 1⟩ with
      | some (r, v) => if v.is_free then some r else none
      | none => none := by
  have hq := UInt64.toNat_add_one_of_lt hlt
  have hkv : k.min.toNat ≤ k.max.toNat := Range.valid_iff.mp (valid_of_mem hv hk)
  have hprobe : ∀ e, t₁.get_superset ⟨k.max + 1, k.max + 1⟩ = some e ↔
      e ∈ t₁.root.entries ∧ e.1.contain ⟨k.max + 1, k.max + 1⟩ = true :=
    fun _ => get_superset_eq_some_iff h₁.1 (UInt64.le_refl _)
  split
  · next r v hsup =>
    obtain ⟨hr₁, hrc⟩ := (hprobe _).mp hsup
    obtain ⟨hr, hrk⟩ := (h₁.2 _).mp hr₁
    rw [Range.contain_iff] at hrc
    -- `r` holds the address above `k` and is not `k`, so it starts right above `k`
    have hadj : k.max.toNat + 1 = r.min.toNat := by
      have := below_or_above hv hk hr (List.ne_of_not_mem_cons hrk)
      dsimp only at hrc this
      omega
    split
    · next hfree =>
      rw [NodeState.is_free_iff] at hfree
      subst hfree
      exact (free_above_eq_some_iff hv).mpr ⟨hr, hadj⟩
    · next hfree =>
      cases hb : free_above t k with
      | none => rfl
      | some M =>
        obtain ⟨hM₁, hMv, hMadj⟩ := free_above_spec hv hk h₁ hb
        have hMr := eq_of_contain_point h₁.1 (q := k.max + 1) hM₁ hr₁ (by dsimp only; omega)
          (by dsimp only at hrc ⊢; omega)
        rw [← (Prod.mk.inj hMr).2] at hfree
        exact absurd rfl hfree
  · next hsup =>
    cases hb : free_above t k with
    | none => rfl
    | some M =>
      obtain ⟨hM₁, hMv, hMadj⟩ := free_above_spec hv hk h₁ hb
      have := (hprobe _).mpr ⟨hM₁, Range.contain_iff.mpr (by dsimp only; omega)⟩
      rw [hsup] at this
      cases this

end Probe

section Merged

variable {k : Range} (hv : t.root.Valid)
include hv

theorem merged_min_le : (merged t k).min.toNat ≤ k.min.toNat := by
  dsimp only [merged]
  cases hb : free_below t k with
  | none => exact Nat.le_refl _
  | some M =>
    obtain ⟨hM, hadj⟩ := (free_below_eq_some_iff hv).mp hb
    have hMv : M.min.toNat ≤ M.max.toNat := Range.valid_iff.mp (valid_of_mem hv hM)
    dsimp only [Option.map_some, Option.getD_some]
    omega

theorem le_merged_max : k.max.toNat ≤ (merged t k).max.toNat := by
  dsimp only [merged]
  cases ha : free_above t k with
  | none => exact Nat.le_refl _
  | some M =>
    obtain ⟨hM, hadj⟩ := (free_above_eq_some_iff hv).mp ha
    have hMv : M.min.toNat ≤ M.max.toNat := Range.valid_iff.mp (valid_of_mem hv hM)
    dsimp only [Option.map_some, Option.getD_some]
    omega

/-- A node below `k` that `free` keeps ends below the merged node. -/
theorem lt_merged_min {e : Range × NodeState T} (he : e ∈ t.root.entries)
    (hne : e.1 ∉ merged_keys t k) (hlt : e.1.max.toNat < k.min.toNat) :
    e.1.max.toNat < (merged t k).min.toNat := by
  dsimp only [merged]
  cases hb : free_below t k with
  | none => exact hlt
  | some M =>
    obtain ⟨hM, hadj⟩ := (free_below_eq_some_iff hv).mp hb
    have heM : e.1 ≠ M := fun h => hne (by simp [merged_keys, hb, h])
    have hev : e.1.min.toNat ≤ e.1.max.toNat := Range.valid_iff.mp (valid_of_mem hv he)
    -- `e` is not the free node below `k`, so it lies below that node
    rcases below_or_above hv hM he heM with h | h
    · exact h
    · omega

/-- A node above `k` that `free` keeps starts above the merged node. -/
theorem merged_max_lt {e : Range × NodeState T} (he : e ∈ t.root.entries)
    (hne : e.1 ∉ merged_keys t k) (hlt : k.max.toNat < e.1.min.toNat) :
    (merged t k).max.toNat < e.1.min.toNat := by
  dsimp only [merged]
  cases ha : free_above t k with
  | none => exact hlt
  | some M =>
    obtain ⟨hM, hadj⟩ := (free_above_eq_some_iff hv).mp ha
    have heM : e.1 ≠ M := fun h => hne (by simp [merged_keys, ha, h])
    have hev : e.1.min.toNat ≤ e.1.max.toNat := Range.valid_iff.mp (valid_of_mem hv he)
    -- `e` is not the free node above `k`, so it lies above that node
    rcases below_or_above hv hM he heM with h | h
    · omega
    · exact h

/-- The merged node is none of the nodes `free` keeps and meets none of them. -/
theorem merged_sep {d : NodeState T} (hk : (k, d) ∈ t.root.entries) {e : Range × NodeState T}
    (he : e ∈ t.root.entries)
    (hne : e.1 ∉ merged_keys t k) : e.1 ≠ merged t k ∧ e.1.intersect (merged t k) = false := by
  have hkey : e.1 ≠ k := fun h => hne (by simp [merged_keys, h])
  have hev : e.1.min.toNat ≤ e.1.max.toNat := Range.valid_iff.mp (valid_of_mem hv he)
  have hlo := merged_min_le hv (k := k)
  have hhi := le_merged_max hv (k := k)
  have hkv : k.min.toNat ≤ k.max.toNat := Range.valid_iff.mp (valid_of_mem hv hk)
  rw [Ne, Range.eq_iff, ← Bool.not_eq_true, Range.intersect_iff]
  rcases below_or_above hv hk he hkey with hlt | hlt
  · have := lt_merged_min hv he hne hlt
    omega
  · have := merged_max_lt hv he hne hlt
    omega

end Merged

/-! ## `free` -/

/-- What `free` leaves: the node `k` and the free nodes right below and right above it make way
for one free node, `merged t k`; the other nodes stay. -/
def FreeSpec (t : IntervalTree T) (k : Range) (t' : IntervalTree T) : Prop :=
  t'.root.Valid ∧ ∀ e, e ∈ t'.root.entries ↔
    (e ∈ t.root.entries ∧ e.1 ∉ merged_keys t k) ∨ e = (merged t k, .Free)

theorem free_spec (hv : t.root.Valid) {k : Range} {d : NodeState T}
    (hk : (k, d) ∈ t.root.entries) :
    Except.Post (fun p => p.2 = d.into ∧ FreeSpec t k p.1) (fun _ => False) (t.free k) := by
  have hkv : k.min.toNat ≤ k.max.toNat := Range.valid_iff.mp (valid_of_mem hv hk)
  have hmlo := merged_min_le hv (k := k)
  have hmhi := le_merged_max hv (k := k)
  have hmv : (merged t k).Valid := Range.valid_iff.mpr (by omega)
  unfold free
  refine Except.post_bind (removed_delete hv k) ?_
  rintro ⟨t₁, data⟩ ⟨h₁, hdata⟩
  rw [lookup_of_mem hv hk, Option.bind_some] at hdata
  dsimp -zeta only at h₁ hdata ⊢
  extract_lets lo_jp
  have hlo : Except.Post (fun p => p.2 = d.into ∧ FreeSpec t k p.1) (fun _ => False)
      (lo_jp (merged t k).min) := by
    dsimp -zeta only [lo_jp]
    extract_lets hi_jp
    have hhi : Except.Post (fun p => p.2 = d.into ∧ FreeSpec t k p.1) (fun _ => False)
        (hi_jp (merged t k).max) := by
      dsimp -zeta only [hi_jp]
      extract_lets range insert_jp upper_jp
      have hrange : range = merged t k := rfl
      -- the merged node goes in once `k` and the free nodes next to it are out
      have hins : ∀ t₃ : IntervalTree T, Removed t t₃ (merged_keys t k) →
          Except.Post (fun p => p.2 = d.into ∧ FreeSpec t k p.1) (fun _ => False)
            (insert_jp t₃) := by
        intro t₃ h₃
        have hsep : ∀ key ∈ t₃.root.keys, key ≠ range ∧ key.intersect range = false := by
          intro key hkey
          obtain ⟨e, he, rfl⟩ := List.mem_map.mp hkey
          obtain ⟨he, hne⟩ := (h₃.2 e).mp he
          exact merged_sep hv hk he hne
        refine Except.post_bind (insert_post h₃.1 hmv hsep none) fun t₄ ⟨hv₄, hent₄⟩ => ?_
        exact ⟨hdata, hv₄, fun e => by rw [hent₄, h₃.2]; rfl⟩
      -- the free node right above `k`, if any, goes out
      have hupper : ∀ t₂ : IntervalTree T, Removed t t₂ ([k] ++ (free_below t k).toList) →
          Except.Post (fun p => p.2 = d.into ∧ FreeSpec t k p.1) (fun _ => False)
            (upper_jp t₂) := by
        intro t₂ h₂
        dsimp -zeta only [upper_jp]
        split
        · next hgt =>
          cases ha : free_above t k with
          | none =>
            have hmax : range.max = k.max := by simp [hrange, merged, ha]
            exact absurd (hmax ▸ hgt) (UInt64.lt_irrefl _)
          | some M =>
            obtain ⟨hM, hMadj⟩ := (free_above_eq_some_iff hv).mp ha
            have hMv : M.min.toNat ≤ M.max.toNat := Range.valid_iff.mp (valid_of_mem hv hM)
            have hmax : range.max = M.max := by simp [hrange, merged, ha]
            have hq := UInt64.toNat_add_one_of_lt (a := k.max) (b := M.min)
              (UInt64.lt_iff_toNat_lt.mpr (by omega))
            have hkey : (⟨k.max + 1, range.max⟩ : Range) = M := by
              rw [hmax, Range.eq_iff]
              dsimp only
              omega
            rw [Range.new_eq_ok (UInt64.le_iff_toNat_le.mpr (by rw [hq, hmax]; omega))
              (Range.ne_full_iff.mpr (.inl (by dsimp only; omega))), hkey, Except.ok_bind_eq]
            refine Except.post_bind (Removed.delete h₂ M) fun p h₃ => hins p.1 ?_
            rwa [merged_keys, ha, Option.toList_some]
        · next hle =>
          have ha : free_above t k = none := by
            cases ha : free_above t k with
            | none => rfl
            | some M =>
              obtain ⟨hM, hMadj⟩ := (free_above_eq_some_iff hv).mp ha
              have hMv : M.min.toNat ≤ M.max.toNat := Range.valid_iff.mp (valid_of_mem hv hM)
              have hmax : range.max = M.max := by simp [hrange, merged, ha]
              exact absurd (UInt64.lt_iff_toNat_lt.mpr (by rw [hmax]; omega)) hle
          exact hins t₂ (by rwa [merged_keys, ha, Option.toList_none, List.append_nil])
      -- the free node right below `k`, if any, goes out
      split
      · next hlt =>
        cases hb : free_below t k with
        | none =>
          have hmin : range.min = k.min := by simp [hrange, merged, hb]
          exact absurd (hmin ▸ hlt) (UInt64.lt_irrefl _)
        | some M =>
          obtain ⟨hM, hMadj⟩ := (free_below_eq_some_iff hv).mp hb
          have hMv : M.min.toNat ≤ M.max.toNat := Range.valid_iff.mp (valid_of_mem hv hM)
          have hmin : range.min = M.min := by simp [hrange, merged, hb]
          have hq := UInt64.toNat_sub_one_of_lt (a := k.min) (b := M.max)
            (UInt64.lt_iff_toNat_lt.mpr (by omega))
          have hlt' := UInt64.toNat_lt k.min
          have hkey : (⟨range.min, k.min - 1⟩ : Range) = M := by
            rw [hmin, Range.eq_iff]
            dsimp only
            omega
          rw [Range.new_eq_ok (UInt64.le_iff_toNat_le.mpr (by rw [hq, hmin]; omega))
            (Range.ne_full_iff.mpr (.inr (by dsimp only; omega))), hkey, Except.ok_bind_eq]
          refine Except.post_bind (Removed.delete h₁ M) fun p h₂ => hupper p.1 ?_
          rwa [hb, Option.toList_some]
      · next hge =>
        have hb : free_below t k = none := by
          cases hb : free_below t k with
          | none => rfl
          | some M =>
            obtain ⟨hM, hMadj⟩ := (free_below_eq_some_iff hv).mp hb
            have hMv : M.min.toNat ≤ M.max.toNat := Range.valid_iff.mp (valid_of_mem hv hM)
            have hmin : range.min = M.min := by simp [hrange, merged, hb]
            exact absurd (UInt64.lt_iff_toNat_lt.mpr (by rw [hmin]; omega)) hge
        exact hupper t₁ (by rwa [hb, Option.toList_none, List.append_nil])
    -- what `free` finds above `k`
    split
    · next hlt =>
      have hq := UInt64.toNat_add_one_of_lt hlt
      rw [Range.new_eq_ok (UInt64.le_refl _) (Range.ne_full_iff.mpr (.inl (by dsimp only; omega))),
        Except.ok_bind_eq]
      have ha := free_above_of_probe hv hk h₁ hlt
      split
      · next r v hsup =>
        rw [hsup] at ha
        dsimp only at ha
        have hhi' : (if v.is_free = true then r.max else k.max) = (merged t k).max := by
          dsimp only [merged]
          rw [ha]
          split <;> rfl
        rw [hhi']
        exact hhi
      · next hsup =>
        rw [hsup] at ha
        dsimp only at ha
        have hhi' : k.max = (merged t k).max := by simp [merged, ha]
        rw [hhi']
        exact hhi
    · next hge =>
      -- `k` ends at `u64::MAX`: nothing starts above it
      have ha : free_above t k = none := by
        cases ha : free_above t k with
        | none => rfl
        | some M =>
          obtain ⟨-, hMadj⟩ := (free_above_eq_some_iff hv).mp ha
          have hM := UInt64.toNat_lt M.min
          have hmax : k.max.toNat = 2 ^ 64 - 1 := by
            have := UInt64.toNat_lt k.max
            have hle := UInt64.not_lt.mp hge
            rw [UInt64.le_iff_toNat_le] at hle
            exact Nat.le_antisymm (by omega) hle
          omega
      have hhi' : k.max = (merged t k).max := by simp [merged, ha]
      rw [hhi']
      exact hhi
  -- what `free` finds below `k`
  split
  · next hpos =>
    have hq := UInt64.toNat_sub_one_of_lt hpos
    have hk' := UInt64.toNat_lt k.min
    rw [Range.new_eq_ok (UInt64.le_refl _) (Range.ne_full_iff.mpr (.inr (by dsimp only; omega))),
      Except.ok_bind_eq]
    have hb := free_below_of_probe hv hk h₁ hpos
    split
    · next r v hsup =>
      rw [hsup] at hb
      dsimp only at hb
      have hlo' : (if v.is_free = true then r.min else k.min) = (merged t k).min := by
        dsimp only [merged]
        rw [hb]
        split <;> rfl
      rw [hlo']
      exact hlo
    · next hsup =>
      rw [hsup] at hb
      dsimp only at hb
      have hlo' : k.min = (merged t k).min := by simp [merged, hb]
      rw [hlo']
      exact hlo
  · next hzero =>
    -- `k` starts at `0`: nothing ends below it
    have hb : free_below t k = none := by
      cases hb : free_below t k with
      | none => rfl
      | some M =>
        obtain ⟨-, hMadj⟩ := (free_below_eq_some_iff hv).mp hb
        have hk0 : k.min.toNat = 0 := by
          have := UInt64.not_lt.mp hzero
          rw [UInt64.le_iff_toNat_le] at this
          exact Nat.le_zero.mp this
        omega
    have hlo' : k.min = (merged t k).min := by simp [merged, hb]
    rw [hlo']
    exact hlo

/-! ## What `free` keeps -/

/-- The address `x` lies in a free node of the tree. -/
def FreeAt (t : IntervalTree T) (x : UInt64) : Prop :=
  ∃ e ∈ t.root.entries, e.2 = .Free ∧ e.1.min ≤ x ∧ x ≤ e.1.max

theorem mem_merged_keys {k M : Range} :
    M ∈ merged_keys t k ↔ M = k ∨ free_below t k = some M ∨ free_above t k = some M := by
  simp only [merged_keys, List.mem_append, List.mem_singleton, Option.mem_toList, or_assoc]

/-- Besides `k`, the nodes that `free` merges are free. -/
theorem free_of_merged_key (hv : t.root.Valid) {k : Range} {e : Range × NodeState T} (he : e ∈ t.root.entries)
    (hm : e.1 ∈ merged_keys t k) (hne : e.1 ≠ k) : e.2 = .Free := by
  obtain ⟨M, s⟩ := e
  rcases mem_merged_keys.mp hm with h | h | h
  · exact absurd h hne
  · have hM := ((free_below_eq_some_iff hv).mp h).1
    exact Option.some.inj ((lookup_of_mem hv he).symm.trans (lookup_of_mem hv hM))
  · have hM := ((free_above_eq_some_iff hv).mp h).1
    exact Option.some.inj ((lookup_of_mem hv he).symm.trans (lookup_of_mem hv hM))

/-- `free` keeps every node that is not free, `k` apart. -/
theorem FreeSpec.mem_iff_of_ne_free (hv : t.root.Valid) {t' : IntervalTree T} {k : Range}
    (h : FreeSpec t k t') {e : Range × NodeState T}
    (hfree : e.2 ≠ .Free) (hek : e.1 ≠ k) : e ∈ t'.root.entries ↔ e ∈ t.root.entries := by
  rw [h.2]
  constructor
  · rintro (⟨he, -⟩ | rfl)
    · exact he
    · exact absurd rfl hfree
  · intro he
    exact .inl ⟨he, fun hm => hfree (free_of_merged_key hv he hm hek)⟩

section Keeps

variable {t' : IntervalTree T} {k : Range} {d : NodeState T} (hv : t.root.Valid)
  (hk : (k, d) ∈ t.root.entries)
include hv hk

/-- The merged node holds exactly the addresses of the nodes it takes the place of. -/
theorem merged_covers (x : UInt64) :
    ((merged t k).min ≤ x ∧ x ≤ (merged t k).max) ↔
      ∃ e ∈ t.root.entries, e.1 ∈ merged_keys t k ∧ e.1.min ≤ x ∧ x ≤ e.1.max := by
  have hmlo := merged_min_le hv (k := k)
  have hmhi := le_merged_max hv (k := k)
  have hkv : k.min.toNat ≤ k.max.toNat := Range.valid_iff.mp (valid_of_mem hv hk)
  simp only [UInt64.le_iff_toNat_le]
  constructor
  · rintro ⟨hx₁, hx₂⟩
    by_cases hlo : x.toNat < k.min.toNat
    · -- below `k`: in the free node right below it
      cases hb : free_below t k with
      | none =>
        have hmin : (merged t k).min = k.min := by simp [merged, hb]
        rw [hmin] at hx₁
        omega
      | some M =>
        obtain ⟨hM, hadj⟩ := (free_below_eq_some_iff hv).mp hb
        have hmin : (merged t k).min = M.min := by simp [merged, hb]
        rw [hmin] at hx₁
        exact ⟨(M, .Free), hM, mem_merged_keys.mpr (.inr (.inl hb)), hx₁, by dsimp only; omega⟩
    by_cases hhi : k.max.toNat < x.toNat
    · -- above `k`: in the free node right above it
      cases ha : free_above t k with
      | none =>
        have hmax : (merged t k).max = k.max := by simp [merged, ha]
        rw [hmax] at hx₂
        omega
      | some M =>
        obtain ⟨hM, hadj⟩ := (free_above_eq_some_iff hv).mp ha
        have hmax : (merged t k).max = M.max := by simp [merged, ha]
        rw [hmax] at hx₂
        exact ⟨(M, .Free), hM, mem_merged_keys.mpr (.inr (.inr ha)), by dsimp only; omega, hx₂⟩
    · exact ⟨(k, d), hk, mem_merged_keys.mpr (.inl rfl), by dsimp only; omega, by dsimp only; omega⟩
  · rintro ⟨e, he, hm, hx₁, hx₂⟩
    have hev : e.1.min.toNat ≤ e.1.max.toNat := Range.valid_iff.mp (valid_of_mem hv he)
    rcases mem_merged_keys.mp hm with h | h | h
    · rw [h] at hx₁ hx₂
      exact ⟨by omega, by omega⟩
    · obtain ⟨-, hadj⟩ := (free_below_eq_some_iff hv).mp h
      have hmin : (merged t k).min = e.1.min := by simp [merged, h]
      rw [hmin]
      omega
    · obtain ⟨-, hadj⟩ := (free_above_eq_some_iff hv).mp h
      have hmax : (merged t k).max = e.1.max := by simp [merged, h]
      rw [hmax]
      omega

/-- `free` keeps the addresses the tree covers. -/
theorem FreeSpec.covers (h : FreeSpec t k t') (x : UInt64) : t'.Covers x ↔ t.Covers x := by
  constructor
  · rintro ⟨e, he, hx⟩
    rcases (h.2 e).mp he with ⟨he, -⟩ | rfl
    · exact ⟨e, he, hx⟩
    · obtain ⟨e', he', -, hx'⟩ := (merged_covers hv hk x).mp hx
      exact ⟨e', he', hx'⟩
  · rintro ⟨e, he, hx⟩
    by_cases hm : e.1 ∈ merged_keys t k
    · exact ⟨(merged t k, .Free), (h.2 _).mpr (.inr rfl),
        (merged_covers hv hk x).mpr ⟨e, he, hm, hx⟩⟩
    · exact ⟨e, (h.2 e).mpr (.inl ⟨he, hm⟩), hx⟩

/-- After `free` the free addresses are those before and the addresses of `k`. -/
theorem FreeSpec.freeAt (h : FreeSpec t k t') (x : UInt64) :
    t'.FreeAt x ↔ t.FreeAt x ∨ (k.min ≤ x ∧ x ≤ k.max) := by
  have hmerged : (merged t k, NodeState.Free) ∈ t'.root.entries := (h.2 _).mpr (.inr rfl)
  constructor
  · rintro ⟨e, he, hfree, hx⟩
    rcases (h.2 e).mp he with ⟨he, -⟩ | rfl
    · exact .inl ⟨e, he, hfree, hx⟩
    · -- an address of the merged node is in `k` or in a free node it merged
      obtain ⟨e', he', hm, hx'⟩ := (merged_covers hv hk x).mp hx
      by_cases hek : e'.1 = k
      · rw [← hek]
        exact .inr hx'
      · exact .inl ⟨e', he', free_of_merged_key hv he' hm hek, hx'⟩
  · rintro (⟨e, he, hfree, hx⟩ | hx)
    · by_cases hm : e.1 ∈ merged_keys t k
      · exact ⟨_, hmerged, rfl, (merged_covers hv hk x).mpr ⟨e, he, hm, hx⟩⟩
      · exact ⟨e, (h.2 e).mpr (.inl ⟨he, hm⟩), hfree, hx⟩
    · exact ⟨_, hmerged, rfl,
        (merged_covers hv hk x).mpr ⟨(k, d), hk, mem_merged_keys.mpr (.inl rfl), hx⟩⟩

end Keeps

/-! ## `allocate` then `free` -/

/-- The free pieces of a split node hold the addresses of the node outside the range handed out. -/
theorem free_split_pieces {N r : Range} (hrv : r.Valid) (hrN : N.contain r = true) (x : UInt64) :
    (∃ e ∈ (split_pieces N r : List (Range × NodeState T)),
        e.2 = .Free ∧ e.1.min ≤ x ∧ x ≤ e.1.max) ↔
      (N.min ≤ x ∧ x ≤ N.max) ∧ ¬ (r.min ≤ x ∧ x ≤ r.max) := by
  rw [Range.valid_iff] at hrv
  rw [Range.contain_iff] at hrN
  simp only [UInt64.le_iff_toNat_le]
  constructor
  · rintro ⟨e, he, hfree, hx₁, hx₂⟩
    rw [split_pieces, List.mem_append, List.mem_cons] at he
    rcases he with he | rfl | he
    · obtain ⟨rfl, hlt⟩ := mem_lower_piece he
      have h₁ := UInt64.toNat_sub_one_of_lt hlt
      have h₂ := UInt64.lt_iff_toNat_lt.mp hlt
      dsimp only at hx₁ hx₂
      omega
    · cases hfree
    · obtain ⟨rfl, hlt⟩ := mem_upper_piece he
      have h₁ := UInt64.toNat_add_one_of_lt hlt
      dsimp only at hx₁ hx₂
      omega
  · rintro ⟨⟨hx₁, hx₂⟩, hxr⟩
    by_cases hlo : x.toNat < r.min.toNat
    · -- below `r`: in the lower piece
      have hlt : N.min < r.min := UInt64.lt_iff_toNat_lt.mpr (by omega)
      have h₁ := UInt64.toNat_sub_one_of_lt hlt
      refine ⟨(⟨N.min, r.min - 1⟩, .Free), by simp [split_pieces, lower_piece, hlt], rfl, ?_⟩
      dsimp only
      omega
    · -- above `r`: in the upper piece
      have hhi : r.max.toNat < x.toNat := Nat.not_le.mp fun hle => hxr ⟨Nat.not_lt.mp hlo, hle⟩
      have hlt : r.max < N.max := UInt64.lt_iff_toNat_lt.mpr (by omega)
      have h₁ := UInt64.toNat_add_one_of_lt hlt
      refine ⟨(⟨r.max + 1, N.max⟩, .Free), by simp [split_pieces, upper_piece, hlt], rfl, ?_⟩
      dsimp only
      omega

/-- The one piece of a split node that is not free is the range handed out. -/
theorem eq_of_mem_split_pieces {N r : Range} {e : Range × NodeState T}
    (he : e ∈ split_pieces N r) (hfree : e.2 ≠ .Free) : e = (r, .Allocated) := by
  rw [split_pieces, List.mem_append, List.mem_cons] at he
  rcases he with he | he | he
  · exact absurd (by rw [(mem_lower_piece he).1]) hfree
  · exact he
  · exact absurd (by rw [(mem_upper_piece he).1]) hfree

/-- After `allocate` hands out `r` from `N`, the free addresses are those before but the ones
of `r`. -/
theorem Replaces.freeAt_split (hv : t.root.Valid) {N r : Range}
    (hN : (N, NodeState.Free) ∈ t.root.entries) (hrv : r.Valid) (hrN : N.contain r = true)
    (h : Replaces t t₁ N (split_pieces N r)) (x : UInt64) :
    t₁.FreeAt x ↔ t.FreeAt x ∧ ¬ (r.min ≤ x ∧ x ≤ r.max) := by
  constructor
  · rintro ⟨e, he, hfree, hx⟩
    rcases (h.2 e).mp he with ⟨he, hne⟩ | he
    · -- another node of `t` lies beside `N`, so beside `r`
      refine ⟨⟨e, he, hfree, hx⟩, fun hxr => ?_⟩
      have hrN' := Range.contain_iff.mp hrN
      simp only [UInt64.le_iff_toNat_le] at hx hxr
      rcases below_or_above hv hN he hne with hlt | hlt <;> omega
    · obtain ⟨hxN, hxr⟩ := (free_split_pieces hrv hrN x).mp ⟨e, he, hfree, hx⟩
      exact ⟨⟨(N, .Free), hN, rfl, hxN⟩, hxr⟩
  · rintro ⟨⟨e, he, hfree, hx⟩, hxr⟩
    by_cases hne : e.1 = N
    · rw [hne] at hx
      obtain ⟨e', he', hfree', hx'⟩ := (free_split_pieces hrv hrN x).mpr ⟨hx, hxr⟩
      exact ⟨e', (h.2 e').mpr (.inr he'), hfree', hx'⟩
    · exact ⟨e, (h.2 e).mpr (.inl ⟨he, hne⟩), hfree, hx⟩

/-- `allocate` hands out nothing for a constraint of size `0`. -/
theorem size_ne_zero_of_allocate {c : Constraint} {r : Range}
    (h : t.allocate c = .ok (t₁, some r)) : c.size ≠ 0 := by
  intro hc
  unfold allocate at h
  rw [if_pos hc] at h
  cases h

/-- A free node whose clamp is the whole of `u64` is itself the whole of `u64`, so it is the one
node of the tree, and `check_constraint` panics on it: an `allocate` that succeeds meets no such
node. -/
theorem clamp_ne_full_of_allocate (hv : t.root.Valid) {c : Constraint} (hc : c.size ≠ 0)
    {p : IntervalTree T × Option Range} (h : t.allocate c = .ok p) :
    ∀ N, (N, NodeState.Free) ∈ t.root.entries → c.clamp N ≠ Range.full := by
  intro N hN hfull
  have hmin : Max.max N.min c.min = 0 := congrArg Range.min hfull
  have hmax : Min.min N.max c.max = U64_MAX := congrArg Range.max hfull
  have hN0 : N.min.toNat = 0 := by
    have := congrArg UInt64.toNat hmin
    rw [UInt64.toNat_max, UInt64.toNat_zero] at this
    omega
  have hNM : N.max.toNat = 2 ^ 64 - 1 := by
    have := congrArg UInt64.toNat hmax
    rw [UInt64.toNat_min, show U64_MAX.toNat = 2 ^ 64 - 1 from rfl] at this
    have := UInt64.toNat_lt N.max
    omega
  -- every node is `N`
  have honly : ∀ e ∈ t.root.entries, e = (N, .Free) := by
    intro e he
    by_cases heN : e.1 = N
    · obtain ⟨k, s⟩ := e
      dsimp only at heN
      subst heN
      rw [Option.some.inj ((lookup_of_mem hv he).symm.trans (lookup_of_mem hv hN))]
    · have := UInt64.toNat_lt e.1.min
      rcases below_or_above hv hN he heN with hlt | hlt <;> omega
  have hent : t.root.entries = [(N, .Free)] := by
    obtain ⟨l₁, l₂, hl⟩ := List.append_of_mem hN
    have hnd : (t.root.entries.map Prod.fst).Nodup := hv.ordered.sorted.imp Range.ne_of_cmp_lt
    rw [hl, List.map_append, List.map_cons, List.nodup_append, List.nodup_cons] at hnd
    have h₁ : l₁ = [] := List.eq_nil_iff_forall_not_mem.mpr fun e he => by
      obtain rfl := honly e (hl ▸ List.mem_append_left _ he)
      exact hnd.2.2 _ (List.mem_map_of_mem he) _ List.mem_cons_self rfl
    have h₂ : l₂ = [] := List.eq_nil_iff_forall_not_mem.mpr fun e he => by
      obtain rfl := honly e (hl ▸ List.mem_append_right _ (List.mem_cons_of_mem _ he))
      exact hnd.2.1.1 (List.mem_map_of_mem he)
    rw [hl, h₁, h₂]
    rfl
  -- the root is `N`, with nothing on its left
  cases hroot : t.root with
  | none =>
    rw [hroot] at hent
    cases hent
  | node k d l r hh m =>
    rw [hroot, Tree.entries_node] at hent
    obtain ⟨hl, hkd⟩ : l.entries = [] ∧ (k, d) = (N, .Free) := by
      cases hle : l.entries with
      | nil =>
        rw [hle, List.nil_append, List.cons.injEq] at hent
        exact ⟨rfl, hent.1⟩
      | cons a as =>
        rw [hle] at hent
        simp at hent
    obtain ⟨rfl, rfl⟩ := Prod.mk.inj hkd
    obtain rfl : l = .none := by
      cases l with
      | none => rfl
      | node _ _ _ _ _ _ => simp at hl
    -- `check_constraint` builds the clamp of the root with `Range::new`, which panics
    have hcheck : Tree.check_constraint c (.node k .Free .none r hh m) = .error .invalidRange := by
      simp only [Tree.check_constraint, NodeState.is_free, if_true, hmin, hmax]
      rw [if_pos UInt64.zero_le]
      rfl
    have hfind : t.root.find_candidate c = .error .invalidRange := by
      have hfirst : Tree.first_match c (.node k .Free .none r hh m) = .error .invalidRange := by
        unfold Tree.first_match
        simp only [Tree.is_some, Bool.false_eq_true, ↓reduceIte, Except.pure_eq_ok,
          Except.ok_bind_eq, hcheck, Except.error_bind_eq]
      rw [hroot]
      unfold Tree.find_candidate
      split <;> exact hfirst
    unfold allocate at h
    rw [if_neg hc, hfind] at h
    cases h

/-- A node that is not free has another key than a free node. -/
theorem ne_key_of_ne_free (hv : t.root.Valid) {N : Range} (hN : (N, NodeState.Free) ∈ t.root.entries)
    {e : Range × NodeState T} (he : e ∈ t.root.entries) (hfree : e.2 ≠ .Free) : e.1 ≠ N := by
  obtain ⟨k, s⟩ := e
  rintro (rfl : k = N)
  exact hfree (Option.some.inj ((lookup_of_mem hv he).symm.trans (lookup_of_mem hv hN)))

/-- `allocate` hands out `r`, then `free r` takes it back: the free addresses are those before the
`allocate`, and so are the nodes that are not free. -/
theorem allocate_free_spec (hv : t.root.Valid) {c : Constraint} {r : Range}
    (h : t.allocate c = .ok (t₁, some r)) :
    ∃ t₂, t₁.free r = .ok (t₂, none) ∧ (∀ x, t₂.FreeAt x ↔ t.FreeAt x) ∧
      ∀ e, e.2 ≠ .Free → (e ∈ t₂.root.entries ↔ e ∈ t.root.entries) := by
  have hc := size_ne_zero_of_allocate h
  obtain ⟨-, hsome⟩ := (allocate_spec hv hc (clamp_ne_full_of_allocate hv hc h)).of_eq_ok h
  obtain ⟨N, a, hN, hfit, hra, -, hrep⟩ := hsome r rfl
  obtain ⟨hrv, hrN⟩ := hfit.valid_range hc
  rw [← hra] at hrv hrN
  have hr₁ : (r, NodeState.Allocated) ∈ t₁.root.entries :=
    (hrep.2 _).mpr (.inr (by simp [split_pieces]))
  obtain ⟨⟨t₂, res⟩, hfree, hres, hspec⟩ := (free_spec hrep.1 hr₁).exists_ok
  refine ⟨t₂, by rw [hfree, show res = none from hres], fun x => ?_, fun e he => ?_⟩
  · rw [hspec.freeAt hrep.1 hr₁ x, hrep.freeAt_split hv hN hrv hrN x]
    constructor
    · rintro (⟨hx, -⟩ | hx)
      · exact hx
      · -- an address of `r` was free: it lies in `N`
        have hrN' := Range.contain_iff.mp hrN
        simp only [UInt64.le_iff_toNat_le] at hx
        exact ⟨(N, .Free), hN, rfl, by simp only [UInt64.le_iff_toNat_le]; omega⟩
    · intro hx
      by_cases hxr : r.min ≤ x ∧ x ≤ r.max
      · exact .inr hxr
      · exact .inl ⟨hx, hxr⟩
  · by_cases her : e.1 = r
    · -- neither tree has a node `r` that is not free: `r` lies in the free node `N`
      refine iff_of_false (fun he₂ => ?_) (fun he₀ => ?_)
      · rcases (hspec.2 e).mp he₂ with ⟨-, hm⟩ | rfl
        · exact hm (her ▸ mem_merged_keys.mpr (.inl rfl))
        · exact he rfl
      · have heN := ne_key_of_ne_free hv hN he₀ he
        have hrv' := Range.valid_iff.mp hrv
        have hrN' := Range.contain_iff.mp hrN
        rw [her] at heN
        rcases below_or_above hv hN he₀ (her ▸ heN) with hlt | hlt <;> rw [her] at hlt <;> omega
    · rw [hspec.mem_iff_of_ne_free hrep.1 he her, hrep.2]
      constructor
      · rintro (⟨he₀, -⟩ | hpiece)
        · exact he₀
        · exact absurd (congrArg Prod.fst (eq_of_mem_split_pieces hpiece he)) her
      · intro he₀
        exact .inl ⟨he₀, ne_key_of_ne_free hv hN he₀ he⟩

/-! ## `free` merges its neighbours -/

theorem free_merges_neighbours (hv : t.root.Valid) :
    (∀ k d, (k, d) ∈ t.root.entries → d ≠ .Free →
      ∃ t', t.free k = .ok (t', d.into) ∧
        (∀ x, t'.Covers x ↔ t.Covers x) ∧
        (∀ e, e.2 ≠ .Free → e.1 ≠ k → (e ∈ t'.root.entries ↔ e ∈ t.root.entries)) ∧
        ∃ F, (F, NodeState.Free) ∈ t'.root.entries ∧ F.contain k = true ∧
          (∀ e ∈ t'.root.entries, e.1.contain k = true → e = (F, .Free)) ∧
          ((F.min = k.min ∧
              ∀ M, (M, NodeState.Free) ∈ t.root.entries → M.max.toNat + 1 ≠ k.min.toNat) ∨
            ∃ M, (M, NodeState.Free) ∈ t.root.entries ∧ M.max.toNat + 1 = k.min.toNat ∧
              F.min = M.min) ∧
          ((F.max = k.max ∧
              ∀ M, (M, NodeState.Free) ∈ t.root.entries → k.max.toNat + 1 ≠ M.min.toNat) ∨
            ∃ M, (M, NodeState.Free) ∈ t.root.entries ∧ k.max.toNat + 1 = M.min.toNat ∧
              F.max = M.max)) ∧
    ∀ c t₁ r, t.allocate c = .ok (t₁, some r) →
      ∃ t₂, t₁.free r = .ok (t₂, none) ∧ (∀ x, t₂.FreeAt x ↔ t.FreeAt x) ∧
        ∀ e, e.2 ≠ .Free → (e ∈ t₂.root.entries ↔ e ∈ t.root.entries) := by
  refine ⟨fun k d hk _ => ?_, fun c t₁ r h => allocate_free_spec hv h⟩
  obtain ⟨⟨t', res⟩, hfree, hres, hspec⟩ := (free_spec hv hk).exists_ok
  have hkv := valid_of_mem hv hk
  have hmerged : (merged t k, NodeState.Free) ∈ t'.root.entries := (hspec.2 _).mpr (.inr rfl)
  have hcontain : (merged t k).contain k = true :=
    Range.contain_iff.mpr ⟨merged_min_le hv (k := k), le_merged_max hv (k := k)⟩
  refine ⟨t', by rw [hfree, show res = d.into from hres], hspec.covers hv hk,
    fun e he hek => hspec.mem_iff_of_ne_free hv he hek, merged t k, hmerged, hcontain,
    fun e he hc => Tree.contain_unique hspec.1.ordered hkv he hmerged hc hcontain, ?_, ?_⟩
  · -- the merged node starts where the free node right below `k` starts, or at `k`
    cases hb : free_below t k with
    | none =>
      refine .inl ⟨by simp [merged, hb], fun M hM hadj => ?_⟩
      rw [(free_below_eq_some_iff hv).mpr ⟨hM, hadj⟩] at hb
      cases hb
    | some M =>
      obtain ⟨hM, hadj⟩ := (free_below_eq_some_iff hv).mp hb
      exact .inr ⟨M, hM, hadj, by simp [merged, hb]⟩
  · -- the merged node ends where the free node right above `k` ends, or at `k`
    cases ha : free_above t k with
    | none =>
      refine .inl ⟨by simp [merged, ha], fun M hM hadj => ?_⟩
      rw [(free_above_eq_some_iff hv).mpr ⟨hM, hadj⟩] at ha
      cases ha
    | some M =>
      obtain ⟨hM, hadj⟩ := (free_above_eq_some_iff hv).mp ha
      exact .inr ⟨M, hM, hadj, by simp [merged, ha]⟩

theorem free_merges_neighbours_doc_tree :
    doc_tree_allocated.root.Valid ∧ ∃ t', doc_tree_allocated.free ⟨0x200, 0x201⟩ = .ok (t', none) := by
  have hv : doc_tree_allocated.root.Valid := by decide
  obtain ⟨t', hfree, -⟩ := (free_merges_neighbours hv).1 ⟨0x200, 0x201⟩ .Allocated (by decide) nofun
  exact ⟨hv, t', hfree⟩

end IntervalTree

end KataContainers.Dragonball.Allocator
