import KataContainers.Dragonball.Allocator.Reachable
import KataContainers.Lib.Align

/-!
# What `allocate` hands out

`IntervalTree::allocate` walks the nodes in order (`first_match`), takes the first free node where
`check_constraint` finds room, and splits it around the range it hands out. This module states
what that computes, for every tree that satisfies the invariant and every constraint of non-zero
size: the range starts at the least address that fits over all free nodes (`Constraint.FitsAt`:
aligned, at or above both lower bounds, ending at or below both upper bounds), the node it came
from is replaced by its pieces (`split_pieces`), every other node stays, and the tree covers the
same points (`allocate_first_fit`).

The one exception is the constraint without bounds on the tree whose only node is the free
`[0, u64::MAX]`: `check_constraint` clamps the node with `Range::new`, which rejects the whole of
`u64`, so `allocate` panics where the range at `0` fits (`allocate_whole_space_panics`).

The proof follows the code: `align_to` rounds up to the least aligned address (`align_to_spec`),
`check_constraint` answers whether a node has a fit (`check_constraint_node`), `first_match` finds
the first node with one (`first_match_spec`), which by the order of the keys has the least fit
(`first_candidate_least`). The split is a chain of `delete`, `insert` and `mark_allocated`, each a
step of `Replaces`.
-/

namespace KataContainers.Dragonball.Allocator

/-- An address that the alignment allows: any address for an alignment of 0 or 1, a multiple of
the alignment for a power of two, and none for another alignment. -/
def Aligned (align a : UInt64) : Prop :=
  align = 0 ∨ align = 1 ∨ (align.toNat.isPowerOfTwo ∧ a.toNat % align.toNat = 0)

instance (align a : UInt64) : Decidable (Aligned align a) := by
  unfold Aligned
  infer_instance

/-- The whole of `u64`, the one range with `min ≤ max` that `Range::new` rejects. -/
def Range.full : Range := ⟨0, U64_MAX⟩

namespace Range

theorem new_eq_ok {a b : UInt64} (h : a ≤ b) (hfull : (⟨a, b⟩ : Range) ≠ Range.full) :
    Range.new a b = .ok ⟨a, b⟩ := by
  unfold Range.new
  rw [if_neg]
  rintro (hlt | ⟨rfl, rfl⟩)
  · exact absurd h (UInt64.not_le.mpr hlt)
  · exact hfull rfl

theorem ne_full_iff {r : Range} : r ≠ Range.full ↔ r.min.toNat ≠ 0 ∨ r.max.toNat ≠ 2 ^ 64 - 1 := by
  rw [Ne, Range.full, eq_iff]
  simp only [UInt64.toNat_zero, show U64_MAX.toNat = 2 ^ 64 - 1 from rfl]
  omega

/-- `align_to` of a well-formed range other than the whole of `u64`: the range from the least
address the alignment allows, if the range holds one. -/
theorem align_to_spec {r : Range} (hr : r.Valid) (hfull : r ≠ Range.full) (align : UInt64) :
    ∃ o, r.align_to align = .ok o ∧
      (∀ ak, o = some ak → ak.max = r.max ∧ Aligned align ak.min ∧ r.min ≤ ak.min ∧
        ak.min ≤ r.max ∧ ak ≠ Range.full ∧ ∀ a, Aligned align a → r.min ≤ a → ak.min ≤ a) ∧
      (o = none → ∀ a, Aligned align a → r.min ≤ a → r.max < a) := by
  have hv := valid_iff.mp hr
  unfold align_to
  by_cases h01 : align = 0 ∨ align = 1
  · -- any address is allowed: the range itself
    rw [if_pos h01]
    refine ⟨_, rfl, ?_, nofun⟩
    rintro ak ⟨⟩
    exact ⟨rfl, h01.elim Or.inl (fun h => .inr (.inl h)), UInt64.le_refl _, hr, hfull,
      fun _ _ h => h⟩
  rw [if_neg h01]
  have hne0 : align ≠ 0 := fun h => h01 (.inl h)
  have hal : ∀ a, Aligned align a → align.toNat.isPowerOfTwo ∧ a.toNat % align.toNat = 0 := by
    rintro a (h | h | h)
    · exact absurd h hne0
    · exact absurd (.inr h) h01
    · exact h
  by_cases hpow : align &&& (align - 1) ≠ 0
  · -- not a power of two: no address is allowed
    rw [if_pos hpow]
    refine ⟨none, rfl, nofun, fun _ a ha => ?_⟩
    exact absurd ((UInt64.and_sub_one_eq_zero_iff hne0).mpr (hal a ha).1) hpow
  rw [if_neg hpow]
  obtain ⟨k, hk⟩ := (UInt64.and_sub_one_eq_zero_iff hne0).mp (not_not.mp hpow)
  have hp : 0 < align.toNat := by rw [hk]; exact Nat.two_pow_pos k
  have hk64 : k ≤ 64 := by
    have := align.toNat_lt
    rw [hk] at this
    exact Nat.le_of_lt ((Nat.pow_lt_pow_iff_right (by decide)).mp this)
  have hp1 : (align - 1).toNat = align.toNat - 1 :=
    UInt64.toNat_sub_of_le _ _ (UInt64.le_iff_toNat_le.mpr (by rw [UInt64.toNat_one]; omega))
  -- every allowed address below `2 ^ 64` leaves room for one more multiple
  have hroom : ∀ a : UInt64, Aligned align a → a.toNat + align.toNat ≤ 2 ^ 64 := fun a ha =>
    Nat.add_le_of_mod_eq_zero (hal a ha).2 (by rw [hk]; exact Nat.mod_eq_zero_of_dvd (Nat.pow_dvd_pow 2 hk64)) a.toNat_lt
  by_cases hov : r.min.toNat + (align - 1).toNat < 2 ^ 64
  · simp only [checked_add, if_pos hov]
    rw [hp1] at hov
    have hm := UInt64.toNat_round_up hk (x := r.min) (by omega)
    generalize r.min + (align - 1) &&& ~~~(align - 1) = m at hm ⊢
    -- `m` is the least allowed address from `r.min` on
    have haligned : Aligned align m := by
      refine .inr (.inr ⟨⟨k, hk⟩, ?_⟩)
      rw [hm]
      exact Nat.mul_mod_left _ _
    have hge : r.min ≤ m := by
      rw [UInt64.le_iff_toNat_le, hm]
      exact Nat.le_round_up _ hp
    have hleast : ∀ a, Aligned align a → r.min ≤ a → m ≤ a := fun a ha hmin => by
      rw [UInt64.le_iff_toNat_le, hm]
      exact Nat.round_up_le hp (hal a ha).2 (UInt64.le_iff_toNat_le.mp hmin)
    split
    · next hle =>
      have hmfull : (⟨m, r.max⟩ : Range) ≠ Range.full := by
        have := UInt64.le_iff_toNat_le.mp hge
        rw [ne_full_iff] at hfull ⊢
        dsimp only
        omega
      rw [new_eq_ok hle hmfull]
      refine ⟨_, rfl, ?_, nofun⟩
      rintro ak ⟨⟩
      exact ⟨rfl, haligned, hge, hle, hmfull, hleast⟩
    · next hgt =>
      refine ⟨none, rfl, nofun, fun _ a ha hmin => ?_⟩
      exact UInt64.lt_of_lt_of_le (UInt64.not_le.mp hgt) (hleast a ha hmin)
  · -- rounding up overflows: no allowed address from `r.min` on
    simp only [checked_add, if_neg hov]
    refine ⟨none, rfl, nofun, fun _ a ha hmin => ?_⟩
    have := hroom a ha
    rw [UInt64.le_iff_toNat_le] at hmin
    omega

/-- The length of a well-formed range other than the whole of `u64` does not wrap. -/
theorem toNat_len {r : Range} (hr : r.Valid) (hfull : r ≠ Range.full) :
    r.len.toNat = r.max.toNat - r.min.toNat + 1 := by
  have hv := valid_iff.mp hr
  rw [ne_full_iff] at hfull
  have := r.max.toNat_lt
  rw [len, UInt64.toNat_add, UInt64.toNat_sub_of_le _ _ hr, UInt64.toNat_one,
    Nat.mod_eq_of_lt (by omega)]

theorem len_ge_iff {r : Range} (hr : r.Valid) (hfull : r ≠ Range.full) (size : UInt64) :
    r.len ≥ size ↔ r.min.toNat + size.toNat - 1 ≤ r.max.toNat := by
  rw [ge_iff_le, UInt64.le_iff_toNat_le, toNat_len hr hfull]
  have := valid_iff.mp hr
  omega

end Range

namespace Constraint

/-- The node of key `N` clamped to the constraint's bounds, as `check_constraint` and `allocate`
compute it. -/
def clamp (c : Constraint) (N : Range) : Range := ⟨Max.max N.min c.min, Min.min N.max c.max⟩

/-- `[a, a + c.size - 1]` meets the constraint inside the node of key `N`: `a` is an address the
alignment allows, and the range lies within `N` and within `[c.min, c.max]`. -/
def FitsAt (c : Constraint) (N : Range) (a : UInt64) : Prop :=
  Aligned c.align a ∧ Max.max N.min c.min ≤ a ∧
    a.toNat + c.size.toNat - 1 ≤ (Min.min N.max c.max).toNat

instance (c : Constraint) (N : Range) (a : UInt64) : Decidable (c.FitsAt N a) := by
  unfold FitsAt
  infer_instance

theorem size_toNat_pos {c : Constraint} (hc : c.size ≠ 0) : 0 < c.size.toNat :=
  Nat.pos_of_ne_zero fun h0 => hc (UInt64.toNat_inj.mp (h0.trans UInt64.toNat_zero.symm))

/-- A fit lies in a non-empty clamp. -/
theorem FitsAt.clamp_valid {c : Constraint} {N : Range} {a : UInt64} (hc : c.size ≠ 0)
    (h : c.FitsAt N a) : (c.clamp N).Valid := by
  obtain ⟨-, hlo, hhi⟩ := h
  have hs := size_toNat_pos hc
  rw [Range.valid_iff]
  show (Max.max N.min c.min).toNat ≤ (Min.min N.max c.max).toNat
  rw [UInt64.le_iff_toNat_le] at hlo
  omega

/-- Where the constraint fits in a node whose clamp `Range::new` accepts, `align_to` gives the
clamp from the least address that fits. -/
theorem fits_align_to {c : Constraint} {N : Range} (hc : c.size ≠ 0)
    (hfull : c.clamp N ≠ Range.full) (hfit : ∃ a, c.FitsAt N a) :
    ∃ ak, (c.clamp N).align_to c.align = .ok (some ak) ∧ ak.max = (c.clamp N).max ∧
      c.FitsAt N ak.min ∧ ∀ a, c.FitsAt N a → ak.min ≤ a := by
  obtain ⟨a, ha⟩ := hfit
  have hs := size_toNat_pos hc
  obtain ⟨o, ho, hsome, hnone⟩ := Range.align_to_spec (ha.clamp_valid hc) hfull c.align
  cases o with
  | none =>
    -- the fit `a` is an allowed address inside the clamp
    have hlt : (Min.min N.max c.max).toNat < a.toNat :=
      UInt64.lt_iff_toNat_lt.mp (hnone rfl a ha.1 ha.2.1)
    have hhi := ha.2.2
    omega
  | some ak =>
    obtain ⟨hmax, hal, hlo, -, -, hleast⟩ := hsome ak rfl
    refine ⟨ak, ho, hmax, ⟨hal, hlo, ?_⟩, fun a' ha' => hleast a' ha'.1 ha'.2.1⟩
    -- the least allowed address is at most `a`, so its range ends no later
    have h₁ := UInt64.le_iff_toNat_le.mp (hleast a ha.1 ha.2.1)
    have h₂ := ha.2.2
    omega

/-- The last address of a fit does not wrap. -/
theorem FitsAt.toNat_last {c : Constraint} {N : Range} {a : UInt64} (hc : c.size ≠ 0) (h : c.FitsAt N a) :
    (a + c.size - 1).toNat = a.toNat + c.size.toNat - 1 := by
  have hs := size_toNat_pos hc
  have hhi := h.2.2
  have hlt := UInt64.toNat_lt (Min.min N.max c.max)
  rw [UInt64.toNat_sub, UInt64.toNat_add, UInt64.toNat_one]
  omega

/-- A fit lies inside its node. -/
theorem FitsAt.within {c : Constraint} {N : Range} {a : UInt64} (h : c.FitsAt N a) :
    N.min.toNat ≤ a.toNat ∧ a.toNat + c.size.toNat - 1 ≤ N.max.toNat := by
  obtain ⟨-, hlo, hhi⟩ := h
  rw [UInt64.le_iff_toNat_le, UInt64.toNat_max] at hlo
  rw [UInt64.toNat_min] at hhi
  omega

/-- `Range::new` accepts the range of a fit. -/
theorem FitsAt.range_new {c : Constraint} {N : Range} {a : UInt64} (hc : c.size ≠ 0) (h : c.FitsAt N a) :
    Range.new a (a + c.size - 1) = .ok ⟨a, a + c.size - 1⟩ := by
  have hlast := h.toNat_last hc
  have hs := size_toNat_pos hc
  have hlt := UInt64.toNat_lt c.size
  refine Range.new_eq_ok (UInt64.le_iff_toNat_le.mpr (by omega)) (Range.ne_full_iff.mpr ?_)
  dsimp only
  omega

/-- The range of a fit is well formed and lies in its node. -/
theorem FitsAt.valid_range {c : Constraint} {N : Range} {a : UInt64} (hc : c.size ≠ 0)
    (h : c.FitsAt N a) :
    (⟨a, a + c.size - 1⟩ : Range).Valid ∧ N.contain ⟨a, a + c.size - 1⟩ = true := by
  have hlast := h.toNat_last hc
  obtain ⟨hlo, hhi⟩ := h.within
  have hs := size_toNat_pos hc
  exact ⟨Range.valid_iff.mpr (by dsimp only; omega),
    Range.contain_iff.mpr ⟨by dsimp only; omega, by dsimp only; omega⟩⟩

end Constraint

namespace Tree

variable {T : Type}

/-- `check_constraint` on a node whose clamp `Range::new` accepts, if it is free: it passes
exactly when the constraint fits somewhere in the node. -/
theorem check_constraint_node {c : Constraint} (hc : c.size ≠ 0) {N : Range} {d : NodeState T}
    {l r : Tree T} {h : Nat} {m : UInt64} (hN : d = .Free → c.clamp N ≠ Range.full) :
    ∃ b, check_constraint c (.node N d l r h m) = .ok b ∧
      (b = true ↔ d = .Free ∧ ∃ a, c.FitsAt N a) := by
  have hs := Constraint.size_toNat_pos hc
  cases d with
  | Allocated => exact ⟨false, rfl, by simp⟩
  | Valued v => exact ⟨false, rfl, by simp⟩
  | Free =>
    have hfull := hN rfl
    simp only [check_constraint, NodeState.is_free, if_true]
    by_cases hle : Max.max N.min c.min ≤ Min.min N.max c.max
    · have hv : (c.clamp N).Valid := hle
      rw [if_pos hle, Range.new_eq_ok hle hfull, Except.ok_bind_eq]
      obtain ⟨o, ho, hsome, hnone⟩ := Range.align_to_spec hv hfull c.align
      -- with an alignment of 0 or 1 the clamp itself is what `align_to` would give
      have hcheck : ∀ ak, o = some ak → (ak.len ≥ c.size ↔ ∃ a, c.FitsAt N a) := by
        intro ak hak
        obtain ⟨hmax, hal, hlo, hmin, hakfull, hleast⟩ := hsome ak hak
        have hakv : ak.Valid := by
          show ak.min ≤ ak.max
          rw [hmax]
          exact hmin
        rw [Range.len_ge_iff hakv hakfull, hmax]
        constructor
        · exact fun hlen => ⟨ak.min, hal, hlo, hlen⟩
        · rintro ⟨a, ha⟩
          have := UInt64.le_iff_toNat_le.mp (hleast a ha.1 ha.2.1)
          have := ha.2.2
          show ak.min.toNat + c.size.toNat - 1 ≤ (Min.min N.max c.max).toNat
          omega
      by_cases h01 : c.align = 0 ∨ c.align = 1
      · rw [if_pos h01]
        refine ⟨_, rfl, ?_⟩
        have hself : o = some (c.clamp N) := by
          unfold Range.align_to at ho
          rw [if_pos h01] at ho
          exact (Except.ok.inj ho).symm
        rw [decide_eq_true_iff]
        exact (hcheck _ hself).trans ⟨fun h => ⟨trivial, h⟩, fun h => h.2⟩
      · have ho' : Range.align_to ⟨Max.max N.min c.min, Min.min N.max c.max⟩ c.align = .ok o := ho
        rw [if_neg h01, ho', Except.ok_bind_eq]
        cases o with
        | none =>
          refine ⟨false, rfl, ?_⟩
          simp only [Bool.false_eq_true, false_iff, not_and, not_exists]
          intro _ a ha
          have hlt : (Min.min N.max c.max).toNat < a.toNat :=
            UInt64.lt_iff_toNat_lt.mp (hnone rfl a ha.1 ha.2.1)
          have hhi := ha.2.2
          omega
        | some ak =>
          refine ⟨_, rfl, ?_⟩
          rw [decide_eq_true_iff]
          exact (hcheck ak rfl).trans ⟨fun h => ⟨trivial, h⟩, fun h => h.2⟩
    · -- the clamp is empty: nothing fits
      rw [if_neg hle]
      refine ⟨false, rfl, ?_⟩
      simp only [Bool.false_eq_true, false_iff, not_and, not_exists]
      intro _ a ha
      exact hle (ha.clamp_valid hc)

/-- An entry that `first_match` takes: a free node where the constraint fits. -/
def Candidate (c : Constraint) (e : Range × NodeState T) : Prop :=
  e.2 = .Free ∧ ∃ a, c.FitsAt e.1 a

theorem first_match_none (c : Constraint) : (Tree.none : Tree T).first_match c = .ok Option.none :=
  rfl

/-- `first_match` finds the first entry in key order where the constraint fits, if the
constraint clamps no free node to the whole of `u64`. -/
theorem first_match_spec {c : Constraint} (hc : c.size ≠ 0) {t : Tree T}
    (hN : ∀ N, (N, NodeState.Free) ∈ t.entries → c.clamp N ≠ Range.full) :
    ∃ res, t.first_match c = .ok res ∧
      (res = Option.none → ∀ e ∈ t.entries, ¬ Candidate c e) ∧
      ∀ e, res = some e → ∃ l₁ l₂, t.entries = l₁ ++ e :: l₂ ∧ Candidate c e ∧
        ∀ e' ∈ l₁, ¬ Candidate c e' := by
  induction t with
  | none => exact ⟨Option.none, rfl, fun _ _ he => by simp [entries] at he, nofun⟩
  | node k d l r h m ihl ihr =>
    rw [entries_node] at hN
    have hr_eq : (if r.is_some = true then first_match c r else Except.ok Option.none) =
        first_match c r := by
      cases r <;> rfl
    unfold first_match
    simp only [Except.pure_eq_ok, Except.ok_bind_eq, hr_eq]
    rw [entries_node]
    obtain ⟨b, hb, hbiff⟩ := check_constraint_node hc (N := k) (d := d) (l := l) (r := r) (h := h)
      (m := m) (fun hd => hN k (by simp [hd]))
    obtain ⟨resr, hrr, hrnone, hrsome⟩ := ihr (fun N hN' => hN N (by simp [hN']))
    -- the node itself, then the right child, once nothing on the left is a candidate
    have hnode : (∀ e ∈ l.entries, ¬ Candidate c e) →
        ∃ res, (check_constraint c (node k d l r h m) >>= fun b =>
          if b = true then Except.ok (some (k, d)) else first_match c r) = .ok res ∧
        (res = Option.none → ∀ e ∈ l.entries ++ (k, d) :: r.entries, ¬ Candidate c e) ∧
        ∀ e, res = some e → ∃ l₁ l₂, l.entries ++ (k, d) :: r.entries = l₁ ++ e :: l₂ ∧
          Candidate c e ∧ ∀ e' ∈ l₁, ¬ Candidate c e' := by
      intro hl_none
      rw [hb, Except.ok_bind_eq]
      cases b with
      | false =>
        have hk : ¬ Candidate c (k, d) := fun hk => Bool.false_ne_true (hbiff.mpr hk)
        rw [if_neg Bool.false_ne_true, hrr]
        refine ⟨resr, rfl, fun hres e he => ?_, fun e hres => ?_⟩
        · rcases List.mem_append.mp he with he | he
          · exact hl_none e he
          · rcases List.mem_cons.mp he with rfl | he
            · exact hk
            · exact hrnone hres e he
        · obtain ⟨r₁, r₂, hr₁, hce, hbefore⟩ := hrsome e hres
          refine ⟨l.entries ++ (k, d) :: r₁, r₂, by simp [hr₁], hce, fun e' he' => ?_⟩
          rcases List.mem_append.mp he' with he' | he'
          · exact hl_none e' he'
          · rcases List.mem_cons.mp he' with rfl | he'
            · exact hk
            · exact hbefore e' he'
      | true =>
        rw [if_pos rfl]
        refine ⟨some (k, d), rfl, nofun, ?_⟩
        rintro e ⟨⟩
        exact ⟨l.entries, r.entries, rfl, hbiff.mp rfl, hl_none⟩
    split
    · obtain ⟨resl, hl, hlnone, hlsome⟩ := ihl (fun N hN' => hN N (by simp [hN']))
      rw [hl, Except.ok_bind_eq]
      cases resl with
      | some e =>
        refine ⟨some e, rfl, nofun, ?_⟩
        rintro e' ⟨⟩
        obtain ⟨l₁, l₂, hl₁, hce, hbefore⟩ := hlsome e rfl
        exact ⟨l₁, l₂ ++ (k, d) :: r.entries, by simp [hl₁], hce, hbefore⟩
      | none => exact hnode (hlnone rfl)
    · next hls =>
      obtain rfl := eq_none_of_is_some hls
      exact hnode nofun

/-- Under ordered keys, the least address that fits in the first candidate is the least that fits
in any free node: the free nodes before it have none, and those after it begin after it ends. -/
theorem first_candidate_least {c : Constraint} (hc : c.size ≠ 0) {t : Tree T} (ho : t.Ordered)
    {l₁ l₂ : List (Range × NodeState T)} {N : Range} {d : NodeState T}
    (hsplit : t.entries = l₁ ++ (N, d) :: l₂) (hbefore : ∀ e' ∈ l₁, ¬ Candidate c e')
    {a : UInt64} (hfit : c.FitsAt N a) (hleast : ∀ a', c.FitsAt N a' → a ≤ a') :
    ∀ N' a', (N', NodeState.Free) ∈ t.entries → c.FitsAt N' a' → a ≤ a' := by
  have hs := Constraint.size_toNat_pos hc
  have hkeys : OrderedKeys (l₁.map Prod.fst ++ N :: l₂.map Prod.fst) := by
    have := ho
    rw [Ordered, keys, hsplit] at this
    simpa using this
  obtain ⟨-, -, -, -, hafter⟩ := orderedKeys_append_cons.mp hkeys
  intro N' a' hmem hfit'
  rw [hsplit] at hmem
  rcases List.mem_append.mp hmem with hmem | hmem
  · exact absurd ⟨rfl, a', hfit'⟩ (hbefore _ hmem)
  rcases List.mem_cons.mp hmem with heq | hmem
  · obtain rfl : N' = N := (Prod.mk.inj heq).1
    exact hleast a' hfit'
  · -- a free node after the candidate begins after the candidate ends, past `a`
    have hb := Range.before_iff.mp (hafter N' (List.mem_map_of_mem (f := Prod.fst) hmem))
    have h₁ := hfit.2.2
    have h₂ := UInt64.le_iff_toNat_le.mp hfit'.2.1
    rw [UInt64.toNat_max] at h₂
    rw [UInt64.toNat_min] at h₁
    rw [UInt64.le_iff_toNat_le]
    omega

/-- `Node::update` of a key of sorted entries, to a state its state may move to: the entries with
that key's state replaced, and the data of the old state. -/
theorem update_spec {t : Tree T} (hs : t.Sorted) {key : Range} {d s : NodeState T}
    (hmem : (key, d) ∈ t.entries) (hd : d.update_panics s = false) :
    ∃ t', t.update key s = .ok (t', d.into) ∧
      t'.entries = t.entries.map fun e => if e.1 = key then (e.1, s) else e := by
  induction t with
  | none => simp [entries] at hmem
  | node k d' l r h m ihl ihr =>
    obtain ⟨hsl, hsr, hlk, hkr⟩ := sorted_node.mp hs
    rw [entries_node] at hmem
    -- the entries off the path keep their state
    have hkeep : ∀ (es : List (Range × NodeState T)), (∀ e ∈ es, e.1 ≠ key) →
        es.map (fun e => if e.1 = key then (e.1, s) else e) = es := fun es hes =>
      (List.map_congr_left fun e he => if_neg (hes e he)).trans (List.map_id' es)
    simp only [update]
    cases hc : k.cmp key with
    | eq =>
      obtain rfl := Range.cmp_eq_eq_iff.mp hc
      have hl : ∀ e ∈ l.entries, e.1 ≠ k := fun e he => Range.ne_of_cmp_lt (hlk _ (mem_keys he))
      have hr : ∀ e ∈ r.entries, e.1 ≠ k := fun e he =>
        (Range.ne_of_cmp_lt (hkr _ (mem_keys he))).symm
      -- the node's own entry is the one of the key
      obtain rfl : d' = d := by
        rcases List.mem_append.mp hmem with he | he
        · exact absurd rfl (hl _ he)
        · rcases List.mem_cons.mp he with he | he
          · exact ((Prod.mk.inj he).2).symm
          · exact absurd rfl (hr _ he)
      rw [if_neg (by simp [hd])]
      refine ⟨_, rfl, ?_⟩
      rw [entries_node, entries_node, List.map_append, List.map_cons, hkeep _ hl, hkeep _ hr,
        if_pos rfl]
    | lt =>
      have hl : ∀ e ∈ l.entries, e.1 ≠ key := fun e he =>
        Range.ne_of_cmp_lt (Range.cmp_lt_trans (hlk _ (mem_keys he)) hc)
      have hk : k ≠ key := Range.ne_of_cmp_lt hc
      have hmr : (key, d) ∈ r.entries := by
        rcases List.mem_append.mp hmem with he | he
        · exact absurd rfl (hl _ he)
        · rcases List.mem_cons.mp he with he | he
          · exact absurd (Prod.mk.inj he).1.symm hk
          · exact he
      obtain ⟨r', hr', hre⟩ := ihr hsr hmr
      rw [hr', Except.ok_bind_eq]
      refine ⟨_, rfl, ?_⟩
      rw [entries_node, entries_node, hre, List.map_append, List.map_cons, hkeep _ hl, if_neg hk]
    | gt =>
      have hgt := Range.cmp_eq_gt_iff_lt.mp hc
      have hr : ∀ e ∈ r.entries, e.1 ≠ key := fun e he =>
        (Range.ne_of_cmp_lt (Range.cmp_lt_trans hgt (hkr _ (mem_keys he)))).symm
      have hk : k ≠ key := (Range.ne_of_cmp_lt hgt).symm
      have hml : (key, d) ∈ l.entries := by
        rcases List.mem_append.mp hmem with he | he
        · exact he
        · rcases List.mem_cons.mp he with he | he
          · exact absurd (Prod.mk.inj he).1.symm hk
          · exact absurd rfl (hr _ he)
      obtain ⟨l', hl', hle⟩ := ihl hsl hml
      rw [hl', Except.ok_bind_eq]
      refine ⟨_, rfl, ?_⟩
      rw [entries_node, entries_node, hle, List.map_append, List.map_cons, hkeep _ hr, if_neg hk]

end Tree

namespace Range

/-- A range inside `N` is not a key that lies before or after `N`, and does not meet it. -/
theorem sep_within {e N p : Range} (he : e.Before N ∨ N.Before e) (hpN : N.contain p = true)
    (hp : p.Valid) : e ≠ p ∧ e.intersect p = false := by
  rw [valid_iff] at hp
  rw [contain_iff] at hpN
  rw [Ne, eq_iff, ← Bool.not_eq_true, intersect_iff]
  rcases he with he | he <;> rw [before_iff] at he <;> omega

/-- A range that ends before a well-formed one begins is not it and does not meet it. -/
theorem sep_of_lt {p q : Range} (hq : q.Valid) (h : p.max < q.min) :
    p ≠ q ∧ p.intersect q = false := by
  rw [valid_iff] at hq
  rw [UInt64.lt_iff_toNat_lt] at h
  rw [Ne, eq_iff, ← Bool.not_eq_true, intersect_iff]
  omega

end Range

namespace IntervalTree

variable {T : Type} {t : IntervalTree T}

/-- The address `x` lies in a node of the tree. -/
def Covers (t : IntervalTree T) (x : UInt64) : Prop :=
  ∃ e ∈ t.root.entries, e.1.min ≤ x ∧ x ≤ e.1.max

/-- `delete` takes the key's entry out and keeps the invariant. -/
theorem delete_post (hv : t.root.Valid) (key : Range) :
    Except.Post (fun p => p.1.root.Valid ∧ p.2 = (t.root.entries.lookup key).bind NodeState.into ∧
      ∀ e, e ∈ p.1.root.entries ↔ e ∈ t.root.entries ∧ e.1 ≠ key) (fun _ => False)
      (t.delete key) := by
  obtain ⟨t', hd, hent⟩ := (map_spec hv).delete key
  rw [hd]
  refine ⟨(post_delete hv).of_eq_ok hd, rfl, fun e => ?_⟩
  rw [hent, List.mem_filter, bne_iff_ne]

/-- `insert` of a well-formed key that is none of the keys and meets none of them adds its entry
and keeps the invariant. -/
theorem insert_post (hv : t.root.Valid) {key : Range} (hkey : key.Valid)
    (hsep : ∀ e ∈ t.root.keys, e ≠ key ∧ e.intersect key = false) (data : Option T) :
    Except.Post (fun t' => t'.root.Valid ∧
      ∀ e, e ∈ t'.root.entries ↔ e ∈ t.root.entries ∨ e = (key, NodeState.of_option data))
      (fun _ => False) (t.insert key data) := by
  cases h : t.insert key data with
  | error p =>
    obtain ⟨e, he, hek⟩ := ((map_spec hv).insert_panics key data).mp ⟨p, h⟩
    rcases hek with hek | hek
    · exact (hsep e he).1 hek
    · rw [(hsep e he).2] at hek
      cases hek
  | ok t' =>
    obtain ⟨l₁, l₂, h₁, h₂⟩ := (map_spec hv).insert_ok key data t' h
    refine ⟨(post_insert hv).of_eq_ok h hkey, fun e => ?_⟩
    rw [h₂, h₁]
    simp only [List.mem_append, List.mem_cons]
    tauto

/-- `mark_allocated` of a free node marks it allocated and keeps the invariant. -/
theorem mark_allocated_post (hv : t.root.Valid) {key : Range}
    (hmem : (key, NodeState.Free) ∈ t.root.entries) :
    Except.Post (fun t' => t'.root.Valid ∧
      ∀ e, e ∈ t'.root.entries ↔ (e ∈ t.root.entries ∧ e.1 ≠ key) ∨ e = (key, NodeState.Allocated))
      (fun _ => False) (t.mark_allocated key) := by
  have hsome : t.root.is_some = true := by
    cases h : t.root with
    | none => rw [h] at hmem; simp [Tree.entries] at hmem
    | node _ _ _ _ _ _ => rfl
  obtain ⟨r, hu, hent⟩ := Tree.update_spec hv.ordered.sorted hmem (s := .Allocated) rfl
  unfold mark_allocated
  rw [if_neg (by simp [hsome]), hu]
  refine ⟨(Tree.post_update hv).of_eq_ok hu, fun e => ?_⟩
  show e ∈ r.entries ↔ _
  rw [hent, List.mem_map]
  constructor
  · rintro ⟨x, hx, rfl⟩
    by_cases hxk : x.1 = key
    · rw [if_pos hxk, hxk]
      exact .inr rfl
    · rw [if_neg hxk]
      exact .inl ⟨hx, hxk⟩
  · rintro (⟨he, hek⟩ | rfl)
    · exact ⟨e, he, if_neg hek⟩
    · exact ⟨(key, .Free), hmem, if_pos rfl⟩

end IntervalTree

namespace IntervalTree

variable {T : Type} {t t' : IntervalTree T}

/-- The free part of the node `N` below `r`, if there is one. -/
def lower_piece (N r : Range) : List (Range × NodeState T) :=
  if N.min < r.min then [(⟨N.min, r.min - 1⟩, .Free)] else []

/-- The free part of the node `N` above `r`, if there is one. -/
def upper_piece (N r : Range) : List (Range × NodeState T) :=
  if r.max < N.max then [(⟨r.max + 1, N.max⟩, .Free)] else []

/-- The nodes that take the place of the node `N` when `allocate` hands out `r` from it: the
part of `N` below `r`, free, then `r`, allocated, then the part of `N` above `r`, free. -/
def split_pieces (N r : Range) : List (Range × NodeState T) :=
  lower_piece N r ++ (r, .Allocated) :: upper_piece N r

theorem mem_lower_piece {N r : Range} {e : Range × NodeState T} (he : e ∈ lower_piece N r) :
    e = (⟨N.min, r.min - 1⟩, .Free) ∧ N.min < r.min := by
  unfold lower_piece at he
  split_ifs at he with h
  · exact ⟨List.mem_singleton.mp he, h⟩
  · simp at he

theorem mem_upper_piece {N r : Range} {e : Range × NodeState T} (he : e ∈ upper_piece N r) :
    e = (⟨r.max + 1, N.max⟩, .Free) ∧ r.max < N.max := by
  unfold upper_piece at he
  split_ifs at he with h
  · exact ⟨List.mem_singleton.mp he, h⟩
  · simp at he

/-- `t'` is `t` with its node of key `N` replaced by the nodes `ps`, and keeps the invariant. -/
def Replaces (t t' : IntervalTree T) (N : Range) (ps : List (Range × NodeState T)) : Prop :=
  t'.root.Valid ∧ ∀ e, e ∈ t'.root.entries ↔ (e ∈ t.root.entries ∧ e.1 ≠ N) ∨ e ∈ ps

/-- Deleting the node `N` replaces it by nothing. -/
theorem replaces_delete (hv : t.root.Valid) (N : Range) :
    Except.Post (fun p => Replaces t p.1 N []) (fun _ => False) (t.delete N) :=
  (delete_post hv N).mono (fun _ ⟨hv', _, hent⟩ => ⟨hv', fun e => by simp [hent]⟩) fun _ h => h

section Replaces

variable {N : Range} {d : NodeState T} (hv : t.root.Valid) (hN : (N, d) ∈ t.root.entries)
include hv hN

/-- A well-formed range inside the node `N` is none of the other keys and meets none of them. -/
theorem sep_of_within {e : Range × NodeState T} (he : e ∈ t.root.entries) (hne : e.1 ≠ N)
    {p : Range} (hp : p.Valid) (hpN : N.contain p = true) :
    e.1 ≠ p ∧ e.1.intersect p = false :=
  Range.sep_within (hv.ordered.2.rel_or_rel (List.mem_map_of_mem he) (List.mem_map_of_mem hN) hne)
    hpN hp

/-- Inserting, free, a piece of `N` that lies above the pieces so far adds it to them. -/
theorem Replaces.insert {ps : List (Range × NodeState T)} (h : Replaces t t' N ps) {p : Range}
    (hp : p.Valid) (hpN : N.contain p = true) (hps : ∀ e ∈ ps, e.1.max < p.min) :
    Except.Post (fun t'' => Replaces t t'' N (ps ++ [(p, .Free)])) (fun _ => False)
      (t'.insert p none) := by
  have hsep : ∀ k ∈ t'.root.keys, k ≠ p ∧ k.intersect p = false := by
    intro k hk
    obtain ⟨e, he, rfl⟩ := List.mem_map.mp hk
    rcases (h.2 e).mp he with ⟨he, hne⟩ | he
    · exact sep_of_within hv hN he hne hp hpN
    · exact Range.sep_of_lt hp (hps e he)
  refine (insert_post h.1 hp hsep none).mono
    (fun t'' ⟨hv'', hent⟩ => ⟨hv'', fun e => ?_⟩) fun _ h => h
  rw [hent, h.2, List.mem_append, List.mem_singleton, NodeState.of_option, or_assoc]

/-- Marking the free piece `r` allocated changes that piece only. -/
theorem Replaces.mark_allocated {pl pu : List (Range × NodeState T)} {r : Range}
    (h : Replaces t t' N (pl ++ (r, .Free) :: pu)) (hr : r.Valid)
    (hrN : N.contain r = true) (hpl : ∀ e ∈ pl, e.1 ≠ r) (hpu : ∀ e ∈ pu, e.1 ≠ r) :
    Except.Post (fun t'' => Replaces t t'' N (pl ++ (r, .Allocated) :: pu)) (fun _ => False)
      (t'.mark_allocated r) := by
  have hmem : (r, NodeState.Free) ∈ t'.root.entries := (h.2 _).mpr (.inr (by simp))
  refine (mark_allocated_post h.1 hmem).mono
    (fun t'' ⟨hv'', hent⟩ => ⟨hv'', fun e => ?_⟩) fun _ h => h
  -- the other entries of `t` and the other pieces are not `r`
  have hne : (e ∈ t.root.entries ∧ e.1 ≠ N) ∨ e ∈ pl ∨ e ∈ pu → e.1 ≠ r := by
    rintro (⟨he, hneN⟩ | he | he)
    · exact (sep_of_within hv hN he hneN hr hrN).1
    · exact hpl e he
    · exact hpu e he
  rw [hent, h.2]
  simp only [List.mem_append, List.mem_cons]
  constructor
  · rintro (⟨he | he | rfl | he, her⟩ | rfl)
    · exact .inl he
    · exact .inr (.inl he)
    · exact absurd rfl her
    · exact .inr (.inr (.inr he))
    · exact .inr (.inr (.inl rfl))
  · rintro (he | he | rfl | he)
    · exact .inl ⟨.inl he, hne (.inl he)⟩
    · exact .inl ⟨.inr (.inl he), hne (.inr (.inl he))⟩
    · exact .inr rfl
    · exact .inl ⟨.inr (.inr (.inr he)), hne (.inr (.inr he))⟩

end Replaces

/-- What `allocate` does: when no free node takes the constraint, nothing; otherwise it hands out
the range at the least address that fits, from the first free node where it fits, which is split
around it. -/
def AllocSpec (t : IntervalTree T) (c : Constraint) (p : IntervalTree T × Option Range) : Prop :=
  (p.2 = none → p.1 = t ∧ ∀ e ∈ t.root.entries, ¬ Tree.Candidate c e) ∧
  ∀ r, p.2 = some r → ∃ N a, (N, NodeState.Free) ∈ t.root.entries ∧ c.FitsAt N a ∧
    r = ⟨a, a + c.size - 1⟩ ∧
    (∀ N' a', (N', NodeState.Free) ∈ t.root.entries → c.FitsAt N' a' → a ≤ a') ∧
    Replaces t p.1 N (split_pieces N r)

theorem AllocSpec.of_replaces {c : Constraint} {N r : Range} {a : UInt64}
    (hN : (N, NodeState.Free) ∈ t.root.entries) (hfit : c.FitsAt N a)
    (hr : r = ⟨a, a + c.size - 1⟩)
    (hleast : ∀ N' a', (N', NodeState.Free) ∈ t.root.entries → c.FitsAt N' a' → a ≤ a')
    (h : Replaces t t' N (split_pieces N r)) : AllocSpec t c (t', some r) :=
  ⟨nofun, by rintro _ ⟨⟩; exact ⟨N, a, hN, hfit, hr, hleast, h⟩⟩

theorem allocate_spec (hv : t.root.Valid) {c : Constraint} (hc : c.size ≠ 0)
    (hfull : ∀ N, (N, NodeState.Free) ∈ t.root.entries → c.clamp N ≠ Range.full) :
    Except.Post (AllocSpec t c) (fun _ => False) (t.allocate c) := by
  unfold allocate
  rw [if_neg hc]
  obtain ⟨res, hres, hnone, hsome⟩ := Tree.first_match_spec hc hfull
  have hfind : t.root.find_candidate c = .ok res := by
    unfold Tree.find_candidate
    split <;> exact hres
  rw [hfind, Except.ok_bind_eq]
  cases res with
  | none => exact ⟨fun _ => ⟨rfl, hnone rfl⟩, nofun⟩
  | some e =>
    obtain ⟨N, d⟩ := e
    obtain ⟨l₁, l₂, hsplit, ⟨hdfree, hfits⟩, hbefore⟩ := hsome _ rfl
    obtain rfl : d = .Free := hdfree
    have hmemN : (N, NodeState.Free) ∈ t.root.entries := by
      rw [hsplit]
      simp
    have hNfull := hfull N hmemN
    obtain ⟨ak, hak, hakmax, hakfit, hakleast⟩ := Constraint.fits_align_to hc hNfull hfits
    have hleast := Tree.first_candidate_least hc hv.ordered hsplit hbefore hakfit hakleast
    dsimp -zeta only
    rw [Range.new_eq_ok (a := Max.max N.min c.min) (b := Min.min N.max c.max)
      (hakfit.clamp_valid hc) hNfull, Except.ok_bind_eq]
    rw [show Range.align_to ⟨Max.max N.min c.min, Min.min N.max c.max⟩ c.align = .ok (some ak)
      from hak, Except.ok_bind_eq]
    dsimp -zeta only
    rw [hakfit.range_new hc, Except.ok_bind_eq]
    -- what the pieces need of the range `r` handed out, in numbers
    have hlast := hakfit.toNat_last hc
    obtain ⟨hlo, hhi⟩ := hakfit.within
    have hs := Constraint.size_toNat_pos hc
    have hNv := Range.valid_iff.mp (hv.ordered.1 N (List.mem_map_of_mem hmemN))
    have hNlt := UInt64.toNat_lt N.max
    generalize hr : ({ min := ak.min, max := ak.min + c.size - 1 } : Range) = r
    have hrmin : r.min = ak.min := by rw [← hr]
    have hrmax : r.max.toNat = ak.min.toNat + c.size.toNat - 1 := by rw [← hr]; exact hlast
    have hrvn : r.min.toNat ≤ r.max.toNat := by rw [hrmin]; omega
    have hrv : r.Valid := Range.valid_iff.mpr hrvn
    have hrN : N.contain r = true := Range.contain_iff.mpr ⟨by rw [hrmin]; omega, by omega⟩
    split
    · -- the node is taken whole: its length is the size, so it is `r`
      rename_i hwhole
      have hNfull' : N ≠ Range.full := by
        rintro rfl
        exact hc (hwhole.2.symm.trans (by decide))
      have hlen := Range.toNat_len (hv.ordered.1 N (List.mem_map_of_mem hmemN)) hNfull'
      rw [hwhole.2] at hlen
      have hNr : N = r := by
        rw [Range.eq_iff, hrmax, hrmin, ← hwhole.1]
        omega
      subst hNr
      refine Except.post_bind (mark_allocated_post hv hmemN) fun t' ⟨hv', hent⟩ =>
        AllocSpec.of_replaces hmemN hakfit hr.symm hleast ⟨hv', fun e => ?_⟩
      simp [hent, split_pieces, lower_piece, upper_piece]
    · refine Except.post_bind (replaces_delete hv N) fun ⟨t₁, _⟩ hr₁ => ?_
      dsimp -zeta only at hr₁ ⊢
      extract_lets mark upper
      -- the piece below `r` ends just before it, the piece above starts just after it
      have hlow : ∀ e ∈ (lower_piece N r : List (Range × NodeState T)), e.1.max < r.min := by
        intro e he
        obtain ⟨rfl, hlt⟩ := mem_lower_piece he
        have h₁ := UInt64.toNat_sub_one_of_lt hlt
        have h₂ := UInt64.lt_iff_toNat_lt.mp hlt
        exact UInt64.lt_iff_toNat_lt.mpr (by dsimp only; omega)
      have hup : ∀ e ∈ (upper_piece N r : List (Range × NodeState T)), e.1 ≠ r := by
        intro e he
        obtain ⟨rfl, hlt⟩ := mem_upper_piece he
        have h₁ := UInt64.toNat_add_one_of_lt hlt
        have h₂ := UInt64.lt_iff_toNat_lt.mp hlt
        rw [Ne, Range.eq_iff]
        dsimp only
        omega
      have hmark : ∀ t₄, Replaces t t₄ N (lower_piece N r ++ (r, .Free) :: upper_piece N r) →
          Except.Post (AllocSpec t c) (fun _ => False) (mark t₄) := by
        intro t₄ hr₄
        refine Except.post_bind (hr₄.mark_allocated hv hmemN hrv hrN
          (fun e he => (Range.sep_of_lt hrv (hlow e he)).1) hup) fun t₅ hr₅ => ?_
        exact AllocSpec.of_replaces hmemN hakfit hr.symm hleast hr₅
      have hupper : ∀ t₂, Replaces t t₂ N (lower_piece N r) →
          Except.Post (AllocSpec t c) (fun _ => False) (upper t₂) := by
        intro t₂ hr₂
        refine Except.post_bind (hr₂.insert hv hmemN hrv hrN hlow) fun t₃ hr₃ => ?_
        split
        · rename_i hlt
          have h₁ := UInt64.toNat_add_one_of_lt hlt
          have h₂ := UInt64.lt_iff_toNat_lt.mp hlt
          rw [Range.new_eq_ok (UInt64.le_iff_toNat_le.mpr (by omega))
            (Range.ne_full_iff.mpr (.inl (by dsimp only; omega))), Except.ok_bind_eq]
          refine Except.post_bind (hr₃.insert hv hmemN (Range.valid_iff.mpr (by dsimp only; omega))
            (Range.contain_iff.mpr ⟨by dsimp only; omega, by dsimp only; omega⟩) ?_)
            fun t₄ hr₄ => hmark t₄ ?_
          · intro e he
            rw [List.mem_append, List.mem_singleton] at he
            rcases he with he | rfl
            · have := UInt64.lt_iff_toNat_lt.mp (hlow e he)
              exact UInt64.lt_iff_toNat_lt.mpr (by dsimp only; omega)
            · exact UInt64.lt_iff_toNat_lt.mpr (by dsimp only; omega)
          · rwa [upper_piece, if_pos hlt, ← List.singleton_append, ← List.append_assoc]
        · rename_i hlt
          -- `pure` then the mark: the mark itself
          exact hmark t₃ (by rwa [upper_piece, if_neg hlt])
      split
      · rename_i hlt
        have h₁ := UInt64.toNat_sub_one_of_lt hlt
        have h₂ := UInt64.lt_iff_toNat_lt.mp hlt
        have hak := UInt64.toNat_lt ak.min
        rw [Range.new_eq_ok (UInt64.le_iff_toNat_le.mpr (by omega))
          (Range.ne_full_iff.mpr (.inr (by dsimp only; omega))), Except.ok_bind_eq]
        refine Except.post_bind (hr₁.insert hv hmemN (Range.valid_iff.mpr (by dsimp only; omega))
          (Range.contain_iff.mpr ⟨by dsimp only; omega, by dsimp only; omega⟩) nofun)
          fun t₂ hr₂ => hupper t₂ ?_
        rwa [lower_piece, hrmin, if_pos hlt]
      · rename_i hlt
        exact hupper t₁ (by rwa [lower_piece, hrmin, if_neg hlt])

/-! ## The points the tree covers -/

/-- The pieces of `N` around a well-formed range `r` inside it cover the points of `N`. -/
theorem covers_split_pieces {N r : Range} (hrv : r.Valid) (hrN : N.contain r = true)
    (x : UInt64) :
    (∃ e ∈ (split_pieces N r : List (Range × NodeState T)), e.1.min ≤ x ∧ x ≤ e.1.max) ↔
      N.min ≤ x ∧ x ≤ N.max := by
  rw [Range.valid_iff] at hrv
  rw [Range.contain_iff] at hrN
  simp only [UInt64.le_iff_toNat_le]
  constructor
  · rintro ⟨e, he, hx₁, hx₂⟩
    rw [split_pieces, List.mem_append, List.mem_cons] at he
    rcases he with he | rfl | he
    · obtain ⟨rfl, hlt⟩ := mem_lower_piece he
      have h₁ := UInt64.toNat_sub_one_of_lt hlt
      dsimp only at hx₁ hx₂
      omega
    · dsimp only at hx₁ hx₂
      omega
    · obtain ⟨rfl, hlt⟩ := mem_upper_piece he
      have h₁ := UInt64.toNat_add_one_of_lt hlt
      dsimp only at hx₁ hx₂
      omega
  · rintro ⟨hx₁, hx₂⟩
    by_cases hlo : x.toNat < r.min.toNat
    · -- below `r`: in the lower piece
      have hlt : N.min < r.min := UInt64.lt_iff_toNat_lt.mpr (by omega)
      have h₁ := UInt64.toNat_sub_one_of_lt hlt
      refine ⟨(⟨N.min, r.min - 1⟩, .Free), by simp [split_pieces, lower_piece, hlt], ?_⟩
      dsimp only
      omega
    by_cases hhi : x.toNat ≤ r.max.toNat
    · exact ⟨(r, .Allocated), by simp [split_pieces], by dsimp only; omega, hhi⟩
    · -- above `r`: in the upper piece
      have hlt : r.max < N.max := UInt64.lt_iff_toNat_lt.mpr (by omega)
      have h₁ := UInt64.toNat_add_one_of_lt hlt
      refine ⟨(⟨r.max + 1, N.max⟩, .Free), by simp [split_pieces, upper_piece, hlt], ?_⟩
      dsimp only
      omega

/-- Replacing a node by pieces that cover its points keeps the points the tree covers. -/
theorem Replaces.covers {N : Range} {d : NodeState T} {ps : List (Range × NodeState T)}
    (hN : (N, d) ∈ t.root.entries) (h : Replaces t t' N ps)
    (hps : ∀ x, (∃ e ∈ ps, e.1.min ≤ x ∧ x ≤ e.1.max) ↔ N.min ≤ x ∧ x ≤ N.max) (x : UInt64) :
    t'.Covers x ↔ t.Covers x := by
  constructor
  · rintro ⟨e, he, hx⟩
    rcases (h.2 e).mp he with ⟨he, -⟩ | he
    · exact ⟨e, he, hx⟩
    · exact ⟨(N, d), hN, (hps x).mp ⟨e, he, hx⟩⟩
  · rintro ⟨e, he, hx⟩
    by_cases heN : e.1 = N
    · obtain ⟨e', he', hx'⟩ := (hps x).mpr (heN ▸ hx)
      exact ⟨e', (h.2 e').mpr (.inr he'), hx'⟩
    · exact ⟨e, (h.2 e).mpr (.inl ⟨he, heN⟩), hx⟩

/-! ## First fit -/

theorem allocate_first_fit (hv : t.root.Valid) {c : Constraint} (hc : 0 < c.size)
    (hfull : ∀ N, (N, NodeState.Free) ∈ t.root.entries → c.clamp N ≠ Range.full) :
    ∃ t' res, t.allocate c = .ok (t', res) ∧
      ((∃ r, res = some r) ↔ ∃ N a, (N, NodeState.Free) ∈ t.root.entries ∧ c.FitsAt N a) ∧
      (res = none → t' = t) ∧
      ∀ r, res = some r → ∃ N a, (N, NodeState.Free) ∈ t.root.entries ∧ c.FitsAt N a ∧
        r = ⟨a, a + c.size - 1⟩ ∧
        (∀ N' a', (N', NodeState.Free) ∈ t.root.entries → c.FitsAt N' a' → a ≤ a') ∧
        t'.root.Valid ∧ (r, NodeState.Allocated) ∈ t'.root.entries ∧
        (∀ e, e ∈ t'.root.entries ↔ (e ∈ t.root.entries ∧ e.1 ≠ N) ∨ e ∈ split_pieces N r) ∧
        ∀ x, t'.Covers x ↔ t.Covers x := by
  have hc' : c.size ≠ 0 := UInt64.pos_iff_ne_zero.mp hc
  obtain ⟨⟨t', res⟩, halloc, hnone, hsome⟩ := (allocate_spec hv hc' hfull).exists_ok
  refine ⟨t', res, halloc, ⟨?_, ?_⟩, fun h => (hnone h).1, fun r hr => ?_⟩
  · rintro ⟨r, rfl⟩
    obtain ⟨N, a, hN, hfit, -⟩ := hsome r rfl
    exact ⟨N, a, hN, hfit⟩
  · rintro ⟨N, a, hN, hfit⟩
    cases res with
    | none => exact absurd ⟨rfl, a, hfit⟩ ((hnone rfl).2 _ hN)
    | some r => exact ⟨r, rfl⟩
  obtain ⟨N, a, hN, hfit, rfl, hleast, hrep⟩ := hsome _ hr
  -- the handed-out range is well formed and lies in `N`
  obtain ⟨hrv, hrN⟩ := hfit.valid_range hc'
  refine ⟨N, a, hN, hfit, rfl, hleast, hrep.1, (hrep.2 _).mpr (.inr (by simp [split_pieces])),
    hrep.2, hrep.covers hN (covers_split_pieces hrv hrN)⟩

theorem allocate_first_fit_doc_tree :
    doc_tree.root.Valid ∧ 0 < (Constraint.new 2).size ∧
      (∀ N, (N, NodeState.Free) ∈ doc_tree.root.entries →
        (Constraint.new 2).clamp N ≠ Range.full) ∧
      ∃ t' res, doc_tree.allocate (Constraint.new 2) = .ok (t', res) := by
  have hv : doc_tree.root.Valid := by decide
  have hc : 0 < (Constraint.new 2).size := by decide
  have hfull : ∀ N, (N, NodeState.Free) ∈ doc_tree.root.entries →
      (Constraint.new 2).clamp N ≠ Range.full := by
    have h : ∀ e ∈ doc_tree.root.entries, e.2 = .Free →
        (Constraint.new 2).clamp e.1 ≠ Range.full := by decide
    exact fun N hN => h _ hN rfl
  obtain ⟨t', res, halloc, -⟩ := allocate_first_fit hv hc hfull
  exact ⟨hv, hc, hfull, t', res, halloc⟩

/-- On the tree whose only node is the free `[0, u64::MAX]`, a constraint without bounds fits at
`0`, but `check_constraint` builds the clamp with `Range::new`, which rejects the whole of `u64`,
so `allocate` panics. -/
theorem allocate_whole_space_panics :
    full_u64_tree.root.Valid ∧ 0 < (Constraint.new 1).size ∧
      (⟨0, U64_MAX⟩, NodeState.Free) ∈ full_u64_tree.root.entries ∧
      (Constraint.new 1).FitsAt ⟨0, U64_MAX⟩ 0 ∧
      full_u64_tree.allocate (Constraint.new 1) = .error .invalidRange :=
  ⟨by decide, by decide, by decide, by decide, by decide⟩

end IntervalTree

end KataContainers.Dragonball.Allocator
