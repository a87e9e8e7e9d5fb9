import KataContainers.Lib.Checked
import KataContainers.Lib.List
import KataContainers.Lib.Transition

/-!
# The guest physical address space

Model of `dbs_address_space`: the regions of a VM's guest physical address space
(`AddressSpaceRegion` of `region.rs`), the layout they must fit (`AddressSpaceLayout::is_region_valid`
of `layout.rs`), and `AddressSpaceBase` and its hotplug wrapper `AddressSpace` of
`address_space.rs`, with the lookups `is_dax_region`, `prot_flags`, `numa_node_id` and `last_addr`.

`from_regions` sorts the regions by base and then compares each with the one before it only.
On regions of positive size that finds every intersection (`from_regions_isSome_iff`), since the
regions of a sorted list that meet its neighbours' ends form a chain; a region of size zero at the
base of another breaks the chain, and `from_regions_zero_size_between` builds an address space
whose first and last regions intersect. `insert_region` compares the new region with every region,
so an address space built from regions of positive size stays `WellFormed` along every run of
inserts (`reachable_wellFormed`), and there each lookup answers for the one region that holds the
address (`lookups_of_mem`).

Sizes and addresses are `u64`; `checked_add` is `Checked.add`, and the sums of the lookups wrap
as in a release build. `from_regions` panics (`none`) on an invalid or an intersecting region.
`sort_unstable_by_key` sorts a slice of at most 20 elements by insertion, which keeps regions of
equal base in their order, and a longer one unstably: `sort_by_base` is the stable sort, and where
`from_regions` succeeds on regions of positive size every sort by base gives its list
(`eq_sort_by_base_of_from_regions`).
-/

namespace KataContainers.Dragonball

/-- `AddressSpaceRegionType`. -/
inductive AddressSpaceRegionType
  | DefaultMemory
  | DeviceMemory
  | DAXMemory
  deriving DecidableEq, Repr

/-- `AddressSpaceRegion`, with the fields the address space reads. -/
structure AddressSpaceRegion where
  ty : AddressSpaceRegionType
  base : UInt64
  size : UInt64
  host_numa_node_id : Option UInt32
  prot_flags : Int32
  deriving DecidableEq, Repr

/-- `AddressSpaceError`, with the variants the address space returns. -/
inductive AddressSpaceError
  | InvalidAddressRange (start len : UInt64)
  | InvalidRegionType
  deriving DecidableEq, Repr

namespace AddressSpaceRegion

/-- `AddressSpaceRegion::intersect_with`: a region whose end overflows intersects every region. -/
def intersect_with (self other : AddressSpaceRegion) : Bool :=
  match Checked.add self.base self.size with
  | none => true
  | some end1 =>
    match Checked.add other.base other.size with
    | none => true
    | some end2 => !(decide (end1 ≤ other.base) || decide (self.base ≥ end2))

/-- `AddressSpaceRegion::last_addr`, wrapping. -/
def last_addr (self : AddressSpaceRegion) : UInt64 := self.base + self.size - 1

/-- The test of the lookups: `start_addr() <= addr && start_addr().0 + len() > addr.0`. -/
def holds (self : AddressSpaceRegion) (addr : UInt64) : Bool :=
  decide (self.base ≤ addr) && decide (self.base + self.size > addr)

end AddressSpaceRegion

/-- `AddressSpaceLayout`, without `usable_end`, which no modelled function reads. -/
structure AddressSpaceLayout where
  phys_end : UInt64
  mem_start : UInt64
  mem_end : UInt64
  deriving DecidableEq, Repr

/-- `AddressSpaceLayout::is_region_valid`. -/
def AddressSpaceLayout.is_region_valid (self : AddressSpaceLayout) (region : AddressSpaceRegion) :
    Bool :=
  match Checked.add region.base region.size with
  | none => false
  | some region_end =>
    match region.ty with
    | .DefaultMemory => !(decide (region.base < self.mem_start) || decide (region_end > self.mem_end))
    | .DeviceMemory | .DAXMemory =>
      !(decide (region.base < self.mem_end) || decide (region_end > self.phys_end))

/-- `AddressSpaceBase`. -/
structure AddressSpaceBase where
  regions : List AddressSpaceRegion
  layout : AddressSpaceLayout
  deriving DecidableEq, Repr

/-- `regions.sort_unstable_by_key(|v| v.base)`. -/
def sort_by_base (regions : List AddressSpaceRegion) : List AddressSpaceRegion :=
  regions.mergeSort fun a b => decide (a.base ≤ b.base)

/-- The second loop of `from_regions`: whether some region intersects the one before it. -/
def adjacent_intersect : List AddressSpaceRegion → Bool
  | a :: b :: rest => b.intersect_with a || adjacent_intersect (b :: rest)
  | _ => false

namespace AddressSpaceBase

/-- `AddressSpaceBase::from_regions`; `none` is its panic. -/
def from_regions (regions : List AddressSpaceRegion) (layout : AddressSpaceLayout) :
    Option AddressSpaceBase :=
  let regions := sort_by_base regions
  if regions.all layout.is_region_valid then
    if adjacent_intersect regions then none else some { regions, layout }
  else none

/-- `AddressSpaceBase::insert_region`. -/
def insert_region (self : AddressSpaceBase) (region : AddressSpaceRegion) :
    Except AddressSpaceError AddressSpaceBase :=
  if !self.layout.is_region_valid region then
    .error (.InvalidAddressRange region.base region.size)
  else if self.regions.any (·.intersect_with region) then
    .error (.InvalidAddressRange region.base region.size)
  else .ok { self with regions := self.regions ++ [region] }

/-- `AddressSpaceBase::last_addr`: the largest last address of a region that is not DAX memory,
and `mem_start` if there is none larger. -/
def last_addr (self : AddressSpaceBase) : UInt64 :=
  self.regions.foldl (fun last reg =>
    if reg.ty ≠ .DAXMemory ∧ reg.last_addr > last then reg.last_addr else last) self.layout.mem_start

/-- `AddressSpaceBase::is_dax_region`. -/
def is_dax_region (self : AddressSpaceBase) (guest_addr : UInt64) : Bool :=
  self.regions.any fun reg => decide (reg.ty = .DAXMemory) && reg.holds guest_addr

/-- `AddressSpaceBase::prot_flags`. -/
def prot_flags (self : AddressSpaceBase) (guest_addr : UInt64) : Except AddressSpaceError Int32 :=
  match self.regions.find? (·.holds guest_addr) with
  | some reg => .ok reg.prot_flags
  | none => .error .InvalidRegionType

/-- `AddressSpaceBase::numa_node_id`. -/
def numa_node_id (self : AddressSpaceBase) (gpa : UInt64) : Option UInt32 :=
  match self.regions.find? (·.holds gpa) with
  | some reg => reg.host_numa_node_id
  | none => none

end AddressSpaceBase

/-- `AddressSpace`: the `AddressSpaceBase` that its `ArcSwap` holds. -/
structure AddressSpace where
  state : AddressSpaceBase
  deriving DecidableEq, Repr

namespace AddressSpace

/-- `AddressSpace::from_regions`. -/
def from_regions (regions : List AddressSpaceRegion) (layout : AddressSpaceLayout) :
    Option AddressSpace :=
  (AddressSpaceBase.from_regions regions layout).map (⟨·⟩)

/-- `AddressSpace::insert_region`: the address space afterwards and the result; `none` is a panic
of the `from_regions` it runs on the current regions first. -/
def insert_region (self : AddressSpace) (region : AddressSpaceRegion) :
    Option (AddressSpace × Except AddressSpaceError Unit) := do
  let base ← AddressSpaceBase.from_regions self.state.regions self.state.layout
  match base.insert_region region with
  | .ok base => pure (⟨base⟩, .ok ())
  | .error e => pure (self, .error e)

end AddressSpace

/-! ## Regions as intervals -/

namespace AddressSpaceRegion

variable {r s : AddressSpaceRegion} {a : Nat}

/-- The exact end of a region, one past its last byte. -/
def end_nat (r : AddressSpaceRegion) : Nat := r.base.toNat + r.size.toNat

/-- A region contains an address. -/
def Contains (r : AddressSpaceRegion) (a : Nat) : Prop := r.base.toNat ≤ a ∧ a < r.end_nat

/-- Two regions apart: both ends fit in 64 bits and one ends before the other starts. -/
def Apart (r s : AddressSpaceRegion) : Prop :=
  r.end_nat < 2 ^ 64 ∧ s.end_nat < 2 ^ 64 ∧ (r.end_nat ≤ s.base.toNat ∨ s.end_nat ≤ r.base.toNat)

theorem intersect_with_eq_false_iff : r.intersect_with s = false ↔ r.Apart s := by
  unfold intersect_with Apart end_nat
  cases hr : Checked.add r.base r.size with
  | none =>
    have := Checked.add_eq_none_iff.mp hr
    simp only [Bool.true_eq_false, false_iff, not_and]
    omega
  | some e₁ =>
    obtain ⟨hr₁, he₁⟩ := Checked.add_eq_some_iff.mp hr
    cases hs : Checked.add s.base s.size with
    | none =>
      have := Checked.add_eq_none_iff.mp hs
      simp only [Bool.true_eq_false, false_iff, not_and]
      omega
    | some e₂ =>
      obtain ⟨hs₁, he₂⟩ := Checked.add_eq_some_iff.mp hs
      simp only [Bool.not_eq_false', Bool.or_eq_true, decide_eq_true_eq, UInt64.le_iff_toNat_le,
        ge_iff_le, he₁, he₂]
      omega

theorem Apart.symm (h : r.Apart s) : s.Apart r :=
  ⟨h.2.1, h.1, h.2.2.symm⟩

theorem intersect_with_comm (r s : AddressSpaceRegion) : r.intersect_with s = s.intersect_with r := by
  cases hrs : r.intersect_with s
  · exact (intersect_with_eq_false_iff.mpr (intersect_with_eq_false_iff.mp hrs).symm).symm
  · cases hsr : s.intersect_with r
    · exact absurd (intersect_with_eq_false_iff.mpr (intersect_with_eq_false_iff.mp hsr).symm)
        (by rw [hrs]; decide)
    · rfl

/-- No address is in two regions apart. -/
theorem Apart.not_contains (h : r.Apart s) (hr : r.Contains a) (hs : s.Contains a) : False := by
  obtain ⟨-, -, h | h⟩ := h <;> unfold Contains at hr hs <;> omega

/-- Where the end of a region fits, the wrapping test of the lookups is containment. -/
theorem holds_iff (hr : r.end_nat < 2 ^ 64) (x : UInt64) : r.holds x = true ↔ r.Contains x.toNat := by
  have hend : (r.base + r.size).toNat = r.end_nat := by
    rw [UInt64.toNat_add]
    exact Nat.mod_eq_of_lt hr
  simp only [holds, Bool.and_eq_true, decide_eq_true_eq, UInt64.le_iff_toNat_le, gt_iff_lt,
    UInt64.lt_iff_toNat_lt, hend, Contains]

/-- The last address of a region of positive size whose end fits. -/
theorem toNat_last_addr (hr : r.end_nat < 2 ^ 64) (hpos : 0 < r.size.toNat) :
    r.last_addr.toNat = r.end_nat - 1 := by
  have hend : (r.base + r.size).toNat = r.end_nat := by
    rw [UInt64.toNat_add]
    exact Nat.mod_eq_of_lt hr
  have hle : (1 : UInt64) ≤ r.base + r.size :=
    UInt64.le_iff_toNat_le.mpr (by rw [hend]; unfold end_nat; simp; omega)
  rw [last_addr, UInt64.toNat_sub_of_le _ _ hle, hend]
  rfl

end AddressSpaceRegion

/-! ## Regions in a layout -/

namespace AddressSpaceLayout

variable {layout : AddressSpaceLayout} {r : AddressSpaceRegion}

/-- Where a region of each type may lie: guest memory in `[mem_start, mem_end)`, device and DAX
memory in `[mem_end, phys_end)`. -/
def InLayout (layout : AddressSpaceLayout) (r : AddressSpaceRegion) : Prop :=
  match r.ty with
  | .DefaultMemory => layout.mem_start.toNat ≤ r.base.toNat ∧ r.end_nat ≤ layout.mem_end.toNat
  | .DeviceMemory | .DAXMemory => layout.mem_end.toNat ≤ r.base.toNat ∧ r.end_nat ≤ layout.phys_end.toNat

theorem is_region_valid_eq_true_iff :
    layout.is_region_valid r = true ↔ r.end_nat < 2 ^ 64 ∧ layout.InLayout r := by
  unfold is_region_valid InLayout AddressSpaceRegion.end_nat
  cases hr : Checked.add r.base r.size with
  | none =>
    have := Checked.add_eq_none_iff.mp hr
    simp only [Bool.false_eq_true, false_iff, not_and]
    omega
  | some e =>
    obtain ⟨hfit, he⟩ := Checked.add_eq_some_iff.mp hr
    cases r.ty <;>
      simp only [Bool.not_eq_true', Bool.or_eq_false_iff, decide_eq_false_iff_not,
        UInt64.not_lt, gt_iff_lt, UInt64.le_iff_toNat_le, he, hfit, true_and]

theorem end_lt_of_is_region_valid (h : layout.is_region_valid r = true) : r.end_nat < 2 ^ 64 :=
  (is_region_valid_eq_true_iff.mp h).1

/-- The region of size zero at the base of a valid region is valid. -/
theorem is_region_valid_size_zero (h : layout.is_region_valid r = true) :
    layout.is_region_valid { r with size := 0 } = true := by
  obtain ⟨hfit, hin⟩ := is_region_valid_eq_true_iff.mp h
  refine is_region_valid_eq_true_iff.mpr ⟨?_, ?_⟩
  · simp only [AddressSpaceRegion.end_nat, UInt64.toNat_zero, Nat.add_zero] at hfit ⊢
    omega
  · rcases r with ⟨ty, base, size, numa, prot⟩
    cases ty <;>
      simp only [InLayout, AddressSpaceRegion.end_nat, UInt64.toNat_zero, Nat.add_zero] at hin ⊢ <;>
      omega

end AddressSpaceLayout

/-! ## `from_regions` -/

section FromRegions

open AddressSpaceRegion

variable {regions l : List AddressSpaceRegion} {layout : AddressSpaceLayout} {b : AddressSpaceBase}

theorem base_le_trans (a b c : AddressSpaceRegion) :
    decide (a.base ≤ b.base) = true → decide (b.base ≤ c.base) = true →
      decide (a.base ≤ c.base) = true := by
  simp only [decide_eq_true_eq]
  exact UInt64.le_trans

theorem base_le_total (a b : AddressSpaceRegion) :
    (decide (a.base ≤ b.base) || decide (b.base ≤ a.base)) = true := by
  simp only [Bool.or_eq_true, decide_eq_true_eq]
  exact UInt64.le_total a.base b.base

theorem sort_by_base_perm (regions : List AddressSpaceRegion) : (sort_by_base regions).Perm regions :=
  List.mergeSort_perm _ _

theorem sort_by_base_sorted (regions : List AddressSpaceRegion) :
    (sort_by_base regions).Pairwise fun a b => a.base ≤ b.base := by
  have h := List.pairwise_mergeSort base_le_trans base_le_total regions
  simpa only [sort_by_base, decide_eq_true_eq] using h

theorem adjacent_intersect_eq_false_iff :
    ∀ l : List AddressSpaceRegion,
      adjacent_intersect l = false ↔ l.IsChain fun a b => b.intersect_with a = false
  | [] => by simp [adjacent_intersect]
  | [a] => by simp [adjacent_intersect]
  | a :: b :: rest => by
    rw [adjacent_intersect, Bool.or_eq_false_iff, List.isChain_cons_cons,
      adjacent_intersect_eq_false_iff (b :: rest)]

theorem from_regions_eq_some_iff :
    AddressSpaceBase.from_regions regions layout = some b ↔
      (∀ r ∈ regions, layout.is_region_valid r = true) ∧
        adjacent_intersect (sort_by_base regions) = false ∧ b = ⟨sort_by_base regions, layout⟩ := by
  have hmem : ∀ r, r ∈ sort_by_base regions ↔ r ∈ regions := fun r => (sort_by_base_perm regions).mem_iff
  unfold AddressSpaceBase.from_regions
  dsimp only
  split_ifs with hvalid hadj
  · -- a region intersects its neighbour: the panic
    simp only [false_iff, not_and]
    intro _ h
    rw [h] at hadj
    contradiction
  · have hv : ∀ r ∈ regions, layout.is_region_valid r = true := fun r hr =>
      List.all_eq_true.mp hvalid r ((hmem r).mpr hr)
    have ha : adjacent_intersect (sort_by_base regions) = false := by
      rw [← Bool.not_eq_true]
      exact hadj
    rw [Option.some.injEq]
    constructor
    · rintro rfl
      exact ⟨hv, ha, rfl⟩
    · rintro ⟨-, -, rfl⟩
      rfl
  · -- an invalid region: the panic
    simp only [false_iff, not_and]
    intro h
    exact absurd (List.all_eq_true.mpr fun r hr => h r ((hmem r).mp hr)) hvalid

/-- In a list sorted by base, a region of positive size that does not intersect the one before
it starts after the end of that one. -/
theorem end_le_base_of_adjacent {p q : AddressSpaceRegion} (hle : p.base ≤ q.base)
    (hpos : 0 < q.size.toNat) (h : q.intersect_with p = false) : p.end_nat ≤ q.base.toNat := by
  obtain ⟨-, -, h | h⟩ := intersect_with_eq_false_iff.mp h
  · have := UInt64.le_iff_toNat_le.mp hle
    unfold end_nat at h
    omega
  · exact h

/-- In a list sorted by base, the first base is the least. -/
theorem head_base_le {c : AddressSpaceRegion} {rest : List AddressSpaceRegion}
    (h : (c :: rest).Pairwise fun a b => a.base ≤ b.base) :
    ∀ d ∈ c :: rest, c.base.toNat ≤ d.base.toNat := by
  intro d hd
  rcases List.mem_cons.mp hd with rfl | hd
  · exact Nat.le_refl _
  · exact UInt64.le_iff_toNat_le.mp ((List.pairwise_cons.mp h).1 d hd)

/-- Checking neighbours is enough on a list sorted by base whose regions have positive sizes and
fitting ends: every region ends before each later one starts. -/
theorem pairwise_apart_of_isChain :
    ∀ {l : List AddressSpaceRegion}, l.Pairwise (fun a b => a.base ≤ b.base) →
      (∀ r ∈ l, 0 < r.size.toNat) → (∀ r ∈ l, r.end_nat < 2 ^ 64) →
      l.IsChain (fun a b => b.intersect_with a = false) → l.Pairwise Apart
  | [], _, _, _, _ => List.Pairwise.nil
  | [_], _, _, _, _ => List.pairwise_singleton _ _
  | a :: c :: rest, hsorted, hpos, hfit, hchain => by
    obtain ⟨hac, hchain'⟩ := List.isChain_cons_cons.mp hchain
    have hsorted' := List.pairwise_cons.mp hsorted
    -- the region after `a` starts after `a` ends, and every later one starts later still
    have hend : a.end_nat ≤ c.base.toNat :=
      end_le_base_of_adjacent (hsorted'.1 c List.mem_cons_self)
        (hpos c (List.mem_cons_of_mem _ List.mem_cons_self)) hac
    have hc := head_base_le hsorted'.2
    refine List.pairwise_cons.mpr ⟨fun d hd => ⟨hfit a List.mem_cons_self,
      hfit d (List.mem_cons_of_mem _ hd), .inl (Nat.le_trans hend (hc d hd))⟩, ?_⟩
    exact pairwise_apart_of_isChain hsorted'.2 (fun r hr => hpos r (List.mem_cons_of_mem _ hr))
      (fun r hr => hfit r (List.mem_cons_of_mem _ hr)) hchain'

/-- On a list sorted by base whose regions have positive sizes, neighbours that do not intersect
make the bases strictly increasing. -/
theorem base_lt_of_isChain :
    ∀ {l : List AddressSpaceRegion}, l.Pairwise (fun a b => a.base ≤ b.base) →
      (∀ r ∈ l, 0 < r.size.toNat) → l.IsChain (fun a b => b.intersect_with a = false) →
      l.Pairwise fun a b => a.base < b.base
  | [], _, _, _ => List.Pairwise.nil
  | [_], _, _, _ => List.pairwise_singleton _ _
  | a :: c :: rest, hsorted, hpos, hchain => by
    obtain ⟨hac, hchain'⟩ := List.isChain_cons_cons.mp hchain
    have hsorted' := List.pairwise_cons.mp hsorted
    -- `a` is not empty and ends before `c` starts, and every later region starts later still
    have hend : a.end_nat ≤ c.base.toNat :=
      end_le_base_of_adjacent (hsorted'.1 c List.mem_cons_self)
        (hpos c (List.mem_cons_of_mem _ List.mem_cons_self)) hac
    have ha := hpos a List.mem_cons_self
    have hc := head_base_le hsorted'.2
    refine List.pairwise_cons.mpr ⟨fun d hd => ?_, base_lt_of_isChain hsorted'.2
      (fun r hr => hpos r (List.mem_cons_of_mem _ hr)) hchain'⟩
    have hcd := hc d hd
    unfold end_nat at hend
    exact UInt64.lt_iff_toNat_lt.mpr (by omega)

/-- `sort_unstable_by_key` sorts a slice of more than 20 elements unstably, so regions of equal
base may come out of it in another order than that of `sort_by_base`. Where `from_regions`
succeeds on regions of positive size this makes no difference: the bases are distinct, and
`sort_by_base regions` is the one list sorted by base of those regions. -/
theorem eq_sort_by_base_of_from_regions {l : List AddressSpaceRegion}
    (hpos : ∀ r ∈ regions, 0 < r.size.toNat)
    (hok : (AddressSpaceBase.from_regions regions layout).isSome) (hperm : l.Perm regions)
    (hsorted : l.Pairwise fun a b => a.base ≤ b.base) : l = sort_by_base regions := by
  obtain ⟨b, hb⟩ := Option.isSome_iff_exists.mp hok
  obtain ⟨-, hadj, -⟩ := from_regions_eq_some_iff.mp hb
  have hsort := sort_by_base_perm regions
  have hstrict : (sort_by_base regions).Pairwise fun a b => a.base < b.base :=
    base_lt_of_isChain (sort_by_base_sorted regions) (fun r hr => hpos r (hsort.mem_iff.mp hr))
      ((adjacent_intersect_eq_false_iff _).mp hadj)
  -- the bases are distinct in `l` too, so its order by base is strict
  have hne : l.Pairwise fun a b => a.base ≠ b.base :=
    (hstrict.imp UInt64.ne_of_lt).perm (hsort.trans hperm.symm) Ne.symm
  have hlt : l.Pairwise fun a b => a.base < b.base :=
    (hsorted.and hne).imp fun h => UInt64.lt_of_le_of_ne h.1 h.2
  exact List.Perm.eq_of_pairwise (fun _ _ _ _ hab hba => absurd hba (UInt64.lt_asymm hab))
    hlt hstrict (hperm.trans hsort.symm)

/-- Regions that pairwise do not intersect pass the neighbour check in any order. -/
theorem adjacent_intersect_eq_false_of_pairwise
    (h : l.Pairwise fun r s => r.intersect_with s = false) : adjacent_intersect l = false := by
  refine (adjacent_intersect_eq_false_iff l).mpr (List.Pairwise.isChain ?_)
  exact h.imp fun hrs => (intersect_with_comm _ _).trans hrs

/-- On regions of positive size, `from_regions` panics exactly when some region is invalid or two
of them intersect. -/
theorem from_regions_isSome_iff (hpos : ∀ r ∈ regions, 0 < r.size.toNat) :
    (AddressSpaceBase.from_regions regions layout).isSome ↔
      (∀ r ∈ regions, layout.is_region_valid r = true) ∧
        regions.Pairwise fun r s => r.intersect_with s = false := by
  have hperm := sort_by_base_perm regions
  have hsymm : ∀ {r s : AddressSpaceRegion}, r.intersect_with s = false → s.intersect_with r = false :=
    fun h => (intersect_with_comm _ _).trans h
  constructor
  · intro h
    obtain ⟨b, hb⟩ := Option.isSome_iff_exists.mp h
    obtain ⟨hvalid, hadj, -⟩ := from_regions_eq_some_iff.mp hb
    refine ⟨hvalid, (hperm.pairwise_iff hsymm).mp ?_⟩
    have hapart := pairwise_apart_of_isChain (sort_by_base_sorted regions)
      (fun r hr => hpos r (hperm.mem_iff.mp hr))
      (fun r hr => AddressSpaceLayout.end_lt_of_is_region_valid (hvalid r (hperm.mem_iff.mp hr)))
      ((adjacent_intersect_eq_false_iff _).mp hadj)
    exact hapart.imp fun h => intersect_with_eq_false_iff.mpr h
  · rintro ⟨hvalid, hdisj⟩
    have hadj := adjacent_intersect_eq_false_of_pairwise ((hperm.pairwise_iff hsymm).mpr hdisj)
    rw [Option.isSome_iff_exists]
    exact ⟨_, from_regions_eq_some_iff.mpr ⟨hvalid, hadj, rfl⟩⟩

/-- A region of size zero at the base of another hides that region from the one after it: the
neighbour check passes whether or not the first and the last intersect. -/
theorem from_regions_zero_size_between {A C : AddressSpaceRegion}
    (hA : layout.is_region_valid A = true) (hC : layout.is_region_valid C = true)
    (hle : A.base ≤ C.base) :
    AddressSpaceBase.from_regions [A, { A with size := 0 }, C] layout =
      some ⟨[A, { A with size := 0 }, C], layout⟩ := by
  have hsorted : [A, { A with size := 0 }, C].Pairwise fun a b => decide (a.base ≤ b.base) = true := by
    refine List.pairwise_cons.mpr ⟨fun d hd => ?_, List.pairwise_pair.mpr (decide_eq_true hle)⟩
    rcases List.mem_pair.mp hd with rfl | rfl
    · exact decide_eq_true (UInt64.le_refl _)
    · exact decide_eq_true hle
  have hsort : sort_by_base [A, { A with size := 0 }, C] = [A, { A with size := 0 }, C] :=
    List.mergeSort_eq_self_of_pairwise base_le_trans base_le_total hsorted
  have hfitA := AddressSpaceLayout.end_lt_of_is_region_valid hA
  have hfitC := AddressSpaceLayout.end_lt_of_is_region_valid hC
  have hbase : A.base.toNat ≤ C.base.toNat := UInt64.le_iff_toNat_le.mp hle
  -- the zero-size region is apart from both neighbours
  have hZA : ({ A with size := 0 } : AddressSpaceRegion).intersect_with A = false :=
    intersect_with_eq_false_iff.mpr
      ⟨by simp only [end_nat] at hfitA ⊢; simp; omega, hfitA, .inl (by simp [end_nat])⟩
  have hCZ : C.intersect_with { A with size := 0 } = false :=
    intersect_with_eq_false_iff.mpr
      ⟨hfitC, by simp only [end_nat] at hfitA ⊢; simp; omega, .inr (by simp [end_nat, hbase])⟩
  refine from_regions_eq_some_iff.mpr ⟨?_, ?_, by rw [hsort]⟩
  · simp only [List.mem_cons, List.not_mem_nil, or_false]
    rintro r (rfl | rfl | rfl)
    · exact hA
    · exact AddressSpaceLayout.is_region_valid_size_zero hA
    · exact hC
  · rw [hsort, adjacent_intersect_eq_false_iff, List.isChain_cons_cons, List.isChain_cons_cons]
    exact ⟨hZA, hCZ, .singleton C⟩

end FromRegions

/-! ## Well-formed address spaces -/

namespace AddressSpaceBase

open AddressSpaceRegion

/-- What `from_regions` is meant to ensure: every region valid for the layout, and no two
intersecting. -/
structure WellFormed (b : AddressSpaceBase) : Prop where
  valid : ∀ r ∈ b.regions, b.layout.is_region_valid r = true
  disjoint : b.regions.Pairwise fun r s => r.intersect_with s = false

variable {b b' : AddressSpaceBase} {regions : List AddressSpaceRegion} {layout : AddressSpaceLayout}
  {r s : AddressSpaceRegion} {x : UInt64}

theorem wellFormed_of_from_regions (hpos : ∀ r ∈ regions, 0 < r.size.toNat)
    (h : from_regions regions layout = some b) : b.WellFormed := by
  obtain ⟨hvalid, hdisj⟩ :=
    (from_regions_isSome_iff hpos).mp (Option.isSome_iff_exists.mpr ⟨b, h⟩)
  obtain ⟨-, -, rfl⟩ := from_regions_eq_some_iff.mp h
  have hperm := sort_by_base_perm regions
  exact ⟨fun r hr => hvalid r (hperm.mem_iff.mp hr),
    hperm.symm.pairwise hdisj fun h => (intersect_with_comm _ _).trans h⟩

/-- `from_regions` on the regions of a well-formed address space does not panic, and sorts them. -/
theorem from_regions_of_wellFormed (h : b.WellFormed) :
    from_regions b.regions b.layout = some ⟨sort_by_base b.regions, b.layout⟩ ∧
      (⟨sort_by_base b.regions, b.layout⟩ : AddressSpaceBase).WellFormed := by
  have hperm := sort_by_base_perm b.regions
  have hsymm : ∀ {r s : AddressSpaceRegion}, r.intersect_with s = false → s.intersect_with r = false :=
    fun h => (intersect_with_comm _ _).trans h
  have hdisj := hperm.symm.pairwise h.disjoint hsymm
  refine ⟨from_regions_eq_some_iff.mpr ⟨h.valid, adjacent_intersect_eq_false_of_pairwise hdisj, rfl⟩,
    fun r hr => h.valid r (hperm.mem_iff.mp hr), hdisj⟩

theorem insert_region_eq_ok_iff :
    b.insert_region r = .ok b' ↔ b.layout.is_region_valid r = true ∧
      (∀ s ∈ b.regions, s.intersect_with r = false) ∧ b' = { b with regions := b.regions ++ [r] } := by
  unfold insert_region
  split_ifs with hvalid hany
  · simp only [false_iff, not_and]
    intro h
    simp [h] at hvalid
  · simp only [false_iff, not_and]
    intro _ hall
    obtain ⟨s, hs, hsr⟩ := List.any_eq_true.mp hany
    rw [hall s hs] at hsr
    contradiction
  · simp only [Bool.not_eq_true', Bool.not_eq_false] at hvalid
    have hall : ∀ s ∈ b.regions, s.intersect_with r = false := by
      simpa only [List.any_eq_true, not_exists, not_and, Bool.not_eq_true] using hany
    rw [Except.ok.injEq]
    constructor
    · rintro rfl
      exact ⟨hvalid, hall, rfl⟩
    · rintro ⟨-, -, rfl⟩
      rfl

theorem insert_region_eq_error_iff {e : AddressSpaceError} :
    b.insert_region r = .error e ↔
      (b.layout.is_region_valid r = false ∨ ∃ s ∈ b.regions, s.intersect_with r = true) ∧
        e = .InvalidAddressRange r.base r.size := by
  unfold insert_region
  split_ifs with hvalid hany
  · -- an invalid region
    simp only [Bool.not_eq_true'] at hvalid
    rw [Except.error.injEq]
    constructor
    · rintro rfl
      exact ⟨.inl hvalid, rfl⟩
    · rintro ⟨-, rfl⟩
      rfl
  · -- a region it intersects
    rw [Except.error.injEq]
    constructor
    · rintro rfl
      exact ⟨.inr (List.any_eq_true.mp hany), rfl⟩
    · rintro ⟨-, rfl⟩
      rfl
  · simp only [Bool.not_eq_true', Bool.not_eq_false] at hvalid
    simp only [List.any_eq_true, not_exists, not_and, Bool.not_eq_true] at hany
    simp only [false_iff, not_and]
    rintro (h | ⟨s, hs, hsr⟩)
    · rw [hvalid] at h
      contradiction
    · rw [hany s hs] at hsr
      contradiction

/-- `insert_region` compares the new region with every region, so it keeps an address space
well-formed, whatever the size of the new region. -/
theorem insert_region_wellFormed (h : b.WellFormed) (hi : b.insert_region r = .ok b') :
    b'.WellFormed := by
  obtain ⟨hvalid, hall, rfl⟩ := insert_region_eq_ok_iff.mp hi
  refine ⟨fun s hs => ?_, ?_⟩
  · rcases List.mem_append.mp hs with hs | hs
    · exact h.valid s hs
    · rw [List.mem_singleton.mp hs]
      exact hvalid
  · exact List.pairwise_append.mpr ⟨h.disjoint, List.pairwise_singleton _ _,
      fun s hs t ht => (List.mem_singleton.mp ht) ▸ hall s hs⟩

/-! ### The lookups -/

/-- In a well-formed address space, two regions that hold one address are the same region. -/
theorem WellFormed.eq_of_holds (h : b.WellFormed) (hr : r ∈ b.regions) (hs : s ∈ b.regions)
    (hrx : r.holds x = true) (hsx : s.holds x = true) : s = r := by
  have hfit : ∀ t ∈ b.regions, t.end_nat < 2 ^ 64 := fun t ht =>
    AddressSpaceLayout.end_lt_of_is_region_valid (h.valid t ht)
  by_contra hne
  have hsr : s.intersect_with r = false := by
    rcases h.disjoint.rel_or_rel hs hr hne with hsr | hrs
    · exact hsr
    · exact (intersect_with_comm _ _).trans hrs
  exact (intersect_with_eq_false_iff.mp hsr).not_contains ((holds_iff (hfit s hs) x).mp hsx)
    ((holds_iff (hfit r hr) x).mp hrx)

/-- In a well-formed address space, the lookups answer for the one region that holds the
address. -/
theorem lookups_of_mem (h : b.WellFormed) (hr : r ∈ b.regions) (hx : r.holds x = true) :
    b.prot_flags x = .ok r.prot_flags ∧ b.numa_node_id x = r.host_numa_node_id ∧
      b.is_dax_region x = decide (r.ty = .DAXMemory) := by
  have hfind : b.regions.find? (·.holds x) = some r := by
    cases hf : b.regions.find? (·.holds x) with
    | none => exact absurd hx (by simpa using List.find?_eq_none.mp hf r hr)
    | some s =>
      have hsx := List.find?_some hf
      rw [h.eq_of_holds hr (List.mem_of_find?_eq_some hf) hx hsx]
  refine ⟨by rw [prot_flags, hfind], by rw [numa_node_id, hfind], ?_⟩
  rw [is_dax_region, Bool.eq_iff_iff, List.any_eq_true]
  constructor
  · rintro ⟨s, hs, hsx⟩
    rw [Bool.and_eq_true] at hsx
    rw [← h.eq_of_holds hr hs hx hsx.2]
    exact hsx.1
  · intro hdax
    exact ⟨r, hr, by rw [hdax, hx]; rfl⟩

/-- An address that no region holds has no protection flags, no NUMA node and no DAX region. -/
theorem lookups_of_not_holds (hx : ∀ r ∈ b.regions, r.holds x = false) :
    b.prot_flags x = .error .InvalidRegionType ∧ b.numa_node_id x = none ∧
      b.is_dax_region x = false := by
  have hfind : b.regions.find? (·.holds x) = none :=
    List.find?_eq_none.mpr fun r hr => by simp [hx r hr]
  refine ⟨by rw [prot_flags, hfind], by rw [numa_node_id, hfind], ?_⟩
  rw [is_dax_region, List.any_eq_false]
  intro r hr
  simp [hx r hr]

/-! ### `last_addr` -/

/-- The loop of `last_addr` from any start: it ends at the start or at the last address of a
region that is not DAX memory, and at or above the start and every such region's last address. -/
theorem last_addr_loop (l : List AddressSpaceRegion) (start : UInt64) :
    let last := l.foldl (fun last reg =>
      if reg.ty ≠ .DAXMemory ∧ reg.last_addr > last then reg.last_addr else last) start
    start ≤ last ∧ (∀ r ∈ l, r.ty ≠ .DAXMemory → r.last_addr ≤ last) ∧
      (last = start ∨ ∃ r ∈ l, r.ty ≠ .DAXMemory ∧ last = r.last_addr) := by
  induction l generalizing start with
  | nil => exact ⟨UInt64.le_refl _, nofun, .inl rfl⟩
  | cons reg l ih =>
    simp only [List.foldl_cons]
    split_ifs with hreg
    · -- a higher last address of a region that is not DAX memory
      obtain ⟨hle, hall, hlast⟩ := ih reg.last_addr
      refine ⟨UInt64.le_trans (UInt64.le_of_lt hreg.2) hle, ?_, ?_⟩
      · intro r hr hty
        rcases List.mem_cons.mp hr with rfl | hr
        · exact hle
        · exact hall r hr hty
      · rcases hlast with h | ⟨r, hr, hty, h⟩
        · exact .inr ⟨reg, List.mem_cons_self, hreg.1, h⟩
        · exact .inr ⟨r, List.mem_cons_of_mem _ hr, hty, h⟩
    · obtain ⟨hle, hall, hlast⟩ := ih start
      refine ⟨hle, ?_, ?_⟩
      · intro r hr hty
        rcases List.mem_cons.mp hr with rfl | hr
        · exact UInt64.le_trans (UInt64.not_lt.mp fun h => hreg ⟨hty, h⟩) hle
        · exact hall r hr hty
      · rcases hlast with h | ⟨r, hr, hty, h⟩
        · exact .inl h
        · exact .inr ⟨r, List.mem_cons_of_mem _ hr, hty, h⟩

/-- `last_addr` is the largest of `mem_start` and the last addresses of the regions that are not
DAX memory. -/
theorem last_addr_spec (b : AddressSpaceBase) :
    b.layout.mem_start ≤ b.last_addr ∧
      (∀ r ∈ b.regions, r.ty ≠ .DAXMemory → r.last_addr ≤ b.last_addr) ∧
      (b.last_addr = b.layout.mem_start ∨
        ∃ r ∈ b.regions, r.ty ≠ .DAXMemory ∧ b.last_addr = r.last_addr) :=
  last_addr_loop b.regions b.layout.mem_start

end AddressSpaceBase

/-! ## Runs of an address space -/

namespace AddressSpace

open AddressSpaceBase

variable {a : AddressSpace} {r : AddressSpaceRegion}

/-- `insert_region` on a well-formed address space does not panic; it fails exactly on an invalid
region or one that intersects a region of the space, and then leaves the space as it was. -/
theorem insert_region_of_wellFormed (h : a.state.WellFormed) :
    ∃ a' res, a.insert_region r = some (a', res) ∧ a'.state.WellFormed ∧
      (res = .ok () ↔ a.state.layout.is_region_valid r = true ∧
        ∀ s ∈ a.state.regions, s.intersect_with r = false) ∧
      (res ≠ .ok () → a' = a) := by
  obtain ⟨hfrom, hwf⟩ := from_regions_of_wellFormed h
  have hmem : ∀ s, s ∈ sort_by_base a.state.regions ↔ s ∈ a.state.regions := fun s =>
    (sort_by_base_perm _).mem_iff
  unfold insert_region
  rw [hfrom]
  cases hi : (⟨sort_by_base a.state.regions, a.state.layout⟩ : AddressSpaceBase).insert_region r with
  | ok base =>
    obtain ⟨hvalid, hall, -⟩ := insert_region_eq_ok_iff.mp hi
    refine ⟨⟨base⟩, .ok (), by simp only [Option.bind_eq_bind, Option.bind_some, hi]; rfl,
      insert_region_wellFormed hwf hi, ⟨fun _ => ⟨hvalid, fun s hs => hall s ((hmem s).mpr hs)⟩,
        fun _ => rfl⟩, fun hne => absurd rfl hne⟩
  | error e =>
    obtain ⟨hbad, -⟩ := insert_region_eq_error_iff.mp hi
    refine ⟨a, .error e, by simp only [Option.bind_eq_bind, Option.bind_some, hi]; rfl, h, ⟨nofun, ?_⟩,
      fun _ => rfl⟩
    rintro ⟨hvalid, hall⟩
    rcases hbad with hb | ⟨s, hs, hsr⟩
    · rw [hvalid] at hb
      contradiction
    · rw [hall s ((hmem s).mp hs)] at hsr
      contradiction

/-- A successful insert into a well-formed address space adds the region and keeps the layout. -/
theorem insert_region_ok_regions (h : a.state.WellFormed) {a' : AddressSpace}
    (hi : a.insert_region r = some (a', .ok ())) :
    a'.state.layout = a.state.layout ∧ ∀ s, s ∈ a'.state.regions ↔ s ∈ a.state.regions ∨ s = r := by
  obtain ⟨hfrom, -⟩ := from_regions_of_wellFormed h
  unfold insert_region at hi
  rw [hfrom] at hi
  cases hb : (⟨sort_by_base a.state.regions, a.state.layout⟩ : AddressSpaceBase).insert_region r with
  | ok base =>
    obtain ⟨-, -, rfl⟩ := insert_region_eq_ok_iff.mp hb
    simp only [Option.bind_eq_bind, Option.bind_some, hb] at hi
    cases hi
    refine ⟨rfl, fun s => ?_⟩
    rw [List.mem_append, (sort_by_base_perm _).mem_iff, List.mem_singleton]
  | error e =>
    simp only [Option.bind_eq_bind, Option.bind_some, hb] at hi
    cases hi

/-- One call of `insert_region`; `none` is an address space whose thread has panicked. -/
def step (s : Option AddressSpace) (region : AddressSpaceRegion) : Option AddressSpace :=
  s.bind fun a => (a.insert_region region).map Prod.fst

/-- The address spaces `from_regions` builds from regions of positive size. -/
def Made (s : Option AddressSpace) : Prop :=
  ∃ regions layout, (∀ r ∈ regions, 0 < r.size.toNat) ∧ from_regions regions layout = s

/-- Every address space that inserts reach from one built of regions of positive size is
well-formed. -/
theorem reachable_wellFormed {s : Option AddressSpace} (h : Transition.Reachable Made step s) :
    ∀ a, s = some a → a.state.WellFormed := by
  refine h.invariant (I := fun s => ∀ a, s = some a → a.state.WellFormed)
    (fun s hs => ?_) (fun s region hs => ?_)
  · obtain ⟨regions, layout, hpos, rfl⟩ := hs
    intro a ha
    obtain ⟨base, hbase, rfl⟩ := Option.map_eq_some_iff.mp ha
    exact wellFormed_of_from_regions hpos hbase
  · intro a' ha'
    obtain ⟨a, rfl, ha⟩ := Option.bind_eq_some_iff.mp ha'
    obtain ⟨a'', res, hins, hwf, -, -⟩ := insert_region_of_wellFormed (r := region) (hs a rfl)
    rw [hins] at ha
    cases ha
    exact hwf

end AddressSpace

open AddressSpaceBase in
theorem from_regions_checks_only_neighbours :
    (∀ (regions : List AddressSpaceRegion) (layout : AddressSpaceLayout),
      (∀ r ∈ regions, 0 < r.size.toNat) →
      ((AddressSpace.from_regions regions layout).isSome ↔
        (∀ r ∈ regions, layout.is_region_valid r = true) ∧
          regions.Pairwise fun r s => r.intersect_with s = false)) ∧
    (∀ (layout : AddressSpaceLayout) (A C : AddressSpaceRegion),
      layout.is_region_valid A = true → layout.is_region_valid C = true → A.base ≤ C.base →
      AddressSpace.from_regions [A, { A with size := 0 }, C] layout =
        some ⟨⟨[A, { A with size := 0 }, C], layout⟩⟩) ∧
    (∀ s, Transition.Reachable AddressSpace.Made AddressSpace.step s → ∀ a, s = some a →
      a.state.WellFormed ∧ ∀ r ∈ a.state.regions, ∀ x, r.holds x = true →
        a.state.prot_flags x = .ok r.prot_flags ∧ a.state.numa_node_id x = r.host_numa_node_id ∧
          a.state.is_dax_region x = decide (r.ty = .DAXMemory)) := by
  refine ⟨fun regions layout hpos => ?_, fun layout A C hA hC hle => ?_, fun s hs a ha => ?_⟩
  · rw [AddressSpace.from_regions, Option.isSome_map]
    exact from_regions_isSome_iff hpos
  · rw [AddressSpace.from_regions, from_regions_zero_size_between hA hC hle]
    rfl
  · have hwf := AddressSpace.reachable_wellFormed hs a ha
    exact ⟨hwf, fun r hr x hx => lookups_of_mem hwf hr hx⟩

/-- Regions `[0, 100)` and `[50, 60)` intersect, yet with an empty region at `0` between them
`from_regions` accepts them, and `prot_flags` answers `55` with the flags of the first although
the second holds `55` too. -/
theorem from_regions_checks_only_neighbours_at_zero_size :
    AddressSpace.from_regions
        [⟨.DefaultMemory, 0, 100, none, 1⟩, ⟨.DefaultMemory, 0, 0, none, 1⟩,
          ⟨.DefaultMemory, 50, 10, none, 2⟩] ⟨4096, 0, 4096⟩ =
      some ⟨⟨[⟨.DefaultMemory, 0, 100, none, 1⟩, ⟨.DefaultMemory, 0, 0, none, 1⟩,
        ⟨.DefaultMemory, 50, 10, none, 2⟩], ⟨4096, 0, 4096⟩⟩⟩ ∧
    AddressSpaceRegion.intersect_with ⟨.DefaultMemory, 0, 100, none, 1⟩
      ⟨.DefaultMemory, 50, 10, none, 2⟩ = true ∧
    AddressSpaceBase.prot_flags ⟨[⟨.DefaultMemory, 0, 100, none, 1⟩, ⟨.DefaultMemory, 0, 0, none, 1⟩,
      ⟨.DefaultMemory, 50, 10, none, 2⟩], ⟨4096, 0, 4096⟩⟩ 55 = .ok 1 ∧
    AddressSpaceRegion.holds ⟨.DefaultMemory, 50, 10, none, 2⟩ 55 = true :=
  ⟨from_regions_checks_only_neighbours.2.1 ⟨4096, 0, 4096⟩ ⟨.DefaultMemory, 0, 100, none, 1⟩
    ⟨.DefaultMemory, 50, 10, none, 2⟩ (by decide) (by decide) (by decide), by decide, rfl, by decide⟩

end KataContainers.Dragonball
