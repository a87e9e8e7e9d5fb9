import KataContainers.Runtime.SandboxResources
import KataContainers.Rustjail.Cgroups

/-!
# The vCPUs a sandbox needs, three ways

Model of the three places that size a sandbox's vCPUs from its containers' CPU resources:
`CpuResource::calc_cpu_resources` of runtime-rs (`src/runtime-rs/crates/resource/src/cpu_mem/cpu.rs`)
rounds each container's share up to whole vCPUs and adds them; `LinuxSandboxCpuResources::get_vcpus`
of kata-types (`src/libs/kata-types/src/cpu.rs`), after `merge` of every container, adds the
milliseconds and rounds once; and the Go runtime's `calculateSandboxCPUs`
(`SandboxResources.calculateSandboxCPUs`). A container's resources come from the OCI `LinuxCpu`
by `LinuxContainerCpuResources::try_from`, which reads the CPU and NUMA node lists with
`U32Set::from_str`; a `U32Set`, a sorted `Vec<u32>` without repeats, is a `Finset`.

Containers that each ask for part of a vCPU, at most one between them, get a vCPU each from
`calc_cpu_resources` and one in all from the merged resources (`fractional_rounding`). Without
quotas `calc_cpu_resources` counts the union of the CPU sets (`calc_cpu_resources_unconstrained`)
where the Go runtime adds their sizes, and the Go runtime returns `0` with no error for a CPU list
it cannot parse, where `try_from` fails (`try_from_error`). `vcpu_sizing_disagrees` puts these
together. The Go runtime computes in `float32`, which the model reads as exact rationals; for the
count of CPUs that is exact up to `2 ^ 24`, where `vcpu_sizing_disagrees` states it.
-/

namespace KataContainers.Runtime.CpuResources

open Rustjail.Cgroups (LinuxCpu u64_max)
open SandboxResources

/-- `kata_types::Error`. -/
inductive KataError
  /-- `"invalid list {0}"` -/
  | InvalidList (list : String)
  deriving DecidableEq, Repr

/-- `kata_types::cpu::Error`. -/
inductive Error
  /-- `"Invalid CPU list: {0}"` -/
  | InvalidCpuSet (e : KataError)
  /-- `"Invalid NUMA memory node list: {0}"` -/
  | InvalidNodeSet (e : KataError)
  deriving DecidableEq, Repr

/-- `str::parse::<u32>`: an optional `+` and at least one decimal digit, below `2 ^ 32`. -/
def parse_u32 (s : List Char) : Option Nat :=
  let ds :=
    match s with
    | '+' :: ds => ds
    | ds => ds
  if ds.isEmpty || !ds.all Char.isDigit then none
  else
    let n := ds.foldl (fun n d => 10 * n + digitValue d) 0
    if n < 2 ^ 32 then some n else none

/-- `U32Set::from_str`: a comma-separated list of ids and of ranges `start-end` with
`start < end`. -/
def U32Set.from_str (cpus_str : String) : Except KataError (Finset Nat) :=
  if cpus_str.isEmpty then .ok ∅
  else
    (cpus_str.toList.splitOn ',').foldlM (fun cpus split_cpu =>
      if !split_cpu.contains '-' then
        if !split_cpu.isEmpty then
          match parse_u32 split_cpu with
          | some cpu_id => .ok (insert cpu_id cpus)
          | none => .error (.InvalidList cpus_str)
        else .error (.InvalidList cpus_str)
      else
        match split_cpu.splitOn '-' with
        | [s, e] =>
          match parse_u32 s, parse_u32 e with
          | some start, some stop =>
            if start < stop then .ok (cpus ∪ Finset.Icc start stop)
            else .error (.InvalidList cpus_str)
          | _, _ => .error (.InvalidList cpus_str)
        | _ => .error (.InvalidList cpus_str)) ∅

/-- `saturating_add` of `u64`. -/
def saturating_add (a b : UInt64) : UInt64 := if a.toNat + b.toNat < 2 ^ 64 then a + b else u64_max

/-- `saturating_mul` of `u64`. -/
def saturating_mul (a b : UInt64) : UInt64 := if a.toNat * b.toNat < 2 ^ 64 then a * b else u64_max

/-! ## kata-types -/

/-- Assigned CPU resources for a Linux container. -/
structure LinuxContainerCpuResources where
  shares : UInt64
  period : UInt64
  quota : Int64
  cpuset : Finset Nat
  nodeset : Finset Nat
  calculated_vcpu_time_ms : Option UInt64
  deriving DecidableEq

/-- Get number of vCPUs to fulfill the CPU resource request, `None` means unconstrained. -/
def LinuxContainerCpuResources.get_vcpus (r : LinuxContainerCpuResources) : Option UInt64 :=
  r.calculated_vcpu_time_ms.map fun v => saturating_add v 999 / 1000

/-- `TryFrom<&LinuxCpu> for LinuxContainerCpuResources` -/
def LinuxContainerCpuResources.try_from (value : LinuxCpu) :
    Except Error LinuxContainerCpuResources := do
  let period := value.period.getD 0
  let quota := value.quota.getD (-1)
  let cpuset ← (U32Set.from_str value.cpus).mapError .InvalidCpuSet
  let nodeset ← (U32Set.from_str value.mems).mapError .InvalidNodeSet
  -- If quota is -1, it means the CPU resource request is unconstrained.
  let milli_sec :=
    if quota ≥ 0 ∧ period ≠ 0 then some (saturating_mul quota.toUInt64 1000 / period) else none
  return ⟨value.shares.getD 0, period, quota, cpuset, nodeset, milli_sec⟩

/-- Assigned CPU resources for a Linux sandbox/pod. -/
structure LinuxSandboxCpuResources where
  shares : UInt64
  calculated_vcpu_time_ms : UInt64
  cpuset : Finset Nat
  nodeset : Finset Nat
  deriving DecidableEq

namespace LinuxSandboxCpuResources

def new (shares : UInt64) : LinuxSandboxCpuResources := ⟨shares, 0, ∅, ∅⟩

/-- Get number of vCPUs to fulfill the CPU resource request. -/
def get_vcpus (r : LinuxSandboxCpuResources) : UInt64 :=
  if r.calculated_vcpu_time_ms = 0 ∧ r.cpuset ≠ ∅ then r.cpuset.card.toUInt64
  else saturating_add r.calculated_vcpu_time_ms 999 / 1000

/-- Merge resources assigned to a container into the sandbox/pod resources. -/
def merge (r : LinuxSandboxCpuResources) (c : LinuxContainerCpuResources) :
    LinuxSandboxCpuResources :=
  { r with
    calculated_vcpu_time_ms :=
      match c.calculated_vcpu_time_ms with
      | some v => r.calculated_vcpu_time_ms + v
      | none => r.calculated_vcpu_time_ms
    cpuset := r.cpuset ∪ c.cpuset
    nodeset := r.nodeset ∪ c.nodeset }

end LinuxSandboxCpuResources

/-! ## runtime-rs -/

/-- `CpuResource::calc_cpu_resources`, over the containers' resources in the order the map yields
them: the vCPUs of the quotas, each rounded up, or else the size of the union of the CPU sets. -/
def calc_cpu_resources (resources : List LinuxContainerCpuResources) : UInt32 :=
  let (total_vcpu, cpuset_vcpu) := resources.foldl (fun (acc : UInt32 × Finset Nat) cpu_resource =>
    let vcpu := (cpu_resource.get_vcpus.getD 0).toUInt32
    (acc.1 + vcpu, acc.2 ∪ cpu_resource.cpuset)) (0, ∅)
  -- contrained only by cpuset
  if total_vcpu = 0 ∧ cpuset_vcpu ≠ ∅ then cpuset_vcpu.card.toUInt32 else total_vcpu

/-- The milliseconds of vCPU time a container's quota asks for, `0` when unconstrained. -/
def ms_of (r : LinuxContainerCpuResources) : Nat := (r.calculated_vcpu_time_ms.getD 0).toNat

/-- The union of the containers' CPU sets. -/
def cpuset_union (rs : List LinuxContainerCpuResources) : Finset Nat :=
  rs.foldl (fun S r => S ∪ r.cpuset) ∅

/-! ## Rounding once, rounding each -/

theorem toNat_saturating_add_div {v : UInt64} (h : v.toNat + 999 < 2 ^ 64) :
    (saturating_add v 999 / 1000).toNat = (v.toNat + 999) / 1000 := by
  rw [saturating_add, if_pos (show v.toNat + UInt64.toNat 999 < 2 ^ 64 from h),
    UInt64.toNat_div, UInt64.toNat_add]
  show (v.toNat + 999) % 2 ^ 64 / 1000 = _
  rw [Nat.mod_eq_of_lt h]

/-- A container that asks for some vCPU time, at most a whole vCPU, needs one vCPU. -/
theorem get_vcpus_of_le {r : LinuxContainerCpuResources} {v : UInt64}
    (hv : r.calculated_vcpu_time_ms = some v) (hpos : 0 < v.toNat) (hle : v.toNat ≤ 1000) :
    r.get_vcpus = some 1 := by
  rw [LinuxContainerCpuResources.get_vcpus, hv, Option.map_some]
  congr 1
  apply UInt64.toNat_inj.mp
  rw [toNat_saturating_add_div (by omega)]
  show (v.toNat + 999) / 1000 = 1
  omega

/-- The loop of `calc_cpu_resources` over containers that each need one vCPU counts them. -/
theorem calc_loop_of_fractional (rs : List LinuxContainerCpuResources)
    (h : ∀ r ∈ rs, r.get_vcpus = some 1) (t : UInt32) (S : Finset Nat)
    (hlen : t.toNat + rs.length < 2 ^ 32) :
    (rs.foldl (fun (acc : UInt32 × Finset Nat) cpu_resource =>
      (acc.1 + (cpu_resource.get_vcpus.getD 0).toUInt32, acc.2 ∪ cpu_resource.cpuset))
        (t, S)).1.toNat = t.toNat + rs.length := by
  induction rs generalizing t S with
  | nil => rfl
  | cons r rs ih =>
    rw [List.foldl_cons, h r List.mem_cons_self]
    have hstep : (t + ((some (1 : UInt64)).getD 0).toUInt32).toNat = t.toNat + 1 := by
      show (t + 1).toNat = t.toNat + 1
      rw [UInt32.toNat_add, UInt32.toNat_one]
      rw [List.length_cons] at hlen
      omega
    rw [ih (fun r' hr' => h r' (List.mem_cons_of_mem r hr')) _ _ (by
      rw [hstep]; rw [List.length_cons] at hlen; omega), hstep, List.length_cons]
    omega

/-- The loop of `calc_cpu_resources` over containers without a quota adds nothing to the vCPUs
and collects the union of their CPU sets. -/
theorem calc_loop_of_unconstrained (rs : List LinuxContainerCpuResources)
    (h : ∀ r ∈ rs, r.calculated_vcpu_time_ms = none) (S : Finset Nat) :
    rs.foldl (fun (acc : UInt32 × Finset Nat) cpu_resource =>
      (acc.1 + (cpu_resource.get_vcpus.getD 0).toUInt32, acc.2 ∪ cpu_resource.cpuset)) (0, S) =
      (0, rs.foldl (fun S r => S ∪ r.cpuset) S) := by
  induction rs generalizing S with
  | nil => rfl
  | cons r rs ih =>
    have hr : r.get_vcpus = none := by
      rw [LinuxContainerCpuResources.get_vcpus, h r List.mem_cons_self, Option.map_none]
    rw [List.foldl_cons, List.foldl_cons, hr]
    exact ih (fun r' hr' => h r' (List.mem_cons_of_mem r hr')) _

/-- Merging adds the containers' milliseconds, while no sum reaches `2 ^ 64`. -/
theorem merge_foldl_calculated (rs : List LinuxContainerCpuResources)
    (r : LinuxSandboxCpuResources)
    (hsum : r.calculated_vcpu_time_ms.toNat + (rs.map ms_of).sum < 2 ^ 64) :
    (rs.foldl LinuxSandboxCpuResources.merge r).calculated_vcpu_time_ms.toNat =
      r.calculated_vcpu_time_ms.toNat + (rs.map ms_of).sum := by
  induction rs generalizing r with
  | nil => rfl
  | cons c rs ih =>
    rw [List.map_cons, List.sum_cons] at hsum ⊢
    -- the container's milliseconds, or nothing for an unconstrained one
    have hstep : (r.merge c).calculated_vcpu_time_ms.toNat =
        r.calculated_vcpu_time_ms.toNat + ms_of c := by
      unfold LinuxSandboxCpuResources.merge
      cases hc : c.calculated_vcpu_time_ms with
      | none => rw [ms_of, hc]; rfl
      | some v =>
        have hv : ms_of c = v.toNat := by rw [ms_of, hc, Option.getD_some]
        show (r.calculated_vcpu_time_ms + v).toNat = _
        rw [UInt64.toNat_add, hv]
        omega
    rw [List.foldl_cons, ih _ (by rw [hstep]; omega), hstep, Nat.add_assoc]

/-- Containers that each ask for some vCPU time, at most one vCPU between them: the merged
resources round the sum once, to one vCPU, where `calc_cpu_resources` gives each its own. -/
theorem fractional_rounding (rs : List LinuxContainerCpuResources)
    (h : ∀ r ∈ rs, ∃ v, r.calculated_vcpu_time_ms = some v ∧ 0 < v.toNat)
    (hsum : (rs.map ms_of).sum ≤ 1000) (hne : rs ≠ []) :
    (calc_cpu_resources rs).toNat = rs.length ∧
      (rs.foldl LinuxSandboxCpuResources.merge (.new 0)).get_vcpus = 1 := by
  -- every container asks for between 1 and 1000 milliseconds
  have hms : ∀ r ∈ rs, ∃ v, r.calculated_vcpu_time_ms = some v ∧ 0 < v.toNat ∧ v.toNat ≤ 1000 := by
    intro r hr
    obtain ⟨v, hv, hpos⟩ := h r hr
    have hle : ms_of r ≤ (rs.map ms_of).sum := List.le_sum_of_mem (List.mem_map_of_mem hr)
    rw [ms_of, hv, Option.getD_some] at hle
    exact ⟨v, hv, hpos, by omega⟩
  have hone : ∀ r ∈ rs, r.get_vcpus = some 1 := fun r hr => by
    obtain ⟨v, hv, hpos, hle⟩ := hms r hr
    exact get_vcpus_of_le hv hpos hle
  have hlen : rs.length ≤ (rs.map ms_of).sum := by
    rw [← List.length_map (f := ms_of)]
    apply List.length_le_sum_of_one_le
    intro n hn
    obtain ⟨r, hr, rfl⟩ := List.mem_map.mp hn
    obtain ⟨v, hv, hpos, -⟩ := hms r hr
    rw [ms_of, hv, Option.getD_some]
    exact hpos
  have hpos : 0 < rs.length := List.length_pos_iff.mpr hne
  refine ⟨?_, ?_⟩
  · have hloop := calc_loop_of_fractional rs hone 0 ∅ (by show 0 + rs.length < _; omega)
    unfold calc_cpu_resources
    dsimp only
    rw [if_neg fun hz => by
      have := congrArg UInt32.toNat hz.1
      rw [hloop] at this
      exact absurd this (by show ¬ 0 + rs.length = 0; omega)]
    exact hloop.trans (Nat.zero_add _)
  · have hcalc := merge_foldl_calculated rs (.new 0) (by show 0 + _ < _; omega)
    change _ = 0 + _ at hcalc
    rw [Nat.zero_add] at hcalc
    -- the sum is positive: the merged resources round it up to one vCPU
    have hpos_sum : 0 < (rs.map ms_of).sum := Nat.lt_of_lt_of_le hpos hlen
    unfold LinuxSandboxCpuResources.get_vcpus
    rw [if_neg fun hz => by
      have := congrArg UInt64.toNat hz.1
      rw [hcalc] at this
      exact absurd this (Nat.pos_iff_ne_zero.mp hpos_sum)]
    apply UInt64.toNat_inj.mp
    rw [toNat_saturating_add_div (by omega), hcalc]
    show _ = 1
    omega

/-- Containers without a quota: `calc_cpu_resources` counts the union of their CPU sets. -/
theorem calc_cpu_resources_unconstrained (rs : List LinuxContainerCpuResources)
    (h : ∀ r ∈ rs, r.calculated_vcpu_time_ms = none) :
    (calc_cpu_resources rs).toNat = (cpuset_union rs).card % 2 ^ 32 := by
  unfold calc_cpu_resources
  rw [calc_loop_of_unconstrained rs h ∅]
  dsimp only
  split
  · rw [Nat.toUInt32_eq, UInt32.toNat_ofNat']
    rfl
  · next hne =>
    -- the union is empty
    have hempty : rs.foldl (fun S r => S ∪ r.cpuset) ∅ = ∅ := by
      by_contra hc
      exact hne ⟨rfl, hc⟩
    rw [cpuset_union, hempty, Finset.card_empty]
    rfl

/-- A CPU list that `U32Set::from_str` rejects makes the whole conversion fail. -/
theorem try_from_error {value : LinuxCpu} {e : KataError}
    (he : U32Set.from_str value.cpus = .error e) :
    LinuxContainerCpuResources.try_from value = .error (.InvalidCpuSet e) := by
  unfold LinuxContainerCpuResources.try_from
  rw [he]
  rfl

/-! ## The three sizings side by side -/

theorem vcpu_sizing_disagrees :
    (∀ rs : List LinuxContainerCpuResources,
      (∀ r ∈ rs, ∃ v, r.calculated_vcpu_time_ms = some v ∧ 0 < v.toNat) →
      (rs.map ms_of).sum ≤ 1000 → rs ≠ [] →
      (calc_cpu_resources rs).toNat = rs.length ∧
        (rs.foldl LinuxSandboxCpuResources.merge (.new 0)).get_vcpus = 1) ∧
    (∀ rs : List LinuxContainerCpuResources, (∀ r ∈ rs, r.calculated_vcpu_time_ms = none) →
      (calc_cpu_resources rs).toNat = (cpuset_union rs).card % 2 ^ 32) ∧
    (∀ s : Sandbox, (∀ c ∈ s.Containers, s.Unconstrained c) →
      (∀ c ∈ s.Containers, ¬ s.ParseFails c) → (s.Containers.map s.cpusetCount).sum ≤ 2 ^ 24 →
      calculateSandboxCPUs s = ((s.Containers.map s.cpusetCount).sum : ℚ)) ∧
    (∀ s : Sandbox, ∀ c ∈ s.Containers, s.ParseFails c → calculateSandboxCPUs s = 0) ∧
    (∀ value : LinuxCpu, (∃ e, U32Set.from_str value.cpus = .error e) →
      ∃ e, LinuxContainerCpuResources.try_from value = .error e) := by
  refine ⟨fractional_rounding, calc_cpu_resources_unconstrained,
    fun _ hfree hparse _ => calculateSandboxCPUs_unconstrained hfree hparse,
    fun _ _ hc hfail => calculateSandboxCPUs_of_parse_fails hc hfail, ?_⟩
  rintro value ⟨e, he⟩
  exact ⟨_, try_from_error he⟩

/-- Half a vCPU: what `try_from` makes of a quota of 50000 over a period of 100000. -/
def half_vcpu : LinuxContainerCpuResources := ⟨0, 100000, 50000, ∅, ∅, some 500⟩

/-- Two containers on the CPU set `0-1`, without a quota. -/
def two_sets : Sandbox :=
  ⟨[⟨"a", ⟨none, some ⟨none, none, "0-1"⟩, []⟩⟩, ⟨"b", ⟨none, some ⟨none, none, "0-1"⟩, []⟩⟩],
    [], false⟩

/-- Two halves of a vCPU are two vCPUs for `calc_cpu_resources` and one for the merged
resources; two containers on CPUs `0-1` are four CPUs for the Go runtime; the CPU list `x` is an
error for `try_from` and no CPUs, without an error, for the Go runtime. -/
theorem vcpu_sizing_disagrees_half :
    LinuxContainerCpuResources.try_from { quota := some 50000, period := some 100000 } =
      .ok half_vcpu ∧
    (calc_cpu_resources [half_vcpu, half_vcpu]).toNat = 2 ∧
    ([half_vcpu, half_vcpu].foldl LinuxSandboxCpuResources.merge (.new 0)).get_vcpus = 1 ∧
    calculateSandboxCPUs two_sets = 4 ∧
    calculateSandboxCPUs { two_sets with Containers := [⟨"c", ⟨none, some ⟨none, none, "x"⟩, []⟩⟩] }
      = 0 ∧
    (∃ e, LinuxContainerCpuResources.try_from { cpus := "x" } = .error e) := by
  have hhalf : ∀ r ∈ [half_vcpu, half_vcpu],
      ∃ v, r.calculated_vcpu_time_ms = some v ∧ 0 < v.toNat := by
    intro r hr
    have hr : r = half_vcpu := by simpa using hr
    exact ⟨500, by rw [hr]; rfl, by decide⟩
  have h := vcpu_sizing_disagrees
  obtain ⟨hcalc, hmerge⟩ := h.1 [half_vcpu, half_vcpu] hhalf (by decide) (by simp)
  have hgo := h.2.2.2.1 { two_sets with Containers := [⟨"c", ⟨none, some ⟨none, none, "x"⟩, []⟩⟩] }
    _ List.mem_cons_self ⟨by decide +kernel, _, rfl, (), by decide +kernel⟩
  exact ⟨by decide +kernel, hcalc, hmerge, by decide +kernel, hgo,
    h.2.2.2.2 { cpus := "x" } ⟨.InvalidList "x", by decide +kernel⟩⟩

end KataContainers.Runtime.CpuResources
