import KataContainers.Lib.Checked
import KataContainers.Lib.Log

/-!
# CPU and memory resources of a container cgroup

Model of how the agent turns the CPU and memory resources of an OCI spec into cgroup settings, in
`src/agent/rustjail/src/cgroups`. The fs manager's `set_cpu_resources` and `set_memory_resources`
(`fs/mod.rs`) write the controllers' files through cgroups-rs; the systemd manager's transformers
`Cpu` and `Memory` (`systemd/subsystem/cpu.rs`, `memory.rs`) push unit properties. Both are
computations of `Log`: the files written or the properties pushed, in order, and the `Fault` that
ends the call. A write of cgroups-rs is taken to succeed.

The OCI resources are cgroup v1 values. On cgroup v2 the fs manager converts shares with
`convert_shares_to_v2_value` and the memory+swap limit with `convert_memory_swap_to_v2_value`; the
systemd manager has its own `shares_to_weight`, and sets `MemorySwapMax` to `limit - swap`.

The arithmetic is that of a build with overflow checks (`Checked`): a `none` of a conversion, and
the `Fault.panic` it becomes in a setter, is a panic of the code.

* `memory_swap_total_written`: when both a memory limit `l` and a memory+swap limit `w > l` are
  set, the fs manager on cgroup v2 writes `w` itself to `memory.swap.max`, not the converted
  `w - l`, and the systemd manager sets `MemorySwapMax` to `(l - w) as u64`, which wraps to
  `2 ^ 64 - (w - l)`.
* `cpu_conversions_panic`: the weight formula panics at `shares = 1` and for large shares, in
  both managers, and a large quota overflows `quota * 10^6` in `resolve_cpuquota`.
-/

namespace KataContainers.Rustjail.Cgroups

open Log

/-- The fields of the OCI `LinuxCpu` that the managers read. -/
structure LinuxCpu where
  shares : Option UInt64 := none
  quota : Option Int64 := none
  period : Option UInt64 := none
  realtime_runtime : Option Int64 := none
  realtime_period : Option UInt64 := none
  cpus : String := ""
  mems : String := ""
deriving DecidableEq, Repr

/-- The fields of the OCI `LinuxMemory` that the managers read. -/
structure LinuxMemory where
  limit : Option Int64 := none
  reservation : Option Int64 := none
  swap : Option Int64 := none
  kernel : Option Int64 := none
  kernel_tcp : Option Int64 := none
  swappiness : Option UInt64 := none
deriving DecidableEq, Repr

/-- How a setter ends when it does not return `Ok`: an `Err` with its message, or a panic. -/
inductive Fault
  | err (msg : String)
  | panic
deriving DecidableEq, Repr

/-- `u64::MAX`. -/
def u64_max : UInt64 := 18446744073709551615

/-! ## Shares and weights -/

/-- `1 + ((shares - 2) * 9999) / 262142`, which both managers use to map the shares of cgroup v1,
`[2, 262144]`, to a weight of cgroup v2, `[1, 10000]`; they differ in the weight they give to
`shares = 0`, here `zero`. -/
def v2_weight (zero shares : UInt64) : Option UInt64 :=
  if shares = 0 then some zero
  else do
    let d ← Checked.sub shares 2
    let p ← Checked.mul d 9999
    Checked.add 1 (p / 262142)

/-- `convert_shares_to_v2_value` of the fs manager: `0` stays `0`. -/
def convert_shares_to_v2_value (shares : UInt64) : Option UInt64 := v2_weight 0 shares

/-- `shares_to_weight` of the systemd manager: `0` becomes the default weight `100`. -/
def shares_to_weight (shares : UInt64) : Option UInt64 := v2_weight 100 shares

section Weight

variable {zero shares : UInt64}

/-- The last step of the formula, `1 + p / 262142`, never overflows. -/
theorem add_one_div_weight (p : UInt64) :
    Checked.add 1 (p / 262142) = some (1 + p / 262142) ∧
      (1 + p / 262142).toNat = 1 + p.toNat / 262142 := by
  have hp := p.toNat_lt
  have hdiv : (p / 262142).toNat = p.toNat / 262142 := UInt64.toNat_div p 262142
  have hsum : (1 + p / 262142).toNat = 1 + p.toNat / 262142 := by
    rw [UInt64.toNat_add, hdiv]
    simp only [UInt64.reduceToNat]
    omega
  refine ⟨Checked.add_eq_some_iff.mpr ⟨?_, ?_⟩, hsum⟩
  · simp only [hdiv, UInt64.reduceToNat]
    omega
  · rw [hsum, hdiv]
    rfl

/-- For nonzero shares the formula panics exactly at `shares = 1`, where `shares - 2` underflows,
and where `(shares - 2) * 9999` overflows. -/
theorem v2_weight_eq_none_iff :
    v2_weight zero shares = none ↔ shares.toNat = 1 ∨ 2 ^ 64 ≤ (shares.toNat - 2) * 9999 := by
  unfold v2_weight
  split_ifs with h0
  · subst h0
    simp
  have hne : shares.toNat ≠ 0 := fun h => h0 (UInt64.toNat_inj.mp (by simpa using h))
  cases hd : Checked.sub shares 2 with
  | none =>
    have hlt := Checked.sub_eq_none_iff.mp hd
    simp only [UInt64.reduceToNat] at hlt
    simp only [Option.bind_eq_bind, Option.bind_none, true_iff]
    omega
  | some d =>
    obtain ⟨h2, hd'⟩ := Checked.sub_eq_some_iff.mp hd
    simp only [UInt64.reduceToNat] at h2 hd'
    cases hp : Checked.mul d 9999 with
    | none =>
      have hbig := Checked.mul_eq_none_iff.mp hp
      simp only [UInt64.reduceToNat, hd'] at hbig
      simp only [Option.bind_eq_bind, Option.bind_some, hp, Option.bind_none, true_iff]
      omega
    | some p =>
      obtain ⟨hfit, -⟩ := Checked.mul_eq_some_iff.mp hp
      simp only [UInt64.reduceToNat, hd'] at hfit
      simp only [Option.bind_eq_bind, Option.bind_some, hp, (add_one_div_weight p).1, reduceCtorEq,
        false_iff, not_or]
      omega

example : convert_shares_to_v2_value 2 = some 1 ∧ convert_shares_to_v2_value 262144 = some 10000 ∧
    shares_to_weight 0 = some 100 ∧ convert_shares_to_v2_value 0 = some 0 := by
  decide

end Weight

/-! ## The quota of the systemd manager -/

def SEC2MICROSEC : UInt64 := 1000 * 1000

def BASIC_INTERVAL : UInt64 := 10 * 1000

def DEFAULT_CPUQUOTAPERIOD : UInt64 := 100 * 1000

/-- `resolve_cpuquota`: the CPU time per second of a quota over a period, rounded up to a multiple
of `BASIC_INTERVAL`; unlimited for a quota that is not positive. -/
def resolve_cpuquota (quota : Int64) (period : UInt64) : Option UInt64 :=
  if 0 < quota then do
    let p ← Checked.mul quota.toUInt64 SEC2MICROSEC
    let cpu_quota_per_sec_usec ← Checked.div p period
    if cpu_quota_per_sec_usec % BASIC_INTERVAL ≠ 0 then do
      let q ← Checked.add (cpu_quota_per_sec_usec / BASIC_INTERVAL) 1
      Checked.mul q BASIC_INTERVAL
    else pure cpu_quota_per_sec_usec
  else pure u64_max

section Quota

variable {quota : Int64} {period : UInt64}

theorem zero_lt_iff_toInt : 0 < quota ↔ 0 < quota.toInt := by
  rw [Int64.lt_iff_toInt_lt]
  rfl

/-- `(quota as u64) * SEC2MICROSEC` panics when the exact product leaves `u64`. -/
theorem resolve_cpuquota_of_overflow (hq : 0 < quota.toInt)
    (hbig : 2 ^ 64 ≤ quota.toInt * 1000000) : resolve_cpuquota quota period = none := by
  have hcast := Checked.toNat_toUInt64_of_nonneg (Int.le_of_lt hq)
  have hmul : Checked.mul quota.toUInt64 SEC2MICROSEC = none := by
    apply Checked.mul_eq_none_iff.mpr
    have h6 : SEC2MICROSEC.toNat = 1000000 := rfl
    rw [h6]
    omega
  unfold resolve_cpuquota
  rw [if_pos (zero_lt_iff_toInt.mpr hq), hmul]
  rfl

end Quota

/-! ## The fs manager -/

namespace Fs

/-- A write of cgroups-rs's CPU and cpuset controllers. -/
inductive CpuWrite
  | cpus (v : String)
  | mems (v : String)
  | shares (v : UInt64)
  | cfs_quota (v : Int64)
  | cfs_period (v : UInt64)
  | rt_runtime (v : Int64)
  | rt_period_us (v : UInt64)
deriving DecidableEq, Repr

/-- A write of cgroups-rs's memory controller. On cgroup v2, `memswap_limit` is the file
`memory.swap.max`. -/
inductive MemWrite
  | kmem_limit (v : Int64)
  | memswap_limit (v : Int64)
  | limit (v : Int64)
  | soft_limit (v : Int64)
  | tcp_limit (v : Int64)
  | swappiness (v : UInt64)
deriving DecidableEq, Repr

/-- `set_resource!`: the field, `0` when absent, is written unless it is `0`. -/
def set_resource {α W : Type} [Zero α] [DecidableEq α] (set : α → W) (field : Option α) :
    Log Fault W Unit :=
  let resource_value := field.getD 0
  if resource_value ≠ 0 then write (set resource_value) else pure ()

/-- `set_cpu_resources`. A failed write of `cpuset.cpus` is only logged by the source, and every
write succeeds here. -/
def set_cpu_resources (v2 : Bool) (cpu : LinuxCpu) : Log Fault CpuWrite Unit := do
  if cpu.cpus ≠ "" then write (.cpus cpu.cpus)
  if cpu.mems ≠ "" then write (.mems cpu.mems)
  if let some shares := cpu.shares then
    let some shares := (if v2 then convert_shares_to_v2_value shares else some shares)
      | throw .panic
    if shares ≠ 0 then write (.shares shares)
  set_resource .cfs_quota cpu.quota
  set_resource .cfs_period cpu.period
  set_resource .rt_runtime cpu.realtime_runtime
  set_resource .rt_period_us cpu.realtime_period

/-- On cgroup v2, shares the conversion panics on make `set_cpu_resources` panic, after the
cpuset writes. -/
theorem post_set_cpu_resources_of_shares {cpu : LinuxCpu} {shares : UInt64}
    (hs : cpu.shares = some shares) (hc : convert_shares_to_v2_value shares = none) :
    Post (fun _ _ => False) (· = .panic) (set_cpu_resources true cpu) := by
  have hpush : ∀ w : CpuWrite, Post (fun _ _ => True) (· = Fault.panic) (write w) :=
    fun _ => post_write fun _ => trivial
  unfold set_cpu_resources
  extract_lets jp_tail jp_shares jp_mems
  -- the shares block panics
  have hshares : ∀ u, Post (fun _ _ => False) (· = .panic) (jp_shares u) := by
    intro u
    simp only [jp_shares, hs, if_true, hc]
    exact post_throw rfl
  have hmems : ∀ u, Post (fun _ _ => False) (· = .panic) (jp_mems u) := by
    intro u
    simp only [jp_mems]
    exact post_ite (post_bind (hpush _) hshares) (hshares ())
  exact post_ite (post_bind (hpush _) hmems) (hmems ())

/-- `convert_memory_swap_to_v2_value`: the memory+swap limit of the OCI spec as the swap limit of
cgroup v2, given the memory limit. -/
def convert_memory_swap_to_v2_value (memory_swap memory : Int64) : Except Fault Int64 :=
  -- for compatibility with cgroup1 controller, set swap to unlimited in case the memory is set
  -- to unlimited, and swap is not explicitly set
  if memory = -1 ∧ memory_swap = 0 then .ok (-1)
  -- -1 is "max", 0 is "unset", so treat as is
  else if memory_swap = -1 ∨ memory_swap = 0 then .ok memory_swap
  else if memory = 0 ∨ memory = -1 then .error (.err "unable to set swap limit without memory limit")
  else if memory < 0 then .error (.err s!"invalid memory value: {memory}")
  else if memory_swap < memory then .error (.err "memory+swap limit should be >= memory limit")
  else .ok (memory_swap - memory)

/-- A positive memory limit below the memory+swap limit: the swap limit is their difference. -/
theorem convert_memory_swap_to_v2_value_of_lt {memory_swap memory : Int64}
    (hm : 0 < memory.toInt) (hlt : memory.toInt < memory_swap.toInt) :
    convert_memory_swap_to_v2_value memory_swap memory = .ok (memory_swap - memory) := by
  obtain ⟨hm0, hm1, hmneg⟩ := Checked.ne_of_toInt_pos hm
  obtain ⟨hs0, hs1, -⟩ := Checked.ne_of_toInt_pos (show 0 < memory_swap.toInt by omega)
  have hge : ¬ memory_swap < memory := fun h => by
    have := Int64.lt_iff_toInt_lt.mp h
    omega
  simp only [convert_memory_swap_to_v2_value, hm1, hs1, hs0, hm0, hmneg, hge, false_and, or_self,
    if_false]

/-- `if !update { .. }` of `set_memory_resources`: initialize kmem limits for accounting. -/
def init_kmem_limits (update : Bool) : Log Fault MemWrite Unit :=
  if !update then do
    write (.kmem_limit 1)
    write (.kmem_limit (-1))
  else pure ()

/-- The `if memory.limit.is_some() && swap != 0 { .. } else { .. }` of `set_memory_resources`,
which writes the memory limit and the swap limit; `memstat` is the limit the cgroup's memory
stats report, `none` when they cannot be read. -/
def set_limit_and_swap (v2 : Bool) (memory : LinuxMemory) (swap : Int64)
    (memstat : Option UInt64) : Log Fault MemWrite Unit :=
  if memory.limit.isSome ∧ swap ≠ 0 then do
    let some memusage_limit := memstat | throw (.err "failed to get the cgroup memory stats")
    -- set the limit first when the current one is above the new swap, the swap first otherwise
    if swap = -1 ∨ memusage_limit < swap.toUInt64 then do
      write (.memswap_limit swap)
      set_resource .limit memory.limit
    else do
      set_resource .limit memory.limit
      write (.memswap_limit swap)
  else do
    set_resource .limit memory.limit
    let swap ← liftExcept
      (if v2 then convert_memory_swap_to_v2_value swap (memory.limit.getD 0) else .ok swap)
    if swap ≠ 0 then write (.memswap_limit swap) else pure ()

/-- The swappiness block of `set_memory_resources`. -/
def set_swappiness (swappiness : Option UInt64) : Log Fault MemWrite Unit :=
  match swappiness with
  | some swappiness =>
    if swappiness ≤ 100 then write (.swappiness swappiness)
    else throw (.err s!"invalid value:{swappiness}. valid memory swappiness range is 0-100")
  | none => pure ()

/-- `set_memory_resources`, on cgroup v2 when `v2`. -/
def set_memory_resources (v2 : Bool) (memory : LinuxMemory) (update : Bool)
    (memstat : Option UInt64) : Log Fault MemWrite Unit := do
  init_kmem_limits update
  -- If the memory update is set to -1 we should also set swap to -1, it means unlimited memory.
  let swap := if memory.limit = some (-1) then -1 else memory.swap.getD 0
  set_limit_and_swap v2 memory swap memstat
  set_resource .soft_limit memory.reservation
  set_resource .kmem_limit memory.kernel
  set_resource .tcp_limit memory.kernel_tcp
  set_swappiness memory.swappiness

/-- The swap limit a write sets, if it sets one. -/
def swap_limit_of : MemWrite → Option Int64
  | .memswap_limit v => some v
  | _ => none

/-- The swap limits written, in order. -/
def swap_limits (ws : List MemWrite) : List Int64 := ws.filterMap swap_limit_of


/-! ### What the memory setter writes -/

section Writes

variable {α W : Type} [Zero α] [DecidableEq α]

@[simp] theorem exec_set_resource (set : α → W) (field : Option α) (s : List W) :
    exec (set_resource set field) s =
      (.ok (), s ++ if field.getD 0 ≠ 0 then [set (field.getD 0)] else []) := by
  unfold set_resource
  by_cases h : field.getD 0 = 0 <;> simp [h]

theorem appends_set_resource {P : W → Prop} {set : α → W} (h : ∀ v, P (set v))
    (field : Option α) : Appends P (set_resource set field) := by
  unfold set_resource
  exact appends_ite (appends_write (h _)) (appends_pure ())

end Writes

@[simp] theorem swap_limits_append (a b : List MemWrite) :
    swap_limits (a ++ b) = swap_limits a ++ swap_limits b :=
  List.filterMap_append

/-- The kmem limits are written before anything else, and they are not swap limits. -/
theorem exec_init_kmem_limits (update : Bool) (s : List MemWrite) :
    ∃ t, exec (init_kmem_limits update) s = (.ok (), s ++ t) ∧ swap_limits t = [] := by
  unfold init_kmem_limits
  cases update
  · refine ⟨[.kmem_limit 1, .kmem_limit (-1)], ?_, rfl⟩
    simp only [Bool.not_false, if_true, exec_bind_ok (exec_write _ s), exec_write,
      List.append_assoc, List.cons_append, List.nil_append]
  · exact ⟨[], by simp, rfl⟩

/-- A computation that writes no swap limit leaves the swap limits of the log as they are. -/
theorem Appends.swap_limits_exec {α : Type} {x : Log Fault MemWrite α}
    (hx : Appends (fun w => swap_limit_of w = none) x) (s : List MemWrite) :
    swap_limits (exec x s).2 = swap_limits s :=
  hx.filterMap_exec s

/-- The swappiness is not a swap limit. -/
theorem appends_set_swappiness (swappiness : Option UInt64) :
    Appends (fun w => swap_limit_of w = none) (set_swappiness swappiness) := by
  unfold set_swappiness
  split
  · exact appends_ite (appends_write rfl) (appends_throw _)
  · exact appends_pure ()

/-- With a memory limit and a nonzero swap, the block writes the swap as it is, once, in the order
the current limit decides, whatever the hierarchy: the conversion of cgroup v2 is on the other
branch. -/
theorem exec_set_limit_and_swap_of_isSome (v2 : Bool) {memory : LinuxMemory} {swap : Int64}
    (hl : memory.limit.isSome) (hs : swap ≠ 0) (memusage_limit : UInt64) (s : List MemWrite) :
    ∃ t, exec (set_limit_and_swap v2 memory swap (some memusage_limit)) s = (.ok (), s ++ t) ∧
      swap_limits t = [swap] := by
  unfold set_limit_and_swap
  rw [if_pos ⟨hl, hs⟩]
  have hlimit : ∀ s', ∃ t', exec (set_resource MemWrite.limit memory.limit) s' = (.ok (), s' ++ t') ∧
      swap_limits t' = [] := by
    intro s'
    refine ⟨_, exec_set_resource _ _ s', ?_⟩
    split_ifs <;> rfl
  dsimp only
  split_ifs
  · obtain ⟨t, ht, hsw⟩ := hlimit (s ++ [.memswap_limit swap])
    refine ⟨[.memswap_limit swap] ++ t, ?_, by rw [swap_limits_append, hsw]; rfl⟩
    simp only [exec_bind_ok (exec_write _ s), ht, List.append_assoc,
      List.cons_append, List.nil_append]
  · obtain ⟨t, ht, hsw⟩ := hlimit s
    refine ⟨t ++ [.memswap_limit swap], ?_, by rw [swap_limits_append, hsw]; rfl⟩
    simp only [exec_bind_ok ht, exec_write, List.append_assoc]

/-- With a memory limit and a nonzero swap, `set_memory_resources` writes one swap limit, the
swap itself (`-1` when the limit is `-1`), also on cgroup v2. -/
theorem swap_limits_set_memory_resources {v2 : Bool} {memory : LinuxMemory} (update : Bool)
    (hl : memory.limit.isSome)
    (hs : (if memory.limit = some (-1) then -1 else memory.swap.getD 0) ≠ 0)
    (memusage_limit : UInt64) (s : List MemWrite) :
    swap_limits (exec (set_memory_resources v2 memory update (some memusage_limit)) s).2 =
      swap_limits s ++ [if memory.limit = some (-1) then -1 else memory.swap.getD 0] := by
  obtain ⟨t, ht, ht'⟩ := exec_init_kmem_limits update s
  obtain ⟨u, hu, hu'⟩ := exec_set_limit_and_swap_of_isSome v2 hl hs memusage_limit (s ++ t)
  unfold set_memory_resources
  simp only [exec_bind_ok ht, exec_bind_ok hu]
  rw [Appends.swap_limits_exec, swap_limits_append, swap_limits_append, ht', hu', List.append_nil]
  -- the tail writes the reservation, the kernel limits and the swappiness
  refine Appends.bind (appends_set_resource ?_ _) fun _ =>
    Appends.bind (appends_set_resource ?_ _) fun _ =>
      Appends.bind (appends_set_resource ?_ _) fun _ => appends_set_swappiness _
  all_goals intro v; rfl

end Fs

/-! ## The systemd manager -/

namespace Systemd

/-- The `zvariant::Value`s the transformers push. -/
inductive Value
  | U64 (v : UInt64)
  | Array (bytes : List UInt8)
deriving DecidableEq, Repr

/-- A unit property: its name and its value. -/
abbrev Property := String × Value

/-- The first systemd version with `CPUQuotaPeriodUSec`. -/
def Cpu.BASIC_SYSTEMD_VERSION : String := "242"

/-- `Cpu::legacy_apply` and `Cpu::unified_apply`, which differ only in the property that carries
the shares: `shares_property` gives it. -/
def Cpu.apply_with (shares_property : UInt64 → Option Property) (cpu_resources : LinuxCpu)
    (systemd_version : String) : Log Fault Property Unit := do
  if let some shares := cpu_resources.shares then
    let some p := shares_property shares | throw .panic
    write p
  if let some period := cpu_resources.period then
    if period ≠ 0 ∧ Cpu.BASIC_SYSTEMD_VERSION ≤ systemd_version then
      write ("CPUQuotaPeriodUSec", .U64 period)
  if let some quota := cpu_resources.quota then
    let period := cpu_resources.period.getD DEFAULT_CPUQUOTAPERIOD
    if period ≠ 0 then
      let some cpu_quota_per_sec_usec := resolve_cpuquota quota period | throw .panic
      write ("CPUQuotaPerSecUSec", .U64 cpu_quota_per_sec_usec)

/-- `Cpu::legacy_apply`: the shares as `CPUShares`. -/
def Cpu.legacy_apply (cpu_resources : LinuxCpu) (systemd_version : String) :
    Log Fault Property Unit :=
  Cpu.apply_with (fun shares => some ("CPUShares", .U64 shares)) cpu_resources systemd_version

/-- `Cpu::unified_apply`: the shares as the weight `CPUWeight`. -/
def Cpu.unified_apply (cpu_resources : LinuxCpu) (systemd_version : String) :
    Log Fault Property Unit :=
  Cpu.apply_with (fun shares => (shares_to_weight shares).map fun weight => ("CPUWeight", .U64 weight))
    cpu_resources systemd_version

/-- Shares the property cannot be made of panic first, before anything is pushed. -/
theorem Cpu.exec_apply_with_of_shares {shares_property : UInt64 → Option Property}
    {cpu_resources : LinuxCpu} {shares : UInt64} (hs : cpu_resources.shares = some shares)
    (hp : shares_property shares = none) (systemd_version : String) (s : List Property) :
    exec (Cpu.apply_with shares_property cpu_resources systemd_version) s = (.error .panic, s) := by
  simp only [Cpu.apply_with, hs, hp]
  rfl

/-- A quota that `resolve_cpuquota` panics on makes the call panic, whatever was pushed before. -/
theorem Cpu.post_apply_with_of_quota {shares_property : UInt64 → Option Property}
    {cpu_resources : LinuxCpu} {quota : Int64} (hq : cpu_resources.quota = some quota)
    (hperiod : cpu_resources.period.getD DEFAULT_CPUQUOTAPERIOD ≠ 0)
    (hr : resolve_cpuquota quota (cpu_resources.period.getD DEFAULT_CPUQUOTAPERIOD) = none)
    (systemd_version : String) :
    Post (fun _ _ => False) (· = .panic)
      (Cpu.apply_with shares_property cpu_resources systemd_version) := by
  have hpush : ∀ p : Property, Post (fun _ _ => True) (· = Fault.panic) (write p) :=
    fun _ => post_write fun _ => trivial
  unfold Cpu.apply_with
  extract_lets period jp_quota jp_period
  -- the quota block panics
  have hquota : ∀ u, Post (fun _ _ => False) (· = Fault.panic) (jp_quota u) := by
    intro u
    simp only [jp_quota, period, hq, if_pos hperiod, hr]
    exact post_throw rfl
  -- the period block pushes at most one property, then the quota block runs
  have hperiod_block : ∀ u, Post (fun _ _ => False) (· = Fault.panic) (jp_period u) := by
    intro u
    simp only [jp_period]
    split
    · exact post_ite (post_bind (hpush _) hquota) (hquota ())
    · exact hquota ()
  split
  · split
    · exact post_bind (hpush _) hperiod_block
    · exact post_bind (post_throw rfl) hperiod_block
  · exact hperiod_block ()

/-- The match of `Memory` on a limit: `1..=i64::MAX` as it is, `0` as unlimited, any other value
an error with the message `msg`. -/
def limit_value (msg : String) (limit : Int64) : Except Fault UInt64 :=
  if 1 ≤ limit then .ok limit.toUInt64
  else if limit = 0 then .ok u64_max
  else .error (.err msg)

/-- `Memory::legacy_apply`. -/
def Memory.legacy_apply (memory_resources : LinuxMemory) : Log Fault Property Unit := do
  if let some limit := memory_resources.limit then
    let limit ← liftExcept (limit_value "invalid memory.limit" limit)
    write ("MemoryLimit", .U64 limit)

/-- The `let swap = match ..` of `Memory::unified_apply`: the value of `MemorySwapMax`. -/
def Memory.swap_max (memory_resources : LinuxMemory) : Except Fault UInt64 :=
  match memory_resources.swap with
  | none => .ok u64_max
  | some swap =>
    if swap = 0 then .ok u64_max
    else if 1 ≤ swap then
      match memory_resources.limit with
      | some limit =>
        if 1 ≤ limit then .ok (limit - swap).toUInt64
        else .error (.err "invalid memory.limit when memory.swap specified")
      | none => .error (.err "invalid memory.limit when memory.swap specified")
    else .error (.err "invalid memory.swap")

/-- `Memory::unified_apply`. -/
def Memory.unified_apply (memory_resources : LinuxMemory) : Log Fault Property Unit := do
  if let some limit := memory_resources.limit then
    let limit ← liftExcept (limit_value s!"invalid memory.limit: {limit}" limit)
    write ("MemoryMax", .U64 limit)
  if let some reservation := memory_resources.reservation then
    let reservation ← liftExcept
      (limit_value s!"invalid memory.reservation: {reservation}" reservation)
    write ("MemoryLow", .U64 reservation)
  let swap ← liftExcept (Memory.swap_max memory_resources)
  write ("MemorySwapMax", .U64 swap)


theorem Memory.swap_max_of_pos {m : LinuxMemory} {l w : Int64} (hl : m.limit = some l)
    (hw : m.swap = some w) (hl1 : 1 ≤ l) (hw1 : 1 ≤ w) :
    Memory.swap_max m = .ok (l - w).toUInt64 := by
  have hw0 : w ≠ 0 := by
    rintro rfl
    exact absurd hw1 (by decide)
  simp only [Memory.swap_max, hw, hw0, if_false, if_pos hw1, hl, if_pos hl1]

/-- What a successful `Memory::unified_apply` leaves last: `MemorySwapMax` with the value of
`swap_max`. -/
def Memory.SwapMaxLast (m : LinuxMemory) (r : List Property) : Prop :=
  ∃ v, Memory.swap_max m = .ok v ∧ r.getLast? = some ("MemorySwapMax", .U64 v)

/-- A successful `Memory::unified_apply` pushes `MemorySwapMax` last, with the value of
`swap_max`: both `if let` blocks run into the last step. -/
theorem Memory.post_unified_apply (m : LinuxMemory) :
    Post (fun _ => Memory.SwapMaxLast m) (fun _ => True) (Memory.unified_apply m) := by
  have hlast : Post (fun _ => Memory.SwapMaxLast m) (fun _ => True)
      (liftExcept (Memory.swap_max m) >>= fun swap => write ("MemorySwapMax", .U64 swap)) :=
    post_liftExcept_bind (fun _ _ => trivial) fun v hv =>
      post_write fun s => ⟨v, hv, List.getLast?_concat⟩
  unfold Memory.unified_apply
  extract_lets jp_swap jp
  -- the reservation block, then the last step
  have hjp : ∀ u, Post (fun _ => Memory.SwapMaxLast m) (fun _ => True) (jp u) := by
    intro u
    simp only [jp]
    split
    · exact post_liftExcept_bind (fun _ _ => trivial) fun _ _ =>
        post_bind (post_true _) fun _ => hlast
    · exact hlast
  split
  · exact post_liftExcept_bind (fun _ _ => trivial) fun _ _ =>
      post_bind (post_true _) fun u => hjp u
  · exact hjp ()

end Systemd

/-! ## The two managers on cgroup v2 -/

theorem cpu_conversions_panic :
    (∀ shares : UInt64, convert_shares_to_v2_value shares = none ↔
        shares.toNat = 1 ∨ 2 ^ 64 ≤ (shares.toNat - 2) * 9999) ∧
      (∀ shares : UInt64, shares_to_weight shares = none ↔
        shares.toNat = 1 ∨ 2 ^ 64 ≤ (shares.toNat - 2) * 9999) ∧
      (∀ (cpu : LinuxCpu) (s : List Fs.CpuWrite), cpu.shares = some 1 →
        (exec (Fs.set_cpu_resources true cpu) s).1 = .error .panic) ∧
      (∀ (cpu : LinuxCpu) (systemd_version : String) (s : List Systemd.Property),
        cpu.shares = some 1 →
        exec (Systemd.Cpu.unified_apply cpu systemd_version) s = (.error .panic, s)) ∧
      (∀ (cpu : LinuxCpu) (systemd_version : String) (s : List Systemd.Property) (quota : Int64),
        cpu.quota = some quota → cpu.period ≠ some 0 → 0 < quota.toInt →
        2 ^ 64 ≤ quota.toInt * 1000000 →
        (exec (Systemd.Cpu.unified_apply cpu systemd_version) s).1 = .error .panic) := by
  -- `1 - 2` underflows at the kernel's lowest value less one
  have hone : ∀ zero : UInt64, v2_weight zero 1 = none :=
    fun _ => v2_weight_eq_none_iff.mpr (Or.inl rfl)
  refine ⟨fun _ => v2_weight_eq_none_iff, fun _ => v2_weight_eq_none_iff, ?_, ?_, ?_⟩
  · intro cpu s hs
    exact (Fs.post_set_cpu_resources_of_shares hs (hone 0)).fst_exec_eq_error s
  · intro cpu systemd_version s hs
    apply Systemd.Cpu.exec_apply_with_of_shares hs
    rw [shares_to_weight, hone]
    rfl
  · intro cpu systemd_version s quota hq hperiod hpos hbig
    have hperiod' : cpu.period.getD DEFAULT_CPUQUOTAPERIOD ≠ 0 := by
      cases hp : cpu.period with
      | none => decide
      | some period =>
        rw [hp] at hperiod
        exact fun h => hperiod (congrArg some h)
    exact (Systemd.Cpu.post_apply_with_of_quota hq hperiod' (resolve_cpuquota_of_overflow hpos hbig)
      systemd_version).fst_exec_eq_error s

example : convert_shares_to_v2_value 1 = none ∧ shares_to_weight 1 = none ∧
    resolve_cpuquota 18446744073710 100000 = none := by
  decide

theorem memory_swap_total_written (memory : LinuxMemory) {l w : Int64}
    (hl : memory.limit = some l) (hw : memory.swap = some w) (hpos : 0 < l.toInt)
    (hlt : l.toInt < w.toInt) (update : Bool) (memstat : UInt64) :
    Fs.convert_memory_swap_to_v2_value w l = .ok (w - l) ∧
      Fs.swap_limits (exec (Fs.set_memory_resources true memory update (some memstat)) []).2 =
        [w] ∧
      w - l ≠ w ∧
      Systemd.Memory.swap_max memory = .ok (l - w).toUInt64 ∧
      ((l - w).toUInt64.toNat : Int) = 2 ^ 64 - (w.toInt - l.toInt) ∧
      ∀ r, exec (Systemd.Memory.unified_apply memory) [] = (.ok (), r) →
        r.getLast? = some ("MemorySwapMax", .U64 (l - w).toUInt64) := by
  have hone : (1 : Int64).toInt = 1 := rfl
  obtain ⟨hl0, hlm1, -⟩ := Checked.ne_of_toInt_pos hpos
  obtain ⟨hw0, -, -⟩ := Checked.ne_of_toInt_pos (show 0 < w.toInt by omega)
  have hswap : Systemd.Memory.swap_max memory = .ok (l - w).toUInt64 :=
    Systemd.Memory.swap_max_of_pos hl hw (Int64.le_iff_toInt_le.mpr (by omega))
      (Int64.le_iff_toInt_le.mpr (by omega))
  refine ⟨Fs.convert_memory_swap_to_v2_value_of_lt hpos hlt, ?_,
    Checked.sub_ne_self_of_ne_zero w hl0, hswap, Checked.toNat_toUInt64_sub_of_lt (by omega) hlt, ?_⟩
  · -- the fs manager writes the memory+swap total as the swap limit
    have hs : (if memory.limit = some (-1) then -1 else memory.swap.getD 0) = w := by
      simp only [hl, Option.some.injEq, hlm1, if_false, hw, Option.getD_some]
    have hsome : memory.limit.isSome := by
      rw [hl]
      rfl
    rw [Fs.swap_limits_set_memory_resources update hsome (by rw [hs]; exact hw0) memstat [], hs]
    rfl
  · intro r hr
    obtain ⟨v, hv, hlast⟩ := (Systemd.Memory.post_unified_apply memory).of_exec_ok hr
    rw [hswap] at hv
    cases hv
    exact hlast

/-- The values of the manager's own test, with the memory limit and the memory+swap total the
other way round: the conversion gives `200000000`, the fs manager writes `736870912`, and systemd
sets `2 ^ 64 - 200000000`. -/
theorem memory_swap_total_written_test_values :
    Fs.convert_memory_swap_to_v2_value 736870912 536870912 = .ok 200000000 ∧
      Fs.swap_limits (exec (Fs.set_memory_resources true
        { limit := some 536870912, swap := some 736870912 } false (some 0)) []).2 = [736870912] ∧
      Systemd.Memory.swap_max { limit := some 536870912, swap := some 736870912 } =
        .ok 18446744073509551616 := by
  obtain ⟨hconv, hfs, -, hsys, -⟩ := memory_swap_total_written
    { limit := some 536870912, swap := some 736870912 } rfl rfl (by decide) (by decide) false 0
  exact ⟨hconv, hfs, hsys⟩

end KataContainers.Rustjail.Cgroups
