import KataContainers.Lib.Checked

/-!
# Sizing a sandbox from its containers

Model of `Sandbox.calculateSandboxMemory` in `src/runtime/virtcontainers/sandbox.go`, the loop over
`s.config.Containers` that works out what the guest needs for the containers that are not
stopped: the memory (`memorySandbox`, a `uint64`), whether the pod needs swap of its own
(`needPodSwap`) and how much swap (`swapSandbox`, an `int64`). Only a container with a memory
section is counted at all, its hugepage limits included.

The memory total is the sum of what the counted containers ask for, modulo `2 ^ 64`
(`memorySandbox_eq`). `needPodSwap` says whether some counted container with a positive
swappiness has neither a swap value nor a positive limit (`needPodSwap_iff`). The swap total is no
sum: a container whose swap exceeds its limit sets `swapSandbox` to its own demand and drops what
the containers before it added (`swapSandbox_overwrite`), while one without swap adds its limit
(`swapSandbox_add`). `calculateSandboxMemory_order_dependent` puts the three together.

`calculateSandboxCPUs`, in the same file, adds up the quotas of the counted containers over their
periods, and falls back on the sizes of their CPU sets (`cpuset.Parse`) when no quota is set
(`cpuLoop_unconstrained`); a CPU list that does not parse makes the whole answer `0`
(`cpuLoop_of_parse_fails`).
-/

namespace KataContainers.Runtime.SandboxResources

/-- `types.StateString`: the states of a container. -/
inductive StateString
  | ready
  | running
  | paused
  | stopped
  deriving DecidableEq, Repr

/-- What the loop reads of `specs.LinuxMemory`. -/
structure LinuxMemory where
  Limit : Option Int64
  Swap : Option Int64
  Swappiness : Option UInt64
  deriving DecidableEq, Repr

/-- What the loop reads of `specs.LinuxHugepageLimit`. -/
structure LinuxHugepageLimit where
  Limit : UInt64
  deriving DecidableEq, Repr

/-- What the loops read of `specs.LinuxCPU`. -/
structure LinuxCPU where
  Quota : Option Int64
  Period : Option UInt64
  Cpus : String
  deriving DecidableEq, Repr

/-- What the loops read of `specs.LinuxResources`. -/
structure LinuxResources where
  Memory : Option LinuxMemory
  CPU : Option LinuxCPU
  HugepageLimits : List LinuxHugepageLimit
  deriving DecidableEq, Repr

structure ContainerConfig where
  ID : String
  Resources : LinuxResources
  deriving DecidableEq, Repr

/-- What the loops read of a `Sandbox`: the configured containers in order
(`s.config.Containers`), the state of each container the sandbox has, by ID (`s.containers`),
and `s.config.HypervisorConfig.GuestSwap`. -/
structure Sandbox where
  Containers : List ContainerConfig
  containers : List (String × StateString)
  GuestSwap : Bool
  deriving DecidableEq, Repr

/-- `cont, ok := s.containers[c.ID]; ok && cont.state.State == types.StateStopped` -/
def Sandbox.isStopped (s : Sandbox) (ID : String) : Bool :=
  s.containers.lookup ID == some .stopped

/-! ## `calculateSandboxMemory` -/

/-- The accumulators of `calculateSandboxMemory`. -/
structure MemoryTotals where
  memorySandbox : UInt64
  needPodSwap : Bool
  swapSandbox : Int64
  deriving DecidableEq, Repr

/-- `currentLimit`: the memory limit when it is set and positive, else `0`. -/
def LinuxMemory.currentLimit (m : LinuxMemory) : Int64 :=
  match m.Limit with
  | some l => if l > 0 then l else 0
  | none => 0

/-- The body of the loop for a container with a memory section. -/
def addMemory (GuestSwap : Bool) (t : MemoryTotals) (m : LinuxMemory)
    (HugepageLimits : List LinuxHugepageLimit) : MemoryTotals :=
  let currentLimit := m.currentLimit
  let memorySandbox :=
    if m.Limit.any (fun l => l > 0) then t.memorySandbox + currentLimit.toUInt64
    else t.memorySandbox
  -- Add hugepages memory
  let memorySandbox := HugepageLimits.foldl (fun acc l => acc + l.Limit) memorySandbox
  -- Add swap
  if GuestSwap && m.Swappiness.any (fun v => v > 0) then
    let currentSwap := m.Swap.getD 0
    if currentSwap = 0 then
      if currentLimit = 0 then { t with memorySandbox, needPodSwap := true }
      else { t with memorySandbox, swapSandbox := t.swapSandbox + currentLimit }
    else if currentSwap > currentLimit then
      { t with memorySandbox, swapSandbox := currentSwap - currentLimit }
    else { t with memorySandbox }
  else { t with memorySandbox }

/-- One round of the loop: a stopped container, or one without a memory section, is skipped. -/
def memoryRound (s : Sandbox) (t : MemoryTotals) (c : ContainerConfig) : MemoryTotals :=
  -- Do not hot add again non-running containers resources
  if s.isStopped c.ID then t
  else
    match c.Resources.Memory with
    | some m => addMemory s.GuestSwap t m c.Resources.HugepageLimits
    | none => t

def calculateSandboxMemory (s : Sandbox) : UInt64 × Bool × Int64 :=
  let t := s.Containers.foldl (memoryRound s) ⟨0, false, 0⟩
  (t.memorySandbox, t.needPodSwap, t.swapSandbox)

/-- What a container with a memory section asks for: its positive limit and its hugepage
limits. -/
def LinuxMemory.demand (m : LinuxMemory) (HugepageLimits : List LinuxHugepageLimit) : Nat :=
  m.currentLimit.toInt.toNat + (HugepageLimits.map fun l => l.Limit.toNat).sum

/-- What the loop counts of a container: nothing when it is stopped or has no memory section. -/
def Sandbox.counted (s : Sandbox) (c : ContainerConfig) : Nat :=
  if s.isStopped c.ID then 0
  else
    match c.Resources.Memory with
    | some m => m.demand c.Resources.HugepageLimits
    | none => 0

/-- A counted container with a positive swappiness and neither swap nor a positive limit. -/
def Sandbox.needsPodSwap (s : Sandbox) (c : ContainerConfig) : Bool :=
  !s.isStopped c.ID &&
    match c.Resources.Memory with
    | some m => s.GuestSwap && m.Swappiness.any (fun v => v > 0) && m.Swap.getD 0 == 0 &&
        m.currentLimit == 0
    | none => false

section Memory

variable {s : Sandbox} {t : MemoryTotals} {m : LinuxMemory} {GuestSwap : Bool}
  {HugepageLimits : List LinuxHugepageLimit}

theorem currentLimit_nonneg (m : LinuxMemory) : 0 ≤ m.currentLimit.toInt := by
  unfold LinuxMemory.currentLimit
  split
  · split
    · next h => exact Int.le_of_lt (Int64.lt_iff_toInt_lt.mp h)
    · exact Int.le_refl 0
  · exact Int.le_refl 0

theorem currentLimit_of_not_any (h : m.Limit.any (fun l => l > 0) = false) :
    m.currentLimit = 0 := by
  unfold LinuxMemory.currentLimit
  split
  · next l hl =>
    rw [hl] at h
    simp only [Option.any_some, decide_eq_false_iff_not] at h
    rw [if_neg h]
  · rfl

/-- A `uint64` sum of hugepage limits is the natural sum modulo `2 ^ 64`. -/
theorem toNat_foldl_hugepages (a : UInt64) :
    (HugepageLimits.foldl (fun acc l => acc + l.Limit) a).toNat =
      (a.toNat + (HugepageLimits.map fun l => l.Limit.toNat).sum) % 2 ^ 64 := by
  induction HugepageLimits generalizing a with
  | nil =>
    rw [List.foldl_nil, List.map_nil, List.sum_nil, Nat.add_zero, Nat.mod_eq_of_lt a.toNat_lt]
  | cons l ls ih =>
    rw [List.foldl_cons, ih, UInt64.toNat_add, List.map_cons, List.sum_cons, Nat.mod_add_mod,
      Nat.add_assoc]

/-- Whatever happens to the swap, the round adds the limit and the hugepages to the memory. -/
theorem addMemory_memorySandbox :
    (addMemory GuestSwap t m HugepageLimits).memorySandbox =
      HugepageLimits.foldl (fun acc l => acc + l.Limit)
        (if m.Limit.any (fun l => l > 0) then t.memorySandbox + m.currentLimit.toUInt64
        else t.memorySandbox) := by
  unfold addMemory
  dsimp only
  split_ifs <;> rfl

theorem toNat_addMemory_memorySandbox :
    (addMemory GuestSwap t m HugepageLimits).memorySandbox.toNat =
      (t.memorySandbox.toNat + m.demand HugepageLimits) % 2 ^ 64 := by
  rw [addMemory_memorySandbox, toNat_foldl_hugepages, LinuxMemory.demand]
  have hcl := Checked.toNat_toUInt64_of_nonneg (currentLimit_nonneg m)
  split
  · -- the limit is set and positive: the sum wraps at `2 ^ 64` like the hugepages
    rw [UInt64.toNat_add, Nat.mod_add_mod, ← Nat.add_assoc]
    congr 3
    omega
  · next h =>
    rw [currentLimit_of_not_any (Bool.eq_false_iff.mpr h), Int64.toInt_zero, Int.toNat_zero,
      Nat.zero_add]

theorem toNat_memoryRound_memorySandbox (c : ContainerConfig) :
    (memoryRound s t c).memorySandbox.toNat = (t.memorySandbox.toNat + s.counted c) % 2 ^ 64 := by
  unfold memoryRound Sandbox.counted
  split
  · rw [Nat.add_zero, Nat.mod_eq_of_lt t.memorySandbox.toNat_lt]
  · split
    · exact toNat_addMemory_memorySandbox
    · rw [Nat.add_zero, Nat.mod_eq_of_lt t.memorySandbox.toNat_lt]

/-- The memory total over the loop: the natural sum of what it counts, modulo `2 ^ 64`. -/
theorem toNat_foldl_memorySandbox (l : List ContainerConfig) (t : MemoryTotals) :
    (l.foldl (memoryRound s) t).memorySandbox.toNat =
      (t.memorySandbox.toNat + (l.map s.counted).sum) % 2 ^ 64 := by
  induction l generalizing t with
  | nil => rw [List.foldl_nil, List.map_nil, List.sum_nil, Nat.add_zero,
      Nat.mod_eq_of_lt t.memorySandbox.toNat_lt]
  | cons c l ih =>
    rw [List.foldl_cons, ih, toNat_memoryRound_memorySandbox, List.map_cons, List.sum_cons,
      Nat.mod_add_mod, Nat.add_assoc]

theorem memorySandbox_eq (s : Sandbox) :
    (calculateSandboxMemory s).1.toNat = (s.Containers.map s.counted).sum % 2 ^ 64 := by
  rw [calculateSandboxMemory, toNat_foldl_memorySandbox]
  exact congrArg (· % 2 ^ 64) (Nat.zero_add _)

theorem memoryRound_needPodSwap (c : ContainerConfig) :
    (memoryRound s t c).needPodSwap = (t.needPodSwap || s.needsPodSwap c) := by
  unfold memoryRound Sandbox.needsPodSwap
  split
  · next h => rw [h, Bool.not_true, Bool.false_and, Bool.or_false]
  · next h =>
    rw [Bool.eq_false_iff.mpr h, Bool.not_false, Bool.true_and]
    split
    · unfold addMemory
      dsimp only
      split_ifs <;> simp_all
    · rw [Bool.or_false]

theorem needPodSwap_iff (s : Sandbox) :
    (calculateSandboxMemory s).2.1 = s.Containers.any s.needsPodSwap := by
  have h : ∀ (l : List ContainerConfig) (t : MemoryTotals),
      (l.foldl (memoryRound s) t).needPodSwap = (t.needPodSwap || l.any s.needsPodSwap) := by
    intro l
    induction l with
    | nil => intro t; rw [List.foldl_nil, List.any_nil, Bool.or_false]
    | cons c l ih =>
      intro t
      rw [List.foldl_cons, ih, memoryRound_needPodSwap, List.any_cons, Bool.or_assoc]
  rw [calculateSandboxMemory]
  exact (h s.Containers ⟨0, false, 0⟩).trans (Bool.false_or _)

/-- A container whose swap exceeds its limit sets the swap total to the difference. -/
theorem swapSandbox_overwrite {c : ContainerConfig} {w : Int64} (hrun : s.isStopped c.ID = false)
    (hm : c.Resources.Memory = some m) (hguest : s.GuestSwap = true)
    (hsw : m.Swappiness.any (fun v => v > 0) = true) (hswap : m.Swap = some w)
    (hlt : m.currentLimit < w) :
    (memoryRound s t c).swapSandbox = w - m.currentLimit := by
  have hw : w ≠ 0 := by
    rintro rfl
    have := Int64.lt_iff_toInt_lt.mp hlt
    have := currentLimit_nonneg m
    rw [Int64.toInt_zero] at *
    omega
  simp only [memoryRound, hrun, Bool.false_eq_true, if_false, hm, addMemory, hguest, hsw,
    Bool.and_self, if_true, hswap, Option.getD_some, hw, hlt]

/-- A container with a positive limit and no swap adds its limit to the swap total. -/
theorem swapSandbox_add {c : ContainerConfig} (hrun : s.isStopped c.ID = false)
    (hm : c.Resources.Memory = some m) (hguest : s.GuestSwap = true)
    (hsw : m.Swappiness.any (fun v => v > 0) = true) (hswap : m.Swap.getD 0 = 0)
    (hlimit : m.currentLimit ≠ 0) :
    (memoryRound s t c).swapSandbox = t.swapSandbox + m.currentLimit := by
  simp only [memoryRound, hrun, Bool.false_eq_true, if_false, hm, addMemory, hguest, hsw,
    Bool.and_self, if_true, hswap, hlimit]

end Memory

/-- The memory total is the sum of what the counted containers ask for, modulo `2 ^ 64`, and
`needPodSwap` says whether one of them needs swap of the pod's own. The swap total is set by the
last container: one whose swap exceeds its limit makes it its own demand, whatever came before;
one with a positive limit and no swap adds its limit to the total of the containers before it. -/
theorem calculateSandboxMemory_order_dependent (s : Sandbox) :
    (calculateSandboxMemory s).1.toNat = (s.Containers.map s.counted).sum % 2 ^ 64 ∧
    (calculateSandboxMemory s).2.1 = s.Containers.any s.needsPodSwap ∧
    ∀ pre c m, s.Containers = pre ++ [c] → s.isStopped c.ID = false →
      c.Resources.Memory = some m → s.GuestSwap = true →
      m.Swappiness.any (fun v => v > 0) = true →
      (∀ w, m.Swap = some w → m.currentLimit < w →
        (calculateSandboxMemory s).2.2 = w - m.currentLimit) ∧
      (m.Swap.getD 0 = 0 → m.currentLimit ≠ 0 →
        (calculateSandboxMemory s).2.2 =
          (calculateSandboxMemory { s with Containers := pre }).2.2 + m.currentLimit) := by
  refine ⟨memorySandbox_eq s, needPodSwap_iff s, ?_⟩
  intro pre c m hs hrun hm hguest hsw
  -- the last round decides the swap total
  have hlast : (calculateSandboxMemory s).2.2 =
      (memoryRound s (pre.foldl (memoryRound s) ⟨0, false, 0⟩) c).swapSandbox := by
    rw [calculateSandboxMemory, hs, List.foldl_append, List.foldl_cons, List.foldl_nil]
  refine ⟨fun w hswap hlt => ?_, fun hswap hlimit => ?_⟩
  · rw [hlast, swapSandbox_overwrite hrun hm hguest hsw hswap hlt]
  · rw [hlast, swapSandbox_add hrun hm hguest hsw hswap hlimit]
    rfl

/-! ## `calculateSandboxCPUs` -/

/-- The value of a decimal digit. -/
def digitValue (d : Char) : Nat := d.toNat - '0'.toNat

/-- `strconv.Atoi` on a 64-bit platform: an optional sign and at least one decimal digit, within
`int`. -/
def Atoi (s : List Char) : Except Unit Int :=
  let (neg, ds) : Bool × List Char :=
    match s with
    | '+' :: ds => (false, ds)
    | '-' :: ds => (true, ds)
    | ds => (false, ds)
  if ds.isEmpty || !ds.all Char.isDigit then .error ()
  else
    let n : Int := ds.foldl (fun n d => 10 * n + digitValue d) 0
    let v := if neg then -n else n
    if -2 ^ 63 ≤ v ∧ v < 2 ^ 63 then .ok v else .error ()

/-- `cpuset.Parse`: a comma-separated list of CPUs and ranges; a piece with more than one `-`
adds nothing. The set is the `CPUSet`'s elements. -/
def Parse (s : String) : Except Unit (Finset Int) :=
  if s.isEmpty then .ok ∅
  else
    (s.toList.splitOn ',').foldlM (fun b r =>
      match r.splitOn '-' with
      | [e] => do
        let elem ← Atoi e
        pure (insert elem b)
      | [s, e] => do
        let start ← Atoi s
        let stop ← Atoi e
        -- for e := start; e <= end; e++ { b.Add(e) }
        pure (b ∪ (Finset.range (stop + 1 - start).toNat).image fun i : Nat => start + i)
      | _ => pure b) ∅

/-- `utils.CalculateCPUsF`, with `float32` arithmetic read as exact rationals. -/
def CalculateCPUsF (quota : Int64) (period : UInt64) : ℚ :=
  -- If quota is -1, it means the CPU resource request is unconstrained.
  if quota ≥ 0 ∧ period ≠ 0 then (quota.toInt : ℚ) / (period.toNat : ℚ) else 0

/-- The loop of `calculateSandboxCPUs` over `floatCPU` and `cpusetCount`; `none` where a container's
CPU list does not parse and the function returns at once. -/
def cpuLoop (s : Sandbox) : List ContainerConfig → ℚ → Nat → Option (ℚ × Nat)
  | [], floatCPU, cpusetCount => some (floatCPU, cpusetCount)
  | c :: cs, floatCPU, cpusetCount =>
    -- Do not hot add again non-running containers resources
    if s.isStopped c.ID then cpuLoop s cs floatCPU cpusetCount
    else
      match c.Resources.CPU with
      | none => cpuLoop s cs floatCPU cpusetCount
      | some cpu =>
        let floatCPU :=
          match cpu.Period, cpu.Quota with
          | some period, some quota => floatCPU + CalculateCPUsF quota period
          | _, _ => floatCPU
        match Parse cpu.Cpus with
        | .error _ => none
        | .ok set => cpuLoop s cs floatCPU (cpusetCount + set.card)

/-- `calculateSandboxCPUs`, whose error is always `nil`: the number of CPUs, `0` when a CPU list does
not parse, the size of the CPU sets when no quota constrains the containers. -/
def calculateSandboxCPUs (s : Sandbox) : ℚ :=
  match cpuLoop s s.Containers 0 0 with
  | none => 0
  | some (floatCPU, cpusetCount) =>
    if floatCPU = 0 ∧ cpusetCount > 0 then cpusetCount else floatCPU

/-- The size of a container's CPU set as the loop counts it. -/
def Sandbox.cpusetCount (s : Sandbox) (c : ContainerConfig) : Nat :=
  if s.isStopped c.ID then 0
  else
    match c.Resources.CPU with
    | some cpu =>
      match Parse cpu.Cpus with
      | .ok set => set.card
      | .error _ => 0
    | none => 0

/-- A counted container with a CPU section whose CPU list does not parse. -/
def Sandbox.ParseFails (s : Sandbox) (c : ContainerConfig) : Prop :=
  s.isStopped c.ID = false ∧ ∃ cpu, c.Resources.CPU = some cpu ∧ ∃ e, Parse cpu.Cpus = .error e

/-- A counted container whose CPU section, if any, has no quota or no period. -/
def Sandbox.Unconstrained (s : Sandbox) (c : ContainerConfig) : Prop :=
  s.isStopped c.ID = false → ∀ cpu, c.Resources.CPU = some cpu → cpu.Period = none ∨ cpu.Quota = none

section Cpus

variable {s : Sandbox}

/-- One CPU list that does not parse ends the loop with nothing. -/
theorem cpuLoop_of_parse_fails {l : List ContainerConfig} {c : ContainerConfig} (hc : c ∈ l)
    (hfail : s.ParseFails c) (floatCPU : ℚ) (cpusetCount : Nat) :
    cpuLoop s l floatCPU cpusetCount = none := by
  obtain ⟨hrun, cpu, hcpu, e, he⟩ := hfail
  induction l generalizing floatCPU cpusetCount with
  | nil => cases hc
  | cons d l ih =>
    rcases List.mem_cons.mp hc with rfl | hc
    · simp only [cpuLoop, hrun, Bool.false_eq_true, if_false, hcpu, he]
    · unfold cpuLoop
      split
      · exact ih hc _ _
      split
      · exact ih hc _ _
      · dsimp only
        split
        · rfl
        · exact ih hc _ _

/-- Without quotas, and with every CPU list parsing, the loop adds up the sizes of the CPU sets
and leaves `floatCPU` alone. -/
theorem cpuLoop_unconstrained {l : List ContainerConfig} (hfree : ∀ c ∈ l, s.Unconstrained c)
    (hparse : ∀ c ∈ l, ¬ s.ParseFails c) (floatCPU : ℚ) (cpusetCount : Nat) :
    cpuLoop s l floatCPU cpusetCount =
      some (floatCPU, cpusetCount + (l.map s.cpusetCount).sum) := by
  induction l generalizing cpusetCount with
  | nil => rfl
  | cons c l ih =>
    have hfree' := fun d hd => hfree d (List.mem_cons_of_mem c hd)
    have hparse' := fun d hd => hparse d (List.mem_cons_of_mem c hd)
    rw [List.map_cons, List.sum_cons, ← Nat.add_assoc]
    unfold cpuLoop
    split
    · next hstop =>
      have hcount : s.cpusetCount c = 0 := by simp only [Sandbox.cpusetCount, hstop, if_true]
      rw [ih hfree' hparse', hcount, Nat.add_zero]
    · next hrun =>
      have hrun := Bool.eq_false_iff.mpr hrun
      split
      · next hcpu =>
        have hcount : s.cpusetCount c = 0 := by
          simp only [Sandbox.cpusetCount, hrun, Bool.false_eq_true, if_false, hcpu]
        rw [ih hfree' hparse', hcount, Nat.add_zero]
      · next cpu hcpu =>
        -- no quota: `floatCPU` stays as it is
        have hnone := hfree c List.mem_cons_self hrun cpu hcpu
        have hfloat : (match cpu.Period, cpu.Quota with
            | some period, some quota => floatCPU + CalculateCPUsF quota period
            | _, _ => floatCPU) = floatCPU := by
          rcases hnone with h | h
          · rw [h]
          · rw [h]
            cases cpu.Period <;> rfl
        dsimp only
        rw [hfloat]
        split
        · next e he => exact absurd ⟨hrun, cpu, hcpu, e, he⟩ (hparse c List.mem_cons_self)
        · next set hset =>
          have hcount : s.cpusetCount c = set.card := by
            simp only [Sandbox.cpusetCount, hrun, Bool.false_eq_true, if_false, hcpu, hset]
          rw [ih hfree' hparse', hcount]

theorem calculateSandboxCPUs_of_parse_fails {c : ContainerConfig} (hc : c ∈ s.Containers)
    (hfail : s.ParseFails c) : calculateSandboxCPUs s = 0 := by
  rw [calculateSandboxCPUs, cpuLoop_of_parse_fails hc hfail]

/-- Without quotas, the sandbox gets as many CPUs as the containers' CPU sets hold between them,
each set counted on its own. -/
theorem calculateSandboxCPUs_unconstrained (hfree : ∀ c ∈ s.Containers, s.Unconstrained c)
    (hparse : ∀ c ∈ s.Containers, ¬ s.ParseFails c) :
    calculateSandboxCPUs s = ((s.Containers.map s.cpusetCount).sum : ℚ) := by
  rw [calculateSandboxCPUs, cpuLoop_unconstrained hfree hparse, Nat.zero_add]
  dsimp only
  split
  · rfl
  · next h =>
    -- the sets are all empty
    have hzero : (s.Containers.map s.cpusetCount).sum = 0 := by
      by_contra hne
      exact h ⟨rfl, Nat.pos_of_ne_zero hne⟩
    rw [hzero]
    rfl

end Cpus

/-- A container with a limit of 1024 and no swap, and one with a limit of 1024 and a memory+swap
total of 3072, both with swappiness 60. -/
def limit_only : ContainerConfig := ⟨"a", ⟨some ⟨some 1024, none, some 60⟩, none, []⟩⟩

def swap_over_limit : ContainerConfig := ⟨"b", ⟨some ⟨some 1024, some 3072, some 60⟩, none, []⟩⟩

/-- The swap demands are 1024 and 2048. Listed as `limit_only, swap_over_limit` the total is 2048;
the other way round it is 3072. -/
theorem calculateSandboxMemory_order_dependent_two :
    (calculateSandboxMemory ⟨[limit_only, swap_over_limit], [], true⟩).2.2 = 2048 ∧
      (calculateSandboxMemory ⟨[swap_over_limit, limit_only], [], true⟩).2.2 = 3072 := by
  have h₁ := ((calculateSandboxMemory_order_dependent ⟨[limit_only, swap_over_limit], [], true⟩).2.2
    [limit_only] swap_over_limit ⟨some 1024, some 3072, some 60⟩ rfl rfl rfl rfl rfl).1 3072 rfl
    (by decide)
  have h₂ := ((calculateSandboxMemory_order_dependent ⟨[swap_over_limit, limit_only], [], true⟩).2.2
    [swap_over_limit] limit_only ⟨some 1024, none, some 60⟩ rfl rfl rfl rfl rfl).2 rfl (by decide)
  refine ⟨h₁.trans (by decide), h₂.trans (by decide)⟩

end KataContainers.Runtime.SandboxResources
