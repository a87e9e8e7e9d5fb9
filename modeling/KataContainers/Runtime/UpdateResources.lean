import Mathlib

/-!
# The memory loop of `updateResources`

Model of the loop of `Sandbox.updateResources` in `src/runtime/virtcontainers/sandbox.go` that
grows the guest's memory towards `finalMemoryMB`, step by step under ACPI hotplug (at most
`acpiMemoryHotplugFactor` times what the guest has) and in one step up to `DefaultMaxMemorySize`
under virtio-mem. `updateMemory` is what the hypervisor and the agent do with a request: an error
that ends the loop, or the total that `GetTotalMemoryMB` then reads (`Resize`); an error
`noGuestMemHotplugErr` is swallowed, and the total then stays as it was.

The loop stops on the request it made, not on what the guest got: a guest whose hypervisor cannot
hotplug, and that is more than 49 times short of the final size, is asked for the same step for ever
(`memory_loop_no_hotplug`). Under virtio-mem the same happens to a final size above the maximum, even
with a hypervisor that grants every request (`memory_loop_virtio_mem_above_max`).
-/

namespace KataContainers.Runtime

def acpiMemoryHotplugFactor : UInt32 := 48

/-- Go's `int32(x)` of a `uint32`: the same bits, read in two's complement. -/
def int32 (x : UInt32) : Int := if x.toNat < 2 ^ 31 then x.toNat else x.toNat - 2 ^ 32

/-- What the loop reads of `HypervisorConfig`. -/
structure HypervisorConfig where
  VirtioMem : Bool
  DefaultMaxMemorySize : UInt64
  deriving DecidableEq, Repr

/-- `updateMemory` asked for `n` MB with the guest at `current` MB: an error, or the total the
guest has then. -/
abbrev Resize := UInt32 → UInt32 → Option UInt32

/-- The request of one round, with the guest at `currentMemoryMB`. -/
def nextRequest (hconfig : HypervisorConfig) (finalMemoryMB currentMemoryMB : UInt32) : UInt32 :=
  let maxhotPluggableMemoryMB :=
    if hconfig.VirtioMem then hconfig.DefaultMaxMemorySize.toUInt32 - currentMemoryMB
    else currentMemoryMB * acpiMemoryHotplugFactor
  let deltaMB := int32 (finalMemoryMB - currentMemoryMB)
  if deltaMB > int32 maxhotPluggableMemoryMB then currentMemoryMB + maxhotPluggableMemoryMB
  else finalMemoryMB

/-- The loop, from a guest of `currentMemoryMB`: `none` when it has not ended within `fuel` rounds,
else the error of `updateMemory` or the total the guest ends with. -/
def memory_loop (hconfig : HypervisorConfig) (resize : Resize) (finalMemoryMB : UInt32) :
    Nat → UInt32 → Option (Except Unit UInt32)
  | 0, _ => none
  | fuel + 1, currentMemoryMB =>
    let newMemoryMB := nextRequest hconfig finalMemoryMB currentMemoryMB
    match resize currentMemoryMB newMemoryMB with
    | none => some (.error ())
    | some total =>
      if newMemoryMB = finalMemoryMB then some (.ok total)
      else memory_loop hconfig resize finalMemoryMB fuel total

/-- A hypervisor without memory hotplug: `ResizeMemory` fails with `noGuestMemHotplugErr`, which
`updateMemory` only logs, and the guest keeps what it has. -/
def noHotplug : Resize := fun current _ => some current

/-- A hypervisor that grants every request. -/
def exact : Resize := fun _ n => some n

/-- A round that asks for something other than the final size, and gets a total back, goes on
from that total. -/
theorem memory_loop_succ {hconfig : HypervisorConfig} {resize : Resize} {final current total : UInt32}
    (fuel : Nat) (hr : resize current (nextRequest hconfig final current) = some total)
    (hne : nextRequest hconfig final current ≠ final) :
    memory_loop hconfig resize final (fuel + 1) current =
      memory_loop hconfig resize final fuel total := by
  simp only [memory_loop, hr, if_neg hne]

/-- A round that leaves the guest as it was and does not ask for the final size is a fixed
point: the loop never ends. -/
theorem memory_loop_stuck {hconfig : HypervisorConfig} {resize : Resize} {final current : UInt32}
    (hr : resize current (nextRequest hconfig final current) = some current)
    (hne : nextRequest hconfig final current ≠ final) :
    ∀ fuel, memory_loop hconfig resize final fuel current = none := by
  intro fuel
  induction fuel with
  | zero => rfl
  | succ fuel ih => rw [memory_loop_succ fuel hr hne, ih]

section
variable {current final : UInt32}

theorem int32_of_lt {x : UInt32} (hx : x.toNat < 2 ^ 31) : int32 x = x.toNat := by
  unfold int32
  rw [if_pos hx]

/-- Under ACPI, a guest more than 49 times short of the final size, within `int32`, is asked for
49 times what it has. -/
theorem nextRequest_acpi {hconfig : HypervisorConfig} (hv : hconfig.VirtioMem = false)
    (hfinal : 49 * current.toNat < final.toNat) (hbound : final.toNat < 2 ^ 31) :
    (nextRequest hconfig final current).toNat = 49 * current.toNat := by
  have hmax : (current * acpiMemoryHotplugFactor).toNat = 48 * current.toNat := by
    rw [UInt32.toNat_mul]
    simp only [acpiMemoryHotplugFactor, UInt32.reduceToNat]
    omega
  have hdelta : (final - current).toNat = final.toNat - current.toNat :=
    UInt32.toNat_sub_of_le _ _ (UInt32.le_iff_toNat_le.mpr (by omega))
  have hgt : int32 (final - current) > int32 (current * acpiMemoryHotplugFactor) := by
    rw [int32_of_lt (by omega), int32_of_lt (by omega), hdelta, hmax]
    omega
  simp only [nextRequest, hv, Bool.false_eq_true, if_false, if_pos hgt]
  rw [UInt32.toNat_add, hmax]
  omega

/-- With a hypervisor that cannot hotplug memory, under ACPI, the loop never ends for a guest
of `current` MB more than 49 times short of the final size. -/
theorem memory_loop_no_hotplug (hconfig : HypervisorConfig) (hv : hconfig.VirtioMem = false)
    (hfinal : 49 * current.toNat < final.toNat) (hbound : final.toNat < 2 ^ 31) (fuel : Nat) :
    memory_loop hconfig noHotplug final fuel current = none := by
  apply memory_loop_stuck rfl
  intro he
  have h := nextRequest_acpi hv hfinal hbound
  rw [he] at h
  omega

/-- Under virtio-mem, a guest at the maximum size is asked for the maximum again while the final
size is above it. -/
theorem nextRequest_virtio_mem_at_max {hconfig : HypervisorConfig} (hv : hconfig.VirtioMem = true)
    (hcur : current = hconfig.DefaultMaxMemorySize.toUInt32)
    (hfinal : current.toNat < final.toNat) (hbound : final.toNat < 2 ^ 31) :
    nextRequest hconfig final current = current := by
  have hdelta : (final - current).toNat = final.toNat - current.toNat :=
    UInt32.toNat_sub_of_le _ _ (UInt32.le_iff_toNat_le.mpr (by omega))
  -- the guest may grow by nothing, and still lacks something
  have hgt : int32 (final - current) > int32 0 := by
    rw [int32_of_lt (by omega), int32_of_lt (by decide), hdelta, UInt32.toNat_zero]
    omega
  simp only [nextRequest, hv, if_true, ← hcur, UInt32.sub_self, if_pos hgt, UInt32.add_zero]

/-- Under virtio-mem, with a hypervisor that grants every request, the loop never ends once the
guest is at the maximum size and the final size is above it. -/
theorem memory_loop_virtio_mem_above_max (hconfig : HypervisorConfig) (hv : hconfig.VirtioMem = true)
    (hcur : current = hconfig.DefaultMaxMemorySize.toUInt32)
    (hfinal : current.toNat < final.toNat) (hbound : final.toNat < 2 ^ 31) (fuel : Nat) :
    memory_loop hconfig exact final fuel current = none := by
  have hreq := nextRequest_virtio_mem_at_max hv hcur hfinal hbound
  apply memory_loop_stuck (by rw [hreq]; rfl)
  rw [hreq]
  intro he
  rw [he] at hfinal
  omega

end

/-- A guest of 256 MB under ACPI, to be grown to 12545 MB, on a hypervisor without hotplug. -/
theorem memory_loop_no_hotplug_256 :
    (⟨false, 0⟩ : HypervisorConfig).VirtioMem = false ∧
      49 * (256 : UInt32).toNat < (12545 : UInt32).toNat ∧ (12545 : UInt32).toNat < 2 ^ 31 ∧
      ∀ fuel, memory_loop ⟨false, 0⟩ noHotplug 12545 fuel 256 = none :=
  ⟨rfl, by decide, by decide, memory_loop_no_hotplug ⟨false, 0⟩ rfl (by decide) (by decide)⟩

end KataContainers.Runtime
