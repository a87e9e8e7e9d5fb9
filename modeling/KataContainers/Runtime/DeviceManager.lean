import KataContainers.Lib.List

/-!
# The block devices of the device manager

Model of the `deviceManager` of `src/runtime/pkg/device/manager/manager.go` (`NewDevice`,
`AttachDevice`, `DetachDevice`, `RemoveDevice`) on block devices, with `BlockDevice.Attach` and
`Detach` of `pkg/device/drivers/block.go`, the counters of `GenericDevice` (`Reference`,
`Dereference`, `bumpAttachCount`), and the block indices of the sandbox
(`getAndSetSandboxBlockIndex`, `unsetSandboxBlockIndex` in `virtcontainers/sandbox.go`).

A device is a pointer in the manager's map, so a method that changes it changes the map's
device: here the map holds the device, and an operation returns the new map. The sandbox is the
`DeviceReceiver`; whether its calls fail is given with each operation (`AttachOutcome`), and a
deferred function is written out on every path that returns.

For the ACRN hypervisor `Attach` reserves an index and puts the next one in the drive, and
`Detach` releases the drive's index: the index reserved stays taken, and the one released may be
another device's (`acrn_detach_releases_other_index`).
-/

namespace KataContainers.Runtime.Device

/-- `intMax = ^uint(0)`. -/
def intMax : Nat := 2 ^ 64 - 1

def maxBlockIndex : Nat := 65535

def maxSCSIDevices : Int := 65535

def BlockDriverOpt : String := "block-driver"
def VirtioMmio : String := "virtio-mmio"
def VirtioBlock : String := "virtio-blk"
def VirtioBlockCCW : String := "virtio-blk-ccw"
def VirtioSCSI : String := "virtio-scsi"
def Nvdimm : String := "nvdimm"

/-- The errors of the device manager and of the calls it makes. -/
inductive DeviceError
  /-- `ErrDeviceNotExist` -/
  | ErrDeviceNotExist
  /-- `ErrDeviceNotAttached` -/
  | ErrDeviceNotAttached
  /-- `ErrRemoveAttachedDevice` -/
  | ErrRemoveAttachedDevice
  /-- `ErrIDExhausted` -/
  | ErrIDExhausted
  /-- `"device was attached too many times"` -/
  | attachedTooManyTimes
  /-- `"detaching a device that wasn't attached"` -/
  | detachNotAttached
  /-- `"no available block index"`, or another failure of `GetAndSetSandboxBlockIndex` -/
  | noAvailableBlockIndex
  /-- `"Index cannot be negative"` -/
  | scsiIndexNegative
  /-- `"Index cannot be greater than %d, maximum of %d devices are supported"` -/
  | scsiIndexTooLarge
  /-- `"Index cannot be negative for drive"` -/
  | driveIndexNegative
  /-- `"Index not supported"` -/
  | driveIndexNotSupported
  /-- an error of `GetHostPathFunc` -/
  | hostPath
  /-- an error of `HotplugAddDevice` -/
  | hotplugAdd
  /-- an error of `HotplugRemoveDevice` -/
  | hotplugRemove
  /-- the nil pointer dereference of `device.BlockDrive.Index` on a device without a drive -/
  | nilBlockDrive
  deriving DecidableEq, Repr

/-- `config.DeviceInfo`, the fields the manager reads. -/
structure DeviceInfo where
  HostPath : String
  Major : Int
  Minor : Int
  Pmem : Bool
  DriverOptions : Option (List (String × String))
  deriving DecidableEq, Repr

/-- `config.BlockDrive`, the fields `Attach` sets. -/
structure BlockDrive where
  File : String
  Index : Int
  SCSIAddr : String
  VirtPath : String
  deriving DecidableEq, Repr

/-- A `BlockDevice`: its ID and info, the counters of its `GenericDevice`, and its drive. -/
structure BlockDevice where
  ID : String
  DeviceInfo : DeviceInfo
  RefCount : Nat
  AttachCount : Nat
  BlockDrive : Option BlockDrive
  deriving DecidableEq, Repr

/-! ## The counters -/

def BlockDevice.Reference (d : BlockDevice) : BlockDevice :=
  if d.RefCount ≠ intMax then { d with RefCount := d.RefCount + 1 } else d

def BlockDevice.Dereference (d : BlockDevice) : BlockDevice :=
  if d.RefCount ≠ 0 then { d with RefCount := d.RefCount - 1 } else d

/-- `bumpAttachCount`: whether to skip the real attach or detach, or an error. -/
def BlockDevice.bumpAttachCount (d : BlockDevice) (attach : Bool) :
    BlockDevice × Except DeviceError Bool :=
  if attach then
    if d.AttachCount = 0 then ({ d with AttachCount := d.AttachCount + 1 }, .ok false)
    else if d.AttachCount = intMax then (d, .error .attachedTooManyTimes)
    else ({ d with AttachCount := d.AttachCount + 1 }, .ok true)
  else
    if d.AttachCount = 0 then (d, .error .detachNotAttached)
    else if d.AttachCount = 1 then ({ d with AttachCount := d.AttachCount - 1 }, .ok false)
    else ({ d with AttachCount := d.AttachCount - 1 }, .ok true)

/-! ## The sandbox -/

/-- What the block devices use of the `Sandbox` as `DeviceReceiver`: the keys of
`state.BlockIndexMap`, the hypervisor type, and the IDs of the devices hot-plugged. -/
structure Sandbox where
  BlockIndexMap : List Int
  hypervisorType : String
  hotplugged : List String
  deriving DecidableEq, Repr

/-- The first of `n` indices from `i` that the map does not hold. -/
def firstFree (m : List Int) (i : Nat) : Nat → Option Nat
  | 0 => none
  | n + 1 => if (i : Int) ∈ m then firstFree m (i + 1) n else some i

/-- `getAndSetSandboxBlockIndex`, which returns `-1` with its error; `fails` is a failure of the
call. -/
def Sandbox.GetAndSetSandboxBlockIndex (s : Sandbox) (fails : Bool) :
    Sandbox × Int × Except DeviceError Unit :=
  if fails then (s, -1, .error .noAvailableBlockIndex)
  else
    match firstFree s.BlockIndexMap 0 maxBlockIndex with
    | none => (s, -1, .error .noAvailableBlockIndex)
    | some i => ({ s with BlockIndexMap := s.BlockIndexMap ++ [(i : Int)] }, i, .ok ())

/-- `unsetSandboxBlockIndex`: `delete(s.state.BlockIndexMap, index)`. -/
def Sandbox.UnsetSandboxBlockIndex (s : Sandbox) (index : Int) : Sandbox :=
  { s with BlockIndexMap := s.BlockIndexMap.filter (· ≠ index) }

def Sandbox.HotplugAddDevice (s : Sandbox) (d : BlockDevice) (fails : Bool) :
    Sandbox × Except DeviceError Unit :=
  if fails then (s, .error .hotplugAdd)
  else ({ s with hotplugged := s.hotplugged ++ [d.ID] }, .ok ())

def Sandbox.HotplugRemoveDevice (s : Sandbox) (d : BlockDevice) (fails : Bool) :
    Sandbox × Except DeviceError Unit :=
  if fails then (s, .error .hotplugRemove)
  else ({ s with hotplugged := s.hotplugged.filter (· ≠ d.ID) }, .ok ())

/-! ## The drive -/

/-- `GetSCSIAddress`, through `GetSCSIIdLun`. -/
def GetSCSIAddress (index : Int) : Except DeviceError String :=
  if index < 0 then .error .scsiIndexNegative
  else if index > maxSCSIDevices then .error .scsiIndexTooLarge
  else .ok (toString (index / 256) ++ ":" ++ toString (index % 256))

/-- The loop of `GetVirtDriveName`: at most `n` letters, the last digit first, and the index left. -/
def driveLetters : Nat → Int → List Char × Int
  | 0, index => ([], index)
  | n + 1, index =>
    if index < 0 then ([], index)
    else
      let r := driveLetters n (index / 26 - 1)
      (Char.ofNat ('a'.toNat + (index % 26).toNat) :: r.1, r.2)

def GetVirtDriveName (index : Int) : Except DeviceError String :=
  if index < 0 then .error .driveIndexNegative
  else
    let r := driveLetters (32 - 2) index
    if r.2 ≥ 0 then .error .driveIndexNotSupported
    else .ok ("vd" ++ String.ofList r.1.reverse)

/-- The drive that `Attach` builds at `index`: a SCSI address by default, a name under `/dev` for
a virtio block driver, nothing more for NVDIMM. -/
def BlockDevice.drive (d : BlockDevice) (index : Int) : Except DeviceError Device.BlockDrive :=
  let drive : Device.BlockDrive := ⟨d.DeviceInfo.HostPath, index, "", ""⟩
  let customOptions := d.DeviceInfo.DriverOptions
  -- a missing key of a Go map reads as ""
  let driver := ((customOptions.bind fun o => o.lookup BlockDriverOpt)).getD ""
  if customOptions.isNone || driver == VirtioSCSI then
    match GetSCSIAddress index with
    | .error e => .error e
    | .ok scsiAddr => .ok { drive with SCSIAddr := scsiAddr }
  else if driver != Nvdimm then
    let globalIdx : Int :=
      if driver = VirtioBlock then index
      else if driver = VirtioBlockCCW then index
      else if driver = VirtioMmio then index + 1
      else 0
    match GetVirtDriveName globalIdx with
    | .error e => .error e
    | .ok driveName => .ok { drive with VirtPath := "/dev/" ++ driveName }
  else .ok drive

/-! ## Attach and detach -/

/-- How the sandbox's calls of one `Attach` go: whether `GetAndSetSandboxBlockIndex` and
`HotplugAddDevice` fail. -/
structure AttachOutcome where
  indexFails : Bool
  hotplugFails : Bool
  deriving DecidableEq, Repr

/-- `BlockDevice.Attach`. The deferred function releases `index`, the variable as it is when the
function returns, and takes the attach count back, on every error after the count went up. -/
def BlockDevice.Attach (d : BlockDevice) (s : Sandbox) (o : AttachOutcome) :
    BlockDevice × Sandbox × Except DeviceError Unit :=
  match d.bumpAttachCount true with
  | (d, .error e) => (d, s, .error e)
  | (d, .ok true) => (d, s, .ok ())
  | (d, .ok false) =>
    match s.GetAndSetSandboxBlockIndex o.indexFails with
    | (s, index, .error e) => ((d.bumpAttachCount false).1, s.UnsetSandboxBlockIndex index, .error e)
    | (s, index, .ok ()) =>
      let index := if s.hypervisorType = "acrn" then index + 1 else index
      match d.drive index with
      | .error e => ((d.bumpAttachCount false).1, s.UnsetSandboxBlockIndex index, .error e)
      | .ok drive =>
        let d := { d with BlockDrive := some drive }
        match s.HotplugAddDevice d o.hotplugFails with
        | (s, .error e) => ((d.bumpAttachCount false).1, s.UnsetSandboxBlockIndex index, .error e)
        | (s, .ok ()) => (d, s, .ok ())

/-- `BlockDevice.Detach`, whose deferred function takes the count back on an error and releases
the drive's index otherwise. -/
def BlockDevice.Detach (d : BlockDevice) (s : Sandbox) (removeFails : Bool) :
    BlockDevice × Sandbox × Except DeviceError Unit :=
  match d.bumpAttachCount false with
  | (d, .error e) => (d, s, .error e)
  | (d, .ok true) => (d, s, .ok ())
  | (d, .ok false) =>
    match s.HotplugRemoveDevice d removeFails with
    | (s, .error e) => ((d.bumpAttachCount true).1, s, .error e)
    | (s, .ok ()) =>
      match d.BlockDrive with
      | some drive => (d, s.UnsetSandboxBlockIndex drive.Index, .ok ())
      | none => (d, s, .error .nilBlockDrive)

/-! ## The manager -/

/-- The `deviceManager` with the sandbox its calls are made with. -/
structure Manager where
  devices : List (String × BlockDevice)
  blockDriver : String
  sandbox : Sandbox
  deriving DecidableEq, Repr

/-- `dm.devices[id] = dev`. -/
def Manager.set (dm : Manager) (id : String) (dev : BlockDevice) : Manager :=
  if (dm.devices.lookup id).isSome then
    { dm with devices := dm.devices.map fun e => if e.1 = id then (id, dev) else e }
  else { dm with devices := dm.devices ++ [(id, dev)] }

/-- `findDevice`: by host path for a major of `-1`, else by major and minor; the map's first
match. -/
def Manager.findDevice (dm : Manager) (devInfo : DeviceInfo) : Option BlockDevice :=
  if devInfo.Major = -1 then
    (dm.devices.find? fun e => e.2.DeviceInfo.Major = -1 ∧ e.2.DeviceInfo.HostPath = devInfo.HostPath).map
      (·.2)
  else
    (dm.devices.find? fun e =>
      e.2.DeviceInfo.Major = devInfo.Major ∧ e.2.DeviceInfo.Minor = devInfo.Minor).map (·.2)

/-- `newDeviceID`: the first of five random IDs that is not in use. -/
def Manager.newDeviceID (dm : Manager) (randomIds : List String) : Except DeviceError String :=
  match (randomIds.take 5).find? fun id => (dm.devices.lookup id).isNone with
  | some id => .ok id
  | none => .error .ErrIDExhausted

/-- `createDevice` of a block device, with what `GetHostPathFunc` returns and the random IDs;
the deferred `Reference` is on the device returned. -/
def Manager.createDevice (dm : Manager) (devInfo : DeviceInfo)
    (hostPath : Except DeviceError String) (randomIds : List String) :
    Except DeviceError BlockDevice := do
  let devInfo ← if devInfo.Pmem then pure devInfo
    else do
      let path ← hostPath
      pure { devInfo with HostPath := path }
  match dm.findDevice devInfo with
  | some existingDev => pure existingDev.Reference
  | none =>
    let id ← dm.newDeviceID randomIds
    let options := (devInfo.DriverOptions.getD []).filter (·.1 ≠ BlockDriverOpt)
    let devInfo := { devInfo with DriverOptions := some (options ++ [(BlockDriverOpt, dm.blockDriver)]) }
    pure (BlockDevice.Reference ⟨id, devInfo, 0, 0, none⟩)

/-- The operations of the manager, with how the sandbox's calls go. -/
inductive Op
  | NewDevice (devInfo : DeviceInfo) (hostPath : Except DeviceError String)
      (randomIds : List String)
  | AttachDevice (id : String) (o : AttachOutcome)
  | DetachDevice (id : String) (removeFails : Bool)
  | RemoveDevice (id : String)
  deriving DecidableEq, Repr

def Manager.NewDevice (dm : Manager) (devInfo : DeviceInfo) (hostPath : Except DeviceError String)
    (randomIds : List String) : Manager × Except DeviceError Unit :=
  match dm.createDevice devInfo hostPath randomIds with
  | .error e => (dm, .error e)
  | .ok dev => (dm.set dev.ID dev, .ok ())

def Manager.RemoveDevice (dm : Manager) (id : String) : Manager × Except DeviceError Unit :=
  match dm.devices.lookup id with
  | none => (dm, .error .ErrDeviceNotExist)
  | some dev =>
    let dev := dev.Dereference
    let dm := dm.set id dev
    if dev.RefCount = 0 then
      if dev.AttachCount > 0 then (dm, .error .ErrRemoveAttachedDevice)
      else ({ dm with devices := dm.devices.filter (·.1 ≠ id) }, .ok ())
    else (dm, .ok ())

def Manager.AttachDevice (dm : Manager) (id : String) (o : AttachOutcome) :
    Manager × Except DeviceError Unit :=
  match dm.devices.lookup id with
  | none => (dm, .error .ErrDeviceNotExist)
  | some dev =>
    let r := dev.Attach dm.sandbox o
    ({ dm.set id r.1 with sandbox := r.2.1 }, r.2.2)

def Manager.DetachDevice (dm : Manager) (id : String) (removeFails : Bool) :
    Manager × Except DeviceError Unit :=
  match dm.devices.lookup id with
  | none => (dm, .error .ErrDeviceNotExist)
  | some dev =>
    if dev.AttachCount = 0 then (dm, .error .ErrDeviceNotAttached)
    else
      let r := dev.Detach dm.sandbox removeFails
      ({ dm.set id r.1 with sandbox := r.2.1 }, r.2.2)

def Manager.step (dm : Manager) : Op → Manager × Except DeviceError Unit
  | .NewDevice devInfo hostPath randomIds => dm.NewDevice devInfo hostPath randomIds
  | .AttachDevice id o => dm.AttachDevice id o
  | .DetachDevice id removeFails => dm.DetachDevice id removeFails
  | .RemoveDevice id => dm.RemoveDevice id

/-- A sequence of operations, each on the manager the last left, whatever it returned. -/
def Manager.run (dm : Manager) : List Op → Manager
  | [] => dm
  | op :: ops => (dm.step op).1.run ops

/-! ## What a real attach and a real detach do to the indices -/

lemma BlockDevice.bumpAttachCount_attach_zero {d : BlockDevice} (h : d.AttachCount = 0) :
    d.bumpAttachCount true = ({ d with AttachCount := 1 }, .ok false) := by
  simp [BlockDevice.bumpAttachCount, h]

lemma BlockDevice.bumpAttachCount_detach_one {d : BlockDevice} (h : d.AttachCount = 1) :
    d.bumpAttachCount false = ({ d with AttachCount := 0 }, .ok false) := by
  simp [BlockDevice.bumpAttachCount, h]

lemma Sandbox.HotplugAddDevice_BlockIndexMap (s : Sandbox) (d : BlockDevice) (fails : Bool) :
    (s.HotplugAddDevice d fails).1.BlockIndexMap = s.BlockIndexMap := by
  unfold Sandbox.HotplugAddDevice
  split <;> rfl

lemma Sandbox.HotplugRemoveDevice_BlockIndexMap (s : Sandbox) (d : BlockDevice) (fails : Bool) :
    (s.HotplugRemoveDevice d fails).1.BlockIndexMap = s.BlockIndexMap := by
  unfold Sandbox.HotplugRemoveDevice
  split <;> rfl

lemma firstFree_not_mem {m : List Int} {i n k : Nat} (h : firstFree m i n = some k) :
    (k : Int) ∉ m := by
  induction n generalizing i with
  | zero => cases h
  | succ n ih =>
    simp only [firstFree] at h
    split_ifs at h with hi
    · exact ih h
    · cases h
      exact hi

/-- An index handed out was free, and is added to the map. -/
lemma Sandbox.GetAndSetSandboxBlockIndex_ok {s s' : Sandbox} {fails : Bool} {index : Int}
    (h : s.GetAndSetSandboxBlockIndex fails = (s', index, .ok ())) :
    ∃ k : Nat, index = k ∧ (k : Int) ∉ s.BlockIndexMap ∧
      s' = { s with BlockIndexMap := s.BlockIndexMap ++ [(k : Int)] } := by
  unfold Sandbox.GetAndSetSandboxBlockIndex at h
  split_ifs at h
  · cases h
  split at h
  · cases h
  next k hk =>
    cases h
    exact ⟨k, rfl, firstFree_not_mem hk, rfl⟩

lemma BlockDevice.drive_Index {d : BlockDevice} {index : Int} {drive : Device.BlockDrive}
    (h : d.drive index = .ok drive) : drive.Index = index := by
  unfold BlockDevice.drive at h
  dsimp only at h
  split_ifs at h <;> (try split at h) <;> cases h <;> rfl

/-- A real attach that succeeds has reserved a free index, and its drive has that index, or the
next one under ACRN. -/
lemma BlockDevice.Attach_of_unattached {d d' : BlockDevice} {s s' : Sandbox} {o : AttachOutcome}
    (hcount : d.AttachCount = 0) (h : d.Attach s o = (d', s', .ok ())) :
    ∃ k : Nat, (k : Int) ∉ s.BlockIndexMap ∧ s'.BlockIndexMap = s.BlockIndexMap ++ [(k : Int)] ∧
      ∃ drive, d'.BlockDrive = some drive ∧
        drive.Index = if s.hypervisorType = "acrn" then (k : Int) + 1 else k := by
  unfold BlockDevice.Attach at h
  rw [BlockDevice.bumpAttachCount_attach_zero hcount] at h
  dsimp only at h
  split at h
  · cases h
  next s₁ index hget =>
  obtain ⟨k, rfl, hfree, rfl⟩ := Sandbox.GetAndSetSandboxBlockIndex_ok hget
  dsimp only at h
  split at h
  · cases h
  next drive hdrive =>
  split at h
  · cases h
  next s₂ hadd =>
  simp only [Prod.mk.injEq] at h
  obtain ⟨rfl, rfl, -⟩ := h
  have hmap : s₂.BlockIndexMap = s.BlockIndexMap ++ [(k : Int)] := by
    have hsame := congrArg (fun r => r.1.BlockIndexMap) hadd
    simp only [Sandbox.HotplugAddDevice_BlockIndexMap] at hsame
    exact hsame.symm
  exact ⟨k, hfree, hmap, drive, rfl, BlockDevice.drive_Index hdrive⟩

/-- A real detach that succeeds releases the index in the device's drive. -/
lemma BlockDevice.Detach_of_attached_once {d d' : BlockDevice} {s s' : Sandbox}
    {removeFails : Bool} (hcount : d.AttachCount = 1)
    (h : d.Detach s removeFails = (d', s', .ok ())) :
    ∃ drive, d.BlockDrive = some drive ∧
      s'.BlockIndexMap = s.BlockIndexMap.filter (· ≠ drive.Index) := by
  unfold BlockDevice.Detach at h
  rw [BlockDevice.bumpAttachCount_detach_one hcount] at h
  dsimp only at h
  split at h
  · cases h
  next s₁ hremove =>
  have hmap : s₁.BlockIndexMap = s.BlockIndexMap := by
    have hsame := congrArg (fun r => r.1.BlockIndexMap) hremove
    simp only [Sandbox.HotplugRemoveDevice_BlockIndexMap] at hsame
    exact hsame.symm
  split at h
  next drive hdrive =>
    simp only [Prod.mk.injEq] at h
    obtain ⟨-, rfl, -⟩ := h
    exact ⟨drive, hdrive, by simp only [Sandbox.UnsetSandboxBlockIndex, hmap]⟩
  · cases h

lemma Manager.lookup_set_self (dm : Manager) (id : String) (dev : BlockDevice) :
    (dm.set id dev).devices.lookup id = some dev := by
  unfold Manager.set
  split_ifs with h
  · exact List.lookup_map_replace h
  · simp [List.lookup_append, Option.not_isSome_iff_eq_none.mp h]

/-- Under ACRN the drive of a device attached for the first time holds the index after the one
reserved, and a detach that takes the count to 0 releases the drive's index: the index reserved
stays in the map, and the one released may be another device's. -/
theorem acrn_detach_releases_other_index :
    (∀ (dm dm' : Manager) (id : String) (o : AttachOutcome) (dev : BlockDevice),
      dm.sandbox.hypervisorType = "acrn" → dm.devices.lookup id = some dev →
      dev.AttachCount = 0 → dm.step (.AttachDevice id o) = (dm', .ok ()) →
      ∃ k : Nat, (k : Int) ∉ dm.sandbox.BlockIndexMap ∧
        dm'.sandbox.BlockIndexMap = dm.sandbox.BlockIndexMap ++ [(k : Int)] ∧
        ∃ dev', dm'.devices.lookup id = some dev' ∧
          dev'.BlockDrive.map (·.Index) = some ((k : Int) + 1)) ∧
    (∀ (dm dm' : Manager) (id : String) (removeFails : Bool) (dev : BlockDevice),
      dm.devices.lookup id = some dev → dev.AttachCount = 1 →
      dm.step (.DetachDevice id removeFails) = (dm', .ok ()) →
      ∃ drive, dev.BlockDrive = some drive ∧
        dm'.sandbox.BlockIndexMap = dm.sandbox.BlockIndexMap.filter (· ≠ drive.Index)) := by
  constructor
  · intro dm dm' id o dev hacrn hdev hcount h
    simp only [Manager.step, Manager.AttachDevice, hdev, Prod.mk.injEq] at h
    obtain ⟨rfl, hres⟩ := h
    obtain ⟨k, hfree, hmap, drive, hdrive, hindex⟩ :=
      BlockDevice.Attach_of_unattached hcount (Prod.ext rfl (Prod.ext rfl hres))
    refine ⟨k, hfree, hmap, _, Manager.lookup_set_self _ _ _, ?_⟩
    rw [hdrive, Option.map_some, hindex, if_pos hacrn]
  · intro dm dm' id removeFails dev hdev hcount h
    simp only [Manager.step, Manager.DetachDevice, hdev, hcount, Nat.one_ne_zero, if_false,
      Prod.mk.injEq] at h
    obtain ⟨rfl, hres⟩ := h
    exact BlockDevice.Detach_of_attached_once hcount (Prod.ext rfl (Prod.ext rfl hres))

/-- An empty manager of virtio-blk devices, under ACRN. -/
def acrn_manager : Manager := ⟨[], VirtioBlock, ⟨[], "acrn", []⟩⟩

/-- The block device of major and minor `8:minor` at `path`, created under the ID `id`. -/
def new_block (path id : String) (minor : Int) : Op :=
  .NewDevice ⟨path, 8, minor, false, none⟩ (.ok path) [id]

/-- Devices `a` and `b` created and attached: they reserve the indices 0 and 1. -/
def acrn_attach_two : List Op :=
  [new_block "/dev/sda" "a" 0, new_block "/dev/sdb" "b" 16,
    .AttachDevice "a" ⟨false, false⟩, .AttachDevice "b" ⟨false, false⟩]

/-- Detaching `a` releases index 1, `b`'s, and keeps 0; a device `c` attached next reserves 1
and gets the drive index 2 of `b`, which is still attached. -/
theorem acrn_detach_releases_other_index_two_devices :
    (acrn_manager.run acrn_attach_two).sandbox.BlockIndexMap = [0, 1] ∧
    (∃ drive, (⟨"a", ⟨"/dev/sda", 8, 0, false, some [(BlockDriverOpt, VirtioBlock)]⟩, 1, 1,
        some ⟨"/dev/sda", 1, "", "/dev/vdb"⟩⟩ : BlockDevice).BlockDrive = some drive ∧
      ((acrn_manager.run acrn_attach_two).step (.DetachDevice "a" false)).1.sandbox.BlockIndexMap =
        (acrn_manager.run acrn_attach_two).sandbox.BlockIndexMap.filter (· ≠ drive.Index)) ∧
    (acrn_manager.run (acrn_attach_two ++ [.DetachDevice "a" false])).sandbox.BlockIndexMap = [0] ∧
    ((acrn_manager.run (acrn_attach_two ++ [.DetachDevice "a" false, new_block "/dev/sdc" "c" 32,
        .AttachDevice "c" ⟨false, false⟩])).devices.map fun e =>
          (e.1, e.2.AttachCount, e.2.BlockDrive.map (·.Index))) =
      [("a", 0, some 1), ("b", 1, some 2), ("c", 1, some 2)] :=
  ⟨by decide,
    acrn_detach_releases_other_index.2 _ _ "a" false _ (by decide) rfl (by decide),
    by decide,
    by decide⟩

end KataContainers.Runtime.Device
