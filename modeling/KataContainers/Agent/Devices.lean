import KataContainers.Agent.Pci
import KataContainers.Lib.List

/-!
# Device updates of the OCI spec

Model of `add_devices` in `src/agent/src/device.rs` with what it calls: `add_device`,
`insert_devices_cgroup_rule`, `update_env_pci` and `update_spec_devices`. Each device goes
through `add_device`, whose handler (one per driver type) is a parameter: it returns the guest
numbers of the device (`DevUpdate`) and the PCI addresses to translate. For a device with an
update, `add_devices` records it under its container path, adds its addresses to the sandbox's
`pcimap`, and appends an allow `"rwm"` rule on its guest numbers to `linux.resources.devices`.
Then the `PCIDEVICE_` variables of the process get their guest addresses, and
`update_spec_devices` moves each device entry of the spec to its guest numbers and rewrites each
device rule on the host numbers of an updated entry to its guest numbers.

The rules `add_devices` appended are on that list when `update_spec_devices` runs over it, so an
appended rule whose guest numbers are the host numbers of another updated entry is rewritten
too (`add_devices_rules_rewritten`).

The functions mutate the spec in place and return a `Result`: a model returns the spec as it is
left, with the result. Maps are association lists with distinct keys, as the `HashMap`s.
-/

namespace KataContainers.Agent.Devices

/-- `DeviceInfo`: the cgroup type of a device and its numbers in the guest. -/
structure DeviceInfo where
  cgroup_type : String
  guest_major : Int64
  guest_minor : Int64
  deriving DecidableEq, Repr

/-- `DevUpdate`: the guest numbers of a device, and the path it takes in the container. -/
structure DevUpdate where
  info : DeviceInfo
  final_path : Option String
  deriving DecidableEq, Repr

/-- `SpecUpdate`: what a device handler returns. -/
structure SpecUpdate where
  dev : Option DevUpdate
  pci : List (Address × Address)
  deriving DecidableEq, Repr

/-- `oci::LinuxDevice`, the fields `update_spec_devices` reads and writes. -/
structure LinuxDevice where
  path : String
  type : String
  major : Int64
  minor : Int64
  deriving DecidableEq, Repr

/-- `oci::LinuxDeviceCgroup`. -/
structure LinuxDeviceCgroup where
  allow : Bool
  type : String
  major : Option Int64
  minor : Option Int64
  access : String
  deriving DecidableEq, Repr

/-- `oci::LinuxResources`, of which only the device rules are read or written. -/
structure LinuxResources where
  devices : List LinuxDeviceCgroup
  deriving DecidableEq, Repr

structure Linux where
  devices : List LinuxDevice
  resources : Option LinuxResources
  deriving DecidableEq, Repr

structure Process where
  env : List (List Char)
  deriving DecidableEq, Repr

/-- The parts of `oci::Spec` that `add_devices` reads or writes. -/
structure Spec where
  process : Option Process
  linux : Option Linux
  deriving DecidableEq, Repr

/-- The agent protocol's `Device`. -/
structure Device where
  id : String
  type_ : String
  vm_path : String
  container_path : String
  options : List String
  deriving DecidableEq, Repr

/-- The errors of `add_devices`. -/
inductive DeviceError
  /-- `"invalid type for device {:?}"` -/
  | invalidType (device : Device)
  /-- `"invalid ID and VM path for device {:?}"` -/
  | invalidIdAndVmPath (device : Device)
  /-- `"invalid container path for device {:?}"` -/
  | invalidContainerPath (device : Device)
  /-- `"Unknown device type {}"` -/
  | unknownType (type_ : String)
  /-- an error of a device handler -/
  | handler (msg : String)
  /-- `"Conflicting device updates for {}"` -/
  | conflictingDeviceUpdates (container_path : String)
  /-- `"Conflicting guest address for host device {} ({} versus {})"` -/
  | conflictingGuestAddress (host guest other_guest : Address)
  /-- `"Spec didn't container linux field"`, with the context `"Update device cgroup"` -/
  | noLinuxCgroup
  /-- `"Malformed OCI env entry {:?}"` -/
  | malformedEnv (envvar : List Char)
  /-- `"Can't parse {} environment variable"`, with the error of `Address::from_str` -/
  | parseEnv (name : List Char) (e : PciError)
  /-- `"Unable to translate host PCI address {}"` -/
  | untranslated (host_addr : Address)
  /-- `"Spec didn't contain linux field"` -/
  | noLinux
  /-- `"Conflicting resource updates for host_major={} host_minor={}"` -/
  | conflictingResourceUpdates (host_major host_minor : Int64)
  /-- `"Missing devices in OCI spec: {:?}"`, with the paths left in the map -/
  | missingDevices (paths : List String)
  deriving DecidableEq, Repr

/-! ## The functions -/

def DRIVER_BLK_PCI_TYPE : String := "blk"
def DRIVER_BLK_CCW_TYPE : String := "blk-ccw"
def DRIVER_BLK_MMIO_TYPE : String := "mmioblk"
def DRIVER_SCSI_TYPE : String := "scsi"
def DRIVER_NVDIMM_TYPE : String := "nvdimm"
def DRIVER_VFIO_PCI_GK_TYPE : String := "vfio-pci-gk"
def DRIVER_VFIO_PCI_TYPE : String := "vfio-pci"
def DRIVER_VFIO_AP_TYPE : String := "vfio-ap"

/-- The device types of the arms of `add_device`'s `match`. -/
def handled_types : List String :=
  [DRIVER_BLK_PCI_TYPE, DRIVER_BLK_CCW_TYPE, DRIVER_BLK_MMIO_TYPE, DRIVER_NVDIMM_TYPE,
    DRIVER_SCSI_TYPE, DRIVER_VFIO_PCI_GK_TYPE, DRIVER_VFIO_PCI_TYPE, DRIVER_VFIO_AP_TYPE]

/-- `add_device`: the checks of the device's fields, then the handler of its type. -/
def add_device (handler : Device → Except DeviceError SpecUpdate) (device : Device) :
    Except DeviceError SpecUpdate :=
  if device.type_.isEmpty then .error (.invalidType device)
  else if device.id.isEmpty && device.vm_path.isEmpty then .error (.invalidIdAndVmPath device)
  else if device.container_path.isEmpty then .error (.invalidContainerPath device)
  else if device.type_ ∈ handled_types then handler device
  else .error (.unknownType device.type_)

/-- The sandbox's `pcimap`, from host to guest address. -/
abbrev PciMap := List (Address × Address)

/-- `HashMap::insert` on the `pcimap`: the guest address `host` had, and the new map. -/
def pcimap_insert (m : PciMap) (host guest : Address) : Option Address × PciMap :=
  match m.lookup host with
  | some other => (some other, m.map fun e => if e.1 = host then (host, guest) else e)
  | none => (none, m ++ [(host, guest)])

/-- The loop of `add_devices` over `update.pci`: a host address the map had is an error, after
the insert. -/
def insert_pci : List (Address × Address) → PciMap → PciMap × Except DeviceError Unit
  | [], m => (m, .ok ())
  | (host, guest) :: rest, m =>
    match pcimap_insert m host guest with
    | (some other, m) => (m, .error (.conflictingGuestAddress host guest other))
    | (none, m) => insert_pci rest m

/-- `insert_devices_cgroup_rule`: push a rule on the device's guest numbers, creating the
resources if there are none. -/
def insert_devices_cgroup_rule (spec : Spec) (dev_info : DeviceInfo) (allow : Bool)
    (access : String) : Except DeviceError Spec :=
  match spec.linux with
  | none => .error .noLinuxCgroup
  | some linux =>
    let resources := linux.resources.getD ⟨[]⟩
    let cgroup : LinuxDeviceCgroup :=
      { allow, type := dev_info.cgroup_type, major := some dev_info.guest_major,
        minor := some dev_info.guest_minor, access }
    .ok { spec with linux := some { linux with resources := some ⟨resources.devices ++ [cgroup]⟩ } }

/-- The body of `update_env_pci` for one variable: a `PCIDEVICE_` variable has each of its
host addresses, separated by `,`, replaced by its guest address. -/
def update_env_var (pcimap : PciMap) (envvar : List Char) : Except DeviceError (List Char) :=
  match envvar.idxOf? '=' with
  | none => .error (.malformedEnv envvar)
  | some eqpos =>
    let name := envvar.take eqpos
    let val := envvar.drop (eqpos + 1)
    if !"PCIDEVICE_".toList.isPrefixOf name then .ok envvar
    else do
      let guest_addrs ← (val.splitOn ',').mapM fun host_addr => do
        let host_addr ← (Address.from_str host_addr).mapError (.parseEnv name)
        match pcimap.lookup host_addr with
        | some guest_addr => pure guest_addr.to_string
        | none => throw (.untranslated host_addr)
      pure (envvar.take (eqpos + 1) ++ [','].intercalate guest_addrs)

/-- `update_env_pci`: the variables before a failing one are rewritten already. -/
def update_env_pci (pcimap : PciMap) : List (List Char) → List (List Char) × Except DeviceError Unit
  | [] => ([], .ok ())
  | envvar :: env =>
    match update_env_var pcimap envvar with
    | .error e => (envvar :: env, .error e)
    | .ok envvar' =>
      let r := update_env_pci pcimap env
      (envvar' :: r.1, r.2)

/-- The map `res_updates` of `update_spec_devices`, from the type and host numbers of a device
to its update. -/
abbrev ResUpdates := List ((String × Int64 × Int64) × DeviceInfo)

/-- The loop of `update_spec_devices` over `linux.devices`: an entry whose path `updates` has
takes the update, which leaves the map, and its type and host numbers go to `res_updates`; an
entry is changed before its key is checked. It returns the updates left and `res_updates`. -/
def update_devices : List (String × DevUpdate) → ResUpdates → List LinuxDevice →
    List LinuxDevice × Except DeviceError (List (String × DevUpdate) × ResUpdates)
  | updates, res_updates, [] => ([], .ok (updates, res_updates))
  | updates, res_updates, specdev :: devices =>
    match updates.lookup specdev.path with
    | none =>
      let r := update_devices updates res_updates devices
      (specdev :: r.1, r.2)
    | some update =>
      let specdev' := { specdev with
        major := update.info.guest_major, minor := update.info.guest_minor
        path := update.final_path.getD specdev.path }
      let key := (specdev.type, specdev.major, specdev.minor)
      if (res_updates.lookup key).isSome then
        (specdev' :: devices, .error (.conflictingResourceUpdates specdev.major specdev.minor))
      else
        let r := update_devices (updates.filter (·.1 != specdev.path))
          (res_updates ++ [(key, update.info)]) devices
        (specdev' :: r.1, r.2)

/-- The body of the last loop of `update_spec_devices`: a rule on the type and host numbers of
an updated entry takes its guest numbers. -/
def update_resource (res_updates : ResUpdates) (r : LinuxDeviceCgroup) : LinuxDeviceCgroup :=
  match r.major, r.minor with
  | some host_major, some host_minor =>
    match res_updates.lookup (r.type, host_major, host_minor) with
    | some update => { r with major := some update.guest_major, minor := some update.guest_minor }
    | none => r
  | _, _ => r

/-- `update_spec_devices`. -/
def update_spec_devices (spec : Spec) (updates : List (String × DevUpdate)) :
    Spec × Except DeviceError Unit :=
  match spec.linux with
  | none => (spec, .error .noLinux)
  | some linux =>
    let r := update_devices updates [] linux.devices
    let linux := { linux with devices := r.1 }
    match r.2 with
    | .error e => ({ spec with linux := some linux }, .error e)
    | .ok (updates, res_updates) =>
      if !updates.isEmpty then
        ({ spec with linux := some linux }, .error (.missingDevices (updates.map (·.1))))
      else
        let resources := linux.resources.map fun res => ⟨res.devices.map (update_resource res_updates)⟩
        ({ spec with linux := some { linux with resources } }, .ok ())

/-- The loop of `add_devices` over `devices`, from the spec, the `pcimap` and `dev_updates`. -/
def add_devices_loop (handler : Device → Except DeviceError SpecUpdate) :
    List Device → Spec → PciMap → List (String × DevUpdate) →
    Spec × PciMap × Except DeviceError (List (String × DevUpdate))
  | [], spec, pcimap, dev_updates => (spec, pcimap, .ok dev_updates)
  | device :: devices, spec, pcimap, dev_updates =>
    match add_device handler device with
    | .error e => (spec, pcimap, .error e)
    | .ok update =>
      match update.dev with
      | none => add_devices_loop handler devices spec pcimap dev_updates
      | some dev_update =>
        if (dev_updates.lookup device.container_path).isSome then
          (spec, pcimap, .error (.conflictingDeviceUpdates device.container_path))
        else
          match insert_pci update.pci pcimap with
          | (pcimap, .error e) => (spec, pcimap, .error e)
          | (pcimap, .ok ()) =>
            match insert_devices_cgroup_rule spec dev_update.info true "rwm" with
            | .error e => (spec, pcimap, .error e)
            | .ok spec =>
              add_devices_loop handler devices spec pcimap
                (dev_updates ++ [(device.container_path, dev_update)])

/-- The `if let Some(process)` step of `add_devices`. -/
def update_process (spec : Spec) (pcimap : PciMap) : Spec × Except DeviceError Unit :=
  match spec.process with
  | none => (spec, .ok ())
  | some process =>
    let r := update_env_pci pcimap process.env
    ({ spec with process := some ⟨r.1⟩ }, r.2)

/-- `add_devices`: the spec and the `pcimap` as it leaves them, and its result. -/
def add_devices (handler : Device → Except DeviceError SpecUpdate) (devices : List Device)
    (spec : Spec) (pcimap : PciMap) : Spec × PciMap × Except DeviceError Unit :=
  match add_devices_loop handler devices spec pcimap [] with
  | (spec, pcimap, .error e) => (spec, pcimap, .error e)
  | (spec, pcimap, .ok dev_updates) =>
    match update_process spec pcimap with
    | (spec, .error e) => (spec, pcimap, .error e)
    | (spec, .ok ()) =>
      let r := update_spec_devices spec dev_updates
      (r.1, pcimap, r.2)

/-! ## What `add_devices` does to the device rules -/

/-- The device entries of a spec, none without `linux`. -/
def Spec.devices (spec : Spec) : List LinuxDevice := (spec.linux.map (·.devices)).getD []

/-- The device rules of a spec, none without resources. -/
def Spec.rules (spec : Spec) : List LinuxDeviceCgroup :=
  ((spec.linux.bind (·.resources)).map (·.devices)).getD []

/-- The rule `add_devices` appends for a device update: allow `"rwm"` on its guest numbers. -/
def allow_rule (info : DeviceInfo) : LinuxDeviceCgroup :=
  ⟨true, info.cgroup_type, some info.guest_major, some info.guest_minor, "rwm"⟩

/-- The updates the handlers return for `devices`, under their container paths. -/
def dev_updates (handler : Device → Except DeviceError SpecUpdate) (devices : List Device) :
    List (String × DevUpdate) :=
  devices.filterMap fun device =>
    match add_device handler device with
    | .ok update => update.dev.map (device.container_path, ·)
    | .error _ => none

section

variable {handler : Device → Except DeviceError SpecUpdate}

lemma dev_updates_cons_of_none {device : Device} {devices : List Device} {update : SpecUpdate}
    (hu : add_device handler device = .ok update) (hdev : update.dev = none) :
    dev_updates handler (device :: devices) = dev_updates handler devices := by
  simp [dev_updates, hu, hdev]

lemma dev_updates_cons_of_some {device : Device} {devices : List Device} {update : SpecUpdate}
    {dev_update : DevUpdate} (hu : add_device handler device = .ok update)
    (hdev : update.dev = some dev_update) :
    dev_updates handler (device :: devices) =
      (device.container_path, dev_update) :: dev_updates handler devices := by
  simp [dev_updates, hu, hdev]

/-- The rule `insert_devices_cgroup_rule` pushes is the last of the rules. -/
lemma insert_devices_cgroup_rule_ok {spec spec' : Spec} {info : DeviceInfo}
    (h : insert_devices_cgroup_rule spec info true "rwm" = .ok spec') :
    spec'.process = spec.process ∧ spec'.devices = spec.devices ∧
      spec'.rules = spec.rules ++ [allow_rule info] := by
  unfold insert_devices_cgroup_rule at h
  rcases hl : spec.linux with _ | linux
  · rw [hl] at h
    cases h
  · rw [hl] at h
    cases h
    refine ⟨rfl, by simp [Spec.devices, hl], ?_⟩
    cases hr : linux.resources <;> simp [Spec.rules, hl, hr, allow_rule]

/-- A run of the loop that returns has collected the handlers' updates, and appended one allow
rule for each, the device entries left as they were. -/
lemma add_devices_loop_ok {devices : List Device} {spec spec' : Spec} {pcimap pcimap' : PciMap}
    {acc out : List (String × DevUpdate)}
    (h : add_devices_loop handler devices spec pcimap acc = (spec', pcimap', .ok out)) :
    out = acc ++ dev_updates handler devices ∧ spec'.process = spec.process ∧
      spec'.devices = spec.devices ∧
      spec'.rules = spec.rules ++ (dev_updates handler devices).map (allow_rule ·.2.info) := by
  induction devices generalizing spec pcimap acc with
  | nil =>
    simp only [add_devices_loop, Prod.mk.injEq, Except.ok.injEq] at h
    obtain ⟨rfl, -, rfl⟩ := h
    simp [dev_updates]
  | cons device devices ih =>
    simp only [add_devices_loop] at h
    split at h
    · cases h
    next update hu =>
    split at h
    next hdev =>
      rw [dev_updates_cons_of_none hu hdev]
      exact ih h
    next dev_update hdev =>
    rw [dev_updates_cons_of_some hu hdev]
    split_ifs at h
    · cases h
    split at h
    · cases h
    split at h
    · cases h
    next spec₁ hrule =>
    obtain ⟨hout, hproc, hdevs, hrules⟩ := ih h
    obtain ⟨hproc₁, hdevs₁, hrules₁⟩ := insert_devices_cgroup_rule_ok hrule
    refine ⟨by simp [hout], hproc.trans hproc₁, hdevs.trans hdevs₁, ?_⟩
    simp [hrules, hrules₁]

/-- The `pcimap` step leaves the linux part of the spec. -/
lemma update_process_linux (spec : Spec) (pcimap : PciMap) :
    (update_process spec pcimap).1.linux = spec.linux := by
  unfold update_process
  split <;> rfl

end

/-! ### The resource updates -/

/-- The key of a device entry in `res_updates`: its type and host numbers. -/
def LinuxDevice.key (specdev : LinuxDevice) : String × Int64 × Int64 :=
  (specdev.type, specdev.major, specdev.minor)

/-- A key in `res_updates` keeps its update to the end of the loop. -/
lemma update_devices_lookup_mono {updates rest : List (String × DevUpdate)}
    {res_updates res_updates' : ResUpdates} {devices : List LinuxDevice}
    (h : (update_devices updates res_updates devices).2 = .ok (rest, res_updates'))
    {k : String × Int64 × Int64} {i : DeviceInfo} (hk : res_updates.lookup k = some i) :
    res_updates'.lookup k = some i := by
  induction devices generalizing updates res_updates with
  | nil =>
    simp only [update_devices, Except.ok.injEq, Prod.mk.injEq] at h
    rw [← h.2, hk]
  | cons specdev devices ih =>
    simp only [update_devices] at h
    split at h
    · exact ih h hk
    split_ifs at h
    exact ih h (by rw [List.lookup_append, hk]; rfl)

/-- The first entry with a path that `updates` has puts its key in `res_updates`, with the
update. -/
lemma update_devices_lookup_key {updates rest : List (String × DevUpdate)}
    {res_updates res_updates' : ResUpdates} {devices : List LinuxDevice}
    (h : (update_devices updates res_updates devices).2 = .ok (rest, res_updates'))
    {e : LinuxDevice} (hfirst : devices.find? (·.path == e.path) = some e) {u : DevUpdate}
    (hu : updates.lookup e.path = some u) : res_updates'.lookup e.key = some u.info := by
  induction devices generalizing updates res_updates with
  | nil => cases hfirst
  | cons specdev devices ih =>
    simp only [update_devices] at h
    by_cases hp : specdev.path = e.path
    · -- the entry is `e` itself, which takes `u`
      have hse : specdev = e := by simpa [List.find?_cons, hp] using hfirst
      subst hse
      rw [hu] at h
      split_ifs at h with hc
      have hnone : res_updates.lookup specdev.key = none := Option.not_isSome_iff_eq_none.mp hc
      refine update_devices_lookup_mono h ?_
      rw [List.lookup_append, hnone]
      simp [LinuxDevice.key]
    · -- `e` is further on, and its path stays in the map
      have hrest : devices.find? (·.path == e.path) = some e := by
        simpa [List.find?_cons, hp] using hfirst
      split at h
      · exact ih h hrest hu
      split_ifs at h
      exact ih h hrest (by rw [List.lookup_filter_of_ne (Ne.symm hp), hu])

/-- A run of `update_spec_devices` that returns has rewritten every rule through
`update_resource`, with the key of each first entry with an updated path. -/
lemma update_spec_devices_ok {spec spec' : Spec} {updates : List (String × DevUpdate)}
    (h : update_spec_devices spec updates = (spec', .ok ())) :
    ∃ res_updates : ResUpdates,
      (∀ e ∈ spec.devices, spec.devices.find? (·.path == e.path) = some e →
        ∀ u, updates.lookup e.path = some u → res_updates.lookup e.key = some u.info) ∧
      spec'.rules = spec.rules.map (update_resource res_updates) := by
  unfold update_spec_devices at h
  rcases hl : spec.linux with _ | linux
  · rw [hl] at h
    cases h
  rw [hl] at h
  dsimp only at h
  rcases hr : (update_devices updates [] linux.devices).2 with _ | ⟨rest, res_updates⟩
  · rw [hr] at h
    cases h
  rw [hr] at h
  dsimp only at h
  split_ifs at h
  · cases h
  obtain ⟨rfl, -⟩ := Prod.mk.inj h
  refine ⟨res_updates, fun e _ hfirst u hu => ?_, ?_⟩
  · simp only [Spec.devices, hl, Option.map_some, Option.getD_some] at hfirst
    exact update_devices_lookup_key hr hfirst hu
  · cases hres : linux.resources <;> simp [Spec.rules, hl, hres]

/-! ## The appended rules are rewritten -/

/-- A run of `add_devices` that returns `Ok` leaves the original rules, then one allow rule for
each device update in device order, and all of them, the appended ones included, have gone
through `update_resource`, whose keys are those of the first entries with the updated paths. -/
theorem add_devices_rules_rewritten {handler : Device → Except DeviceError SpecUpdate}
    {devices : List Device} {spec spec' : Spec} {pcimap pcimap' : PciMap}
    (hrun : add_devices handler devices spec pcimap = (spec', pcimap', .ok ())) :
    ∃ res_updates : ResUpdates,
      (∀ e ∈ spec.devices, spec.devices.find? (·.path == e.path) = some e →
        ∀ u, (dev_updates handler devices).lookup e.path = some u →
          res_updates.lookup e.key = some u.info) ∧
      spec'.rules = spec.rules.map (update_resource res_updates) ++
        (dev_updates handler devices).map fun p => update_resource res_updates (allow_rule p.2.info) := by
  unfold add_devices at hrun
  rcases hloop : add_devices_loop handler devices spec pcimap [] with ⟨spec₁, pcimap₁, _ | out⟩
  · rw [hloop] at hrun
    cases hrun
  rw [hloop] at hrun
  dsimp only at hrun
  obtain ⟨hout, -, hdevs, hrules⟩ := add_devices_loop_ok hloop
  rw [List.nil_append] at hout
  subst hout
  have hlinux := update_process_linux spec₁ pcimap₁
  rcases hproc : update_process spec₁ pcimap₁ with ⟨spec₂, _ | ⟨⟩⟩
  · rw [hproc] at hrun
    cases hrun
  rw [hproc] at hrun hlinux
  simp only [Prod.mk.injEq] at hrun hlinux
  have hupd : update_spec_devices spec₂ (dev_updates handler devices) = (spec', .ok ()) :=
    Prod.ext hrun.1 hrun.2.2
  obtain ⟨res_updates, hkeys, hres⟩ := update_spec_devices_ok hupd
  have hdevs₂ : spec₂.devices = spec.devices := by
    rw [← hdevs]
    simp only [Spec.devices, hlinux]
  have hrules₂ : spec₂.rules = spec₁.rules := by simp only [Spec.rules, hlinux]
  refine ⟨res_updates, ?_, ?_⟩
  · rw [← hdevs₂]
    exact hkeys
  · rw [hres, hrules₂, hrules, List.map_append, List.map_map]
    rfl

theorem add_devices_rules_rewritten_chain :
    add_devices
        (fun device => if device.container_path = "/dev/a" then .ok ⟨some ⟨⟨"b", 8, 0⟩, none⟩, []⟩
          else .ok ⟨some ⟨⟨"b", 8, 16⟩, none⟩, []⟩)
        [⟨"", "blk", "/dev/vda", "/dev/a", []⟩, ⟨"", "blk", "/dev/vdb", "/dev/b", []⟩]
        ⟨none, some ⟨[⟨"/dev/a", "b", 252, 0⟩, ⟨"/dev/b", "b", 8, 0⟩], none⟩⟩ [] =
      (⟨none, some ⟨[⟨"/dev/a", "b", 8, 0⟩, ⟨"/dev/b", "b", 8, 16⟩],
        some ⟨[⟨true, "b", some 8, some 16, "rwm"⟩, ⟨true, "b", some 8, some 16, "rwm"⟩]⟩⟩⟩, [],
        .ok ()) ∧
    ∃ res_updates : ResUpdates,
      (∀ e ∈ [(⟨"/dev/a", "b", 252, 0⟩ : LinuxDevice), ⟨"/dev/b", "b", 8, 0⟩],
        [(⟨"/dev/a", "b", 252, 0⟩ : LinuxDevice), ⟨"/dev/b", "b", 8, 0⟩].find? (·.path == e.path) =
          some e →
        ∀ u, [("/dev/a", (⟨⟨"b", 8, 0⟩, none⟩ : DevUpdate)), ("/dev/b", ⟨⟨"b", 8, 16⟩, none⟩)].lookup
          e.path = some u → res_updates.lookup e.key = some u.info) ∧
      [(⟨true, "b", some 8, some 16, "rwm"⟩ : LinuxDeviceCgroup), ⟨true, "b", some 8, some 16, "rwm"⟩] =
        ([] : List LinuxDeviceCgroup).map (update_resource res_updates) ++
          [(⟨"b", 8, 0⟩ : DeviceInfo), ⟨"b", 8, 16⟩].map fun info =>
            update_resource res_updates (allow_rule info) := by
  have hrun : add_devices
        (fun device => if device.container_path = "/dev/a" then .ok ⟨some ⟨⟨"b", 8, 0⟩, none⟩, []⟩
          else .ok ⟨some ⟨⟨"b", 8, 16⟩, none⟩, []⟩)
        [⟨"", "blk", "/dev/vda", "/dev/a", []⟩, ⟨"", "blk", "/dev/vdb", "/dev/b", []⟩]
        ⟨none, some ⟨[⟨"/dev/a", "b", 252, 0⟩, ⟨"/dev/b", "b", 8, 0⟩], none⟩⟩ [] =
      (⟨none, some ⟨[⟨"/dev/a", "b", 8, 0⟩, ⟨"/dev/b", "b", 8, 16⟩],
        some ⟨[⟨true, "b", some 8, some 16, "rwm"⟩, ⟨true, "b", some 8, some 16, "rwm"⟩]⟩⟩⟩, [],
        .ok ()) := by decide
  exact ⟨hrun, add_devices_rules_rewritten hrun⟩

end KataContainers.Agent.Devices
