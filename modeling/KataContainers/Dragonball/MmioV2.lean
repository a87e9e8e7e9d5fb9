import KataContainers.Lib.Transition

/-!
# The virtio-MMIO transport: the driver status state machine

Model of `MmioV2Device` (`dbs_virtio_devices/src/mmio/mmio_v2.rs`) and of the parts of
`MmioV2DeviceState` (`mmio_state.rs`) that its register writes reach: `update_driver_status` with
its compare-and-exchange transitions, activation, reset and `FAILED` marking; the gated writes of
queue fields (`update_queue_field`) and of acknowledged features (`set_acked_features`); and the
MSI control writes, which can mark the device failed.

What the transport calls without defining it is a parameter: the queue library and the inner
device's `set_acked_features` (`Backend`), and what the host answers during one access, whether
activation, the inner device's reset and a switch of interrupt mode succeed (`Outcome`). A guest
access is a read, which changes no state of the transport, or a write of an offset and bytes
(`Access`); `step` is one access.

From `MmioV2Device::new`, every state keeps `Inv`: the status is a prefix of the initialisation
chain, possibly with `FAILED`; an activated device has `DRIVER_OK` set, and `DRIVER_OK` without
`FAILED` means the device is activated (`reachable_inv`). Each access moves the status bits other
than `FAILED` one step along the chain, or clears them all by a successful reset; queue fields
change only with `FEATURES_OK` set and neither `DRIVER_OK` nor `FAILED`; acknowledged features
only in `ACKNOWLEDGE | DRIVER` (`mmio_v2_transitions`).
-/

namespace KataContainers.Dragonball.MmioV2

def DEVICE_INIT : UInt32 := 0x0
def DEVICE_ACKNOWLEDGE : UInt32 := 0x01
def DEVICE_DRIVER : UInt32 := 0x02
def DEVICE_DRIVER_OK : UInt32 := 0x04
def DEVICE_FEATURES_OK : UInt32 := 0x08
def DEVICE_FAILED : UInt32 := 0x80

def DEVICE_STATUS_INIT : UInt32 := DEVICE_INIT
def DEVICE_STATUS_ACKNOWLEDE : UInt32 := DEVICE_STATUS_INIT ||| DEVICE_ACKNOWLEDGE
def DEVICE_STATUS_DRIVER : UInt32 := DEVICE_STATUS_ACKNOWLEDE ||| DEVICE_DRIVER
def DEVICE_STATUS_FEATURE_OK : UInt32 := DEVICE_STATUS_DRIVER ||| DEVICE_FEATURES_OK
def DEVICE_STATUS_DRIVER_OK : UInt32 := DEVICE_STATUS_FEATURE_OK ||| DEVICE_DRIVER_OK

def MMIO_CFG_SPACE_OFF : UInt64 := 0x100
def DRAGONBALL_MMIO_DOORBELL_OFFSET : UInt64 := 0x1000

def REG_MMIO_DEVICE_FEATURES_S : UInt64 := 0x014
def REG_MMIO_DRIVER_FEATURE : UInt64 := 0x020
def REG_MMIO_DRIVER_FEATURES_S : UInt64 := 0x024
def REG_MMIO_QUEUE_SEL : UInt64 := 0x030
def REG_MMIO_QUEUE_NUM : UInt64 := 0x038
def REG_MMIO_QUEUE_READY : UInt64 := 0x044
def REG_MMIO_INTERRUPT_AC : UInt64 := 0x064
def REG_MMIO_STATUS : UInt64 := 0x070
def REG_MMIO_QUEUE_DESC_LOW : UInt64 := 0x080
def REG_MMIO_QUEUE_DESC_HIGH : UInt64 := 0x084
def REG_MMIO_QUEUE_AVAIL_LOW : UInt64 := 0x090
def REG_MMIO_QUEUE_AVAIL_HIGH : UInt64 := 0x094
def REG_MMIO_QUEUE_USED_LOW : UInt64 := 0x0a0
def REG_MMIO_QUEUE_USED_HIGH : UInt64 := 0x0a4
def REG_MMIO_SHM_SEL : UInt64 := 0x0ac
def REG_MMIO_MSI_CSR : UInt64 := 0x0c0
def REG_MMIO_MSI_COMMAND : UInt64 := 0x0c2
def REG_MMIO_MSI_ADDRESS_L : UInt64 := 0x0c4
def REG_MMIO_MSI_ADDRESS_H : UInt64 := 0x0c8
def REG_MMIO_MSI_DATA : UInt64 := 0x0cc

def MMIO_MSI_CSR_ENABLED : UInt16 := 0x8000
def MMIO_MSI_CMD_CODE_MASK : UInt16 := 0xf000
def MMIO_MSI_CMD_CODE_UPDATE : UInt16 := 0x1000
def MMIO_MSI_CMD_CODE_INT_MASK : UInt16 := 0x2000
def MMIO_MSI_CMD_CODE_INT_UNMASK : UInt16 := 0x3000

/-- `LittleEndian::read_u32` of four bytes. -/
def read_u32 : List UInt8 → UInt32
  | [b0, b1, b2, b3] =>
    b0.toUInt32 ||| (b1.toUInt32 <<< 8) ||| (b2.toUInt32 <<< 16) ||| (b3.toUInt32 <<< 24)
  | _ => 0

/-- `LittleEndian::read_u16` of two bytes. -/
def read_u16 : List UInt8 → UInt16
  | [b0, b1] => b0.toUInt16 ||| (b1.toUInt16 <<< 8)
  | _ => 0

/-- What the transport calls but does not define: the queue library (`virtio_queue::QueueT`) and
the inner virtio device's `set_acked_features`. -/
structure Backend (Q Dev : Type) where
  set_size : Q → UInt16 → Q
  set_ready : Q → Bool → Q
  set_desc_table_address : Q → Option UInt32 → Option UInt32 → Q
  set_avail_ring_address : Q → Option UInt32 → Option UInt32 → Q
  set_used_ring_address : Q → Option UInt32 → Option UInt32 → Q
  /-- `Q::new(queue.max_size())`, which fails on a size the library rejects -/
  new_queue : Q → Option Q
  /-- `VirtioDevice::set_acked_features(select, value)` -/
  set_acked_features : Dev → UInt32 → UInt32 → Dev
  deriving Inhabited

/-- What the host answers during one access: whether `MmioV2DeviceState::activate` gets valid
queues, ioeventfds, interrupts and a successful `VirtioDevice::activate`; whether the inner
device's `reset` succeeds; whether the interrupt manager switches mode. -/
structure Outcome where
  activate_ok : Bool
  device_reset_ok : Bool
  intr_mode_ok : Bool
  deriving DecidableEq, Repr

/-- A guest access: a read of some bytes, or a write of the bytes `data`. -/
inductive Access
  | read (offset : UInt64) (len : Nat)
  | write (offset : UInt64) (data : List UInt8)
  deriving DecidableEq, Repr

/-- The transport's state: `driver_status`, and what `MmioV2DeviceState` keeps that the writes
change. `msi` is whether `msi` is `Some`. -/
structure MmioV2Device (Q Dev : Type) where
  driver_status : UInt32
  device_activated : Bool
  device : Dev
  queues : List Q
  features_select : UInt32
  acked_features_select : UInt32
  queue_select : UInt32
  msi : Bool
  shm_region_id : UInt32

namespace MmioV2Device

variable {Q Dev : Type} (b : Backend Q Dev) (o : Outcome)

/-- `MmioV2Device::new`, with the queues `create_queues` made. -/
def new (device : Dev) (queues : List Q) : MmioV2Device Q Dev :=
  ⟨DEVICE_INIT, false, device, queues, 0, 0, 0, false, 0⟩

def check_driver_status (s : MmioV2Device Q Dev) (set clr : UInt32) : Bool :=
  s.driver_status &&& (set ||| clr) == set

def set_driver_failed (s : MmioV2Device Q Dev) : MmioV2Device Q Dev :=
  { s with driver_status := s.driver_status ||| DEVICE_FAILED }

/-- `compare_exchange(old, new)`: `Ok(old)` and the new status, or `Err` of the status. -/
def exchange_driver_status (s : MmioV2Device Q Dev) (old new : UInt32) :
    MmioV2Device Q Dev × Except UInt32 UInt32 :=
  if s.driver_status = old then ({ s with driver_status := new }, .ok old)
  else (s, .error s.driver_status)

/-- `MmioV2DeviceState::activate`. -/
def activate (s : MmioV2Device Q Dev) : MmioV2Device Q Dev × Except Unit Unit :=
  if s.device_activated then (s, .ok ())
  else if o.activate_ok then ({ s with device_activated := true }, .ok ())
  else (s, .error ())

def deactivate (s : MmioV2Device Q Dev) : MmioV2Device Q Dev :=
  { s with device_activated := false }

/-- The queue loop of `MmioV2DeviceState::reset`: each queue replaced by a new one of its maximum
size, up to the first that cannot be made. -/
def reset_queues : List Q → List Q × Bool
  | [] => ([], true)
  | q :: qs =>
    match b.new_queue q with
    | some q' => (q' :: (reset_queues qs).1, (reset_queues qs).2)
    | none => (q :: qs, false)

/-- `MmioV2DeviceState::reset`: nothing while the device is active; otherwise new queues and the
selectors cleared, or an error when a queue cannot be made. -/
def reset (s : MmioV2Device Q Dev) : MmioV2Device Q Dev × Except Unit Unit :=
  if s.device_activated then (s, .ok ())
  else if (reset_queues b s.queues).2 then
    ({ s with
        queues := (reset_queues b s.queues).1
        features_select := 0
        acked_features_select := 0
        queue_select := 0
        msi := false }, .ok ())
  else ({ s with queues := (reset_queues b s.queues).1 }, .error ())

/-- The `v == DEVICE_STATUS_DRIVER_OK` arm of `update_driver_status`: the exchange from
`FEATURES_OK`, then activation; on a failed activation the state is reset and the transition
fails. -/
def driver_ok_transition (s : MmioV2Device Q Dev) : MmioV2Device Q Dev × Except UInt32 UInt32 :=
  let r := s.exchange_driver_status DEVICE_STATUS_FEATURE_OK DEVICE_STATUS_DRIVER_OK
  match r.2 with
  | .ok _ =>
    match activate o r.1 with
    | (s, .ok ()) => (s, r.2)
    -- Reset internal status to initial state on failure; its error is ignored.
    | (s, .error ()) => ((reset b s).1, .error DEVICE_FAILED)
  | .error _ => r

/-- The `v == 0` arm of `update_driver_status`: nothing from `INIT`; an activated device is reset,
deactivated, its state reset, and its status exchanged from `DRIVER_OK` to `INIT`. -/
def reset_transition (s : MmioV2Device Q Dev) : MmioV2Device Q Dev × Except UInt32 UInt32 :=
  if s.driver_status = DEVICE_INIT then (s, .ok 0)
  else if s.device_activated then
    if !o.device_reset_ok then (s, .error DEVICE_FAILED)
    else
      match reset b s.deactivate with
      | (s, .error ()) => (s, .error DEVICE_FAILED)
      | (s, .ok ()) => s.exchange_driver_status DEVICE_STATUS_DRIVER_OK DEVICE_STATUS_INIT
  else (s, .error DEVICE_FAILED)

/-- The arms of `update_driver_status`, by the value written: the state, and `result`. -/
def transition (s : MmioV2Device Q Dev) (v : UInt32) : MmioV2Device Q Dev × Except UInt32 UInt32 :=
  if v = DEVICE_STATUS_ACKNOWLEDE then
    s.exchange_driver_status DEVICE_STATUS_INIT DEVICE_STATUS_ACKNOWLEDE
  else if v = DEVICE_STATUS_DRIVER then
    s.exchange_driver_status DEVICE_STATUS_ACKNOWLEDE DEVICE_STATUS_DRIVER
  else if v = DEVICE_STATUS_FEATURE_OK then
    s.exchange_driver_status DEVICE_STATUS_DRIVER DEVICE_STATUS_FEATURE_OK
  else if v = DEVICE_STATUS_DRIVER_OK then driver_ok_transition b o s
  else if v = 0 then reset_transition b o s
  -- No real state change, nothing to do.
  else if v = s.driver_status then (s, .ok 0)
  -- Guest driver marks device as failed.
  else if v &&& DEVICE_FAILED ≠ 0 then (s.set_driver_failed, .ok 0)
  else (s, .error DEVICE_FAILED)

/-- The end of `update_driver_status`: an invalid transition marks the device failed. -/
def settle (r : MmioV2Device Q Dev × Except UInt32 UInt32) : MmioV2Device Q Dev :=
  match r.2 with
  | .error _ => r.1.set_driver_failed
  | .ok _ => r.1

/-- `update_driver_status`: the driver status state machine of the virtio specification. -/
def update_driver_status (s : MmioV2Device Q Dev) (v : UInt32) : MmioV2Device Q Dev :=
  settle (transition b o s v)

/-- `with_queue_mut`: the selected queue changed, if there is one. -/
def with_queue_mut (s : MmioV2Device Q Dev) (f : Q → Q) : MmioV2Device Q Dev :=
  match s.queues[s.queue_select.toNat]? with
  | some q => { s with queues := s.queues.set s.queue_select.toNat (f q) }
  | none => s

def update_queue_field (s : MmioV2Device Q Dev) (f : Q → Q) : MmioV2Device Q Dev :=
  if s.check_driver_status DEVICE_FEATURES_OK (DEVICE_DRIVER_OK ||| DEVICE_FAILED) then
    s.with_queue_mut f
  else s

def set_acked_features (s : MmioV2Device Q Dev) (v : UInt32) : MmioV2Device Q Dev :=
  if s.check_driver_status DEVICE_DRIVER (DEVICE_FEATURES_OK ||| DEVICE_FAILED) then
    { s with device := b.set_acked_features s.device s.acked_features_select v }
  else s

/-- `MmioV2DeviceState::update_msi_enable`. -/
def update_msi_enable (s : MmioV2Device Q Dev) (v : UInt16) : MmioV2Device Q Dev :=
  -- Can't switch interrupt mode once the device has been activated.
  if s.driver_status &&& DEVICE_DRIVER_OK ≠ 0 then
    if s.driver_status &&& DEVICE_FAILED = 0 then s.set_driver_failed else s
  else if v &&& MMIO_MSI_CSR_ENABLED ≠ 0 then
    if !s.msi then
      if o.intr_mode_ok then { s with msi := true } else s.set_driver_failed
    else s
  else if s.msi then
    if o.intr_mode_ok then { s with msi := false } else s.set_driver_failed
  else s

/-- `MmioV2DeviceState::handle_msi_cmd`: the commands configure the interrupt manager, which the
model leaves out; an unknown command marks the device failed. -/
def handle_msi_cmd (s : MmioV2Device Q Dev) (v : UInt16) : MmioV2Device Q Dev :=
  let code := v &&& MMIO_MSI_CMD_CODE_MASK
  if code = MMIO_MSI_CMD_CODE_UPDATE ∨ code = MMIO_MSI_CMD_CODE_INT_MASK ∨
      code = MMIO_MSI_CMD_CODE_INT_UNMASK then s
  else s.set_driver_failed

/-- The registers that `DeviceIo::write` decodes from a 4-byte access. -/
inductive Reg32
  | DEVICE_FEATURES_S
  | DRIVER_FEATURE
  | DRIVER_FEATURES_S
  | QUEUE_SEL
  | QUEUE_NUM
  | QUEUE_READY
  | INTERRUPT_AC
  | STATUS
  | QUEUE_DESC_LOW
  | QUEUE_DESC_HIGH
  | QUEUE_AVAIL_LOW
  | QUEUE_AVAIL_HIGH
  | QUEUE_USED_LOW
  | QUEUE_USED_HIGH
  | SHM_SEL
  | MSI_ADDRESS_L
  | MSI_ADDRESS_H
  | MSI_DATA
  | unknown
  deriving DecidableEq, Repr

/-- The arms of the `match offset` of a 4-byte write. -/
def Reg32.of_offset (offset : UInt64) : Reg32 :=
  if offset = REG_MMIO_DEVICE_FEATURES_S then .DEVICE_FEATURES_S
  else if offset = REG_MMIO_DRIVER_FEATURE then .DRIVER_FEATURE
  else if offset = REG_MMIO_DRIVER_FEATURES_S then .DRIVER_FEATURES_S
  else if offset = REG_MMIO_QUEUE_SEL then .QUEUE_SEL
  else if offset = REG_MMIO_QUEUE_NUM then .QUEUE_NUM
  else if offset = REG_MMIO_QUEUE_READY then .QUEUE_READY
  else if offset = REG_MMIO_INTERRUPT_AC then .INTERRUPT_AC
  else if offset = REG_MMIO_STATUS then .STATUS
  else if offset = REG_MMIO_QUEUE_DESC_LOW then .QUEUE_DESC_LOW
  else if offset = REG_MMIO_QUEUE_DESC_HIGH then .QUEUE_DESC_HIGH
  else if offset = REG_MMIO_QUEUE_AVAIL_LOW then .QUEUE_AVAIL_LOW
  else if offset = REG_MMIO_QUEUE_AVAIL_HIGH then .QUEUE_AVAIL_HIGH
  else if offset = REG_MMIO_QUEUE_USED_LOW then .QUEUE_USED_LOW
  else if offset = REG_MMIO_QUEUE_USED_HIGH then .QUEUE_USED_HIGH
  else if offset = REG_MMIO_SHM_SEL then .SHM_SEL
  else if offset = REG_MMIO_MSI_ADDRESS_L then .MSI_ADDRESS_L
  else if offset = REG_MMIO_MSI_ADDRESS_H then .MSI_ADDRESS_H
  else if offset = REG_MMIO_MSI_DATA then .MSI_DATA
  else .unknown

/-- The registers that write a field of the selected queue through `update_queue_field`. -/
def Reg32.is_queue_field : Reg32 → Bool
  | .QUEUE_NUM | .QUEUE_READY | .QUEUE_DESC_LOW | .QUEUE_DESC_HIGH | .QUEUE_AVAIL_LOW
  | .QUEUE_AVAIL_HIGH | .QUEUE_USED_LOW | .QUEUE_USED_HIGH => true
  | _ => false

/-- The registers that `DeviceIo::write` decodes from a 2-byte access. -/
inductive Reg16
  | MSI_CSR
  | MSI_COMMAND
  | unknown
  deriving DecidableEq, Repr

def Reg16.of_offset (offset : UInt64) : Reg16 :=
  if offset = REG_MMIO_MSI_CSR then .MSI_CSR
  else if offset = REG_MMIO_MSI_COMMAND then .MSI_COMMAND
  else .unknown

/-- A 4-byte write. The interrupt acknowledgement and the MSI address and data go to the interrupt
manager, which is not state of the transport. -/
def write_u32 (s : MmioV2Device Q Dev) (offset : UInt64) (v : UInt32) : MmioV2Device Q Dev :=
  match Reg32.of_offset offset with
  | .DEVICE_FEATURES_S => { s with features_select := v }
  | .DRIVER_FEATURE => set_acked_features b s v
  | .DRIVER_FEATURES_S => { s with acked_features_select := v }
  | .QUEUE_SEL => { s with queue_select := v }
  | .QUEUE_NUM => s.update_queue_field fun q => b.set_size q v.toUInt16
  | .QUEUE_READY => s.update_queue_field fun q => b.set_ready q (v == 1)
  | .INTERRUPT_AC => s
  | .STATUS => update_driver_status b o s v
  | .QUEUE_DESC_LOW => s.update_queue_field fun q => b.set_desc_table_address q (some v) none
  | .QUEUE_DESC_HIGH => s.update_queue_field fun q => b.set_desc_table_address q none (some v)
  | .QUEUE_AVAIL_LOW => s.update_queue_field fun q => b.set_avail_ring_address q (some v) none
  | .QUEUE_AVAIL_HIGH => s.update_queue_field fun q => b.set_avail_ring_address q none (some v)
  | .QUEUE_USED_LOW => s.update_queue_field fun q => b.set_used_ring_address q (some v) none
  | .QUEUE_USED_HIGH => s.update_queue_field fun q => b.set_used_ring_address q none (some v)
  | .SHM_SEL => { s with shm_region_id := v }
  | .MSI_ADDRESS_L | .MSI_ADDRESS_H | .MSI_DATA => s
  | .unknown => s

/-- A 2-byte write. -/
def write_u16 (s : MmioV2Device Q Dev) (offset : UInt64) (v : UInt16) : MmioV2Device Q Dev :=
  match Reg16.of_offset offset with
  | .MSI_CSR => update_msi_enable o s v
  | .MSI_COMMAND => s.handle_msi_cmd v
  | .unknown => s

/-- `DeviceIo::write`. The device configuration area belongs to the inner device, whose
configuration is not state of the transport. -/
def write (s : MmioV2Device Q Dev) (offset : UInt64) (data : List UInt8) : MmioV2Device Q Dev :=
  if MMIO_CFG_SPACE_OFF ≤ offset ∧ offset < DRAGONBALL_MMIO_DOORBELL_OFFSET then s
  else if data.length = 4 then write_u32 b o s offset (read_u32 data)
  else if data.length = 2 then write_u16 o s offset (read_u16 data)
  else s

/-- One guest access, with the host's answers during it. A read loads registers and calls the
inner device's `read_config`, and changes no state of the transport. -/
def step (s : MmioV2Device Q Dev) : Access × Outcome → MmioV2Device Q Dev
  | (.read _ _, _) => s
  | (.write offset data, o) => write b o s offset data

/-! ## What each part of an access changes -/

section Frame

variable {b o} {s : MmioV2Device Q Dev}

@[simp] theorem reset_driver_status : (reset b s).1.driver_status = s.driver_status := by
  unfold reset
  split_ifs <;> rfl

@[simp] theorem reset_device_activated : (reset b s).1.device_activated = s.device_activated := by
  unfold reset
  split_ifs <;> rfl

@[simp] theorem reset_device : (reset b s).1.device = s.device := by
  unfold reset
  split_ifs <;> rfl

@[simp] theorem activate_driver_status : (activate o s).1.driver_status = s.driver_status := by
  unfold activate
  split_ifs <;> rfl

@[simp] theorem activate_device : (activate o s).1.device = s.device := by
  unfold activate
  split_ifs <;> rfl

/-- Activation fails only on a device that is not active, and then changes nothing. -/
theorem activate_error (h : (activate o s).2 = .error ()) :
    (activate o s).1 = s ∧ s.device_activated = false := by
  unfold activate at h ⊢
  by_cases h₁ : s.device_activated
  · simp [h₁] at h
  · by_cases h₂ : o.activate_ok
    · simp [h₁, h₂] at h
    · simp [h₁, h₂]

theorem activate_ok (h : (activate o s).2 = .ok ()) : (activate o s).1.device_activated = true := by
  unfold activate at h ⊢
  split_ifs at h ⊢ with h₁
  · exact h₁
  · rfl

@[simp] theorem with_queue_mut_driver_status {f : Q → Q} :
    (s.with_queue_mut f).driver_status = s.driver_status := by
  unfold with_queue_mut
  split <;> rfl

@[simp] theorem with_queue_mut_device_activated {f : Q → Q} :
    (s.with_queue_mut f).device_activated = s.device_activated := by
  unfold with_queue_mut
  split <;> rfl

@[simp] theorem with_queue_mut_device {f : Q → Q} : (s.with_queue_mut f).device = s.device := by
  unfold with_queue_mut
  split <;> rfl

@[simp] theorem update_queue_field_driver_status {f : Q → Q} :
    (s.update_queue_field f).driver_status = s.driver_status := by
  unfold update_queue_field
  split_ifs <;> simp

@[simp] theorem update_queue_field_device_activated {f : Q → Q} :
    (s.update_queue_field f).device_activated = s.device_activated := by
  unfold update_queue_field
  split_ifs <;> simp

@[simp] theorem update_queue_field_device {f : Q → Q} :
    (s.update_queue_field f).device = s.device := by
  unfold update_queue_field
  split_ifs <;> simp

@[simp] theorem exchange_driver_status_device {old new : UInt32} :
    (s.exchange_driver_status old new).1.device = s.device := by
  unfold exchange_driver_status
  split_ifs <;> rfl

@[simp] theorem settle_device {r : MmioV2Device Q Dev × Except UInt32 UInt32} :
    (settle r).device = r.1.device := by
  unfold settle
  split <;> rfl

/-- Only `set_acked_features` changes the inner device: the status machine does not. -/
@[simp] theorem update_driver_status_device {v : UInt32} :
    (update_driver_status b o s v).device = s.device := by
  unfold update_driver_status transition
  rw [settle_device]
  split_ifs
  · exact exchange_driver_status_device
  · exact exchange_driver_status_device
  · exact exchange_driver_status_device
  · unfold driver_ok_transition exchange_driver_status
    split_ifs
    · dsimp only
      rcases hr : activate o { s with driver_status := DEVICE_STATUS_DRIVER_OK } with ⟨s', _ | _⟩
      all_goals
        have hd : s'.device = s.device := by
          have := activate_device (o := o) (s := { s with driver_status := DEVICE_STATUS_DRIVER_OK })
          rwa [hr] at this
      · simp [hd]
      · exact hd
    · rfl
  · unfold reset_transition
    split_ifs
    · rfl
    · rfl
    · rcases hr : reset b s.deactivate with ⟨s', _ | _⟩
      all_goals
        have hd : s'.device = s.device := by
          have := reset_device (b := b) (s := s.deactivate)
          rwa [hr] at this
      · exact hd
      · simp [hd]
    · rfl
  · rfl
  · rfl
  · rfl

@[simp] theorem update_msi_enable_device {v : UInt16} : (update_msi_enable o s v).device = s.device := by
  unfold update_msi_enable
  split_ifs <;> rfl

@[simp] theorem handle_msi_cmd_device {v : UInt16} : (s.handle_msi_cmd v).device = s.device := by
  unfold handle_msi_cmd
  dsimp only
  split_ifs <;> rfl

end Frame

/-! ## The moves of the status -/

/-- The moves of an access on the status and the activation flag: the transitions of
`update_driver_status`, and `FAILED` marking. -/
inductive StatusMove : UInt32 → Bool → UInt32 → Bool → Prop
  | stay {st : UInt32} {act : Bool} : StatusMove st act st act
  | fail {st : UInt32} {act : Bool} : StatusMove st act (st ||| DEVICE_FAILED) act
  | acknowledge {act : Bool} : StatusMove DEVICE_STATUS_INIT act DEVICE_STATUS_ACKNOWLEDE act
  | driver {act : Bool} : StatusMove DEVICE_STATUS_ACKNOWLEDE act DEVICE_STATUS_DRIVER act
  | features_ok {act : Bool} : StatusMove DEVICE_STATUS_DRIVER act DEVICE_STATUS_FEATURE_OK act
  | activate {act : Bool} : StatusMove DEVICE_STATUS_FEATURE_OK act DEVICE_STATUS_DRIVER_OK true
  | activate_failed :
      StatusMove DEVICE_STATUS_FEATURE_OK false (DEVICE_STATUS_DRIVER_OK ||| DEVICE_FAILED) false
  | reset_failed {st : UInt32} : StatusMove st true (st ||| DEVICE_FAILED) false
  | reset : StatusMove DEVICE_STATUS_DRIVER_OK true DEVICE_STATUS_INIT false

section Moves

variable {b o} {s : MmioV2Device Q Dev}

theorem StatusMove.of_eq {st st' : UInt32} {act act' : Bool} (h₁ : st' = st) (h₂ : act' = act) :
    StatusMove st act st' act' := by
  subst h₁ h₂
  exact .stay

theorem settle_set_driver_failed_move :
    StatusMove s.driver_status s.device_activated (settle (s, .error DEVICE_FAILED)).driver_status
      (settle (s, .error DEVICE_FAILED)).device_activated := .fail

/-- A compare-and-exchange along the chain either takes its step or fails the device. -/
theorem exchange_move {old new : UInt32} (hm : ∀ act, StatusMove old act new act) :
    StatusMove s.driver_status s.device_activated
      (settle (s.exchange_driver_status old new)).driver_status
      (settle (s.exchange_driver_status old new)).device_activated := by
  unfold exchange_driver_status
  split_ifs with h
  · rw [h]
    exact hm _
  · exact .fail

theorem driver_ok_transition_move :
    StatusMove s.driver_status s.device_activated (settle (driver_ok_transition b o s)).driver_status
      (settle (driver_ok_transition b o s)).device_activated := by
  unfold driver_ok_transition exchange_driver_status
  split_ifs with h
  · rw [h]
    -- after the exchange, activation decides
    by_cases hact : s.device_activated
    · simp only [activate, hact, if_true, settle]
      exact .activate
    · by_cases hok : o.activate_ok
      · simp only [activate, hact, hok, if_true, if_false, settle, Bool.false_eq_true]
        exact .activate
      · simp only [activate, hact, hok, if_false, settle, Bool.false_eq_true, set_driver_failed,
          reset_driver_status, reset_device_activated]
        exact .activate_failed
  · exact .fail

theorem reset_transition_move :
    StatusMove s.driver_status s.device_activated (settle (reset_transition b o s)).driver_status
      (settle (reset_transition b o s)).device_activated := by
  unfold reset_transition
  by_cases h₁ : s.driver_status = DEVICE_INIT
  · rw [if_pos h₁]
    exact .stay
  rw [if_neg h₁]
  by_cases h₂ : s.device_activated
  swap
  · rw [if_neg h₂]
    exact .fail
  rw [if_pos h₂]
  by_cases h₃ : o.device_reset_ok
  swap
  · simp only [h₃, Bool.not_false, if_true]
    exact .fail
  simp only [h₃, Bool.not_true, Bool.false_eq_true, if_false]
  -- the device was active: it is deactivated, then its state reset
  rcases hr : reset b s.deactivate with ⟨s', _ | _⟩
  all_goals
    have hst : s'.driver_status = s.driver_status := by
      have := reset_driver_status (b := b) (s := s.deactivate)
      rwa [hr] at this
    have hact : s'.device_activated = false := by
      have := reset_device_activated (b := b) (s := s.deactivate)
      rwa [hr] at this
  · simp only [settle, set_driver_failed, hst, hact]
    exact h₂ ▸ .reset_failed
  · simp only [exchange_driver_status]
    split_ifs with h₄
    · simp only [settle]
      rw [← hst, h₄, h₂, hact]
      exact .reset
    · simp only [settle, set_driver_failed, hst, hact]
      exact h₂ ▸ .reset_failed

/-- Every write of the status register moves the status along `StatusMove`. -/
theorem update_driver_status_move {v : UInt32} :
    StatusMove s.driver_status s.device_activated (update_driver_status b o s v).driver_status
      (update_driver_status b o s v).device_activated := by
  unfold update_driver_status transition
  split_ifs
  · exact exchange_move fun _ => .acknowledge
  · exact exchange_move fun _ => .driver
  · exact exchange_move fun _ => .features_ok
  · exact driver_ok_transition_move
  · exact reset_transition_move
  · exact .stay
  · exact .fail
  · exact .fail

theorem update_msi_enable_move {v : UInt16} :
    StatusMove s.driver_status s.device_activated (update_msi_enable o s v).driver_status
      (update_msi_enable o s v).device_activated := by
  unfold update_msi_enable
  split_ifs <;> first | exact .stay | exact .fail

theorem handle_msi_cmd_move {v : UInt16} :
    StatusMove s.driver_status s.device_activated (s.handle_msi_cmd v).driver_status
      (s.handle_msi_cmd v).device_activated := by
  unfold handle_msi_cmd
  dsimp only
  split_ifs
  · exact .stay
  · exact .fail

theorem set_acked_features_move {v : UInt32} :
    StatusMove s.driver_status s.device_activated (set_acked_features b s v).driver_status
      (set_acked_features b s v).device_activated := by
  unfold set_acked_features
  split_ifs <;> exact .stay

theorem write_u32_move {offset : UInt64} {v : UInt32} :
    StatusMove s.driver_status s.device_activated (write_u32 b o s offset v).driver_status
      (write_u32 b o s offset v).device_activated := by
  unfold write_u32
  cases Reg32.of_offset offset
  all_goals first
    | exact .stay
    | exact update_driver_status_move
    | exact set_acked_features_move
    | exact StatusMove.of_eq update_queue_field_driver_status update_queue_field_device_activated

theorem write_u16_move {offset : UInt64} {v : UInt16} :
    StatusMove s.driver_status s.device_activated (write_u16 o s offset v).driver_status
      (write_u16 o s offset v).device_activated := by
  unfold write_u16
  cases Reg16.of_offset offset
  · exact update_msi_enable_move
  · exact handle_msi_cmd_move
  · exact .stay

/-- Every access moves the status along `StatusMove`. -/
theorem step_move {a : Access × Outcome} :
    StatusMove s.driver_status s.device_activated (s.step b a).driver_status
      (s.step b a).device_activated := by
  obtain ⟨_ | ⟨offset, data⟩, o⟩ := a
  · exact .stay
  simp only [step, write]
  split
  · exact .stay
  split
  · exact write_u32_move
  split
  · exact write_u16_move
  · exact .stay

end Moves

/-! ## The invariant -/

/-- The statuses of the initialisation sequence, in order. -/
def STATUS_CHAIN : List UInt32 :=
  [DEVICE_STATUS_INIT, DEVICE_STATUS_ACKNOWLEDE, DEVICE_STATUS_DRIVER, DEVICE_STATUS_FEATURE_OK,
    DEVICE_STATUS_DRIVER_OK]

/-- A status on the chain, possibly marked failed. -/
def ValidStatus (st : UInt32) : Prop := ∃ P ∈ STATUS_CHAIN, st = P ∨ st = P ||| DEVICE_FAILED

instance (st : UInt32) : Decidable (ValidStatus st) :=
  inferInstanceAs (Decidable (∃ P ∈ STATUS_CHAIN, _))

/-- The ten statuses of `ValidStatus`. -/
theorem ValidStatus.cases {st : UInt32} (h : ValidStatus st) :
    st = 0x00 ∨ st = 0x01 ∨ st = 0x03 ∨ st = 0x0b ∨ st = 0x0f ∨
      st = 0x80 ∨ st = 0x81 ∨ st = 0x83 ∨ st = 0x8b ∨ st = 0x8f := by
  obtain ⟨P, hP, h⟩ := h
  simp only [STATUS_CHAIN, List.mem_cons, List.not_mem_nil, or_false] at hP
  rcases hP with rfl | rfl | rfl | rfl | rfl <;> rcases h with rfl | rfl <;> decide

/-- The invariant on the status and the activation flag: a valid status; an active device has
`DRIVER_OK`; `DRIVER_OK` without `FAILED` means an active device. -/
structure StatusInv (st : UInt32) (act : Bool) : Prop where
  valid : ValidStatus st
  active : act = true → st &&& DEVICE_DRIVER_OK ≠ 0
  driver_ok : st &&& (DEVICE_DRIVER_OK ||| DEVICE_FAILED) = DEVICE_DRIVER_OK → act = true

/-- Marking `FAILED` keeps a status valid, keeps its `DRIVER_OK` bit, and sets `FAILED`. -/
theorem fail_facts {st : UInt32} (h : ValidStatus st) :
    ValidStatus (st ||| DEVICE_FAILED) ∧
      (st &&& DEVICE_DRIVER_OK ≠ 0 → (st ||| DEVICE_FAILED) &&& DEVICE_DRIVER_OK ≠ 0) ∧
      (st ||| DEVICE_FAILED) &&& (DEVICE_DRIVER_OK ||| DEVICE_FAILED) ≠ DEVICE_DRIVER_OK := by
  rcases h.cases with rfl | rfl | rfl | rfl | rfl | rfl | rfl | rfl | rfl | rfl <;> decide

/-- Every move keeps the invariant. -/
theorem StatusMove.inv {st st' : UInt32} {act act' : Bool} (hm : StatusMove st act st' act')
    (hi : StatusInv st act) : StatusInv st' act' := by
  cases hm with
  | stay => exact hi
  | fail =>
    obtain ⟨hv, hd, hf⟩ := fail_facts hi.valid
    exact ⟨hv, fun h => hd (hi.active h), fun h => absurd h hf⟩
  | reset_failed =>
    obtain ⟨hv, -, hf⟩ := fail_facts hi.valid
    exact ⟨hv, fun h => absurd h (by decide), fun h => absurd h hf⟩
  | acknowledge | driver | features_ok =>
    -- the flag is kept, and was off: the old status had no `DRIVER_OK`
    cases act
    · exact ⟨by decide, fun h => absurd h (by decide), fun h => absurd h (by decide)⟩
    · exact absurd (hi.active rfl) (by decide)
  | activate => exact ⟨by decide, fun _ => by decide, fun _ => rfl⟩
  | activate_failed => exact ⟨by decide, fun h => absurd h (by decide), fun h => absurd h (by decide)⟩
  | reset => exact ⟨by decide, fun h => absurd h (by decide), fun h => absurd h (by decide)⟩

/-- The bits of a status other than `FAILED`. -/
def phase (st : UInt32) : UInt32 := st &&& ~~~DEVICE_FAILED

/-- How one access may move the status: the bits other than `FAILED` stay or take the next step of
the chain, or a successful reset clears them all from `DRIVER_OK`. -/
def StatusStep (st st' : UInt32) : Prop :=
  phase st' = phase st ∨ (phase st, phase st') ∈ STATUS_CHAIN.zip STATUS_CHAIN.tail ∨
    (st = DEVICE_STATUS_DRIVER_OK ∧ st' = DEVICE_STATUS_INIT)

theorem StatusMove.step {st st' : UInt32} {act act' : Bool} (hm : StatusMove st act st' act')
    (hv : ValidStatus st) : StatusStep st st' := by
  cases hm with
  | stay => exact .inl rfl
  | fail | reset_failed =>
    left
    rcases hv.cases with rfl | rfl | rfl | rfl | rfl | rfl | rfl | rfl | rfl | rfl <;> decide
  | acknowledge | driver | features_ok | activate | activate_failed =>
    right; left; decide
  | reset => exact .inr (.inr ⟨rfl, rfl⟩)

/-! ## The gated writes -/

/-- A 4-byte write of a register of the selected queue. -/
def writes_queue_field : Access → Prop
  | .write offset data => data.length = 4 ∧ (Reg32.of_offset offset).is_queue_field = true
  | .read _ _ => False

section Gates

variable {b o} {s : MmioV2Device Q Dev}

theorem update_queue_field_changed {f : Q → Q} (h : s.update_queue_field f ≠ s) :
    s.check_driver_status DEVICE_FEATURES_OK (DEVICE_DRIVER_OK ||| DEVICE_FAILED) = true := by
  unfold update_queue_field at h
  split_ifs at h with hc
  · exact hc
  · exact absurd rfl h

theorem set_acked_features_changed {v : UInt32} (h : (set_acked_features b s v).device ≠ s.device) :
    s.check_driver_status DEVICE_DRIVER (DEVICE_FEATURES_OK ||| DEVICE_FAILED) = true := by
  unfold set_acked_features at h
  split_ifs at h with hc
  · exact hc
  · exact absurd rfl h

/-- A write of a queue register changes the state only through `update_queue_field`'s check. -/
theorem write_u32_queue_field_changed {offset : UInt64} {v : UInt32}
    (hq : (Reg32.of_offset offset).is_queue_field = true) (h : write_u32 b o s offset v ≠ s) :
    s.check_driver_status DEVICE_FEATURES_OK (DEVICE_DRIVER_OK ||| DEVICE_FAILED) = true := by
  revert hq h
  unfold write_u32
  cases Reg32.of_offset offset
  all_goals intro hq h
  all_goals first
    | exact absurd hq (by decide)
    | exact update_queue_field_changed h

/-- Of the 4-byte writes, only the one of `DRIVER_FEATURE` changes the inner device. -/
theorem write_u32_device_changed {offset : UInt64} {v : UInt32}
    (h : (write_u32 b o s offset v).device ≠ s.device) :
    s.check_driver_status DEVICE_DRIVER (DEVICE_FEATURES_OK ||| DEVICE_FAILED) = true := by
  revert h
  unfold write_u32
  cases Reg32.of_offset offset
  all_goals intro h
  all_goals first
    | exact absurd rfl h
    | exact set_acked_features_changed h
    | exact absurd update_driver_status_device h
    | exact absurd update_queue_field_device h

theorem write_u16_device {offset : UInt64} {v : UInt16} :
    (write_u16 o s offset v).device = s.device := by
  unfold write_u16
  cases Reg16.of_offset offset
  · exact update_msi_enable_device
  · exact handle_msi_cmd_device
  · rfl

theorem step_queue_field_changed {a : Access × Outcome} (hq : writes_queue_field a.1)
    (h : s.step b a ≠ s) :
    s.check_driver_status DEVICE_FEATURES_OK (DEVICE_DRIVER_OK ||| DEVICE_FAILED) = true := by
  obtain ⟨_ | ⟨offset, data⟩, o⟩ := a
  · exact hq.elim
  obtain ⟨hlen, hreg⟩ := hq
  simp only [step, write] at h
  -- the configuration space changes nothing, and a queue write has four bytes
  split at h
  · exact absurd rfl h
  exact write_u32_queue_field_changed hreg h

theorem step_device_changed {a : Access × Outcome} (h : (s.step b a).device ≠ s.device) :
    s.check_driver_status DEVICE_DRIVER (DEVICE_FEATURES_OK ||| DEVICE_FAILED) = true := by
  obtain ⟨_ | ⟨offset, data⟩, o⟩ := a
  · exact absurd rfl h
  simp only [step, write] at h
  split at h
  · exact absurd rfl h
  split at h
  · exact write_u32_device_changed h
  split at h
  · exact absurd write_u16_device h
  · exact absurd rfl h

end Gates

/-- The queue gate: the check of `FEATURES_OK` against `DRIVER_OK | FAILED` passes exactly on a
status with `FEATURES_OK` and neither of the others. -/
theorem queue_gate_bits {st : UInt32}
    (h : st &&& (DEVICE_FEATURES_OK ||| (DEVICE_DRIVER_OK ||| DEVICE_FAILED)) = DEVICE_FEATURES_OK) :
    st &&& DEVICE_FEATURES_OK ≠ 0 ∧ st &&& (DEVICE_DRIVER_OK ||| DEVICE_FAILED) = 0 := by
  have hf : st &&& DEVICE_FEATURES_OK = DEVICE_FEATURES_OK :=
    calc st &&& DEVICE_FEATURES_OK
        = st &&& ((DEVICE_FEATURES_OK ||| (DEVICE_DRIVER_OK ||| DEVICE_FAILED)) &&&
            DEVICE_FEATURES_OK) := by rfl
      _ = DEVICE_FEATURES_OK &&& DEVICE_FEATURES_OK := by rw [← UInt32.and_assoc, h]
      _ = DEVICE_FEATURES_OK := UInt32.and_self
  have hc : st &&& (DEVICE_DRIVER_OK ||| DEVICE_FAILED) = 0 :=
    calc st &&& (DEVICE_DRIVER_OK ||| DEVICE_FAILED)
        = st &&& ((DEVICE_FEATURES_OK ||| (DEVICE_DRIVER_OK ||| DEVICE_FAILED)) &&&
            (DEVICE_DRIVER_OK ||| DEVICE_FAILED)) := by rfl
      _ = DEVICE_FEATURES_OK &&& (DEVICE_DRIVER_OK ||| DEVICE_FAILED) := by
        rw [← UInt32.and_assoc, h]
      _ = 0 := by rfl
  exact ⟨by rw [hf]; decide, hc⟩

/-- The features gate: on a valid status, the check of `DRIVER` against `FEATURES_OK | FAILED`
passes only in `ACKNOWLEDGE | DRIVER`. -/
theorem features_gate_status {st : UInt32} (hv : ValidStatus st)
    (h : (st &&& (DEVICE_DRIVER ||| (DEVICE_FEATURES_OK ||| DEVICE_FAILED)) == DEVICE_DRIVER) = true) :
    st = DEVICE_STATUS_DRIVER := by
  rcases hv.cases with rfl | rfl | rfl | rfl | rfl | rfl | rfl | rfl | rfl | rfl
  all_goals first
    | rfl
    | exact absurd h (by decide)

/-! ## Runs from a new device -/

/-- The invariant of every state the guest can reach. -/
def Inv (s : MmioV2Device Q Dev) : Prop := StatusInv s.driver_status s.device_activated

/-- The states that guest accesses reach from a new device. -/
def Reachable : MmioV2Device Q Dev → Prop :=
  Transition.Reachable (fun s => ∃ device queues, s = new device queues) (step b)

theorem new_inv (device : Dev) (queues : List Q) : Inv (new device queues) :=
  ⟨⟨DEVICE_STATUS_INIT, List.mem_cons_self, .inl rfl⟩, fun h => absurd h (by simp [new]),
    fun h => absurd h (by simp only [new]; decide)⟩

theorem step_inv {s : MmioV2Device Q Dev} (a : Access × Outcome) (h : Inv s) : Inv (s.step b a) :=
  step_move.inv h

theorem reachable_inv {s : MmioV2Device Q Dev} (h : Reachable b s) : Inv s :=
  h.invariant (fun _ ⟨_, _, hs⟩ => hs ▸ new_inv _ _) (fun _ a hs => step_inv b a hs)

end MmioV2Device

end KataContainers.Dragonball.MmioV2
