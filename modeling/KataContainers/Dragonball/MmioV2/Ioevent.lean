import KataContainers.Dragonball.MmioV2

/-!
# The ioeventfds of a virtio-MMIO device

Model of the ioeventfd half of `MmioV2DeviceState` (`dbs_virtio_devices/src/mmio/mmio_state.rs`):
`register_ioevent`, which `activate` calls, with its rollbacks `revert_ioevent` and
`unregister_ioevent_doorbell`, and the `unregister_ioevent` and doorbell drop of `reset`.

KVM's registrations are a list of entries, each an eventfd, an MMIO address and a datamatch
(`IoEvent`). A `vm_fd.register_ioevent` call succeeds or fails as the host answers it (`answers`;
once they run out, calls succeed) and adds its entry on success; `vm_fd.unregister_ioevent`
removes an entry equal to its arguments, and when there is none its error is ignored, as every
caller here ignores it. A datamatch is `none` for `NoDatamatch`, or the value to match; the width
of the value's type, which KVM compares as well, is left out, so the model removes an entry on
every call that KVM would remove it on.

On success `register_ioevent` adds, for every queue `i`, the doorbell entry (with a doorbell) and
the notify entry with datamatch `i` (`register_ioevent_ok`). The rollbacks do not undo what was
added: `revert_ioevent` unregisters the doorbell entries of earlier queues at the failing queue's
address with the datamatch `0`, so every doorbell entry outlives it (`mem_revert_ioevent_of_none`),
and the notify entries with a datamatch one above theirs. `reset` unregisters the notify entries
only and drops the doorbell, whose entries outlive it (`mem_reset_of_none`). The failures and the
reset that leave entries behind are in `register_ioevent_leaks`.
-/

namespace KataContainers.Dragonball.MmioV2

def MMIO_NOTIFY_REG_OFFSET : UInt32 := 0x50

def DRAGONBALL_MMIO_DOORBELL_SCALE : UInt64 := 0x04

/-- The offset and scale of the per-queue MMIO doorbells. -/
structure DoorBell where
  offset : UInt32
  scale : UInt32
  deriving DecidableEq, Repr

/-- The doorbell of `MmioV2DeviceState::new` when the doorbell is enabled. -/
def DoorBell.dragonball : DoorBell :=
  ⟨DRAGONBALL_MMIO_DOORBELL_OFFSET.toUInt32, DRAGONBALL_MMIO_DOORBELL_SCALE.toUInt32⟩

/-- Returns the offset with the specified index of virtio queue. -/
def DoorBell.queue_offset (d : DoorBell) (queue_index : Nat) : UInt64 :=
  d.offset.toUInt64 + d.scale.toUInt64 * queue_index.toUInt64

/-- A KVM ioeventfd registration: a write to `addr` matching `datamatch` signals `eventfd`. -/
structure IoEvent (E : Type) where
  eventfd : E
  addr : UInt64
  datamatch : Option UInt64
  deriving DecidableEq, Repr

/-- What `register_ioevent`, the rollbacks and `reset` read and change; `queues` are the queues'
eventfds, in order. -/
structure IoeventState (E : Type) where
  queues : List E
  mmio_base : UInt64
  doorbell : Option DoorBell
  ioevent_registered : Bool
  /-- KVM's registrations. -/
  kvm : List (IoEvent E)
  /-- The answers of the coming `vm_fd.register_ioevent` calls. -/
  answers : List Bool

namespace IoeventState

variable {E : Type}

/-- The fields that no call here changes. -/
structure Frame (s s' : IoeventState E) : Prop where
  queues : s'.queues = s.queues
  mmio_base : s'.mmio_base = s.mmio_base
  doorbell : s'.doorbell = s.doorbell

theorem Frame.refl (s : IoeventState E) : Frame s s := ⟨rfl, rfl, rfl⟩

theorem Frame.trans {s₁ s₂ s₃ : IoeventState E} (h₁ : Frame s₁ s₂) (h₂ : Frame s₂ s₃) :
    Frame s₁ s₃ :=
  ⟨h₂.queues.trans h₁.queues, h₂.mmio_base.trans h₁.mmio_base, h₂.doorbell.trans h₁.doorbell⟩

/-- `vm_fd.register_ioevent`: whether it succeeded. -/
def vm_register (s : IoeventState E) (e : IoEvent E) : IoeventState E × Bool :=
  match s.answers with
  | false :: rest => ({ s with answers := rest }, false)
  | true :: rest => ({ s with answers := rest, kvm := s.kvm ++ [e] }, true)
  | [] => ({ s with kvm := s.kvm ++ [e] }, true)

theorem frame_vm_register (s : IoeventState E) (e : IoEvent E) : Frame s (s.vm_register e).1 := by
  unfold vm_register
  split <;> exact ⟨rfl, rfl, rfl⟩

/-- A registration appends its entry when it succeeds, and changes no entry when it fails. -/
theorem vm_register_kvm (s : IoeventState E) (e : IoEvent E) :
    (s.vm_register e).1.kvm = if (s.vm_register e).2 then s.kvm ++ [e] else s.kvm := by
  unfold vm_register
  split <;> rfl

/-- The address of the notify register. -/
def notify_addr (s : IoeventState E) : UInt64 := s.mmio_base + MMIO_NOTIFY_REG_OFFSET.toUInt64

/-- The entries that a successful round for queue `i` adds: its doorbell entry, with a doorbell,
and its notify entry. -/
def added (s : IoeventState E) (i : Nat) (eventfd : E) : List (IoEvent E) :=
  (match s.doorbell with
    | some doorbell => [⟨eventfd, s.mmio_base + doorbell.queue_offset i, none⟩]
    | none => []) ++ [⟨eventfd, s.notify_addr, some i.toUInt64⟩]

/-- The entries of a round depend on the fields that no call changes. -/
theorem Frame.added_eq {s s' : IoeventState E} (h : Frame s s') : s'.added = s.added := by
  funext i eventfd
  simp only [added, notify_addr, h.doorbell, h.mmio_base]

variable [DecidableEq E]

/-- `vm_fd.unregister_ioevent`, its error ignored. -/
def vm_unregister (s : IoeventState E) (e : IoEvent E) : IoeventState E :=
  { s with kvm := s.kvm.erase e }

/-- `revert_ioevent(num, io_addr, wildcard)`: unregister at `io_addr` the eventfds of the queues
below `num`, walking down; the datamatch is taken before the counter moves, and a wildcard is
`NoDatamatch.into()`, the value `0`. -/
def revert_ioevent (s : IoeventState E) (num : Nat) (io_addr : UInt64) (wildcard : Bool) :
    IoeventState E :=
  go num s
where
  go : Nat → IoeventState E → IoeventState E
    | 0, s => s
    | idx + 1, s =>
      let datamatch : UInt64 := if wildcard then 0 else (idx + 1).toUInt64
      match s.queues[idx]? with
      | some eventfd => go idx (s.vm_unregister ⟨eventfd, io_addr, some datamatch⟩)
      | none => go idx s

/-- `unregister_ioevent_doorbell`: the doorbell entry of every queue. -/
def unregister_ioevent_doorbell (s : IoeventState E) : IoeventState E :=
  match s.doorbell with
  | some doorbell =>
    (s.queues.zipIdx).foldl (fun s (eventfd, i) =>
      s.vm_unregister ⟨eventfd, s.mmio_base + doorbell.queue_offset i, none⟩) s
  | none => s

/-- The doorbell step of `register_ioevent` for queue `i`, rolled back with `revert_ioevent` when
it fails; whether it succeeded. -/
def register_doorbell (s : IoeventState E) (i : Nat) (eventfd : E) : IoeventState E × Bool :=
  match s.doorbell with
  | some doorbell =>
    let io_addr := s.mmio_base + doorbell.queue_offset i
    match s.vm_register ⟨eventfd, io_addr, none⟩ with
    | (s, true) => (s, true)
    | (s, false) => (s.revert_ioevent i io_addr true, false)
  | none => (s, true)

/-- The notify step of `register_ioevent` for queue `i`, rolled back with both rollbacks when it
fails; whether it succeeded. -/
def register_notify (s : IoeventState E) (i : Nat) (eventfd : E) : IoeventState E × Bool :=
  -- always register ioeventfd in MMIO_NOTIFY_REG_OFFSET
  let io_addr := s.notify_addr
  match s.vm_register ⟨eventfd, io_addr, some i.toUInt64⟩ with
  | (s, true) => (s, true)
  | (s, false) => (s.unregister_ioevent_doorbell.revert_ioevent i io_addr false, false)

/-- `register_ioevent`. -/
def register_ioevent (s : IoeventState E) : IoeventState E × Except Unit Unit :=
  go 0 s.queues s
where
  go : Nat → List E → IoeventState E → IoeventState E × Except Unit Unit
    | _, [], s => ({ s with ioevent_registered := true }, .ok ())
    | i, eventfd :: rest, s =>
      match s.register_doorbell i eventfd with
      | (s, false) => (s, .error ())
      | (s, true) =>
        match s.register_notify i eventfd with
        | (s, true) => go (i + 1) rest s
        | (s, false) => (s, .error ())

/-- `unregister_ioevent`: the notify entry of every queue, when they were registered. -/
def unregister_ioevent (s : IoeventState E) : IoeventState E :=
  if s.ioevent_registered then
    (s.queues.zipIdx).foldl (fun s (eventfd, i) =>
      { s.vm_unregister ⟨eventfd, s.notify_addr, some i.toUInt64⟩ with ioevent_registered := false })
      s
  else s

/-- The ioeventfd part of `reset`: nothing while the device is active or when a queue cannot be
renewed (`queues_ok`); otherwise the notify entries go and the doorbell is dropped. -/
def reset (s : IoeventState E) (device_activated queues_ok : Bool) : IoeventState E :=
  if device_activated || !queues_ok then s
  else { s.unregister_ioevent with doorbell := none }

/-! ## What the calls keep -/

theorem frame_vm_unregister (s : IoeventState E) (e : IoEvent E) : Frame s (s.vm_unregister e) :=
  ⟨rfl, rfl, rfl⟩

/-- Unregistering keeps every entry other than its argument. -/
theorem mem_vm_unregister {s : IoeventState E} {e e' : IoEvent E} (hne : e ≠ e') (he : e ∈ s.kvm) :
    e ∈ (s.vm_unregister e').kvm :=
  (List.mem_erase_of_ne hne).mpr he

theorem frame_revert_go (io_addr : UInt64) (wildcard : Bool) (num : Nat) (s : IoeventState E) :
    Frame s (revert_ioevent.go io_addr wildcard num s) := by
  induction num generalizing s with
  | zero => exact .refl s
  | succ idx ih =>
    simp only [revert_ioevent.go]
    split
    · exact (frame_vm_unregister s _).trans (ih _)
    · exact ih s

/-- `revert_ioevent` keeps every entry other than those it unregisters: the eventfds of queues
`idx < num` at `io_addr` with the datamatch `0` or `idx + 1`. -/
theorem mem_revert_go {io_addr : UInt64} {wildcard : Bool} {e : IoEvent E} (num : Nat)
    (s : IoeventState E) (he : e ∈ s.kvm)
    (hne : ∀ idx < num, ∀ eventfd, s.queues[idx]? = some eventfd →
      e ≠ ⟨eventfd, io_addr, some (if wildcard then 0 else (idx + 1).toUInt64)⟩) :
    e ∈ (revert_ioevent.go io_addr wildcard num s).kvm := by
  induction num generalizing s with
  | zero => exact he
  | succ idx ih =>
    simp only [revert_ioevent.go]
    have hne' : ∀ j < idx, ∀ q, s.queues[j]? = some q →
        e ≠ ⟨q, io_addr, some (if wildcard then 0 else (j + 1).toUInt64)⟩ :=
      fun j hj => hne j (Nat.lt_succ_of_lt hj)
    split
    · next eventfd hq =>
      -- the unregister keeps the queues, so the later unregisters are those of `hne` too
      exact ih _ (mem_vm_unregister (hne idx (Nat.lt_succ_self idx) eventfd hq) he) hne'
    · exact ih s he hne'

theorem frame_foldl_unregister {β : Type} (l : List β) (entry : IoeventState E → β → IoEvent E)
    (s : IoeventState E) :
    Frame s (l.foldl (fun s x => s.vm_unregister (entry s x)) s) := by
  induction l generalizing s with
  | nil => exact .refl s
  | cons x l ih => exact (frame_vm_unregister s _).trans (ih _)

/-- A loop of unregisters keeps every entry that none of its calls names. -/
theorem mem_foldl_erase {β : Type} (l : List β) (f : IoeventState E → β → IoeventState E)
    (entry : IoeventState E → β → IoEvent E) (hf : ∀ s x, (f s x).kvm = s.kvm.erase (entry s x))
    {e : IoEvent E} (s : IoeventState E) (he : e ∈ s.kvm) (hne : ∀ s' x, x ∈ l → e ≠ entry s' x) :
    e ∈ (l.foldl f s).kvm := by
  induction l generalizing s with
  | nil => exact he
  | cons x l ih =>
    refine ih _ ?_ fun s' y hy => hne s' y (List.mem_cons_of_mem x hy)
    rw [hf]
    exact (List.mem_erase_of_ne (hne s x (List.mem_cons_self ..))).mpr he

theorem frame_unregister_ioevent_doorbell (s : IoeventState E) :
    Frame s s.unregister_ioevent_doorbell := by
  unfold unregister_ioevent_doorbell
  split
  · exact frame_foldl_unregister _ _ s
  · exact .refl s

theorem frame_register_doorbell (s : IoeventState E) (i : Nat) (eventfd : E) :
    Frame s (s.register_doorbell i eventfd).1 := by
  unfold register_doorbell
  split
  · next doorbell _ =>
    have hf := frame_vm_register s ⟨eventfd, s.mmio_base + doorbell.queue_offset i, none⟩
    dsimp only
    rcases hv : s.vm_register ⟨eventfd, s.mmio_base + doorbell.queue_offset i, none⟩ with
      ⟨s', _ | _⟩ <;> rw [hv] at hf <;> dsimp only
    · exact hf.trans (frame_revert_go _ _ _ _)
    · exact hf
  · exact .refl s

theorem frame_register_notify (s : IoeventState E) (i : Nat) (eventfd : E) :
    Frame s (s.register_notify i eventfd).1 := by
  unfold register_notify
  have hf := frame_vm_register s ⟨eventfd, s.notify_addr, some i.toUInt64⟩
  dsimp only
  rcases hv : s.vm_register ⟨eventfd, s.notify_addr, some i.toUInt64⟩ with ⟨s', _ | _⟩ <;>
    rw [hv] at hf <;> dsimp only
  · exact hf.trans ((frame_unregister_ioevent_doorbell s').trans (frame_revert_go _ _ _ _))
  · exact hf

/-! ## Registering -/

/-- The doorbell step that succeeds appends the doorbell entry, if there is a doorbell. -/
theorem register_doorbell_true {s : IoeventState E} {i : Nat} {eventfd : E}
    (h : (s.register_doorbell i eventfd).2 = true) :
    (s.register_doorbell i eventfd).1.kvm = s.kvm ++ (match s.doorbell with
      | some doorbell => [⟨eventfd, s.mmio_base + doorbell.queue_offset i, none⟩]
      | none => []) := by
  unfold register_doorbell at h ⊢
  split
  · next doorbell hd =>
    have hk := vm_register_kvm s ⟨eventfd, s.mmio_base + doorbell.queue_offset i, none⟩
    rw [hd] at h
    dsimp only at h ⊢
    rcases hv : s.vm_register ⟨eventfd, s.mmio_base + doorbell.queue_offset i, none⟩ with
      ⟨s', _ | _⟩ <;> rw [hv] at h hk <;> dsimp only at h ⊢
    · cases h
    · exact hk
  · simp

/-- The notify step that succeeds appends the notify entry. -/
theorem register_notify_true {s : IoeventState E} {i : Nat} {eventfd : E}
    (h : (s.register_notify i eventfd).2 = true) :
    (s.register_notify i eventfd).1.kvm = s.kvm ++ [⟨eventfd, s.notify_addr, some i.toUInt64⟩] := by
  unfold register_notify at h ⊢
  have hk := vm_register_kvm s ⟨eventfd, s.notify_addr, some i.toUInt64⟩
  dsimp only at h ⊢
  rcases hv : s.vm_register ⟨eventfd, s.notify_addr, some i.toUInt64⟩ with ⟨s', _ | _⟩ <;>
    rw [hv] at h hk <;> dsimp only at h ⊢
  · cases h
  · exact hk

/-- The loop from queue `i` that succeeds has added the entries of each of its queues. -/
theorem register_go_ok {i : Nat} {qs : List E} {s s' : IoeventState E}
    (h : register_ioevent.go i qs s = (s', .ok ())) :
    s'.kvm = s.kvm ++ (qs.zipIdx i).flatMap fun (eventfd, j) => s.added j eventfd := by
  induction qs generalizing i s with
  | nil =>
    cases h
    simp
  | cons eventfd rest ih =>
    simp only [register_ioevent.go] at h
    have hf₁ := frame_register_doorbell s i eventfd
    have hk₁ := @register_doorbell_true _ _ s i eventfd
    rcases hd : s.register_doorbell i eventfd with ⟨s₁, _ | _⟩ <;> rw [hd] at h hf₁ hk₁ <;>
      dsimp only at h hf₁ hk₁
    · cases h
    have hf₂ := frame_register_notify s₁ i eventfd
    have hk₂ := @register_notify_true _ _ s₁ i eventfd
    rcases hn : s₁.register_notify i eventfd with ⟨s₂, _ | _⟩ <;> rw [hn] at h hf₂ hk₂ <;>
      dsimp only at h hf₂ hk₂
    · cases h
    -- the round added the queue's entries, and the rest of the loop the others
    rw [ih h, hk₂ rfl, hk₁ rfl, (hf₁.trans hf₂).added_eq, List.zipIdx_cons, List.flatMap_cons]
    simp only [added, notify_addr, hf₁.mmio_base, List.append_assoc]

/-- `register_ioevent` that succeeds has added, queue after queue, the entries of every queue. -/
theorem register_ioevent_ok {s s' : IoeventState E} (h : s.register_ioevent = (s', .ok ())) :
    s'.kvm = s.kvm ++ (s.queues.zipIdx).flatMap fun (eventfd, i) => s.added i eventfd :=
  register_go_ok h

/-! ## Unregistering -/

/-- An entry without datamatch outlives `revert_ioevent`, which unregisters with a datamatch. -/
theorem mem_revert_ioevent_of_none {e : IoEvent E} {s : IoeventState E} (he : e ∈ s.kvm)
    (hnone : e.datamatch = none) (num : Nat) (io_addr : UInt64) (wildcard : Bool) :
    e ∈ (s.revert_ioevent num io_addr wildcard).kvm :=
  mem_revert_go num s he fun _ _ _ _ heq => by simp [heq] at hnone

/-- An entry without datamatch outlives `unregister_ioevent`, which unregisters with a datamatch. -/
theorem mem_unregister_ioevent_of_none {e : IoEvent E} {s : IoeventState E} (he : e ∈ s.kvm)
    (hnone : e.datamatch = none) : e ∈ s.unregister_ioevent.kvm := by
  unfold unregister_ioevent
  split
  · exact mem_foldl_erase _ _ (fun s x => ⟨x.1, s.notify_addr, some x.2.toUInt64⟩) (fun _ _ => rfl)
      s he fun _ _ _ heq => by simp [heq] at hnone
  · exact he

/-- `reset` keeps every entry without datamatch: the doorbell entries outlive it. -/
theorem mem_reset_of_none {e : IoEvent E} {s : IoeventState E} (he : e ∈ s.kvm)
    (hnone : e.datamatch = none) (device_activated queues_ok : Bool) :
    e ∈ (s.reset device_activated queues_ok).kvm := by
  unfold reset
  split
  · exact he
  · exact mem_unregister_ioevent_of_none he hnone

end IoeventState

/-- Two queues, eventfds `0` and `1`, no doorbell; the host refuses the second registration. -/
def two_queues : IoeventState Nat := ⟨[0, 1], 0, none, false, [], [true, false]⟩

/-- Two queues with the dragonball doorbell; the host refuses the third registration, the second
queue's doorbell entry. -/
def two_queues_doorbell : IoeventState Nat :=
  ⟨[0, 1], 0, some .dragonball, false, [], [true, true, false]⟩

/-- One queue with the dragonball doorbell; every registration succeeds. -/
def one_queue_doorbell : IoeventState Nat := ⟨[0], 0, some .dragonball, false, [], []⟩

/-- What `register_ioevent` and `reset` leave behind. A failure at the second queue's notify entry
unregisters `(0, 0x50, 1)` where `(0, 0x50, 0)` was registered; a failure at the second queue's
doorbell unregisters the first queue at the second queue's doorbell address; and `reset` after a
successful registration drops the doorbell with its entry still registered. -/
theorem register_ioevent_leaks :
    two_queues.register_ioevent.2 = .error () ∧
    two_queues.register_ioevent.1.kvm = [⟨0, 0x50, some 0⟩] ∧
    two_queues_doorbell.register_ioevent.2 = .error () ∧
    two_queues_doorbell.register_ioevent.1.kvm = [⟨0, 0x1000, none⟩, ⟨0, 0x50, some 0⟩] ∧
    one_queue_doorbell.register_ioevent.2 = .ok () ∧
    (one_queue_doorbell.register_ioevent.1.reset false true).kvm = [⟨0, 0x1000, none⟩] := by
  decide

end KataContainers.Dragonball.MmioV2