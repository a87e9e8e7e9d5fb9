import KataContainers.Runtime.DeviceManager
import KataContainers.Lib.Except
import KataContainers.Lib.Transition

/-!
# Runs of the device manager

What holds of the manager's block devices and of the sandbox's bookkeeping after any sequence of
`NewDevice`, `AttachDevice`, `DetachDevice` and `RemoveDevice`, with the sandbox's calls each
able to fail, for every hypervisor but ACRN (`run_consistent`).

`Manager.Consistent` is that bookkeeping: the device IDs are the map's keys, each once; the
sandbox's `BlockIndexMap` holds, each once, exactly the drive indices of the attached devices
(those whose `AttachCount` is positive), and no two attached devices share one; the sandbox has
hot-plugged, each once, exactly the attached devices. One lemma per function says what it does to
a device and to the sandbox (`Attach_cases`, `Detach_cases`, `createDevice_cases`), and one lemma
per change of the map says when the bookkeeping survives it (`Consistent.set` and the cases of it
the operations use, `Consistent.erase`).
-/

namespace KataContainers.Runtime.Device

/-- The drive index a device holds while it is attached. -/
def BlockDevice.attached_index (d : BlockDevice) : Option Int :=
  if 0 < d.AttachCount then d.BlockDrive.map (·.Index) else none

/-- The bookkeeping of the manager and of its sandbox. -/
structure Manager.Consistent (dm : Manager) : Prop where
  ids_nodup : (dm.devices.map Prod.fst).Nodup
  id_eq : ∀ e ∈ dm.devices, e.2.ID = e.1
  drive_of_attached : ∀ e ∈ dm.devices, 0 < e.2.AttachCount → e.2.BlockDrive.isSome
  map_nodup : dm.sandbox.BlockIndexMap.Nodup
  map_nonneg : ∀ i ∈ dm.sandbox.BlockIndexMap, 0 ≤ i
  mem_map : ∀ i, i ∈ dm.sandbox.BlockIndexMap ↔ ∃ e ∈ dm.devices, e.2.attached_index = some i
  index_inj : ∀ e ∈ dm.devices, ∀ e' ∈ dm.devices, ∀ i,
    e.2.attached_index = some i → e'.2.attached_index = some i → e = e'
  hotplugged_nodup : dm.sandbox.hotplugged.Nodup
  mem_hotplugged : ∀ x, x ∈ dm.sandbox.hotplugged ↔ ∃ e ∈ dm.devices, e.1 = x ∧ 0 < e.2.AttachCount

/-! ## Devices -/

/-- `d'` is `d` as far as the bookkeeping sees: the same ID, attached exactly when `d` is, and
then with `d`'s drive. -/
structure BlockDevice.SameAttachment (d d' : BlockDevice) : Prop where
  ID_eq : d'.ID = d.ID
  attached_iff : 0 < d'.AttachCount ↔ 0 < d.AttachCount
  drive_eq : 0 < d'.AttachCount → d'.BlockDrive = d.BlockDrive

namespace BlockDevice

variable {d d' : BlockDevice} {i : Int}

lemma attached_index_eq_some :
    d.attached_index = some i ↔ 0 < d.AttachCount ∧ d.BlockDrive.map (·.Index) = some i := by
  unfold attached_index
  split_ifs with hc <;> simp [hc]

lemma isSome_of_attached_index (h : d.attached_index = some i) : d.BlockDrive.isSome := by
  obtain ⟨-, hdrive⟩ := attached_index_eq_some.mp h
  cases hd : d.BlockDrive with
  | none =>
    rw [hd] at hdrive
    cases hdrive
  | some _ => rfl

lemma attached_index_of_count_eq_zero (h : d.AttachCount = 0) : d.attached_index = none := by
  simp [attached_index, h]

lemma SameAttachment.refl (d : BlockDevice) : d.SameAttachment d :=
  ⟨rfl, Iff.rfl, fun _ => rfl⟩

lemma SameAttachment.attached_index_eq (h : d.SameAttachment d') :
    d'.attached_index = d.attached_index := by
  unfold attached_index
  by_cases hc : 0 < d'.AttachCount
  · rw [if_pos hc, if_pos (h.attached_iff.mp hc), h.drive_eq hc]
  · rw [if_neg hc, if_neg (mt h.attached_iff.mpr hc)]

lemma SameAttachment.Reference (d : BlockDevice) : d.SameAttachment d.Reference := by
  unfold BlockDevice.Reference
  split_ifs
  · exact ⟨rfl, Iff.rfl, fun _ => rfl⟩
  · exact .refl d

lemma SameAttachment.Dereference (d : BlockDevice) : d.SameAttachment d.Dereference := by
  unfold BlockDevice.Dereference
  split_ifs
  · exact ⟨rfl, Iff.rfl, fun _ => rfl⟩
  · exact .refl d

@[simp] lemma Reference_ID (d : BlockDevice) : d.Reference.ID = d.ID :=
  (SameAttachment.Reference d).ID_eq

@[simp] lemma Reference_AttachCount (d : BlockDevice) :
    d.Reference.AttachCount = d.AttachCount := by
  unfold BlockDevice.Reference
  split_ifs <;> rfl

@[simp] lemma Dereference_AttachCount (d : BlockDevice) :
    d.Dereference.AttachCount = d.AttachCount := by
  unfold BlockDevice.Dereference
  split_ifs <;> rfl

end BlockDevice

/-! ## The map -/

namespace Manager

variable {dm : Manager} {id : String} {dev dev' : BlockDevice}

@[simp] lemma set_sandbox (dm : Manager) (id : String) (dev : BlockDevice) :
    (dm.set id dev).sandbox = dm.sandbox := by
  unfold Manager.set
  split_ifs <;> rfl

/-- `dm.devices[id] = dev` leaves the other entries and puts `(id, dev)` in. -/
lemma mem_set {e : String × BlockDevice} :
    e ∈ (dm.set id dev).devices ↔ e = (id, dev) ∨ (e.1 ≠ id ∧ e ∈ dm.devices) := by
  unfold Manager.set
  split_ifs with h
  · obtain ⟨v, hv⟩ := Option.isSome_iff_exists.mp h
    simp only [List.mem_map]
    constructor
    · rintro ⟨e', he', rfl⟩
      by_cases hk : e'.1 = id
      · exact .inl (if_pos hk)
      · exact .inr ⟨by simpa [if_neg hk] using hk, by simpa [if_neg hk] using he'⟩
    · rintro (rfl | ⟨hk, he⟩)
      · exact ⟨(id, v), List.mem_of_lookup_eq_some hv, if_pos rfl⟩
      · exact ⟨e, he, if_neg hk⟩
  · have hnone := List.lookup_eq_none_iff.mp (Option.not_isSome_iff_eq_none.mp h)
    simp only [List.mem_append, List.mem_singleton]
    constructor
    · rintro (he | rfl)
      · exact .inr ⟨fun hk => by simpa [hk] using hnone e he, he⟩
      · exact .inl rfl
    · rintro (rfl | ⟨-, he⟩)
      · exact .inr rfl
      · exact .inl he

lemma set_with_sandbox (dm : Manager) (id : String) (dev : BlockDevice) :
    ({ dm.set id dev with sandbox := dm.sandbox } : Manager) = dm.set id dev := by
  rw [← set_sandbox dm id dev]

/-- The keys stay distinct: a key that is there is not added again. -/
lemma set_ids_nodup (hd : (dm.devices.map Prod.fst).Nodup) :
    ((dm.set id dev).devices.map Prod.fst).Nodup := by
  unfold Manager.set
  split_ifs with h
  · have hkeys : (dm.devices.map fun e => if e.1 = id then (id, dev) else e).map Prod.fst =
        dm.devices.map Prod.fst := by
      rw [List.map_map]
      exact List.map_congr_left fun e _ => by by_cases hk : e.1 = id <;> simp [hk]
    rw [hkeys]
    exact hd
  · have hnone := List.lookup_eq_none_iff.mp (Option.not_isSome_iff_eq_none.mp h)
    rw [List.map_append, List.nodup_append]
    refine ⟨hd, List.nodup_singleton _, fun a ha b hb hab => ?_⟩
    obtain ⟨e, he, rfl⟩ := List.mem_map.mp ha
    simp only [List.map_cons, List.map_nil, List.mem_singleton] at hb
    simpa [hb, hab] using hnone e he

end Manager

/-! ## The sandbox's calls -/

namespace Sandbox

variable {s s' : Sandbox} {fails : Bool} {index : Int} {e : DeviceError} {d : BlockDevice}

lemma GetAndSetSandboxBlockIndex_error
    (h : s.GetAndSetSandboxBlockIndex fails = (s', index, .error e)) :
    s' = s ∧ index = -1 := by
  unfold GetAndSetSandboxBlockIndex at h
  split_ifs at h
  · cases h
    exact ⟨rfl, rfl⟩
  split at h
  · cases h
    exact ⟨rfl, rfl⟩
  · cases h

lemma filter_ne_eq_self {l : List Int} (h : index ∉ l) : l.filter (· ≠ index) = l :=
  List.filter_eq_self.mpr fun i hi => by simpa using ne_of_mem_of_not_mem hi h

lemma UnsetSandboxBlockIndex_of_not_mem (h : index ∉ s.BlockIndexMap) :
    s.UnsetSandboxBlockIndex index = s := by
  unfold UnsetSandboxBlockIndex
  rw [filter_ne_eq_self h]

/-- Releasing the index just reserved gives the sandbox back. -/
lemma UnsetSandboxBlockIndex_append (h : index ∉ s.BlockIndexMap) :
    ({ s with BlockIndexMap := s.BlockIndexMap ++ [index] } : Sandbox).UnsetSandboxBlockIndex
      index = s := by
  unfold UnsetSandboxBlockIndex
  rw [List.filter_append, filter_ne_eq_self h, List.filter_singleton]
  simp

lemma HotplugAddDevice_error (h : s.HotplugAddDevice d fails = (s', .error e)) : s' = s := by
  unfold HotplugAddDevice at h
  split_ifs at h <;> cases h
  rfl

lemma HotplugAddDevice_ok (h : s.HotplugAddDevice d fails = (s', .ok ())) :
    s' = { s with hotplugged := s.hotplugged ++ [d.ID] } := by
  unfold HotplugAddDevice at h
  split_ifs at h <;> cases h
  rfl

lemma HotplugRemoveDevice_error (h : s.HotplugRemoveDevice d fails = (s', .error e)) : s' = s := by
  unfold HotplugRemoveDevice at h
  split_ifs at h <;> cases h
  rfl

lemma HotplugRemoveDevice_ok (h : s.HotplugRemoveDevice d fails = (s', .ok ())) :
    s' = { s with hotplugged := s.hotplugged.filter (· ≠ d.ID) } := by
  unfold HotplugRemoveDevice at h
  split_ifs at h <;> cases h
  rfl

end Sandbox

/-! ## Attach and detach -/

namespace BlockDevice

variable {d d' : BlockDevice} {s s' : Sandbox}

lemma bumpAttachCount_attach_max (hmax : d.AttachCount = intMax) :
    d.bumpAttachCount true = (d, .error .attachedTooManyTimes) := by
  simp [bumpAttachCount, hmax, intMax]

lemma bumpAttachCount_attach_again (h0 : d.AttachCount ≠ 0) (hmax : d.AttachCount ≠ intMax) :
    d.bumpAttachCount true = ({ d with AttachCount := d.AttachCount + 1 }, .ok true) := by
  simp [bumpAttachCount, h0, hmax]

lemma bumpAttachCount_detach_again (h0 : d.AttachCount ≠ 0) (h1 : d.AttachCount ≠ 1) :
    d.bumpAttachCount false = ({ d with AttachCount := d.AttachCount - 1 }, .ok true) := by
  simp [bumpAttachCount, h0, h1]

/-- What `Attach` does outside ACRN, to a sandbox whose indices are not negative: either the
device keeps its attachment and the sandbox is given back, or an unattached device is attached at
an index that was free, which the sandbox reserves, and is hot-plugged. -/
lemma Attach_cases {o : AttachOutcome} {r : Except DeviceError Unit}
    (hv : s.hypervisorType ≠ "acrn") (hnonneg : ∀ i ∈ s.BlockIndexMap, 0 ≤ i)
    (h : d.Attach s o = (d', s', r)) :
    (s' = s ∧ d.SameAttachment d') ∨
    (d.AttachCount = 0 ∧ d'.ID = d.ID ∧ ∃ k : Nat, (k : Int) ∉ s.BlockIndexMap ∧
      d'.attached_index = some k ∧
      s' = { s with
        BlockIndexMap := s.BlockIndexMap ++ [(k : Int)]
        hotplugged := s.hotplugged ++ [d.ID] }) := by
  by_cases h0 : d.AttachCount = 0
  · -- the real attach, with the deferred function on every error
    unfold Attach at h
    rw [bumpAttachCount_attach_zero h0] at h
    dsimp only at h
    split at h
    next s₁ index e hget =>
      obtain ⟨rfl, rfl⟩ := Sandbox.GetAndSetSandboxBlockIndex_error hget
      simp only [Prod.mk.injEq] at h
      obtain ⟨rfl, rfl, -⟩ := h
      refine .inl ⟨Sandbox.UnsetSandboxBlockIndex_of_not_mem fun hm => ?_, ?_⟩
      · exact absurd (hnonneg _ hm) (by decide)
      · exact ⟨rfl, by simp [bumpAttachCount, h0], by simp [bumpAttachCount]⟩
    next s₁ index hget =>
      obtain ⟨k, rfl, hfree, rfl⟩ := Sandbox.GetAndSetSandboxBlockIndex_ok hget
      simp only [hv, if_false] at h
      split at h
      next e hdrive =>
        simp only [Prod.mk.injEq] at h
        obtain ⟨rfl, rfl, -⟩ := h
        exact .inl ⟨Sandbox.UnsetSandboxBlockIndex_append hfree,
          ⟨rfl, by simp [bumpAttachCount, h0], by simp [bumpAttachCount]⟩⟩
      next drive hdrive =>
        split at h
        next s₂ e hadd =>
          rw [Sandbox.HotplugAddDevice_error hadd] at h
          simp only [Prod.mk.injEq] at h
          obtain ⟨rfl, rfl, -⟩ := h
          exact .inl ⟨Sandbox.UnsetSandboxBlockIndex_append hfree,
            ⟨rfl, by simp [bumpAttachCount, h0], by simp [bumpAttachCount]⟩⟩
        next s₂ hadd =>
          rw [Sandbox.HotplugAddDevice_ok hadd] at h
          simp only [Prod.mk.injEq] at h
          obtain ⟨rfl, rfl, -⟩ := h
          refine .inr ⟨h0, rfl, k, hfree, ?_, rfl⟩
          simp [attached_index, drive_Index hdrive]
  · by_cases hmax : d.AttachCount = intMax
    · rw [Attach, bumpAttachCount_attach_max hmax] at h
      simp only [Prod.mk.injEq] at h
      obtain ⟨rfl, rfl, -⟩ := h
      exact .inl ⟨rfl, .refl d⟩
    · rw [Attach, bumpAttachCount_attach_again h0 hmax] at h
      simp only [Prod.mk.injEq] at h
      obtain ⟨rfl, rfl, -⟩ := h
      exact .inl ⟨rfl, ⟨rfl, by simp; omega, fun _ => rfl⟩⟩

/-- What `Detach` does to an attached device with a drive: either the device keeps its
attachment and the sandbox is given back, or its last attachment goes, and the sandbox unplugs it
and releases the drive's index. -/
lemma Detach_cases {removeFails : Bool} {r : Except DeviceError Unit}
    (h0 : 0 < d.AttachCount) (hdrive : d.BlockDrive.isSome)
    (h : d.Detach s removeFails = (d', s', r)) :
    (s' = s ∧ d.SameAttachment d') ∨
    (d'.ID = d.ID ∧ d'.AttachCount = 0 ∧ ∃ drive, d.BlockDrive = some drive ∧
      s' = { s with
        BlockIndexMap := s.BlockIndexMap.filter (· ≠ drive.Index)
        hotplugged := s.hotplugged.filter (· ≠ d.ID) }) := by
  by_cases h1 : d.AttachCount = 1
  · -- the real detach, whose deferred function takes the count back on an error
    unfold Detach at h
    rw [bumpAttachCount_detach_one h1] at h
    dsimp only at h
    split at h
    next s₁ e hremove =>
      rw [Sandbox.HotplugRemoveDevice_error hremove] at h
      simp only [Prod.mk.injEq] at h
      obtain ⟨rfl, rfl, -⟩ := h
      exact .inl ⟨rfl, ⟨rfl, by simp [bumpAttachCount, h1], by simp [bumpAttachCount]⟩⟩
    next s₁ hremove =>
      rw [Sandbox.HotplugRemoveDevice_ok hremove] at h
      obtain ⟨drive, hd⟩ := Option.isSome_iff_exists.mp hdrive
      simp only [hd, Prod.mk.injEq] at h
      obtain ⟨rfl, rfl, -⟩ := h
      exact .inr ⟨rfl, rfl, drive, hd, rfl⟩
  · rw [Detach, bumpAttachCount_detach_again (by omega) h1] at h
    simp only [Prod.mk.injEq] at h
    obtain ⟨rfl, rfl, -⟩ := h
    exact .inl ⟨rfl, ⟨rfl, by simp; omega, fun _ => rfl⟩⟩

end BlockDevice

/-! ## Creating a device -/

namespace Manager

variable {dm : Manager} {devInfo : DeviceInfo} {dev : BlockDevice}

lemma findDevice_mem (h : dm.findDevice devInfo = some dev) : ∃ e ∈ dm.devices, e.2 = dev := by
  unfold findDevice at h
  split_ifs at h <;>
  · obtain ⟨e, he, rfl⟩ := Option.map_eq_some_iff.mp h
    exact ⟨e, List.mem_of_find?_eq_some he, rfl⟩

lemma newDeviceID_lookup {randomIds : List String} {id : String}
    (h : dm.newDeviceID randomIds = .ok id) : dm.devices.lookup id = none := by
  unfold newDeviceID at h
  split at h
  next id' hfind =>
    cases h
    have hnone := List.find?_some hfind
    exact Option.isNone_iff_eq_none.mp hnone
  · cases h

/-- `createDevice` returns a device of the map referenced once more, or a new device, not
attached, under an ID that is not in use. -/
lemma createDevice_cases {hostPath : Except DeviceError String} {randomIds : List String}
    (h : dm.createDevice devInfo hostPath randomIds = .ok dev) :
    (∃ e ∈ dm.devices, dev = e.2.Reference) ∨
    (dm.devices.lookup dev.ID = none ∧ dev.AttachCount = 0) := by
  unfold createDevice at h
  dsimp only at h
  -- a PMEM device keeps its info, another has its host path bound first: either way the binds
  -- peel off down to the `findDevice` of some info
  split_ifs at h <;>
  · repeat obtain ⟨_, -, h⟩ := Except.bind_eq_ok_iff.mp h
    split at h
    next existingDev hfind =>
      cases h
      obtain ⟨e, he, rfl⟩ := findDevice_mem hfind
      exact .inl ⟨e, he, rfl⟩
    next hfind =>
      obtain ⟨id, hid, h⟩ := Except.bind_eq_ok_iff.mp h
      cases h
      exact .inr ⟨by rw [BlockDevice.Reference_ID]; exact newDeviceID_lookup hid,
        BlockDevice.Reference_AttachCount _⟩

end Manager

/-! ## What keeps the bookkeeping -/

namespace Manager.Consistent

variable {dm : Manager} {id : String} {dev dev' : BlockDevice}

/-- A key finds one device. -/
lemma eq_of_fst_eq (h : dm.Consistent) {e e' : String × BlockDevice} (he : e ∈ dm.devices)
    (he' : e' ∈ dm.devices) (hk : e.1 = e'.1) : e = e' :=
  List.inj_on_of_nodup_map h.ids_nodup he he' hk

/-- A device under another key than an attached `(id, dev)` has another index. -/
lemma attached_index_ne (h : dm.Consistent)
    (hattached : 0 < dev.AttachCount → (id, dev) ∈ dm.devices)
    {e : String × BlockDevice} (he : e ∈ dm.devices) (hk : e.1 ≠ id) {i : Int}
    (hi : e.2.attached_index = some i) : dev.attached_index ≠ some i := by
  intro hdev
  have hmem := hattached (BlockDevice.attached_index_eq_some.mp hdev).1
  exact hk (congrArg Prod.fst (h.index_inj e he _ hmem i hi hdev))

/-- The one argument behind every operation: `dm.devices[id] = dev'` with the sandbox `s` keeps
the bookkeeping when `s` reserves the indices of before but `dev`'s, and `dev'`'s, a new one
being free, and has hot-plugged the devices of before but `id`, and `id` if `dev'` is attached.
`dev` is the device under `id` before, if there is one. -/
lemma set (h : dm.Consistent) (hold : ∀ e ∈ dm.devices, e.1 = id → e.2 = dev)
    (hattached : 0 < dev.AttachCount → (id, dev) ∈ dm.devices) (hid : dev'.ID = id)
    (hdrive : 0 < dev'.AttachCount → dev'.BlockDrive.isSome) {s : Sandbox}
    (hmap_nodup : s.BlockIndexMap.Nodup) (hmap_nonneg : ∀ i ∈ s.BlockIndexMap, 0 ≤ i)
    (hmap : ∀ i, i ∈ s.BlockIndexMap ↔
      (i ∈ dm.sandbox.BlockIndexMap ∧ dev.attached_index ≠ some i) ∨ dev'.attached_index = some i)
    (hfresh : ∀ i, dev'.attached_index = some i →
      dev.attached_index = some i ∨ i ∉ dm.sandbox.BlockIndexMap)
    (hhot_nodup : s.hotplugged.Nodup)
    (hhot : ∀ x, x ∈ s.hotplugged ↔
      (x ∈ dm.sandbox.hotplugged ∧ x ≠ id) ∨ (x = id ∧ 0 < dev'.AttachCount)) :
    ({ dm.set id dev' with sandbox := s } : Manager).Consistent := by
  -- `dev'` against a device under another key, which keeps its index
  have hother : ∀ e ∈ dm.devices, e.1 ≠ id → ∀ i, dev'.attached_index = some i →
      e.2.attached_index ≠ some i := by
    intro e he hk i hi hei
    rcases hfresh i hi with hdev | hfree
    · exact h.attached_index_ne hattached he hk hei hdev
    · exact hfree ((h.mem_map i).mpr ⟨e, he, hei⟩)
  refine ⟨set_ids_nodup h.ids_nodup, ?_, ?_, hmap_nodup, hmap_nonneg, ?_, ?_, hhot_nodup, ?_⟩
  · intro e he
    rcases mem_set.mp he with rfl | ⟨-, he⟩
    · exact hid
    · exact h.id_eq e he
  · intro e he
    rcases mem_set.mp he with rfl | ⟨-, he⟩
    · exact hdrive
    · exact h.drive_of_attached e he
  · intro i
    rw [hmap]
    constructor
    · rintro (⟨hi, hne⟩ | hi)
      · obtain ⟨e, he, hei⟩ := (h.mem_map i).mp hi
        have hk : e.1 ≠ id := fun hk => hne (hold e he hk ▸ hei)
        exact ⟨e, mem_set.mpr (.inr ⟨hk, he⟩), hei⟩
      · exact ⟨(id, dev'), mem_set.mpr (.inl rfl), hi⟩
    · rintro ⟨e, he, hei⟩
      rcases mem_set.mp he with rfl | ⟨hk, he⟩
      · exact .inr hei
      · exact .inl ⟨(h.mem_map i).mpr ⟨e, he, hei⟩, h.attached_index_ne hattached he hk hei⟩
  · intro e he e' he' i hi hi'
    rcases mem_set.mp he with rfl | ⟨hk, he⟩ <;> rcases mem_set.mp he' with rfl | ⟨hk', he'⟩
    · rfl
    · exact absurd hi' (hother e' he' hk' i hi)
    · exact absurd hi (hother e he hk i hi')
    · exact h.index_inj e he e' he' i hi hi'
  · intro x
    rw [hhot]
    constructor
    · rintro (⟨hx, hne⟩ | ⟨rfl, hc⟩)
      · obtain ⟨e, he, rfl, hc⟩ := (h.mem_hotplugged x).mp hx
        exact ⟨e, mem_set.mpr (.inr ⟨hne, he⟩), rfl, hc⟩
      · exact ⟨(x, dev'), mem_set.mpr (.inl rfl), rfl, hc⟩
    · rintro ⟨e, he, rfl, hc⟩
      rcases mem_set.mp he with rfl | ⟨hk, he⟩
      · exact .inr ⟨rfl, hc⟩
      · exact .inl ⟨(h.mem_hotplugged _).mpr ⟨e, he, rfl, hc⟩, hk⟩

/-- The device under a key replaced by one with the same attachment, the sandbox untouched. -/
lemma set_same (h : dm.Consistent) (hmem : (id, dev) ∈ dm.devices) (hs : dev.SameAttachment dev') :
    (dm.set id dev').Consistent := by
  have hkeep := hs.attached_index_eq
  have hold : ∀ e ∈ dm.devices, e.1 = id → e.2 = dev := fun e he hk =>
    congrArg Prod.snd (h.eq_of_fst_eq he hmem hk)
  have h' := h.set hold (fun _ => hmem) (hs.ID_eq.trans (h.id_eq _ hmem))
    (fun hc => hs.drive_eq hc ▸ h.drive_of_attached _ hmem (hs.attached_iff.mp hc))
    h.map_nodup h.map_nonneg ?_ (fun i hi => .inl (hkeep ▸ hi)) h.hotplugged_nodup ?_
  · rwa [set_with_sandbox] at h'
  · -- the index of `dev` is still reserved, now for `dev'`
    intro i
    rw [hkeep]
    by_cases hdev : dev.attached_index = some i
    · simpa [hdev] using (h.mem_map i).mpr ⟨_, hmem, hdev⟩
    · simp [hdev]
  · -- `id` is still hot-plugged exactly while attached
    intro x
    by_cases hx : x = id
    · subst hx
      have hplug : x ∈ dm.sandbox.hotplugged ↔ 0 < dev.AttachCount := by
        rw [h.mem_hotplugged]
        constructor
        · rintro ⟨e, he, hk, hc⟩
          exact hold e he hk ▸ hc
        · exact fun hc => ⟨_, hmem, rfl, hc⟩
      simp [hplug, hs.attached_iff]
    · simp [hx]

/-- A new device under a key not in use, not attached. -/
lemma set_fresh (h : dm.Consistent) (hnone : dm.devices.lookup id = none) (hid : dev.ID = id)
    (hc : dev.AttachCount = 0) : (dm.set id dev).Consistent := by
  have hout : ∀ e ∈ dm.devices, e.1 ≠ id := fun e he hk => by
    simpa [hk] using List.lookup_eq_none_iff.mp hnone e he
  have hnot : id ∉ dm.sandbox.hotplugged := fun hmem => by
    obtain ⟨e, he, hk, -⟩ := (h.mem_hotplugged id).mp hmem
    exact hout e he hk
  have hatt := BlockDevice.attached_index_of_count_eq_zero hc
  have hold : ∀ e ∈ dm.devices, e.1 = id → e.2 = dev := fun e he hk => absurd hk (hout e he)
  have h' := h.set hold (by omega) hid (by omega) h.map_nodup
    h.map_nonneg (by simp [hatt]) (by simp [hatt]) h.hotplugged_nodup ?_
  · rwa [set_with_sandbox] at h'
  · intro x
    by_cases hx : x = id
    · simp [hx, hnot, hc]
    · simp [hx]

/-- A device of the map, not attached, attached at a free index that the sandbox reserves, and
hot-plugged. -/
lemma set_attach (h : dm.Consistent) (hmem : (id, dev) ∈ dm.devices) (hc : dev.AttachCount = 0)
    (hid : dev'.ID = id) {k : Int} (hk : k ∉ dm.sandbox.BlockIndexMap) (hk0 : 0 ≤ k)
    (hatt : dev'.attached_index = some k) {s : Sandbox}
    (hs_map : s.BlockIndexMap = dm.sandbox.BlockIndexMap ++ [k])
    (hs_hot : s.hotplugged = dm.sandbox.hotplugged ++ [id]) :
    ({ dm.set id dev' with sandbox := s } : Manager).Consistent := by
  have hold : ∀ e ∈ dm.devices, e.1 = id → e.2 = dev := fun e he hk =>
    congrArg Prod.snd (h.eq_of_fst_eq he hmem hk)
  obtain ⟨hc', hdrive⟩ := BlockDevice.attached_index_eq_some.mp hatt
  have hnot : id ∉ dm.sandbox.hotplugged := fun hplug => by
    obtain ⟨e, he, hk, hce⟩ := (h.mem_hotplugged id).mp hplug
    rw [hold e he hk] at hce
    omega
  have hatt₀ := BlockDevice.attached_index_of_count_eq_zero hc
  refine h.set hold (by omega) hid (fun _ => BlockDevice.isSome_of_attached_index hatt) ?_ ?_ ?_ ?_
    ?_ ?_
  · rw [hs_map, List.nodup_append]
    exact ⟨h.map_nodup, List.nodup_singleton k,
      fun a ha b hb hab => hk (List.mem_singleton.mp hb ▸ hab ▸ ha)⟩
  · rw [hs_map]
    intro i hi
    rcases List.mem_append.mp hi with hi | hi
    · exact h.map_nonneg i hi
    · simpa [List.mem_singleton.mp hi] using hk0
  · intro i
    rw [hs_map, hatt, hatt₀, List.mem_append, List.mem_singleton, Option.some_inj]
    simp [eq_comm]
  · intro i hi
    rw [hatt, Option.some.injEq] at hi
    exact .inr (hi ▸ hk)
  · rw [hs_hot, List.nodup_append]
    exact ⟨h.hotplugged_nodup, List.nodup_singleton id,
      fun a ha b hb hab => hnot (List.mem_singleton.mp hb ▸ hab ▸ ha)⟩
  · intro x
    by_cases hx : x = id
    · simp [hs_hot, hx, hc']
    · simp [hs_hot, hx]

/-- An attached device of the map detached for the last time: the sandbox unplugs it and releases
its index. -/
lemma set_detach (h : dm.Consistent) (hmem : (id, dev) ∈ dm.devices) {i : Int}
    (hatt : dev.attached_index = some i) (hid : dev'.ID = id) (hc : dev'.AttachCount = 0)
    {s : Sandbox} (hs_map : s.BlockIndexMap = dm.sandbox.BlockIndexMap.filter (· ≠ i))
    (hs_hot : s.hotplugged = dm.sandbox.hotplugged.filter (· ≠ id)) :
    ({ dm.set id dev' with sandbox := s } : Manager).Consistent := by
  have hold : ∀ e ∈ dm.devices, e.1 = id → e.2 = dev := fun e he hk =>
    congrArg Prod.snd (h.eq_of_fst_eq he hmem hk)
  have hatt' := BlockDevice.attached_index_of_count_eq_zero hc
  refine h.set hold (fun _ => hmem) hid (by omega) ?_ ?_ ?_ (by simp [hatt']) ?_ ?_
  · rw [hs_map]
    exact h.map_nodup.filter _
  · rw [hs_map]
    exact fun i' hi' => h.map_nonneg i' (List.mem_of_mem_filter hi')
  · intro i'
    simp [hs_map, hatt, hatt', ne_comm]
  · rw [hs_hot]
    exact h.hotplugged_nodup.filter _
  · intro x
    simp [hs_hot, hc]

/-- A device of the map, not attached, taken out of it. -/
lemma erase (h : dm.Consistent) (hmem : (id, dev) ∈ dm.devices) (hc : dev.AttachCount = 0) :
    ({ dm with devices := dm.devices.filter (·.1 ≠ id) } : Manager).Consistent := by
  have hold : ∀ e ∈ dm.devices, e.1 = id → e.2 = dev := fun e he hk =>
    congrArg Prod.snd (h.eq_of_fst_eq he hmem hk)
  -- what is attached is under another key, so it stays
  have hkeep : ∀ e ∈ dm.devices, 0 < e.2.AttachCount →
      e ∈ dm.devices.filter (·.1 ≠ id) := fun e he hce => by
    refine List.mem_filter.mpr ⟨he, decide_eq_true fun hk => ?_⟩
    rw [hold e he hk] at hce
    omega
  have hsub : ∀ e ∈ dm.devices.filter (·.1 ≠ id), e ∈ dm.devices := fun e he =>
    List.mem_of_mem_filter he
  refine ⟨?_, fun e he => h.id_eq e (hsub e he), fun e he => h.drive_of_attached e (hsub e he),
    h.map_nodup, h.map_nonneg, fun i => ?_,
    fun e he e' he' => h.index_inj e (hsub e he) e' (hsub e' he'), h.hotplugged_nodup, fun x => ?_⟩
  · exact (List.filter_sublist.map Prod.fst).nodup h.ids_nodup
  · rw [h.mem_map]
    constructor
    · rintro ⟨e, he, hi⟩
      exact ⟨e, hkeep e he (BlockDevice.attached_index_eq_some.mp hi).1, hi⟩
    · rintro ⟨e, he, hi⟩
      exact ⟨e, hsub e he, hi⟩
  · rw [h.mem_hotplugged]
    constructor
    · rintro ⟨e, he, hk, hce⟩
      exact ⟨e, hkeep e he hce, hk, hce⟩
    · rintro ⟨e, he, hk, hce⟩
      exact ⟨e, hsub e he, hk, hce⟩

end Manager.Consistent

/-! ## The operations -/

namespace Manager

variable {dm : Manager} {id : String}

@[simp] lemma NewDevice_sandbox (dm : Manager) (devInfo : DeviceInfo)
    (hostPath : Except DeviceError String) (randomIds : List String) :
    (dm.NewDevice devInfo hostPath randomIds).1.sandbox = dm.sandbox := by
  unfold Manager.NewDevice
  split <;> simp

@[simp] lemma RemoveDevice_sandbox (dm : Manager) (id : String) :
    (dm.RemoveDevice id).1.sandbox = dm.sandbox := by
  unfold Manager.RemoveDevice
  split
  · rfl
  · dsimp only
    split_ifs <;> simp

lemma Consistent.NewDevice (h : dm.Consistent) {devInfo : DeviceInfo}
    {hostPath : Except DeviceError String} {randomIds : List String} :
    (dm.NewDevice devInfo hostPath randomIds).1.Consistent := by
  unfold Manager.NewDevice
  split
  · exact h
  next dev hcreate =>
    rcases createDevice_cases hcreate with ⟨e, he, rfl⟩ | ⟨hnone, hc⟩
    · -- the device found is referenced once more, under its own ID
      rw [BlockDevice.Reference_ID, h.id_eq e he]
      exact h.set_same he (.Reference e.2)
    · exact h.set_fresh hnone rfl hc

lemma Consistent.RemoveDevice (h : dm.Consistent) : (dm.RemoveDevice id).1.Consistent := by
  unfold Manager.RemoveDevice
  split
  · exact h
  next dev hdev =>
    have hset : (dm.set id dev.Dereference).Consistent :=
      h.set_same (List.mem_of_lookup_eq_some hdev) (.Dereference dev)
    dsimp only
    split_ifs with hr hc
    · exact hset
    · -- only a device that is not attached leaves the map
      exact hset.erase (mem_set.mpr (.inl rfl)) (by omega)
    · exact hset

/-- Outside ACRN, an attach keeps the bookkeeping and the hypervisor. -/
lemma Consistent.AttachDevice (h : dm.Consistent) (hv : dm.sandbox.hypervisorType ≠ "acrn")
    (id : String) (o : AttachOutcome) :
    (dm.AttachDevice id o).1.Consistent ∧
      (dm.AttachDevice id o).1.sandbox.hypervisorType = dm.sandbox.hypervisorType := by
  unfold Manager.AttachDevice
  split
  · exact ⟨h, rfl⟩
  next dev hdev =>
    have hmem := List.mem_of_lookup_eq_some hdev
    dsimp only
    rcases hr : dev.Attach dm.sandbox o with ⟨d', s', r⟩
    rcases BlockDevice.Attach_cases hv h.map_nonneg hr with ⟨rfl, hs⟩ | ⟨hc, hid, k, hk, hatt, rfl⟩
    · have hset := h.set_same hmem hs
      rw [← set_with_sandbox] at hset
      exact ⟨hset, rfl⟩
    · refine ⟨h.set_attach hmem hc (hid.trans (h.id_eq _ hmem)) hk (Int.natCast_nonneg k) hatt rfl
        (by rw [h.id_eq _ hmem]), rfl⟩

/-- A detach keeps the bookkeeping and the hypervisor. -/
lemma Consistent.DetachDevice (h : dm.Consistent) (id : String) (removeFails : Bool) :
    (dm.DetachDevice id removeFails).1.Consistent ∧
      (dm.DetachDevice id removeFails).1.sandbox.hypervisorType = dm.sandbox.hypervisorType := by
  unfold Manager.DetachDevice
  split
  · exact ⟨h, rfl⟩
  next dev hdev =>
    have hmem := List.mem_of_lookup_eq_some hdev
    dsimp only
    split_ifs with h0
    · exact ⟨h, rfl⟩
    have hpos : 0 < dev.AttachCount := Nat.pos_of_ne_zero h0
    rcases hr : dev.Detach dm.sandbox removeFails with ⟨d', s', r⟩
    rcases BlockDevice.Detach_cases hpos (h.drive_of_attached _ hmem hpos) hr with
      ⟨rfl, hs⟩ | ⟨hid, hc, drive, hd, rfl⟩
    · have hset := h.set_same hmem hs
      rw [← set_with_sandbox] at hset
      exact ⟨hset, rfl⟩
    · have hatt : dev.attached_index = some drive.Index := by
        simp [BlockDevice.attached_index, hpos, hd]
      refine ⟨h.set_detach hmem hatt (hid.trans (h.id_eq _ hmem)) hc rfl
        (by rw [h.id_eq _ hmem]), rfl⟩

/-- Outside ACRN, every operation keeps the bookkeeping and the hypervisor. -/
lemma Consistent.step (h : dm.Consistent) (hv : dm.sandbox.hypervisorType ≠ "acrn") (op : Op) :
    (dm.step op).1.Consistent ∧ (dm.step op).1.sandbox.hypervisorType ≠ "acrn" := by
  cases op with
  | NewDevice devInfo hostPath randomIds => exact ⟨h.NewDevice, by simpa [Manager.step] using hv⟩
  | AttachDevice id o =>
    obtain ⟨h', hkeep⟩ := h.AttachDevice hv id o
    exact ⟨h', hkeep ▸ hv⟩
  | DetachDevice id removeFails =>
    obtain ⟨h', hkeep⟩ := h.DetachDevice id removeFails
    exact ⟨h', hkeep ▸ hv⟩
  | RemoveDevice id => exact ⟨h.RemoveDevice, by simpa [Manager.step] using hv⟩

/-- `run` is the run of `step` of the general machine. -/
lemma run_eq_run (dm : Manager) (ops : List Op) :
    dm.run ops = Transition.run (fun dm op => (dm.step op).1) dm ops := by
  induction ops generalizing dm with
  | nil => rfl
  | cons op ops ih => exact ih _

/-- Outside ACRN, whatever sequence of operations runs and however the sandbox's calls go, the
sandbox reserves, each once, exactly the drive indices of the attached block devices, no two of
which share one, and has hot-plugged, each once, exactly the attached devices. -/
theorem run_consistent (h : dm.Consistent) (hv : dm.sandbox.hypervisorType ≠ "acrn")
    (ops : List Op) : (dm.run ops).Consistent := by
  rw [run_eq_run]
  -- the hypervisor never changes, so every step is one outside ACRN
  exact (Transition.run_invariant
    (I := fun dm : Manager => dm.Consistent ∧ dm.sandbox.hypervisorType ≠ "acrn")
    (fun op _ dm hi => hi.1.step hi.2 op) ⟨h, hv⟩).1

lemma Consistent.empty (blockDriver hypervisorType : String) :
    (⟨[], blockDriver, ⟨[], hypervisorType, []⟩⟩ : Manager).Consistent :=
  ⟨List.nodup_nil, fun _ he => absurd he List.not_mem_nil,
    fun _ he => absurd he List.not_mem_nil, List.nodup_nil, fun _ he => absurd he List.not_mem_nil,
    fun _ => ⟨fun hi => absurd hi List.not_mem_nil, fun ⟨_, he, _⟩ => absurd he List.not_mem_nil⟩,
    fun _ he => absurd he List.not_mem_nil, List.nodup_nil,
    fun _ => ⟨fun hx => absurd hx List.not_mem_nil, fun ⟨_, he, _⟩ => absurd he List.not_mem_nil⟩⟩

/-- An empty manager of virtio-blk devices under QEMU. -/
def qemu_manager : Manager := ⟨[], VirtioBlock, ⟨[], "qemu", []⟩⟩

/-- Two devices attached, the first detached, then attached again with the hot-plug failing. -/
def qemu_attach_detach : List Op :=
  [new_block "/dev/sda" "a" 0, new_block "/dev/sdb" "b" 16, .AttachDevice "a" ⟨false, false⟩,
    .AttachDevice "b" ⟨false, false⟩, .DetachDevice "a" false, .AttachDevice "a" ⟨false, true⟩]

theorem run_consistent_qemu_attach_detach :
    qemu_manager.Consistent ∧ qemu_manager.sandbox.hypervisorType ≠ "acrn" ∧
      (qemu_manager.run qemu_attach_detach).Consistent :=
  ⟨Consistent.empty _ _, by decide, run_consistent (Consistent.empty _ _) (by decide) _⟩

example : (qemu_manager.run qemu_attach_detach).sandbox = ⟨[1], "qemu", ["b"]⟩ := by decide

end Manager

end KataContainers.Runtime.Device
