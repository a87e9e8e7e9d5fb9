import KataContainers.Lib.Interleave

/-!
# Storage reference counts in the agent

Model of the storage bookkeeping of `src/agent/src/sandbox.rs` (`StorageState`,
`add_sandbox_storage`, `update_sandbox_storage`, `remove_sandbox_storage`) and of `add_storages`
in `src/agent/src/storage/mod.rs`, for any number of `add_storages` and `remove_sandbox_storage`
calls on one `Arc<Mutex<Sandbox>>`, interleaved at their await points (`Interleave.Conf`).

A `StorageState` is a clone of a shared counter (`Arc<AtomicU32>`, here the index of its cell in
`Sandbox.cells`) and a device. For one storage, `add_storages` takes the lock to add the mount point
or count it, and when it is new calls `create_device` with the lock released; then it takes the
lock again to put the device in (`update_sandbox_storage`), or to remove the mount point when the
device could not be made. What a device's `cleanup()` returns is fixed when the device is made
(`Device.cleanup_ok`); the placeholder's always succeeds, as it has no path.

Between the two, another call on the same mount point finds the placeholder, which has no path,
adds to its count and returns `Ok` without the device's path; `update_sandbox_storage` then puts in
a fresh state of count 1. The first removal cleans the device up while the second caller still
holds it, and the second removal fails (`add_storages_race`).

A removal of the mount point while its device is being made takes the placeholder out, so
`update_sandbox_storage` fails. Its `Err` arm then takes the lock that the guard of its own `match`
still holds, and waits for good: the sandbox is locked from then on, and no call changes it again
(`run_of_locked`, `add_storages_deadlock`).
-/

namespace KataContainers.Agent

open Interleave

/-- A storage device: who it is, its `path()`, and whether its `cleanup()` succeeds. -/
structure Device where
  id : Nat
  path : Option String
  cleanup_ok : Bool
  deriving DecidableEq, Repr

/-- `StorageDeviceGeneric::default()`, the placeholder of `StorageState::new`: it has no path, and
its `cleanup()` does nothing. -/
def Device.placeholder : Device := ⟨0, none, true⟩

/-- `StorageState`: the cell of its shared counter and its device. -/
structure StorageState where
  count : Nat
  device : Device
  deriving DecidableEq, Repr

/-- What the storage functions use of the sandbox: the map `storages`, the counter cells that the
states point to, the devices whose `cleanup()` ran, in order, and whether the `Mutex` around the
sandbox is held for good by a call that waits for it while holding it. -/
structure Sandbox where
  storages : List (String × StorageState)
  cells : List Nat
  cleaned : List Nat
  locked : Bool
  deriving DecidableEq, Repr

/-- The errors of the storage functions. -/
inductive StorageError
  /-- `"Sandbox storage with path {} not found"` -/
  | notFound (path : String)
  /-- the error of a device's `cleanup()` -/
  | cleanup (id : Nat)
  /-- the error that `create_device` returned -/
  | create
  /-- `"Failed to find the storage handler {}"` -/
  | noHandler (driver : String)
  deriving DecidableEq, Repr

/-- `ref_count`: the value of the state's counter. -/
def Sandbox.ref_count (sb : Sandbox) (state : StorageState) : Nat := sb.cells.getD state.count 0

def StorageState.new (sb : Sandbox) : Sandbox × StorageState :=
  ({ sb with cells := sb.cells ++ [1] }, ⟨sb.cells.length, Device.placeholder⟩)

def StorageState.from_device (sb : Sandbox) (device : Device) : Sandbox × StorageState :=
  ({ sb with cells := sb.cells ++ [1] }, ⟨sb.cells.length, device⟩)

def Sandbox.inc_ref_count (sb : Sandbox) (state : StorageState) : Sandbox :=
  { sb with cells := sb.cells.set state.count (sb.ref_count state + 1) }

/-- `dec_and_test_ref_count`: whether the counter was 1 before it went down. A counter in the map
is never 0, so `fetch_sub` never wraps here. -/
def Sandbox.dec_and_test_ref_count (sb : Sandbox) (state : StorageState) : Sandbox × Bool :=
  ({ sb with cells := sb.cells.set state.count (sb.ref_count state - 1) }, sb.ref_count state == 1)

def Sandbox.add_sandbox_storage (sb : Sandbox) (path : String) : Sandbox × StorageState :=
  match sb.storages.lookup path with
  | some state => (sb.inc_ref_count state, state)
  | none =>
    let (sb, state) := StorageState.new sb
    ({ sb with storages := sb.storages ++ [(path, state)] }, state)

/-- `update_sandbox_storage`: a fresh state for the device, and back the device of the state it
replaces. -/
def Sandbox.update_sandbox_storage (sb : Sandbox) (path : String) (device : Device) :
    Sandbox × Except Device Device :=
  match sb.storages.lookup path with
  | none => (sb, .error device)
  | some old =>
    let (sb, state) := StorageState.from_device sb device
    ({ sb with storages := sb.storages.map fun e => if e.1 = path then (path, state) else e },
      .ok old.device)

def Sandbox.remove_sandbox_storage (sb : Sandbox) (path : String) :
    Sandbox × Except StorageError Bool :=
  match sb.storages.lookup path with
  | none => (sb, .error (.notFound path))
  | some state =>
    let (sb, last) := sb.dec_and_test_ref_count state
    if last then
      -- `storages.remove(path)` gives `state` back, and its device is cleaned up
      let sb := { sb with
        storages := sb.storages.filter fun e => e.1 ≠ path
        cleaned := sb.cleaned ++ [state.device.id] }
      if state.device.cleanup_ok then (sb, .ok true) else (sb, .error (.cleanup state.device.id))
    else (sb, .ok false)

/-- A `Storage` as `add_storages` reads it. -/
structure Storage where
  driver : String
  mount_point : String
  deriving DecidableEq, Repr

/-- The drivers that `STORAGE_HANDLERS` has a handler for, off s390x. -/
def STORAGE_HANDLERS : List String :=
  ["9p", "smb", "mmioblk", "blk", "ephemeral", "local", "nvdimm", "overlayfs", "scsi", "virtio-fs",
    "watchable-bind"]

/-! ## The calls, step by step -/

/-- What the environment answers at a step: nothing, or what `create_device` returns. -/
inductive Choice
  | next
  | create (device : Option Device)
  deriving DecidableEq, Repr

/-- Where an `add_storages` call stands on the storage at the head of its list. -/
inductive AddPc
  /-- before taking the lock to add or count the storage -/
  | start
  /-- in `create_device`, with the lock released -/
  | creating
  /-- in the `Err` arm of `update_sandbox_storage`, waiting for the lock it holds -/
  | blocked
  | done (r : Except StorageError (List String))
  deriving DecidableEq, Repr

/-- A call on the sandbox: `add_storages` on a list of storages, with the mount list it builds, or
`remove_sandbox_storage` of a path, with its result once it ran. -/
inductive Call
  | add (todo : List Storage) (mount_list : List String) (pc : AddPc)
  | remove (path : String) (result : Option (Except StorageError Bool))
  deriving DecidableEq, Repr

/-- The mount list with a device's path, when it has a non-empty one. -/
def push_path (mount_list : List String) (path : Option String) : List String :=
  match path with
  | some p => if p ≠ "" then mount_list ++ [p] else mount_list
  | none => mount_list

/-- A step that starts with `sandbox.lock().await`: it waits for as long as the lock is held. -/
def Sandbox.with_lock (sb : Sandbox) (f : Sandbox → Option (Sandbox × Call)) :
    Option (Sandbox × Call) :=
  if sb.locked then none else f sb

/-- One step of a call, from one await point to the next. -/
def Call.step (sb : Sandbox) : Call → Choice → Option (Sandbox × Call)
  | .add [] mount_list .start, .next => some (sb, .add [] mount_list (.done (.ok mount_list)))
  | .add (storage :: rest) mount_list .start, .next => sb.with_lock fun sb =>
    -- lock, add or count the mount point, unlock, then `ref_count`
    let (sb, state) := sb.add_sandbox_storage storage.mount_point
    if sb.ref_count state > 1 then
      -- the device already exists: take its path and go on
      some (sb, .add rest (push_path mount_list state.device.path) .start)
    else if storage.driver ∈ STORAGE_HANDLERS then
      some (sb, .add (storage :: rest) mount_list .creating)
    else some (sb, .add (storage :: rest) mount_list (.done (.error (.noHandler storage.driver))))
  | .add (storage :: rest) mount_list .creating, .create (some device) => sb.with_lock fun sb =>
    -- lock, put the device in
    match sb.update_sandbox_storage storage.mount_point device with
    | (sb, .ok _) => some (sb, .add rest (push_path mount_list device.path) .start)
    | (sb, .error _) =>
      -- the guard of the `match` scrutinee lives to the end of the `match`, so the arm's own
      -- `sandbox.lock().await` (to remove the mount point) waits for it for good
      some ({ sb with locked := true }, .add (storage :: rest) mount_list .blocked)
  | .add (storage :: rest) mount_list .creating, .create none => sb.with_lock fun sb =>
    -- lock, remove the mount point (its error is only logged), unlock
    let (sb, _) := sb.remove_sandbox_storage storage.mount_point
    some (sb, .add (storage :: rest) mount_list (.done (.error .create)))
  | .remove path none, .next => sb.with_lock fun sb =>
    let (sb, r) := sb.remove_sandbox_storage path
    some (sb, .remove path (some r))
  | _, _ => none

/-- Once the lock is held for good, a step changes nothing of the sandbox: only a call that takes
no lock, `add_storages` at the end of its list, still steps. -/
theorem Call.step_of_locked {sb sb' : Sandbox} {c c' : Call} {e : Choice} (hl : sb.locked = true)
    (h : Call.step sb c e = some (sb', c')) : sb' = sb := by
  have hw : ∀ f : Sandbox → Option (Sandbox × Call), sb.with_lock f ≠ some (sb', c') := by
    intro f hf
    rw [Sandbox.with_lock, if_pos hl] at hf
    cases hf
  unfold Call.step at h
  split at h
  · cases h
    rfl
  all_goals first | exact absurd h (hw _) | cases h

/-- A run that starts from a sandbox locked for good leaves it as it is. -/
theorem run_of_locked {c c' : Conf Sandbox Call} (hl : c.shared.locked = true)
    (sched : List (Nat × Choice)) (h : c.run Call.step sched = some c') : c'.shared = c.shared := by
  refine Conf.run_invariant (fun d => d.shared = c.shared) ?_ sched rfl h
  intro d i e d' hd hstep
  obtain ⟨l, s, l', -, hnext, rfl⟩ := Conf.step_eq_some hstep
  rw [← hd] at hl ⊢
  exact Call.step_of_locked hl hnext

/-! ## Two adds of one mount point -/

/-- A block storage at `/p`. -/
def storage_p : Storage := ⟨"blk", "/p"⟩

/-- The device that `create_device` makes for it. -/
def device_p : Device := ⟨1, some "/dev/vda", true⟩

/-- Two `add_storages` calls of `/p`, and the removals their callers make afterwards. -/
def race_start : Conf Sandbox Call :=
  ⟨⟨[], [], [], false⟩, [.add [storage_p] [] .start, .add [storage_p] [] .start, .remove "/p" none,
    .remove "/p" none]⟩

/-- The first call adds `/p` and waits in `create_device`; the second counts the placeholder and
returns; the first puts its device in and returns. -/
def race_adds : List (Nat × Choice) :=
  [(0, .next), (1, .next), (1, .next), (0, .create (some device_p)), (0, .next)]

/-- Then both callers remove `/p`. -/
def race_removes : List (Nat × Choice) := [(2, .next), (3, .next)]

/-- Both adds of `/p` return `Ok`, the second without the device's path, and the map then counts
one holder for `/p`. The first removal cleans the device up while the second caller still holds
`/p`, and the second removal fails. -/
theorem add_storages_race :
    race_start.run Call.step race_adds = some ⟨⟨[("/p", ⟨1, device_p⟩)], [2, 1], [], false⟩,
      [.add [] ["/dev/vda"] (.done (.ok ["/dev/vda"])), .add [] [] (.done (.ok [])),
        .remove "/p" none, .remove "/p" none]⟩ ∧
    race_start.run Call.step (race_adds ++ race_removes) = some ⟨⟨[], [2, 0], [1], false⟩,
      [.add [] ["/dev/vda"] (.done (.ok ["/dev/vda"])), .add [] [] (.done (.ok [])),
        .remove "/p" (some (.ok true)), .remove "/p" (some (.error (.notFound "/p")))]⟩ := by
  constructor <;> rfl

/-- A removal of `/p` while its device is being made, and then `create_device` returns. -/
def deadlock_start : Conf Sandbox Call :=
  ⟨⟨[], [], [], false⟩, [.add [storage_p] [] .start, .remove "/p" none]⟩

/-- The call adds `/p` and waits in `create_device`; the removal takes the placeholder out; the
device comes back, `update_sandbox_storage` fails, and the call waits for good for the lock it
holds. -/
theorem add_storages_deadlock :
    deadlock_start.run Call.step [(0, .next), (1, .next), (0, .create (some device_p))] =
      some ⟨⟨[], [0], [0], true⟩, [.add [storage_p] [] .blocked, .remove "/p" (some (.ok true))]⟩ := by
  rfl

end KataContainers.Agent
