import KataContainers.Lib.Interleave

/-!
# Waiting for uevents

Model of `src/agent/src/uevent.rs`: `Uevent::process` (`process_add`, `process_remove`) as the
`watch_uevents` task runs it for each message, and `wait_for_uevent`, over the two fields of
`Sandbox` they share, `uevent_map` and `uevent_watchers`. Any number of waiters and the task run
interleaved at their await points (`Interleave.Conf`); what comes from the netlink socket and when a
waiter's timer fires are the environment's choices.

A watcher holds the sending end of a `oneshot` channel. Channels live in `Sandbox.channels`, and a
watcher and its waiter name one by its index. `tokio::time::timeout` polls the receiver before the
timer, so the timer fires only while nothing was sent. Iterating `uevent_map` visits its entries in
some order; the model's list fixes one.

When the timer has fired, the waiter drops its receiver and only then takes the lock again. A
matching add processed in between takes the watcher away, and the waiter's
`uevent_watchers[idx].take().unwrap()` panics (`wait_for_uevent_timeout_panics`).
-/

namespace KataContainers.Agent.UeventWatch

open Interleave

/-- A `Uevent`, its fields as text. -/
structure Uevent where
  action : List Char
  devpath : List Char
  devname : List Char
  subsystem : List Char
  seqnum : List Char
  interface : List Char
  deriving DecidableEq, Repr

def U_EVENT_ACTION_ADD : List Char := "add".toList
def U_EVENT_ACTION_REMOVE : List Char := "remove".toList
def SYSFS_DIR : List Char := "/sys".toList
def SYSFS_MEMORY_ONLINE_PATH : List Char := "/sys/devices/system/memory".toList

/-- The trait `UeventMatcher`. -/
class UeventMatcher (M : Type) where
  is_match : M → Uevent → Bool

/-- `PciMatcher` of `device.rs`: the uevent of one sysfs path. -/
structure PciMatcher where
  devpath : List Char
  deriving DecidableEq, Repr

instance : UeventMatcher PciMatcher := ⟨fun m uev => uev.devpath == m.devpath⟩

/-- A `oneshot` channel: the value sent, and whether the sender and the receiver are alive. -/
structure Oneshot where
  value : Option Uevent
  tx : Bool
  rx : Bool
  deriving DecidableEq, Repr

/-- `uevent_map` keyed by devpath, `uevent_watchers` with the channel of each sender, and the
channels. -/
structure Sandbox (M : Type) where
  uevent_map : List (List Char × Uevent)
  uevent_watchers : List (Option (M × Nat))
  channels : List Oneshot
  deriving DecidableEq, Repr

section
variable {M : Type} [UeventMatcher M]

/-- `sender.send(v)`: the value stays when the receiver is alive; the sender is gone either way. -/
def Oneshot.send (c : Oneshot) (v : Uevent) : Oneshot :=
  { c with value := if c.rx then some v else c.value, tx := false }

/-- `process_add` under the lock: record the uevent, then fire every watcher that matches it. -/
def Sandbox.notify (sb : Sandbox M) (u : Uevent) : Sandbox M :=
  let fired := sb.uevent_watchers.filterMap fun w => match w with
    | some (m, ch) => if UeventMatcher.is_match m u then some ch else none
    | none => none
  { sb with
    uevent_map := (u.devpath, u) :: sb.uevent_map.filter fun e => e.1 ≠ u.devpath
    uevent_watchers := sb.uevent_watchers.map fun w => match w with
      | some (m, ch) => if UeventMatcher.is_match m u then none else some (m, ch)
      | none => none
    channels := fired.foldl (fun cs ch => cs.modify ch (Oneshot.send · u)) sb.channels }

def Uevent.process_add (u : Uevent) (sb : Sandbox M) : Sandbox M :=
  -- a memory hot-add is onlined and recorded nowhere
  if SYSFS_MEMORY_ONLINE_PATH.isPrefixOf (SYSFS_DIR ++ ['/'] ++ u.devpath ++ "/online".toList) then sb
  else sb.notify u

def Uevent.process_remove (u : Uevent) (sb : Sandbox M) : Sandbox M :=
  { sb with uevent_map := sb.uevent_map.filter fun e => e.1 ≠ u.devpath }

def Uevent.process (u : Uevent) (sb : Sandbox M) : Sandbox M :=
  if u.action = U_EVENT_ACTION_ADD then u.process_add sb
  else if u.action = U_EVENT_ACTION_REMOVE then u.process_remove sb
  else sb

/-! ## The waiters and the task -/

/-- Why `wait_for_uevent` fails: the sender was dropped, or the timer fired. -/
inductive WaitError
  | recv
  | timeout
  deriving DecidableEq, Repr

/-- Where a `wait_for_uevent` call stands. -/
inductive WaitPc
  | start
  /-- registered as watcher `idx`, on the receiving end of channel `ch` -/
  | waiting (idx ch : Nat)
  /-- the timer fired and the receiver is dropped; the lock is not yet taken again -/
  | timedOut (idx : Nat)
  | done (r : Except WaitError Uevent)
  | panicked
  deriving DecidableEq, Repr

/-- A task on the sandbox: a `wait_for_uevent` call with its matcher, or `watch_uevents`. -/
inductive Task (M : Type)
  | waiter (matcher : M) (pc : WaitPc)
  | watch
  deriving DecidableEq, Repr

/-- What the environment does at a step: nothing, fire a waiter's timer, or hand the task a
uevent from the socket. -/
inductive Choice
  | next
  | timeout
  | uevent (u : Uevent)
  deriving DecidableEq, Repr

/-- One step of a task, from one await point to the next. -/
def Task.step (sb : Sandbox M) : Task M → Choice → Option (Sandbox M × Task M)
  | .waiter m .start, .next =>
    -- the scan of the map and the registration are one critical section
    match sb.uevent_map.find? fun e => UeventMatcher.is_match m e.2 with
    | some (_, uev) => some (sb, .waiter m (.done (.ok uev)))
    | none =>
      some ({ sb with
          uevent_watchers := sb.uevent_watchers ++ [some (m, sb.channels.length)]
          channels := sb.channels ++ [⟨none, true, true⟩] },
        .waiter m (.waiting sb.uevent_watchers.length sb.channels.length))
  | .waiter m (.waiting _ ch), .next =>
    -- the receiver is ready once a value was sent or the sender is gone
    match sb.channels[ch]? with
    | some ⟨some v, _, _⟩ => some (sb, .waiter m (.done (.ok v)))
    | some ⟨none, false, _⟩ => some (sb, .waiter m (.done (.error .recv)))
    | _ => none
  | .waiter m (.waiting idx ch), .timeout =>
    match sb.channels[ch]? with
    | some ⟨none, true, _⟩ =>
      some ({ sb with channels := sb.channels.modify ch fun c => { c with rx := false } },
        .waiter m (.timedOut idx))
    | _ => none
  | .waiter m (.timedOut idx), .next =>
    -- the lock again, and `uevent_watchers[idx].take().unwrap()`; the sender goes with it
    match sb.uevent_watchers[idx]? with
    | some (some (_, ch)) =>
      some ({ sb with
          uevent_watchers := sb.uevent_watchers.set idx none
          channels := sb.channels.modify ch fun c => { c with tx := false } },
        .waiter m (.done (.error .timeout)))
    | _ => some (sb, .waiter m .panicked)
  | .watch, .uevent u => some (u.process sb, .watch)
  | _, _ => none

end

/-! ## A timeout that meets the uevent -/

def pci_matcher : PciMatcher := ⟨"/devices/pci0000:00/0000:00:02.0".toList⟩

/-- The add uevent of that device. -/
def pci_add : Uevent :=
  ⟨U_EVENT_ACTION_ADD, "/devices/pci0000:00/0000:00:02.0".toList, [], "pci".toList, "7".toList, []⟩

def timeout_start : Conf (Sandbox PciMatcher) (Task PciMatcher) :=
  ⟨⟨[], [], []⟩, [.waiter pci_matcher .start, .watch]⟩

/-- The waiter registers and its timer fires; the task processes the add; the waiter takes the
lock again. -/
def timeout_schedule : List (Nat × Choice) :=
  [(0, .next), (0, .timeout), (1, .uevent pci_add), (0, .next)]

/-- The add takes the watcher away between the timeout and the lock, its send is lost, and the
waiter panics. -/
theorem wait_for_uevent_timeout_panics :
    timeout_start.run Task.step timeout_schedule =
      some ⟨⟨[(pci_add.devpath, pci_add)], [none], [⟨none, false, false⟩]⟩,
        [.waiter pci_matcher .panicked, .watch]⟩ := by
  rfl

end KataContainers.Agent.UeventWatch
