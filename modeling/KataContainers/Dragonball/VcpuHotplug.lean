import KataContainers.Lib.Transition

/-!
# vCPU hotplug over the upcall channel

Model of the hotplug protocol of `src/dragonball/src/vcpu/vcpu_manager.rs`: `resize_vcpu` with
`do_add_vcpu` and `do_del_vcpu`, which send an upcall request and record the vCPUs in action; the
callback that `send_upcall_action` registers, which turns the upcall's response into a
`VcpuStateEvent`; and `VcpuEpollHandler::process_cpu_action`, which finishes the action. The
environment chooses each step (`Event`): a `resize_vcpu` call with how its vCPU threads and its
upcall request go, a response of the upcall client to the request in flight, or a round of the
epoll handler. The vCPU threads obey the events they are sent, and the upcall client serves one
request at a time.

`process_cpu_action` acts only on `Success`. A hot-add answered with a non-zero result leaves the
action at `Hotplug` with no request in flight: from then on every `resize_vcpu` fails with
`VcpuIsHotplugging`, nothing is ever sent on the caller's `sync_tx`, and the vCPUs started for the
hot-add stay up (`hotplug_failure_sticks`). An `UpcallReset` is read as `Success` too, so a
hot-unplug whose connection is reset exits its vCPUs without the guest's answer
(`unplug_reset_stops`).
-/

namespace KataContainers.Dragonball.VcpuHotplug

inductive VcpuAction
  | None
  | Hotplug
  | Hotunplug
  deriving DecidableEq, Repr

inductive VcpuResizeResult
  | Success
  | Failed
  deriving DecidableEq, Repr

inductive VcpuResizeError
  /-- `"vcpu is in hotplug process"` -/
  | VcpuIsHotplugging
  /-- `"resize vcpu operation is not allowed after boot"` -/
  | UpdateNotAllowedPostBoot
  /-- `"expected vcpu exceed max count"` -/
  | ExpectedVcpuExceedMax
  /-- `"vcpu 0 can't be removed"` -/
  | Vcpu0CanNotBeRemoved
  /-- `"Removable vcpu not enough, removable vcpu num: {0}, number to remove: {1}, present vcpu
  count {2}"` -/
  | LackRemovableVcpus (removable to_remove present : Nat)
  /-- `"cannot update the configuration by upcall channel: {0}"` -/
  | Upcall
  /-- an error of `create_vcpus` or `activate_vcpus` -/
  | Vcpu
  deriving DecidableEq, Repr

/-- `DevMgrResponse`, with the `result` of each and the index of a `CpuDev` response. -/
inductive DevMgrResponse
  | AddMmioDev (result : Int)
  | CpuDev (result : Int) (apic_id_index : Nat)
  | Other (result : Int)
  deriving DecidableEq, Repr

inductive UpcallClientResponse
  | DevMgr (response : DevMgrResponse)
  | UpcallReset
  deriving DecidableEq, Repr

/-- What the protocol uses of `VcpuManager`: whether each vCPU has a thread handle, the action in
progress, the sender of the current caller, and whether there is an upcall channel. -/
structure VcpuManager where
  max_vcpu_count : Nat
  handles : List Bool
  vcpus_in_action : VcpuAction × List Nat
  action_sycn_tx : Option Nat
  upcall_channel : Bool
  deriving DecidableEq, Repr

namespace VcpuManager

def present_vcpus_count (m : VcpuManager) : Nat := m.handles.count true

/-- `present_vcpus`: the vCPUs with a handle, in order. -/
def present_vcpus (m : VcpuManager) : List Nat :=
  (List.range m.handles.length).filter fun i => m.handles.getD i false

/-- `calculate_available_vcpus`: the first vCPUs without a handle, as many as are missing to
reach `vcpu_count`. -/
def calculate_available_vcpus (m : VcpuManager) (vcpu_count : Nat) : List Nat :=
  if m.present_vcpus_count < vcpu_count then
    ((List.range m.max_vcpu_count).filter fun i => !m.handles.getD i false).take
      (vcpu_count - m.present_vcpus_count)
  else []

/-- The handles of the vCPUs `ids` made present (`start_vcpu`) or taken (`exit_vcpus`). -/
def set_handles (m : VcpuManager) (ids : List Nat) (b : Bool) : VcpuManager :=
  { m with handles := m.handles.mapIdx fun i h => if i ∈ ids then b else h }

def stop_vcpus_in_action (m : VcpuManager) : VcpuManager :=
  m.set_handles m.vcpus_in_action.2 false

def set_vcpus_action (m : VcpuManager) (action : VcpuAction) (vcpus : List Nat) : VcpuManager :=
  { m with vcpus_in_action := (action, vcpus) }

end VcpuManager

/-- The hotplug protocol's state: the manager, whether a callback of `send_upcall_action` waits
for the upcall's response, the events its callbacks sent that the epoll handler has not read,
and every value sent on a `sync_tx` channel, with the channel. -/
structure Hotplug where
  mgr : VcpuManager
  pending : Bool
  rx : List (VcpuResizeResult × Nat)
  sent : List (Nat × Bool)
  deriving DecidableEq, Repr

/-- How the calls of one `resize_vcpu` go: whether creating or starting its vCPUs fails (their
rollback then exits them), and whether `send_request` fails. -/
structure ResizeOutcome where
  vcpuFails : Bool
  upcallFails : Bool
  deriving DecidableEq, Repr

namespace Hotplug

/-- `sync_action_finish`: the sender, if there is one, is taken and gets `got_error`. -/
def sync_action_finish (s : Hotplug) (got_error : Bool) : Hotplug :=
  match s.mgr.action_sycn_tx with
  | some tx => { s with mgr := { s.mgr with action_sycn_tx := none }, sent := s.sent ++ [(tx, got_error)] }
  | none => s

/-- `send_upcall_action`: the upcall client takes the request, and its callback, unless it fails
or serves another request. -/
def send_upcall_action (s : Hotplug) (fails : Bool) : Hotplug × Except VcpuResizeError Unit :=
  if fails || s.pending then (s, .error .Upcall)
  else ({ s with pending := true }, .ok ())

def do_add_vcpu (s : Hotplug) (vcpu_count : Nat) (o : ResizeOutcome) :
    Hotplug × Except VcpuResizeError Unit :=
  if vcpu_count > s.mgr.max_vcpu_count then (s, .error .ExpectedVcpuExceedMax)
  else if o.vcpuFails then (s, .error .Vcpu)
  else
    -- `create_vcpus` and `activate_vcpus` start the vCPUs that are missing
    let cpu_ids := s.mgr.calculate_available_vcpus vcpu_count
    let s := { s with mgr := s.mgr.set_handles cpu_ids true }
    match s.send_upcall_action o.upcallFails with
    | (s, .error e) => (s, .error e)
    | (s, .ok ()) => ({ s with mgr := s.mgr.set_vcpus_action .Hotplug cpu_ids }, .ok ())

def do_del_vcpu (s : Hotplug) (vcpu_count : Nat) (o : ResizeOutcome) :
    Hotplug × Except VcpuResizeError Unit :=
  if vcpu_count = 0 then (s, .error .Vcpu0CanNotBeRemoved)
  else
    let cpu_ids := s.mgr.present_vcpus
    let cpu_num_to_be_del := s.mgr.present_vcpus_count - vcpu_count
    if cpu_num_to_be_del ≥ cpu_ids.length then
      (s, .error (.LackRemovableVcpus cpu_ids.length cpu_num_to_be_del s.mgr.present_vcpus_count))
    else
      -- the last vCPUs present, the highest first
      let cpu_ids := cpu_ids.reverse.take cpu_num_to_be_del
      match s.send_upcall_action o.upcallFails with
      | (s, .error e) => (s, .error e)
      | (s, .ok ()) => ({ s with mgr := s.mgr.set_vcpus_action .Hotunplug cpu_ids }, .ok ())

def resize_vcpu (s : Hotplug) (vcpu_count : Nat) (sync_tx : Option Nat) (o : ResizeOutcome) :
    Hotplug × Except VcpuResizeError Unit :=
  if s.mgr.vcpus_in_action.1 ≠ .None then (s, .error .VcpuIsHotplugging)
  else
    let s := { s with mgr := { s.mgr with action_sycn_tx := sync_tx } }
    if !s.mgr.upcall_channel then (s, .error .UpdateNotAllowedPostBoot)
    else if vcpu_count = s.mgr.present_vcpus_count then (s.sync_action_finish false, .ok ())
    else if vcpu_count > s.mgr.present_vcpus_count then s.do_add_vcpu vcpu_count o
    else s.do_del_vcpu vcpu_count o

/-- The callback of `send_upcall_action`: the event it sends for a response. -/
def callback : UpcallClientResponse → List (VcpuResizeResult × Nat)
  | .DevMgr (.CpuDev result apic_id_index) =>
    [(if result = 0 then .Success else .Failed, apic_id_index)]
  | .DevMgr _ => []
  | .UpcallReset => [(.Success, 0)]

/-- The upcall client hands a response to the callback waiting for it, which is consumed. -/
def respond (s : Hotplug) (r : UpcallClientResponse) : Hotplug :=
  if s.pending then { s with pending := false, rx := s.rx ++ callback r } else s

def process_cpu_action (s : Hotplug) (result : VcpuResizeResult) : Hotplug :=
  if result = .Success then
    let s := match s.mgr.vcpus_in_action.1 with
      | .Hotplug => s.sync_action_finish false
      | .Hotunplug => { s with mgr := s.mgr.stop_vcpus_in_action }.sync_action_finish false
      | .None => s
    { s with mgr := s.mgr.set_vcpus_action .None [] }.sync_action_finish true
  else s

/-- `process_cpu_state_event`: the handler reads every event waiting. -/
def process_cpu_state_event (s : Hotplug) : Hotplug :=
  s.rx.foldl (fun s e => s.process_cpu_action e.1) { s with rx := [] }

end Hotplug

/-- What happens next: a `resize_vcpu` call, a response of the upcall client, or a round of the
epoll handler. -/
inductive Event
  | resize (vcpu_count : Nat) (sync_tx : Option Nat) (o : ResizeOutcome)
  | respond (r : UpcallClientResponse)
  | process
  deriving DecidableEq, Repr

def step (s : Hotplug) : Event → Hotplug
  | .resize vcpu_count sync_tx o => (s.resize_vcpu vcpu_count sync_tx o).1
  | .respond r => s.respond r
  | .process => s.process_cpu_state_event

/-! ## A hot-add that the guest refuses -/

namespace Hotplug

/-- No action can finish: one is in progress, no request is in flight, and every event waiting
says `Failed`. -/
def Stuck (s : Hotplug) : Prop :=
  s.mgr.vcpus_in_action.1 ≠ .None ∧ s.pending = false ∧ ∀ e ∈ s.rx, e.1 = .Failed

variable {s : Hotplug}

lemma resize_vcpu_of_action (h : s.mgr.vcpus_in_action.1 ≠ .None) (vcpu_count : Nat)
    (sync_tx : Option Nat) (o : ResizeOutcome) :
    s.resize_vcpu vcpu_count sync_tx o = (s, .error .VcpuIsHotplugging) :=
  if_pos h

lemma respond_of_not_pending (h : s.pending = false) (r : UpcallClientResponse) :
    s.respond r = s := by
  simp [respond, h]

/-- Events that all say `Failed` change nothing. -/
lemma foldl_process_cpu_action_failed {rx : List (VcpuResizeResult × Nat)}
    (h : ∀ e ∈ rx, e.1 = .Failed) (s : Hotplug) :
    rx.foldl (fun s e => s.process_cpu_action e.1) s = s := by
  induction rx generalizing s with
  | nil => rfl
  | cons e rx ih =>
    have he : e.1 = .Failed := h e List.mem_cons_self
    rw [List.foldl_cons, process_cpu_action, if_neg (by rw [he]; decide)]
    exact ih (fun e' he' => h e' (List.mem_cons_of_mem _ he')) s

/-- A stuck protocol stays stuck at every step, and neither its manager nor what was sent
changes. -/
lemma Stuck.step (h : s.Stuck) (e : Event) :
    (VcpuHotplug.step s e).Stuck ∧ (VcpuHotplug.step s e).mgr = s.mgr ∧
      (VcpuHotplug.step s e).sent = s.sent := by
  obtain ⟨haction, hpending, hrx⟩ := h
  cases e with
  | resize vcpu_count sync_tx o =>
    have hs : VcpuHotplug.step s (.resize vcpu_count sync_tx o) = s := by
      simp only [VcpuHotplug.step, resize_vcpu_of_action haction]
    rw [hs]
    exact ⟨⟨haction, hpending, hrx⟩, rfl, rfl⟩
  | respond r =>
    have hs : VcpuHotplug.step s (.respond r) = s := respond_of_not_pending hpending r
    rw [hs]
    exact ⟨⟨haction, hpending, hrx⟩, rfl, rfl⟩
  | process =>
    -- the events waiting all say `Failed`: the handler only empties the queue
    have hs : VcpuHotplug.step s .process = { s with rx := [] } :=
      foldl_process_cpu_action_failed hrx _
    rw [hs]
    exact ⟨⟨haction, hpending, by simp⟩, rfl, rfl⟩

/-- From a stuck protocol, whatever happens, it stays stuck with the same manager, and nothing more
is sent. -/
lemma Stuck.run (h : s.Stuck) (events : List Event) :
    (Transition.run VcpuHotplug.step s events).Stuck ∧
      (Transition.run VcpuHotplug.step s events).mgr = s.mgr ∧
      (Transition.run VcpuHotplug.step s events).sent = s.sent := by
  refine Transition.run_invariant
    (I := fun t : Hotplug => t.Stuck ∧ t.mgr = s.mgr ∧ t.sent = s.sent)
    (fun e _ t ht => ?_) ⟨h, rfl, rfl⟩
  obtain ⟨hstep, hmgr, hsent⟩ := ht.1.step e
  exact ⟨hstep, hmgr.trans ht.2.1, hsent.trans ht.2.2⟩

/-- A request that the upcall client takes leaves a callback waiting, and nothing else. -/
lemma send_upcall_action_ok {fails : Bool} (h : (s.send_upcall_action fails).2 = .ok ()) :
    (s.send_upcall_action fails).1 = { s with pending := true } := by
  unfold send_upcall_action at h ⊢
  split_ifs at h ⊢
  rfl

/-- A hot-add that returns `Ok` has recorded its action and has its request in flight. -/
lemma do_add_vcpu_ok {vcpu_count : Nat} {o : ResizeOutcome}
    (h : (s.do_add_vcpu vcpu_count o).2 = .ok ()) :
    (s.do_add_vcpu vcpu_count o).1.mgr.vcpus_in_action.1 = .Hotplug ∧
      (s.do_add_vcpu vcpu_count o).1.pending = true ∧
      (s.do_add_vcpu vcpu_count o).1.rx = s.rx ∧ (s.do_add_vcpu vcpu_count o).1.sent = s.sent := by
  unfold do_add_vcpu at h ⊢
  split_ifs at h ⊢
  dsimp only at h ⊢
  split at h
  · cases h
  next s₁ hsend =>
  have hs₁ := send_upcall_action_ok (by rw [hsend])
  rw [hsend] at hs₁
  cases hs₁
  exact ⟨rfl, rfl, rfl, rfl⟩

/-- With more vCPUs asked for than are present, `resize_vcpu` is `do_add_vcpu` once it has
passed its checks and stored the sender. -/
lemma resize_vcpu_of_lt {vcpu_count : Nat} {sync_tx : Option Nat} {o : ResizeOutcome}
    (hgt : s.mgr.present_vcpus_count < vcpu_count) :
    s.resize_vcpu vcpu_count sync_tx o =
      if s.mgr.vcpus_in_action.1 ≠ .None then (s, .error .VcpuIsHotplugging)
      else if !s.mgr.upcall_channel then
        ({ s with mgr := { s.mgr with action_sycn_tx := sync_tx } }, .error .UpdateNotAllowedPostBoot)
      else Hotplug.do_add_vcpu { s with mgr := { s.mgr with action_sycn_tx := sync_tx } } vcpu_count o := by
  have hne : vcpu_count ≠ s.mgr.present_vcpus_count := by omega
  simp only [resize_vcpu, VcpuManager.present_vcpus_count] at hne hgt ⊢
  simp only [hne, if_false, gt_iff_lt, hgt, if_true]

/-- A hot-add that returns `Ok` has its action at `Hotplug` and its request in flight, and has
sent nothing. -/
lemma resize_vcpu_add {vcpu_count : Nat} {sync_tx : Option Nat} {o : ResizeOutcome}
    (hgt : s.mgr.present_vcpus_count < vcpu_count)
    (hok : (s.resize_vcpu vcpu_count sync_tx o).2 = .ok ()) :
    (s.resize_vcpu vcpu_count sync_tx o).1.mgr.vcpus_in_action.1 = .Hotplug ∧
      (s.resize_vcpu vcpu_count sync_tx o).1.pending = true ∧
      (s.resize_vcpu vcpu_count sync_tx o).1.rx = s.rx ∧
      (s.resize_vcpu vcpu_count sync_tx o).1.sent = s.sent := by
  rw [resize_vcpu_of_lt hgt] at hok ⊢
  split_ifs at hok ⊢
  exact do_add_vcpu_ok hok

lemma process_cpu_action_failed (s : Hotplug) : s.process_cpu_action .Failed = s := by
  simp [process_cpu_action]

lemma respond_of_pending (h : s.pending = true) (r : UpcallClientResponse) :
    s.respond r = { s with pending := false, rx := s.rx ++ callback r } :=
  if_pos h

/-- A `Success` during a hot-unplug exits the vCPUs in action, and the sender gets `false` from
the first `sync_action_finish`; the second finds none. -/
lemma process_cpu_action_unplug (h : s.mgr.vcpus_in_action.1 = .Hotunplug) :
    (s.process_cpu_action .Success).mgr.handles =
        (s.mgr.set_handles s.mgr.vcpus_in_action.2 false).handles ∧
      (s.process_cpu_action .Success).sent =
        s.sent ++ (s.mgr.action_sycn_tx.map fun tx => (tx, false)).toList := by
  rcases htx : s.mgr.action_sycn_tx with _ | tx <;>
    simp [process_cpu_action, h, sync_action_finish, htx, VcpuManager.stop_vcpus_in_action,
      VcpuManager.set_vcpus_action, VcpuManager.set_handles]

end Hotplug

/-- A hot-add whose request the guest answers with a non-zero result, once the epoll handler has
read the answer, leaves the manager as the `resize_vcpu` call left it, whatever happens next:
every later `resize_vcpu` fails with `VcpuIsHotplugging`, nothing is sent on any `sync_tx`, the
caller's included, and the vCPUs started for the hot-add keep their handles. -/
theorem hotplug_failure_sticks {s : Hotplug} {vcpu_count tx : Nat} {o : ResizeOutcome}
    {result : Int} {apic_id_index : Nat} (hgt : s.mgr.present_vcpus_count < vcpu_count)
    (hok : (s.resize_vcpu vcpu_count (some tx) o).2 = .ok ()) (hrx : s.rx = [])
    (hresult : result ≠ 0) (events : List Event) :
    (Transition.run step s ([.resize vcpu_count (some tx) o,
        .respond (.DevMgr (.CpuDev result apic_id_index)), .process] ++ events)).mgr =
      (s.resize_vcpu vcpu_count (some tx) o).1.mgr ∧
    (Transition.run step s ([.resize vcpu_count (some tx) o,
        .respond (.DevMgr (.CpuDev result apic_id_index)), .process] ++ events)).sent = s.sent ∧
    ∀ n sync_tx o', ((Transition.run step s ([.resize vcpu_count (some tx) o,
        .respond (.DevMgr (.CpuDev result apic_id_index)), .process] ++ events)).resize_vcpu
          n sync_tx o').2 = .error .VcpuIsHotplugging := by
  obtain ⟨haction, hpending, hrx', hsent⟩ := Hotplug.resize_vcpu_add hgt hok
  -- after the answer is read, no action can finish
  have hstuck : (Transition.run step s [.resize vcpu_count (some tx) o,
      .respond (.DevMgr (.CpuDev result apic_id_index)), .process]).Stuck ∧
      (Transition.run step s [.resize vcpu_count (some tx) o,
        .respond (.DevMgr (.CpuDev result apic_id_index)), .process]).mgr =
        (s.resize_vcpu vcpu_count (some tx) o).1.mgr ∧
      (Transition.run step s [.resize vcpu_count (some tx) o,
        .respond (.DevMgr (.CpuDev result apic_id_index)), .process]).sent = s.sent := by
    simp only [Transition.run, List.foldl_cons, List.foldl_nil, step, Hotplug.respond, hpending,
      if_true, Hotplug.callback, hresult, if_false, hrx', hrx, List.nil_append,
      Hotplug.process_cpu_state_event, Hotplug.process_cpu_action_failed]
    exact ⟨⟨by rw [haction]; decide, rfl, by simp⟩, trivial, hsent⟩
  obtain ⟨hstuck', hmgr, hsent'⟩ := hstuck.1.run events
  rw [Transition.run_append]
  refine ⟨hmgr.trans hstuck.2.1, hsent'.trans hstuck.2.2, fun n sync_tx o' => ?_⟩
  rw [Hotplug.resize_vcpu_of_action hstuck'.1]

/-- `UpcallReset` is read as `Success`: a hot-unplug whose upcall connection is reset, without the
guest's answer, exits the vCPUs in action and tells the caller it succeeded. -/
lemma unplug_reset_stops {s : Hotplug} (haction : s.mgr.vcpus_in_action.1 = .Hotunplug)
    (hpending : s.pending = true) (hrx : s.rx = []) :
    (Transition.run step s [.respond .UpcallReset, .process]).mgr.handles =
        (s.mgr.set_handles s.mgr.vcpus_in_action.2 false).handles ∧
      (Transition.run step s [.respond .UpcallReset, .process]).sent =
        s.sent ++ (s.mgr.action_sycn_tx.map fun tx => (tx, false)).toList := by
  -- the reset leaves one `Success` waiting, which the handler reads as the guest's answer
  have hs : Transition.run step s [.respond .UpcallReset, .process] =
      { s with pending := false, rx := [] }.process_cpu_action .Success := by
    rw [Transition.run_cons, Transition.run_cons, Transition.run_nil]
    simp only [step, Hotplug.respond_of_pending hpending, Hotplug.process_cpu_state_event, hrx,
      Hotplug.callback, List.nil_append, List.foldl_cons, List.foldl_nil]
  rw [hs]
  exact Hotplug.process_cpu_action_unplug haction

/-- Four vCPUs at most, vCPU 0 up, no action, and the upcall channel connected. -/
def boot_one : Hotplug := ⟨⟨4, [true, false, false, false], (.None, []), none, true⟩, false, [], []⟩

/-- Asked for two vCPUs with the sender `7`, the manager starts vCPU 1; the guest answers `1`.
Then a call for one vCPU is rejected, and vCPU 1 is still up. -/
theorem hotplug_failure_sticks_boot_one :
    (boot_one.resize_vcpu 2 (some 7) ⟨false, false⟩).1.mgr.handles = [true, true, false, false] ∧
    ((Transition.run step boot_one ([.resize 2 (some 7) ⟨false, false⟩,
        .respond (.DevMgr (.CpuDev 1 1)), .process] ++ [.resize 1 (some 8) ⟨false, false⟩])).mgr =
      (boot_one.resize_vcpu 2 (some 7) ⟨false, false⟩).1.mgr ∧
    (Transition.run step boot_one ([.resize 2 (some 7) ⟨false, false⟩,
        .respond (.DevMgr (.CpuDev 1 1)), .process] ++ [.resize 1 (some 8) ⟨false, false⟩])).sent =
      boot_one.sent ∧
    ∀ n sync_tx o', ((Transition.run step boot_one ([.resize 2 (some 7) ⟨false, false⟩,
        .respond (.DevMgr (.CpuDev 1 1)), .process] ++ [.resize 1 (some 8) ⟨false, false⟩])).resize_vcpu
          n sync_tx o').2 = .error .VcpuIsHotplugging) :=
  ⟨by decide, hotplug_failure_sticks (by decide) (by decide) rfl (by decide) _⟩

end KataContainers.Dragonball.VcpuHotplug
