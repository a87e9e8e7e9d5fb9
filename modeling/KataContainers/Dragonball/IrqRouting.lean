import KataContainers.Lib.Transition
import KataContainers.Lib.Except

/-!
# KVM GSI routing

Model of `KvmIrqRouting` in `dbs_interrupt/src/kvm/mod.rs` (with the `kvm-legacy-irq` and
`kvm-msi-generic` features, on x86_64) and of the `MsiIrq` group of `kvm/msi_irq.rs`. The
routing keeps a `HashMap` from `hash_key` to routes (`RouteMap`, whose keys are distinct by
construction); `initialize`, `add`, `remove` and `modify` change the map first and then hand every
route to `set_gsi_routing`, whose answer, at any call, is a parameter. KVM's table is what the last
accepted call handed over.

A call that returns `Ok` leaves KVM's table equal to the map's routes (`call_ok_synced`, for whole
runs `run_ok_synced`), and the checks of `add` and `modify` fail before anything changes
(`add_check_error`, `modify_absent`). Nothing is rolled back when KVM refuses the table: the map
keeps the new routes while KVM keeps the old ones (`add_kvm_error`). `add` checks a batch only
against the map, so two entries with one key pass and the second wins (`add_duplicate_batch`).
`MsiIrq::enable` ignores `EEXIST`, so a route that was there before `enable` is removed by
`disable` (`enable_disable_drops_existing`). `irq_routing_not_transactional` puts these together.
-/

namespace KataContainers.Dragonball.Interrupt

/-- A raw OS error number. -/
abbrev Errno := Nat

def EINVAL : Errno := 22
def EEXIST : Errno := 17
def ENOENT : Errno := 2

def MAX_IRQS : UInt32 := 1024
def MAX_LEGACY_IRQS : Nat := 24

def KVM_IRQ_ROUTING_IRQCHIP : UInt32 := 1
def KVM_IRQ_ROUTING_MSI : UInt32 := 2
def KVM_IRQCHIP_PIC_MASTER : UInt32 := 0
def KVM_IRQCHIP_PIC_SLAVE : UInt32 := 1
def KVM_IRQCHIP_IOAPIC : UInt32 := 2
def KVM_MSI_VALID_DEVID : UInt32 := 1

/-- The union `u` of `kvm_irq_routing_entry`, as its first four words: `irqchip {irqchip, pin}`
or `msi {address_lo, address_hi, data, devid}`. -/
structure RoutingUnion where
  w0 : UInt32 := 0
  w1 : UInt32 := 0
  w2 : UInt32 := 0
  w3 : UInt32 := 0
  deriving DecidableEq, Repr

/-- `kvm_irq_routing_entry`. -/
structure kvm_irq_routing_entry where
  gsi : UInt32
  type_ : UInt32
  flags : UInt32 := 0
  u : RoutingUnion := {}
  deriving DecidableEq, Repr

/-- `hash_key`: the routing type, the chip of an `IRQCHIP` route and the GSI, in one word. -/
def hash_key (entry : kvm_irq_routing_entry) : UInt64 :=
  let type1 : UInt32 := if entry.type_ = KVM_IRQ_ROUTING_IRQCHIP then entry.u.w0 else 0
  (type1.toUInt64 <<< 48 ||| entry.type_.toUInt64 <<< 32) ||| entry.gsi.toUInt64

/-! ## The route map -/

/-- A `HashMap<u64, kvm_irq_routing_entry>`: its pairs in iteration order, keys distinct. -/
structure RouteMap where
  pairs : List (UInt64 × kvm_irq_routing_entry)
  nodup : (pairs.map Prod.fst).Nodup

namespace RouteMap

def empty : RouteMap := ⟨[], List.nodup_nil⟩

def contains_key (r : RouteMap) (k : UInt64) : Bool :=
  r.pairs.any fun p => p.1 == k

/-- The keys other than `k` stay distinct once `k`'s pair is dropped. -/
theorem nodup_filter (r : RouteMap) (k : UInt64) :
    ((r.pairs.filter fun p => p.1 != k).map Prod.fst).Nodup :=
  (List.Sublist.map Prod.fst List.filter_sublist).nodup r.nodup

def remove (r : RouteMap) (k : UInt64) : RouteMap :=
  ⟨r.pairs.filter fun p => p.1 != k, r.nodup_filter k⟩

def insert (r : RouteMap) (k : UInt64) (v : kvm_irq_routing_entry) : RouteMap :=
  ⟨(k, v) :: r.pairs.filter (fun p => p.1 != k), by
    rw [List.map_cons, List.nodup_cons]
    refine ⟨fun hk => ?_, r.nodup_filter k⟩
    obtain ⟨p, hp, hpk⟩ := List.mem_map.mp hk
    have hne := (List.mem_filter.mp hp).2
    rw [hpk, bne_self_eq_false] at hne
    cases hne⟩

/-- `HashMap::values`. -/
def values (r : RouteMap) : List kvm_irq_routing_entry :=
  r.pairs.map Prod.snd

theorem contains_key_insert (r : RouteMap) (k : UInt64) (v : kvm_irq_routing_entry) :
    (r.insert k v).contains_key k = true := by
  simp [contains_key, insert]

theorem contains_key_remove (r : RouteMap) (k : UInt64) :
    (r.remove k).contains_key k = false := by
  simp [contains_key, remove]

theorem contains_key_insert_of_contains {r : RouteMap} {k : UInt64} (k' : UInt64)
    (v : kvm_irq_routing_entry) (h : r.contains_key k = true) :
    (r.insert k' v).contains_key k = true := by
  by_cases hk : k' = k
  · subst hk
    exact contains_key_insert r k' v
  · obtain ⟨p, hp, hpk⟩ := List.any_eq_true.mp h
    refine List.any_eq_true.mpr ⟨p, List.mem_cons_of_mem _ (List.mem_filter.mpr ⟨hp, ?_⟩), hpk⟩
    rw [beq_iff_eq] at hpk
    rw [hpk]
    exact bne_iff_ne.mpr (Ne.symm hk)

end RouteMap

/-! ## The routing and KVM -/

/-- `size_of::<kvm_irq_routing>()`: the header `{nr, flags}`. -/
def elem_sz : Nat := 8

/-- `size_of::<kvm_irq_routing_entry>()`. -/
def entry_sz : Nat := 48

/-- The number of headers `set_routing` allocates for `n` routes. -/
def elem_cnt (n : Nat) : Nat :=
  let total_sz := entry_sz * n + elem_sz
  (total_sz + elem_sz - 1) / elem_sz

/-- The buffer holds the header and every route. -/
theorem elem_cnt_covers (n : Nat) : entry_sz * n + elem_sz ≤ elem_cnt n * elem_sz := by
  show 48 * n + 8 ≤ (48 * n + 8 + 8 - 1) / 8 * 8
  omega

/-- `KvmIrqRouting`, with the table KVM accepted last. -/
structure KvmIrqRouting where
  routes : RouteMap
  table : List kvm_irq_routing_entry

/-- KVM's table holds the map's routes. -/
def KvmIrqRouting.Synced (s : KvmIrqRouting) : Prop :=
  s.table = s.routes.values

/-- `set_routing`: hand KVM the routes of the map; `kvm` is what `set_gsi_routing` answers. -/
def set_routing (s : KvmIrqRouting) (kvm : Except Errno Unit) : KvmIrqRouting × Except Errno Unit :=
  match kvm with
  | .ok () => ({ s with table := s.routes.values }, .ok ())
  | .error e => (s, .error e)

/-- `LegacyIrq::add_legacy_entry`. -/
def add_legacy_entry (gsi chip pin : UInt32) (routes : RouteMap) : RouteMap :=
  let entry : kvm_irq_routing_entry :=
    { gsi, type_ := KVM_IRQ_ROUTING_IRQCHIP, u := { w0 := chip, w1 := pin } }
  routes.insert (hash_key entry) entry

/-- `LegacyIrq::initialize_legacy` on x86_64: the master PIC but its cascade, the slave PIC, and
the first IOAPIC with the timer on pin 2. -/
def initialize_legacy (routes : RouteMap) : RouteMap :=
  -- Build routings for the master PIC
  let routes := (List.range 8).foldl (fun r i =>
    if i ≠ 2 then add_legacy_entry i.toUInt32 KVM_IRQCHIP_PIC_MASTER i.toUInt32 r else r) routes
  -- Build routings for the slave PIC
  let routes := (List.range' 8 8).foldl (fun r i =>
    add_legacy_entry i.toUInt32 KVM_IRQCHIP_PIC_SLAVE (i - 8).toUInt32 r) routes
  -- Build routings for the first IOAPIC
  (List.range MAX_LEGACY_IRQS).foldl (fun r i =>
    if i = 0 then add_legacy_entry 0 KVM_IRQCHIP_IOAPIC 2 r
    else if i ≠ 2 then add_legacy_entry i.toUInt32 KVM_IRQCHIP_IOAPIC i.toUInt32 r
    else r) routes

namespace KvmIrqRouting

/-- `initialize`: the legacy routes, handed to KVM. -/
def initialize_routes (s : KvmIrqRouting) (kvm : Except Errno Unit) :
    KvmIrqRouting × Except Errno Unit :=
  set_routing { s with routes := initialize_legacy s.routes } kvm

/-- The checks of `add`, entry by entry. -/
def add_check (s : KvmIrqRouting) (entries : List kvm_irq_routing_entry) : Except Errno Unit :=
  entries.forM fun entry =>
    if entry.gsi ≥ MAX_IRQS then throw EINVAL
    else if s.routes.contains_key (hash_key entry) then throw EEXIST
    else pure ()

def add (s : KvmIrqRouting) (entries : List kvm_irq_routing_entry) (kvm : Except Errno Unit) :
    KvmIrqRouting × Except Errno Unit :=
  match s.add_check entries with
  | .error e => (s, .error e)
  | .ok () =>
    let routes := entries.foldl (fun routes entry => routes.insert (hash_key entry) entry) s.routes
    set_routing { s with routes } kvm

def remove (s : KvmIrqRouting) (entries : List kvm_irq_routing_entry) (kvm : Except Errno Unit) :
    KvmIrqRouting × Except Errno Unit :=
  let routes := entries.foldl (fun routes entry => routes.remove (hash_key entry)) s.routes
  set_routing { s with routes } kvm

def modify (s : KvmIrqRouting) (entry : kvm_irq_routing_entry) (kvm : Except Errno Unit) :
    KvmIrqRouting × Except Errno Unit :=
  if !s.routes.contains_key (hash_key entry) then (s, .error ENOENT)
  else set_routing { s with routes := s.routes.insert (hash_key entry) entry } kvm

end KvmIrqRouting

/-- A call on the routing, with KVM's answer to its `set_gsi_routing`. -/
inductive Call
  | initialize_routes (kvm : Except Errno Unit)
  | add (entries : List kvm_irq_routing_entry) (kvm : Except Errno Unit)
  | remove (entries : List kvm_irq_routing_entry) (kvm : Except Errno Unit)
  | modify (entry : kvm_irq_routing_entry) (kvm : Except Errno Unit)

def Call.apply (s : KvmIrqRouting) : Call → KvmIrqRouting × Except Errno Unit
  | .initialize_routes kvm => s.initialize_routes kvm
  | .add entries kvm => s.add entries kvm
  | .remove entries kvm => s.remove entries kvm
  | .modify entry kvm => s.modify entry kvm

/-- One call of a run: the routing after it and what it returned. -/
def step (p : KvmIrqRouting × Except Errno Unit) (c : Call) : KvmIrqRouting × Except Errno Unit :=
  Call.apply p.1 c

/-! ## MSI groups -/

/-- `MsiIrqSourceConfig`, without `msg_ctl`, which routing does not read. -/
structure MsiIrqSourceConfig where
  high_addr : UInt32 := 0
  low_addr : UInt32 := 0
  data : UInt32 := 0
  device_id : Option UInt32 := none
  deriving DecidableEq, Repr

/-- `InterruptSourceConfig`. -/
inductive InterruptSourceConfig
  | LegacyIrq
  | MsiIrq (cfg : MsiIrqSourceConfig)
  deriving DecidableEq, Repr

/-- `new_msi_routing_entry`. -/
def new_msi_routing_entry (gsi : UInt32) (msicfg : MsiIrqSourceConfig) : kvm_irq_routing_entry :=
  { gsi
    type_ := KVM_IRQ_ROUTING_MSI
    flags := if msicfg.device_id.isSome then KVM_MSI_VALID_DEVID else 0
    u := { w0 := msicfg.low_addr, w1 := msicfg.high_addr, w2 := msicfg.data,
           w3 := msicfg.device_id.getD 0 } }

/-- The body of the loop of `create_msi_routing_entries`: the route of the `i`-th interrupt,
which must have an MSI configuration. -/
def msi_routing_entry_of (base : UInt32) (val : InterruptSourceConfig) (i : Nat) :
    Except Errno kvm_irq_routing_entry :=
  match val with
  | .MsiIrq msicfg => .ok (new_msi_routing_entry (base + i.toUInt32) msicfg)
  | _ => .error EINVAL

/-- `create_msi_routing_entries`. -/
def create_msi_routing_entries (base : UInt32) (configs : List InterruptSourceConfig) :
    Except Errno (List kvm_irq_routing_entry) :=
  if base.toNat + configs.length ≥ 2 ^ 32 then .error EINVAL
  else configs.zipIdx.mapM fun (val, i) => msi_routing_entry_of base val i

/-- An `MsiIrq` group: `count` interrupts from `base`, one configuration each. -/
structure MsiIrq where
  base : UInt32
  count : UInt32
  msi_configs : List MsiIrqSourceConfig
  base_lt : base < MAX_IRQS
  configs_length : msi_configs.length = count.toNat

namespace MsiIrq

/-- `enable`: add the group's routes, taking `EEXIST` as routes already restored, then register
the irqfds, whose outcome is `irqfd`. -/
def enable (g : MsiIrq) (configs : List InterruptSourceConfig) (s : KvmIrqRouting)
    (kvm irqfd : Except Errno Unit) : KvmIrqRouting × Except Errno Unit :=
  if configs.length ≠ g.count.toNat then (s, .error EINVAL)
  else
    match create_msi_routing_entries g.base configs with
    | .error e => (s, .error e)
    | .ok entries =>
      match s.add entries kvm with
      | (s', .error e) => if e = EEXIST then (s', irqfd) else (s', .error e)
      | (s', .ok ()) => (s', irqfd)

/-- The routes `disable` tears down: one per interrupt, from the group's own configurations. -/
def entries (g : MsiIrq) : List kvm_irq_routing_entry :=
  g.msi_configs.zipIdx.map fun (msicfg, i) => new_msi_routing_entry (g.base + i.toUInt32) msicfg

/-- `disable`: unregister the irqfds, whose outcome is `irqfd`, then remove the group's routes. -/
def disable (g : MsiIrq) (s : KvmIrqRouting) (kvm irqfd : Except Errno Unit) :
    KvmIrqRouting × Except Errno Unit :=
  match irqfd with
  | .error e => (s, .error e)
  | .ok () => s.remove g.entries kvm

end MsiIrq

/-! ## Route map lemmas -/

namespace RouteMap

theorem contains_key_remove_of_false {r : RouteMap} {k : UInt64} (k' : UInt64)
    (h : r.contains_key k = false) : (r.remove k').contains_key k = false := by
  rw [Bool.eq_false_iff] at h ⊢
  intro hk
  obtain ⟨p, hp, hpk⟩ := List.any_eq_true.mp hk
  exact h (List.any_eq_true.mpr ⟨p, (List.mem_filter.mp hp).1, hpk⟩)

/-- A key stays once inserted, whatever else is inserted after it. -/
theorem contains_key_foldl_insert {r : RouteMap} {k : UInt64} (h : r.contains_key k = true)
    (entries : List kvm_irq_routing_entry) :
    (entries.foldl (fun routes entry => routes.insert (hash_key entry) entry) r).contains_key k =
      true := by
  induction entries generalizing r with
  | nil => exact h
  | cons e es ih => exact ih (contains_key_insert_of_contains _ e h)

/-- A key is gone once removed, whatever else is removed after it. -/
theorem contains_key_foldl_remove {r : RouteMap} {k : UInt64} (h : r.contains_key k = false)
    (entries : List kvm_irq_routing_entry) :
    (entries.foldl (fun routes entry => routes.remove (hash_key entry)) r).contains_key k =
      false := by
  induction entries generalizing r with
  | nil => exact h
  | cons e es ih => exact ih (contains_key_remove_of_false _ h)

end RouteMap

/-! ## What each call does -/

/-- A call that `set_routing` ends returns `Ok` only with KVM's table the map's routes. -/
theorem set_routing_ok_synced {s : KvmIrqRouting} {kvm : Except Errno Unit}
    (h : (set_routing s kvm).2 = .ok ()) : (set_routing s kvm).1.Synced := by
  cases kvm with
  | ok u => rfl
  | error e => cases h

/-- KVM refusing the table changes nothing `set_routing` holds. -/
theorem set_routing_error (s : KvmIrqRouting) (e : Errno) :
    set_routing s (.error e) = (s, .error e) := rfl

namespace KvmIrqRouting

/-- The routing before any call: no route, and an empty table. -/
def new : KvmIrqRouting := ⟨RouteMap.empty, []⟩

variable {s : KvmIrqRouting}

theorem add_check_ok_iff {entries : List kvm_irq_routing_entry} :
    s.add_check entries = .ok () ↔
      ∀ e ∈ entries, e.gsi < MAX_IRQS ∧ s.routes.contains_key (hash_key e) = false := by
  rw [add_check, Except.forM_eq_ok_iff]
  refine forall_congr' fun e => imp_congr_right fun _ => ?_
  by_cases hgsi : e.gsi ≥ MAX_IRQS
  · rw [if_pos hgsi]
    exact ⟨fun h => (by cases h), fun h => absurd h.1 (UInt32.not_lt.mpr hgsi)⟩
  · rw [if_neg hgsi]
    by_cases hkey : s.routes.contains_key (hash_key e) = true
    · rw [if_pos hkey]
      exact ⟨fun h => (by cases h), fun h => Bool.noConfusion (hkey.symm.trans h.2)⟩
    · rw [if_neg hkey]
      exact ⟨fun _ => ⟨UInt32.not_le.mp hgsi, Bool.eq_false_iff.mpr hkey⟩, fun _ => rfl⟩

/-- A failed check of `add` comes before any change. -/
theorem add_check_error {entries : List kvm_irq_routing_entry} {e : Errno}
    (h : s.add_check entries = .error e) (kvm : Except Errno Unit) :
    s.add entries kvm = (s, .error e) := by
  rw [add, h]

/-- Once the checks pass, every entry is inserted and the map handed to KVM. -/
theorem add_of_check_ok {entries : List kvm_irq_routing_entry} (h : s.add_check entries = .ok ())
    (kvm : Except Errno Unit) :
    s.add entries kvm = set_routing
      { s with routes := entries.foldl (fun r e => r.insert (hash_key e) e) s.routes } kvm := by
  rw [add, h]

/-- `modify` of an absent key fails before any change. -/
theorem modify_absent {entry : kvm_irq_routing_entry}
    (h : s.routes.contains_key (hash_key entry) = false) (kvm : Except Errno Unit) :
    s.modify entry kvm = (s, .error ENOENT) := by
  rw [modify, h]
  rfl

/-- KVM refusing the table `add` hands it keeps its old table, while the map keeps the new
routes: every key of the batch, absent before, is in the map. -/
theorem add_kvm_error {entries : List kvm_irq_routing_entry} (h : s.add_check entries = .ok ())
    (e : Errno) :
    s.add entries (.error e) =
      ({ s with routes := entries.foldl (fun r e => r.insert (hash_key e) e) s.routes },
        .error e) ∧
    ∀ entry ∈ entries, s.routes.contains_key (hash_key entry) = false ∧
      (s.add entries (.error e)).1.routes.contains_key (hash_key entry) = true := by
  have hadd := add_of_check_ok h (.error e)
  rw [set_routing_error] at hadd
  refine ⟨hadd, fun entry hmem => ⟨(add_check_ok_iff.mp h entry hmem).2, ?_⟩⟩
  rw [hadd]
  -- the entry is inserted in its turn and kept by the inserts after it
  obtain ⟨l₁, l₂, rfl⟩ := List.append_of_mem hmem
  rw [List.foldl_append, List.foldl_cons]
  exact RouteMap.contains_key_foldl_insert (RouteMap.contains_key_insert _ _ _) l₂

/-- Two entries of one key, absent from the map, pass the checks of `add`: the second replaces
the first. -/
theorem add_duplicate_batch {e₁ e₂ : kvm_irq_routing_entry} (hkey : hash_key e₁ = hash_key e₂)
    (h₁ : e₁.gsi < MAX_IRQS) (h₂ : e₂.gsi < MAX_IRQS)
    (hfree : s.routes.contains_key (hash_key e₁) = false) (kvm : Except Errno Unit) :
    s.add [e₁, e₂] kvm = set_routing
      { s with routes := (s.routes.insert (hash_key e₁) e₁).insert (hash_key e₂) e₂ } kvm := by
  have hcheck : s.add_check [e₁, e₂] = .ok () := by
    rw [add_check_ok_iff]
    intro e he
    simp only [List.mem_cons, List.not_mem_nil, or_false] at he
    rcases he with rfl | rfl
    · exact ⟨h₁, hfree⟩
    · exact ⟨h₂, hkey ▸ hfree⟩
  rw [add_of_check_ok hcheck]
  rfl

theorem add_ok_synced {entries : List kvm_irq_routing_entry} {kvm : Except Errno Unit}
    (h : (s.add entries kvm).2 = .ok ()) : (s.add entries kvm).1.Synced := by
  cases hcheck : s.add_check entries with
  | error e =>
    rw [add_check_error hcheck] at h
    cases h
  | ok u =>
    rw [add_of_check_ok hcheck] at h ⊢
    exact set_routing_ok_synced h

theorem modify_ok_synced {entry : kvm_irq_routing_entry} {kvm : Except Errno Unit}
    (h : (s.modify entry kvm).2 = .ok ()) : (s.modify entry kvm).1.Synced := by
  cases hkey : s.routes.contains_key (hash_key entry) with
  | false =>
    rw [modify_absent hkey] at h
    cases h
  | true =>
    have hm : s.modify entry kvm =
        set_routing { s with routes := s.routes.insert (hash_key entry) entry } kvm := by
      rw [modify, hkey]
      rfl
    rw [hm] at h ⊢
    exact set_routing_ok_synced h

end KvmIrqRouting

/-! ## Enabling and disabling an MSI group -/

theorem set_routing_routes (s : KvmIrqRouting) (kvm : Except Errno Unit) :
    (set_routing s kvm).1.routes = s.routes := by
  cases kvm <;> rfl

theorem base_add_zero (base : UInt32) : base + (0 : Nat).toUInt32 = base :=
  UInt32.add_zero base

/-- The key of an MSI route depends on its GSI only. -/
theorem hash_key_new_msi_routing_entry (gsi : UInt32) (cfg cfg' : MsiIrqSourceConfig) :
    hash_key (new_msi_routing_entry gsi cfg) = hash_key (new_msi_routing_entry gsi cfg') := by
  have hne : KVM_IRQ_ROUTING_MSI ≠ KVM_IRQ_ROUTING_IRQCHIP := by decide
  simp only [hash_key, new_msi_routing_entry, hne, if_false]

/-- Configurations that are all MSI give one route each, from `base` on. -/
theorem mapM_msi_routing_entry_of (base : UInt32) (ms : List MsiIrqSourceConfig) (n : Nat) :
    ((ms.map InterruptSourceConfig.MsiIrq).zipIdx n).mapM
        (fun (p : InterruptSourceConfig × Nat) => msi_routing_entry_of base p.1 p.2) =
      .ok ((ms.zipIdx n).map fun p => new_msi_routing_entry (base + p.2.toUInt32) p.1) := by
  induction ms generalizing n with
  | nil => rfl
  | cons m ms ih =>
    rw [List.map_cons, List.zipIdx_cons, List.zipIdx_cons, List.mapM_cons, ih (n + 1)]
    rfl

theorem create_msi_routing_entries_msi {base : UInt32} {ms : List MsiIrqSourceConfig}
    (hfit : base.toNat + ms.length < 2 ^ 32) :
    create_msi_routing_entries base (ms.map .MsiIrq) =
      .ok (ms.zipIdx.map fun p => new_msi_routing_entry (base + p.2.toUInt32) p.1) := by
  rw [create_msi_routing_entries, List.length_map, if_neg (by omega)]
  exact mapM_msi_routing_entry_of base ms 0

/-- A batch whose first route's key is in the map fails with `EEXIST`. -/
theorem add_check_cons_exists {s : KvmIrqRouting} {e : kvm_irq_routing_entry}
    (es : List kvm_irq_routing_entry) (hgsi : e.gsi < MAX_IRQS)
    (hkey : s.routes.contains_key (hash_key e) = true) : s.add_check (e :: es) = .error EEXIST := by
  have hstep : ∀ f : kvm_irq_routing_entry → Except Errno PUnit,
      (e :: es).forM f = (f e >>= fun _ => es.forM f) := fun _ => rfl
  rw [KvmIrqRouting.add_check, hstep, if_neg (UInt32.not_le.mpr hgsi), if_pos hkey]
  rfl

namespace MsiIrq

/-- Enabling a group whose first route is already in the map changes nothing: the `EEXIST` of
`add` is taken for routes restored with a snapshot. -/
theorem enable_of_existing (g : MsiIrq) {ms : List MsiIrqSourceConfig} {s : KvmIrqRouting}
    (kvm irqfd : Except Errno Unit) {cfg : MsiIrqSourceConfig}
    (hlen : ms.length = g.count.toNat) (hpos : 0 < ms.length)
    (hfit : g.base.toNat + ms.length < 2 ^ 32)
    (hkey : s.routes.contains_key (hash_key (new_msi_routing_entry g.base cfg)) = true) :
    g.enable (ms.map .MsiIrq) s kvm irqfd = (s, irqfd) := by
  obtain ⟨m, ms', rfl⟩ := List.exists_cons_of_length_pos hpos
  -- the first route is the one on `base`, whose key the map holds
  have hfirst : s.routes.contains_key (hash_key (new_msi_routing_entry (g.base + (0 : Nat).toUInt32) m)) =
      true := by
    rw [base_add_zero, hash_key_new_msi_routing_entry g.base m cfg]
    exact hkey
  have hcheck := add_check_cons_exists
    (ms'.zipIdx 1 |>.map fun p => new_msi_routing_entry (g.base + p.2.toUInt32) p.1)
    (by rw [base_add_zero]; exact g.base_lt) hfirst
  unfold enable
  rw [if_neg (by rw [List.length_map]; omega), create_msi_routing_entries_msi hfit]
  dsimp only
  rw [List.zipIdx_cons, List.map_cons, KvmIrqRouting.add_check_error hcheck]
  rfl

/-- Whatever KVM answers, `disable` leaves no route on the group's first GSI in the map. -/
theorem disable_removes_first (g : MsiIrq) (s : KvmIrqRouting) (kvm : Except Errno Unit)
    (cfg : MsiIrqSourceConfig) (hpos : 0 < g.count.toNat) :
    (g.disable s kvm (.ok ())).1.routes.contains_key (hash_key (new_msi_routing_entry g.base cfg)) =
      false := by
  obtain ⟨m, ms', hms⟩ := List.exists_cons_of_length_pos (g.configs_length ▸ hpos)
  have hentries : g.entries = new_msi_routing_entry g.base m ::
      (ms'.zipIdx 1).map fun (msicfg, i) => new_msi_routing_entry (g.base + i.toUInt32) msicfg := by
    rw [entries, hms, List.zipIdx_cons, List.map_cons]
    dsimp only
    rw [base_add_zero]
  rw [disable, KvmIrqRouting.remove, set_routing_routes]
  dsimp only
  rw [hentries, List.foldl_cons, hash_key_new_msi_routing_entry g.base m cfg]
  exact RouteMap.contains_key_foldl_remove (RouteMap.contains_key_remove _ _) _

end MsiIrq

/-- Every call returns `Ok` only with KVM's table the map's routes. -/
theorem call_ok_synced (s : KvmIrqRouting) (c : Call) (h : (c.apply s).2 = .ok ()) :
    (c.apply s).1.Synced := by
  cases c with
  | initialize_routes kvm => exact set_routing_ok_synced h
  | add entries kvm => exact KvmIrqRouting.add_ok_synced h
  | remove entries kvm => exact set_routing_ok_synced h
  | modify entry kvm => exact KvmIrqRouting.modify_ok_synced h

/-- Over a whole run from the new routing, whenever the last call returned `Ok`, KVM's table is
the map's routes. -/
theorem run_ok_synced (cs : List Call) :
    (Transition.run step (KvmIrqRouting.new, .ok ()) cs).2 = .ok () →
      (Transition.run step (KvmIrqRouting.new, .ok ()) cs).1.Synced := by
  -- whatever the state before it, a call that returns `Ok` leaves the routing synced
  exact Transition.run_invariant
    (I := fun p : KvmIrqRouting × Except Errno Unit => p.2 = .ok () → p.1.Synced)
    (fun c _ p _ => call_ok_synced p.1 c) (fun _ => rfl)

theorem irq_routing_not_transactional :
    (∀ cs : List Call, (Transition.run step (KvmIrqRouting.new, .ok ()) cs).2 = .ok () →
      (Transition.run step (KvmIrqRouting.new, .ok ()) cs).1.Synced) ∧
    (∀ (s : KvmIrqRouting) (entries : List kvm_irq_routing_entry) (e : Errno),
      s.add_check entries = .ok () →
      (s.add entries (.error e)).2 = .error e ∧ (s.add entries (.error e)).1.table = s.table ∧
      ∀ entry ∈ entries, s.routes.contains_key (hash_key entry) = false ∧
        (s.add entries (.error e)).1.routes.contains_key (hash_key entry) = true) ∧
    (∀ (s : KvmIrqRouting) (e₁ e₂ : kvm_irq_routing_entry), hash_key e₁ = hash_key e₂ →
      e₁.gsi < MAX_IRQS → e₂.gsi < MAX_IRQS → s.routes.contains_key (hash_key e₁) = false →
      (s.add [e₁, e₂] (.ok ())).2 = .ok ()) ∧
    (∀ (g : MsiIrq) (ms : List MsiIrqSourceConfig) (s : KvmIrqRouting)
      (kvm₁ kvm₂ : Except Errno Unit) (cfg : MsiIrqSourceConfig),
      ms.length = g.count.toNat → 0 < ms.length → g.base.toNat + ms.length < 2 ^ 32 →
      s.routes.contains_key (hash_key (new_msi_routing_entry g.base cfg)) = true →
      g.enable (ms.map .MsiIrq) s kvm₁ (.ok ()) = (s, .ok ()) ∧
      (g.disable s kvm₂ (.ok ())).1.routes.contains_key
        (hash_key (new_msi_routing_entry g.base cfg)) = false) := by
  refine ⟨run_ok_synced, ?_, ?_, ?_⟩
  · intro s entries e hcheck
    obtain ⟨hadd, hkeys⟩ := KvmIrqRouting.add_kvm_error hcheck e
    rw [hadd]
    exact ⟨rfl, rfl, by rw [← hadd]; exact hkeys⟩
  · intro s e₁ e₂ hkey h₁ h₂ hfree
    rw [KvmIrqRouting.add_duplicate_batch hkey h₁ h₂ hfree]
    rfl
  · intro g ms s kvm₁ kvm₂ cfg hlen hpos hfit hkey
    exact ⟨g.enable_of_existing kvm₁ (.ok ()) hlen hpos hfit hkey,
      g.disable_removes_first s kvm₂ cfg (hlen ▸ hpos)⟩

/-- An MSI route on GSI 40. -/
def msi40 : kvm_irq_routing_entry := new_msi_routing_entry 40 {}

/-- A group of one MSI interrupt on GSI 40. -/
def group40 : MsiIrq := ⟨40, 1, [{}], by decide, rfl⟩

/-- KVM refusing the table of `add [msi40]` leaves the route in the map and KVM's table empty;
`add [msi40, msi40]` passes; and with `msi40` in the map, enabling and disabling `group40`
removes it. -/
theorem irq_routing_not_transactional_msi40 :
    (KvmIrqRouting.new.add [msi40] (.error EINVAL)).2 = .error EINVAL ∧
    (KvmIrqRouting.new.add [msi40] (.error EINVAL)).1.table = [] ∧
    (KvmIrqRouting.new.add [msi40] (.error EINVAL)).1.routes.contains_key (hash_key msi40) ∧
    (KvmIrqRouting.new.add [msi40, msi40] (.ok ())).2 = .ok () ∧
    group40.enable [.MsiIrq {}] (KvmIrqRouting.new.add [msi40] (.ok ())).1 (.ok ()) (.ok ()) =
      ((KvmIrqRouting.new.add [msi40] (.ok ())).1, .ok ()) ∧
    (group40.disable (KvmIrqRouting.new.add [msi40] (.ok ())).1 (.ok ()) (.ok ())).1.routes.contains_key
      (hash_key msi40) = false := by
  have h := irq_routing_not_transactional
  have hcheck : KvmIrqRouting.new.add_check [msi40] = .ok () := rfl
  obtain ⟨herr, htable, hkeys⟩ := h.2.1 KvmIrqRouting.new [msi40] EINVAL hcheck
  obtain ⟨henable, hdisable⟩ := h.2.2.2 group40 [{}] (KvmIrqRouting.new.add [msi40] (.ok ())).1
    (.ok ()) (.ok ()) {} rfl (by decide) (by decide) rfl
  exact ⟨herr, htable, (hkeys msi40 List.mem_cons_self).2,
    h.2.2.1 KvmIrqRouting.new msi40 msi40 rfl (by decide) (by decide) rfl, henable, hdisable⟩

end KataContainers.Dragonball.Interrupt
