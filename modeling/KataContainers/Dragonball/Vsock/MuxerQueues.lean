import KataContainers.Dragonball.Vsock.Connection

/-!
# The vsock muxer's queues

The muxer keeps its connections in a hash map keyed by `ConnMapKey` (the host port and the guest
port), and two bounded queues beside it.

The RX queue `MuxerRxQ` says what the muxer yields next: an RST that it builds itself, or the key
of a connection that has something to yield. It is *synced* while every connection with pending
RX is in it. A push that does not fit unsyncs it (`push_synced`), except an RST pushed onto a
queue with no connection item left to evict, which is dropped (`push_dropped`). `from_conn_map`
rebuilds a queue from the connections, synced unless they do not all fit
(`from_conn_map_synced`).

The kill queue `MuxerKillQ` holds the connections scheduled to be killed, in order of their kill
time; it too is synced only while it holds every such connection.

The hash maps are `Std.HashMap`, walked in the order of `toList`; Rust leaves the order of a walk
unspecified, and no result here depends on it.
-/

namespace KataContainers.Dragonball.Vsock.Muxer

open Csm

def MAX_CONNECTIONS : Nat := 1023
def MUXER_RXQ_SIZE : Nat := 256
def MUXER_KILLQ_SIZE : Nat := 128

/-- A unique identifier of a `VsockConnection` object in the connection map. -/
structure ConnMapKey where
  local_port : UInt32
  peer_port : UInt32
  deriving DecidableEq, Hashable, Repr

/-- A muxer RX queue item. -/
inductive MuxerRx
  /-- The packet must be fetched from the connection identified by the key. -/
  | ConnRx (key : ConnMapKey)
  /-- The muxer must produce an RST packet. -/
  | RstPkt (local_port peer_port : UInt32)
  deriving DecidableEq, Repr

def MuxerRx.is_rst : MuxerRx → Bool
  | .RstPkt _ _ => true
  | .ConnRx _ => false

/-- The muxer RX queue. -/
structure MuxerRxQ where
  q : List MuxerRx
  synced : Bool
  deriving DecidableEq, Repr

namespace MuxerRxQ

def SIZE : Nat := MUXER_RXQ_SIZE

instance : Inhabited MuxerRxQ := ⟨⟨[], true⟩⟩

def is_synced (rxq : MuxerRxQ) : Bool := rxq.synced

def len (rxq : MuxerRxQ) : Nat := rxq.q.length

def is_empty (rxq : MuxerRxQ) : Bool := rxq.len == 0

def is_full (rxq : MuxerRxQ) : Bool := rxq.len == SIZE

def peek (rxq : MuxerRxQ) : Option MuxerRx := rxq.q.head?

def pop (rxq : MuxerRxQ) : Option MuxerRx × MuxerRxQ := (rxq.q.head?, { rxq with q := rxq.q.tail })

/-- Build an RX queue from the connections, in the order of the walk: every connection with
pending RX, until the queue is full. -/
def from_conn_map (conn_map : Std.HashMap ConnMapKey VsockConnection) : MuxerRxQ :=
  fill conn_map.toList []
where
  fill : List (ConnMapKey × VsockConnection) → List MuxerRx → MuxerRxQ
    | [], q => ⟨q, true⟩
    | (key, conn) :: rest, q =>
      if !conn.has_pending_rx then fill rest q
      else if q.length ≥ SIZE then ⟨q, false⟩
      else fill rest (q ++ [.ConnRx key])

/-- The first connection item of a list replaced by `rx`; `push` walks the queue from the back. -/
def replace_conn (rx : MuxerRx) : List MuxerRx → Option (List MuxerRx)
  | [] => none
  | .ConnRx _ :: rest => some (rx :: rest)
  | qi :: rest => (replace_conn rx rest).map (qi :: ·)

/-- Push an item; `false` when there was no room for it. An RST that does not fit takes the place
of the last connection item, and the queue loses sync. -/
def push (rxq : MuxerRxQ) (rx : MuxerRx) : MuxerRxQ × Bool :=
  if rxq.is_synced && !rxq.is_full then (⟨rxq.q ++ [rx], rxq.synced⟩, true)
  else
    match rx with
    | .RstPkt _ _ =>
      match replace_conn rx rxq.q.reverse with
      | some q => (⟨q.reverse, false⟩, true)
      | none => (rxq, false)
    | .ConnRx _ => ({ rxq with synced := false }, false)

variable {rxq : MuxerRxQ} {rx : MuxerRx}

theorem replace_conn_some {l l' : List MuxerRx} (h : replace_conn rx l = some l') :
    l'.length = l.length := by
  induction l generalizing l' with
  | nil => cases h
  | cons qi rest ih =>
    cases qi with
    | ConnRx key =>
      cases h
      rfl
    | RstPkt lp pp =>
      obtain ⟨l'', h', rfl⟩ := Option.map_eq_some_iff.mp h
      simp [ih h']

theorem replace_conn_none {l : List MuxerRx} (h : replace_conn rx l = none) :
    ∀ qi ∈ l, qi.is_rst = true := by
  induction l with
  | nil => simp
  | cons qi rest ih =>
    cases qi with
    | ConnRx key => cases h
    | RstPkt lp pp =>
      simp only [replace_conn, Option.map_eq_none_iff] at h
      simpa [MuxerRx.is_rst] using ih h

/-- What a push can do: queue the item at the back of a synced queue with room; put an RST in
the place of the last connection item; drop an RST; or drop a connection item and lose sync. -/
theorem push_cases (rxq : MuxerRxQ) (rx : MuxerRx) :
    (rxq.synced = true ∧ rxq.len ≠ SIZE ∧ rxq.push rx = (⟨rxq.q ++ [rx], true⟩, true)) ∨
    (rx.is_rst = true ∧ ∃ q, replace_conn rx rxq.q.reverse = some q ∧
      rxq.push rx = (⟨q.reverse, false⟩, true)) ∨
    (rx.is_rst = true ∧ replace_conn rx rxq.q.reverse = none ∧ rxq.push rx = (rxq, false)) ∨
    (rx.is_rst = false ∧ rxq.push rx = ({ rxq with synced := false }, false)) := by
  by_cases hs : (rxq.is_synced && !rxq.is_full) = true
  · have hs' := hs
    simp only [is_synced, is_full, Bool.and_eq_true, Bool.not_eq_true', beq_eq_false_iff_ne] at hs'
    refine .inl ⟨hs'.1, hs'.2, ?_⟩
    unfold push
    rw [if_pos hs, hs'.1]
  · cases rx with
    | RstPkt lp pp =>
      cases hr : replace_conn (.RstPkt lp pp) rxq.q.reverse with
      | some q => exact .inr (.inl ⟨rfl, q, rfl, by simp only [push, if_neg hs, hr]⟩)
      | none => exact .inr (.inr (.inl ⟨rfl, rfl, by simp only [push, if_neg hs, hr]⟩))
    | ConnRx key => exact .inr (.inr (.inr ⟨rfl, by simp only [push, if_neg hs]⟩))

/-- A push that leaves the queue synced kept it synced and added at the back: the item itself
when it was queued. -/
theorem push_synced (h : (rxq.push rx).1.synced = true) :
    rxq.synced = true ∧ ∃ extra, (rxq.push rx).1.q = rxq.q ++ extra ∧
      ((rxq.push rx).2 = true → extra = [rx]) := by
  rcases push_cases rxq rx with ⟨hs, -, hp⟩ | ⟨-, q, -, hp⟩ | ⟨-, -, hp⟩ | ⟨-, hp⟩ <;> rw [hp] at h ⊢
  · exact ⟨hs, [rx], rfl, fun _ => rfl⟩
  · cases h
  · exact ⟨h, [], by simp, fun h => by cases h⟩
  · cases h

/-- A connection item pushed onto a queue that stays synced is queued at the back. -/
theorem push_conn_synced {key : ConnMapKey} (h : (rxq.push (.ConnRx key)).1.synced = true) :
    rxq.synced = true ∧ (rxq.push (.ConnRx key)).1.q = rxq.q ++ [.ConnRx key] := by
  rcases push_cases rxq (.ConnRx key) with ⟨hs, -, hp⟩ | ⟨hr, -⟩ | ⟨hr, -⟩ | ⟨-, hp⟩
  · exact ⟨hs, by rw [hp]⟩
  · cases hr
  · cases hr
  · rw [hp] at h
    cases h

/-- A connection item is queued at the back, or not at all. -/
theorem push_conn_q (rxq : MuxerRxQ) (key : ConnMapKey) :
    (rxq.push (.ConnRx key)).1.q = rxq.q ∨ (rxq.push (.ConnRx key)).1.q = rxq.q ++ [.ConnRx key] := by
  rcases push_cases rxq (.ConnRx key) with ⟨-, -, hp⟩ | ⟨hr, -⟩ | ⟨hr, -⟩ | ⟨-, hp⟩
  · exact .inr (by rw [hp])
  · cases hr
  · cases hr
  · exact .inl (by rw [hp])

/-- A dropped item leaves the queue as it was, and an RST is dropped only from a queue holding
nothing but RSTs. -/
theorem push_dropped (h : (rxq.push rx).2 = false) :
    (rxq.push rx).1.q = rxq.q ∧ (rx.is_rst = true → ∀ qi ∈ rxq.q, qi.is_rst = true) := by
  rcases push_cases rxq rx with ⟨-, -, hp⟩ | ⟨-, q, -, hp⟩ | ⟨-, hr, hp⟩ | ⟨hr, hp⟩ <;>
    rw [hp] at h ⊢
  · cases h
  · cases h
  · exact ⟨rfl, fun _ qi hqi => replace_conn_none hr qi (List.mem_reverse.mpr hqi)⟩
  · exact ⟨rfl, fun h => by rw [hr] at h; cases h⟩

/-- A push never lengthens a queue past `SIZE`. -/
theorem push_len (h : rxq.len ≤ SIZE) : (rxq.push rx).1.len ≤ SIZE := by
  rcases push_cases rxq rx with ⟨-, hn, hp⟩ | ⟨-, q, hr, hp⟩ | ⟨-, -, hp⟩ | ⟨-, hp⟩ <;> rw [hp]
  · simp only [len, List.length_append, List.length_singleton] at h hn ⊢
    omega
  · simpa only [len, List.length_reverse, replace_conn_some hr] using h
  · exact h
  · exact h

/-- Whatever `fill` queues stays queued, and when it ends synced it has queued every connection
with pending RX that it walked over. -/
theorem fill_spec (l : List (ConnMapKey × VsockConnection)) (q : List MuxerRx) :
    (∀ qi ∈ q, qi ∈ (from_conn_map.fill l q).q) ∧
      ((from_conn_map.fill l q).synced = true →
        ∀ key conn, (key, conn) ∈ l → conn.has_pending_rx = true →
          .ConnRx key ∈ (from_conn_map.fill l q).q) := by
  induction l generalizing q with
  | nil => simp [from_conn_map.fill]
  | cons kc rest ih =>
    obtain ⟨key, conn⟩ := kc
    simp only [from_conn_map.fill]
    split
    · -- no pending RX: walk on
      next hp =>
      refine ⟨(ih q).1, fun hs k c hm hc => ?_⟩
      rcases List.mem_cons.mp hm with heq | hm
      · cases heq
        simp [hc] at hp
      · exact (ih q).2 hs k c hm hc
    · split
      · -- the queue is full: the walk stops unsynced
        exact ⟨fun qi h => h, fun hs => by cases hs⟩
      · -- queued at the back
        obtain ⟨hkeep, hsync⟩ := ih (q ++ [.ConnRx key])
        refine ⟨fun qi h => hkeep qi (by simp [h]), fun hs k c hm hc => ?_⟩
        rcases List.mem_cons.mp hm with heq | hm
        · cases heq
          exact hkeep _ (by simp)
        · exact hsync hs k c hm hc

/-- A rebuilt queue that is synced holds every connection with pending RX. -/
theorem from_conn_map_synced {conn_map : Std.HashMap ConnMapKey VsockConnection}
    (h : (from_conn_map conn_map).synced = true) {key : ConnMapKey} {conn : VsockConnection}
    (hk : conn_map[key]? = some conn) (hp : conn.has_pending_rx = true) :
    .ConnRx key ∈ (from_conn_map conn_map).q :=
  (fill_spec conn_map.toList []).2 h key conn (Std.HashMap.mem_toList_iff_getElem?_eq_some.mpr hk) hp

theorem fill_len (l : List (ConnMapKey × VsockConnection)) (q : List MuxerRx) (h : q.length ≤ SIZE) :
    (from_conn_map.fill l q).len ≤ SIZE := by
  induction l generalizing q with
  | nil => exact h
  | cons kc rest ih =>
    obtain ⟨key, conn⟩ := kc
    simp only [from_conn_map.fill]
    split
    · exact ih q h
    · split
      · exact h
      · exact ih _ (by simp; omega)

theorem from_conn_map_len (conn_map : Std.HashMap ConnMapKey VsockConnection) :
    (from_conn_map conn_map).len ≤ SIZE :=
  fill_len _ [] (Nat.zero_le _)

end MuxerRxQ

/-- A connection scheduled to be killed at `kill_time`. -/
structure MuxerKillQItem where
  key : ConnMapKey
  kill_time : Nat
  deriving DecidableEq, Repr

/-- The muxer kill queue. -/
structure MuxerKillQ where
  q : List MuxerKillQItem
  synced : Bool
  deriving DecidableEq, Repr

namespace MuxerKillQ

def SIZE : Nat := MUXER_KILLQ_SIZE

instance : Inhabited MuxerKillQ := ⟨⟨[], true⟩⟩

def is_synced (killq : MuxerKillQ) : Bool := killq.synced

def is_empty (killq : MuxerKillQ) : Bool := killq.q.length == 0

def is_full (killq : MuxerKillQ) : Bool := killq.q.length == SIZE

/-- Build a kill queue from the connections that will expire, sorted by kill time; unsynced when
they do not all fit. The sort is stable here, one of the orders an unstable sort may give. -/
def from_conn_map (conn_map : Std.HashMap ConnMapKey VsockConnection) (now : Nat) : MuxerKillQ :=
  let (q, synced) := fill conn_map.toList []
  ⟨q.mergeSort (fun a b => a.kill_time ≤ b.kill_time), synced⟩
where
  fill : List (ConnMapKey × VsockConnection) → List MuxerKillQItem → List MuxerKillQItem × Bool
    | [], q => (q, true)
    | (key, conn) :: rest, q =>
      if !conn.will_expire now then fill rest q
      else if q.length ≥ SIZE then (q, false)
      -- a connection that will expire has an expiry
      else fill rest (q ++ [⟨key, conn.expiry.getD 0⟩])

/-- Schedule a connection to be killed at `kill_time`. -/
def push (killq : MuxerKillQ) (key : ConnMapKey) (kill_time : Nat) : MuxerKillQ :=
  if !killq.is_synced || killq.is_full then { killq with synced := false }
  else { killq with q := killq.q ++ [⟨key, kill_time⟩] }

/-- Pop the connection at the front of the queue, if its kill time has passed. -/
def pop (killq : MuxerKillQ) (now : Nat) : Option ConnMapKey × MuxerKillQ :=
  match killq.q with
  | item :: rest => if now > item.kill_time then (some item.key, { killq with q := rest }) else (none, killq)
  | [] => (none, killq)

theorem pop_length {killq : MuxerKillQ} {now : Nat} {key : ConnMapKey} {killq' : MuxerKillQ}
    (h : killq.pop now = (some key, killq')) : killq'.q.length + 1 = killq.q.length := by
  unfold pop at h
  split at h
  · split at h
    · cases h
      simp_all
    · cases h
  · cases h

end MuxerKillQ

end KataContainers.Dragonball.Vsock.Muxer
