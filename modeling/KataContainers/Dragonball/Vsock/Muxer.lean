import KataContainers.Dragonball.Vsock.MuxerQueues
import KataContainers.Dragonball.Vsock.ConnectionOps

/-!
# The vsock muxer

`VsockMuxer` creates, routes packets to and terminates the `VsockConnection`s between the guest
and the host. Guest packets come in through `send_pkt`: a connection request of the guest makes
a new connection (`handle_peer_request_pkt`), an RST removes one, anything else goes to its
connection, and what cannot be routed gets an RST back. `recv_pkt` builds the next packet for the
guest from the RX queue. A host socket's "connect <port>" command makes a host-initiated
connection on a host port that `allocate_local_port` hands out (`handle_local_connect`).

Every action on a connection goes through `apply_conn_mutation`, which does what must follow any
change of a connection (`after_mutation`): ack a host-initiated connection that has just been
established, queue it for RX or for killing when it newly needs that, and update its epoll
listener.

What the muxer asks of its environment arrives with the state or the call: `epoll` holds the
answers of the coming `epoll_ctl` calls (an exhausted list answers success), and a backend's
`connect` and a host socket's command arrive with the call that reads them. The listeners of
connections are kept under the connection's key, which stands for the descriptor of its stream;
the listeners of backends and of host sockets not yet connected are not kept.
-/

namespace KataContainers.Dragonball.Vsock.Muxer

open Csm

def VSOCK_HOST_CID : UInt64 := 2

inductive Error
  | TooManyConnections
  | EpollAdd
  deriving DecidableEq, Repr

/-- The part of a guest packet that its connection reads. -/
def tx_pkt (pkt : PktHdr) (buf : Option (List UInt8)) : TxPkt :=
  ⟨pkt.op, pkt.flags, pkt.len, pkt.buf_alloc, pkt.fwd_cnt, buf⟩

/-- The vsock connection multiplexer. -/
structure VsockMuxer where
  cid : UInt64
  conn_map : Std.HashMap ConnMapKey VsockConnection
  /-- The event sets of the connections' epoll listeners. -/
  listener_map : Std.HashMap ConnMapKey EventSet
  rxq : MuxerRxQ
  killq : MuxerKillQ
  /-- The answers of the coming `epoll_ctl` calls on the nested epoll descriptor. -/
  epoll : List Bool
  local_port_set : Std.HashSet UInt32
  local_port_last : UInt32
  /-- Whether a backend that accepts guest-initiated connections is registered. -/
  peer_backend : Bool

namespace VsockMuxer

def new (cid : UInt64) (epoll : List Bool) (peer_backend : Bool) : VsockMuxer :=
  ⟨cid, ∅, ∅, default, default, epoll, ∅, ((1 : UInt32) <<< 30) - 1, peer_backend⟩

/-- One `epoll_ctl` call: whether it succeeds. -/
def epoll_ctl (m : VsockMuxer) : VsockMuxer × Bool :=
  match m.epoll with
  | ok :: rest => ({ m with epoll := rest }, ok)
  | [] => (m, true)

/-- Register an epoll listener for a connection. -/
def add_listener (m : VsockMuxer) (key : ConnMapKey) (evset : EventSet) :
    VsockMuxer × Except Error Unit :=
  match m.epoll_ctl with
  | (m, true) => ({ m with listener_map := m.listener_map.insert key evset }, .ok ())
  | (m, false) => (m, .error .EpollAdd)

/-- Remove a connection's epoll listener; a failure of `epoll_ctl` is only logged. -/
def remove_listener (m : VsockMuxer) (key : ConnMapKey) : VsockMuxer :=
  if m.listener_map.contains key then ({ m with listener_map := m.listener_map.erase key }.epoll_ctl).1
  else m

/-- The candidate after `p` of `allocate_local_port`: the ports run over `[2 ^ 30, 2 ^ 31)`. -/
def next_local_port (p : UInt32) : UInt32 :=
  (p + (1 : UInt32)) &&& ~~~((1 : UInt32) <<< 31) ||| ((1 : UInt32) <<< 30)

/-- Allocate a host-side port to a new host-initiated connection: the first candidate after the
last one handed out that is not in `local_port_set`. The candidates cycle through the `2 ^ 30`
ports of their range; when all are taken the loop of the source never ends, and the result is
`none`. -/
def allocate_local_port (m : VsockMuxer) : Option (VsockMuxer × UInt32) :=
  go (2 ^ 30) m
where
  go : Nat → VsockMuxer → Option (VsockMuxer × UInt32)
    | 0, _ => none
    | n + 1, m =>
      let m := { m with local_port_last := next_local_port m.local_port_last }
      if m.local_port_set.contains m.local_port_last then go n m
      else some ({ m with local_port_set := m.local_port_set.insert m.local_port_last },
        m.local_port_last)

def free_local_port (m : VsockMuxer) (port : UInt32) : VsockMuxer :=
  { m with local_port_set := m.local_port_set.erase port }

/-- Enqueue an RST for the guest; when the queue has no room it is dropped. -/
def enq_rst (m : VsockMuxer) (local_port peer_port : UInt32) : VsockMuxer :=
  { m with rxq := (m.rxq.push (.RstPkt local_port peer_port)).1 }

/-- Schedule a connection for immediate termination: it yields an RST next. -/
def kill_connection (m : VsockMuxer) (key : ConnMapKey) : VsockMuxer :=
  let had_rx := match m.conn_map[key]? with
    | some conn => conn.has_pending_rx
    | none => false
  let m := { m with conn_map := m.conn_map.modify key VsockConnection.kill }
  -- no point queueing the connection if it was queued already
  if !had_rx then { m with rxq := (m.rxq.push (.ConnRx key)).1 } else m

/-- Remove a connection from the pool, and free its host port. -/
def remove_connection (m : VsockMuxer) (key : ConnMapKey) : VsockMuxer :=
  let m :=
    if m.conn_map.contains key then { m with conn_map := m.conn_map.erase key }.remove_listener key
    else m
  m.free_local_port key.local_port

/-- Kill the connections whose time has come. A rebuilt kill queue holds only connections that
have not expired, so the sweep that follows a rebuild pops nothing and rebuilds no more: `fuel`
one is the depth of the source's recursion. -/
def sweep_killq (m : VsockMuxer) (now : Nat) : VsockMuxer :=
  sweep 1 m
where
  /-- Pop and kill while the front of the queue has expired; each round pops one item and
  killing changes no other, so the length of the queue is fuel enough. -/
  pop_expired : Nat → VsockMuxer → VsockMuxer
    | 0, m => m
    | n + 1, m =>
      match m.killq.pop now with
      | (some key, killq) =>
        let m := { m with killq }
        -- a disarmed timer stays in the queue: check that the connection has indeed expired
        let kill := match m.conn_map[key]? with
          | some conn => conn.has_expired now
          | none => false
        pop_expired n (if kill then m.kill_connection key else m)
      | (none, _) => m
  sweep : Nat → VsockMuxer → VsockMuxer
    | fuel, m =>
      let m := pop_expired m.killq.q.length m
      match fuel, m.killq.is_empty && !m.killq.is_synced with
      | n + 1, true => sweep n { m with killq := MuxerKillQ.from_conn_map m.conn_map now }
      | _, _ => m

/-- Add a new connection to the pool. -/
def add_connection (m : VsockMuxer) (key : ConnMapKey) (conn : VsockConnection) (now : Nat) :
    VsockMuxer × Except Error Unit :=
  -- make room for the new connection first
  let m := m.sweep_killq now
  if m.conn_map.size ≥ MAX_CONNECTIONS then (m, .error .TooManyConnections)
  else
    match m.add_listener key conn.get_polled_evset with
    | (m, .ok ()) =>
      -- a push that fails only unsyncs the queue
      let m := if conn.has_pending_rx then { m with rxq := (m.rxq.push (.ConnRx key)).1 } else m
      ({ m with conn_map := m.conn_map.insert key conn }, .ok ())
    | (m, .error e) => (m, .error e)

/-- The ack a host-initiated connection sends to its host end once established, "OK <port>"; a
connection that cannot write all of it is killed. -/
def ack_host_end (conn : VsockConnection) (local_port : UInt32) : VsockConnection :=
  let msg := ("OK " ++ toString local_port ++ "\n").toUTF8.toList
  match conn.send_bytes_raw msg with
  | (conn, .ok written) => if written = msg.length then conn else conn.kill
  | (conn, .error _) => conn.kill

/-- Bring a connection's epoll listener up to date with the events it now wants; a connection
whose listener cannot be updated is killed. -/
def update_listener (m : VsockMuxer) (key : ConnMapKey) (new_evset : EventSet) : VsockMuxer :=
  if new_evset.is_empty then m.remove_listener key
  else
    match m.listener_map[key]? with
    | some evset =>
      if evset ≠ new_evset then
        match { m with listener_map := m.listener_map.insert key new_evset }.epoll_ctl with
        | (m, true) => m
        | (m, false) => m.kill_connection key
      else m
    | none =>
      -- the connection had left the listeners and wants back in
      match m.add_listener key new_evset with
      | (m, .ok ()) => m
      | (m, .error _) => m.kill_connection key

/-- What follows a change of the connection at `key` from `conn` to `conn'`. -/
def after_mutation (m : VsockMuxer) (key : ConnMapKey) (now : Nat) (conn conn' : VsockConnection) :
    VsockMuxer :=
  let conn' :=
    if conn.state = .LocalInit ∧ conn'.state = .Established then ack_host_end conn' key.local_port
    else conn'
  let m := { m with conn_map := m.conn_map.insert key conn' }
  let m :=
    if !conn.has_pending_rx && conn'.has_pending_rx then
      { m with rxq := (m.rxq.push (.ConnRx key)).1 }
    else m
  let m :=
    if !conn.will_expire now && conn'.will_expire now then
      -- a connection that will expire has an expiry
      { m with killq := m.killq.push key (conn'.expiry.getD 0) }
    else m
  m.update_listener key conn'.get_polled_evset

/-- Perform an action that may change the connection at `key`, and what follows; the action's
own result, or `none` when there is no such connection. -/
def apply_conn_mutation {α : Type} (m : VsockMuxer) (key : ConnMapKey) (now : Nat)
    (mut_fn : VsockConnection → VsockConnection × α) : VsockMuxer × Option α :=
  match m.conn_map[key]? with
  | none => (m, none)
  | some conn =>
    let (conn', out) := mut_fn conn
    (m.after_mutation key now conn conn', some out)

/-- The RST the muxer builds for an `RstPkt` item. -/
def rst_pkt (m : VsockMuxer) (local_port peer_port : UInt32) : PktHdr :=
  ⟨VSOCK_HOST_CID, m.cid, local_port, peer_port, VSOCK_TYPE_STREAM, VSOCK_OP_RST, 0, 0, 0, 0⟩

/-- A connection's `recv_pkt` as an action: its packet, and whether it has nothing left, in
which case its RX queue item goes. -/
def recv_conn (buf_len : Option Nat) (now : Nat) (conn : VsockConnection) :
    VsockConnection × (Except Csm.VsockError PktHdr × Bool) :=
  let (conn, res) := conn.recv_pkt buf_len now
  (conn, (res, !conn.has_pending_rx))

/-- The loop of `recv_pkt` over the RX queue, until a packet is built or the queue is empty;
`fuel` bounds its rounds. -/
def recv_loop (buf_len : Option Nat) (now : Nat) : Nat → VsockMuxer →
    VsockMuxer × Except Csm.VsockError PktHdr
  | 0, m => (m, .error .NoData)
  | fuel + 1, m =>
    match m.rxq.peek with
    | none => (m, .error .NoData)
    | some (.RstPkt local_port peer_port) =>
      ({ m with rxq := m.rxq.pop.2 }, .ok (m.rst_pkt local_port peer_port))
    | some (.ConnRx key) =>
      match m.apply_conn_mutation key now (recv_conn buf_len now) with
      | (m, out) =>
        let (res, do_pop) := out.getD (.error .NoData, true)
        let m := if do_pop then { m with rxq := m.rxq.pop.2 } else m
        match res with
        | .ok pkt =>
          -- an RST ends its connection: drop it from the pool
          ((if pkt.op = VSOCK_OP_RST then m.remove_connection ⟨pkt.src_port, pkt.dst_port⟩ else m),
            .ok pkt)
        | .error _ => recv_loop buf_len now fuel m

/-- Deliver a packet to the guest, into an RX buffer of `buf_len` bytes. -/
def recv_pkt (m : VsockMuxer) (buf_len : Option Nat) (now fuel : Nat) :
    VsockMuxer × Except Csm.VsockError PktHdr :=
  -- an empty queue out of sync may still leave connections with pending RX: rebuild it first
  let m :=
    if m.rxq.is_empty && !m.rxq.is_synced then { m with rxq := MuxerRxQ.from_conn_map m.conn_map }
    else m
  recv_loop buf_len now fuel m

/-- A connection request from the guest: connect to the peer backend and add the connection, or
send an RST back. -/
def handle_peer_request_pkt (m : VsockMuxer) (pkt : PktHdr) (connect : Option HostStream)
    (now : Nat) : VsockMuxer :=
  if !m.peer_backend then m.enq_rst pkt.dst_port pkt.src_port
  else
    match connect with
    | none => m.enq_rst pkt.dst_port pkt.src_port
    | some stream =>
      match m.add_connection ⟨pkt.dst_port, pkt.src_port⟩
          (.new_peer_init stream VSOCK_HOST_CID m.cid pkt.dst_port pkt.src_port pkt.buf_alloc) now with
      | (m, .ok ()) => m
      | (m, .error _) => m.enq_rst pkt.dst_port pkt.src_port

/-- Deliver a guest packet to its destination; `connect` is what the peer backend answers a
connection request with. -/
def send_pkt (m : VsockMuxer) (pkt : PktHdr) (buf : Option (List UInt8))
    (connect : Option HostStream) (now : Nat) : VsockMuxer :=
  let conn_key : ConnMapKey := ⟨pkt.dst_port, pkt.src_port⟩
  if pkt.type ≠ VSOCK_TYPE_STREAM then m.enq_rst pkt.dst_port pkt.src_port
  -- packets for other CIDs are dropped
  else if pkt.dst_cid ≠ VSOCK_HOST_CID then m
  else if !m.conn_map.contains conn_key then
    -- the only unroutable packets handled are connection requests
    if pkt.op = VSOCK_OP_REQUEST then m.handle_peer_request_pkt pkt connect now
    else m.enq_rst pkt.dst_port pkt.src_port
  else if pkt.op = VSOCK_OP_RST then m.remove_connection conn_key
  else (m.apply_conn_mutation conn_key now fun conn => (conn.send_pkt (tx_pkt pkt buf) now, ())).1

/-- An event on a connection's listener, delivered to the connection. -/
def handle_conn_event (m : VsockMuxer) (key : ConnMapKey) (evset : EventSet) (now : Nat) :
    VsockMuxer :=
  if m.listener_map.contains key then
    (m.apply_conn_mutation key now fun conn => (conn.notify evset, ())).1
  else m

/-- A host socket's "connect <port>" command: a host-initiated connection to the guest's
`peer_port`, on a newly allocated host port. -/
def handle_local_connect (m : VsockMuxer) (peer_port : UInt32) (stream : HostStream) (now : Nat) :
    VsockMuxer :=
  match m.allocate_local_port with
  | some (m, local_port) =>
    (m.add_connection ⟨local_port, peer_port⟩
      (.new_local_init stream VSOCK_HOST_CID m.cid local_port peer_port) now).1
  | none => m

/-- A host socket's "passfd" command and the port sent with the descriptor: the same over the
descriptor passed. The port is allocated before the descriptor is made non-blocking, and stays
allocated when that fails. -/
def handle_passfd_connect (m : VsockMuxer) (peer_port : UInt32) (stream : HostStream)
    (nonblock_ok : Bool) (now : Nat) : VsockMuxer :=
  match m.allocate_local_port with
  | some (m, local_port) =>
    if nonblock_ok then
      (m.add_connection ⟨local_port, peer_port⟩
        (.new_local_init stream VSOCK_HOST_CID m.cid local_port peer_port) now).1
    else m
  | none => m

end VsockMuxer

end KataContainers.Dragonball.Vsock.Muxer
