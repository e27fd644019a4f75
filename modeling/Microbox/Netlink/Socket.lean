import Microbox.Netlink.Dump

/-!
# Netlink handles and their replies

A `netlink_handle_t` is a socket and the counter `handle->seq`.  Every request of `netlink.c`
but the route dump is sent with `NLM_F_ACK`, and the kernel queues exactly one reply datagram
for it on the socket; for the dump of `netlink_get_default_interface` it queues the dump's
datagrams.  Each datagram carries the `nlmsg_seq` of the request it answers, but the code never
compares it: `netlink_recv_response` returns whatever datagram is at the head of the queue.

`netlinkAckRequest` is an `NLM_F_ACK` request, parametrised by what its interface lookup
returns when it ends the call before the request, and `netlinkGetDefaultInterface` the dump.
Each operation's `reads` pairs the `seq` it sent with the `seq` of every datagram it read.  An
`OpEnv` says what the host does during one operation: whether the lookup ends it, whether
`sendmsg` fails, what the kernel answers, and what each `recvmsg` does, a failure that leaves
the queue as it is included.

The routines of `netns.c` open a handle, run their operations until the first that does not
return `0`, and close the handle, which drops whatever is still queued (`runHandle`).  An ACK
request that returns `0` leaves the queue empty (`netlinkAckRequest_queue`), and the dump, which
may leave datagrams behind, is the last operation of its routine.  So every datagram an
operation reads answers its own request, and every operation does what it would do on a socket
of its own, with nothing queued before its request (`runIsolated`, `netnsHandle_own_replies`).
-/

namespace Microbox

/-- A datagram on a netlink socket's receive queue. -/
structure Datagram where
  /-- The `nlmsg_seq` of the request it answers, which the kernel copies into its messages. -/
  seq : Nat
  /-- Its bytes, as `recvmsg` leaves them in `buffer`. -/
  buf : List UInt8
  /-- Its length, what `recvmsg` returns. -/
  bytes : Nat
deriving DecidableEq, Repr

/-- A `netlink_handle_t` with its socket: `handle->seq`, and the datagrams the kernel has queued
on `handle->fd` that nobody has read. -/
structure NetlinkHandle where
  /-- `handle->seq`. -/
  seq : Nat
  /-- The socket's receive queue. -/
  queue : List Datagram
deriving DecidableEq, Repr

/-- `netlink_open`: a new socket with nothing queued, and `handle->seq = 1`. -/
def netlinkOpen : NetlinkHandle := ⟨1, []⟩

/-- What one `recvmsg` does. -/
inductive Recv
  /-- It returns the datagram at the head of the queue, blocking while there is none. -/
  | ok
  /-- It returns `-1` and leaves the queue as it is (`EINTR`, `ENOBUFS`, ...). -/
  | fails
  /-- The head datagram did not fit the buffer: it is consumed, and `MSG_TRUNC` makes
  `netlink_recv_response` return `-1`. -/
  | truncated
deriving DecidableEq, Repr

/-- `netlink_recv_response`: the datagram read (`none` for `-1`) and the queue after it;
`none` while `recvmsg` blocks on an empty queue. -/
def netlinkRecvResponse : Recv → List Datagram → Option (Option Datagram × List Datagram)
  | .fails, queue => some (none, queue)
  | _, [] => none
  | .ok, d :: queue => some (some d, queue)
  | .truncated, _ :: queue => some (none, queue)

/-- What the host does during one netlink operation. -/
structure OpEnv where
  /-- The interface lookup before the request ends the operation. -/
  early : Bool
  /-- `sendmsg` fails. -/
  sendFails : Bool
  /-- The bytes and length of the kernel's one reply to an `NLM_F_ACK` request. -/
  reply : List UInt8 × Nat
  /-- The bytes and lengths of the datagrams of the kernel's answer to a dump. -/
  dump : List (List UInt8 × Nat)
  /-- What each `recvmsg` of the operation does, in order. -/
  recvs : List Recv
  /-- `if_indextoname` on the host. -/
  ifName : Int → Option String

/-- What one operation did. -/
structure OpResult where
  /-- Its return value; `none` while it waits in `recvmsg`. -/
  ret : Option Int
  /-- The handle after it. -/
  handle : NetlinkHandle
  /-- For each datagram it read, the `seq` it sent and the datagram's. -/
  reads : List (Nat × Nat)
  /-- The name it wrote to its `iface` argument; only the route dump has one. -/
  iface : Option String

/-- The check after the `recvmsg` of an `NLM_F_ACK` request: `-1` for an `NLMSG_ERROR` whose
`err->error` is not `0`, and `0` for anything else. -/
def ackResult (buf : List UInt8) : Int :=
  if u16 buf 4 = NLMSG_ERROR ∧ i32 buf 16 ≠ 0 then -1 else 0

/-- An `NLM_F_ACK` request of `netlink.c`: the interface lookup, which may end the call with
`early`; `req.nh.nlmsg_seq = handle->seq++`; `netlink_send_request`; the kernel's one reply;
`netlink_recv_response`; and the check of what it read. -/
def netlinkAckRequest (early : Option Int) (env : OpEnv) (h : NetlinkHandle) : OpResult :=
  match early, env.early with
  | some r, true => ⟨some r, h, [], none⟩
  | _, _ =>
    let seq := h.seq
    if env.sendFails then ⟨some (-1), ⟨seq + 1, h.queue⟩, [], none⟩
    else
      let queue := h.queue ++ [⟨seq, env.reply.1, env.reply.2⟩]
      match env.recvs with
      | [] => ⟨none, ⟨seq + 1, queue⟩, [], none⟩
      | r :: _ =>
        match netlinkRecvResponse r queue with
        | none => ⟨none, ⟨seq + 1, queue⟩, [], none⟩
        | some (none, queue) => ⟨some (-1), ⟨seq + 1, queue⟩, [], none⟩
        | some (some d, queue) => ⟨some (ackResult d.buf), ⟨seq + 1, queue⟩, [(seq, d.seq)], none⟩

/-- `netlink_create_bridge`: `0` without a request when `netlink_interface_exists` finds the
bridge. -/
def netlinkCreateBridge : OpEnv → NetlinkHandle → OpResult := netlinkAckRequest (some 0)

/-- `netlink_create_veth_pair`: no lookup. -/
def netlinkCreateVethPair : OpEnv → NetlinkHandle → OpResult := netlinkAckRequest none

/-- `netlink_add_ip_address`: `-1` when the interface has no index. -/
def netlinkAddIpAddress : OpEnv → NetlinkHandle → OpResult := netlinkAckRequest (some (-1))

/-- `netlink_set_interface_up`, that is `netlink_set_interface_state(handle, name, 1)`: `-1`
when the interface has no index. -/
def netlinkSetInterfaceUp : OpEnv → NetlinkHandle → OpResult := netlinkAckRequest (some (-1))

/-- `netlink_set_interface_master`: `-1` when the interface or the master has no index. -/
def netlinkSetInterfaceMaster : OpEnv → NetlinkHandle → OpResult := netlinkAckRequest (some (-1))

/-- `netlink_delete_interface`: `0` without a request when the interface has no index. -/
def netlinkDeleteInterface : OpEnv → NetlinkHandle → OpResult := netlinkAckRequest (some 0)

/-- `netlink_move_interface_to_netns`: `-1` when the interface has no index. -/
def netlinkMoveInterfaceToNetns : OpEnv → NetlinkHandle → OpResult :=
  netlinkAckRequest (some (-1))

/-- `netlink_add_default_route`: its lookup of `iface` only decides whether `RTA_OIF` is added,
and `netns.c` passes `NULL`. -/
def netlinkAddDefaultRoute : OpEnv → NetlinkHandle → OpResult := netlinkAckRequest none

/-- What the receive loop of `netlink_get_default_interface` did. -/
structure DumpResult where
  /-- Its return value; `none` while it waits in `recvmsg`. -/
  ret : Option Int
  /-- The `RTA_OIF` index it found, whose name `if_indextoname` wrote to `iface`. -/
  found : Option Int
  /-- The receive queue after it. -/
  queue : List Datagram
  /-- For each datagram it read, the `seq` it sent and the datagram's. -/
  reads : List (Nat × Nat)

/-- The `while (1)` loop of `netlink_get_default_interface` for the request `seq`, with `walk`
how the walk of a datagram ends: receive a datagram and walk it, until a walk ends the function:
`0` for a route whose interface `if_indextoname` knows, `-1` at `NLMSG_DONE` (`ENOENT`) and at
`NLMSG_ERROR`. -/
def dumpLoop (walk : Datagram → WalkEnd) (seq : Nat) : List Recv → List Datagram → DumpResult
  | [], queue => ⟨none, none, queue, []⟩
  | r :: recvs, queue =>
    match netlinkRecvResponse r queue with
    | none => ⟨none, none, queue, []⟩
    | some (none, queue) => ⟨some (-1), none, queue, []⟩
    | some (some d, queue) =>
      match walk d with
      | .more =>
        let rest := dumpLoop walk seq recvs queue
        ⟨rest.ret, rest.found, rest.queue, (seq, d.seq) :: rest.reads⟩
      | .found ifindex => ⟨some 0, some ifindex, queue, [(seq, d.seq)]⟩
      | .done => ⟨some (-1), none, queue, [(seq, d.seq)]⟩
      | .error _ => ⟨some (-1), none, queue, [(seq, d.seq)]⟩
      | .outOfFuel => ⟨none, none, queue, [(seq, d.seq)]⟩

/-- `netlink_get_default_interface`: the dump request with `handle->seq++`, then the loop over
the datagrams the kernel queued for it; `iface` gets the name of the index the loop found. -/
def netlinkGetDefaultInterface (env : OpEnv) (h : NetlinkHandle) : OpResult :=
  let seq := h.seq
  if env.sendFails then ⟨some (-1), ⟨seq + 1, h.queue⟩, [], none⟩
  else
    let loop := dumpLoop (fun d => (getDefaultInterfaceWalk d.buf d.bytes env.ifName).1) seq
      env.recvs (h.queue ++ env.dump.map fun d => ⟨seq, d.1, d.2⟩)
    ⟨loop.ret, ⟨seq + 1, loop.queue⟩, loop.reads, loop.found.bind env.ifName⟩

/-- The netlink operations of `netns.c`. -/
inductive NetlinkOp
  | createBridge
  | createVethPair
  | addIpAddress
  | setInterfaceUp
  | setInterfaceMaster
  | deleteInterface
  | moveInterfaceToNetns
  | addDefaultRoute
  | getDefaultInterface
deriving DecidableEq, Repr

/-- The function of `netlink.c` an operation calls. -/
def NetlinkOp.run : NetlinkOp → OpEnv → NetlinkHandle → OpResult
  | .createBridge => netlinkCreateBridge
  | .createVethPair => netlinkCreateVethPair
  | .addIpAddress => netlinkAddIpAddress
  | .setInterfaceUp => netlinkSetInterfaceUp
  | .setInterfaceMaster => netlinkSetInterfaceMaster
  | .deleteInterface => netlinkDeleteInterface
  | .moveInterfaceToNetns => netlinkMoveInterfaceToNetns
  | .addDefaultRoute => netlinkAddDefaultRoute
  | .getDefaultInterface => netlinkGetDefaultInterface

/-- The operation sends an `NLM_F_ACK` request. -/
def NetlinkOp.acked : NetlinkOp → Bool
  | .getDefaultInterface => false
  | _ => true

/-- A routine's operations on one handle from `env i` on, until the first that does not return
`0`; the routine then calls `netlink_close`, which drops the queue. -/
def runHandle (env : Nat → OpEnv) : Nat → List NetlinkOp → NetlinkHandle → OpResult
  | _, [], h => ⟨some 0, h, [], none⟩
  | i, op :: ops, h =>
    let r := op.run (env i) h
    if r.ret = some 0 then
      let rest := runHandle env (i + 1) ops r.handle
      ⟨rest.ret, rest.handle, r.reads ++ rest.reads, rest.iface⟩
    else r

/-- The same operations as if each had a socket of its own, with nothing queued before its
request, and `handle->seq` carried on: what each returns depends on the answer to its own
request only. -/
def runIsolated (env : Nat → OpEnv) : Nat → List NetlinkOp → NetlinkHandle → OpResult
  | _, [], h => ⟨some 0, h, [], none⟩
  | i, op :: ops, h =>
    let r := op.run (env i) ⟨h.seq, []⟩
    if r.ret = some 0 then
      let rest := runIsolated env (i + 1) ops r.handle
      ⟨rest.ret, rest.handle, r.reads ++ rest.reads, rest.iface⟩
    else r

/-- `nl_handle` of `ensure_bridge_exists`; its `check_handle` only calls `if_nametoindex`. -/
def ensureBridgeExistsOps : List NetlinkOp := [.createBridge, .addIpAddress, .setInterfaceUp]

/-- `route_handle` of `setup_nat`. -/
def setupNatOps : List NetlinkOp := [.getDefaultInterface]

/-- `setup_veth_pair`. -/
def setupVethPairOps : List NetlinkOp := [.createVethPair, .setInterfaceMaster, .setInterfaceUp]

/-- `microbox_cleanup_network_interfaces`. -/
def cleanupNetworkInterfacesOps : List NetlinkOp := [.deleteInterface]

/-- `move_veth_to_container`. -/
def moveVethToContainerOps : List NetlinkOp := [.moveInterfaceToNetns]

/-- `microbox_configure_container_network`: the container's address, its interface and `lo` up,
and the default route. -/
def configureContainerNetworkOps : List NetlinkOp :=
  [.addIpAddress, .setInterfaceUp, .setInterfaceUp, .addDefaultRoute]

/-- Every handle the routines of `netns.c` open and send requests on. -/
def netnsHandleOps : List (List NetlinkOp) :=
  [ensureBridgeExistsOps, setupNatOps, setupVethPairOps, cleanupNetworkInterfacesOps,
    moveVethToContainerOps, configureContainerNetworkOps]

/-! ## Each operation reads its own replies -/

theorem netlinkRecvResponse_mem {r : Recv} {queue queue' : List Datagram} {o : Option Datagram}
    (h : netlinkRecvResponse r queue = some (o, queue')) :
    (∀ d ∈ o, d ∈ queue) ∧ ∀ d ∈ queue', d ∈ queue := by
  cases r <;> rcases queue with _ | ⟨e, queue⟩ <;> simp [netlinkRecvResponse] at h <;>
    obtain ⟨rfl, rfl⟩ := h <;> simp_all

/-- An `NLM_F_ACK` request on a handle with nothing queued reads at most its own reply, and
when it returns `0` it leaves nothing queued. -/
theorem netlinkAckRequest_queue {early : Option Int} {env : OpEnv} {h : NetlinkHandle}
    (hq : h.queue = []) :
    (∀ p ∈ (netlinkAckRequest early env h).reads, p.1 = p.2) ∧
      ((netlinkAckRequest early env h).ret = some 0 →
        (netlinkAckRequest early env h).handle.queue = []) := by
  unfold netlinkAckRequest
  split
  · simp [hq]
  · rw [hq]
    split_ifs
    · simp
    · rcases env.recvs with _ | ⟨r, _⟩
      · simp
      · cases r <;> simp [netlinkRecvResponse]

/-- The dump loop only reads datagrams of its own request while the queue holds nothing else. -/
theorem dumpLoop_reads {walk : Datagram → WalkEnd} {seq : Nat} :
    ∀ {recvs : List Recv} {queue : List Datagram}, (∀ d ∈ queue, d.seq = seq) →
      ∀ p ∈ (dumpLoop walk seq recvs queue).reads, p = (seq, seq)
  | [], _, _ => by simp [dumpLoop]
  | r :: recvs, queue, hq => by
    unfold dumpLoop
    split
    · simp
    · simp
    · next d queue' hrecv =>
      obtain ⟨hd, hq'⟩ := netlinkRecvResponse_mem hrecv
      have hseq : d.seq = seq := hq d (hd d rfl)
      have hrest := @dumpLoop_reads walk seq recvs queue' fun e he => hq e (hq' e he)
      split
      · rintro p (_ | ⟨_, hp⟩)
        · rw [hseq]
        · exact hrest p hp
      all_goals simp [hseq]

theorem netlinkGetDefaultInterface_reads {env : OpEnv} {h : NetlinkHandle} (hq : h.queue = []) :
    ∀ p ∈ (netlinkGetDefaultInterface env h).reads, p.1 = p.2 := by
  unfold netlinkGetDefaultInterface
  split_ifs
  · simp
  · intro p hp
    refine (dumpLoop_reads (fun d hd => ?_) p hp).symm ▸ rfl
    simp only [hq, List.nil_append, List.mem_map] at hd
    obtain ⟨_, _, rfl⟩ := hd
    rfl

/-- One operation on a handle with nothing queued reads only its own replies, and an ACK
request that returns `0` leaves nothing queued. -/
theorem NetlinkOp.run_queue (op : NetlinkOp) {env : OpEnv} {h : NetlinkHandle}
    (hq : h.queue = []) :
    (∀ p ∈ (op.run env h).reads, p.1 = p.2) ∧
      (op.acked → (op.run env h).ret = some 0 → (op.run env h).handle.queue = []) := by
  cases op
  case getDefaultInterface => exact ⟨netlinkGetDefaultInterface_reads hq, by simp [NetlinkOp.acked]⟩
  all_goals exact ⟨(netlinkAckRequest_queue hq).1, fun _ => (netlinkAckRequest_queue hq).2⟩

/-! ## Whole routines -/

/-- A routine that sends only ACK requests before its last operation, started on a handle with
nothing queued, reads only the replies to its own requests. -/
theorem runHandle_own_replies (env : Nat → OpEnv) :
    ∀ {i : Nat} {ops : List NetlinkOp} {h : NetlinkHandle}, h.queue = [] →
      (∀ op ∈ ops.dropLast, op.acked) → ∀ p ∈ (runHandle env i ops h).reads, p.1 = p.2
  | _, [], _, _, _ => by simp [runHandle]
  | i, op :: ops, h, hq, hacked => by
    obtain ⟨hreads, hqueue⟩ := @NetlinkOp.run_queue op (env i) h hq
    simp only [runHandle]
    split_ifs with hret
    · rintro p hp
      rcases List.mem_append.mp hp with hp | hp
      · exact hreads p hp
      · cases ops with
        | nil => simp [runHandle] at hp
        | cons op' ops =>
          exact runHandle_own_replies env (hqueue (hacked op (by simp)) hret)
            (fun o ho => hacked o (by simp [ho])) p hp
    · exact hreads

/-- Each routine's dump, if it has one, is its last operation. -/
theorem netnsHandleOps_acked : ∀ ops ∈ netnsHandleOps, ∀ op ∈ ops.dropLast, op.acked := by
  decide

/-- A routine that sends only ACK requests before its last operation, started on a handle with
nothing queued, does what it would do with a socket for each operation. -/
theorem runHandle_eq_runIsolated (env : Nat → OpEnv) :
    ∀ {i : Nat} {ops : List NetlinkOp} {h : NetlinkHandle}, h.queue = [] →
      (∀ op ∈ ops.dropLast, op.acked) → runHandle env i ops h = runIsolated env i ops h
  | _, [], _, _, _ => rfl
  | i, op :: ops, ⟨seq, _⟩, rfl, hacked => by
    have hqueue := (@NetlinkOp.run_queue op (env i) ⟨seq, []⟩ rfl).2
    simp only [runHandle, runIsolated]
    split_ifs with hret
    · cases ops with
      | nil => rfl
      | cons op' ops =>
        rw [runHandle_eq_runIsolated env (hqueue (hacked op (by simp)) hret)
          (fun o ho => hacked o (by simp [ho]))]
    · rfl

/-- Every datagram an operation of a `netns.c` routine reads answers that operation's own
request, and the routine does what it would do with a socket of its own for each operation,
under every behaviour of the host and the kernel. -/
theorem netnsHandle_own_replies {ops : List NetlinkOp} (hops : ops ∈ netnsHandleOps)
    (env : Nat → OpEnv) : (∀ p ∈ (runHandle env 0 ops netlinkOpen).reads, p.1 = p.2) ∧
      runHandle env 0 ops netlinkOpen = runIsolated env 0 ops netlinkOpen :=
  ⟨runHandle_own_replies env rfl (netnsHandleOps_acked ops hops),
    runHandle_eq_runIsolated env rfl (netnsHandleOps_acked ops hops)⟩

/-- `ensure_bridge_exists` on a host where every call succeeds and every reply is empty. -/
theorem netnsHandle_own_replies_ensureBridge :
    let env : Nat → OpEnv := fun _ => ⟨false, false, ([], 0), [], [.ok], fun _ => none⟩
    ensureBridgeExistsOps ∈ netnsHandleOps ∧
      (∀ p ∈ (runHandle env 0 ensureBridgeExistsOps netlinkOpen).reads, p.1 = p.2) ∧
        runHandle env 0 ensureBridgeExistsOps netlinkOpen =
          runIsolated env 0 ensureBridgeExistsOps netlinkOpen :=
  ⟨by decide, netnsHandle_own_replies (by decide) _⟩

end Microbox
