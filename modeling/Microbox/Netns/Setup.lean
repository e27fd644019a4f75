import Microbox.Netns.Bridge

/-!
# The veth pair, its move and its teardown

The rest of the host side of bridge networking, as the parent runs it
(`netns.c`).  `microbox_setup_bridge_network` runs `ensure_bridge_exists` and then
`setup_veth_pair`, which opens a netlink socket, creates `mbx{id}h`/`mbx{id}c`, puts
the host end on `microbox0` and brings it up.  `move_veth_to_container` sends the
container end into the child's network namespace.  `microbox_cleanup_network_interfaces`,
which `microbox_sandbox_wait` calls after the child exits, deletes `mbx{id}h`; the
kernel takes the peer with it.

Each function sends its requests one after another on one handle and gives up with
`-1` at the first failure: `nlSequence`.  A fault bit stands for a failing
`socket`/`bind`, a failing index lookup, or a failing `sendmsg`/`recvmsg`; an error
reply comes from `Request.apply`.  The functions run atomically here: the table they
touch belongs to the parent alone, except `microbox0`, whose races are the subject of
`Microbox.Netns.Race`.

`netlink_delete_interface` treats a failed index lookup as success, so
`microbox_cleanup_network_interfaces` returns `0` with the table unchanged when
`mbx{id}h` is missing.  When it is there, it is deleted, whoever created it
(`microboxCleanupNetworkInterfaces_links`).
-/

namespace Microbox

/-- Requests sent one after another on one handle, each with its fault bit; the first
failure ends the sequence with `-1` and the table as far as it got. -/
def nlSequence : List (Bool × Request) → List Link → Int × List Link
  | [], links => (0, links)
  | (fault, req) :: rest, links =>
    match if fault then none else req.apply links with
    | none => (-1, links)
    | some links' => nlSequence rest links'

/-- `setup_veth_pair`: `netlink_open`, then the three requests. -/
def setupVethPair (config : NetnsConfig) (faults : List Bool) (links : List Link) :
    Int × List Link :=
  if faults.getD 0 false then (-1, links)
  else nlSequence
    [(faults.getD 1 false, .newVeth config.veth_host config.veth_container),
     (faults.getD 2 false, .setMaster config.veth_host config.bridge_name),
     (faults.getD 3 false, .setUp config.veth_host)] links

/-- `microbox_setup_bridge_network`: `ensure_bridge_exists` with the first ten fault
bits, then `setup_veth_pair` with the rest. -/
def microboxSetupBridgeNetwork (config : NetnsConfig) (faults : List Bool) (h : Host) :
    Int × Host :=
  let ensured := ensureBridgeExists config faults h
  if ensured.1 ≠ 0 then (-1, ensured.2)
  else
    let veth := setupVethPair config (faults.drop 10) ensured.2.links
    (veth.1, { ensured.2 with links := veth.2 })

/-- The interface `RTM_SETLINK ... IFLA_NET_NS_PID` takes out of the table, as it
arrives in the target namespace: down, without addresses or master. -/
def movedLink (links : List Link) (name : String) : List Link :=
  (findLink links name).toList.map fun l => { l with addrs := [], up := false, master := none }

/-- `move_veth_to_container`: the host table after it, and the interfaces the
container's namespace gains. -/
def moveVethToContainer (config : NetnsConfig) (faults : List Bool) (links : List Link) :
    Int × List Link × List Link :=
  if faults.getD 0 false then (-1, links, [])
  else
    let moved := nlSequence [(faults.getD 1 false, .setNetns config.veth_container)] links
    (moved.1, moved.2, if moved.1 = 0 then movedLink links config.veth_container else [])

/-- `microbox_cleanup_network_interfaces(container_id)`: `netlink_open`, then
`netlink_delete_interface(veth_host)`, which returns `0` without a request when the
index lookup fails. -/
def microboxCleanupNetworkInterfaces (container_id : Int) (faults : List Bool)
    (links : List Link) : Int × List Link :=
  let config := generateInterfaceNames container_id
  if faults.getD 0 false then (-1, links)
  else if faults.getD 1 false || !hasLink links config.veth_host then (0, links)
  else nlSequence [(faults.getD 2 false, .delLink config.veth_host)] links

/-! ## What each function leaves -/

/-- A sequence of one request leaves the table as it was or as the request makes it. -/
theorem nlSequence_single (fault : Bool) (req : Request) (links : List Link) :
    (nlSequence [(fault, req)] links).2 = links ∨
      req.apply links = some (nlSequence [(fault, req)] links).2 := by
  cases fault
  · cases h : req.apply links <;> simp [nlSequence, h]
  · simp [nlSequence]

/-- What `move_veth_to_container` hands to the container arrives without addresses. -/
theorem moveVethToContainer_addrs (config : NetnsConfig) (faults : List Bool) (links : List Link) :
    ∀ l ∈ (moveVethToContainer config faults links).2.2, l.addrs = [] := by
  unfold moveVethToContainer movedLink
  split_ifs <;> simp
  rintro _ - _ - rfl
  rfl

/-- Teardown changes the table at most by deleting `mbx{id}h` and its peer. -/
theorem microboxCleanupNetworkInterfaces_links (container_id : Int) (faults : List Bool)
    (links : List Link) :
    (microboxCleanupNetworkInterfaces container_id faults links).2 = links ∨
      (Request.delLink (generateInterfaceNames container_id).veth_host).apply links =
        some (microboxCleanupNetworkInterfaces container_id faults links).2 := by
  unfold microboxCleanupNetworkInterfaces
  dsimp only
  split_ifs
  · exact .inl rfl
  · exact .inl rfl
  · exact nlSequence_single _ _ _

end Microbox
