import Mathlib.Algebra.Group.Int
import Microbox.Basic

/-!
# Interface names and addresses

`generate_interface_names` (`netns.c`) derives everything a bridge-mode sandbox calls
its own from one number: `id = container_id % 254`, the veth pair `mbx{id}h` and
`mbx{id}c`, the shared bridge `microbox0` with `172.20.0.1/16`, and the container
address `172.20.0.(id + 2)`.  The parent calls it with the child's PID as `clone3`
returned it; the child calls it with `getppid()`.

Addresses are kept in host byte order; the code stores `htonl` of them, which changes
only the representation.  The C arithmetic is kept: `%` on `int` truncates toward
zero, and `MICROBOX_DEFAULT_BRIDGE_IP_SUBNET + interface_id + 2` is `unsigned`.

The child always runs in a new PID namespace (`cloneFlags_newpid`), where its parent
is outside the namespace and `getppid()` returns `0` (`childGetppid`).  So the child's
configuration does not depend on any PID (`childNetConfig_eq`).
-/

namespace Microbox

/-- `netns_config_t`, without `netns_fd`, which no function sets or reads. -/
structure NetnsConfig where
  /-- The bridge, `microbox0`. -/
  bridge_name : String
  /-- The host end of the veth pair. -/
  veth_host : String
  /-- The container end of the veth pair. -/
  veth_container : String
  /-- The container's address. -/
  container_ip : Nat
  /-- The bridge's address, the container's gateway. -/
  bridge_ip : Nat
  /-- The prefix length of both addresses. -/
  prefix_len : Nat
deriving DecidableEq, Repr

/-- The address `a.b.c.d` in host byte order. -/
def ipv4 (a b c d : Nat) : Nat := ((a * 256 + b) * 256 + c) * 256 + d

/-- `MICROBOX_DEFAULT_BRIDGE_IP_SUBNET`, `172.20.0.0`. -/
def MICROBOX_DEFAULT_BRIDGE_IP_SUBNET : Nat := 0xAC140000

/-- `generate_interface_names`, which always returns `0`. -/
def generateInterfaceNames (container_id : Int) : NetnsConfig :=
  let interface_id := container_id.tmod 254
  { bridge_name := "microbox0"
    veth_host := "mbx" ++ toString interface_id ++ "h"
    veth_container := "mbx" ++ toString interface_id ++ "c"
    bridge_ip := MICROBOX_DEFAULT_BRIDGE_IP_SUBNET + 1
    container_ip := ((MICROBOX_DEFAULT_BRIDGE_IP_SUBNET + interface_id + 2) % 2 ^ 32).toNat
    prefix_len := 16 }

@[simp] theorem generateInterfaceNames_bridge_name (container_id : Int) :
    (generateInterfaceNames container_id).bridge_name = "microbox0" := rfl

@[simp] theorem generateInterfaceNames_bridge_ip (container_id : Int) :
    (generateInterfaceNames container_id).bridge_ip = ipv4 172 20 0 1 := rfl

@[simp] theorem generateInterfaceNames_prefix_len (container_id : Int) :
    (generateInterfaceNames container_id).prefix_len = 16 := rfl

/-- For a non-negative id the container address is `172.20.0.(id % 254 + 2)`. -/
theorem generateInterfaceNames_container_ip (container_id : Nat) :
    (generateInterfaceNames container_id).container_ip = ipv4 172 20 0 (container_id % 254 + 2) := by
  have hlt : container_id % 254 < 254 := Nat.mod_lt _ (by decide)
  simp only [generateInterfaceNames, ipv4, MICROBOX_DEFAULT_BRIDGE_IP_SUBNET]
  rw [Int.tmod_eq_emod (Int.ofNat_nonneg _) (by decide)]
  omega

/-! ## The child's configuration -/

/-- `getppid()` in the child of `clone3(flags)` whose parent has PID `parent`: a child
that starts a new PID namespace has its parent outside it and sees `0`. -/
def childGetppid (flags : Nat) (parent : Int) : Int :=
  if flags &&& CLONE_NEWPID ≠ 0 then 0 else parent

/-- The configuration the child builds in bridge mode,
`generate_interface_names(&net_config, getppid())`. -/
def childNetConfig (o : SandboxOptions) (parent : Int) : NetnsConfig :=
  generateInterfaceNames (childGetppid (cloneFlags o) parent)

/-- The child's configuration is that of id `0`, whoever its parent is. -/
theorem childNetConfig_eq (o : SandboxOptions) (parent : Int) :
    childNetConfig o parent = generateInterfaceNames 0 := by
  simp [childNetConfig, childGetppid, cloneFlags_newpid]

end Microbox
