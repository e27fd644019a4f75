import Microbox.Netns.Setup

/-!
# The container side of bridge networking

In bridge mode the child, after the barrier, builds its own `netns_config_t` with
`generate_interface_names(&net_config, getppid())` and calls
`microbox_configure_container_network` (`netns.c`).  That function finds the veth end
the parent moved in by running `ip link show | grep 'mbx.*c@' | ... | head -1`, adds
`config->container_ip` to it, brings it and `lo` up, and adds a default route via
`config->bridge_ip`.

`ContainerNet` is the child's network namespace: its interface table and its default
gateway.  The pipeline is read as the first interface whose `ip link show` name field
matches the pattern; a veth whose peer is in another namespace shows as `NAME@ifN`.

Whatever the child's PID, the address it configures is the one of id `0`,
`172.20.0.2` (`configureContainerNetwork_addr` and `childNetConfig_container_ip`).
-/

namespace Microbox

/-- The child's network namespace. -/
structure ContainerNet where
  /-- Its interface table. -/
  links : List Link
  /-- The gateway of its IPv4 default route. -/
  gateway : Option Nat
deriving DecidableEq, Repr

/-- The loopback interface of a new network namespace. -/
def loopback : Link := ⟨"lo", .loopback, [], false, none⟩

/-- The name field `ip link show` prints for an interface. -/
def ipLinkShowName (l : Link) : String :=
  match l.kind with
  | .veth _ => l.name ++ "@if"
  | _ => l.name

/-- `grep 'mbx.*c@'`: `mbx`, then anything, then `c@`. -/
def grepMbxC (line : String) : Bool :=
  line.toList.tails.any fun t =>
    "mbx".toList.isPrefixOf t && (t.drop 3).tails.any fun u => "c@".toList.isPrefixOf u

/-- `actual_interface`: the first interface the pipeline prints, or `none` when `fgets`
reads nothing. -/
def actualInterface (links : List Link) : Option String :=
  (links.find? fun l => grepMbxC (ipLinkShowName l)).map (·.name)

/-- `netlink_add_default_route(gateway, NULL)`: `RTM_NEWROUTE` with `NLM_F_EXCL`, refused
when a default route exists. -/
def addDefaultRoute (gateway : Nat) (net : ContainerNet) : Option ContainerNet :=
  if net.gateway.isSome then none else some { net with gateway := some gateway }

theorem addDefaultRoute_links {gateway : Nat} {net net' : ContainerNet}
    (h : addDefaultRoute gateway net = some net') : net'.links = net.links := by
  unfold addDefaultRoute at h
  split at h
  · cases h
  · cases h; rfl

/-- `microbox_configure_container_network`: the pipeline (fault bit 0), `netlink_open`
(1), the address, the two links up (2 to 4) and the route (5). -/
def configureContainerNetwork (config : NetnsConfig) (faults : List Bool) (net : ContainerNet) :
    Int × ContainerNet :=
  match if faults.getD 0 false then none else actualInterface net.links with
  | none => (-1, net)
  | some iface =>
    if faults.getD 1 false then (-1, net)
    else
      let links := nlSequence
        [(faults.getD 2 false, .newAddr iface config.container_ip config.prefix_len),
         (faults.getD 3 false, .setUp iface),
         (faults.getD 4 false, .setUp "lo")] net.links
      let net := { net with links := links.2 }
      if links.1 ≠ 0 then (-1, net)
      else match if faults.getD 5 false then none else addDefaultRoute config.bridge_ip net with
        | none => (-1, net)
        | some net => (0, net)

/-! ## Which address -/

/-- Every address a request of the container side adds is its own `newAddr` address. -/
def Request.addsOnly (addr : Nat × Nat) : Request → Prop
  | .newAddr _ a p => (a, p) = addr
  | _ => True

/-- Every address on every interface of a table is `addr`, or the loopback address on
a loopback device. -/
def onlyAddr (addr : Nat × Nat) (links : List Link) : Prop :=
  ∀ l ∈ links, ∀ a ∈ l.addrs, a = addr ∨ l.kind = .loopback ∧ a = loopbackAddr

theorem onlyAddr_modifyLink {addr : Nat × Nat} {links : List Link} (name : String)
    (f : Link → Link) (hkind : ∀ l, (f l).kind = l.kind)
    (hf : ∀ l, ∀ a ∈ (f l).addrs,
      a ∈ l.addrs ∨ a = addr ∨ l.kind = .loopback ∧ a = loopbackAddr)
    (h : onlyAddr addr links) : onlyAddr addr (modifyLink links name f) := by
  intro l hl a ha
  obtain ⟨k, hk, rfl⟩ := List.mem_map.mp hl
  by_cases hn : k.name = name
  · simp only [if_pos hn, hkind] at ha ⊢
    rcases hf k a ha with ha | ha
    · exact h k hk a ha
    · exact ha
  · simp only [if_neg hn] at ha ⊢
    exact h k hk a ha

/-- The requests keep a table whose only address is `addr` so, when they add only `addr`. -/
theorem Request.apply_onlyAddr {addr : Nat × Nat} {req : Request} {links links' : List Link}
    (hreq : req.addsOnly addr) (h : onlyAddr addr links) (happly : req.apply links = some links') :
    onlyAddr addr links' := by
  have hsub : ∀ p : Link → Bool, onlyAddr addr (links.filter p) := fun p l hl =>
    h l (List.mem_filter.mp hl).1
  cases req with
  | newBridge name | newVeth name peer =>
    simp only [Request.apply] at happly
    split at happly
    · cases happly
    · cases happly
      intro l hl a ha
      simp only [List.mem_append, List.mem_cons, List.mem_singleton, List.not_mem_nil,
        or_false] at hl
      rcases hl with hl | rfl | rfl
      · exact h l hl a ha
      all_goals simp at ha
  | newAddr name a p =>
    simp only [Request.apply] at happly
    split at happly
    · cases happly
    · split at happly
      · cases happly
      · cases happly
        refine onlyAddr_modifyLink _ _ (fun _ => rfl) (fun l b hb => ?_) h
        simp only [List.mem_append, List.mem_singleton] at hb
        exact hb.imp_right fun hb => .inl (hb.trans hreq)
  | setUp name =>
    simp only [Request.apply] at happly
    split at happly
    · cases happly
      exact onlyAddr_modifyLink _ _ Link.setUp_kind
        (fun _ _ hb => (Link.of_mem_setUp_addrs hb).imp_right .inr) h
    · cases happly
  | setMaster name master =>
    simp only [Request.apply] at happly
    split at happly
    · cases happly
      exact onlyAddr_modifyLink _ _ (fun _ => rfl) (fun _ _ hb => .inl hb) h
    · cases happly
  | setNetns name =>
    simp only [Request.apply] at happly
    split at happly
    · cases happly
      exact hsub _
    · cases happly
  | delLink name =>
    simp only [Request.apply] at happly
    split at happly
    · cases happly
    · cases happly
      exact hsub _

theorem nlSequence_onlyAddr {addr : Nat × Nat} :
    ∀ (reqs : List (Bool × Request)) (links : List Link), (∀ r ∈ reqs, r.2.addsOnly addr) →
      onlyAddr addr links → onlyAddr addr (nlSequence reqs links).2
  | [], _, _, h => h
  | (fault, req) :: rest, links, hreqs, h => by
    simp only [nlSequence]
    split
    · exact h
    · next links' happly =>
      refine nlSequence_onlyAddr rest links' (fun r hr => hreqs r (List.mem_cons_of_mem _ hr)) ?_
      split at happly
      · cases happly
      · exact Request.apply_onlyAddr (hreqs _ (List.mem_cons_self _ _)) h happly

/-- The container side adds no address but its configuration's. -/
theorem configureContainerNetwork_addr (config : NetnsConfig) (faults : List Bool)
    (net : ContainerNet) (h : onlyAddr (config.container_ip, config.prefix_len) net.links) :
    onlyAddr (config.container_ip, config.prefix_len)
      (configureContainerNetwork config faults net).2.links := by
  unfold configureContainerNetwork
  split
  · exact h
  · next iface _ =>
    have hseq := @nlSequence_onlyAddr (config.container_ip, config.prefix_len)
      [(faults.getD 2 false, .newAddr iface config.container_ip config.prefix_len),
       (faults.getD 3 false, .setUp iface), (faults.getD 4 false, .setUp "lo")] net.links
      (by simp [Request.addsOnly]) h
    dsimp only
    split_ifs
    · exact h
    · exact hseq
    · exact hseq
    · split
      · exact hseq
      · next hroute => rw [addDefaultRoute_links hroute]; exact hseq

/-- The child's address is `172.20.0.2`, whoever its parent is. -/
theorem childNetConfig_container_ip (o : SandboxOptions) (parent : Int) :
    (childNetConfig o parent).container_ip = ipv4 172 20 0 2 := by
  rw [childNetConfig_eq]
  rfl

@[simp] theorem childNetConfig_prefix_len (o : SandboxOptions) (parent : Int) :
    (childNetConfig o parent).prefix_len = 16 := by
  rw [childNetConfig_eq]
  rfl

end Microbox
