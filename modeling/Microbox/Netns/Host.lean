import Microbox.Netns.Nat

/-!
# The host's interface table and the netlink requests

The netns code changes the host through RTNETLINK requests (`netlink.c`).  Each
request is sent with `NLM_F_ACK`, so the kernel answers with one `NLMSG_ERROR`
message whose `error` field is `0` or a negated `errno`; every caller turns a non-zero
one into `-1`.  `Request.apply` is the kernel's side: the table after the request, or
`none` when the kernel refuses it (`EEXIST` under `NLM_F_CREATE | NLM_F_EXCL`,
`ENODEV` for a missing interface).  A request names its interface where the code sends
the index `if_nametoindex` returned for that name.

`Host` is the host state the netns code reads and writes: the interface table, the
firewall of `Microbox.Netns.Nat`, and the interface of the host's default route, which
`netlink_get_default_interface` finds.
-/

namespace Microbox

/-- The kind of an interface. -/
inductive LinkKind
  /-- A bridge (`IFLA_INFO_KIND "bridge"`). -/
  | bridge
  /-- One end of a veth pair, with the name of the other end. -/
  | veth (peer : String)
  /-- The loopback device (`IFF_LOOPBACK`), `lo` of every namespace. -/
  | loopback
  /-- Any other interface, the physical devices among them. -/
  | other
deriving DecidableEq, Repr

/-- One interface of a network namespace, as far as the modelled requests touch it. -/
structure Link where
  /-- `IFLA_IFNAME`. -/
  name : String
  /-- The kind. -/
  kind : LinkKind
  /-- IPv4 addresses with their prefix lengths. -/
  addrs : List (Nat × Nat)
  /-- `IFF_UP`. -/
  up : Bool
  /-- `IFLA_MASTER`, by name. -/
  master : Option String
deriving DecidableEq, Repr

/-- The interface of a table with the given name. -/
def findLink (links : List Link) (name : String) : Option Link := links.find? (·.name = name)

/-- `if_nametoindex(name) != 0`. -/
def hasLink (links : List Link) (name : String) : Bool := (findLink links name).isSome

/-- Change the interface with the given name. -/
def modifyLink (links : List Link) (name : String) (f : Link → Link) : List Link :=
  links.map fun l => if l.name = name then f l else l

/-- `INADDR_LOOPBACK` with its prefix, `127.0.0.1/8`. -/
def loopbackAddr : Nat × Nat := (ipv4 127 0 0 1, 8)

/-- An interface after `IFF_UP` is set on it.  On the way from down to up the kernel's
`NETDEV_UP` handler (`inetdev_event`) gives a loopback device `127.0.0.1/8`, unless it
already has it; an interface that was up sees no event. -/
def Link.setUp (l : Link) : Link :=
  { l with up := true,
           addrs := if l.kind = .loopback ∧ l.up = false ∧ loopbackAddr ∉ l.addrs then
             l.addrs ++ [loopbackAddr] else l.addrs }

@[simp] theorem Link.setUp_name (l : Link) : l.setUp.name = l.name := rfl

@[simp] theorem Link.setUp_kind (l : Link) : l.setUp.kind = l.kind := rfl

@[simp] theorem Link.setUp_master (l : Link) : l.setUp.master = l.master := rfl

@[simp] theorem Link.setUp_up (l : Link) : l.setUp.up = true := rfl

/-- Bringing an interface up removes none of its addresses. -/
theorem Link.mem_setUp_addrs {l : Link} {a : Nat × Nat} (h : a ∈ l.addrs) :
    a ∈ l.setUp.addrs := by
  unfold Link.setUp; split <;> simp [h]

/-- The one address bringing an interface up can add is the loopback address of a
loopback device. -/
theorem Link.of_mem_setUp_addrs {l : Link} {a : Nat × Nat} (h : a ∈ l.setUp.addrs) :
    a ∈ l.addrs ∨ l.kind = .loopback ∧ a = loopbackAddr := by
  unfold Link.setUp at h
  split at h
  · next hc => simpa [hc.1] using h
  · exact Or.inl h

/-- The RTNETLINK requests of the netns code. -/
inductive Request
  /-- `netlink_create_bridge`: `RTM_NEWLINK`, kind `bridge`, `NLM_F_CREATE | NLM_F_EXCL`. -/
  | newBridge (name : String)
  /-- `netlink_create_veth_pair`: `RTM_NEWLINK`, kind `veth` with its peer. -/
  | newVeth (name peer : String)
  /-- `netlink_add_ip_address`: `RTM_NEWADDR`, `NLM_F_CREATE | NLM_F_EXCL`. -/
  | newAddr (name : String) (addr prefix_len : Nat)
  /-- `netlink_set_interface_up`: `RTM_SETLINK` with `IFF_UP`. -/
  | setUp (name : String)
  /-- `netlink_set_interface_master`: `RTM_SETLINK` with `IFLA_MASTER`. -/
  | setMaster (name master : String)
  /-- `netlink_move_interface_to_netns`: `RTM_SETLINK` with `IFLA_NET_NS_PID`; the
  interface leaves this table. -/
  | setNetns (name : String)
  /-- `netlink_delete_interface`: `RTM_DELLINK`; a veth takes its peer with it. -/
  | delLink (name : String)
deriving DecidableEq, Repr

/-- The kernel's answer to a request: the table after it, or `none` for an error reply. -/
def Request.apply : Request → List Link → Option (List Link)
  | .newBridge name, links =>
    if hasLink links name then none else some (links ++ [⟨name, .bridge, [], false, none⟩])
  | .newVeth name peer, links =>
    if hasLink links name ∨ hasLink links peer ∨ name = peer then none
    else some (links ++ [⟨name, .veth peer, [], false, none⟩, ⟨peer, .veth name, [], false, none⟩])
  | .newAddr name addr prefix_len, links =>
    match findLink links name with
    | none => none
    | some l =>
      if (addr, prefix_len) ∈ l.addrs then none
      else some (modifyLink links name fun l => { l with addrs := l.addrs ++ [(addr, prefix_len)] })
  | .setUp name, links =>
    if hasLink links name then some (modifyLink links name Link.setUp) else none
  | .setMaster name master, links =>
    if hasLink links name ∧ hasLink links master then
      some (modifyLink links name fun l => { l with master := some master })
    else none
  | .setNetns name, links =>
    if hasLink links name then some (links.filter (·.name ≠ name)) else none
  | .delLink name, links =>
    match findLink links name with
    | none => none
    | some l =>
      let peer := match l.kind with
        | .veth peer => some peer
        | _ => none
      some (links.filter fun k => k.name ≠ name ∧ some k.name ≠ peer)

/-- The host state the netns code reads and writes. -/
structure Host where
  /-- The host's interface table. -/
  links : List Link
  /-- The firewall. -/
  firewall : Firewall
  /-- The interface of the IPv4 default route, if the routing table has one. -/
  default_route : Option String

/-! ## Lookups after a change -/

theorem findLink_name {links : List Link} {name : String} {l : Link}
    (h : findLink links name = some l) : l.name = name := by
  simpa using List.find?_some h

theorem findLink_modifyLink (links : List Link) (name other : String) (f : Link → Link)
    (hf : ∀ l, (f l).name = l.name) :
    findLink (modifyLink links name f) other =
      (findLink links other).map fun l => if l.name = name then f l else l := by
  unfold findLink modifyLink
  rw [List.find?_map]
  congr 2
  funext l
  by_cases hl : l.name = name <;> simp [hl, hf]

theorem findLink_modifyLink_self (links : List Link) (name : String) (f : Link → Link)
    (hf : ∀ l, (f l).name = l.name) :
    findLink (modifyLink links name f) name = (findLink links name).map f := by
  rw [findLink_modifyLink _ _ _ _ hf]
  cases h : findLink links name with
  | none => rfl
  | some l => simp [findLink_name h]

theorem findLink_modifyLink_of_ne (links : List Link) {name other : String} (f : Link → Link)
    (hf : ∀ l, (f l).name = l.name) (hne : other ≠ name) :
    findLink (modifyLink links name f) other = findLink links other := by
  rw [findLink_modifyLink _ _ _ _ hf]
  cases h : findLink links other with
  | none => rfl
  | some l => simp [findLink_name h, hne]

theorem hasLink_iff (links : List Link) (name : String) :
    hasLink links name = true ↔ ∃ l, findLink links name = some l := by
  simp [hasLink, Option.isSome_iff_exists]

theorem hasLink_modifyLink (links : List Link) (name other : String) (f : Link → Link)
    (hf : ∀ l, (f l).name = l.name) : hasLink (modifyLink links name f) other = hasLink links other := by
  simp [hasLink, findLink_modifyLink _ _ _ _ hf]

/-- Changing an interface without renaming it keeps the names of the table. -/
theorem modifyLink_names (links : List Link) (name : String) (f : Link → Link)
    (hf : ∀ l, (f l).name = l.name) : (modifyLink links name f).map (·.name) = links.map (·.name) := by
  unfold modifyLink
  rw [List.map_map]
  congr 1
  funext l
  by_cases hl : l.name = name <;> simp [hl, hf]

/-- A missing name occurs in no entry. -/
theorem count_names_of_hasLink_eq_false {links : List Link} {name : String}
    (h : hasLink links name = false) : (links.map (·.name)).count name = 0 := by
  have hnone : findLink links name = none := by simpa [hasLink] using h
  rw [List.count_eq_zero]
  rintro hmem
  obtain ⟨l, hl, rfl⟩ := List.mem_map.mp hmem
  simpa using List.find?_eq_none.mp hnone l hl

/-- A present name occurs in some entry. -/
theorem count_names_pos_of_hasLink {links : List Link} {name : String}
    (h : hasLink links name = true) : 0 < (links.map (·.name)).count name := by
  obtain ⟨l, hl⟩ := (hasLink_iff links name).mp h
  exact List.count_pos_iff.mpr (List.mem_map.mpr ⟨l, List.mem_of_find?_eq_some hl, findLink_name hl⟩)

/-- A successful `RTM_NEWADDR` leaves the address on its interface. -/
theorem Request.apply_newAddr {links links' : List Link} {name : String} {addr prefix_len : Nat}
    (h : (Request.newAddr name addr prefix_len).apply links = some links') :
    ∃ l, findLink links' name = some l ∧ (addr, prefix_len) ∈ l.addrs := by
  simp only [Request.apply] at h
  split at h
  · cases h
  · next l hl =>
    split at h
    · cases h
    · cases h
      refine ⟨{ l with addrs := l.addrs ++ [(addr, prefix_len)] }, ?_, by simp⟩
      rw [findLink_modifyLink_self links name
        (fun l => { l with addrs := l.addrs ++ [(addr, prefix_len)] }) (fun _ => rfl), hl]
      rfl

/-- A successful `RTM_SETLINK ... IFF_UP` brings its interface up, and changes nothing
else about it but the loopback address the kernel adds to a loopback device. -/
theorem Request.apply_setUp {links links' : List Link} {name : String}
    (h : (Request.setUp name).apply links = some links') :
    findLink links' name = (findLink links name).map Link.setUp := by
  simp only [Request.apply] at h
  split at h
  · cases h
    exact findLink_modifyLink_self _ _ _ (fun _ => rfl)
  · cases h

end Microbox
