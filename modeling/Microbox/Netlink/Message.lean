import Microbox.Netlink.Request
import Microbox.Netlink.Dump

/-!
# The requests with a family header

`netlink_set_interface_state`, `netlink_delete_interface`, `netlink_set_interface_master`,
`netlink_add_ip_address`, `netlink_add_default_route`, `netlink_move_interface_to_netns` and
the route dump of `netlink_get_default_interface` (`netlink.c`) fill a zeroed `req` the same
way.  The header gets `nlmsg_len =
NLMSG_LENGTH(sizeof family)`, its type and flags, `handle->seq++` and `getpid()`; the family
header (`ifinfomsg`, `ifaddrmsg` or `rtmsg`) gets the fields the request sets; and each
attribute, all with a 4-byte payload, is written at `req.data + len` with `rta_len =
RTA_LENGTH(4)` before `len += RTA_ALIGN(rta->rta_len)`.  At the end `len` is added to
`nlmsg_len`, and `netlink_send_request` sends the first `nlmsg_len` bytes of `req`
(`netlinkSendRequest`).  `familyReq` is that shape, and each function's request is `familyReq` at
its own values.

`Message.decode` reads a datagram as one request the way `rtnetlink` reads it: the header,
the family header its type calls for, and then the attributes by `RTA_OK` and `RTA_NEXT`,
here with no byte left over.  `familyReq_decode` says the shape decodes to exactly what was
written, whatever the values within their C types; `FamilyRequest.decode_sent` takes it to each
function.  Two C conversions show in what the kernel reads: `ifa_prefixlen` is a `__u8`
assigned from an `int`, so it is the prefix length modulo 256, and `ifa_index` a `__u32`
assigned from the `int` index.
-/

namespace Microbox

/-! ## Fields at an offset -/

theorem u16_drop (bs : List UInt8) (k off : Nat) : u16 (bs.drop k) off = u16 bs (k + off) := by
  simp only [u16, List.getD_eq_getElem?_getD, List.getElem?_drop, Nat.add_assoc]

theorem u32_drop (bs : List UInt8) (k off : Nat) : u32 (bs.drop k) off = u32 bs (k + off) := by
  simp only [u32, u16_drop, Nat.add_assoc]

theorem i32_drop (bs : List UInt8) (k off : Nat) : i32 (bs.drop k) off = i32 bs (k + off) := by
  simp only [i32, u32_drop]

theorem getD_drop (bs : List UInt8) (k off : Nat) : (bs.drop k).getD off 0 = bs.getD (k + off) 0 := by
  simp only [List.getD_eq_getElem?_getD, List.getElem?_drop]

/-- The field at `k + off` of `a ++ rest`, with `a` of length `k`, is the field at `off` of
`rest`. -/
theorem u16_append_at {a rest : List UInt8} {k : Nat} (ha : a.length = k) (off : Nat) :
    u16 (a ++ rest) (k + off) = u16 rest off := by
  rw [← u16_drop, List.drop_left' ha]

theorem u32_append_at {a rest : List UInt8} {k : Nat} (ha : a.length = k) (off : Nat) :
    u32 (a ++ rest) (k + off) = u32 rest off := by
  rw [← u32_drop, List.drop_left' ha]

theorem i32_append_at {a rest : List UInt8} {k : Nat} (ha : a.length = k) (off : Nat) :
    i32 (a ++ rest) (k + off) = i32 rest off := by
  rw [← i32_drop, List.drop_left' ha]

/-! ## `int` fields -/

/-- An `int` in four bytes: two's complement, least significant byte first. -/
def leInt (v : Int) : List UInt8 := le32 (v % 4294967296).toNat

@[simp] theorem length_leInt (v : Int) : (leInt v).length = 4 := rfl

/-- The values of a C `int`. -/
def IsInt (v : Int) : Prop := -2147483648 ≤ v ∧ v < 2147483648

instance (v : Int) : Decidable (IsInt v) := inferInstanceAs (Decidable (_ ∧ _))

theorem i32_leInt_append {v : Int} (hv : IsInt v) (rest : List UInt8) : i32 (leInt v ++ rest) 0 = v := by
  obtain ⟨h₁, h₂⟩ := hv
  rw [i32, leInt, u32_le32_append (by omega)]
  split <;> omega

theorem u16_append_ge {a : List UInt8} (rest : List UInt8) {off : Nat} (h : a.length ≤ off) :
    u16 (a ++ rest) off = u16 rest (off - a.length) := by
  rw [← u16_append_at rfl (off - a.length), Nat.add_sub_cancel' h]

theorem u32_append_ge {a : List UInt8} (rest : List UInt8) {off : Nat} (h : a.length ≤ off) :
    u32 (a ++ rest) off = u32 rest (off - a.length) := by
  rw [← u32_append_at rfl (off - a.length), Nat.add_sub_cancel' h]

theorem i32_append_ge {a : List UInt8} (rest : List UInt8) {off : Nat} (h : a.length ≤ off) :
    i32 (a ++ rest) off = i32 rest (off - a.length) := by
  rw [← i32_append_at rfl (off - a.length), Nat.add_sub_cancel' h]

theorem getD_append_ge {a : List UInt8} (rest : List UInt8) {off : Nat} (h : a.length ≤ off) :
    (a ++ rest).getD off 0 = rest.getD (off - a.length) 0 := by
  have e := getD_drop (a ++ rest) a.length (off - a.length)
  rwa [List.drop_left' rfl, Nat.add_sub_cancel' h, eq_comm] at e

theorem getD_append_lt {a : List UInt8} (rest : List UInt8) {off : Nat} (h : off < a.length) :
    (a ++ rest).getD off 0 = a.getD off 0 := by
  simp only [List.getD_eq_getElem?_getD, List.getElem?_append_left h]

/-! ## The header -/

deriving instance DecidableEq, Repr for Nlmsghdr

/-- The header fields at their offsets. -/
def Nlmsghdr.read (bs : List UInt8) : Nlmsghdr := ⟨u32 bs 0, u16 bs 4, u16 bs 6, u32 bs 8, u32 bs 12⟩

/-- Every field of a header within its `__u16` or `__u32`. -/
def Nlmsghdr.Fits (h : Nlmsghdr) : Prop :=
  h.nlmsg_len < 2 ^ 32 ∧ h.nlmsg_type < 65536 ∧ h.nlmsg_flags < 65536 ∧ h.nlmsg_seq < 2 ^ 32 ∧
    h.nlmsg_pid < 2 ^ 32

theorem Nlmsghdr.read_bytes_append {h : Nlmsghdr} (hf : h.Fits) (rest : List UInt8) :
    Nlmsghdr.read (h.bytes ++ rest) = h := by
  obtain ⟨hl, ht, hfl, hs, hp⟩ := hf
  simp (disch := simp) only [Nlmsghdr.read, Nlmsghdr.bytes, List.append_assoc, u16_append_ge, u32_append_ge,
    length_le32, length_le16, Nat.reduceSub, u32_le32_append hl, u16_le16_append ht, u16_le16_append hfl,
    u32_le32_append hs, u32_le32_append hp]

/-! ## Family headers -/

/-- `struct ifinfomsg`. -/
structure Ifinfomsg where
  /-- `ifi_family`. -/
  ifi_family : Nat
  /-- `ifi_type`. -/
  ifi_type : Nat
  /-- `ifi_index`, an `int`. -/
  ifi_index : Int
  /-- `ifi_flags`. -/
  ifi_flags : Nat
  /-- `ifi_change`. -/
  ifi_change : Nat
deriving DecidableEq, Repr

/-- Its 16 bytes: `ifi_family`, a pad byte, `ifi_type`, `ifi_index`, `ifi_flags` and
`ifi_change`. -/
def Ifinfomsg.bytes (m : Ifinfomsg) : List UInt8 :=
  [UInt8.ofNat m.ifi_family, 0] ++ le16 m.ifi_type ++ leInt m.ifi_index ++ le32 m.ifi_flags ++ le32 m.ifi_change

/-- The fields at their offsets. -/
def Ifinfomsg.read (bs : List UInt8) : Ifinfomsg :=
  ⟨(bs.getD 0 0).toNat, u16 bs 2, i32 bs 4, u32 bs 8, u32 bs 12⟩

/-- Every field within its C type. -/
def Ifinfomsg.Fits (m : Ifinfomsg) : Prop :=
  m.ifi_family < 256 ∧ m.ifi_type < 65536 ∧ IsInt m.ifi_index ∧ m.ifi_flags < 2 ^ 32 ∧ m.ifi_change < 2 ^ 32

theorem Ifinfomsg.read_bytes_append {m : Ifinfomsg} (hm : m.Fits) (rest : List UInt8) :
    Ifinfomsg.read (m.bytes ++ rest) = m := by
  obtain ⟨hf, ht, hi, hfl, hc⟩ := hm
  simp (disch := simp) only [Ifinfomsg.read, Ifinfomsg.bytes, List.append_assoc, u16_append_ge, u32_append_ge,
    i32_append_ge, getD_append_lt, List.length_cons, List.length_nil, length_le16, length_leInt, length_le32, Nat.reduceAdd,
    Nat.reduceSub, List.getD_cons_zero, UInt8.toNat_ofNat_of_lt (show m.ifi_family < UInt8.size from hf),
    u16_le16_append ht, i32_leInt_append hi, u32_le32_append hfl, u32_le32_append hc]

/-- `struct ifaddrmsg`. -/
structure Ifaddrmsg where
  /-- `ifa_family`. -/
  ifa_family : Nat
  /-- `ifa_prefixlen`, a `__u8`. -/
  ifa_prefixlen : Nat
  /-- `ifa_flags`. -/
  ifa_flags : Nat
  /-- `ifa_scope`. -/
  ifa_scope : Nat
  /-- `ifa_index`, a `__u32`. -/
  ifa_index : Nat
deriving DecidableEq, Repr

/-- Its 8 bytes: the four byte fields, then `ifa_index`. -/
def Ifaddrmsg.bytes (m : Ifaddrmsg) : List UInt8 :=
  [UInt8.ofNat m.ifa_family, UInt8.ofNat m.ifa_prefixlen, UInt8.ofNat m.ifa_flags, UInt8.ofNat m.ifa_scope] ++
    le32 m.ifa_index

/-- The fields at their offsets. -/
def Ifaddrmsg.read (bs : List UInt8) : Ifaddrmsg :=
  ⟨(bs.getD 0 0).toNat, (bs.getD 1 0).toNat, (bs.getD 2 0).toNat, (bs.getD 3 0).toNat, u32 bs 4⟩

/-- Every field within its C type. -/
def Ifaddrmsg.Fits (m : Ifaddrmsg) : Prop :=
  m.ifa_family < 256 ∧ m.ifa_prefixlen < 256 ∧ m.ifa_flags < 256 ∧ m.ifa_scope < 256 ∧ m.ifa_index < 2 ^ 32

theorem Ifaddrmsg.read_bytes_append {m : Ifaddrmsg} (hm : m.Fits) (rest : List UInt8) :
    Ifaddrmsg.read (m.bytes ++ rest) = m := by
  obtain ⟨hf, hp, hfl, hs, hi⟩ := hm
  simp (disch := simp) only [Ifaddrmsg.read, Ifaddrmsg.bytes, List.append_assoc, u32_append_ge, getD_append_lt, List.length_cons,
    List.length_nil, Nat.reduceAdd, Nat.reduceSub, List.getD_cons_zero, List.getD_cons_succ,
    UInt8.toNat_ofNat_of_lt (show m.ifa_family < UInt8.size from hf),
    UInt8.toNat_ofNat_of_lt (show m.ifa_prefixlen < UInt8.size from hp),
    UInt8.toNat_ofNat_of_lt (show m.ifa_flags < UInt8.size from hfl),
    UInt8.toNat_ofNat_of_lt (show m.ifa_scope < UInt8.size from hs), u32_le32_append hi]

/-- `struct rtmsg`. -/
structure Rtmsg where
  /-- `rtm_family`. -/
  rtm_family : Nat
  /-- `rtm_dst_len`. -/
  rtm_dst_len : Nat
  /-- `rtm_src_len`. -/
  rtm_src_len : Nat
  /-- `rtm_tos`. -/
  rtm_tos : Nat
  /-- `rtm_table`. -/
  rtm_table : Nat
  /-- `rtm_protocol`. -/
  rtm_protocol : Nat
  /-- `rtm_scope`. -/
  rtm_scope : Nat
  /-- `rtm_type`. -/
  rtm_type : Nat
  /-- `rtm_flags`, a `__u32`. -/
  rtm_flags : Nat
deriving DecidableEq, Repr

/-- Its 12 bytes: the eight byte fields, then `rtm_flags`. -/
def Rtmsg.bytes (m : Rtmsg) : List UInt8 :=
  [UInt8.ofNat m.rtm_family, UInt8.ofNat m.rtm_dst_len, UInt8.ofNat m.rtm_src_len, UInt8.ofNat m.rtm_tos,
    UInt8.ofNat m.rtm_table, UInt8.ofNat m.rtm_protocol, UInt8.ofNat m.rtm_scope, UInt8.ofNat m.rtm_type] ++
    le32 m.rtm_flags

/-- The fields at their offsets. -/
def Rtmsg.read (bs : List UInt8) : Rtmsg :=
  ⟨(bs.getD 0 0).toNat, (bs.getD 1 0).toNat, (bs.getD 2 0).toNat, (bs.getD 3 0).toNat, (bs.getD 4 0).toNat,
    (bs.getD 5 0).toNat, (bs.getD 6 0).toNat, (bs.getD 7 0).toNat, u32 bs 8⟩

/-- Every field within its C type. -/
def Rtmsg.Fits (m : Rtmsg) : Prop :=
  m.rtm_family < 256 ∧ m.rtm_dst_len < 256 ∧ m.rtm_src_len < 256 ∧ m.rtm_tos < 256 ∧ m.rtm_table < 256 ∧
    m.rtm_protocol < 256 ∧ m.rtm_scope < 256 ∧ m.rtm_type < 256 ∧ m.rtm_flags < 2 ^ 32

theorem Rtmsg.read_bytes_append {m : Rtmsg} (hm : m.Fits) (rest : List UInt8) :
    Rtmsg.read (m.bytes ++ rest) = m := by
  obtain ⟨h₀, h₁, h₂, h₃, h₄, h₅, h₆, h₇, hf⟩ := hm
  simp (disch := simp) only [Rtmsg.read, Rtmsg.bytes, List.append_assoc, u32_append_ge, getD_append_lt,
    List.length_cons, List.length_nil, Nat.reduceAdd, Nat.reduceSub, List.getD_cons_zero, List.getD_cons_succ,
    UInt8.toNat_ofNat_of_lt (show m.rtm_family < UInt8.size from h₀),
    UInt8.toNat_ofNat_of_lt (show m.rtm_dst_len < UInt8.size from h₁),
    UInt8.toNat_ofNat_of_lt (show m.rtm_src_len < UInt8.size from h₂),
    UInt8.toNat_ofNat_of_lt (show m.rtm_tos < UInt8.size from h₃),
    UInt8.toNat_ofNat_of_lt (show m.rtm_table < UInt8.size from h₄),
    UInt8.toNat_ofNat_of_lt (show m.rtm_protocol < UInt8.size from h₅),
    UInt8.toNat_ofNat_of_lt (show m.rtm_scope < UInt8.size from h₆),
    UInt8.toNat_ofNat_of_lt (show m.rtm_type < UInt8.size from h₇), u32_le32_append hf]

/-! ## Reading a request -/

/-- The family header of a request. -/
inductive FamilyHeader
  | ifinfo (m : Ifinfomsg)
  | ifaddr (m : Ifaddrmsg)
  | rt (m : Rtmsg)
deriving DecidableEq, Repr

/-- The family header `rtnetlink` reads after the header of a message of type `type`, from the
bytes after the header, with its size: an `ifinfomsg` for the link messages, an `ifaddrmsg`
for `RTM_NEWADDR` and an `rtmsg` for the route messages. -/
def readFamily (type : Nat) (bs : List UInt8) : Option (FamilyHeader × Nat) :=
  if type = RTM_NEWLINK ∨ type = RTM_DELLINK ∨ type = RTM_SETLINK then
    some (.ifinfo (Ifinfomsg.read bs), sizeofIfinfomsg)
  else if type = RTM_NEWADDR then some (.ifaddr (Ifaddrmsg.read bs), sizeofIfaddrmsg)
  else if type = RTM_NEWROUTE ∨ type = RTM_GETROUTE then some (.rt (Rtmsg.read bs), sizeofRtmsg)
  else none

/-- A request as the kernel reads it: the header, the family header and the attributes. -/
structure Message where
  /-- The header. -/
  header : Nlmsghdr
  /-- The family header. -/
  family : FamilyHeader
  /-- The type and payload of each attribute, in order. -/
  attrs : List (Nat × List UInt8)
deriving DecidableEq, Repr

/-- A datagram read as one request: `nlmsg_len` is the datagram's length and holds the
header and the family header its type calls for, and the attributes after the family header
(every size here is a multiple of 4, so `NLMSG_ALIGN` moves nothing) decode with no byte
over. -/
def Message.decode (bs : List UInt8) : Option Message :=
  let header := Nlmsghdr.read bs
  match readFamily header.nlmsg_type (bs.drop 16) with
  | none => none
  | some (family, size) =>
    if 16 + size ≤ header.nlmsg_len ∧ header.nlmsg_len = bs.length then
      match rtaWalk (bs.drop (16 + size)) with
      | (attrs, 0) => some ⟨header, family, attrs⟩
      | _ => none
    else none

theorem readFamily_ifinfo {type : Nat} (ht : type = RTM_NEWLINK ∨ type = RTM_DELLINK ∨ type = RTM_SETLINK)
    {m : Ifinfomsg} (hm : m.Fits) (rest : List UInt8) :
    readFamily type (m.bytes ++ rest) = some (.ifinfo m, sizeofIfinfomsg) := by
  rw [readFamily, if_pos ht, Ifinfomsg.read_bytes_append hm]

theorem readFamily_ifaddr {m : Ifaddrmsg} (hm : m.Fits) (rest : List UInt8) :
    readFamily RTM_NEWADDR (m.bytes ++ rest) = some (.ifaddr m, sizeofIfaddrmsg) := by
  rw [readFamily, if_neg (by decide), if_pos rfl, Ifaddrmsg.read_bytes_append hm]

theorem readFamily_rt {type : Nat} (ht : type = RTM_NEWROUTE ∨ type = RTM_GETROUTE) {m : Rtmsg} (hm : m.Fits)
    (rest : List UInt8) : readFamily type (m.bytes ++ rest) = some (.rt m, sizeofRtmsg) := by
  have hl : ¬(type = RTM_NEWLINK ∨ type = RTM_DELLINK ∨ type = RTM_SETLINK) := by
    rcases ht with rfl | rfl <;> decide
  have ha : type ≠ RTM_NEWADDR := by rcases ht with rfl | rfl <;> decide
  rw [readFamily, if_neg hl, if_neg ha, if_pos ht, Rtmsg.read_bytes_append hm]

/-! ## The requests -/

/-- The attributes with a 4-byte payload the code writes one after another from `req.data`,
each with `rta->rta_type`, `rta->rta_len = RTA_LENGTH(4)` and `memcpy(RTA_DATA(rta), &v, 4)`,
and the `len` it counts, `RTA_ALIGN(rta->rta_len)` for each. -/
def attrs4 : List (Nat × List UInt8) → List UInt8 × Nat
  | [] => ([], 0)
  | (type, v) :: rest => (rtattr (rtaLength 4) type v ++ (attrs4 rest).1, rtaAlign (rtaLength 4) + (attrs4 rest).2)

/-- `req` of a request with a family header `fam` of `famSize` bytes and the
attributes `attrs`, in a structure whose data area has `size` bytes (`0` when it has none):
the header with `nlmsg_len = NLMSG_LENGTH(famSize) + len`, the family header, the attributes,
and the zeros after them. -/
def familyReq (size famSize type flags seq pid : Nat) (fam : List UInt8) (attrs : List (Nat × List UInt8)) :
    List UInt8 :=
  (⟨nlmsgLength famSize + (attrs4 attrs).2, type, flags, seq, pid⟩ : Nlmsghdr).bytes ++ fam ++ (attrs4 attrs).1 ++
    zeros (size - (attrs4 attrs).1.length)

/-- What `netlink_send_request(handle, &req.nh, req.nh.nlmsg_len)` hands to `sendmsg`: the first
`nlmsg_len` bytes of `req`. -/
def netlinkSendRequest (req : List UInt8) : List UInt8 := req.take (u32 req 0)

/-- `netlink_set_interface_state(handle, name, up)`, with `ifindex` the index of `name`:
`RTM_SETLINK` with `ifi_flags = up ? IFF_UP : 0` and `ifi_change = IFF_UP`, in a `req` with no
data area. -/
def netlinkSetInterfaceStateReq (ifindex up : Int) (seq pid : Nat) : List UInt8 :=
  familyReq 0 sizeofIfinfomsg RTM_SETLINK (NLM_F_REQUEST ||| NLM_F_ACK) seq pid
    (Ifinfomsg.bytes ⟨AF_UNSPEC, 0, ifindex, if up ≠ 0 then IFF_UP else 0, IFF_UP⟩) []

/-- `netlink_delete_interface(handle, name)`: `RTM_DELLINK` for the index, no data area. -/
def netlinkDeleteInterfaceReq (ifindex : Int) (seq pid : Nat) : List UInt8 :=
  familyReq 0 sizeofIfinfomsg RTM_DELLINK (NLM_F_REQUEST ||| NLM_F_ACK) seq pid
    (Ifinfomsg.bytes ⟨AF_UNSPEC, 0, ifindex, 0, 0⟩) []

/-- `netlink_set_interface_master(handle, iface, master)`: `RTM_SETLINK` with `IFLA_MASTER`
holding the master's index. -/
def netlinkSetInterfaceMasterReq (ifindex master_index : Int) (seq pid : Nat) : List UInt8 :=
  familyReq 256 sizeofIfinfomsg RTM_SETLINK (NLM_F_REQUEST ||| NLM_F_ACK) seq pid
    (Ifinfomsg.bytes ⟨AF_UNSPEC, 0, ifindex, 0, 0⟩) [(IFLA_MASTER, leInt master_index)]

/-- `netlink_add_ip_address(handle, iface, addr, prefixlen)`: `RTM_NEWADDR` with
`NLM_F_CREATE | NLM_F_EXCL`, the `ifaddrmsg` (`ifa_prefixlen` and `ifa_index` take the `int`s
modulo their sizes), and `IFA_LOCAL` and `IFA_ADDRESS` both holding `addr`. -/
def netlinkAddIpAddressReq (ifindex : Int) (addr : Nat) (prefixlen : Int) (seq pid : Nat) : List UInt8 :=
  familyReq 256 sizeofIfaddrmsg RTM_NEWADDR createFlags seq pid
    (Ifaddrmsg.bytes ⟨AF_INET, (prefixlen % 256).toNat, IFA_F_PERMANENT, RT_SCOPE_UNIVERSE,
      (ifindex % 4294967296).toNat⟩)
    [(IFA_LOCAL, le32 addr), (IFA_ADDRESS, le32 addr)]

/-- The `RTA_OIF` attribute of `netlink_add_default_route`: present when `iface` is given and
its index, `oif`, is positive. -/
def routeOif : Option Int → List (Nat × List UInt8)
  | some ifindex => if 0 < ifindex then [(RTA_OIF, leInt ifindex)] else []
  | none => []

/-- `netlink_add_default_route(handle, gateway, iface)`: `RTM_NEWROUTE` with
`NLM_F_CREATE | NLM_F_EXCL` for `0.0.0.0/0` in the main table, `RTA_GATEWAY`, then `RTA_OIF`;
`oif` is the index of `iface` when `iface` is not `NULL`. -/
def netlinkAddDefaultRouteReq (gateway : Nat) (oif : Option Int) (seq pid : Nat) : List UInt8 :=
  familyReq 256 sizeofRtmsg RTM_NEWROUTE createFlags seq pid
    (Rtmsg.bytes ⟨AF_INET, 0, 0, 0, RT_TABLE_MAIN, RTPROT_STATIC, RT_SCOPE_UNIVERSE, RTN_UNICAST, 0⟩)
    ([(RTA_GATEWAY, le32 gateway)] ++ routeOif oif)

/-- `netlink_move_interface_to_netns(handle, iface, pid)`: `RTM_SETLINK` with `IFLA_NET_NS_PID`
holding `pid`; the header's `nlmsg_pid` is the caller's, `getpid()`. -/
def netlinkMoveInterfaceToNetnsReq (ifindex pid : Int) (seq nlmsg_pid : Nat) : List UInt8 :=
  familyReq 256 sizeofIfinfomsg RTM_SETLINK (NLM_F_REQUEST ||| NLM_F_ACK) seq nlmsg_pid
    (Ifinfomsg.bytes ⟨AF_UNSPEC, 0, ifindex, 0, 0⟩) [(IFLA_NET_NS_PID, leInt pid)]

/-- The request of `netlink_get_default_interface`: an `RTM_GETROUTE` dump of the IPv4 main
table, `struct { struct nlmsghdr nh; struct rtmsg rt; }` with no attribute. -/
def netlinkGetDefaultInterfaceReq (seq pid : Nat) : List UInt8 :=
  familyReq 0 sizeofRtmsg RTM_GETROUTE (NLM_F_REQUEST ||| NLM_F_DUMP) seq pid
    (Rtmsg.bytes ⟨AF_INET, 0, 0, 0, RT_TABLE_MAIN, 0, 0, 0, 0⟩) []

/-! ## The requests decode to what was written -/

section Attrs4

variable {attrs : List (Nat × List UInt8)}

@[simp] theorem attrs4_snd (attrs : List (Nat × List UInt8)) : (attrs4 attrs).2 = 8 * attrs.length := by
  induction attrs with
  | nil => rfl
  | cons a rest ih =>
    simp only [attrs4, ih, List.length_cons]
    show 8 + 8 * rest.length = _
    omega

theorem length_attrs4 (h : ∀ a ∈ attrs, a.1 < 65536 ∧ a.2.length = 4) :
    (attrs4 attrs).1.length = 8 * attrs.length := by
  induction attrs with
  | nil => rfl
  | cons a rest ih =>
    have ha := (h a (List.mem_cons_self _ _)).2
    simp only [attrs4, List.length_append, length_rtattr, ha, ih fun b hb => h b (List.mem_cons_of_mem _ hb),
      List.length_cons]
    show 8 + 8 * rest.length = _
    omega

/-- The walk reads back each attribute the code wrote, in order, and goes on after them. -/
theorem rtaWalk_attrs4 (h : ∀ a ∈ attrs, a.1 < 65536 ∧ a.2.length = 4) (rest : List UInt8) :
    rtaWalk ((attrs4 attrs).1 ++ rest) = (attrs ++ (rtaWalk rest).1, (rtaWalk rest).2) := by
  induction attrs with
  | nil => rfl
  | cons a as ih =>
    obtain ⟨htype, hlen⟩ := h a (List.mem_cons_self _ _)
    have hlen' : rtaLength 4 = 4 + a.2.length := by rw [hlen]; rfl
    simp only [attrs4, List.append_assoc, hlen']
    rw [rtaWalk_rtattr_exact (by omega) htype, ih fun b hb => h b (List.mem_cons_of_mem _ hb)]
    rfl

end Attrs4

theorem u32_bytes_append (h : Nlmsghdr) (hl : h.nlmsg_len < 2 ^ 32) (rest : List UInt8) :
    u32 (h.bytes ++ rest) 0 = h.nlmsg_len := by
  rw [Nlmsghdr.bytes, List.append_assoc, List.append_assoc, List.append_assoc, List.append_assoc,
    u32_le32_append hl]

/-- `netlink_send_request` sends the header, the family header and the attributes of `familyReq`,
and none of the zeros after them. -/
theorem netlinkSendRequest_familyReq {size famSize type flags seq pid : Nat} {famBytes : List UInt8}
    {attrs : List (Nat × List UInt8)} (hlen : famBytes.length = famSize)
    (hattrs : ∀ a ∈ attrs, a.1 < 65536 ∧ a.2.length = 4) (hsize : 8 * attrs.length ≤ size)
    (hfit : 16 + famSize + size < 2 ^ 32) :
    netlinkSendRequest (familyReq size famSize type flags seq pid famBytes attrs) =
      (⟨16 + famSize + 8 * attrs.length, type, flags, seq, pid⟩ : Nlmsghdr).bytes ++ famBytes ++ (attrs4 attrs).1 := by
  have hdata := length_attrs4 hattrs
  have hhdr : (⟨nlmsgLength famSize + (attrs4 attrs).2, type, flags, seq, pid⟩ : Nlmsghdr) =
      ⟨16 + famSize + 8 * attrs.length, type, flags, seq, pid⟩ := by
    rw [attrs4_snd, show nlmsgLength famSize = famSize + 16 from rfl, Nat.add_comm famSize]
  have h0 : ∀ rest, u32 ((⟨16 + famSize + 8 * attrs.length, type, flags, seq, pid⟩ : Nlmsghdr).bytes ++ rest) 0 =
      16 + famSize + 8 * attrs.length :=
    u32_bytes_append _ (show 16 + famSize + 8 * attrs.length < 2 ^ 32 by omega)
  rw [netlinkSendRequest, familyReq, hhdr, List.append_assoc, List.append_assoc, h0, ← List.append_assoc,
    ← List.append_assoc]
  exact List.take_left' (by simp [hlen, hdata]; omega)

/-- The request `familyReq` builds and `netlink_send_request` sends decodes to the header, the
family header and the attributes written, whatever their values within their C types, as
long as the family header reads back and the attributes fit in `req.data`. -/
theorem familyReq_decode {size famSize type flags seq pid : Nat} {fam : FamilyHeader} {famBytes : List UInt8}
    {attrs : List (Nat × List UInt8)} (hfam : ∀ rest, readFamily type (famBytes ++ rest) = some (fam, famSize))
    (hlen : famBytes.length = famSize) (hattrs : ∀ a ∈ attrs, a.1 < 65536 ∧ a.2.length = 4)
    (hsize : 8 * attrs.length ≤ size) (hfit : 16 + famSize + size < 2 ^ 32) (htype : type < 65536)
    (hflags : flags < 65536) (hseq : seq < 2 ^ 32) (hpid : pid < 2 ^ 32) :
    Message.decode (netlinkSendRequest (familyReq size famSize type flags seq pid famBytes attrs)) =
      some ⟨⟨16 + famSize + 8 * attrs.length, type, flags, seq, pid⟩, fam, attrs⟩ := by
  have hdata := length_attrs4 hattrs
  have hread := @Nlmsghdr.read_bytes_append ⟨16 + famSize + 8 * attrs.length, type, flags, seq, pid⟩
    ⟨show 16 + famSize + 8 * attrs.length < 2 ^ 32 by omega, htype, hflags, hseq, hpid⟩
  rw [netlinkSendRequest_familyReq hlen hattrs hsize hfit, List.append_assoc, Message.decode]
  simp only [hread, List.drop_left' (Nlmsghdr.length_bytes _), hfam]
  rw [if_pos ⟨by omega, by simp [hlen, hdata, Nat.add_assoc]⟩, List.drop_append_eq_append_drop,
    List.drop_eq_nil_of_le (by simp), List.nil_append, Nlmsghdr.length_bytes,
    List.drop_left' (by rw [hlen]; omega), ← List.append_nil (attrs4 attrs).1, rtaWalk_attrs4 hattrs,
    rtaWalk_nil]
  simp only [List.append_nil]

/-! ## Each function's request -/

/-- A request of one of these functions, with the values it writes: the interface's index as
`netlink_get_interface_index` returned it, and the function's other arguments. -/
inductive FamilyRequest
  /-- `netlink_set_interface_state(handle, name, up)`. -/
  | setInterfaceState (ifindex up : Int)
  /-- `netlink_delete_interface(handle, name)`. -/
  | deleteInterface (ifindex : Int)
  /-- `netlink_set_interface_master(handle, iface, master)`. -/
  | setInterfaceMaster (ifindex master_index : Int)
  /-- `netlink_add_ip_address(handle, iface, addr, prefixlen)`. -/
  | addIpAddress (ifindex : Int) (addr : Nat) (prefixlen : Int)
  /-- `netlink_add_default_route(handle, gateway, iface)`, with the index of `iface` when it is
  given. -/
  | addDefaultRoute (gateway : Nat) (oif : Option Int)
  /-- `netlink_move_interface_to_netns(handle, iface, pid)`. -/
  | moveInterfaceToNetns (ifindex pid : Int)
  /-- The route dump of `netlink_get_default_interface(handle, iface, iface_size)`. -/
  | getDefaultInterface
deriving DecidableEq, Repr

/-- The `req` the function fills, for `handle->seq` and `getpid()`. -/
def FamilyRequest.req : FamilyRequest → Nat → Nat → List UInt8
  | .setInterfaceState ifindex up => netlinkSetInterfaceStateReq ifindex up
  | .deleteInterface ifindex => netlinkDeleteInterfaceReq ifindex
  | .setInterfaceMaster ifindex master_index => netlinkSetInterfaceMasterReq ifindex master_index
  | .addIpAddress ifindex addr prefixlen => netlinkAddIpAddressReq ifindex addr prefixlen
  | .addDefaultRoute gateway oif => netlinkAddDefaultRouteReq gateway oif
  | .moveInterfaceToNetns ifindex pid => netlinkMoveInterfaceToNetnsReq ifindex pid
  | .getDefaultInterface => netlinkGetDefaultInterfaceReq

/-- The `int` the kernel reads back as a number, `ifi_index`, is a C `int`. -/
def FamilyRequest.Fits : FamilyRequest → Prop
  | .setInterfaceState ifindex _ => IsInt ifindex
  | .deleteInterface ifindex => IsInt ifindex
  | .setInterfaceMaster ifindex _ => IsInt ifindex
  | .addIpAddress .. => True
  | .addDefaultRoute .. => True
  | .moveInterfaceToNetns ifindex _ => IsInt ifindex
  | .getDefaultInterface => True

/-- What each request says: its length, type and flags, the family header with the index,
and the attributes with their 4-byte payloads.  `netlink_add_default_route` sends `RTA_OIF`
only for a positive index. -/
def FamilyRequest.message : FamilyRequest → Nat → Nat → Message
  | .setInterfaceState ifindex up, seq, pid =>
    ⟨⟨32, RTM_SETLINK, NLM_F_REQUEST ||| NLM_F_ACK, seq, pid⟩,
      .ifinfo ⟨AF_UNSPEC, 0, ifindex, if up ≠ 0 then IFF_UP else 0, IFF_UP⟩, []⟩
  | .deleteInterface ifindex, seq, pid =>
    ⟨⟨32, RTM_DELLINK, NLM_F_REQUEST ||| NLM_F_ACK, seq, pid⟩, .ifinfo ⟨AF_UNSPEC, 0, ifindex, 0, 0⟩, []⟩
  | .setInterfaceMaster ifindex master_index, seq, pid =>
    ⟨⟨40, RTM_SETLINK, NLM_F_REQUEST ||| NLM_F_ACK, seq, pid⟩, .ifinfo ⟨AF_UNSPEC, 0, ifindex, 0, 0⟩,
      [(IFLA_MASTER, leInt master_index)]⟩
  | .addIpAddress ifindex addr prefixlen, seq, pid =>
    ⟨⟨40, RTM_NEWADDR, createFlags, seq, pid⟩,
      .ifaddr ⟨AF_INET, (prefixlen % 256).toNat, IFA_F_PERMANENT, RT_SCOPE_UNIVERSE, (ifindex % 4294967296).toNat⟩,
      [(IFA_LOCAL, le32 addr), (IFA_ADDRESS, le32 addr)]⟩
  | .addDefaultRoute gateway oif, seq, pid =>
    ⟨⟨36 + 8 * (routeOif oif).length, RTM_NEWROUTE, createFlags, seq, pid⟩,
      .rt ⟨AF_INET, 0, 0, 0, RT_TABLE_MAIN, RTPROT_STATIC, RT_SCOPE_UNIVERSE, RTN_UNICAST, 0⟩,
      (RTA_GATEWAY, le32 gateway) :: routeOif oif⟩
  | .moveInterfaceToNetns ifindex pid, seq, nlmsg_pid =>
    ⟨⟨40, RTM_SETLINK, NLM_F_REQUEST ||| NLM_F_ACK, seq, nlmsg_pid⟩, .ifinfo ⟨AF_UNSPEC, 0, ifindex, 0, 0⟩,
      [(IFLA_NET_NS_PID, leInt pid)]⟩
  | .getDefaultInterface, seq, pid =>
    ⟨⟨28, RTM_GETROUTE, NLM_F_REQUEST ||| NLM_F_DUMP, seq, pid⟩,
      .rt ⟨AF_INET, 0, 0, 0, RT_TABLE_MAIN, 0, 0, 0, 0⟩, []⟩

theorem ifinfomsg_fits {ifindex : Int} (hi : IsInt ifindex) {flags change : Nat} (hf : flags ≤ 1) (hc : change ≤ 1) :
    Ifinfomsg.Fits ⟨AF_UNSPEC, 0, ifindex, flags, change⟩ := by
  refine ⟨?_, ?_, hi, ?_, ?_⟩ <;> dsimp only <;> first | decide | omega

theorem routeOif_attrs (oif : Option Int) : ∀ a ∈ routeOif oif, a.1 < 65536 ∧ a.2.length = 4 := by
  unfold routeOif
  split
  · split <;> simp [RTA_OIF]
  · simp

theorem length_routeOif_le (oif : Option Int) : (routeOif oif).length ≤ 1 := by
  unfold routeOif
  split
  · split <;> simp
  · simp

/-- For every request of these functions and all values within their C types, the bytes
`netlink_send_request` sends decode exactly to what the function means: its length, type and
flags, `handle->seq` and `getpid()`, the family header with the interface's index, and its
attributes, with no byte left over and none of `req`'s trailing zeros sent. -/
theorem FamilyRequest.decode_sent (r : FamilyRequest) (seq pid : Nat) (hseq : seq < 2 ^ 32) (hpid : pid < 2 ^ 32)
    (hr : r.Fits) : Message.decode (netlinkSendRequest (r.req seq pid)) = some (r.message seq pid) := by
  cases r with
  | setInterfaceState ifindex up =>
    have hf : (if up ≠ 0 then IFF_UP else 0) ≤ 1 := by split <;> decide
    exact familyReq_decode (readFamily_ifinfo (by decide) (ifinfomsg_fits hr hf (by decide))) rfl (by simp)
      (by decide) (by decide) (by decide) (by decide) hseq hpid
  | deleteInterface ifindex =>
    exact familyReq_decode (readFamily_ifinfo (by decide) (ifinfomsg_fits hr (by decide) (by decide))) rfl (by simp)
      (by decide) (by decide) (by decide) (by decide) hseq hpid
  | setInterfaceMaster ifindex master_index =>
    exact familyReq_decode (readFamily_ifinfo (by decide) (ifinfomsg_fits hr (by decide) (by decide))) rfl
      (by simp [IFLA_MASTER]) (by simp) (by decide) (by decide) (by decide) hseq hpid
  | addIpAddress ifindex addr prefixlen =>
    have hm : Ifaddrmsg.Fits ⟨AF_INET, (prefixlen % 256).toNat, IFA_F_PERMANENT, RT_SCOPE_UNIVERSE,
        (ifindex % 4294967296).toNat⟩ := by
      refine ⟨?_, ?_, ?_, ?_, ?_⟩ <;> dsimp only <;> first | decide | omega
    exact familyReq_decode (readFamily_ifaddr hm) rfl (by simp [IFA_LOCAL, IFA_ADDRESS]) (by simp) (by decide)
      (by decide) (by decide) hseq hpid
  | addDefaultRoute gateway oif =>
    have hm : Rtmsg.Fits ⟨AF_INET, 0, 0, 0, RT_TABLE_MAIN, RTPROT_STATIC, RT_SCOPE_UNIVERSE, RTN_UNICAST, 0⟩ := by
      unfold Rtmsg.Fits
      decide
    have hattrs : ∀ a ∈ [(RTA_GATEWAY, le32 gateway)] ++ routeOif oif, a.1 < 65536 ∧ a.2.length = 4 := by
      simpa [RTA_GATEWAY] using routeOif_attrs oif
    have hlen := length_routeOif_le oif
    have h := @familyReq_decode 256 sizeofRtmsg RTM_NEWROUTE createFlags seq pid _ _ _ (readFamily_rt (.inl rfl) hm)
      rfl hattrs (by simp; omega) (by decide) (by decide) (by decide) hseq hpid
    have hl : 16 + sizeofRtmsg + 8 * ((RTA_GATEWAY, le32 gateway) :: routeOif oif).length =
        36 + 8 * (routeOif oif).length := by
      rw [List.length_cons, show sizeofRtmsg = 12 from rfl]
      omega
    rw [FamilyRequest.req, netlinkAddDefaultRouteReq, h, FamilyRequest.message, List.singleton_append, hl]
  | moveInterfaceToNetns ifindex pid' =>
    exact familyReq_decode (readFamily_ifinfo (by decide) (ifinfomsg_fits hr (by decide) (by decide))) rfl
      (by simp [IFLA_NET_NS_PID]) (by simp) (by decide) (by decide) (by decide) hseq hpid
  | getDefaultInterface =>
    have hm : Rtmsg.Fits ⟨AF_INET, 0, 0, 0, RT_TABLE_MAIN, 0, 0, 0, 0⟩ := by
      unfold Rtmsg.Fits
      decide
    exact familyReq_decode (readFamily_rt (.inr rfl) hm) rfl (by simp) (by simp) (by decide) (by decide)
      (by decide) hseq hpid

/-- `netlink_set_interface_master` as `setup_veth_pair` calls it, for a veth end of index 7 and
a bridge of index 3, as the second request on its handle. -/
theorem FamilyRequest.decode_sent_master :
    2 < 2 ^ 32 ∧ 100 < 2 ^ 32 ∧ (FamilyRequest.setInterfaceMaster 7 3).Fits ∧
      Message.decode (netlinkSendRequest ((FamilyRequest.setInterfaceMaster 7 3).req 2 100)) =
        some ((FamilyRequest.setInterfaceMaster 7 3).message 2 100) :=
  ⟨by decide, by decide, (by decide : IsInt 7),
    FamilyRequest.decode_sent (.setInterfaceMaster 7 3) 2 100 (by decide) (by decide) (by decide : IsInt 7)⟩

end Microbox
