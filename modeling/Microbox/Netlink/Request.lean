import Microbox.Netlink.Wire

/-!
# The link-creating requests

`netlink_create_bridge` and `netlink_create_veth_pair` (`netlink.c`) fill a zeroed
`req` (`nlmsghdr`, `ifinfomsg`, then a data area of 256 or 512 bytes) and send its first
`nlmsg_len` bytes.  Each attribute goes where the code's pointer arithmetic puts it: the
first at `req.data`, a sibling at the previous one plus the aligned length the code has
counted for it, a nested one at its container plus `RTA_LENGTH(0)`, and the veth peer's
`IFLA_IFNAME` after the peer's `ifinfomsg`.  Every such offset is the end of what was
written before, so the data area is the concatenation of the attributes, each an `rtattr`
carrying the `rta_len` the code computes, followed by the zeros nothing writes.

The bridge request decodes exactly (`netlinkCreateBridgeReq_exact`).  The veth request
does not: the peer's length starts from `NLMSG_LENGTH(sizeof(struct ifinfomsg))`, 32 bytes,
where its content starts with a 16-byte `ifinfomsg`, and `IFLA_INFO_DATA` and
`IFLA_LINKINFO` add their own header to a count that already holds it.  So
`VETH_INFO_PEER` claims 16 bytes it does not have, each container claims 4 more than its
content, and `nlmsg_len` runs 24 bytes past what was written
(`netlinkCreateVethPairReq_overstated`).  The kernel reads the claimed bytes, zeros, as
trailing bytes, so the names still decode and the pair is created.
-/

namespace Microbox

/-- `struct nlmsghdr`. -/
structure Nlmsghdr where
  /-- `nlmsg_len`. -/
  nlmsg_len : Nat
  /-- `nlmsg_type`. -/
  nlmsg_type : Nat
  /-- `nlmsg_flags`. -/
  nlmsg_flags : Nat
  /-- `nlmsg_seq`. -/
  nlmsg_seq : Nat
  /-- `nlmsg_pid`. -/
  nlmsg_pid : Nat

/-- The bytes of a header. -/
def Nlmsghdr.bytes (h : Nlmsghdr) : List UInt8 :=
  le32 h.nlmsg_len ++ le16 h.nlmsg_type ++ le16 h.nlmsg_flags ++ le32 h.nlmsg_seq ++ le32 h.nlmsg_pid

@[simp] theorem Nlmsghdr.length_bytes (h : Nlmsghdr) : h.bytes.length = 16 := rfl

/-- `NLM_F_REQUEST | NLM_F_CREATE | NLM_F_EXCL | NLM_F_ACK`. -/
def createFlags : Nat := NLM_F_REQUEST ||| NLM_F_CREATE ||| NLM_F_EXCL ||| NLM_F_ACK

/-- A request `req` of a given data size: the header, an `ifinfomsg` with `ifi_family =
AF_UNSPEC` and every other field zero, the attributes the code wrote at `req.data`, and
the zeros after them. -/
def linkReq (size nlmsg_len seq pid : Nat) (data : List UInt8) : List UInt8 :=
  (⟨nlmsg_len, RTM_NEWLINK, createFlags, seq, pid⟩ : Nlmsghdr).bytes ++ zeros sizeofIfinfomsg ++
    data ++ zeros (size - data.length)

/-! ## `netlink_create_bridge` -/

/-- The attributes `netlink_create_bridge` writes at `req.data`, and the `len` it adds to
`nlmsg_len`. -/
def createBridgeData (name : List UInt8) : List UInt8 × Nat :=
  let rta_len := rtaLength (name.length + 1)
  let len := rtaAlign rta_len
  let len := len + rtaLength 0
  let infokind_len := rtaLength ((cstr "bridge").length + 1)
  let linkinfo_len := rtaLength (rtaAlign infokind_len)
  let len := len + rtaAlign infokind_len
  (rtattr rta_len IFLA_IFNAME (name ++ [0]) ++
      rtattr linkinfo_len IFLA_LINKINFO (rtattr infokind_len IFLA_INFO_KIND (cstr "bridge" ++ [0])),
    len)

/-- The `req` of `netlink_create_bridge(handle, name)`, with `seq` the handle's sequence
number and `pid` the caller's. -/
def netlinkCreateBridgeReq (name : List UInt8) (seq pid : Nat) : List UInt8 :=
  linkReq 256 (nlmsgLength sizeofIfinfomsg + (createBridgeData name).2) seq pid (createBridgeData name).1

/-! ## `netlink_create_veth_pair` -/

/-- The attributes `netlink_create_veth_pair` writes at `req.data`, and the `len` it adds to
`nlmsg_len`. -/
def createVethPairData (name1 name2 : List UInt8) : List UInt8 × Nat :=
  let rta_len := rtaLength (name1.length + 1)
  let len := rtaAlign rta_len
  let linkinfo_len := rtaLength 0
  let infokind_len := rtaLength ((cstr "veth").length + 1)
  let linkinfo_len := linkinfo_len + rtaAlign infokind_len
  let infodata_len := rtaLength 0
  let peer_len := nlmsgLength sizeofIfinfomsg
  let peer_name_len := rtaLength (name2.length + 1)
  let peer_len := peer_len + rtaAlign peer_name_len
  let peer_info_len := rtaLength peer_len
  let infodata_len := infodata_len + rtaAlign peer_info_len
  let infodata_rta_len := rtaLength infodata_len
  let linkinfo_len := linkinfo_len + rtaAlign infodata_rta_len
  let linkinfo_rta_len := rtaLength linkinfo_len
  let len := len + rtaAlign linkinfo_rta_len
  (rtattr rta_len IFLA_IFNAME (name1 ++ [0]) ++
      rtattr linkinfo_rta_len IFLA_LINKINFO
        (rtattr infokind_len IFLA_INFO_KIND (cstr "veth" ++ [0]) ++
          rtattr infodata_rta_len IFLA_INFO_DATA
            (rtattr peer_info_len VETH_INFO_PEER
              (zeros sizeofIfinfomsg ++ rtattr peer_name_len IFLA_IFNAME (name2 ++ [0])))),
    len)

/-- The `req` of `netlink_create_veth_pair(handle, name1, name2)`. -/
def netlinkCreateVethPairReq (name1 name2 : List UInt8) (seq pid : Nat) : List UInt8 :=
  linkReq 512 (nlmsgLength sizeofIfinfomsg + (createVethPairData name1 name2).2) seq pid
    (createVethPairData name1 name2).1

/-! ## Reading a request back -/

theorem rtaLength_eq (len : Nat) : rtaLength len = 4 + len := rfl

theorem rtaAlign_four_mul_add (c x : Nat) : rtaAlign (4 * c + rtaAlign x) = 4 * c + rtaAlign x := by
  unfold rtaAlign
  omega

/-- The `nlmsg_len` of a request, and what `sendmsg` sends of it. -/
theorem linkReq_sent {size len seq pid : Nat} {data : List UInt8} (hlen : len < 2 ^ 32)
    (hdata : data.length ≤ size) (hfit : 32 + data.length ≤ len) (hin : len ≤ 32 + size) :
    u32 (linkReq size len seq pid data) 0 = len ∧
      (linkReq size len seq pid data).length = 32 + size ∧
      ((linkReq size len seq pid data).take len).drop 32 = data ++ zeros (len - 32 - data.length) := by
  have hhead : (⟨len, RTM_NEWLINK, createFlags, seq, pid⟩ : Nlmsghdr).bytes =
      le32 len ++ (le16 RTM_NEWLINK ++ le16 createFlags ++ le32 seq ++ le32 pid) := by
    simp [Nlmsghdr.bytes]
  refine ⟨by rw [linkReq, hhead, List.append_assoc, List.append_assoc, List.append_assoc,
    u32_le32_append hlen], by simp [linkReq, sizeofIfinfomsg]; omega, ?_⟩
  have hpre : ((⟨len, RTM_NEWLINK, createFlags, seq, pid⟩ : Nlmsghdr).bytes ++ zeros sizeofIfinfomsg).length =
      32 := rfl
  rw [linkReq, List.append_assoc _ data, List.take_append_eq_append_take, hpre,
    List.take_of_length_le (by omega), List.drop_append_eq_append_drop, hpre, List.drop_eq_nil_of_le (by omega),
    List.nil_append, Nat.sub_self, List.drop_zero, List.take_append_eq_append_take,
    List.take_of_length_le (by omega)]
  simp only [zeros, List.take_replicate]
  congr 2
  omega

/-- An attribute whose `rta_len` claims more than its payload, followed by zeros: the walk
takes the claimed bytes, zeros included, as its payload, and leaves the zeros its
`RTA_ALIGN(rta_len)` does not reach. -/
theorem rtaWalk_rtattr_zeros {len type m : Nat} {payload : List UInt8} (hlen : 4 + payload.length ≤ len)
    (hfit : rtaAlign len ≤ rtaAlign (4 + payload.length) + m) (hlen16 : len < 65536) (htype : type < 65536) :
    rtaWalk (rtattr len type payload ++ zeros m) =
      ([(type, payload ++ zeros (len - (4 + payload.length)))],
        rtaAlign (4 + payload.length) + m - rtaAlign len) := by
  have hal := le_rtaAlign (4 + payload.length)
  have hal' := le_rtaAlign len
  rw [rtaWalk_rtattr (by omega) hlen16 htype (by simp; omega)]
  have hseg : rtattr len type payload ++ zeros m =
      (le16 len ++ le16 type ++ payload) ++ zeros (rtaAlign (4 + payload.length) - (4 + payload.length) + m) := by
    simp [rtattr, zeros_add]
  have hhead : (le16 len ++ le16 type ++ payload).length = 4 + payload.length := by simp; omega
  have htake : ((rtattr len type payload ++ zeros m).take len).drop 4 =
      payload ++ zeros (len - (4 + payload.length)) := by
    rw [hseg, List.take_append_eq_append_take, List.take_of_length_le (by omega), hhead, List.append_assoc,
      List.drop_left' (by simp)]
    simp only [zeros, List.take_replicate]
    congr 2
    omega
  have hdrop : (rtattr len type payload ++ zeros m).drop (rtaAlign len) =
      zeros (rtaAlign (4 + payload.length) + m - rtaAlign len) := by
    rw [hseg, List.drop_append_eq_append_drop, hhead, List.drop_eq_nil_of_le (by omega), List.nil_append]
    simp only [zeros, List.drop_replicate]
    congr 1
    omega
  rw [htake, hdrop, rtaWalk_zeros]

@[simp] theorem rtaWalk_nil : rtaWalk [] = ([], 0) := rtaWalk_zeros 0

/-! ## The bridge request decodes exactly -/

/-- The lengths `netlink_create_bridge` computes are those of what it writes. -/
theorem createBridgeData_eq (name : List UInt8) :
    createBridgeData name =
      (rtattr (4 + (name ++ [0]).length) IFLA_IFNAME (name ++ [0]) ++
          rtattr (4 + (rtattr (4 + (cstr "bridge" ++ [0]).length) IFLA_INFO_KIND (cstr "bridge" ++ [0])).length)
            IFLA_LINKINFO (rtattr (4 + (cstr "bridge" ++ [0]).length) IFLA_INFO_KIND (cstr "bridge" ++ [0])),
        rtaAlign (5 + name.length) + 16) := by
  simp only [createBridgeData, rtaLength_eq, List.length_append, List.length_singleton, length_rtattr]
  refine Prod.ext rfl ?_
  show rtaAlign (4 + (name.length + 1)) + 4 + rtaAlign (4 + ((cstr "bridge").length + 1)) = _
  rw [show (cstr "bridge").length = 6 from rfl]
  unfold rtaAlign
  omega

/-- For every name of at most 15 bytes, the request of `netlink_create_bridge` decodes
exactly: `nlmsg_len` is the header, the `ifinfomsg` and the attributes written, inside
`req`; the attributes are `IFLA_IFNAME = name` and `IFLA_LINKINFO` holding
`IFLA_INFO_KIND = "bridge"`, and neither level leaves a byte over. -/
theorem netlinkCreateBridgeReq_exact (name : List UInt8) (seq pid : Nat) (hname : name.length ≤ 15) :
    let req := netlinkCreateBridgeReq name seq pid
    u32 req 0 = 32 + (createBridgeData name).1.length ∧ (createBridgeData name).1.length ≤ 256 ∧
      u32 req 0 ≤ req.length ∧
      ∃ linkinfo, rtaWalk ((req.take (u32 req 0)).drop 32) =
          ([(IFLA_IFNAME, name ++ [0]), (IFLA_LINKINFO, linkinfo)], 0) ∧
        rtaWalk linkinfo = ([(IFLA_INFO_KIND, cstr "bridge" ++ [0])], 0) := by
  intro req
  have hreq : req = linkReq 256 (nlmsgLength sizeofIfinfomsg + (createBridgeData name).2) seq pid
      (createBridgeData name).1 := rfl
  have h32 : nlmsgLength sizeofIfinfomsg = 32 := rfl
  have hkind : (rtattr (4 + (cstr "bridge" ++ [0]).length) IFLA_INFO_KIND (cstr "bridge" ++ [0])).length = 12 :=
    rfl
  have hA' : rtaAlign (5 + name.length) ≤ 20 := by unfold rtaAlign; omega
  have hdata : (createBridgeData name).1.length = rtaAlign (5 + name.length) + 16 := by
    rw [createBridgeData_eq]
    simp only [List.length_append, length_rtattr, List.length_singleton,
      show (cstr "bridge").length = 6 from rfl]
    unfold rtaAlign
    omega
  have hsnd : (createBridgeData name).2 = (createBridgeData name).1.length := by
    rw [hdata, createBridgeData_eq]
  obtain ⟨hlen, hsize, hsent⟩ := @linkReq_sent 256 (nlmsgLength sizeofIfinfomsg + (createBridgeData name).2)
    seq pid (createBridgeData name).1 (by omega) (by omega) (by omega) (by omega)
  refine ⟨by rw [hreq, hlen, h32, hsnd], by omega, by rw [hreq, hsize, hlen]; omega,
    rtattr (4 + (cstr "bridge" ++ [0]).length) IFLA_INFO_KIND (cstr "bridge" ++ [0]), ?_, ?_⟩
  · rw [hreq, hlen, hsent, show nlmsgLength sizeofIfinfomsg + (createBridgeData name).2 - 32 -
      (createBridgeData name).1.length = 0 by omega, zeros, List.replicate_zero, List.append_nil,
      createBridgeData_eq, rtaWalk_rtattr_exact (by simp; omega) (by decide),
      ← List.append_nil (rtattr _ IFLA_LINKINFO _), rtaWalk_rtattr_exact (by rw [hkind]; decide) (by decide),
      rtaWalk_nil]
  · rw [← List.append_nil (rtattr _ IFLA_INFO_KIND _), rtaWalk_rtattr_exact (by decide) (by decide), rtaWalk_nil]

/-- `netlink_create_bridge(handle, "microbox0")` as `ensure_bridge_exists` calls it, the first
request on its handle. -/
theorem netlinkCreateBridgeReq_exact_microbox0 :
    (cstr "microbox0").length ≤ 15 ∧
      let req := netlinkCreateBridgeReq (cstr "microbox0") 1 100
      u32 req 0 = 32 + (createBridgeData (cstr "microbox0")).1.length ∧
        (createBridgeData (cstr "microbox0")).1.length ≤ 256 ∧ u32 req 0 ≤ req.length ∧
        ∃ linkinfo, rtaWalk ((req.take (u32 req 0)).drop 32) =
            ([(IFLA_IFNAME, cstr "microbox0" ++ [0]), (IFLA_LINKINFO, linkinfo)], 0) ∧
          rtaWalk linkinfo = ([(IFLA_INFO_KIND, cstr "bridge" ++ [0])], 0) :=
  ⟨by decide, netlinkCreateBridgeReq_exact _ 1 100 (by decide)⟩

/-! ## The veth request overstates its lengths -/

/-- The veth peer's content as the code writes it: a zeroed `ifinfomsg`, then the peer's
`IFLA_IFNAME`. -/
def vethPeerPayload (name2 : List UInt8) : List UInt8 :=
  zeros sizeofIfinfomsg ++ rtattr (rtaLength (name2.length + 1)) IFLA_IFNAME (name2 ++ [0])

/-- `VETH_INFO_PEER` with the length the code gives it. -/
def vethPeer (name2 : List UInt8) : List UInt8 :=
  rtattr (36 + rtaAlign (5 + name2.length)) VETH_INFO_PEER (vethPeerPayload name2)

/-- `IFLA_INFO_DATA` with the length the code gives it. -/
def vethInfoData (name2 : List UInt8) : List UInt8 :=
  rtattr (44 + rtaAlign (5 + name2.length)) IFLA_INFO_DATA (vethPeer name2)

/-- `IFLA_INFO_KIND = "veth"`. -/
def vethKind : List UInt8 := rtattr (rtaLength ((cstr "veth").length + 1)) IFLA_INFO_KIND (cstr "veth" ++ [0])

/-- The lengths `netlink_create_veth_pair` computes: exact for the names and the kind,
`36 + A2`, `44 + A2` and `64 + A2` for the peer and the two containers, where `A2` is the
aligned length of the peer's name attribute. -/
theorem createVethPairData_eq (name1 name2 : List UInt8) :
    createVethPairData name1 name2 =
      (rtattr (rtaLength (name1.length + 1)) IFLA_IFNAME (name1 ++ [0]) ++
          rtattr (64 + rtaAlign (5 + name2.length)) IFLA_LINKINFO (vethKind ++ vethInfoData name2),
        rtaAlign (5 + name1.length) + 64 + rtaAlign (5 + name2.length)) := by
  have e₁ : rtaLength (nlmsgLength sizeofIfinfomsg + rtaAlign (rtaLength (name2.length + 1))) =
      36 + rtaAlign (5 + name2.length) := by
    simp only [rtaLength_eq, nlmsgLength, NLMSG_HDRLEN, nlmsgAlign, sizeofIfinfomsg]
    unfold rtaAlign
    omega
  have e₂ : rtaLength (rtaLength 0 + rtaAlign (36 + rtaAlign (5 + name2.length))) =
      44 + rtaAlign (5 + name2.length) := by
    rw [show 36 + rtaAlign (5 + name2.length) = 4 * 9 + rtaAlign (5 + name2.length) from rfl,
      rtaAlign_four_mul_add, rtaLength_eq, rtaLength_eq]
    omega
  have e₃ : rtaLength (rtaLength 0 + rtaAlign (rtaLength ((cstr "veth").length + 1)) +
      rtaAlign (44 + rtaAlign (5 + name2.length))) = 64 + rtaAlign (5 + name2.length) := by
    rw [show 44 + rtaAlign (5 + name2.length) = 4 * 11 + rtaAlign (5 + name2.length) from rfl,
      rtaAlign_four_mul_add, show rtaAlign (rtaLength ((cstr "veth").length + 1)) = 12 from rfl,
      rtaLength_eq, rtaLength_eq]
    omega
  have e₄ : rtaAlign (rtaLength (name1.length + 1)) + rtaAlign (64 + rtaAlign (5 + name2.length)) =
      rtaAlign (5 + name1.length) + 64 + rtaAlign (5 + name2.length) := by
    rw [show 64 + rtaAlign (5 + name2.length) = 4 * 16 + rtaAlign (5 + name2.length) from rfl,
      rtaAlign_four_mul_add, rtaLength_eq]
    unfold rtaAlign
    omega
  simp only [createVethPairData, e₁, e₂, e₃, e₄, vethKind, vethInfoData, vethPeer, vethPeerPayload]

theorem rtaLength_terminated (name : List UInt8) : rtaLength (name.length + 1) = 4 + (name ++ [0]).length := by
  simp [rtaLength_eq]

/-- A string attribute the code writes: `rta_len` is exact, and the aligned length is `A`. -/
theorem length_rtattr_terminated (name : List UInt8) (type : Nat) :
    (rtattr (rtaLength (name.length + 1)) type (name ++ [0])).length = rtaAlign (5 + name.length) := by
  rw [length_rtattr, List.length_append, List.length_singleton, show 4 + (name.length + 1) = 5 + name.length by omega]

/-- An attribute with an aligned payload whose `rta_len` claims `k` more bytes, followed by
`m ≥ k` zeros: the walk takes the `k` zeros into the payload and leaves the other `m - k`. -/
theorem rtaWalk_rtattr_over {len type k m : Nat} {payload : List UInt8}
    (hpad : rtaAlign (4 + payload.length) = 4 + payload.length) (hlen : len = 4 + payload.length + k)
    (hk : k % 4 = 0) (hm : k ≤ m) (hlen16 : len < 65536) (htype : type < 65536) :
    rtaWalk (rtattr len type payload ++ zeros m) = ([(type, payload ++ zeros k)], m - k) := by
  have hal : rtaAlign len = len := by subst hlen; unfold rtaAlign at hpad ⊢; omega
  rw [rtaWalk_rtattr_zeros (by omega) (by omega) hlen16 htype, hal, hpad,
    show len - (4 + payload.length) = k by omega, show 4 + payload.length + m - len = m - k by omega]

section Veth

variable (name1 name2 : List UInt8)

theorem length_vethPeerPayload :
    (vethPeerPayload name2).length = 16 + rtaAlign (5 + name2.length) := by
  rw [vethPeerPayload, List.length_append, length_zeros, length_rtattr_terminated]
  rfl

theorem length_vethPeer : (vethPeer name2).length = 20 + rtaAlign (5 + name2.length) := by
  rw [vethPeer, length_rtattr, length_vethPeerPayload, show 4 + (16 + rtaAlign (5 + name2.length)) =
    4 * 5 + rtaAlign (5 + name2.length) by omega, rtaAlign_four_mul_add]

theorem length_vethInfoData : (vethInfoData name2).length = 24 + rtaAlign (5 + name2.length) := by
  rw [vethInfoData, length_rtattr, length_vethPeer, show 4 + (20 + rtaAlign (5 + name2.length)) =
    4 * 6 + rtaAlign (5 + name2.length) by omega, rtaAlign_four_mul_add]

theorem length_createVethPairData :
    (createVethPairData name1 name2).1.length = rtaAlign (5 + name1.length) + 40 + rtaAlign (5 + name2.length) := by
  rw [createVethPairData_eq, List.length_append, length_rtattr_terminated, length_rtattr, List.length_append,
    length_vethInfoData, show vethKind.length = 12 from rfl, show 4 + (12 + (24 + rtaAlign (5 + name2.length))) =
      4 * 10 + rtaAlign (5 + name2.length) by omega, rtaAlign_four_mul_add]
  omega

variable {name1 name2}

theorem rtaAlign_name_le {name : List UInt8} (h : name.length ≤ 15) : rtaAlign (5 + name.length) ≤ 20 := by
  unfold rtaAlign
  omega

/-- `VETH_INFO_PEER` claims the 16 zeros after it. -/
theorem rtaWalk_vethPeer (h2 : name2.length ≤ 15) :
    rtaWalk (vethPeer name2 ++ zeros 20) = ([(VETH_INFO_PEER, vethPeerPayload name2 ++ zeros 16)], 4) := by
  have := rtaAlign_name_le h2
  rw [vethPeer]
  exact rtaWalk_rtattr_over (by rw [length_vethPeerPayload, show 4 + (16 + rtaAlign (5 + name2.length)) =
    4 * 5 + rtaAlign (5 + name2.length) by omega, rtaAlign_four_mul_add]) (by rw [length_vethPeerPayload]; omega)
    rfl (by decide) (by omega) (by decide)

/-- The peer's `ifinfomsg` and name decode, with 16 zero bytes left over. -/
theorem rtaWalk_vethPeerPayload (h2 : name2.length ≤ 15) :
    (vethPeerPayload name2 ++ zeros 16).take sizeofIfinfomsg = zeros sizeofIfinfomsg ∧
      rtaWalk ((vethPeerPayload name2 ++ zeros 16).drop sizeofIfinfomsg) = ([(IFLA_IFNAME, name2 ++ [0])], 16) := by
  rw [vethPeerPayload, List.append_assoc]
  refine ⟨List.take_left' (length_zeros _), ?_⟩
  rw [List.drop_left' (length_zeros _), rtaLength_terminated,
    rtaWalk_rtattr_exact (by simp; omega) (by decide), rtaWalk_zeros]

/-- `IFLA_INFO_DATA` claims 20 bytes past the peer's. -/
theorem rtaWalk_vethInfoData (h2 : name2.length ≤ 15) :
    rtaWalk (vethInfoData name2 ++ zeros 24) = ([(IFLA_INFO_DATA, vethPeer name2 ++ zeros 20)], 4) := by
  have := rtaAlign_name_le h2
  rw [vethInfoData]
  exact rtaWalk_rtattr_over (by rw [length_vethPeer, show 4 + (20 + rtaAlign (5 + name2.length)) =
    4 * 6 + rtaAlign (5 + name2.length) by omega, rtaAlign_four_mul_add]) (by rw [length_vethPeer]; omega)
    rfl (by decide) (by omega) (by decide)

/-- Inside `IFLA_LINKINFO`: the kind, then `IFLA_INFO_DATA`, with 4 zero bytes left over. -/
theorem rtaWalk_vethLinkinfo (h2 : name2.length ≤ 15) :
    rtaWalk (vethKind ++ vethInfoData name2 ++ zeros 24) =
      ([(IFLA_INFO_KIND, cstr "veth" ++ [0]), (IFLA_INFO_DATA, vethPeer name2 ++ zeros 20)], 4) := by
  rw [vethKind, List.append_assoc, rtaLength_terminated, rtaWalk_rtattr_exact (by decide) (by decide),
    rtaWalk_vethInfoData h2]

/-- The request's attributes, with the 24 bytes `nlmsg_len` claims past them: `IFLA_IFNAME`,
then `IFLA_LINKINFO`, which takes the 24 zeros into its payload. -/
theorem rtaWalk_vethData (h1 : name1.length ≤ 15) (h2 : name2.length ≤ 15) :
    rtaWalk ((createVethPairData name1 name2).1 ++ zeros 24) =
      ([(IFLA_IFNAME, name1 ++ [0]), (IFLA_LINKINFO, vethKind ++ vethInfoData name2 ++ zeros 24)], 0) := by
  have := rtaAlign_name_le h1
  have := rtaAlign_name_le h2
  have hlen : (vethKind ++ vethInfoData name2).length = 36 + rtaAlign (5 + name2.length) := by
    rw [List.length_append, length_vethInfoData, show vethKind.length = 12 from rfl]
    omega
  rw [createVethPairData_eq, List.append_assoc, rtaLength_terminated,
    rtaWalk_rtattr_exact (by simp; omega) (by decide),
    @rtaWalk_rtattr_over (64 + rtaAlign (5 + name2.length)) IFLA_LINKINFO 24 24 (vethKind ++ vethInfoData name2)
      (by rw [hlen, show 4 + (36 + rtaAlign (5 + name2.length)) = 4 * 10 + rtaAlign (5 + name2.length) by omega,
        rtaAlign_four_mul_add]) (by rw [hlen]; omega) rfl (by decide) (by omega) (by decide)]

/-- `nlmsg_len` runs 24 bytes past the attributes written, inside `req`, and `sendmsg` sends
them followed by 24 zeros. -/
theorem netlinkCreateVethPairReq_sent (seq pid : Nat) (h1 : name1.length ≤ 15) (h2 : name2.length ≤ 15) :
    let req := netlinkCreateVethPairReq name1 name2 seq pid
    u32 req 0 = 32 + (createVethPairData name1 name2).1.length + 24 ∧ u32 req 0 ≤ req.length ∧
      (req.take (u32 req 0)).drop 32 = (createVethPairData name1 name2).1 ++ zeros 24 := by
  intro req
  have := rtaAlign_name_le h1
  have := rtaAlign_name_le h2
  have hdata := length_createVethPairData name1 name2
  have hsnd : nlmsgLength sizeofIfinfomsg + (createVethPairData name1 name2).2 =
      32 + (createVethPairData name1 name2).1.length + 24 := by
    rw [hdata, createVethPairData_eq, show nlmsgLength sizeofIfinfomsg = 32 from rfl]
    dsimp only
    omega
  obtain ⟨hlen, hsize, hsent⟩ := @linkReq_sent 512 (nlmsgLength sizeofIfinfomsg + (createVethPairData name1 name2).2)
    seq pid (createVethPairData name1 name2).1 (by omega) (by omega) (by omega) (by omega)
  have hreq : req = linkReq 512 (nlmsgLength sizeofIfinfomsg + (createVethPairData name1 name2).2) seq pid
      (createVethPairData name1 name2).1 := rfl
  refine ⟨by rw [hreq, hlen, hsnd], by rw [hreq, hsize, hlen]; omega, ?_⟩
  rw [hreq, hlen, hsent, hsnd, show ∀ l, 32 + l + 24 - 32 - l = 24 by omega]

end Veth

/-- For every two names of at most 15 bytes, the request of `netlink_create_veth_pair` does
not decode exactly: `nlmsg_len` is 24 bytes more than the header, the `ifinfomsg` and the
attributes written; `IFLA_LINKINFO` and `IFLA_INFO_DATA` each leave 4 bytes over, and after
the peer's `IFLA_IFNAME` 16 bytes are left over.  The names and the kind still decode. -/
theorem netlinkCreateVethPairReq_overstated (name1 name2 : List UInt8) (seq pid : Nat)
    (h1 : name1.length ≤ 15) (h2 : name2.length ≤ 15) :
    let req := netlinkCreateVethPairReq name1 name2 seq pid
    u32 req 0 = 32 + (createVethPairData name1 name2).1.length + 24 ∧ u32 req 0 ≤ req.length ∧
      ∃ linkinfo infodata peer,
        rtaWalk ((req.take (u32 req 0)).drop 32) = ([(IFLA_IFNAME, name1 ++ [0]), (IFLA_LINKINFO, linkinfo)], 0) ∧
        rtaWalk linkinfo = ([(IFLA_INFO_KIND, cstr "veth" ++ [0]), (IFLA_INFO_DATA, infodata)], 4) ∧
        rtaWalk infodata = ([(VETH_INFO_PEER, peer)], 4) ∧
        peer.take sizeofIfinfomsg = zeros sizeofIfinfomsg ∧
        rtaWalk (peer.drop sizeofIfinfomsg) = ([(IFLA_IFNAME, name2 ++ [0])], 16) := by
  obtain ⟨hlen, hin, hsent⟩ := netlinkCreateVethPairReq_sent seq pid h1 h2
  obtain ⟨htake, hpeer⟩ := rtaWalk_vethPeerPayload h2
  exact ⟨hlen, hin, _, _, _, by rw [hsent, rtaWalk_vethData h1 h2], rtaWalk_vethLinkinfo h2, rtaWalk_vethPeer h2,
    htake, hpeer⟩

/-- Names of one and of fifteen bytes, in the first request on a handle. -/
theorem netlinkCreateVethPairReq_overstated_short_long :
    (cstr "a").length ≤ 15 ∧ (cstr "abcdefghijklmno").length ≤ 15 ∧
      let req := netlinkCreateVethPairReq (cstr "a") (cstr "abcdefghijklmno") 1 100
      u32 req 0 = 32 + (createVethPairData (cstr "a") (cstr "abcdefghijklmno")).1.length + 24 ∧
        u32 req 0 ≤ req.length ∧
        ∃ linkinfo infodata peer,
          rtaWalk ((req.take (u32 req 0)).drop 32) =
            ([(IFLA_IFNAME, cstr "a" ++ [0]), (IFLA_LINKINFO, linkinfo)], 0) ∧
          rtaWalk linkinfo = ([(IFLA_INFO_KIND, cstr "veth" ++ [0]), (IFLA_INFO_DATA, infodata)], 4) ∧
          rtaWalk infodata = ([(VETH_INFO_PEER, peer)], 4) ∧
          peer.take sizeofIfinfomsg = zeros sizeofIfinfomsg ∧
          rtaWalk (peer.drop sizeofIfinfomsg) = ([(IFLA_IFNAME, cstr "abcdefghijklmno" ++ [0])], 16) :=
  ⟨by decide, by decide, netlinkCreateVethPairReq_overstated _ _ 1 100 (by decide) (by decide)⟩

/-- `netlink_create_veth_pair` with the names `setup_veth_pair` passes for the child PID 1001:
`nlmsg_len` is 120 where 96 bytes were written, and `IFLA_LINKINFO`, `IFLA_INFO_DATA` and
`VETH_INFO_PEER` leave 4, 4 and 16 bytes over. -/
theorem netlinkCreateVethPair_mbx239 (seq pid : Nat) :
    u32 (netlinkCreateVethPairReq (cstr "mbx239h") (cstr "mbx239c") seq pid) 0 = 120 ∧
      32 + (createVethPairData (cstr "mbx239h") (cstr "mbx239c")).1.length = 96 ∧
      ∃ linkinfo infodata peer,
        rtaWalk (((netlinkCreateVethPairReq (cstr "mbx239h") (cstr "mbx239c") seq pid).take 120).drop 32) =
          ([(IFLA_IFNAME, cstr "mbx239h" ++ [0]), (IFLA_LINKINFO, linkinfo)], 0) ∧
        rtaWalk linkinfo = ([(IFLA_INFO_KIND, cstr "veth" ++ [0]), (IFLA_INFO_DATA, infodata)], 4) ∧
        rtaWalk infodata = ([(VETH_INFO_PEER, peer)], 4) ∧
        rtaWalk (peer.drop sizeofIfinfomsg) = ([(IFLA_IFNAME, cstr "mbx239c" ++ [0])], 16) := by
  have h1 : (cstr "mbx239h").length ≤ 15 := by decide
  have h2 : (cstr "mbx239c").length ≤ 15 := by decide
  have hdata : (createVethPairData (cstr "mbx239h") (cstr "mbx239c")).1.length = 64 := by
    rw [length_createVethPairData]
    rfl
  obtain ⟨hlen, -, hsent⟩ := netlinkCreateVethPairReq_sent seq pid h1 h2
  have hlen' : u32 (netlinkCreateVethPairReq (cstr "mbx239h") (cstr "mbx239c") seq pid) 0 = 120 := by
    rw [hlen, hdata]
  refine ⟨hlen', by rw [hdata], _, _, _, ?_, rtaWalk_vethLinkinfo h2, rtaWalk_vethPeer h2,
    (rtaWalk_vethPeerPayload h2).2⟩
  rw [← hlen', hsent, rtaWalk_vethData h1 h2]

end Microbox
