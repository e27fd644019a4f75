import Mathlib.Algebra.Group.Int
import Mathlib.Data.List.Basic

/-!
# Netlink messages as bytes

`netlink.c` writes its requests into zeroed structures and reads the replies from a byte
buffer, through the macros of `linux/netlink.h` and `linux/rtnetlink.h`.  This module has
those macros over `Nat` and byte lists: the alignment and length macros, the
little-endian header fields of the machines the sandbox runs on, and `rtaWalk`, the walk of
`RTA_OK` and `RTA_NEXT`.  The kernel parses the attributes of a request with the same
walk (`nla_ok`, `nla_next`), so `rtaWalk` is also how a request decodes; what it leaves
over when `RTA_OK` fails is the kernel's "bytes leftover after parsing attributes".

`rtattr` is one attribute as the code lays it out: the `rta_len` the code computes, the
type, the payload it writes after the header, and zeros up to the next 4-byte boundary.
When `rta_len` is exactly the header and the payload, `rtaWalk` reads the attribute back
(`rtaWalk_rtattr_exact`); `rtaWalk_rtattr` says what it reads otherwise.
-/

namespace Microbox

/-! ## Alignment and lengths -/

/-- `NLMSG_ALIGN(len)`. -/
def nlmsgAlign (len : Nat) : Nat := (len + 3) / 4 * 4

/-- `NLMSG_HDRLEN`: `sizeof(struct nlmsghdr)`, aligned. -/
def NLMSG_HDRLEN : Nat := nlmsgAlign 16

/-- `NLMSG_LENGTH(len)`. -/
def nlmsgLength (len : Nat) : Nat := len + NLMSG_HDRLEN

/-- `RTA_ALIGN(len)`. -/
def rtaAlign (len : Nat) : Nat := (len + 3) / 4 * 4

/-- `RTA_LENGTH(len)`. -/
def rtaLength (len : Nat) : Nat := rtaAlign 4 + len

/-- `sizeof(struct ifinfomsg)`. -/
def sizeofIfinfomsg : Nat := 16

/-- `sizeof(struct rtmsg)`. -/
def sizeofRtmsg : Nat := 12

/-- `sizeof(struct ifaddrmsg)`. -/
def sizeofIfaddrmsg : Nat := 8

/-- `NETLINK_BUFFER_SIZE`, the size of every reply buffer. -/
def NETLINK_BUFFER_SIZE : Nat := 8192

@[simp] theorem rtaAlign_rtaAlign (len : Nat) : rtaAlign (rtaAlign len) = rtaAlign len := by
  unfold rtaAlign
  omega

theorem le_rtaAlign (len : Nat) : len ≤ rtaAlign len := by
  unfold rtaAlign
  omega

theorem rtaAlign_add_four (len : Nat) : rtaAlign (len + 4) = rtaAlign len + 4 := by
  unfold rtaAlign
  omega

/-! ## Message types, flags and attribute types -/

/-- `NLMSG_ERROR`. -/
def NLMSG_ERROR : Nat := 2
/-- `NLMSG_DONE`. -/
def NLMSG_DONE : Nat := 3
/-- `RTM_NEWLINK`. -/
def RTM_NEWLINK : Nat := 16
/-- `RTM_NEWROUTE`. -/
def RTM_NEWROUTE : Nat := 24
/-- `RTM_GETROUTE`. -/
def RTM_GETROUTE : Nat := 26
/-- `NLM_F_REQUEST`. -/
def NLM_F_REQUEST : Nat := 0x1
/-- `NLM_F_ACK`. -/
def NLM_F_ACK : Nat := 0x4
/-- `NLM_F_EXCL`. -/
def NLM_F_EXCL : Nat := 0x200
/-- `NLM_F_CREATE`. -/
def NLM_F_CREATE : Nat := 0x400
/-- `NLM_F_DUMP`. -/
def NLM_F_DUMP : Nat := 0x300
/-- `AF_INET`. -/
def AF_INET : Nat := 2
/-- `IFLA_IFNAME`. -/
def IFLA_IFNAME : Nat := 3
/-- `IFLA_LINKINFO`. -/
def IFLA_LINKINFO : Nat := 18
/-- `IFLA_INFO_KIND`. -/
def IFLA_INFO_KIND : Nat := 1
/-- `IFLA_INFO_DATA`. -/
def IFLA_INFO_DATA : Nat := 2
/-- `VETH_INFO_PEER`. -/
def VETH_INFO_PEER : Nat := 1
/-- `RTA_OIF`. -/
def RTA_OIF : Nat := 4
/-- `RTM_DELLINK`. -/
def RTM_DELLINK : Nat := 17
/-- `RTM_SETLINK`. -/
def RTM_SETLINK : Nat := 19
/-- `RTM_NEWADDR`. -/
def RTM_NEWADDR : Nat := 20
/-- `AF_UNSPEC`. -/
def AF_UNSPEC : Nat := 0
/-- `IFF_UP`. -/
def IFF_UP : Nat := 0x1
/-- `IFLA_MASTER`. -/
def IFLA_MASTER : Nat := 10
/-- `IFLA_NET_NS_PID`. -/
def IFLA_NET_NS_PID : Nat := 19
/-- `IFA_ADDRESS`. -/
def IFA_ADDRESS : Nat := 1
/-- `IFA_LOCAL`. -/
def IFA_LOCAL : Nat := 2
/-- `IFA_F_PERMANENT`. -/
def IFA_F_PERMANENT : Nat := 0x80
/-- `RTA_GATEWAY`. -/
def RTA_GATEWAY : Nat := 5
/-- `RT_TABLE_MAIN`. -/
def RT_TABLE_MAIN : Nat := 254
/-- `RTPROT_STATIC`. -/
def RTPROT_STATIC : Nat := 4
/-- `RT_SCOPE_UNIVERSE`. -/
def RT_SCOPE_UNIVERSE : Nat := 0
/-- `RTN_UNICAST`. -/
def RTN_UNICAST : Nat := 1

/-! ## Bytes -/

/-- `n` zero bytes: what a zeroed structure holds where the code writes nothing. -/
def zeros (n : Nat) : List UInt8 := List.replicate n 0

/-- The bytes of an ASCII string, without its terminator. -/
def cstr (s : String) : List UInt8 := s.toList.map fun c => UInt8.ofNat c.toNat

/-- A 16-bit field, least significant byte first. -/
def le16 (v : Nat) : List UInt8 := [UInt8.ofNat v, UInt8.ofNat (v / 256)]

/-- A 32-bit field, least significant byte first. -/
def le32 (v : Nat) : List UInt8 := le16 (v % 65536) ++ le16 (v / 65536)

/-- The 16-bit field at `off`. -/
def u16 (bs : List UInt8) (off : Nat) : Nat :=
  (bs.getD off 0).toNat + 256 * (bs.getD (off + 1) 0).toNat

/-- The 32-bit field at `off`. -/
def u32 (bs : List UInt8) (off : Nat) : Nat := u16 bs off + 65536 * u16 bs (off + 2)

@[simp] theorem length_zeros (n : Nat) : (zeros n).length = n := List.length_replicate _ _

@[simp] theorem length_le16 (v : Nat) : (le16 v).length = 2 := rfl

@[simp] theorem length_le32 (v : Nat) : (le32 v).length = 4 := rfl

theorem zeros_add (m n : Nat) : zeros (m + n) = zeros m ++ zeros n := List.replicate_add _ _ _

theorem u16_le16_append {v : Nat} (hv : v < 65536) (rest : List UInt8) : u16 (le16 v ++ rest) 0 = v := by
  show (UInt8.ofNat v).toNat + 256 * (UInt8.ofNat (v / 256)).toNat = v
  change v % 256 + 256 * (v / 256 % 256) = v
  omega

theorem u16_append_of_le {a : List UInt8} (rest : List UInt8) {off : Nat} (h : off + 2 ≤ a.length) :
    u16 (a ++ rest) off = u16 a off := by
  simp only [u16, List.getD_eq_getElem?_getD, List.getElem?_append_left (show off < a.length by omega),
    List.getElem?_append_left (show off + 1 < a.length by omega)]

theorem u16_append_right (a : List UInt8) (rest : List UInt8) (off : Nat) :
    u16 (a ++ rest) (a.length + off) = u16 rest off := by
  simp only [u16, List.getD_eq_getElem?_getD, Nat.add_assoc, List.getElem?_append_right (Nat.le_add_right _ _),
    Nat.add_sub_cancel_left]

theorem u16_le16_append_two (a : Nat) (rest : List UInt8) : u16 (le16 a ++ rest) 2 = u16 rest 0 := rfl

theorem u32_le32_append {v : Nat} (hv : v < 2 ^ 32) (rest : List UInt8) : u32 (le32 v ++ rest) 0 = v := by
  have h₁ : u16 (le32 v ++ rest) 0 = v % 65536 := by
    rw [le32, List.append_assoc, u16_le16_append (Nat.mod_lt _ (by decide))]
  have h₂ : u16 (le32 v ++ rest) 2 = v / 65536 := by
    rw [le32, List.append_assoc, u16_le16_append_two, u16_le16_append (by omega)]
  rw [u32, h₁, h₂]
  omega

theorem u16_zeros_append (n : Nat) (rest : List UInt8) (h : 2 ≤ n) : u16 (zeros n ++ rest) 0 = 0 := by
  obtain ⟨k, rfl⟩ : ∃ k, n = k + 2 := ⟨n - 2, by omega⟩
  rfl

/-! ## The attribute walk -/

/-- `RTA_OK` and `RTA_NEXT` over `bs`: the type and payload of each attribute, and the bytes
left when `RTA_OK` fails.  A last attribute whose aligned length runs past the end leaves
nothing. -/
def rtaWalk (bs : List UInt8) : List (Nat × List UInt8) × Nat :=
  if 4 ≤ bs.length ∧ 4 ≤ u16 bs 0 ∧ u16 bs 0 ≤ bs.length then
    let rest := rtaWalk (bs.drop (rtaAlign (u16 bs 0)))
    ((u16 bs 2, (bs.take (u16 bs 0)).drop 4) :: rest.1, rest.2)
  else ([], bs.length)
termination_by bs.length
decreasing_by
  simp only [List.length_drop]
  have : u16 bs 0 ≤ rtaAlign (u16 bs 0) := le_rtaAlign _
  omega

/-- An attribute as the code lays it out: its `rta_len`, its type, the payload the code writes
after the header, and zeros up to the next 4-byte boundary. -/
def rtattr (len type : Nat) (payload : List UInt8) : List UInt8 :=
  le16 len ++ le16 type ++ payload ++ zeros (rtaAlign (4 + payload.length) - (4 + payload.length))

@[simp] theorem length_rtattr (len type : Nat) (payload : List UInt8) :
    (rtattr len type payload).length = rtaAlign (4 + payload.length) := by
  have := le_rtaAlign (4 + payload.length)
  simp only [rtattr, List.length_append, length_le16, length_zeros]
  omega

theorem rtaWalk_of_short {bs : List UInt8} (h : bs.length < 4 ∨ u16 bs 0 < 4) :
    rtaWalk bs = ([], bs.length) := by
  rw [rtaWalk, if_neg (by omega)]

@[simp] theorem rtaWalk_zeros (n : Nat) : rtaWalk (zeros n) = ([], n) := by
  rcases Nat.lt_or_ge n 4 with h | h
  · simpa using @rtaWalk_of_short (zeros n) (.inl (by simpa using h))
  · have := u16_zeros_append n [] (by omega)
    rw [List.append_nil] at this
    simpa using @rtaWalk_of_short (zeros n) (.inr (by omega))

/-- The walk reads an attribute's `rta_len` and type back, whatever its payload; the
payload it takes is the next `rta_len - 4` bytes, and it goes on after `RTA_ALIGN(rta_len)`. -/
theorem rtaWalk_rtattr {len type : Nat} {payload rest : List UInt8} (hlen : 4 ≤ len)
    (hlen16 : len < 65536) (htype : type < 65536)
    (hfit : len ≤ (rtattr len type payload ++ rest).length) :
    rtaWalk (rtattr len type payload ++ rest) =
      (((type, ((rtattr len type payload ++ rest).take len).drop 4) ::
        (rtaWalk ((rtattr len type payload ++ rest).drop (rtaAlign len))).1),
        (rtaWalk ((rtattr len type payload ++ rest).drop (rtaAlign len))).2) := by
  have hl : u16 (rtattr len type payload ++ rest) 0 = len := by
    rw [rtattr, List.append_assoc, List.append_assoc, List.append_assoc, u16_le16_append hlen16]
  have ht : u16 (rtattr len type payload ++ rest) 2 = type := by
    rw [rtattr, List.append_assoc, List.append_assoc, List.append_assoc, u16_le16_append_two,
      u16_le16_append htype]
  rw [rtaWalk, if_pos ⟨by omega, by omega, by omega⟩, hl, ht]

/-- An attribute whose `rta_len` is exactly its header and payload decodes to that payload,
and the walk goes on right after its padding. -/
theorem rtaWalk_rtattr_exact {type : Nat} {payload rest : List UInt8}
    (hlen16 : 4 + payload.length < 65536) (htype : type < 65536) :
    rtaWalk (rtattr (4 + payload.length) type payload ++ rest) =
      ((type, payload) :: (rtaWalk rest).1, (rtaWalk rest).2) := by
  have hal := le_rtaAlign (4 + payload.length)
  rw [rtaWalk_rtattr (by omega) hlen16 htype (by simp; omega)]
  have htake : ((rtattr (4 + payload.length) type payload ++ rest).take (4 + payload.length)).drop 4 =
      payload := by
    have hsplit : rtattr (4 + payload.length) type payload ++ rest =
        (le16 (4 + payload.length) ++ le16 type ++ payload) ++
          (zeros (rtaAlign (4 + payload.length) - (4 + payload.length)) ++ rest) := by
      simp [rtattr]
    rw [hsplit, List.take_left' (by simp; omega), List.drop_left' (by simp)]
  have hdrop : (rtattr (4 + payload.length) type payload ++ rest).drop (rtaAlign (4 + payload.length)) =
      rest := by
    rw [List.drop_left' (length_rtattr _ _ _)]
  rw [htake, hdrop]

end Microbox
