import Microbox.Netlink.Message
import Microbox.Netlink.Socket

/-!
# What `netlink_get_default_interface` finds in a route dump

The kernel answers the `RTM_GETROUTE` dump with one `RTM_NEWROUTE` message per route, an
`rtmsg` and its attributes, and ends it with `NLMSG_DONE`.  `DumpRoute.bytes`, `dumpBytes` and
`doneBytes` write these messages as `rtnetlink` does, each attribute padded to 4 bytes
(`attrBytes`).  `defaultOif` says what `netlink_get_default_interface` (`netlink.c`) is for:
among the IPv4 default routes (`rtm_dst_len == 0`), in order, the first `RTA_OIF` index that
`if_indextoname` knows.

*Attributes.*  The attribute loop over the attributes of a route ends at the first `RTA_OIF`
with a known index, or when `RTA_OK` fails at the end of the message (`rtaLoop_attrsBytes`).
Its fuel, `len / 4 + 1` rounds, covers every attribute, since each takes at least 4 bytes.

*Messages.*  The message walk over the route messages finds `defaultOif`, or goes on with
whatever follows them (`msgWalk_dumpBytes`).  It reads each header's `nlmsg_len` and type only,
so the flags, `seq` and `pid` of the messages play no part.

*The function.*  For one datagram that ends with `NLMSG_DONE` the walk ends with the index
`defaultOif` names, or at `NLMSG_DONE` (`getDefaultInterfaceWalk_dump`).  For a dump that the
kernel splits over datagrams, `netlink_get_default_interface` writes the name of the index
`defaultOif` finds to `iface` and returns `0`, and returns `-1` (`ENOENT`) when it finds none
(`netlinkGetDefaultInterface_dump`).
-/

namespace Microbox

/-! ## The dump as the kernel writes it -/

/-- An attribute as the kernel writes it: `rta_len = RTA_LENGTH(payload length)`, the payload,
and the padding to the next 4-byte boundary. -/
def attrBytes (a : Nat × List UInt8) : List UInt8 := rtattr (rtaLength a.2.length) a.1 a.2

/-- The attributes, one after another. -/
def attrsBytes : List (Nat × List UInt8) → List UInt8
  | [] => []
  | a :: as => attrBytes a ++ attrsBytes as

/-- An attribute `rtnetlink` can write: its type and `rta_len` fit their `__u16`, and an
`RTA_OIF` holds an `int`. -/
def AttrFits (a : Nat × List UInt8) : Prop :=
  a.1 < 65536 ∧ 4 + a.2.length < 65536 ∧ (a.1 = RTA_OIF → a.2.length = 4)

/-- One route of the dump. -/
structure DumpRoute where
  /-- The `rtmsg`. -/
  rtm : Rtmsg
  /-- The attributes (`RTA_TABLE`, `RTA_GATEWAY`, `RTA_OIF`, ...), in the kernel's order. -/
  attrs : List (Nat × List UInt8)

/-- A route `rtnetlink` can write. -/
def DumpRoute.Fits (r : DumpRoute) : Prop := r.rtm.Fits ∧ ∀ a ∈ r.attrs, AttrFits a

/-- The `RTM_NEWROUTE` message of a route, with the header's flags, `seq` and `pid`. -/
def DumpRoute.bytes (flags seq pid : Nat) (r : DumpRoute) : List UInt8 :=
  (⟨nlmsgLength sizeofRtmsg + (attrsBytes r.attrs).length, RTM_NEWROUTE, flags, seq, pid⟩ : Nlmsghdr).bytes ++
    r.rtm.bytes ++ attrsBytes r.attrs

/-- The messages of the routes, one after another. -/
def dumpBytes (flags seq pid : Nat) : List DumpRoute → List UInt8
  | [] => []
  | r :: rs => r.bytes flags seq pid ++ dumpBytes flags seq pid rs

/-- `NLMSG_DONE`, whose payload is the `int` `0`. -/
def doneBytes (flags seq pid : Nat) : List UInt8 :=
  (⟨nlmsgLength 4, NLMSG_DONE, flags, seq, pid⟩ : Nlmsghdr).bytes ++ le32 0

/-! ## What the function looks for -/

/-- The indexes of the `RTA_OIF` attributes, in order. -/
def oifs (attrs : List (Nat × List UInt8)) : List Int :=
  attrs.filterMap fun a => if a.1 = RTA_OIF then some (i32 a.2 0) else none

/-- An IPv4 default route: `rtm_dst_len == 0 && rtm_family == AF_INET`. -/
def DumpRoute.isDefault (r : DumpRoute) : Bool := r.rtm.rtm_dst_len = 0 && r.rtm.rtm_family = AF_INET

/-- The output interface of the default route: over the IPv4 default routes in order, the
first `RTA_OIF` index that `ifName` (`if_indextoname`) knows. -/
def defaultOif (ifName : Int → Option String) (routes : List DumpRoute) : Option Int :=
  ((routes.filter DumpRoute.isDefault).flatMap fun r => oifs r.attrs).find? fun i => (ifName i).isSome

theorem find?_oifs_cons (p : Int → Bool) (a : Nat × List UInt8) (as : List (Nat × List UInt8)) :
    (oifs (a :: as)).find? p =
      if a.1 = RTA_OIF ∧ p (i32 a.2 0) then some (i32 a.2 0) else (oifs as).find? p := by
  by_cases ht : a.1 = RTA_OIF <;> by_cases hp : p (i32 a.2 0) <;> simp [oifs, ht, hp]

theorem defaultOif_cons (ifName : Int → Option String) (r : DumpRoute) (rs : List DumpRoute) :
    defaultOif ifName (r :: rs) =
      if r.isDefault then ((oifs r.attrs).find? fun i => (ifName i).isSome).or (defaultOif ifName rs)
      else defaultOif ifName rs := by
  by_cases hd : r.isDefault <;> simp [defaultOif, List.filter_cons, hd, List.find?_append]

/-! ## Lengths -/

@[simp] theorem length_attrBytes (a : Nat × List UInt8) : (attrBytes a).length = rtaAlign (4 + a.2.length) :=
  length_rtattr _ _ _

theorem length_attrsBytes (attrs : List (Nat × List UInt8)) :
    4 * attrs.length ≤ (attrsBytes attrs).length ∧ (attrsBytes attrs).length % 4 = 0 := by
  induction attrs with
  | nil => simp [attrsBytes]
  | cons a as ih =>
    have h₁ := le_rtaAlign (4 + a.2.length)
    have h₂ : rtaAlign (4 + a.2.length) % 4 = 0 := Nat.mul_mod_left _ _
    simp only [attrsBytes, List.length_append, length_attrBytes, List.length_cons]
    omega

@[simp] theorem length_rtmsgBytes (m : Rtmsg) : m.bytes.length = 12 := rfl

theorem nlmsgLength_rtmsg : nlmsgLength sizeofRtmsg = 28 := rfl

@[simp] theorem DumpRoute.length_bytes (flags seq pid : Nat) (r : DumpRoute) :
    (r.bytes flags seq pid).length = 28 + (attrsBytes r.attrs).length := by
  simp [DumpRoute.bytes]
  omega

theorem length_dumpBytes (flags seq pid : Nat) (routes : List DumpRoute) :
    28 * routes.length ≤ (dumpBytes flags seq pid routes).length := by
  induction routes with
  | nil => simp [dumpBytes]
  | cons r rs ih =>
    simp only [dumpBytes, List.length_append, DumpRoute.length_bytes, List.length_cons]
    omega

/-! ## The attribute loop -/

theorem i32_append_of_length {v : List UInt8} (hv : v.length = 4) (rest : List UInt8) :
    i32 (v ++ rest) 0 = i32 v 0 := by
  simp only [i32, u32, u16_append_of_le rest (show 0 + 2 ≤ v.length by omega),
    u16_append_of_le rest (show 0 + 2 + 2 ≤ v.length by omega)]

/-- The fields the attribute loop reads from an attribute the kernel wrote. -/
theorem attrBytes_reads {a : Nat × List UInt8} (ha : AttrFits a) (pre rest : List UInt8) :
    u16 (pre ++ attrBytes a ++ rest) pre.length = 4 + a.2.length ∧
      u16 (pre ++ attrBytes a ++ rest) (pre.length + 2) = a.1 ∧
      (a.1 = RTA_OIF → i32 (pre ++ attrBytes a ++ rest) (pre.length + 4) = i32 a.2 0) := by
  obtain ⟨htype, hlen, hoif⟩ := ha
  simp only [attrBytes, rtattr, rtaLength, List.append_assoc, show rtaAlign 4 = 4 from rfl]
  refine ⟨?_, ?_, fun h => ?_⟩
  · rw [← Nat.add_zero pre.length, u16_append_at rfl, u16_le16_append hlen]
  · rw [u16_append_at rfl, u16_le16_append_two, u16_le16_append htype]
  · rw [i32_append_at rfl, i32_append_ge _ (by simp), i32_append_ge _ (by simp)]
    simp only [length_le16, Nat.reduceSub]
    exact i32_append_of_length (hoif h) _

section Loop

variable {ifName : Int → Option String} {msg msgLen : Nat}

/-- The attribute loop over the attributes the kernel wrote ends at the first `RTA_OIF` whose
index `ifName` knows, or, when there is none, where `RTA_OK` fails at the end of the message. -/
theorem rtaLoop_attrsBytes {attrs : List (Nat × List UInt8)} (hattrs : ∀ a ∈ attrs, AttrFits a) :
    ∀ {pre rest : List UInt8} {fuel : Nat}, attrs.length < fuel →
      (rtaLoop (pre ++ attrsBytes attrs ++ rest) ifName msg msgLen fuel pre.length (attrsBytes attrs).length).1 =
        ((oifs attrs).find? fun i => (ifName i).isSome).elim .exhausted .found := by
  induction attrs with
  | nil =>
    intro pre rest fuel hfuel
    obtain ⟨f, rfl⟩ : ∃ f, fuel = f + 1 := ⟨fuel - 1, by simp at hfuel; omega⟩
    simp [rtaLoop, attrsBytes, oifs]
  | cons a as ih =>
    intro pre rest fuel hfuel
    obtain ⟨f, rfl⟩ : ∃ f, fuel = f + 1 := ⟨fuel - 1, by simp at hfuel; omega⟩
    have ha := hattrs a (List.mem_cons_self _ _)
    have hbuf : pre ++ attrsBytes (a :: as) ++ rest = pre ++ attrBytes a ++ (attrsBytes as ++ rest) := by
      simp only [attrsBytes, List.append_assoc]
    obtain ⟨hrtaLen, hrtaType, hoif⟩ := attrBytes_reads ha pre (attrsBytes as ++ rest)
    have hpad := le_rtaAlign (4 + a.2.length)
    have hlen : ((attrsBytes (a :: as)).length : Int) = rtaAlign (4 + a.2.length) + (attrsBytes as).length := by
      simp [attrsBytes]
    have hnext := @ih (fun b hb => hattrs b (List.mem_cons_of_mem _ hb)) (pre ++ attrBytes a) rest f
      (by simp at hfuel; omega)
    simp only [List.length_append, length_attrBytes, List.append_assoc] at hnext
    rw [hbuf, rtaLoop, if_neg (by omega)]
    dsimp only
    rw [hrtaLen, if_neg (by omega), hrtaType, find?_oifs_cons,
      show ((attrsBytes (a :: as)).length : Int) - rtaAlign (4 + a.2.length) = (attrsBytes as).length by omega]
    by_cases ht : a.1 = RTA_OIF
    · rw [if_pos ht, hoif ht]
      cases hn : ifName (i32 a.2 0)
      · simp [ht, hn, hnext]
      · simp [ht, hn]
    · rw [if_neg ht]
      simp [ht, hnext]

end Loop

/-! ## The message walk -/

theorem Nlmsghdr.len_type_reads {h : Nlmsghdr} (hl : h.nlmsg_len < 2 ^ 32) (ht : h.nlmsg_type < 65536)
    (pre rest : List UInt8) :
    u32 (pre ++ h.bytes ++ rest) pre.length = h.nlmsg_len ∧
      u16 (pre ++ h.bytes ++ rest) (pre.length + 4) = h.nlmsg_type := by
  simp only [Nlmsghdr.bytes, List.append_assoc]
  constructor
  · rw [← Nat.add_zero pre.length, u32_append_at rfl, u32_le32_append hl]
  · rw [u16_append_at rfl, u16_append_ge _ (by simp), length_le32, Nat.sub_self, u16_le16_append ht]

/-- The fields the walk reads from the `rtmsg` of a route the kernel wrote. -/
theorem DumpRoute.rtm_reads {r : DumpRoute} (hr : r.rtm.Fits) (flags seq pid : Nat) (pre rest : List UInt8) :
    ((pre ++ r.bytes flags seq pid ++ rest).getD (pre.length + 16) 0).toNat = r.rtm.rtm_family ∧
      ((pre ++ r.bytes flags seq pid ++ rest).getD (pre.length + 17) 0).toNat = r.rtm.rtm_dst_len := by
  have hread := Rtmsg.read_bytes_append hr (attrsBytes r.attrs ++ rest)
  have e : ∀ off, (pre ++ r.bytes flags seq pid ++ rest).getD (pre.length + 16 + off) 0 =
      (r.rtm.bytes ++ (attrsBytes r.attrs ++ rest)).getD off 0 := fun off => by
    rw [DumpRoute.bytes, List.append_assoc, List.append_assoc, List.append_assoc, ← List.append_assoc pre,
      ← getD_drop, List.drop_left' (by simp)]
  exact ⟨(e 0).symm ▸ congrArg Rtmsg.rtm_family hread, (e 1).symm ▸ congrArg Rtmsg.rtm_dst_len hread⟩

section Walk

variable {ifName : Int → Option String} {flags seq pid : Nat}

/-- The body of the walk for a route message: nothing unless the route is an IPv4 default
route, and then the first `RTA_OIF` index `ifName` knows. -/
theorem routeBody_bytes {r : DumpRoute} (hr : r.Fits) (pre rest : List UInt8) :
    (routeBody (pre ++ r.bytes flags seq pid ++ rest) ifName pre.length (r.bytes flags seq pid).length).1 =
      if r.isDefault then ((oifs r.attrs).find? fun i => (ifName i).isSome).elim .exhausted .found
      else .exhausted := by
  obtain ⟨hfamily, hdst⟩ := DumpRoute.rtm_reads hr.1 flags seq pid pre rest
  have hattrs := length_attrsBytes r.attrs
  have hloop := @rtaLoop_attrsBytes ifName pre.length (28 + (attrsBytes r.attrs).length) r.attrs hr.2
    (pre ++ (⟨nlmsgLength sizeofRtmsg + (attrsBytes r.attrs).length, RTM_NEWROUTE, flags, seq, pid⟩ : Nlmsghdr).bytes ++
      r.rtm.bytes) rest ((attrsBytes r.attrs).length / 4 + 1) (by omega)
  simp only [List.length_append, Nlmsghdr.length_bytes, length_rtmsgBytes] at hloop
  rw [routeBody]
  dsimp only
  rw [hdst, hfamily, DumpRoute.isDefault]
  by_cases hd : r.rtm.rtm_dst_len = 0
  · by_cases hf : r.rtm.rtm_family = AF_INET
    · rw [if_neg (not_not.mpr hd), if_neg (not_not.mpr hf), DumpRoute.length_bytes,
        nlmsgLength_rtmsg, show ((28 + (attrsBytes r.attrs).length : Nat) : Int) - (28 : Nat) =
          (attrsBytes r.attrs).length by omega,
        Int.toNat_ofNat, show pre.length + 16 + nlmsgAlign sizeofRtmsg = pre.length + 16 + 12 from rfl]
      simp only [DumpRoute.bytes, List.append_assoc] at hloop ⊢
      simp [hd, hf, hloop]
    · rw [if_neg (not_not.mpr hd), if_pos hf]
      simp [hf]
  · rw [if_pos hd]
    simp [hd]

theorem DumpRoute.header_reads {r : DumpRoute} (hl : (r.bytes flags seq pid).length < 2 ^ 32)
    (pre rest : List UInt8) :
    u32 (pre ++ r.bytes flags seq pid ++ rest) pre.length = (r.bytes flags seq pid).length ∧
      u16 (pre ++ r.bytes flags seq pid ++ rest) (pre.length + 4) = RTM_NEWROUTE := by
  have h := @Nlmsghdr.len_type_reads ⟨28 + (attrsBytes r.attrs).length, RTM_NEWROUTE, flags, seq, pid⟩
    (by simpa using hl) (show RTM_NEWROUTE < 65536 by decide) pre (r.rtm.bytes ++ attrsBytes r.attrs ++ rest)
  rw [DumpRoute.length_bytes]
  simpa only [DumpRoute.bytes, List.append_assoc, nlmsgLength_rtmsg] using h

theorem nlmsgAlign_of_mod {n : Nat} (h : n % 4 = 0) : nlmsgAlign n = n := by
  unfold nlmsgAlign
  omega

/-- The message walk over the route messages finds `defaultOif`, or, when there is none, goes
on after them with the fuel and the bytes left. -/
theorem msgWalk_dumpBytes {routes : List DumpRoute} (hr : ∀ r ∈ routes, r.Fits)
    (hsize : (dumpBytes flags seq pid routes).length < 2 ^ 32) :
    ∀ (pre rest : List UInt8) (fuel : Nat) (bytes : Int), ((dumpBytes flags seq pid routes).length : Int) ≤ bytes →
      (msgWalk (pre ++ dumpBytes flags seq pid routes ++ rest) ifName (routes.length + fuel) pre.length bytes).1 =
        (defaultOif ifName routes).elim
          (msgWalk (pre ++ dumpBytes flags seq pid routes ++ rest) ifName fuel
            (pre.length + (dumpBytes flags seq pid routes).length) (bytes - (dumpBytes flags seq pid routes).length)).1
          .found := by
  induction routes with
  | nil => intro pre rest fuel bytes _; simp [dumpBytes, defaultOif]
  | cons r rs ih =>
    intro pre rest fuel bytes hbytes
    have hr₁ := hr r (List.mem_cons_self _ _)
    have hlen : (dumpBytes flags seq pid (r :: rs)).length =
        (r.bytes flags seq pid).length + (dumpBytes flags seq pid rs).length := by simp [dumpBytes]
    have hmsg := DumpRoute.length_bytes flags seq pid r
    have hmod := (length_attrsBytes r.attrs).2
    have hbuf : pre ++ dumpBytes flags seq pid (r :: rs) ++ rest =
        pre ++ r.bytes flags seq pid ++ (dumpBytes flags seq pid rs ++ rest) := by simp [dumpBytes]
    obtain ⟨hnlen, htype⟩ :=
      @DumpRoute.header_reads flags seq pid r (by omega) pre (dumpBytes flags seq pid rs ++ rest)
    have hnext := ih (fun b hb => hr b (List.mem_cons_of_mem _ hb)) (by omega) (pre ++ r.bytes flags seq pid) rest
      fuel (bytes - (r.bytes flags seq pid).length) (by omega)
    have e₁ : (pre ++ r.bytes flags seq pid).length + (dumpBytes flags seq pid rs).length =
        pre.length + ((r.bytes flags seq pid).length + (dumpBytes flags seq pid rs).length) := by
      simp only [List.length_append, Nat.add_assoc]
    have e₂ : bytes - ((r.bytes flags seq pid).length : Int) - (dumpBytes flags seq pid rs).length =
        bytes - (((r.bytes flags seq pid).length + (dumpBytes flags seq pid rs).length : Nat) : Int) := by
      push_cast
      omega
    rw [e₁, e₂, List.append_assoc] at hnext
    rw [hlen, hbuf, show (r :: rs).length + fuel = rs.length + fuel + 1 by simp; omega, msgWalk, if_neg (by omega)]
    dsimp only
    rw [hnlen, if_neg (by omega), htype, if_neg (by decide), if_neg (by decide), if_neg (by decide),
      routeBody_bytes hr₁, defaultOif_cons, nlmsgAlign_of_mod (by omega)]
    by_cases hd : r.isDefault
    · cases hf : (oifs r.attrs).find? fun i => (ifName i).isSome
      · simpa [hd, hf] using hnext
      · simp [hd, hf]
    · simpa [hd] using hnext

/-- `NLMSG_DONE` ends the walk. -/
theorem msgWalk_doneBytes (pre : List UInt8) (fuel : Nat) {bytes : Int} (hb : 20 ≤ bytes) :
    (msgWalk (pre ++ doneBytes flags seq pid) ifName (fuel + 1) pre.length bytes).1 = .done := by
  obtain ⟨hnlen, htype⟩ := @Nlmsghdr.len_type_reads ⟨nlmsgLength 4, NLMSG_DONE, flags, seq, pid⟩
    (show nlmsgLength 4 < 2 ^ 32 by decide) (show NLMSG_DONE < 65536 by decide) pre (le32 0)
  rw [doneBytes, ← List.append_assoc, msgWalk, if_neg (by omega)]
  dsimp only
  rw [hnlen, if_neg (show ¬(nlmsgLength 4 < 16 ∨ bytes < (nlmsgLength 4 : Nat)) from fun h => by
    rw [show nlmsgLength 4 = 20 from rfl] at h; omega), htype, if_pos rfl]

/-- At the end of the received bytes `NLMSG_OK` fails: the walk asks for the next datagram. -/
theorem msgWalk_end (buf : List UInt8) (fuel resp : Nat) : (msgWalk buf ifName (fuel + 1) resp 0).1 = .more := by
  simp [msgWalk]

end Walk

theorem defaultOif_append (ifName : Int → Option String) (l₁ l₂ : List DumpRoute) :
    defaultOif ifName (l₁ ++ l₂) = (defaultOif ifName l₁).or (defaultOif ifName l₂) := by
  simp [defaultOif, List.filter_append, List.flatMap_append, List.find?_append]

/-! ## The function -/

section Function

variable (ifName : Int → Option String) (flags seq pid : Nat) {routes : List DumpRoute}

/-- For every datagram of route messages the kernel ends with `NLMSG_DONE`, the walk ends with
the `RTA_OIF` index of the first IPv4 default route that `if_indextoname` knows, or at
`NLMSG_DONE` when there is none. -/
theorem getDefaultInterfaceWalk_dump (hr : ∀ r ∈ routes, r.Fits)
    (hsize : (dumpBytes flags seq pid routes).length < 2 ^ 32) :
    (getDefaultInterfaceWalk (dumpBytes flags seq pid routes ++ doneBytes flags seq pid)
        ((dumpBytes flags seq pid routes).length + 20) ifName).1 = (defaultOif ifName routes).elim .done .found := by
  have hL := length_dumpBytes flags seq pid routes
  obtain ⟨f, hf⟩ : ∃ f, ((dumpBytes flags seq pid routes).length + 20) / 16 + 1 = routes.length + (f + 1) :=
    ⟨((dumpBytes flags seq pid routes).length + 20) / 16 - routes.length, by omega⟩
  have h := @msgWalk_dumpBytes ifName flags seq pid routes hr hsize [] (doneBytes flags seq pid) (f + 1)
    ((dumpBytes flags seq pid routes).length + 20 : Nat) (by omega)
  simp only [List.nil_append, List.length_nil, Nat.zero_add] at h
  rw [getDefaultInterfaceWalk, hf, h]
  cases defaultOif ifName routes
  · exact msgWalk_doneBytes _ f (by push_cast; omega)
  · rfl

/-- A datagram of route messages without `NLMSG_DONE`: the walk ends with the index, or asks for
the next datagram. -/
theorem getDefaultInterfaceWalk_part (hr : ∀ r ∈ routes, r.Fits)
    (hsize : (dumpBytes flags seq pid routes).length < 2 ^ 32) :
    (getDefaultInterfaceWalk (dumpBytes flags seq pid routes) (dumpBytes flags seq pid routes).length ifName).1 =
      (defaultOif ifName routes).elim .more .found := by
  have hL := length_dumpBytes flags seq pid routes
  obtain ⟨f, hf⟩ : ∃ f, (dumpBytes flags seq pid routes).length / 16 + 1 = routes.length + (f + 1) :=
    ⟨(dumpBytes flags seq pid routes).length / 16 - routes.length, by omega⟩
  have h := @msgWalk_dumpBytes ifName flags seq pid routes hr hsize [] [] (f + 1)
    ((dumpBytes flags seq pid routes).length : Nat) (Int.le_refl _)
  simp only [List.nil_append, List.length_nil, Nat.zero_add, List.append_nil, sub_self] at h
  rw [getDefaultInterfaceWalk, hf, h]
  cases defaultOif ifName routes
  · exact msgWalk_end _ f _
  · rfl

/-- The datagrams of a dump the kernel splits into parts: each part's route messages in one
datagram, and the last part's followed by `NLMSG_DONE`. -/
def dumpDatagrams (parts : List (List DumpRoute)) (last : List DumpRoute) : List (List UInt8 × Nat) :=
  parts.map (fun p => (dumpBytes flags seq pid p, (dumpBytes flags seq pid p).length)) ++
    [(dumpBytes flags seq pid last ++ doneBytes flags seq pid, (dumpBytes flags seq pid last).length + 20)]

/-- A part the kernel can send: routes `rtnetlink` can write, in fewer than `2 ^ 32` bytes. -/
def PartFits (p : List DumpRoute) : Prop := (∀ r ∈ p, r.Fits) ∧ (dumpBytes flags seq pid p).length < 2 ^ 32

theorem dumpLoop_dumpDatagrams (sq : Nat) {last : List DumpRoute} (hlast : PartFits flags seq pid last) :
    ∀ {parts : List (List DumpRoute)}, (∀ p ∈ parts, PartFits flags seq pid p) →
      let loop := dumpLoop (fun d => (getDefaultInterfaceWalk d.buf d.bytes ifName).1) sq
        (List.replicate (parts.length + 1) .ok)
        ((dumpDatagrams flags seq pid parts last).map fun d => ⟨sq, d.1, d.2⟩)
      loop.found = defaultOif ifName (parts.flatten ++ last) ∧
        loop.ret = some (if (defaultOif ifName (parts.flatten ++ last)).isSome then 0 else -1)
  | [], _ => by
    simp only [dumpDatagrams, List.map_nil, List.nil_append, List.map_cons, List.length_nil, Nat.zero_add,
      List.replicate_one, dumpLoop, netlinkRecvResponse, List.flatten_nil]
    rw [getDefaultInterfaceWalk_dump ifName flags seq pid hlast.1 hlast.2]
    rcases (defaultOif ifName last).eq_none_or_eq_some with hd | ⟨i, hd⟩ <;> simp [hd]
  | p :: ps, hparts => by
    have hp := hparts p (List.mem_cons_self _ _)
    have ih := dumpLoop_dumpDatagrams sq hlast fun q hq => hparts q (List.mem_cons_of_mem _ hq)
    simp only [dumpDatagrams, List.map_cons, List.cons_append, List.length_cons, List.replicate_succ,
      dumpLoop, netlinkRecvResponse] at ih ⊢
    rw [getDefaultInterfaceWalk_part ifName flags seq pid hp.1 hp.2, List.flatten_cons, List.append_assoc,
      defaultOif_append]
    rcases (defaultOif ifName p).eq_none_or_eq_some with hd | ⟨i, hd⟩
    · simpa [hd] using ih
    · simp [hd]

/-- For every dump the kernel splits into datagrams at message boundaries, the last ending with
`NLMSG_DONE`, on a handle with nothing queued, when the send and every `recvmsg` succeed:
`netlink_get_default_interface` writes to `iface` the name of the first `RTA_OIF` index among
the IPv4 default routes that `if_indextoname` knows, and returns `0` exactly when there is one,
`-1` (`ENOENT`) otherwise. -/
theorem netlinkGetDefaultInterface_dump {env : OpEnv} {h : NetlinkHandle} {parts : List (List DumpRoute)}
    {last : List DumpRoute} (hq : h.queue = []) (hsend : env.sendFails = false)
    (hparts : ∀ p ∈ parts, PartFits flags seq pid p) (hlast : PartFits flags seq pid last)
    (hdump : env.dump = dumpDatagrams flags seq pid parts last)
    (hrecvs : env.recvs = List.replicate (parts.length + 1) .ok) :
    (netlinkGetDefaultInterface env h).iface = (defaultOif env.ifName (parts.flatten ++ last)).bind env.ifName ∧
      (netlinkGetDefaultInterface env h).ret =
        some (if (defaultOif env.ifName (parts.flatten ++ last)).isSome then 0 else -1) := by
  rw [netlinkGetDefaultInterface, if_neg (by simp [hsend])]
  simp only [hq, List.nil_append, hdump, hrecvs]
  obtain ⟨hfound, hret⟩ := dumpLoop_dumpDatagrams env.ifName flags seq pid h.seq hlast hparts
  exact ⟨congrArg (Option.bind · env.ifName) hfound, hret⟩

/-- A dump in two datagrams: a link route to `192.168.1.0/24`, then the default route via
`192.168.1.1` on interface `2`, `eth0`, and `NLMSG_DONE`.  The first datagram has no default
route, the second has one: the function writes `eth0` and returns `0`. -/
theorem netlinkGetDefaultInterface_dump_eth0 :
    let lan : DumpRoute := ⟨⟨AF_INET, 24, 0, 0, RT_TABLE_MAIN, 2, 253, 1, 0⟩,
      [(15, le32 RT_TABLE_MAIN), (1, [192, 168, 1, 0]), (RTA_OIF, le32 2)]⟩
    let dflt : DumpRoute := ⟨⟨AF_INET, 0, 0, 0, RT_TABLE_MAIN, 3, 0, 1, 0⟩,
      [(15, le32 RT_TABLE_MAIN), (RTA_GATEWAY, [192, 168, 1, 1]), (RTA_OIF, le32 2)]⟩
    let env : OpEnv := ⟨false, false, ([], 0), dumpDatagrams 2 1 100 [[lan]] [dflt], [.ok, .ok],
      fun i => if i = 2 then some "eth0" else none⟩
    (netlinkGetDefaultInterface env netlinkOpen).iface = some "eth0" ∧
      (netlinkGetDefaultInterface env netlinkOpen).ret = some 0 := by
  intro lan dflt env
  have hlan : ∀ p ∈ [[lan]], PartFits 2 1 100 p := by
    simp only [List.mem_singleton, forall_eq, PartFits, DumpRoute.Fits, Rtmsg.Fits, AttrFits]
    decide
  have hdflt : PartFits 2 1 100 [dflt] := by
    simp only [PartFits, DumpRoute.Fits, Rtmsg.Fits, AttrFits]
    decide
  obtain ⟨hiface, hret⟩ :=
    @netlinkGetDefaultInterface_dump 2 1 100 env netlinkOpen [[lan]] [dflt] rfl rfl hlan hdflt rfl rfl
  rw [hiface, hret]
  decide

end Function

end Microbox
