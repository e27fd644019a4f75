import Microbox.Netlink.Wire

/-!
# The route dump of `netlink_get_default_interface`

`netlink_get_default_interface` (`netlink.c`) receives the route dump into
`buffer[NETLINK_BUFFER_SIZE]` and walks each datagram with `NLMSG_OK` and `NLMSG_NEXT`.
It stops at `NLMSG_DONE`, fails on `NLMSG_ERROR` with the message's `err->error`, and in an
`RTM_NEWROUTE` message of an IPv4 default route walks the attributes with `RTA_OK` and
`RTA_NEXT` until an `RTA_OIF` whose index `if_indextoname` knows.  Here `buf` is the buffer
after `recvmsg` and `bytes` what it returned; the walks log every field they read, with
the message it belongs to.

Both walks take fuel, and the fuel the model gives them always suffices
(`msgWalk_ne_outOfFuel`, `rtaLoop_ne_outOfFuel`): each step moves on by at least 16 and 4
bytes.  `NLMSG_OK` bounds a message by the received bytes, and `RTA_OK` an attribute by its
message.  Nothing bounds the fields read inside them: `err->error`, the `rtmsg`, and the
`RTA_OIF` payload are read whatever `nlmsg_len` and `rta_len` say, so they lie in their
message only when it is long enough (`getDefaultInterfaceWalk_reads`), and up to four bytes
past the received bytes otherwise.
-/

namespace Microbox

/-- The 32-bit signed field at `off`. -/
def i32 (bs : List UInt8) (off : Nat) : Int :=
  if u32 bs off < 2 ^ 31 then u32 bs off else (u32 bs off : Int) - 2 ^ 32

/-- The fields the walks read. -/
inductive Field
  /-- `nlmsg_len`, read by `NLMSG_OK`. -/
  | nlmsgLen
  /-- `nlmsg_type`. -/
  | nlmsgType
  /-- `err->error` of an `NLMSG_ERROR` message. -/
  | error
  /-- `rt->rtm_dst_len`. -/
  | rtmDstLen
  /-- `rt->rtm_family`. -/
  | rtmFamily
  /-- `rta_len`, read by `RTA_OK`. -/
  | rtaLen
  /-- `rta_type`. -/
  | rtaType
  /-- The `int` at `RTA_DATA` of an `RTA_OIF` attribute with this `rta_len`. -/
  | oif (rta_len : Nat)
deriving DecidableEq, Repr

/-- A field read: which, where, how many bytes, and the message it belongs to. -/
structure FieldRead where
  /-- The field. -/
  field : Field
  /-- Its offset in the buffer. -/
  off : Nat
  /-- Its size. -/
  size : Nat
  /-- The offset of its message. -/
  msg : Nat
  /-- The message's length as far as the code has checked it: its `nlmsg_len` once `NLMSG_OK`
  has passed, the 16-byte header `NLMSG_OK` checks before it reads `nlmsg_len`. -/
  msgLen : Nat
deriving DecidableEq, Repr

/-- How the attribute loop ends. -/
inductive RtaEnd
  /-- An `RTA_OIF` with an index `if_indextoname` knows: `found = 1; goto done`. -/
  | found (ifindex : Int)
  /-- `RTA_OK` failed. -/
  | exhausted
  /-- The fuel ran out. -/
  | outOfFuel
deriving DecidableEq, Repr

/-- How the message loop over one datagram ends. -/
inductive WalkEnd
  /-- `NLMSG_DONE`: `goto done`. -/
  | done
  /-- `NLMSG_ERROR`: `errno = -err->error; return -1`. -/
  | error (errno : Int)
  /-- A default route's output interface. -/
  | found (ifindex : Int)
  /-- `NLMSG_OK` failed: the `while` loop receives the next datagram. -/
  | more
  /-- The fuel ran out. -/
  | outOfFuel
deriving DecidableEq, Repr

/-- `for (rta = RTM_RTA(rt); RTA_OK(rta, len); rta = RTA_NEXT(rta, len))` in the message at
`msg`, with `ifName` the host's `if_indextoname`. -/
def rtaLoop (buf : List UInt8) (ifName : Int → Option String) (msg msgLen : Nat) :
    (fuel : Nat) → (rta : Nat) → (len : Int) → RtaEnd × List FieldRead
  | 0, _, _ => (.outOfFuel, [])
  | fuel + 1, rta, len =>
    if len < 4 then (.exhausted, [])
    else
      let rta_len := u16 buf rta
      let r₀ : FieldRead := ⟨.rtaLen, rta, 2, msg, msgLen⟩
      if rta_len < 4 ∨ len < rta_len then (.exhausted, [r₀])
      else
        let r₁ : FieldRead := ⟨.rtaType, rta + 2, 2, msg, msgLen⟩
        let next := rtaLoop buf ifName msg msgLen fuel (rta + rtaAlign rta_len) (len - rtaAlign rta_len)
        if u16 buf (rta + 2) = RTA_OIF then
          let ifindex := i32 buf (rta + 4)
          let r₂ : FieldRead := ⟨.oif rta_len, rta + 4, 4, msg, msgLen⟩
          match ifName ifindex with
          | some _ => (.found ifindex, [r₀, r₁, r₂])
          | none => (next.1, r₀ :: r₁ :: r₂ :: next.2)
        else (next.1, r₀ :: r₁ :: next.2)

/-- The body of the message loop for an `RTM_NEWROUTE` message at `resp`: the default-route
test `rt->rtm_dst_len == 0 && rt->rtm_family == AF_INET`, then the attribute loop with
`len = nlmsg_len - NLMSG_LENGTH(sizeof(*rt))`, given the fuel that bounds it. -/
def routeBody (buf : List UInt8) (ifName : Int → Option String) (resp nlmsg_len : Nat) :
    RtaEnd × List FieldRead :=
  let r₀ : FieldRead := ⟨.rtmDstLen, resp + 17, 1, resp, nlmsg_len⟩
  if (buf.getD (resp + 17) 0).toNat ≠ 0 then (.exhausted, [r₀])
  else
    let r₁ : FieldRead := ⟨.rtmFamily, resp + 16, 1, resp, nlmsg_len⟩
    if (buf.getD (resp + 16) 0).toNat ≠ AF_INET then (.exhausted, [r₀, r₁])
    else
      let len : Int := (nlmsg_len : Int) - nlmsgLength sizeofRtmsg
      let loop := rtaLoop buf ifName resp nlmsg_len (len.toNat / 4 + 1) (resp + 16 + nlmsgAlign sizeofRtmsg) len
      (loop.1, r₀ :: r₁ :: loop.2)

/-- `for (resp = buffer; NLMSG_OK(resp, bytes); resp = NLMSG_NEXT(resp, bytes))` from `resp`,
with `bytes` what is left of the datagram. -/
def msgWalk (buf : List UInt8) (ifName : Int → Option String) :
    (fuel : Nat) → (resp : Nat) → (bytes : Int) → WalkEnd × List FieldRead
  | 0, _, _ => (.outOfFuel, [])
  | fuel + 1, resp, bytes =>
    if bytes < 16 then (.more, [])
    else
      let nlmsg_len := u32 buf resp
      let r₀ : FieldRead := ⟨.nlmsgLen, resp, 4, resp, 16⟩
      if nlmsg_len < 16 ∨ bytes < nlmsg_len then (.more, [r₀])
      else
        let type := u16 buf (resp + 4)
        let r₁ : FieldRead := ⟨.nlmsgType, resp + 4, 2, resp, nlmsg_len⟩
        let next := msgWalk buf ifName fuel (resp + nlmsgAlign nlmsg_len) (bytes - nlmsgAlign nlmsg_len)
        if type = NLMSG_DONE then (.done, [r₀, r₁])
        else if type = NLMSG_ERROR then
          (.error (-i32 buf (resp + 16)), [r₀, r₁, ⟨.error, resp + 16, 4, resp, nlmsg_len⟩])
        else if type ≠ RTM_NEWROUTE then (next.1, r₀ :: r₁ :: next.2)
        else
          let route := routeBody buf ifName resp nlmsg_len
          match route.1 with
          | .found ifindex => (.found ifindex, r₀ :: r₁ :: route.2)
          | .outOfFuel => (.outOfFuel, r₀ :: r₁ :: route.2)
          | .exhausted => (next.1, r₀ :: r₁ :: route.2 ++ next.2)

/-- The walk of one received datagram of `bytes` bytes. -/
def getDefaultInterfaceWalk (buf : List UInt8) (bytes : Nat) (ifName : Int → Option String) :
    WalkEnd × List FieldRead :=
  msgWalk buf ifName (bytes / 16 + 1) 0 bytes

/-! ### Termination -/

section Walks

variable {buf : List UInt8} {ifName : Int → Option String}

/-- `RTA_NEXT` moves on by `RTA_ALIGN(rta_len) ≥ 4`, so `len / 4 + 1` rounds suffice. -/
theorem rtaLoop_ne_outOfFuel {msg msgLen : Nat} :
    ∀ {fuel rta : Nat} {len : Int}, len.toNat < 4 * fuel →
      (rtaLoop buf ifName msg msgLen fuel rta len).1 ≠ .outOfFuel
  | 0, _, _, h => by omega
  | fuel + 1, rta, len, h => by
    rw [rtaLoop]
    by_cases hlen : len < 4
    · rw [if_pos hlen]; simp
    rw [if_neg hlen]; dsimp only
    by_cases hok : u16 buf rta < 4 ∨ len < u16 buf rta
    · rw [if_pos hok]; simp
    have hnext : (rtaLoop buf ifName msg msgLen fuel (rta + rtaAlign (u16 buf rta))
        (len - rtaAlign (u16 buf rta))).1 ≠ .outOfFuel :=
      rtaLoop_ne_outOfFuel (by have := le_rtaAlign (u16 buf rta); omega)
    rw [if_neg hok]
    split_ifs
    · split
      · simp
      · exact hnext
    · exact hnext

theorem routeBody_ne_outOfFuel (resp nlmsg_len : Nat) :
    (routeBody buf ifName resp nlmsg_len).1 ≠ .outOfFuel := by
  simp only [routeBody]
  split_ifs
  · simp
  · simp
  · exact rtaLoop_ne_outOfFuel (by omega)

/-- `NLMSG_NEXT` moves on by `NLMSG_ALIGN(nlmsg_len) ≥ 16`, so `bytes / 16 + 1` rounds suffice. -/
theorem msgWalk_ne_outOfFuel :
    ∀ {fuel resp : Nat} {bytes : Int}, bytes.toNat < 16 * fuel →
      (msgWalk buf ifName fuel resp bytes).1 ≠ .outOfFuel
  | 0, _, _, h => by omega
  | fuel + 1, resp, bytes, h => by
    rw [msgWalk]
    by_cases hlen : bytes < 16
    · rw [if_pos hlen]; simp
    rw [if_neg hlen]; dsimp only
    by_cases hok : u32 buf resp < 16 ∨ bytes < u32 buf resp
    · rw [if_pos hok]; simp
    have hnext : (msgWalk buf ifName fuel (resp + nlmsgAlign (u32 buf resp))
        (bytes - nlmsgAlign (u32 buf resp))).1 ≠ .outOfFuel :=
      msgWalk_ne_outOfFuel (by unfold nlmsgAlign; omega)
    rw [if_neg hok]
    split_ifs
    all_goals try simp only [ne_eq, reduceCtorEq, not_false_eq_true]
    · exact hnext
    · split
      · simp
      · exact absurd ‹_› (routeBody_ne_outOfFuel _ _)
      · exact hnext

/-- Both walks of `netlink_get_default_interface` end, whatever the datagram holds. -/
theorem getDefaultInterfaceWalk_ne_outOfFuel (buf : List UInt8) (bytes : Nat)
    (ifName : Int → Option String) : (getDefaultInterfaceWalk buf bytes ifName).1 ≠ .outOfFuel :=
  msgWalk_ne_outOfFuel (by omega)

/-! ### Where the walks read -/

/-- The message or attribute is shorter than the field read from it: an `nlmsgerr` in fewer
than 20 bytes, an `rtmsg` field past the end of the message, an `RTA_OIF` payload in fewer than
4 bytes of attribute. -/
def FieldRead.Short (r : FieldRead) : Prop :=
  match r.field with
  | .error => r.msgLen < 20
  | .rtmDstLen => r.msgLen < 18
  | .rtmFamily => r.msgLen < 17
  | .oif rta_len => rta_len < 8
  | _ => False

/-- The read starts in its message, and ends in it unless the message or attribute is `Short`,
when it ends at most four bytes past the message. -/
def FieldRead.Bounded (r : FieldRead) : Prop :=
  r.msg ≤ r.off ∧
    (r.off + r.size ≤ r.msg + r.msgLen ∨ r.Short ∧ r.off + r.size ≤ r.msg + r.msgLen + 4)

/-- `RTA_OK` keeps each attribute inside the message (`rta + len` is the message's end); only
an `RTA_OIF` payload can leave it, when `rta_len < 8`. -/
theorem rtaLoop_reads {msg msgLen : Nat} :
    ∀ {fuel rta : Nat} {len : Int}, msg ≤ rta → (rta : Int) + len = msg + msgLen →
      ∀ r ∈ (rtaLoop buf ifName msg msgLen fuel rta len).2,
        r.msg = msg ∧ r.msgLen = msgLen ∧ r.Bounded
  | 0, _, _, _, _ => by simp [rtaLoop]
  | fuel + 1, rta, len, hmsg, hend => by
    have hnext := @rtaLoop_reads msg msgLen fuel (rta + rtaAlign (u16 buf rta))
      (len - rtaAlign (u16 buf rta)) (by omega) (by push_cast; omega)
    have := le_rtaAlign (u16 buf rta)
    rw [rtaLoop]
    by_cases hlen : len < 4
    · rw [if_pos hlen]; simp
    rw [if_neg hlen]; dsimp only
    by_cases hok : u16 buf rta < 4 ∨ len < u16 buf rta
    · rw [if_pos hok]
      simp only [List.forall_mem_singleton, true_and, FieldRead.Bounded, FieldRead.Short]; omega
    rw [if_neg hok]
    split_ifs
    all_goals try split
    all_goals simp only [List.mem_cons, List.mem_singleton, List.not_mem_nil, or_false,
      forall_eq_or_imp, forall_eq, true_and, FieldRead.Bounded, FieldRead.Short, false_and]
    · exact ⟨by omega, by omega, by omega⟩
    · exact ⟨by omega, by omega, by omega, hnext⟩
    · exact ⟨by omega, by omega, hnext⟩

/-- The `rtmsg` fields lie in the message when it holds them, and the attribute loop starts at
`RTM_RTA(rt)` with `rta + len` the message's end. -/
theorem routeBody_reads {resp nlmsg_len : Nat} (h16 : 16 ≤ nlmsg_len) :
    ∀ r ∈ (routeBody buf ifName resp nlmsg_len).2, r.msg = resp ∧ r.msgLen = nlmsg_len ∧ r.Bounded := by
  have hloop := @rtaLoop_reads buf ifName resp nlmsg_len ((nlmsg_len - nlmsgLength sizeofRtmsg : Int).toNat / 4 + 1)
    (resp + 16 + nlmsgAlign sizeofRtmsg) (nlmsg_len - nlmsgLength sizeofRtmsg) (by omega)
    (by simp only [nlmsgAlign, nlmsgLength, NLMSG_HDRLEN, sizeofRtmsg]; push_cast; omega)
  simp only [routeBody]
  split_ifs
  all_goals simp only [List.mem_cons, List.mem_singleton, List.not_mem_nil, or_false,
    forall_eq_or_imp, forall_eq, true_and, FieldRead.Bounded, FieldRead.Short]
  · omega
  · exact ⟨by omega, by omega⟩
  · exact ⟨by omega, by omega, hloop⟩

/-- The route body reads `rtm_dst_len` first, whatever the message holds. -/
theorem routeBody_log_head (resp nlmsg_len : Nat) :
    ∃ t, (routeBody buf ifName resp nlmsg_len).2 = ⟨.rtmDstLen, resp + 17, 1, resp, nlmsg_len⟩ :: t := by
  simp only [routeBody]
  split_ifs <;> exact ⟨_, rfl⟩

/-- `NLMSG_OK` keeps each message inside the received bytes (`resp + bytes` is their end). -/
theorem msgWalk_reads {n : Nat} :
    ∀ {fuel resp : Nat} {bytes : Int}, (resp : Int) + bytes = n →
      ∀ r ∈ (msgWalk buf ifName fuel resp bytes).2, r.msg + r.msgLen ≤ n ∧ r.Bounded
  | 0, _, _, _ => by simp [msgWalk]
  | fuel + 1, resp, bytes, hend => by
    have hnext := @msgWalk_reads n fuel (resp + nlmsgAlign (u32 buf resp))
      (bytes - nlmsgAlign (u32 buf resp)) (by push_cast; omega)
    have hroute : 16 ≤ u32 buf resp → (resp : Int) + u32 buf resp ≤ n →
        ∀ r ∈ (routeBody buf ifName resp (u32 buf resp)).2, r.msg + r.msgLen ≤ n ∧ r.Bounded :=
      fun h16 hle r hr => by
        obtain ⟨hmsg, hlen, hb⟩ := routeBody_reads h16 r hr
        exact ⟨by omega, hb⟩
    rw [msgWalk]
    by_cases hlen : bytes < 16
    · simp [hlen]
    rw [if_neg hlen]; dsimp only
    -- `NLMSG_OK` fails, `NLMSG_DONE`, `NLMSG_ERROR`: the header and `err->error` only
    by_cases hok : u32 buf resp < 16 ∨ bytes < u32 buf resp
    · rw [if_pos hok]
      simp only [List.forall_mem_singleton, FieldRead.Bounded, FieldRead.Short]; omega
    rw [if_neg hok]
    by_cases hdone : u16 buf (resp + 4) = NLMSG_DONE
    · rw [if_pos hdone]
      simp only [List.forall_mem_cons, List.not_mem_nil, false_implies, implies_true, and_true,
        FieldRead.Bounded, FieldRead.Short]; omega
    rw [if_neg hdone]
    by_cases herr : u16 buf (resp + 4) = NLMSG_ERROR
    · rw [if_pos herr]
      simp only [List.forall_mem_cons, List.not_mem_nil, false_implies, implies_true, and_true,
        FieldRead.Bounded, FieldRead.Short]; omega
    rw [if_neg herr]
    -- another type: on to the next message
    by_cases htype : u16 buf (resp + 4) ≠ RTM_NEWROUTE
    · rw [if_pos htype]; simp only [List.forall_mem_cons]
      refine ⟨?_, ?_, hnext⟩ <;> simp only [FieldRead.Bounded, FieldRead.Short] <;> omega
    rw [if_neg htype]
    -- `RTM_NEWROUTE`: a route found, the fuel out, or on to the next message
    split <;> simp only [List.forall_mem_cons, List.forall_mem_append]
    iterate 2
      · refine ⟨?_, ?_, hroute (by omega) (by omega)⟩ <;>
          simp only [FieldRead.Bounded, FieldRead.Short] <;> omega
    · refine ⟨⟨?_, ?_, hroute (by omega) (by omega)⟩, hnext⟩ <;>
        simp only [FieldRead.Bounded, FieldRead.Short] <;> omega

/-- Every read of the walk lies in a message inside the received bytes, and inside that message
unless the message or attribute is too short for it; no read ends more than four bytes past
its message. -/
theorem getDefaultInterfaceWalk_reads (buf : List UInt8) (bytes : Nat)
    (ifName : Int → Option String) :
    ∀ r ∈ (getDefaultInterfaceWalk buf bytes ifName).2, r.msg + r.msgLen ≤ bytes ∧ r.Bounded :=
  msgWalk_reads (by simp)

/-- The last datagram of a dump, a 16-byte `NLMSG_DONE`: the walk reads its type inside it. -/
theorem getDefaultInterfaceWalk_reads_done :
    (⟨.nlmsgType, 4, 2, 0, 16⟩ : FieldRead) ∈
        (getDefaultInterfaceWalk (le32 16 ++ le16 NLMSG_DONE ++ zeros 10) 16 fun _ => none).2 ∧
      0 + 16 ≤ 16 ∧ (⟨.nlmsgType, 4, 2, 0, 16⟩ : FieldRead).Bounded := by
  have hr : (⟨.nlmsgType, 4, 2, 0, 16⟩ : FieldRead) ∈
      (getDefaultInterfaceWalk (le32 16 ++ le16 NLMSG_DONE ++ zeros 10) 16 fun _ => none).2 := by
    decide
  exact ⟨hr, getDefaultInterfaceWalk_reads _ 16 _ _ hr⟩

/-- Short messages and attributes the kernel never sends: a 16-byte `NLMSG_ERROR` (its
`err->error` read at `[16, 20)`), a 16-byte `RTM_NEWROUTE` (its `rtm_dst_len` read at 17), and a
32-byte default route ending in a 4-byte `RTA_OIF` (its index read at `[32, 36)`).  Each read
lies past the message and past the received bytes, in whatever `rest` of the buffer follows. -/
theorem getDefaultInterfaceWalk_reads_past_short (rest : List UInt8) (ifName : Int → Option String) :
    (getDefaultInterfaceWalk (le32 16 ++ le16 NLMSG_ERROR ++ zeros 10 ++ rest) 16 ifName).2 =
        [⟨.nlmsgLen, 0, 4, 0, 16⟩, ⟨.nlmsgType, 4, 2, 0, 16⟩, ⟨.error, 16, 4, 0, 16⟩] ∧
      [⟨.nlmsgLen, 0, 4, 0, 16⟩, ⟨.nlmsgType, 4, 2, 0, 16⟩, ⟨.rtmDstLen, 17, 1, 0, 16⟩] <+:
        (getDefaultInterfaceWalk (le32 16 ++ le16 RTM_NEWROUTE ++ zeros 10 ++ rest) 16 ifName).2 ∧
      (getDefaultInterfaceWalk (le32 32 ++ le16 RTM_NEWROUTE ++ zeros 10 ++ [2, 0] ++ zeros 10 ++
          le16 4 ++ le16 RTA_OIF ++ rest) 32 ifName).2 =
        [⟨.nlmsgLen, 0, 4, 0, 16⟩, ⟨.nlmsgType, 4, 2, 0, 32⟩, ⟨.rtmDstLen, 17, 1, 0, 32⟩,
          ⟨.rtmFamily, 16, 1, 0, 32⟩, ⟨.rtaLen, 28, 2, 0, 32⟩, ⟨.rtaType, 30, 2, 0, 32⟩,
          ⟨.oif 4, 32, 4, 0, 32⟩] := by
  refine ⟨rfl, ?_, ?_⟩
  · generalize hbuf : le32 16 ++ le16 RTM_NEWROUTE ++ zeros 10 ++ rest = buf
    have h0 : u32 buf 0 = 16 := by subst hbuf; rfl
    have h4 : u16 buf 4 = RTM_NEWROUTE := by subst hbuf; rfl
    obtain ⟨t, ht⟩ := @routeBody_log_head buf ifName 0 16
    rw [getDefaultInterfaceWalk, show 16 / 16 + 1 = 1 + 1 from rfl, msgWalk]
    simp (disch := decide) only [h0, h4, ht, if_neg]
    split <;> exact ⟨_, rfl⟩
  · generalize hbuf : le32 32 ++ le16 RTM_NEWROUTE ++ zeros 10 ++ [2, 0] ++ zeros 10 ++
      le16 4 ++ le16 RTA_OIF ++ rest = buf
    have h0 : u32 buf 0 = 32 := by subst hbuf; rfl
    have h4 : u16 buf 4 = RTM_NEWROUTE := by subst hbuf; rfl
    have h16 : buf.getD 16 0 = 2 := by subst hbuf; rfl
    have h17 : buf.getD 17 0 = 0 := by subst hbuf; rfl
    have h28 : u16 buf 28 = 4 := by subst hbuf; rfl
    have h30 : u16 buf 30 = RTA_OIF := by subst hbuf; rfl
    rw [getDefaultInterfaceWalk, show 32 / 16 + 1 = 2 + 1 from rfl, msgWalk]
    simp only [h0, h4, routeBody, h16, h17]
    rw [show ((32 : Nat) - nlmsgLength sizeofRtmsg : Int).toNat / 4 + 1 = 1 + 1 from rfl, rtaLoop]
    simp only [h28, h30, show 0 + 16 + nlmsgAlign sizeofRtmsg = 28 from rfl, show 28 + 2 = 30 from rfl]
    -- found or not, the index was read from `[32, 36)`
    cases h : ifName (i32 buf (28 + 4)) <;>
      simp [h, rtaLoop, msgWalk, nlmsgAlign, rtaAlign, nlmsgLength, NLMSG_HDRLEN, sizeofRtmsg,
        RTM_NEWROUTE, NLMSG_DONE, NLMSG_ERROR, RTA_OIF, AF_INET]

end Walks

end Microbox
