import Microbox.Netns.Host

/-!
# Creating the bridge

`ensure_bridge_exists` (`netns.c`) makes sure `microbox0` exists before a veth pair is
attached to it.  It asks `if_nametoindex` whether the bridge is there; if it is, it goes
straight to `setup_nat`.  Otherwise it opens a netlink socket and runs
`netlink_create_bridge`, which asks again and sends `RTM_NEWLINK` only when the bridge
is still missing, then adds `172.20.0.1/16` to the bridge and brings it up, each by
name lookup followed by a request.

The function is a machine here, one step per call that can fail or that looks at the
shared interface table, because two spawns may run it at once
(`Microbox.Netns.Race`).  `ensureStep` takes one fault bit per step: a failing
`socket`/`bind`, `if_nametoindex` returning an error other than `ENODEV`, a failing
`sendmsg`/`recvmsg`, and, at `setup_nat`, a failed default-route lookup, after which
`setup_nat` uses `eth0`.  `ensureBridgeExists` runs the machine to its return from a
fault pattern; ten steps always suffice (`ensureRun_ret`).

`ensureBridgeExists_zero` is what a `0` return guarantees: the bridge exists, and
if it did not exist when the call started, it holds its address and is up.  A bridge
that was already there is accepted as it is (`ensureBridgeExists_keeps_unconfigured`).
-/

namespace Microbox

/-- Where `ensure_bridge_exists` is. -/
inductive EnsurePc
  /-- `netlink_open(&check_handle)`. -/
  | checkOpen
  /-- `netlink_interface_exists(&check_handle, bridge)`. -/
  | check
  /-- `netlink_open(&nl_handle)`. -/
  | openHandle
  /-- The existence test inside `netlink_create_bridge`. -/
  | createCheck
  /-- `RTM_NEWLINK` of `netlink_create_bridge`, sent and answered. -/
  | newLink
  /-- The index lookup of `netlink_add_ip_address`. -/
  | addrIndex
  /-- `RTM_NEWADDR` of `netlink_add_ip_address`. -/
  | newAddr
  /-- The index lookup of `netlink_set_interface_up`. -/
  | upIndex
  /-- `RTM_SETLINK` of `netlink_set_interface_up`. -/
  | setUp
  /-- `setup_nat`. -/
  | nat
  /-- Returned this value. -/
  | ret (r : Int)
deriving DecidableEq, Repr

/-- A netlink request from the machine: on success go to `next` with the new table, on a
fault or an error reply return `-1`. -/
def ensureRequest (fault : Bool) (req : Request) (next : EnsurePc) (h : Host) : EnsurePc × Host :=
  match if fault then none else req.apply h.links with
  | none => (.ret (-1), h)
  | some links => (next, { h with links })

/-- One step of `ensure_bridge_exists`, with its fault bit. -/
def ensureStep (config : NetnsConfig) (fault : Bool) : EnsurePc → Host → EnsurePc × Host
  | .checkOpen, h => (if fault then .openHandle else .check, h)
  | .check, h => (if !fault && hasLink h.links config.bridge_name then .nat else .openHandle, h)
  | .openHandle, h => (if fault then .ret (-1) else .createCheck, h)
  | .createCheck, h =>
    (if !fault && hasLink h.links config.bridge_name then .addrIndex else .newLink, h)
  | .newLink, h => ensureRequest fault (.newBridge config.bridge_name) .addrIndex h
  | .addrIndex, h =>
    (if !fault && hasLink h.links config.bridge_name then .newAddr else .ret (-1), h)
  | .newAddr, h =>
    ensureRequest fault (.newAddr config.bridge_name config.bridge_ip config.prefix_len) .upIndex h
  | .upIndex, h => (if !fault && hasLink h.links config.bridge_name then .setUp else .ret (-1), h)
  | .setUp, h => ensureRequest fault (.setUp config.bridge_name) .nat h
  | .nat, h =>
    let default_iface := if fault then "eth0" else h.default_route.getD "eth0"
    let result := setupNat config default_iface h.firewall
    (.ret (if result.1 ≠ 0 then -1 else 0), { h with firewall := result.2 })
  | .ret r, h => (.ret r, h)

/-- The machine run for as many steps as there are fault bits. -/
def ensureRun (config : NetnsConfig) : List Bool → EnsurePc → Host → EnsurePc × Host
  | [], pc, h => (pc, h)
  | fault :: faults, pc, h =>
    let next := ensureStep config fault pc h
    ensureRun config faults next.1 next.2

/-- Ten fault bits, read from a pattern that is fault-free past its end. -/
def faultBits (faults : List Bool) : List Bool := (List.range 10).map fun i => faults.getD i false

/-- `ensure_bridge_exists` under a fault pattern: its return value and the host after it. -/
def ensureBridgeExists (config : NetnsConfig) (faults : List Bool) (h : Host) : Int × Host :=
  match ensureRun config (faultBits faults) .checkOpen h with
  | (.ret r, h') => (r, h')
  | (_, h') => (-1, h')

/-- The bridge holds its address. -/
def bridgeHasAddr (config : NetnsConfig) (links : List Link) : Bool :=
  (findLink links config.bridge_name).any fun l => decide ((config.bridge_ip, config.prefix_len) ∈ l.addrs)

/-- The bridge holds its address and is up. -/
def bridgeConfigured (config : NetnsConfig) (links : List Link) : Bool :=
  (findLink links config.bridge_name).any fun l =>
    decide ((config.bridge_ip, config.prefix_len) ∈ l.addrs) && l.up

/-! ## One run -/

/-- What holds at each point of a run that started on `h0`: the table is `h0`'s up to
the first check; after `RTM_NEWADDR` the bridge holds its address; from `setup_nat` on
the bridge exists, configured if it was missing at the start. -/
def EnsureInv (config : NetnsConfig) (h0 : Host) : EnsurePc → Host → Prop
  | .checkOpen, h | .check, h => h.links = h0.links
  | .openHandle, _ | .createCheck, _ | .newLink, _ | .addrIndex, _ | .newAddr, _ => True
  | .upIndex, h | .setUp, h => bridgeHasAddr config h.links = true
  | .nat, h =>
    hasLink h.links config.bridge_name = true ∧
      (hasLink h0.links config.bridge_name = false → bridgeConfigured config h.links = true)
  | .ret r, h => r = 0 →
    hasLink h.links config.bridge_name = true ∧
      (hasLink h0.links config.bridge_name = false → bridgeConfigured config h.links = true)

theorem ensureRequest_cases (fault : Bool) (req : Request) (next : EnsurePc) (h : Host) :
    ensureRequest fault req next h = (.ret (-1), h) ∨
      ∃ links, req.apply h.links = some links ∧ ensureRequest fault req next h =
        (next, { h with links }) := by
  unfold ensureRequest
  cases fault
  · cases hreq : req.apply h.links <;> simp
  · simp

theorem ensureStep_inv (config : NetnsConfig) (h0 : Host) (fault : Bool) (pc : EnsurePc)
    (h : Host) (hinv : EnsureInv config h0 pc h) :
    EnsureInv config h0 (ensureStep config fault pc h).1 (ensureStep config fault pc h).2 := by
  cases pc with
  | checkOpen =>
    cases fault
    · exact hinv
    · trivial
  | check =>
    simp only [EnsureInv] at hinv
    by_cases hbr : (!fault && hasLink h.links config.bridge_name) = true
    · simp only [Bool.and_eq_true, Bool.not_eq_true'] at hbr
      simp [ensureStep, EnsureInv, hbr, ← hinv]
    · simp [ensureStep, EnsureInv, hbr]
  | openHandle => cases fault <;> simp [ensureStep, EnsureInv]
  | createCheck => simp only [ensureStep]; split <;> trivial
  | newLink =>
    rcases ensureRequest_cases fault (.newBridge config.bridge_name) .addrIndex h with
      heq | ⟨links, -, heq⟩ <;> simp [ensureStep, heq, EnsureInv]
  | addrIndex => simp only [ensureStep]; split <;> simp [EnsureInv]
  | newAddr =>
    rcases ensureRequest_cases fault (.newAddr config.bridge_name config.bridge_ip config.prefix_len)
      .upIndex h with heq | ⟨links, happly, heq⟩
    · simp [ensureStep, heq, EnsureInv]
    · obtain ⟨l, hl, haddr⟩ := Request.apply_newAddr happly
      simp [ensureStep, heq, EnsureInv, bridgeHasAddr, hl, haddr]
  | upIndex =>
    simp only [ensureStep]
    split
    · exact hinv
    · simp [EnsureInv]
  | setUp =>
    rcases ensureRequest_cases fault (.setUp config.bridge_name) .nat h with
      heq | ⟨links, happly, heq⟩
    · simp [ensureStep, heq, EnsureInv]
    · have hfind := Request.apply_setUp happly
      simp only [EnsureInv, bridgeHasAddr] at hinv
      cases hl : findLink h.links config.bridge_name with
      | none => simp [hl] at hinv
      | some l =>
        simp only [hl, Option.any_some, decide_eq_true_eq] at hinv
        simp [ensureStep, heq, EnsureInv, hasLink, bridgeConfigured, hfind, hl,
          Link.mem_setUp_addrs hinv]
  | nat =>
    intro _
    exact hinv
  | ret r => simpa [ensureStep] using hinv

theorem ensureRun_inv (config : NetnsConfig) (h0 : Host) :
    ∀ (faults : List Bool) (pc : EnsurePc) (h : Host), EnsureInv config h0 pc h →
      EnsureInv config h0 (ensureRun config faults pc h).1 (ensureRun config faults pc h).2
  | [], _, _, hinv => hinv
  | fault :: faults, pc, h, hinv =>
    ensureRun_inv config h0 faults _ _ (ensureStep_inv config h0 fault pc h hinv)

/-- When `ensure_bridge_exists` returns `0` the bridge exists, and a bridge that was
missing when the call started now holds its address and is up. -/
theorem ensureBridgeExists_zero (config : NetnsConfig) (faults : List Bool) (h : Host)
    (hzero : (ensureBridgeExists config faults h).1 = 0) :
    hasLink (ensureBridgeExists config faults h).2.links config.bridge_name = true ∧
      (hasLink h.links config.bridge_name = false →
        bridgeConfigured config (ensureBridgeExists config faults h).2.links = true) := by
  have hinv := ensureRun_inv config h (faultBits faults) .checkOpen h rfl
  unfold ensureBridgeExists at hzero ⊢
  revert hinv hzero
  cases ensureRun config (faultBits faults) .checkOpen h with
  | mk pc h' => cases pc <;> simp_all [EnsureInv]

/-- A bridge created by a fault-free run is configured. -/
theorem ensureBridgeExists_zero_fresh :
    (ensureBridgeExists (generateInterfaceNames 300) []
        ⟨[], ⟨true, false, fun _ => []⟩, some "eth0"⟩).1 = 0 ∧
      hasLink (ensureBridgeExists (generateInterfaceNames 300) []
        ⟨[], ⟨true, false, fun _ => []⟩, some "eth0"⟩).2.links "microbox0" = true ∧
      (hasLink [] "microbox0" = false →
        bridgeConfigured (generateInterfaceNames 300) (ensureBridgeExists (generateInterfaceNames 300)
          [] ⟨[], ⟨true, false, fun _ => []⟩, some "eth0"⟩).2.links = true) :=
  ⟨by decide, ensureBridgeExists_zero _ _ _ (by decide)⟩

/-- A first spawn whose `RTM_NEWADDR` fails leaves `microbox0` without its address; the
next spawn finds the bridge, skips the configuration and returns `0`. -/
theorem ensureBridgeExists_keeps_unconfigured :
    let h0 : Host := ⟨[], ⟨true, false, fun _ => []⟩, some "eth0"⟩
    let first := ensureBridgeExists (generateInterfaceNames 300)
      [false, false, false, false, false, false, true] h0
    let second := ensureBridgeExists (generateInterfaceNames 301) [] first.2
    first.1 = -1 ∧ second.1 = 0 ∧ hasLink second.2.links "microbox0" = true ∧
      bridgeConfigured (generateInterfaceNames 301) second.2.links = false := by
  decide

/-! ## Every run returns -/

/-- The order in which a run visits the points. -/
def EnsurePc.rank : EnsurePc → Nat
  | .checkOpen => 0
  | .check => 1
  | .openHandle => 2
  | .createCheck => 3
  | .newLink => 4
  | .addrIndex => 5
  | .newAddr => 6
  | .upIndex => 7
  | .setUp => 8
  | .nat => 9
  | .ret _ => 10

theorem ensureStep_rank (config : NetnsConfig) (fault : Bool) (pc : EnsurePc) (h : Host) :
    min 10 (pc.rank + 1) ≤ (ensureStep config fault pc h).1.rank := by
  cases pc with
  | newLink =>
    rcases ensureRequest_cases fault (.newBridge config.bridge_name) .addrIndex h with
      heq | ⟨_, _, heq⟩ <;> simp [ensureStep, heq, EnsurePc.rank]
  | newAddr =>
    rcases ensureRequest_cases fault (.newAddr config.bridge_name config.bridge_ip config.prefix_len)
      .upIndex h with heq | ⟨_, _, heq⟩ <;> simp [ensureStep, heq, EnsurePc.rank]
  | setUp =>
    rcases ensureRequest_cases fault (.setUp config.bridge_name) .nat h with
      heq | ⟨_, _, heq⟩ <;> simp [ensureStep, heq, EnsurePc.rank]
  | ret r => simp [ensureStep, EnsurePc.rank]
  | _ => simp only [ensureStep]; split_ifs <;> simp [EnsurePc.rank]

/-- A run with as many steps as its distance to the return returns. -/
theorem ensureRun_ret (config : NetnsConfig) :
    ∀ (faults : List Bool) (pc : EnsurePc) (h : Host), 10 ≤ pc.rank + faults.length →
      ∃ r, (ensureRun config faults pc h).1 = .ret r
  | [], pc, h, hlen => by
    cases pc <;> simp [EnsurePc.rank] at hlen
    exact ⟨_, rfl⟩
  | fault :: faults, pc, h, hlen => by
    have := ensureStep_rank config fault pc h
    refine ensureRun_ret config faults _ _ ?_
    simp only [List.length_cons] at hlen
    omega

end Microbox
