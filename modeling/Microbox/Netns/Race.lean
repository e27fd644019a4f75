import Microbox.Netns.Bridge

/-!
# Two spawns creating the bridge at once

Two bridge-mode spawns may run `ensure_bridge_exists` at the same time against the one
host.  Its existence checks and its `NLM_F_EXCL` requests are separate netlink
round trips, so the other run can act between them.  Here both runs are fault-free:
every request succeeds unless the table itself makes the kernel refuse it.  A
`RaceState` holds both runs and the host, and a schedule says which run takes each
step.

The runs do not agree on the result.  When both pass their checks before either
creates the bridge, the second `RTM_NEWLINK` meets `EEXIST` and that run returns `-1`
(`race_second_eexist`).  What does hold (`race_both_returned`): from a host without
`microbox0` whose firewall has iptables or nftables, once both runs have returned,
exactly one `microbox0` exists, it holds `172.20.0.1/16` and is up, and at least one
run returned `0`.

The proof keeps `RaceInv` over every schedule.  A run that has seen the bridge knows
it exists, and one past `RTM_NEWADDR` knows the address is there (`RunInv`).  While
the bridge exists but is not yet configured, some run is on its way to configuring
it (`Resp`).  And once the address is there, some run has added it and goes on to
return `0`, or has already returned `0` (`Owner`).
-/

namespace Microbox

/-- `ensure_bridge_exists` reads only the bridge's fields of its configuration. -/
theorem ensureStep_congr {c c' : NetnsConfig} (hname : c'.bridge_name = c.bridge_name)
    (hip : c'.bridge_ip = c.bridge_ip) (hlen : c'.prefix_len = c.prefix_len) :
    ensureStep c' = ensureStep c := by
  have hnat : setupNat c' = setupNat c := by
    funext iface fw
    simp [setupNat, cleanupNatRules, natRuleCmds, masqueradeSpec, bridgeSubnet, hname, hip, hlen]
  funext fault pc h
  cases pc <;> simp [ensureStep, hname, hip, hlen, hnat]

/-- Two runs of `ensure_bridge_exists` on one host. -/
structure RaceState where
  /-- Where the first run is. -/
  first : EnsurePc
  /-- Where the second run is. -/
  second : EnsurePc
  /-- The shared host. -/
  host : Host

/-- One fault-free step of the first run (`false`) or the second (`true`). -/
def raceStep (ida idb : Int) (s : RaceState) : Bool → RaceState
  | false =>
    let r := ensureStep (generateInterfaceNames ida) false s.first s.host
    { s with first := r.1, host := r.2 }
  | true =>
    let r := ensureStep (generateInterfaceNames idb) false s.second s.host
    { s with second := r.1, host := r.2 }

/-- The state after a schedule. -/
def raceRun (ida idb : Int) : RaceState → List Bool → RaceState
  | s, [] => s
  | s, turn :: turns => raceRun ida idb (raceStep ida idb s turn) turns

/-- Both runs check before either creates: the second `RTM_NEWLINK` meets `EEXIST`. -/
theorem race_second_eexist :
    let s := raceRun 300 301 ⟨.checkOpen, .checkOpen,
        ⟨[⟨"eth0", .other, [], true, none⟩], ⟨true, false, fun _ => []⟩, some "eth0"⟩⟩
      [false, false, false, false, true, true, true, true, false, true,
       false, false, false, false, false]
    s.first = .ret 0 ∧ s.second = .ret (-1) := by
  decide

/-! ## What holds along every schedule -/

/-- What a run knows of the table at each point. -/
def RunInv (c : NetnsConfig) : EnsurePc → List Link → Prop
  | .addrIndex, links | .newAddr, links | .nat, links | .ret _, links =>
    hasLink links c.bridge_name = true
  | .upIndex, links | .setUp, links => bridgeHasAddr c links = true
  | _, _ => True

/-- A run that configures the bridge when it moves on. -/
def Resp (c : NetnsConfig) : EnsurePc → List Link → Prop
  | .addrIndex, links | .newAddr, links => bridgeHasAddr c links = false
  | .upIndex, links | .setUp, links => bridgeHasAddr c links = true
  | _, _ => False

/-- A run that has added the address, or has returned `0`. -/
def Owner : EnsurePc → Prop
  | .upIndex | .setUp | .nat => True
  | .ret r => r = 0
  | _ => False

/-- What holds of two runs and their host along every schedule. -/
structure RaceInv (c : NetnsConfig) (pa pb : EnsurePc) (h : Host) : Prop where
  /-- `setup_nat` finds a tool. -/
  tool : (h.firewall.has_iptables || h.firewall.has_nft) = true
  /-- At most one interface has the bridge's name. -/
  unique : (h.links.map (·.name)).count c.bridge_name ≤ 1
  /-- What the first run knows. -/
  first_run : RunInv c pa h.links
  /-- What the second run knows. -/
  second_run : RunInv c pb h.links
  /-- An unconfigured bridge has a run on its way to configuring it. -/
  pending : hasLink h.links c.bridge_name = true → bridgeConfigured c h.links = false →
    Resp c pa h.links ∨ Resp c pb h.links
  /-- The address has a run that returns `0`. -/
  owner : bridgeHasAddr c h.links = true → Owner pa ∨ Owner pb

theorem RaceInv.swap {c : NetnsConfig} {pa pb : EnsurePc} {h : Host} (hinv : RaceInv c pa pb h) :
    RaceInv c pb pa h :=
  ⟨hinv.tool, hinv.unique, hinv.second_run, hinv.first_run,
    fun hh hc => (hinv.pending hh hc).symm, fun ha => (hinv.owner ha).symm⟩

theorem RunInv.mono {c : NetnsConfig} {pc : EnsurePc} {links links' : List Link}
    (hinv : RunInv c pc links)
    (hhas : hasLink links c.bridge_name = true → hasLink links' c.bridge_name = true)
    (haddr : bridgeHasAddr c links = true → bridgeHasAddr c links' = true) :
    RunInv c pc links' := by
  cases pc <;> first | exact hhas hinv | exact haddr hinv | trivial

/-- A step of the first run that leaves the table alone. -/
theorem RaceInv.move_first {c : NetnsConfig} {pa pa' pb : EnsurePc} {h h' : Host}
    (hinv : RaceInv c pa pb h) (hlinks : h'.links = h.links)
    (htool : (h'.firewall.has_iptables || h'.firewall.has_nft) =
      (h.firewall.has_iptables || h.firewall.has_nft))
    (hrun : RunInv c pa' h.links) (hresp : Resp c pa h.links → Resp c pa' h.links)
    (hown : Owner pa → Owner pa') : RaceInv c pa' pb h' := by
  rw [← hlinks] at hrun hresp
  refine ⟨htool ▸ hinv.tool, hlinks ▸ hinv.unique, hrun, hlinks ▸ hinv.second_run, ?_, ?_⟩
  · rw [hlinks]
    exact fun hh hc => (hinv.pending hh hc).imp_left (hlinks ▸ hresp)
  · rw [hlinks]
    exact fun ha => (hinv.owner ha).imp_left hown

/-- A step of the first run that changes the bridge's entry but not its name, and leaves
the address on it. -/
theorem RaceInv.modify_first {c : NetnsConfig} {pa pa' pb : EnsurePc} {h : Host}
    (f : Link → Link) (hf : ∀ l, (f l).name = l.name) (hinv : RaceInv c pa pb h)
    (hrun : RunInv c pa' (modifyLink h.links c.bridge_name f))
    (haddr : bridgeHasAddr c (modifyLink h.links c.bridge_name f) = true)
    (hresp : bridgeConfigured c (modifyLink h.links c.bridge_name f) = false →
      Resp c pa' (modifyLink h.links c.bridge_name f))
    (hown : Owner pa') : RaceInv c pa' pb { h with links := modifyLink h.links c.bridge_name f } :=
  ⟨hinv.tool, by rw [modifyLink_names _ _ f hf]; exact hinv.unique, hrun,
    hinv.second_run.mono (fun hh => by rw [hasLink_modifyLink _ _ _ f hf]; exact hh) fun _ => haddr,
    fun _ hc => .inl (hresp hc), fun _ => .inl hown⟩

theorem hasLink_of_bridgeHasAddr {c : NetnsConfig} {links : List Link}
    (h : bridgeHasAddr c links = true) : hasLink links c.bridge_name = true := by
  unfold bridgeHasAddr at h
  unfold hasLink
  cases hl : findLink links c.bridge_name <;> simp_all

theorem bridgeHasAddr_of_bridgeConfigured {c : NetnsConfig} {links : List Link}
    (h : bridgeConfigured c links = true) : bridgeHasAddr c links = true := by
  unfold bridgeConfigured at h
  unfold bridgeHasAddr
  cases hl : findLink links c.bridge_name <;> simp_all

/-- One step of the first run keeps the invariant. -/
theorem RaceInv.step_first {c : NetnsConfig} {pa pb : EnsurePc} {h : Host}
    (hinv : RaceInv c pa pb h) :
    RaceInv c (ensureStep c false pa h).1 pb (ensureStep c false pa h).2 := by
  have hra := hinv.first_run
  cases pa with
  | newLink =>
    by_cases hhas : hasLink h.links c.bridge_name = true
    · have hstep : ensureStep c false .newLink h = (.ret (-1), h) := by
        simp [ensureStep, ensureRequest, Request.apply, hhas]
      rw [hstep]
      exact hinv.move_first rfl rfl hhas False.elim False.elim
    · simp only [Bool.not_eq_true] at hhas
      have hstep : ensureStep c false .newLink h =
          (.addrIndex, { h with links := h.links ++ [⟨c.bridge_name, .bridge, [], false, none⟩] }) := by
        simp [ensureStep, ensureRequest, Request.apply, hhas]
      have hnone : findLink h.links c.bridge_name = none := by simpa [hasLink] using hhas
      have hfind : findLink (h.links ++ [⟨c.bridge_name, .bridge, [], false, none⟩]) c.bridge_name =
          some ⟨c.bridge_name, .bridge, [], false, none⟩ := by
        unfold findLink at hnone ⊢
        simp [List.find?_append, hnone]
      have hhas' : hasLink (h.links ++ [⟨c.bridge_name, .bridge, [], false, none⟩]) c.bridge_name := by
        simp [hasLink, hfind]
      have hnoaddr : bridgeHasAddr c (h.links ++ [⟨c.bridge_name, .bridge, [], false, none⟩]) = false := by
        simp [bridgeHasAddr, hfind]
      rw [hstep]
      dsimp only
      refine ⟨hinv.tool, ?_, hhas', hinv.second_run.mono (fun _ => hhas') fun ha => ?_,
        fun _ _ => .inl hnoaddr, fun ha => by simp_all⟩
      · simp [List.count_singleton', count_names_of_hasLink_eq_false hhas]
      · simp [hasLink_of_bridgeHasAddr ha] at hhas
  | newAddr =>
    obtain ⟨l, hl⟩ := (hasLink_iff _ _).mp hra
    by_cases haddr : (c.bridge_ip, c.prefix_len) ∈ l.addrs
    · have hstep : ensureStep c false .newAddr h = (.ret (-1), h) := by
        simp [ensureStep, ensureRequest, Request.apply, hl, haddr]
      rw [hstep]
      refine hinv.move_first rfl rfl hra (fun hr => ?_) False.elim
      simp [Resp, bridgeHasAddr, hl, haddr] at hr
    · let f := fun l : Link => { l with addrs := l.addrs ++ [(c.bridge_ip, c.prefix_len)] }
      have hstep : ensureStep c false .newAddr h =
          (.upIndex, { h with links := modifyLink h.links c.bridge_name f }) := by
        simp [ensureStep, ensureRequest, Request.apply, hl, haddr, f]
      have haddr' : bridgeHasAddr c (modifyLink h.links c.bridge_name f) = true := by
        simp [bridgeHasAddr, findLink_modifyLink_self _ _ f (fun _ => rfl), hl, f]
      rw [hstep]
      exact hinv.modify_first f (fun _ => rfl) haddr' haddr' (fun _ => haddr') trivial
  | setUp =>
    obtain ⟨l, hl⟩ := (hasLink_iff _ _).mp (hasLink_of_bridgeHasAddr hra)
    have haddr : (c.bridge_ip, c.prefix_len) ∈ l.addrs := by
      have hra' : bridgeHasAddr c h.links = true := hra
      simpa [bridgeHasAddr, hl] using hra'
    have hstep : ensureStep c false .setUp h =
        (.nat, { h with links := modifyLink h.links c.bridge_name Link.setUp }) := by
      simp [ensureStep, ensureRequest, Request.apply, hasLink, hl]
    have hfind := findLink_modifyLink_self h.links c.bridge_name Link.setUp Link.setUp_name
    have haddr' : bridgeHasAddr c (modifyLink h.links c.bridge_name Link.setUp) = true := by
      simp [bridgeHasAddr, hfind, hl, Link.mem_setUp_addrs haddr]
    rw [hstep]
    exact hinv.modify_first Link.setUp Link.setUp_name (hasLink_of_bridgeHasAddr haddr') haddr'
      (fun hc => by simp [bridgeConfigured, hfind, hl, Link.mem_setUp_addrs haddr] at hc) trivial
  | nat =>
    have hstep : ensureStep c false .nat h =
        (.ret 0, { h with firewall := (setupNat c (h.default_route.getD "eth0") h.firewall).2 }) := by
      simp [ensureStep, setupNat_fst, hinv.tool]
    rw [hstep]
    exact hinv.move_first rfl (by simp) hra False.elim fun _ => rfl
  | ret r => exact hinv.move_first rfl rfl hra id id
  | upIndex =>
    have hstep : ensureStep c false .upIndex h = (.setUp, h) := by
      simp [ensureStep, hasLink_of_bridgeHasAddr hra]
    rw [hstep]
    exact hinv.move_first rfl rfl hra id id
  | addrIndex =>
    have hhas : hasLink h.links c.bridge_name = true := hra
    have hstep : ensureStep c false .addrIndex h = (.newAddr, h) := by simp [ensureStep, hhas]
    rw [hstep]
    exact hinv.move_first rfl rfl hra id id
  | checkOpen | check | openHandle | createCheck =>
    simp only [ensureStep, Bool.false_eq_true, if_false, Bool.not_false, Bool.true_and]
    (try split_ifs) <;> exact hinv.move_first rfl rfl (by trivial) False.elim False.elim

/-- The first run's configuration stands for both: the bridge's fields are the same for
every interface id. -/
theorem RaceInv.raceStep {ida idb : Int} {s : RaceState}
    (hinv : RaceInv (generateInterfaceNames ida) s.first s.second s.host) (turn : Bool) :
    RaceInv (generateInterfaceNames ida) (raceStep ida idb s turn).first
      (raceStep ida idb s turn).second (raceStep ida idb s turn).host := by
  cases turn with
  | false => exact hinv.step_first
  | true =>
    have hcfg : ensureStep (generateInterfaceNames idb) = ensureStep (generateInterfaceNames ida) :=
      ensureStep_congr rfl rfl rfl
    simpa [raceStep, hcfg] using hinv.swap.step_first.swap

theorem RaceInv.raceRun {ida idb : Int} :
    ∀ (turns : List Bool) (s : RaceState),
      RaceInv (generateInterfaceNames ida) s.first s.second s.host →
      RaceInv (generateInterfaceNames ida) (raceRun ida idb s turns).first
        (raceRun ida idb s turns).second (raceRun ida idb s turns).host
  | [], _, hinv => hinv
  | turn :: turns, _, hinv => RaceInv.raceRun turns _ (hinv.raceStep turn)

/-- Two fault-free runs from a host without `microbox0` whose firewall has a tool: once
both have returned, exactly one `microbox0` exists, configured, and at least one run
returned `0`. -/
theorem race_both_returned (ida idb : Int) (h0 : Host)
    (habsent : hasLink h0.links "microbox0" = false)
    (htool : (h0.firewall.has_iptables || h0.firewall.has_nft) = true) (turns : List Bool)
    {ra rb : Int} (hra : (raceRun ida idb ⟨.checkOpen, .checkOpen, h0⟩ turns).first = .ret ra)
    (hrb : (raceRun ida idb ⟨.checkOpen, .checkOpen, h0⟩ turns).second = .ret rb) :
    ((raceRun ida idb ⟨.checkOpen, .checkOpen, h0⟩ turns).host.links.map (·.name)).count
        "microbox0" = 1 ∧
      bridgeConfigured (generateInterfaceNames ida)
        (raceRun ida idb ⟨.checkOpen, .checkOpen, h0⟩ turns).host.links = true ∧
      (ra = 0 ∨ rb = 0) := by
  have hinit : RaceInv (generateInterfaceNames ida) .checkOpen .checkOpen h0 :=
    ⟨htool, by simp [count_names_of_hasLink_eq_false habsent], trivial, trivial,
      fun hh => by simp_all, fun ha => absurd (hasLink_of_bridgeHasAddr ha) (by simp [habsent])⟩
  have hinv := @RaceInv.raceRun ida idb turns ⟨.checkOpen, .checkOpen, h0⟩ hinit
  generalize raceRun ida idb ⟨.checkOpen, .checkOpen, h0⟩ turns = s at hra hrb hinv ⊢
  rw [hra, hrb] at hinv
  have hhas : hasLink s.host.links "microbox0" = true := hinv.first_run
  have hconf : bridgeConfigured (generateInterfaceNames ida) s.host.links = true := by
    by_contra hc
    simpa [Resp] using hinv.pending hhas (by simpa using hc)
  refine ⟨le_antisymm hinv.unique (count_names_pos_of_hasLink hhas), hconf, ?_⟩
  simpa [Owner] using hinv.owner (bridgeHasAddr_of_bridgeConfigured hconf)

/-- The schedule of `race_second_eexist`, in which the second run returns `-1`. -/
theorem race_both_returned_eexist :
    let h0 : Host := ⟨[⟨"eth0", .other, [], true, none⟩], ⟨true, false, fun _ => []⟩, some "eth0"⟩
    let turns := [false, false, false, false, true, true, true, true, false, true,
      false, false, false, false, false]
    ((raceRun 300 301 ⟨.checkOpen, .checkOpen, h0⟩ turns).host.links.map (·.name)).count
        "microbox0" = 1 ∧
      bridgeConfigured (generateInterfaceNames 300)
        (raceRun 300 301 ⟨.checkOpen, .checkOpen, h0⟩ turns).host.links = true ∧
      ((0 : Int) = 0 ∨ (-1 : Int) = 0) :=
  race_both_returned 300 301 _ (by decide) (by decide) _ (by decide) (by decide)

end Microbox
