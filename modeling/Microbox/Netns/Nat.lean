import Microbox.Netns.Config

/-!
# The host firewall

`setup_nat` (`netns.c`) runs on every bridge-mode spawn.  It picks iptables when an
`iptables` binary is executable and nftables otherwise, calls `cleanup_nat_rules` to
remove what an earlier run added, and then adds a masquerade rule for the bridge subnet
and two forwarding rules.  Every change goes through `system()`.

The firewall is the four chains the commands touch, each a list of rule
specifications, first rule first.  `iptables -D` removes the first rule with an
identical specification and does nothing when there is none, `-I ... 1` puts a rule
first, `-A` and `nft add rule` put it last, and `nft flush chain` empties the chain.
The `nft add table` and `nft add chain` commands are left out: a chain here always
exists.  The exit statuses `setup_nat` reads only choose warnings, so they are not
modelled.

The deletions do not match the insertions on the iptables side.  `cleanup_nat_rules`
deletes `-i microbox0 -j ACCEPT` and `-o microbox0 -j ACCEPT`, while `setup_nat`
inserts `-i microbox0 -o IF -j ACCEPT` and `-i IF -o microbox0 -m conntrack ...`.
`setupNatRuns_iptForward` gives the FORWARD chain after `k + 1` runs: `2 (k + 1)` rules of
microbox in front of the chain the host had.  The NAT rule is never duplicated, on either side
(`setupNatRuns_masquerade`).
-/

namespace Microbox

/-- The chains `setup_nat` and `cleanup_nat_rules` touch. -/
inductive Chain
  | iptPostrouting
  | iptForward
  | nftPostrouting
  | nftForward
deriving DecidableEq, Repr

/-- The host firewall: which tools exist, and the rules of each chain. -/
structure Firewall where
  /-- `access("/usr/sbin/iptables", X_OK) == 0 || access("/sbin/iptables", X_OK) == 0`. -/
  has_iptables : Bool
  /-- The same for `nft`. -/
  has_nft : Bool
  /-- The rule specifications of each chain. -/
  rules : Chain → List String

/-- One `system()` command of the NAT code. -/
inductive FwCmd
  /-- `iptables -D` (with `|| true`): remove the first identical rule, if any. -/
  | delete (chain : Chain) (spec : String)
  /-- `while iptables -D ...; do :; done`. -/
  | deleteWhile (chain : Chain) (spec : String)
  /-- `iptables -A` or `nft add rule`. -/
  | append (chain : Chain) (spec : String)
  /-- `iptables -I chain 1`. -/
  | insertFirst (chain : Chain) (spec : String)
  /-- `nft flush chain`. -/
  | flush (chain : Chain)
deriving DecidableEq, Repr

/-- The loop `while iptables -D chain spec; do :; done`, given enough rounds. -/
def whileDelete (spec : String) : Nat → List String → List String
  | 0, rules => rules
  | fuel + 1, rules => if spec ∈ rules then whileDelete spec fuel (rules.erase spec) else rules

/-- The chain a command changes. -/
def FwCmd.chain : FwCmd → Chain
  | .delete chain _ | .deleteWhile chain _ | .append chain _ | .insertFirst chain _
  | .flush chain => chain

/-- What a command does to the rules of its chain. -/
def FwCmd.apply : FwCmd → List String → List String
  | .delete _ spec, rules => rules.erase spec
  | .deleteWhile _ spec, rules => whileDelete spec (rules.length + 1) rules
  | .append _ spec, rules => rules ++ [spec]
  | .insertFirst _ spec, rules => spec :: rules
  | .flush _, _ => []

/-- The firewall after one command. -/
def Firewall.run (fw : Firewall) (cmd : FwCmd) : Firewall :=
  { fw with rules := Function.update fw.rules cmd.chain (cmd.apply (fw.rules cmd.chain)) }

/-- The chains after a list of commands. -/
def Firewall.runAll (fw : Firewall) (cmds : List FwCmd) : Firewall := cmds.foldl Firewall.run fw

/-- The dotted quad `inet_ntoa` prints for an address in host byte order. -/
def ipv4ToString (addr : Nat) : String :=
  toString (addr / 2 ^ 24 % 256) ++ "." ++ toString (addr / 2 ^ 16 % 256) ++ "." ++
    toString (addr / 2 ^ 8 % 256) ++ "." ++ toString (addr % 256)

/-- `bridge_subnet`: the bridge address under its prefix mask, and the prefix length. -/
def bridgeSubnet (config : NetnsConfig) : String :=
  let subnet := config.bridge_ip &&& ((0xFFFFFFFF <<< (32 - config.prefix_len)) % 2 ^ 32)
  ipv4ToString subnet ++ "/" ++ toString config.prefix_len

/-- The masquerade rule both functions name. -/
def masqueradeSpec (config : NetnsConfig) : String :=
  "-s " ++ bridgeSubnet config ++ " ! -d " ++ bridgeSubnet config ++ " -j MASQUERADE"

/-- `cleanup_nat_rules`. -/
def cleanupNatRules (config : NetnsConfig) (use_nft : Bool) : List FwCmd :=
  if use_nft then [.flush .nftPostrouting, .flush .nftForward]
  else
    [.delete .iptPostrouting (masqueradeSpec config),
     .deleteWhile .iptForward ("-i " ++ config.bridge_name ++ " -j ACCEPT"),
     .deleteWhile .iptForward ("-o " ++ config.bridge_name ++ " -j ACCEPT")]

/-- The rules `setup_nat` adds after the cleanup. -/
def natRuleCmds (config : NetnsConfig) (default_iface : String) (use_nft : Bool) : List FwCmd :=
  if use_nft then
    [.append .nftPostrouting ("ip saddr " ++ bridgeSubnet config ++ " masquerade"),
     .append .nftForward ("iif " ++ config.bridge_name ++ " accept"),
     .append .nftForward ("oif " ++ config.bridge_name ++ " accept")]
  else
    [.append .iptPostrouting (masqueradeSpec config),
     .insertFirst .iptForward ("-i " ++ config.bridge_name ++ " -o " ++ default_iface ++ " -j ACCEPT"),
     .insertFirst .iptForward ("-i " ++ default_iface ++ " -o " ++ config.bridge_name ++
       " -m conntrack --ctstate ESTABLISHED,RELATED -j ACCEPT")]

/-- `setup_nat` from the firewall detection on, given the interface the default-route
lookup settled on (`eth0` when it failed): its return value and the firewall after it. -/
def setupNat (config : NetnsConfig) (default_iface : String) (fw : Firewall) : Int × Firewall :=
  if fw.has_iptables || fw.has_nft then
    let use_nft := !fw.has_iptables
    (0, fw.runAll (cleanupNatRules config use_nft ++ natRuleCmds config default_iface use_nft))
  else (-1, fw)

/-- `k` runs of `setup_nat` with the same configuration and default interface. -/
def setupNatRuns (config : NetnsConfig) (default_iface : String) : Nat → Firewall → Firewall
  | 0, fw => fw
  | k + 1, fw => (setupNat config default_iface (setupNatRuns config default_iface k fw)).2

/-! ## Commands on chains -/

@[simp] theorem Firewall.run_rules (fw : Firewall) (cmd : FwCmd) (chain : Chain) :
    (fw.run cmd).rules chain =
      if chain = cmd.chain then cmd.apply (fw.rules chain) else fw.rules chain := by
  by_cases h : chain = cmd.chain
  · subst h; simp [Firewall.run]
  · simp [Firewall.run, h]

@[simp] theorem Firewall.run_has_iptables (fw : Firewall) (cmd : FwCmd) :
    (fw.run cmd).has_iptables = fw.has_iptables := rfl

@[simp] theorem Firewall.run_has_nft (fw : Firewall) (cmd : FwCmd) :
    (fw.run cmd).has_nft = fw.has_nft := rfl

@[simp] theorem Firewall.runAll_cons (fw : Firewall) (cmd : FwCmd) (cmds : List FwCmd) :
    fw.runAll (cmd :: cmds) = (fw.run cmd).runAll cmds := rfl

@[simp] theorem Firewall.runAll_nil (fw : Firewall) : fw.runAll [] = fw := rfl

@[simp] theorem Firewall.runAll_append (fw : Firewall) (cmds cmds' : List FwCmd) :
    fw.runAll (cmds ++ cmds') = (fw.runAll cmds).runAll cmds' := List.foldl_append _ _ _ _

@[simp] theorem Firewall.runAll_has_iptables (fw : Firewall) (cmds : List FwCmd) :
    (fw.runAll cmds).has_iptables = fw.has_iptables := by
  induction cmds generalizing fw <;> simp [*]

@[simp] theorem Firewall.runAll_has_nft (fw : Firewall) (cmds : List FwCmd) :
    (fw.runAll cmds).has_nft = fw.has_nft := by
  induction cmds generalizing fw <;> simp [*]

theorem filter_erase_self (spec : String) :
    ∀ rules : List String,
      (rules.erase spec).filter (fun rule => !decide (rule = spec)) =
        rules.filter (fun rule => !decide (rule = spec))
  | [] => rfl
  | rule :: rest => by
    by_cases h : rule = spec
    · subst h; simp
    · rw [List.erase_cons_tail (by simpa using h)]
      simp [h, filter_erase_self spec rest]

/-- The `while` loop removes every copy of its rule. -/
theorem whileDelete_eq_filter (spec : String) :
    ∀ (fuel : Nat) (rules : List String), rules.count spec < fuel →
      whileDelete spec fuel rules = rules.filter (fun rule => !decide (rule = spec))
  | 0, _, h => absurd h (Nat.not_lt_zero _)
  | fuel + 1, rules, h => by
    by_cases hmem : spec ∈ rules
    · have hcount : (rules.erase spec).count spec < fuel := by
        rw [List.count_erase_self]
        have := List.count_pos_iff.mpr hmem
        omega
      rw [whileDelete, if_pos hmem, whileDelete_eq_filter spec fuel _ hcount, filter_erase_self]
    · rw [whileDelete, if_neg hmem, List.filter_eq_self.mpr]
      intro rule hrule
      simp only [Bool.not_eq_true', decide_eq_false_iff_not]
      rintro rfl
      exact hmem hrule

@[simp] theorem FwCmd.apply_delete (chain : Chain) (spec : String) (rules : List String) :
    (FwCmd.delete chain spec).apply rules = rules.erase spec := rfl

@[simp] theorem FwCmd.apply_append (chain : Chain) (spec : String) (rules : List String) :
    (FwCmd.append chain spec).apply rules = rules ++ [spec] := rfl

@[simp] theorem FwCmd.apply_insertFirst (chain : Chain) (spec : String) (rules : List String) :
    (FwCmd.insertFirst chain spec).apply rules = spec :: rules := rfl

@[simp] theorem FwCmd.apply_flush (chain : Chain) (rules : List String) :
    (FwCmd.flush chain).apply rules = [] := rfl

@[simp] theorem FwCmd.apply_deleteWhile (chain : Chain) (spec : String) (rules : List String) :
    (FwCmd.deleteWhile chain spec).apply rules = rules.filter (fun rule => !decide (rule = spec)) :=
  whileDelete_eq_filter spec _ _ (Nat.lt_succ_of_le (List.count_le_length _ _))

/-! ## One run and many -/

/-- On the iptables side one run puts the two forwarding rules first and removes the
rules the cleanup names. -/
theorem setupNat_iptForward (config : NetnsConfig) (default_iface : String) (fw : Firewall)
    (h : fw.has_iptables = true) :
    (setupNat config default_iface fw).2.rules .iptForward =
      ("-i " ++ default_iface ++ " -o " ++ config.bridge_name ++
        " -m conntrack --ctstate ESTABLISHED,RELATED -j ACCEPT") ::
      ("-i " ++ config.bridge_name ++ " -o " ++ default_iface ++ " -j ACCEPT") ::
      ((fw.rules .iptForward).filter (· ≠ "-i " ++ config.bridge_name ++ " -j ACCEPT")).filter
        (· ≠ "-o " ++ config.bridge_name ++ " -j ACCEPT") := by
  simp [setupNat, h, cleanupNatRules, natRuleCmds, FwCmd.chain]

/-- On the iptables side one run moves the masquerade rule to the end of POSTROUTING. -/
theorem setupNat_iptPostrouting (config : NetnsConfig) (default_iface : String) (fw : Firewall)
    (h : fw.has_iptables = true) :
    (setupNat config default_iface fw).2.rules .iptPostrouting =
      (fw.rules .iptPostrouting).erase (masqueradeSpec config) ++ [masqueradeSpec config] := by
  simp [setupNat, h, cleanupNatRules, natRuleCmds, FwCmd.chain]

/-- `setup_nat` fails only when neither tool is installed. -/
theorem setupNat_fst (config : NetnsConfig) (default_iface : String) (fw : Firewall) :
    (setupNat config default_iface fw).1 = if fw.has_iptables || fw.has_nft then 0 else -1 := by
  unfold setupNat; split <;> simp_all

@[simp] theorem setupNat_has_iptables (config : NetnsConfig) (default_iface : String)
    (fw : Firewall) : (setupNat config default_iface fw).2.has_iptables = fw.has_iptables := by
  unfold setupNat; split <;> simp

@[simp] theorem setupNat_has_nft (config : NetnsConfig) (default_iface : String)
    (fw : Firewall) : (setupNat config default_iface fw).2.has_nft = fw.has_nft := by
  unfold setupNat; split <;> simp

/-- On the nftables side one run leaves exactly the three rules it adds. -/
theorem setupNat_nft (config : NetnsConfig) (default_iface : String) (fw : Firewall)
    (h : fw.has_iptables = false) (hnft : fw.has_nft = true) :
    (setupNat config default_iface fw).2.rules .nftPostrouting =
        ["ip saddr " ++ bridgeSubnet config ++ " masquerade"] ∧
      (setupNat config default_iface fw).2.rules .nftForward =
        ["iif " ++ config.bridge_name ++ " accept", "oif " ++ config.bridge_name ++ " accept"] := by
  simp [setupNat, h, hnft, cleanupNatRules, natRuleCmds, FwCmd.chain]

@[simp] theorem setupNatRuns_has_iptables (config : NetnsConfig) (default_iface : String)
    (k : Nat) (fw : Firewall) :
    (setupNatRuns config default_iface k fw).has_iptables = fw.has_iptables := by
  induction k <;> simp [setupNatRuns, *]

@[simp] theorem setupNatRuns_has_nft (config : NetnsConfig) (default_iface : String)
    (k : Nat) (fw : Firewall) :
    (setupNatRuns config default_iface k fw).has_nft = fw.has_nft := by
  induction k <;> simp [setupNatRuns, *]

/-- The iptables cleanup never removes a forwarding rule `setup_nat` inserted. -/
theorem cleanup_keeps_forward_rules (bridge iface : String) (rule : String)
    (hrule : rule = "-i " ++ iface ++ " -o " ++ bridge ++
        " -m conntrack --ctstate ESTABLISHED,RELATED -j ACCEPT" ∨
      rule = "-i " ++ bridge ++ " -o " ++ iface ++ " -j ACCEPT") :
    rule ≠ "-i " ++ bridge ++ " -j ACCEPT" ∧ rule ≠ "-o " ++ bridge ++ " -j ACCEPT" := by
  have lengths : "-i ".length = 3 ∧ "-o ".length = 3 ∧ " -o ".length = 4 ∧
      " -j ACCEPT".length = 10 ∧
      " -m conntrack --ctstate ESTABLISHED,RELATED -j ACCEPT".length = 53 := by decide
  rcases hrule with rfl | rfl <;>
    exact ⟨(ne_of_apply_ne String.length (Nat.ne_of_lt (by simp only [String.length_append]; omega))).symm,
      (ne_of_apply_ne String.length (Nat.ne_of_lt (by simp only [String.length_append]; omega))).symm⟩

/-- The cleanup's two filters keep a chain none of whose rules they name. -/
theorem cleanup_filter_eq_self {a b : String} {rules : List String}
    (h : ∀ rule ∈ rules, rule ≠ a ∧ rule ≠ b) : (rules.filter (· ≠ a)).filter (· ≠ b) = rules := by
  rw [List.filter_eq_self.mpr, List.filter_eq_self.mpr] <;> simp_all

/-- Two runs with iptables from an empty firewall: the FORWARD chain holds four rules,
two copies of what one run inserts. -/
theorem setupNatRuns_two_iptForward :
    (setupNatRuns (generateInterfaceNames 4242) "eth0" 2 ⟨true, false, fun _ => []⟩).rules
        .iptForward =
      ["-i eth0 -o microbox0 -m conntrack --ctstate ESTABLISHED,RELATED -j ACCEPT",
       "-i microbox0 -o eth0 -j ACCEPT",
       "-i eth0 -o microbox0 -m conntrack --ctstate ESTABLISHED,RELATED -j ACCEPT",
       "-i microbox0 -o eth0 -j ACCEPT"] := by
  decide

/-- `k + 1` runs with iptables: the FORWARD chain holds `k + 1` copies of the two
forwarding rules in front of the host's own rules, less the two the cleanup names. -/
theorem setupNatRuns_iptForward (config : NetnsConfig) (default_iface : String) (fw : Firewall)
    (h : fw.has_iptables = true) (k : Nat) :
    (setupNatRuns config default_iface (k + 1) fw).rules .iptForward =
      (List.replicate (k + 1)
        ["-i " ++ default_iface ++ " -o " ++ config.bridge_name ++
          " -m conntrack --ctstate ESTABLISHED,RELATED -j ACCEPT",
         "-i " ++ config.bridge_name ++ " -o " ++ default_iface ++ " -j ACCEPT"]).flatten ++
        (fw.rules .iptForward).filter fun rule =>
          rule ≠ "-i " ++ config.bridge_name ++ " -j ACCEPT" ∧
            rule ≠ "-o " ++ config.bridge_name ++ " -j ACCEPT" := by
  induction k with
  | zero =>
    rw [setupNatRuns, setupNatRuns, setupNat_iptForward _ _ _ h]
    simp [List.filter_filter, Bool.and_comm]
  | succ k ih =>
    rw [setupNatRuns, setupNat_iptForward _ _ _ (by simpa using h), ih, cleanup_filter_eq_self]
    · rfl
    intro rule hrule
    rcases List.mem_append.mp hrule with hrule | hrule
    · obtain ⟨l, hl, hrl⟩ := List.mem_flatten.mp hrule
      rw [List.eq_of_mem_replicate hl] at hrl
      exact cleanup_keeps_forward_rules _ _ rule (by simpa using hrl)
    · simpa using (List.mem_filter.mp hrule).2

/-- Three iptables runs over a FORWARD chain holding one of the rules the cleanup names and
one rule of the host's own. -/
theorem setupNatRuns_iptForward_three :
    (setupNatRuns (generateInterfaceNames 7) "eth0" 3
        ⟨true, false, fun _ => ["-i microbox0 -j ACCEPT", "-p tcp -j DROP"]⟩).rules .iptForward =
      ["-i eth0 -o microbox0 -m conntrack --ctstate ESTABLISHED,RELATED -j ACCEPT",
       "-i microbox0 -o eth0 -j ACCEPT",
       "-i eth0 -o microbox0 -m conntrack --ctstate ESTABLISHED,RELATED -j ACCEPT",
       "-i microbox0 -o eth0 -j ACCEPT",
       "-i eth0 -o microbox0 -m conntrack --ctstate ESTABLISHED,RELATED -j ACCEPT",
       "-i microbox0 -o eth0 -j ACCEPT",
       "-p tcp -j DROP"] :=
  (setupNatRuns_iptForward (generateInterfaceNames 7) "eth0"
    ⟨true, false, fun _ => ["-i microbox0 -j ACCEPT", "-p tcp -j DROP"]⟩ rfl 2).trans (by decide)

/-- `iptables -D` then `-A` of one rule: one copy at least, and never one more. -/
theorem count_erase_append (rules : List String) (spec : String) :
    (rules.erase spec ++ [spec]).count spec = max 1 (rules.count spec) := by
  rw [List.count_append, List.count_erase_self, List.count_singleton_self]
  omega

/-- `iptables -D` then `-A` of one rule leaves the other rules as they were. -/
theorem filter_erase_append (rules : List String) (spec : String) :
    (rules.erase spec ++ [spec]).filter (fun rule => !decide (rule = spec)) =
      rules.filter (fun rule => !decide (rule = spec)) := by
  rw [List.filter_append, filter_erase_self]
  simp

/-- `setup_nat` never duplicates its NAT rule.  With iptables, after every number of runs
POSTROUTING holds as many masquerade rules as before, one at least, and the host's other rules
in their order; with nftables only, the two chains hold exactly the rules of one run, whatever
they held before.  Only FORWARD accumulates (`setupNatRuns_iptForward`). -/
theorem setupNatRuns_masquerade (config : NetnsConfig) (default_iface : String) (fw : Firewall)
    (k : Nat) :
    (fw.has_iptables = true →
      ((setupNatRuns config default_iface (k + 1) fw).rules .iptPostrouting).count
          (masqueradeSpec config) = max 1 ((fw.rules .iptPostrouting).count (masqueradeSpec config)) ∧
        ((setupNatRuns config default_iface (k + 1) fw).rules .iptPostrouting).filter
            (fun rule => !decide (rule = masqueradeSpec config)) =
          (fw.rules .iptPostrouting).filter (fun rule => !decide (rule = masqueradeSpec config))) ∧
      (fw.has_iptables = false → fw.has_nft = true →
        (setupNatRuns config default_iface (k + 1) fw).rules .nftPostrouting =
            ["ip saddr " ++ bridgeSubnet config ++ " masquerade"] ∧
          (setupNatRuns config default_iface (k + 1) fw).rules .nftForward =
            ["iif " ++ config.bridge_name ++ " accept", "oif " ++ config.bridge_name ++ " accept"]) := by
  refine ⟨fun h => ?_, fun h hnft => ?_⟩
  · induction k with
    | zero =>
      rw [setupNatRuns, setupNatRuns, setupNat_iptPostrouting _ _ _ h]
      exact ⟨count_erase_append _ _, filter_erase_append _ _⟩
    | succ k ih =>
      rw [setupNatRuns, setupNat_iptPostrouting _ _ _ (by simpa using h), count_erase_append,
        filter_erase_append, ih.1, ih.2]
      exact ⟨by omega, rfl⟩
  · rw [setupNatRuns]
    exact setupNat_nft config default_iface _ (by simpa using h) (by simpa using hnft)

/-- Three iptables runs over a POSTROUTING chain that holds a rule of the host's own, and
three nftables runs over chains that hold an older rule. -/
theorem setupNatRuns_masquerade_three :
    (setupNatRuns (generateInterfaceNames 7) "eth0" 3 ⟨true, false, fun _ => ["-j LOG"]⟩).rules
        .iptPostrouting = ["-j LOG", "-s 172.20.0.0/16 ! -d 172.20.0.0/16 -j MASQUERADE"] ∧
      ((setupNatRuns (generateInterfaceNames 7) "eth0" 3 ⟨true, false, fun _ => ["-j LOG"]⟩).rules
        .iptPostrouting).count (masqueradeSpec (generateInterfaceNames 7)) = 1 ∧
      (setupNatRuns (generateInterfaceNames 7) "eth0" 3 ⟨false, true, fun _ => ["old"]⟩).rules
        .nftPostrouting = ["ip saddr 172.20.0.0/16 masquerade"] :=
  ⟨by decide, ((setupNatRuns_masquerade (generateInterfaceNames 7) "eth0"
      ⟨true, false, fun _ => ["-j LOG"]⟩ 2).1 rfl).1.trans (by decide),
    ((setupNatRuns_masquerade (generateInterfaceNames 7) "eth0"
      ⟨false, true, fun _ => ["old"]⟩ 2).2 rfl rfl).1.trans (by decide)⟩

end Microbox
