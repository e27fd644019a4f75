import Microbox.Basic

/-!
# The seccomp denylist

The child builds its filter in two steps.  `merge_syscall_lists` (`sandbox.c`) picks
the final denylist and allowlist: the default list and no allowlist when the user gave
neither `--deny-syscall` nor `--allow-syscall`, otherwise the default list followed by
the user's deny names and the user's allow names as overrides.
`microbox_setup_seccomp` (`seccomp.c`) then walks the denylist, skips empty names,
names on the allowlist and names libseccomp cannot resolve, and adds one `ENOSYS` rule
for each other name before it loads the filter.

libseccomp is a collaborator, `Libseccomp`: name resolution, and whether `seccomp_init`,
each `seccomp_rule_add` and `seccomp_load` succeed.  A rule is its syscall number; the
action is always `SCMP_ACT_ERRNO(ENOSYS)` and the default action `SCMP_ACT_ALLOW`.  The
negative `errno` that a failure returns is not modelled: the child exits with `127` on
every negative return alike, so a failure is `none`.

`childSeccomp_rules` is the composition law: whenever the child loads a filter, its
rules are those of the non-empty names of the default list and the user's deny list
that are not allowed and resolve, in that order, and with a libseccomp that accepts
every call the child does load it.  Both branches of `merge_syscall_lists` are covered
(`mergeSyscallLists_deny`, `allowOverrides_mergeSyscallLists`).
-/

namespace Microbox

/-- `docker_default_denylist`. -/
def docker_default_denylist : List String :=
  ["create_module", "init_module", "finit_module", "delete_module",
   "kexec_load", "kexec_file_load",
   "add_key", "request_key", "keyctl",
   "bpf",
   "ptrace", "process_vm_readv", "process_vm_writev",
   "adjtimex", "clock_adjtime", "settimeofday", "stime",
   "reboot", "quotactl", "nfsservctl", "sysfs", "_sysctl",
   "personality",
   "mount", "umount", "umount2", "pivot_root",
   "setns", "unshare",
   "open_by_handle_at",
   "perf_event_open", "fanotify_init",
   "name_to_handle_at", "lookup_dcookie",
   "userfaultfd", "vm86", "vm86old", "iopl", "ioperm",
   "set_mempolicy", "move_pages",
   "kcmp",
   "acct", "clone3"]

/-- `name_in_list`: whether `name` equals an entry of the list. -/
def nameInList (name : String) : List String → Bool
  | [] => false
  | entry :: rest => if name = entry then true else nameInList name rest

@[simp] theorem nameInList_eq_decide (name : String) (list : List String) :
    nameInList name list = decide (name ∈ list) := by
  induction list with
  | nil => rfl
  | cons entry rest ih => by_cases h : name = entry <;> simp [nameInList, ih, h]

/-- The outputs of `merge_syscall_lists`.  `allow = none` is the `NULL` allowlist. -/
structure MergedLists where
  /-- `final_denylist`. -/
  deny : List String
  /-- `final_allowlist`. -/
  allow : Option (List String)

/-- `merge_syscall_lists`.  It always returns `0`, so only its outputs are modelled. -/
def mergeSyscallLists (o : SandboxOptions) : MergedLists :=
  if o.syscalls_deny.length = 0 ∧ o.syscalls_allow.length = 0 then
    ⟨docker_default_denylist, none⟩
  else
    ⟨docker_default_denylist ++ o.syscalls_deny, some o.syscalls_allow⟩

/-- `__NR_SCMP_ERROR`, what `seccomp_syscall_resolve_name` returns for an unknown name. -/
def NR_SCMP_ERROR : Int := -1

/-- The libseccomp calls the filter builder makes. -/
structure Libseccomp where
  /-- `seccomp_syscall_resolve_name`. -/
  resolve : String → Int
  /-- Whether `seccomp_init` returns a context. -/
  init_ok : Bool
  /-- Whether `seccomp_rule_add` succeeds on a context holding the given rules. -/
  rule_add_ok : List Int → Int → Bool
  /-- Whether `seccomp_load` succeeds for a context holding the given rules. -/
  load_ok : List Int → Bool

/-- The test `allow_ovr && name_in_list(name, allow_ovr, allow_len)`. -/
def allowOverrides (allow_ovr : Option (List String)) (name : String) : Bool :=
  match allow_ovr with
  | none => false
  | some list => nameInList name list

/-- The rule loop of `microbox_setup_seccomp` from the rules added so far; `none` is the
return after a failed `seccomp_rule_add`. -/
def ruleLoop (lib : Libseccomp) (allow_ovr : Option (List String)) :
    List String → List Int → Option (List Int)
  | [], rules => some rules
  | name :: rest, rules =>
    if name = "" then ruleLoop lib allow_ovr rest rules
    else if allowOverrides allow_ovr name then ruleLoop lib allow_ovr rest rules
    else
      let nr := lib.resolve name
      if nr = NR_SCMP_ERROR then ruleLoop lib allow_ovr rest rules
      else if lib.rule_add_ok rules nr then ruleLoop lib allow_ovr rest (rules ++ [nr])
      else none

/-- `microbox_setup_seccomp`: the rules of the loaded filter, or `none` when it returns
a negative value and loads nothing. -/
def microboxSetupSeccomp (lib : Libseccomp) (deny : List String)
    (allow_ovr : Option (List String)) : Option (List Int) :=
  if lib.init_ok then
    match ruleLoop lib allow_ovr deny [] with
    | none => none
    | some rules => if lib.load_ok rules then some rules else none
  else none

/-- The seccomp part of the child branch of `microbox_sandbox_spawn`. -/
def childSeccomp (lib : Libseccomp) (o : SandboxOptions) : Option (List Int) :=
  let merged := mergeSyscallLists o
  microboxSetupSeccomp lib merged.deny merged.allow

/-! ## The rule loop -/

/-- The names the loop turns into rules. -/
def keptNames (lib : Libseccomp) (allow_ovr : Option (List String)) (deny : List String) :
    List String :=
  deny.filter fun name =>
    name ≠ "" ∧ allowOverrides allow_ovr name = false ∧ lib.resolve name ≠ NR_SCMP_ERROR

/-- Whatever the loop returns extends the rules by one rule per kept name. -/
theorem ruleLoop_eq_some (lib : Libseccomp) (allow_ovr : Option (List String)) :
    ∀ (deny : List String) (rules result : List Int),
      ruleLoop lib allow_ovr deny rules = some result →
        result = rules ++ (keptNames lib allow_ovr deny).map lib.resolve
  | [], rules, result, h => by
    simp only [ruleLoop, Option.some.injEq] at h
    simp [keptNames, h]
  | name :: rest, rules, result, h => by
    have ih := ruleLoop_eq_some lib allow_ovr rest
    simp only [ruleLoop] at h
    by_cases hname : name = ""
    · simpa [keptNames, hname] using ih _ _ (by simpa [hname] using h)
    by_cases hallow : allowOverrides allow_ovr name = true
    · simpa [keptNames, hname, hallow] using ih _ _ (by simpa [hname, hallow] using h)
    by_cases hnr : lib.resolve name = NR_SCMP_ERROR
    · simpa [keptNames, hname, hallow, hnr] using ih _ _ (by simpa [hname, hallow, hnr] using h)
    by_cases hadd : lib.rule_add_ok rules (lib.resolve name) = true
    · simp only [hname, hallow, hnr, hadd, if_false, if_true] at h
      simpa [keptNames, hname, hallow, hnr] using ih _ _ h
    · simp [hname, hallow, hnr, hadd] at h

/-- With a libseccomp that accepts every rule, the loop adds all of them. -/
theorem ruleLoop_of_rule_add_ok (lib : Libseccomp) (allow_ovr : Option (List String))
    (hadd : ∀ rules nr, lib.rule_add_ok rules nr = true) :
    ∀ (deny : List String) (rules : List Int),
      ruleLoop lib allow_ovr deny rules =
        some (rules ++ (keptNames lib allow_ovr deny).map lib.resolve)
  | [], rules => by simp [ruleLoop, keptNames]
  | name :: rest, rules => by
    have ih := ruleLoop_of_rule_add_ok lib allow_ovr hadd rest
    by_cases hname : name = ""
    · simp [ruleLoop, keptNames, hname, ih]
    by_cases hallow : allowOverrides allow_ovr name = true
    · simp [ruleLoop, keptNames, hname, hallow, ih]
    by_cases hnr : lib.resolve name = NR_SCMP_ERROR
    · simp [ruleLoop, keptNames, hname, hallow, hnr, ih]
    · simp [ruleLoop, keptNames, hname, hallow, hnr, hadd, ih]


/-! ## The filter the child loads -/

/-- `microbox_setup_seccomp` loads a filter exactly when every libseccomp call of the
loop succeeds. -/
theorem microboxSetupSeccomp_eq_some (lib : Libseccomp) (deny : List String)
    (allow_ovr : Option (List String)) (rules : List Int) :
    microboxSetupSeccomp lib deny allow_ovr = some rules ↔
      lib.init_ok = true ∧ ruleLoop lib allow_ovr deny [] = some rules ∧
        lib.load_ok rules = true := by
  unfold microboxSetupSeccomp
  cases lib.init_ok <;> cases ruleLoop lib allow_ovr deny [] <;> simp
  aesop

/-- In both branches of `merge_syscall_lists` the loop keeps the non-empty, resolvable
names of the default list and the user's deny list that the user does not allow. -/
theorem keptNames_mergeSyscallLists (lib : Libseccomp) (o : SandboxOptions) :
    keptNames lib (mergeSyscallLists o).allow (mergeSyscallLists o).deny =
      (docker_default_denylist ++ o.syscalls_deny).filter fun name =>
        name ≠ "" ∧ name ∉ o.syscalls_allow ∧ lib.resolve name ≠ NR_SCMP_ERROR := by
  unfold mergeSyscallLists keptNames
  split
  · next hlists =>
    simp only [List.length_eq_zero] at hlists
    simp [hlists.1, hlists.2, allowOverrides]
  · simp [allowOverrides]

/-- The child's filter: one `ENOSYS` rule for each name of the default list followed by
the user's deny names that is non-empty, not allowed by the user and resolvable, in
that order.  The child loads no other filter, and loads this one whenever libseccomp
accepts every call. -/
theorem childSeccomp_rules (lib : Libseccomp) (o : SandboxOptions) :
    let names := (docker_default_denylist ++ o.syscalls_deny).filter fun name =>
      name ≠ "" ∧ name ∉ o.syscalls_allow ∧ lib.resolve name ≠ NR_SCMP_ERROR
    (∀ rules, childSeccomp lib o = some rules → rules = names.map lib.resolve) ∧
    (lib.init_ok = true → (∀ rules nr, lib.rule_add_ok rules nr = true) →
      lib.load_ok (names.map lib.resolve) = true →
        childSeccomp lib o = some (names.map lib.resolve)) := by
  intro names
  have hkept : keptNames lib (mergeSyscallLists o).allow (mergeSyscallLists o).deny = names :=
    keptNames_mergeSyscallLists lib o
  refine ⟨fun rules h => ?_, fun hinit hadd hload => ?_⟩
  · obtain ⟨-, hloop, -⟩ := (microboxSetupSeccomp_eq_some ..).mp h
    simpa [hkept] using ruleLoop_eq_some lib _ _ [] rules hloop
  · refine (microboxSetupSeccomp_eq_some ..).mpr ⟨hinit, ?_, hload⟩
    simpa [hkept] using ruleLoop_of_rule_add_ok lib (mergeSyscallLists o).allow hadd
      (mergeSyscallLists o).deny []

/-- `--deny-syscall mount --allow-syscall ptrace` on an architecture that knows only
these two names: `mount` is denied twice, `ptrace` not at all. -/
theorem childSeccomp_rules_mount_ptrace :
    childSeccomp ⟨fun name => if name = "ptrace" then 101 else if name = "mount" then 165
        else NR_SCMP_ERROR, true, fun _ _ => true, fun _ => true⟩
      { syscalls_deny := ["mount"], syscalls_allow := ["ptrace"] } = some [165, 165] := by
  rw [(childSeccomp_rules _ _).2 rfl (fun _ _ => rfl) rfl]
  decide

end Microbox
