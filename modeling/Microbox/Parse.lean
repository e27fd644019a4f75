import Microbox.Memory

/-!
# The option parser

`cli_parse_options` (`parse.c`) hands argv up to `--` to argtable3 and then reads the
values argtable3 found.  argtable3 is a collaborator: `ArgTable` is what it returns
for an argv it accepts, and `cliParseOptions` is the rest of the function, from the
`--fs` branch to the cross-option check.  `splitArgv` is the cut before `arg_parse`:
`find_first_double_dash` finds the first `--`, the arguments before it go to argtable3, and
the command after it, which may hold `--` itself, becomes `ArgTable.cmd`
(`splitArgv_append`).  Every `exit(EXIT_FAILURE)` is an `.error`
with the text the parser prints (without the trailing newline).  `--cpus` is not read
here: no modelled function uses it.  `--memory` goes through `parse_memory`, which reads
`errno` as `arg_parse` left it.

The three repeatable `KEY<sep>VALUE` options share one check, `strchr` for the
separator and `!c || c == spec || !c[1]`: `splitSpec`.  `--env` splits at `=`,
`--mount-ro` and `--mount-rw` at `:`.  Only `--mount-rw` also requires an absolute
destination (`parseMountRw_dest_absolute`); `--mount-ro` does not.
-/

namespace Microbox

/-- The values argtable3 returns for the options before `--`, and the positionals after
it. -/
structure ArgTable where
  /-- `--fs`. -/
  fs : Option String := none
  /-- `--net`. -/
  net : Option String := none
  /-- `--mount-ro` values. -/
  mount_ro : List String := []
  /-- `--mount-rw` values. -/
  mount_rw : List String := []
  /-- `--env` values. -/
  env : List String := []
  /-- `--allow-syscall` values. -/
  allow_syscall : List String := []
  /-- `--deny-syscall` values. -/
  deny_syscall : List String := []
  /-- `--hostname`. -/
  hostname : Option String := none
  /-- `--memory`. -/
  memory : Option String := none
  /-- `--proc` was given. -/
  proc : Bool := false
  /-- `--dev` was given. -/
  dev : Bool := false
  /-- `errno` as `arg_parse` leaves it; nothing before `parse_memory` changes it. -/
  errno : Int := 0
  /-- argv after `--`. -/
  cmd : List String := []
deriving DecidableEq, Repr

/-- `parse_net_mode`. -/
def parseNetMode (s : String) : NetMode :=
  if s = "" then .netNone
  else if s = "none" then .netNone
  else if s = "host" then .netHost
  else if s = "private" then .netPrivate
  else if s = "bridge" then .netBridge
  else .netInvalid

/-- `parse_fs_mode`. -/
def parseFsMode (s : String) : FsMode :=
  if s = "host" then .fsHost
  else if s = "tmpfs" then .fsTmpfs
  else .fsRootfs

/-! ## `KEY<sep>VALUE` specs -/

/-- `c = strchr(spec, sep)` and the test `!c || c == spec || !c[1]`: the text before
the first separator and the text after it, when there is a separator and both are
non-empty. -/
def splitSpec (sep : Char) (spec : String) : Option (String × String) :=
  match spec.toList.span (· ≠ sep) with
  | (key, _ :: value) => if key = [] ∨ value = [] then none else some (⟨key⟩, ⟨value⟩)
  | (_, []) => none

/-- The `--env` loop: each spec appended to `o.env`, as the `xrealloc` loop grows it. -/
def parseEnv : List String → List EnvVar → Except String (List EnvVar)
  | [], env => .ok env
  | spec :: rest, env =>
    match splitSpec '=' spec with
    | none => .error ("bad --env: " ++ spec)
    | some (key, value) => parseEnv rest (env ++ [EnvVar.mk key value])

/-- The `--mount-ro` loop. -/
def parseMountRo : List String → List MountSpec → Except String (List MountSpec)
  | [], mounts => .ok mounts
  | spec :: rest, mounts =>
    match splitSpec ':' spec with
    | none => .error ("bad --mount-ro: " ++ spec)
    | some (host, dest) => parseMountRo rest (mounts ++ [MountSpec.mk host dest .mntRo])

/-- The `--mount-rw` loop, which alone checks `dest[0] != '/'`. -/
def parseMountRw : List String → List MountSpec → Except String (List MountSpec)
  | [], mounts => .ok mounts
  | spec :: rest, mounts =>
    match splitSpec ':' spec with
    | none => .error ("bad --mount-rw: " ++ spec)
    | some (host, dest) =>
      if dest.toList.head? ≠ some '/' then
        .error ("bad --mount: " ++ spec ++ ", dest must be an absolute path")
      else parseMountRw rest (mounts ++ [MountSpec.mk host dest .mntRw])

/-- The `--fs`, `--net`, `--hostname`, `--memory`, `--proc` and `--dev` branches of
`cli_parse_options`, on the zero structure with its defaults. -/
def parseModes (a : ArgTable) : Except String SandboxOptions :=
  let o : SandboxOptions := {}
  let o := match a.fs with
    | none => o
    | some val =>
      let fs_mode := parseFsMode val
      { o with fs_mode, rootfs := if fs_mode = FsMode.fsRootfs then some val else o.rootfs }
  let parsed : Except String SandboxOptions := match a.net with
    | none => .ok o
    | some val =>
      let net_mode := parseNetMode val
      if net_mode = NetMode.netInvalid then
        .error ("Invalid --net value '" ++ val ++ "' (use: none|host|private|bridge)")
      else .ok { o with net_mode }
  let parsed := parsed.map fun o => match a.hostname with
    | none => o
    | some name => { o with hostname := some name }
  let parsed := parsed >>= fun o => match a.memory with
    | none => .ok o
    | some val =>
      let memory := parseMemory val a.errno
      if memory = 0 then .error ("Invalid --mem value '" ++ val ++ "'") else .ok { o with memory }
  parsed.map fun o => { o with mount_proc := a.proc, mount_dev := a.dev }

/-- The cross-option policy check at the end of `cli_parse_options`. -/
def crossOptionCheck (o : SandboxOptions) : Except String SandboxOptions :=
  if o.fs_mode = .fsHost ∧ o.mounts.length > 0 then
    .error "--fs host conflicts with --mount-* (requires private mount ns)"
  else .ok o

/-- `cli_parse_options` after `arg_parse`. -/
def cliParseOptions (a : ArgTable) : Except String SandboxOptions :=
  parseModes a >>= fun o =>
  parseEnv a.env [] >>= fun env =>
  parseMountRo a.mount_ro [] >>= fun ro =>
  parseMountRw a.mount_rw ro >>= fun mounts =>
  if a.cmd = [] then .error "Error: missing command"
  else
    crossOptionCheck
      { o with env := env, mounts := mounts, cmd := a.cmd, syscalls_allow := a.allow_syscall,
               syscalls_deny := a.deny_syscall }

/-! ## What an accepted argv gives -/

theorem except_bind_eq_ok {ε α β : Type} {x : Except ε α} {f : α → Except ε β} {b : β} :
    x >>= f = .ok b ↔ ∃ a, x = .ok a ∧ f a = .ok b := by
  cases x <;> simp [bind, Except.bind]

/-- The environment, mount list and syscall lists of an accepted argv come from the
three loops and the two lists, in this order. -/
theorem cliParseOptions_eq_ok {a : ArgTable} {o : SandboxOptions}
    (h : cliParseOptions a = .ok o) :
    parseEnv a.env [] = .ok o.env ∧
      (∃ ro, parseMountRo a.mount_ro [] = .ok ro ∧ parseMountRw a.mount_rw ro = .ok o.mounts) ∧
      o.syscalls_allow = a.allow_syscall ∧ o.syscalls_deny = a.deny_syscall := by
  obtain ⟨o1, -, h⟩ := except_bind_eq_ok.mp h
  obtain ⟨env, henv, h⟩ := except_bind_eq_ok.mp h
  obtain ⟨ro, hro, h⟩ := except_bind_eq_ok.mp h
  obtain ⟨mounts, hrw, h⟩ := except_bind_eq_ok.mp h
  split at h
  · cases h
  · simp only [crossOptionCheck] at h
    split at h
    · cases h
    · cases h
      exact ⟨henv, ⟨ro, hro, hrw⟩, rfl, rfl⟩

/-! ## The three loops -/

/-- A spec splits at its first separator. -/
theorem splitSpec_mk {sep : Char} {key value : List Char} (hkey : key ≠ []) (hvalue : value ≠ [])
    (hsep : sep ∉ key) : splitSpec sep ⟨key ++ sep :: value⟩ = some (⟨key⟩, ⟨value⟩) := by
  have hspan : ∀ key : List Char, sep ∉ key →
      (key ++ sep :: value).takeWhile (fun c => !decide (c = sep)) = key ∧
        (key ++ sep :: value).dropWhile (fun c => !decide (c = sep)) = sep :: value := by
    intro key hsep
    induction key with
    | nil => simp
    | cons c rest ih =>
      simp only [List.mem_cons, not_or] at hsep
      simp [List.takeWhile_cons, List.dropWhile_cons, Ne.symm hsep.1, ih hsep.2]
  simp [splitSpec, String.toList, List.span_eq_take_drop, hspan key hsep, hkey, hvalue]

/-- The `--env` loop appends one entry per spec. -/
theorem parseEnv_length : ∀ (specs : List String) (env out : List EnvVar),
    parseEnv specs env = .ok out → out.length = env.length + specs.length
  | [], env, out, h => by cases h; simp
  | spec :: rest, env, out, h => by
    simp only [parseEnv] at h
    split at h
    · cases h
    · have := parseEnv_length rest _ out h
      simp only [List.length_append, List.length_singleton] at this
      simp only [List.length_cons]
      omega

/-- What `splitSpec` cuts: a key without the separator, and the spec is key, separator and
value again. -/
theorem splitSpec_eq_some {sep : Char} {spec key value : String} (h : splitSpec sep spec = some (key, value)) :
    sep ∉ key.toList ∧ key ++ ⟨[sep]⟩ ++ value = spec := by
  simp only [splitSpec, List.span_eq_take_drop] at h
  have hsplit := List.takeWhile_append_dropWhile (fun c => decide (c ≠ sep)) spec.toList
  have hhead := List.head?_dropWhile_not (fun c => decide (c ≠ sep)) spec.toList
  have hk : ∀ c ∈ spec.toList.takeWhile (fun c => decide (c ≠ sep)), c ≠ sep := fun c hc => by
    simpa using List.mem_takeWhile_imp hc
  generalize spec.toList.takeWhile (fun c => decide (c ≠ sep)) = k at h hsplit hk
  generalize spec.toList.dropWhile (fun c => decide (c ≠ sep)) = d at h hsplit hhead
  cases d with
  | nil => cases h
  | cons c v =>
    have hc : c = sep := by simpa using hhead
    dsimp only at h
    split_ifs at h
    cases h
    exact ⟨fun h => hk sep h rfl, String.ext (by simpa [hc] using hsplit)⟩

/-- The `--env` loop appends one entry for each spec, with the key and value `splitSpec`
cuts from it. -/
theorem parseEnv_specs : ∀ (specs : List String) (env out : List EnvVar), parseEnv specs env = .ok out →
    ∃ kvs, out = env ++ kvs ∧ specs.map (splitSpec '=') = kvs.map fun e => some (e.name, e.value)
  | [], env, out, h => by cases h; exact ⟨[], by simp, rfl⟩
  | spec :: rest, env, out, h => by
    simp only [parseEnv] at h
    split at h
    · cases h
    · rename_i key value hsplit
      obtain ⟨kvs, rfl, hkvs⟩ := parseEnv_specs rest _ out h
      exact ⟨⟨key, value⟩ :: kvs, by simp, by simp [hsplit, hkvs]⟩

/-- Every `--mount-rw` destination is absolute. -/
theorem parseMountRw_dest_absolute : ∀ (specs : List String) (mounts out : List MountSpec),
    (∀ m ∈ mounts, m.mode = .mntRw → m.dest.toList.head? = some '/') →
    parseMountRw specs mounts = .ok out → ∀ m ∈ out, m.mode = .mntRw → m.dest.toList.head? = some '/'
  | [], mounts, out, habs, h => by cases h; exact habs
  | spec :: rest, mounts, out, habs, h => by
    simp only [parseMountRw] at h
    split at h
    · cases h
    · next host dest _ =>
      split at h
      · cases h
      · next hdest =>
        refine parseMountRw_dest_absolute rest _ out ?_ h
        intro m hm
        simp only [List.mem_append, List.mem_singleton] at hm
        rcases hm with hm | rfl
        · exact habs m hm
        · intro _; simpa using hdest

/-! ## `--memory` -/

/-- `--memory 10Mxyz` and `--memory -5` are accepted whatever `errno` is, with limits
of 10 MiB and `2^64 - 5` bytes, and after an `arg_parse` that left `errno` at `ERANGE`,
`--memory 18446744073709551615` is refused. -/
theorem cliParseOptions_mem_outside (errno : Int) :
    cliParseOptions { memory := some "10Mxyz", errno, cmd := ["/bin/true"] } =
        .ok { memory := 10 * 1024 * 1024, cmd := ["/bin/true"] } ∧
      cliParseOptions { memory := some "-5", errno, cmd := ["/bin/true"] } =
        .ok { memory := ULLONG_MAX - 4, cmd := ["/bin/true"] } ∧
      cliParseOptions { memory := some "18446744073709551615", errno := ERANGE, cmd := ["/bin/true"] } =
        .error "Invalid --mem value '18446744073709551615'" :=
  ⟨rfl, rfl, rfl⟩

/-! ## The command after `--` -/

/-- `argv[i][0] == '-' && argv[i][1] == '-' && argv[i][2] == '\0'`. -/
def isDoubleDash (arg : String) : Bool :=
  match arg.toList with
  | ['-', '-'] => true
  | _ => false

/-- The loop of `find_first_double_dash` from index `i`. -/
def findFirstDoubleDashFrom : Nat → List String → Int
  | _, [] => -1
  | i, arg :: rest => if isDoubleDash arg then i else findFirstDoubleDashFrom (i + 1) rest

/-- `find_first_double_dash(argc, argv)`: the index of the first `--`, or `-1`. -/
def findFirstDoubleDash (argv : List String) : Int := findFirstDoubleDashFrom 0 argv

/-- How `cli_parse_options` cuts argv: without a `--` it exits with its message; otherwise
`arg_parse(delim_idx, argv, argtable)` reads the arguments before the first `--`, and `o.cmd`
is copied from `argv[delim_idx + 1]` on (empty when `delim_idx < argc - 1` fails, which the
function refuses after the option loops, `cliParseOptions`). -/
def splitArgv (argv : List String) : Except String (List String × List String) :=
  let delim_idx := findFirstDoubleDash argv
  if delim_idx < 0 then .error "Error: missing \"--\" to specify a command to execute."
  else .ok (argv.take delim_idx.toNat, argv.drop (delim_idx.toNat + 1))

/-- The loop finds the first `--` after the arguments before it. -/
theorem findFirstDoubleDashFrom_append (i : Nat) {opts : List String} (hopts : ∀ a ∈ opts, isDoubleDash a = false)
    (cmd : List String) : findFirstDoubleDashFrom i (opts ++ "--" :: cmd) = ↑(i + opts.length) := by
  induction opts generalizing i with
  | nil => rfl
  | cons a rest ih =>
    rw [List.cons_append, findFirstDoubleDashFrom, if_neg (by simp [hopts a (List.mem_cons_self _ _)]),
      ih (i + 1) fun b hb => hopts b (List.mem_cons_of_mem _ hb), List.length_cons, Nat.add_comm rest.length,
      Nat.add_assoc]

/-- For every argv made of arguments without `--`, then `--`, then any command, which may hold
`--` itself: `arg_parse` reads exactly the arguments before the first `--`, the command is
exactly the rest, and `delim_idx < argc - 1` holds exactly when the command is not empty. -/
theorem splitArgv_append {opts : List String} (hopts : ∀ a ∈ opts, isDoubleDash a = false) (cmd : List String) :
    splitArgv (opts ++ "--" :: cmd) = .ok (opts, cmd) ∧
      (findFirstDoubleDash (opts ++ "--" :: cmd) < ((opts ++ "--" :: cmd).length : Int) - 1 ↔ cmd ≠ []) := by
  have hidx : findFirstDoubleDash (opts ++ "--" :: cmd) = ↑opts.length := by
    rw [findFirstDoubleDash, findFirstDoubleDashFrom_append 0 hopts, Nat.zero_add]
  refine ⟨?_, ?_⟩
  · rw [splitArgv, hidx, if_neg (by omega), Int.toNat_ofNat, List.take_left' rfl,
      List.drop_append_eq_append_drop, List.drop_eq_nil_of_le (by omega), List.nil_append,
      show opts.length + 1 - opts.length = 1 by omega]
    rfl
  · rw [hidx, List.length_append, List.length_cons, ← List.length_pos]
    omega

/-- `microbox --net bridge -- env -- id`: the payload gets its own `--`. -/
theorem splitArgv_append_env :
    (∀ a ∈ ["microbox", "--net", "bridge"], isDoubleDash a = false) ∧
      splitArgv (["microbox", "--net", "bridge"] ++ "--" :: ["env", "--", "id"]) =
        .ok (["microbox", "--net", "bridge"], ["env", "--", "id"]) ∧
      (findFirstDoubleDash (["microbox", "--net", "bridge"] ++ "--" :: ["env", "--", "id"]) <
          ((["microbox", "--net", "bridge"] ++ "--" :: ["env", "--", "id"]).length : Int) - 1 ↔
        ["env", "--", "id"] ≠ []) :=
  ⟨by decide, splitArgv_append (by decide) _⟩

end Microbox
