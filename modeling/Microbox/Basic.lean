import Mathlib.Data.List.Basic

/-!
# The data model of a sandbox

`sandbox_options_t` (`sandbox.h`) is the one input of the runtime: the parser builds
it once, the parent reads it in `microbox_sandbox_spawn` and the child reads it after
the barrier.  The C arrays with a length beside them (`mounts`, `env`,
`syscalls_allow`, `syscalls_deny`) are lists here.  A `NULL` array of length `0` and
an empty array behave alike in every function that reads them, so both are `[]`; the
one place where the difference matters, the missing terminator of `env`, is modelled
on the heap in `Microbox.Env`.

Every field has the default `cli_parse_options` gives it before it reads argv: a zero
structure, hostname `"microbox"`, `FS_TMPFS` and `NET_NONE`.

`cloneFlags` is the flag word `microbox_sandbox_spawn` passes to `clone3`, with the
kernel's values of the `CLONE_*` constants.  `CLONE_NEWPID` is always in it
(`cloneFlags_newpid`).
-/

namespace Microbox

/-- `net_mode_t`. -/
inductive NetMode
  | netNone
  | netHost
  | netPrivate
  | netBridge
  | netInvalid
deriving DecidableEq, Repr, Inhabited

/-- `fs_mode_t`. -/
inductive FsMode
  | fsTmpfs
  | fsHost
  | fsRootfs
deriving DecidableEq, Repr, Inhabited

/-- `mnt_mode_t`. -/
inductive MntMode
  | mntRo
  | mntRw
deriving DecidableEq, Repr, Inhabited

/-- `mount_spec_t`: one bind mount. -/
structure MountSpec where
  /-- Path on the host. -/
  host : String
  /-- Destination in the sandbox, appended to the new root. -/
  dest : String
  /-- Read-only or read-write. -/
  mode : MntMode
deriving DecidableEq, Repr

/-- `env_var_t`: one environment variable.  The parser never stores a `NULL` name or
value. -/
structure EnvVar where
  /-- The name, everything before the first `=` of an `--env` spec. -/
  name : String
  /-- The value. -/
  value : String
deriving DecidableEq, Repr

/-- `sandbox_options_t`, without `cpus`, which no modelled function reads. -/
structure SandboxOptions where
  /-- The filesystem mode. -/
  fs_mode : FsMode := .fsTmpfs
  /-- The network mode. -/
  net_mode : NetMode := .netNone
  /-- The root filesystem directory, set only in `FS_ROOTFS`. -/
  rootfs : Option String := none
  /-- The UTS hostname. -/
  hostname : Option String := some "microbox"
  /-- The cgroup memory limit in bytes, `0` for none. -/
  memory : Nat := 0
  /-- The bind mounts, read-only ones first. -/
  mounts : List MountSpec := []
  /-- Whether to mount `/proc` in the sandbox. -/
  mount_proc : Bool := false
  /-- Whether to mount `/dev` in the sandbox. -/
  mount_dev : Bool := false
  /-- `--env` pairs in argv order. -/
  env : List EnvVar := []
  /-- `--allow-syscall` names. -/
  syscalls_allow : List String := []
  /-- `--deny-syscall` names. -/
  syscalls_deny : List String := []
  /-- The command and its arguments. -/
  cmd : List String := []
deriving DecidableEq, Repr

/-! ## Clone flags -/

/-- `CLONE_NEWNS`. -/
def CLONE_NEWNS : Nat := 0x00020000
/-- `CLONE_NEWCGROUP`. -/
def CLONE_NEWCGROUP : Nat := 0x02000000
/-- `CLONE_NEWUTS`. -/
def CLONE_NEWUTS : Nat := 0x04000000
/-- `CLONE_NEWIPC`. -/
def CLONE_NEWIPC : Nat := 0x08000000
/-- `CLONE_NEWUSER`. -/
def CLONE_NEWUSER : Nat := 0x10000000
/-- `CLONE_NEWPID`. -/
def CLONE_NEWPID : Nat := 0x20000000
/-- `CLONE_NEWNET`. -/
def CLONE_NEWNET : Nat := 0x40000000
/-- `CLONE_PIDFD`. -/
def CLONE_PIDFD : Nat := 0x00001000
/-- `CLONE_NEWTIME`. -/
def CLONE_NEWTIME : Nat := 0x00000080

/-- The flags of `microbox_sandbox_spawn`: the seven fixed ones, `CLONE_NEWNET` unless
the network is the host's, `CLONE_NEWNS` unless the filesystem is. -/
def cloneFlags (o : SandboxOptions) : Nat :=
  let flags := CLONE_NEWUSER ||| CLONE_NEWPID ||| CLONE_NEWUTS ||| CLONE_NEWIPC |||
    CLONE_PIDFD ||| CLONE_NEWCGROUP ||| CLONE_NEWTIME
  let flags := if o.net_mode ≠ .netHost then flags ||| CLONE_NEWNET else flags
  if o.fs_mode ≠ .fsHost then flags ||| CLONE_NEWNS else flags

/-- Every sandbox gets a new PID namespace. -/
theorem cloneFlags_newpid (o : SandboxOptions) : cloneFlags o &&& CLONE_NEWPID ≠ 0 := by
  unfold cloneFlags
  split_ifs <;> decide

end Microbox
