import Microbox.Process
import Microbox.Mount

/-!
# Building the new root

`microsandbox_setup_fs` (`fs.c`) builds the child's root filesystem from system calls.
In `FS_TMPFS` mode, `microsandbox_setup_tmpfs` mounts a tmpfs on `/box`, mounts
`/proc` and `/dev` under it when asked, then the user's bind mounts, and pivots into
`/box`.  In `FS_ROOTFS` mode, `microsandbox_setup_rootfs` mounts the tmpfs, creates
`/box/overlay`, mounts an overlay of the user's directory on `/box/overlay/merged`,
then the user's bind mounts, then `/proc` and `/dev`, and pivots into the merged
directory.  Each function here is the C function over `ProcM`; `microboxBindMountCalls`
is `microbox_bind_mount` as calls, of which `Microbox.Mount` models the effect on the
file tree.  `stat` and `access` read the host's file types from `host`.

`mountsBeneath root` is what a call log mounts strictly beneath `root`, with targets
relative to it.  `setupFs_mountsBeneath` computes it for fault-free runs of both
builders: the `/proc` and `/dev` mounts come before the user's bind mounts in Tmpfs
mode and after them in Rootfs mode, so the two sequences agree only when one group is
empty (`sysEntries_append_comm_iff`).
-/

namespace Microbox

/-- `snprintf(buf, PATH_MAX, "%s...", ...)` into a `PATH_MAX` buffer: what fits before
the terminator. -/
def snprintfPath (s : String) : String := ⟨s.toList.take (PATH_MAX - 1)⟩

/-- `stat(path)`: the node's type, or `none` with `errno` set, `ENOENT` for a path the
host does not have. -/
def stat (host : String → Option Node) (path : String) : ProcM (Option Node) := do
  let o ← call (.stat path)
  if o.failed then pure none else
  match host path with
  | none => do
    setErrno ENOENT
    pure none
  | some n => pure (some n)

/-- `access(path, F_OK) == 0`. -/
def access (host : String → Option Node) (path : String) : ProcM Bool := do
  let o ← call (.access path)
  if o.failed then pure false else
  match host path with
  | none => do
    setErrno ENOENT
    pure false
  | some _ => pure true

/-- `mkdir_safe(path, mode)`: `mkdir`, where `EEXIST` counts as success. -/
def mkdirSafe (path : String) : ProcM Bool := do
  let made ← sys (.mkdir path)
  if made then pure true else do
  let e ← getErrno
  pure (e = EEXIST)

/-- `is_directory(path)`. -/
def isDirectory (host : String → Option Node) : Option String → ProcM Bool
  | none => do
    setErrno EINVAL
    pure false
  | some path =>
    if path = "" then do
      setErrno EINVAL
      pure false
    else do
      let found ← access host path
      if !found then pure false else do
      let n ← stat host path
      pure (n = some .dir)

/-! ## `microbox_bind_mount` -/

/-- The target prepared for the source's type, as `microbox_bind_mount` makes it. -/
def prepareTargetCalls (n : Node) (target : String) : ProcM Bool :=
  match n with
  | .dir => sys (.mkdirp target)
  | .reg | .chr | .blk => do
    let made ← sys (.mkdirp ⟨dirname target.toList⟩)
    if !made then pure false else do
    let fd ← openFile target
    if fd < 0 then pure false else do
    closeFd fd
    pure true
  | .other => pure false

/-- `microbox_bind_mount(base, spec)`. -/
def microboxBindMountCalls (host : String → Option Node) (base : String) (spec : MountSpec) :
    ProcM Int := do
  let target : String := ⟨bindTarget base spec.dest⟩
  let n ← stat host spec.host
  match n with
  | none => pure (-1)
  | some n => do
    let prepared ← prepareTargetCalls n target
    if !prepared then pure (-1) else do
    let bound ← sys (.mount (some spec.host) target none [.msBind, .msRec] none)
    if !bound then pure (-1) else do
    if spec.mode = .mntRo then do
      let remounted ← sys (.mount none target none [.msBind, .msRemount, .msRdonly, .msNosuid] none)
      if !remounted then pure (-1) else pure 0
    else pure 0

/-- The loop over `opts->mounts` in both setup functions: `-1` at the first failure. -/
def bindMounts (host : String → Option Node) (base : String) : List MountSpec → ProcM Int
  | [] => pure 0
  | spec :: specs => do
    let r ← microboxBindMountCalls host base spec
    if r < 0 then pure (-1) else bindMounts host base specs

/-! ## `/proc`, `/dev` and the tmpfs -/

/-- `microsandbox_create_tmpfs(path)`. -/
def microsandboxCreateTmpfs (path : String) : ProcM Int := do
  let made ← mkdirSafe path
  if !made then pure (-1) else do
  let mounted ← sys (.mount (some "tmpfs") path (some "tmpfs") [.msNosuid, .msNodev]
    (some "mode=700,size=512m"))
  if !mounted then pure (-1) else pure 0

/-- `microbox_bind_mount_proc(base)`. -/
def microboxBindMountProc (base : String) : ProcM Int := do
  let target := snprintfPath (base ++ "/proc")
  let made ← sys (.mkdirp target)
  if !made then negErrno else do
  let mounted ← sys (.mount (some "proc") target (some "proc") [.msNosuid, .msNoexec, .msNodev] none)
  if !mounted then negErrno else pure 0

/-- `dev_dirs`: the host devices `/dev` gets. -/
def devDirs : List String := ["/dev/null", "/dev/zero", "/dev/random", "/dev/urandom", "/dev/tty"]

/-- The allowlist loop of `microbox_bind_mount_dev`, which ignores each result. -/
def bindDevDirs (host : String → Option Node) (base : String) : List String → ProcM Unit
  | [] => pure ()
  | d :: ds => do
    let _ ← microboxBindMountCalls host base ⟨d, d, .mntRw⟩
    bindDevDirs host base ds

/-- `microbox_bind_mount_dev(base)`. -/
def microboxBindMountDev (host : String → Option Node) (base : String) : ProcM Int := do
  let target := snprintfPath (base ++ "/dev")
  let made ← sys (.mkdirp target)
  if !made then negErrno else do
  let mounted ← sys (.mount (some "tmpfs") target (some "tmpfs") [.msNosuid, .msNoexec]
    (some "mode=755,size=2m"))
  if !mounted then negErrno else do
  let pts := snprintfPath (base ++ "/dev/pts")
  let made ← sys (.mkdirp pts)
  if !made then negErrno else do
  let mounted ← sys (.mount (some "devpts") pts (some "devpts") [.msNosuid, .msNoexec]
    (some "newinstance,ptmxmode=0666,mode=620"))
  let e ← getErrno
  if !mounted ∧ e ≠ EINVAL then negErrno else do
  let ptmx := snprintfPath (base ++ "/dev/ptmx")
  let _ ← sys (.unlink ptmx)
  let linked ← sys (.symlink "pts/ptmx" ptmx)
  if !linked then negErrno else do
  let shm := snprintfPath (base ++ "/dev/shm")
  let made ← sys (.mkdirp shm)
  if !made then negErrno else do
  let mounted ← sys (.mount (some "tmpfs") shm (some "tmpfs") [.msNosuid, .msNoexec]
    (some "mode=1777,size=64m"))
  if !mounted then negErrno else do
  bindDevDirs host base devDirs
  pure 0

/-! ## The overlay -/

/-- `overlayfs_t`. -/
structure Overlayfs where
  /-- The user's directory. -/
  lowerdir : String
  /-- `mountpoint/upper`. -/
  upperdir : String
  /-- `mountpoint/work`. -/
  workdir : String
  /-- `mountpoint/merged`. -/
  mergedir : String
deriving DecidableEq, Repr

/-- `path_join(path1, path2)`: `snprintf` of `"%s/%s"` into `len1 + len2 + 2` bytes. -/
def pathJoin (path1 path2 : String) : String :=
  ⟨(path1 ++ "/" ++ path2).toList.take (path1.length + path2.length + 1)⟩

/-- The overlay's data string: `snprintf` of `"lowerdir=%s,upperdir=%s,workdir=%s"` into
the buffer `microsandbox_create_overlayfs` sizes for it. -/
def overlayOptions (src upperdir workdir : String) : String :=
  let size := src.length + upperdir.length + workdir.length + "lowerdir=,".length +
    "upperdir=,".length + "workdir=".length + 1
  ⟨("lowerdir=" ++ src ++ ",upperdir=" ++ upperdir ++ ",workdir=" ++ workdir).toList.take (size - 1)⟩

/-- `microsandbox_create_overlayfs(src, mountpoint)`. -/
def microsandboxCreateOverlayfs (src mountpoint : String) : ProcM (Option Overlayfs) := do
  let fs : Overlayfs := ⟨src, pathJoin mountpoint "upper", pathJoin mountpoint "work",
    pathJoin mountpoint "merged"⟩
  let fd ← openFile mountpoint
  if fd < 0 then pure none else do
  let upper ← sys (.mkdirat fd "upper")
  let work ← if upper then sys (.mkdirat fd "work") else pure false
  let merged ← if work then sys (.mkdirat fd "merged") else pure false
  if !merged then do
    closeFd fd
    pure none
  else do
  closeFd fd
  let mounted ← sys (.mount (some "overlay") fs.mergedir (some "overlay") []
    (some (overlayOptions src fs.upperdir fs.workdir)))
  if !mounted then pure none else pure (some fs)

/-! ## The two builders -/

/-- The last six calls of both setup functions: enter `dir`, pivot into it, and detach
and remove the old root. -/
def pivotRootInto (dir : String) : ProcM Int := do
  let ok ← sys (.chdir dir)
  if !ok then negErrno else do
  let ok ← sys (.mkdir ".old_root")
  if !ok then negErrno else do
  let ok ← sys (.pivotRoot "." "./.old_root")
  if !ok then negErrno else do
  let ok ← sys (.chdir "/")
  if !ok then negErrno else do
  let ok ← sys (.umount2 "/.old_root")
  if !ok then negErrno else do
  let ok ← sys (.rmdir "/.old_root")
  if !ok then negErrno else pure 0

/-- `mount(NULL, "/", NULL, MS_PRIVATE | MS_REC, NULL)`. -/
def makeRootPrivate : Syscall := .mount none "/" none [.msPrivate, .msRec] none

/-- `microsandbox_setup_tmpfs(opts)`. -/
def microsandboxSetupTmpfs (host : String → Option Node) (opts : SandboxOptions) : ProcM Int := do
  let base := "/box"
  let ok ← sys makeRootPrivate
  if !ok then pure (-1) else do
  let r ← microsandboxCreateTmpfs base
  if r < 0 then pure (-1) else do
  let r ← (if opts.mount_proc then microboxBindMountProc base else pure 0)
  if r < 0 then pure (-1) else do
  let r ← (if opts.mount_dev then microboxBindMountDev host base else pure 0)
  if r < 0 then pure (-1) else do
  let r ← bindMounts host base opts.mounts
  if r < 0 then pure (-1) else pivotRootInto base

/-- `microsandbox_setup_rootfs(opts)`. -/
def microsandboxSetupRootfs (host : String → Option Node) (opts : SandboxOptions) : ProcM Int := do
  let ok ← sys makeRootPrivate
  if !ok then pure (-1) else do
  let isDir ← isDirectory host opts.rootfs
  if !isDir then do
    setErrno ENOENT
    pure (-1)
  else do
  let r ← microsandboxCreateTmpfs "/box"
  if r < 0 then pure (-1) else do
  let ok ← sys (.mkdir "/box/overlay")
  if !ok then pure (-1) else do
  let fs ← microsandboxCreateOverlayfs (opts.rootfs.getD "") "/box/overlay"
  match fs with
  | none => pure (-1)
  | some fs => do
    let r ← bindMounts host fs.mergedir opts.mounts
    if r < 0 then pure (-1) else do
    let r ← (if opts.mount_proc then microboxBindMountProc fs.mergedir else pure 0)
    if r < 0 then negErrno else do
    let r ← (if opts.mount_dev then microboxBindMountDev host fs.mergedir else pure 0)
    if r < 0 then negErrno else pivotRootInto fs.mergedir

/-- `microsandbox_setup_fs(opts)`. -/
def microsandboxSetupFs (host : String → Option Node) (opts : SandboxOptions) : ProcM Int :=
  match opts.fs_mode with
  | .fsHost => pure 0
  | .fsTmpfs => microsandboxSetupTmpfs host opts
  | .fsRootfs => microsandboxSetupRootfs host opts

/-! ## Mounts beneath the new root -/

/-- A mount as the new root sees it: the target relative to the root, and the other
arguments of `mount`. -/
structure RootMount where
  /-- The target, relative to the root. -/
  target : String
  /-- The source. -/
  source : Option String
  /-- The filesystem type. -/
  fstype : Option String
  /-- The flags. -/
  flags : List MsFlag
  /-- The data string. -/
  data : Option String
deriving DecidableEq, Repr

/-- The call as a mount strictly beneath `root`, if it is one. -/
def mountBeneath (root : String) : Syscall → Option RootMount
  | .mount source target fstype flags data =>
    if (root ++ "/").toList.isPrefixOf target.toList then
      some ⟨⟨target.toList.drop root.length⟩, source, fstype, flags, data⟩
    else none
  | _ => none

/-- The mounts a call log makes strictly beneath `root`, in order. -/
def mountsBeneath (root : String) (calls : List Syscall) : List RootMount :=
  calls.filterMap (mountBeneath root)

@[simp] theorem mountsBeneath_nil (root : String) : mountsBeneath root [] = [] := rfl

@[simp] theorem mountsBeneath_append (root : String) (l₁ l₂ : List Syscall) :
    mountsBeneath root (l₁ ++ l₂) = mountsBeneath root l₁ ++ mountsBeneath root l₂ :=
  List.filterMap_append _ _ _

@[simp] theorem mountsBeneath_cons (root : String) (c : Syscall) (l : List Syscall) :
    mountsBeneath root (c :: l) = (mountBeneath root c).toList ++ mountsBeneath root l := by
  simp only [mountsBeneath, List.filterMap_cons]
  cases mountBeneath root c <;> rfl

/-- A mount at `root ++ s`, for an `s` that starts with `/`, is `s` beneath `root`. -/
theorem mountBeneath_append {root s : String} (hs : s.toList.head? = some '/')
    (source fstype : Option String) (flags : List MsFlag) (data : Option String) :
    mountBeneath root (.mount source (root ++ s) fstype flags data) =
      some ⟨s, source, fstype, flags, data⟩ := by
  obtain ⟨t, ht⟩ : ∃ t, s.data = '/' :: t := by
    cases h : s.data with
    | nil => simp [h] at hs
    | cons c t => simp only [String.toList, h, List.head?_cons, Option.some.injEq] at hs; exact ⟨t, hs ▸ rfl⟩
  have hprefix : (root.data ++ ['/']).isPrefixOf (root.data ++ s.data) = true := by
    rw [List.isPrefixOf_iff_prefix, List.prefix_append_right_inj, ht]
    exact ⟨t, rfl⟩
  simp only [mountBeneath, String.toList, String.data_append, String.length]
  rw [if_pos hprefix, List.drop_left]

/-- A mount at `root ++ s`, for an `s` that does not start with `/`, is not beneath
`root`. -/
theorem mountBeneath_append_relative {root s : String} (hs : s.toList.head? ≠ some '/')
    (source fstype : Option String) (flags : List MsFlag) (data : Option String) :
    mountBeneath root (.mount source (root ++ s) fstype flags data) = none := by
  have hprefix : ¬ (root.data ++ ['/']) <+: (root.data ++ s.data) := by
    rw [List.prefix_append_right_inj]
    rintro ⟨t, ht⟩
    simp [String.toList, ← ht] at hs
  simp [mountBeneath, String.toList, hprefix]

/-- A mount on `root` itself is not beneath it. -/
@[simp] theorem mountBeneath_self (root : String) (source fstype : Option String) (flags : List MsFlag)
    (data : Option String) : mountBeneath root (.mount source root fstype flags data) = none := by
  have : ¬ (root.data ++ ['/']) <+: root.data := fun h => by
    have := h.length_le
    simp only [List.length_append, List.length_singleton] at this
    omega
  simp [mountBeneath, String.toList, this]

/-- What fits in a `PATH_MAX` buffer is the whole path when it is shorter. -/
theorem snprintfPath_of_lt {s : String} (h : s.length < PATH_MAX) : snprintfPath s = s := by
  simp only [snprintfPath, List.take_of_length_le (show s.toList.length ≤ PATH_MAX - 1 by
    simp only [String.toList]; exact Nat.le_sub_one_of_lt h)]
  rfl

theorem bindTarget_of_lt {base dest : String} (h : base.length + dest.length < PATH_MAX) :
    (⟨bindTarget base dest⟩ : String) = base ++ dest := by
  exact snprintfPath_of_lt (show (base ++ dest).length < PATH_MAX by simpa using h)

/-- A source `microbox_bind_mount` prepares a target for: a directory, a regular file or
a device. -/
def Node.bindable : Node → Bool
  | .other => false
  | _ => true

/-- What `microbox_bind_mount` mounts beneath `base` when it succeeds: the bind mount,
and for `MNT_RO` its read-only remount, both at `dest` when `dest` starts with `/`. -/
def bindMountEntries (spec : MountSpec) : List RootMount :=
  if spec.dest.toList.head? = some '/' then
    ⟨spec.dest, some spec.host, none, [.msBind, .msRec], none⟩ ::
      if spec.mode = .mntRo then
        [⟨spec.dest, none, none, [.msBind, .msRemount, .msRdonly, .msNosuid], none⟩]
      else []
  else []

/-- What `microbox_bind_mount_proc` mounts beneath `base`. -/
def procEntries : List RootMount :=
  [⟨"/proc", some "proc", some "proc", [.msNosuid, .msNoexec, .msNodev], none⟩]

/-- What `microbox_bind_mount_dev` mounts beneath `base`: a tmpfs on `/dev`, `devpts`
and the `/dev/shm` tmpfs, then each allowlisted device the host has. -/
def devEntries (host : String → Option Node) : List RootMount :=
  [⟨"/dev", some "tmpfs", some "tmpfs", [.msNosuid, .msNoexec], some "mode=755,size=2m"⟩,
    ⟨"/dev/pts", some "devpts", some "devpts", [.msNosuid, .msNoexec],
      some "newinstance,ptmxmode=0666,mode=620"⟩,
    ⟨"/dev/shm", some "tmpfs", some "tmpfs", [.msNosuid, .msNoexec], some "mode=1777,size=64m"⟩] ++
  devDirs.flatMap fun d => if (host d).any Node.bindable then bindMountEntries ⟨d, d, .mntRw⟩ else []

/-- The builder's own mounts beneath the new root: `/proc` and `/dev` when asked. -/
def sysEntries (host : String → Option Node) (opts : SandboxOptions) : List RootMount :=
  (if opts.mount_proc then procEntries else []) ++ (if opts.mount_dev then devEntries host else [])

/-- The user's bind mounts beneath the new root. -/
def userEntries (opts : SandboxOptions) : List RootMount := opts.mounts.flatMap bindMountEntries

/-! ## Fault-free runs -/

/-- `p` after the calls `cs`, with `errno` now `e`. -/
def Proc.extend (p : Proc) (cs : List Syscall) (e : Int) : Proc :=
  { p with calls := p.calls ++ cs, errno := e }

@[simp] theorem Proc.extend_outcomes (p : Proc) (cs : List Syscall) (e : Int) :
    (p.extend cs e).outcomes = p.outcomes := rfl

@[simp] theorem Proc.extend_calls (p : Proc) (cs : List Syscall) (e : Int) :
    (p.extend cs e).calls = p.calls ++ cs := rfl

@[simp] theorem Proc.extend_fds (p : Proc) (cs : List Syscall) (e : Int) :
    (p.extend cs e).fds = p.fds := rfl

@[simp] theorem Proc.extend_extend (p : Proc) (cs₁ cs₂ : List Syscall) (e₁ e₂ : Int) :
    (p.extend cs₁ e₁).extend cs₂ e₂ = p.extend (cs₁ ++ cs₂) e₂ := by
  simp [Proc.extend, List.append_assoc]

/-- A fault-free run of `f`, from any state, returns `r`, keeps the descriptors, and
makes calls that mount `ms` beneath `root`. -/
def RunsTo {α : Type} (f : ProcM α) (r : α) (root : String) (ms : List RootMount) : Prop :=
  ∀ p : Proc, p.outcomes = [] →
    ∃ cs e, f.run p = (r, p.extend cs e) ∧ mountsBeneath root cs = ms

section RunsTo

variable {α β : Type} {root : String} {ms ms₁ ms₂ : List RootMount}

theorem RunsTo.congr {f : ProcM α} {r : α} (h : RunsTo f r root ms₁) (hms : ms₁ = ms₂) :
    RunsTo f r root ms₂ :=
  hms ▸ h

theorem runsTo_pure (a : α) : RunsTo (pure a) a root [] := fun p _ =>
  ⟨[], p.errno, by cases p; simp [Proc.extend, StateT.run_pure], rfl⟩

theorem runsTo_sys (c : Syscall) : RunsTo (sys c) true root (mountsBeneath root [c]) := fun p hp =>
  ⟨[c], p.errno, by simp [hp, Proc.extend], rfl⟩

theorem RunsTo.bind {x : ProcM α} {f : α → ProcM β} {a : α} {b : β}
    (hx : RunsTo x a root ms₁) (hf : RunsTo (f a) b root ms₂) : RunsTo (x >>= f) b root (ms₁ ++ ms₂) := by
  intro p hp
  obtain ⟨cs₁, e₁, h₁, hm₁⟩ := hx p hp
  obtain ⟨cs₂, e₂, h₂, hm₂⟩ := hf (p.extend cs₁ e₁) hp
  refine ⟨cs₁ ++ cs₂, e₂, ?_, by rw [mountsBeneath_append, hm₁, hm₂]⟩
  rw [StateT.run_bind, h₁]
  simpa using h₂

/-- `let ok ← sys c; if !ok then a else b`, when the call succeeds. -/
theorem RunsTo.sys_then {c : Syscall} {a b : ProcM α} {r : α} (hb : RunsTo b r root ms) :
    RunsTo (do let ok ← sys c; if !ok then a else b) r root (mountsBeneath root [c] ++ ms) :=
  (runsTo_sys c).bind hb

/-- `let v ← f; if v < 0 then a else b`, when `f` returns a non-negative value. -/
theorem RunsTo.nonneg_then {f : ProcM Int} {a b : ProcM α} {v : Int} {r : α}
    (hf : RunsTo f v root ms₁) (hv : 0 ≤ v) (hb : RunsTo b r root ms₂) :
    RunsTo (do let v ← f; if v < 0 then a else b) r root (ms₁ ++ ms₂) :=
  hf.bind (by simpa [show ¬ v < 0 by omega] using hb)

theorem RunsTo.getErrno_bind {f : Int → ProcM α} {r : α} (hf : ∀ e, RunsTo (f e) r root ms) :
    RunsTo (getErrno >>= f) r root ms := by
  intro p hp
  obtain ⟨cs, e, h, hm⟩ := hf p.errno p hp
  exact ⟨cs, e, by rw [StateT.run_bind]; simpa using h, hm⟩

theorem RunsTo.ite {c : Bool} {a b : ProcM α} {r : α} (ha : c = true → RunsTo a r root ms₁)
    (hb : c = false → RunsTo b r root ms₂) :
    RunsTo (if c then a else b) r root (if c then ms₁ else ms₂) := by
  cases c
  · exact hb rfl
  · exact ha rfl

end RunsTo

/-! ## What each function mounts in a fault-free run -/

section FaultFree

variable {root : String}

theorem mkdirSafe_runsTo (path : String) :
    RunsTo (mkdirSafe path) true root (mountsBeneath root [.mkdir path]) := by
  unfold mkdirSafe
  exact RunsTo.congr (RunsTo.bind (runsTo_sys _) (runsTo_pure true)) (List.append_nil _)

theorem microsandboxCreateTmpfs_runsTo (path : String) :
    RunsTo (microsandboxCreateTmpfs path) 0 root (mountsBeneath root [.mkdir path,
      .mount (some "tmpfs") path (some "tmpfs") [.msNosuid, .msNodev] (some "mode=700,size=512m")]) := by
  unfold microsandboxCreateTmpfs
  exact RunsTo.congr (RunsTo.bind (mkdirSafe_runsTo path) (RunsTo.sys_then (runsTo_pure 0))) (by simp)

theorem stat_runsTo {host : String → Option Node} {path : String} {n : Node} (h : host path = some n) :
    RunsTo (stat host path) (some n) root [] := fun p hp =>
  ⟨[.stat path], p.errno, by simp [stat, hp, h, Outcome.failed, Proc.extend, StateT.run_bind], rfl⟩

theorem stat_runsTo_none {host : String → Option Node} {path : String} (h : host path = none) :
    RunsTo (stat host path) none root [] := fun p hp =>
  ⟨[.stat path], ENOENT, by simp [stat, hp, h, Outcome.failed, Proc.extend, StateT.run_bind], rfl⟩

theorem access_runsTo {host : String → Option Node} {path : String} {n : Node} (h : host path = some n) :
    RunsTo (access host path) true root [] := fun p hp =>
  ⟨[.access path], p.errno, by simp [access, hp, h, Outcome.failed, Proc.extend, StateT.run_bind], rfl⟩

theorem isDirectory_runsTo {host : String → Option Node} {path : String} (hne : path ≠ "")
    (h : host path = some .dir) : RunsTo (isDirectory host (some path)) true root [] := by
  simp only [isDirectory, hne, if_false]
  exact RunsTo.bind (access_runsTo h) (RunsTo.bind (stat_runsTo h) (runsTo_pure true))

theorem prepareTargetCalls_runsTo {n : Node} (hn : n.bindable) (target : String) :
    RunsTo (prepareTargetCalls n target) true root [] := by
  intro p hp
  have hfd := freshFd_pos p.fds
  cases n
  case dir => exact ⟨[.mkdirp target], p.errno, by simp [prepareTargetCalls, hp, Proc.extend], rfl⟩
  case other => simp [Node.bindable] at hn
  all_goals
    exact ⟨[.mkdirp ⟨dirname target.toList⟩, .openFile target, .close (freshFd p.fds)], p.errno,
      by simp [prepareTargetCalls, hp, Proc.extend, StateT.run_bind, show ¬ freshFd p.fds < 0 by omega], rfl⟩

/-- The bind mount and its remount at `base ++ dest`, seen from `base`. -/
theorem mountsBeneath_bindMount (base : String) (spec : MountSpec) :
    mountsBeneath base [.mount (some spec.host) (base ++ spec.dest) none [.msBind, .msRec] none] ++
        (if spec.mode = .mntRo then
          mountsBeneath base [.mount none (base ++ spec.dest) none [.msBind, .msRemount, .msRdonly, .msNosuid] none]
        else []) =
      bindMountEntries spec := by
  unfold bindMountEntries
  by_cases hs : spec.dest.toList.head? = some '/'
  · simp only [mountsBeneath_cons, mountBeneath_append hs, hs, if_true]
    split <;> simp
  · simp only [mountsBeneath_cons, mountBeneath_append_relative hs, hs, if_false]
    split <;> simp

theorem microboxBindMountCalls_runsTo {host : String → Option Node} {base : String} {spec : MountSpec}
    {n : Node} (hn : host spec.host = some n) (hb : n.bindable)
    (hlen : base.length + spec.dest.length < PATH_MAX) :
    RunsTo (microboxBindMountCalls host base spec) 0 base (bindMountEntries spec) := by
  unfold microboxBindMountCalls
  rw [bindTarget_of_lt hlen, ← mountsBeneath_bindMount base spec]
  cases spec.mode
  · exact RunsTo.congr (RunsTo.bind (stat_runsTo hn) (RunsTo.bind (prepareTargetCalls_runsTo hb _)
      (RunsTo.sys_then (RunsTo.sys_then (runsTo_pure 0))))) (by simp)
  · exact RunsTo.congr (RunsTo.bind (stat_runsTo hn) (RunsTo.bind (prepareTargetCalls_runsTo hb _)
      (RunsTo.sys_then (runsTo_pure 0)))) (by simp)

/-- A source the host does not have, or cannot be bound, makes the call fail before it
mounts anything. -/
theorem microboxBindMountCalls_runsTo_unbindable {host : String → Option Node} {base : String}
    {spec : MountSpec} (h : (host spec.host).any Node.bindable = false) :
    RunsTo (microboxBindMountCalls host base spec) (-1) base [] := by
  unfold microboxBindMountCalls
  cases hn : host spec.host with
  | none => exact RunsTo.bind (stat_runsTo_none hn) (runsTo_pure (-1))
  | some n =>
    cases n <;> simp [hn, Node.bindable] at h
    exact RunsTo.bind (stat_runsTo hn) (RunsTo.bind (runsTo_pure false) (runsTo_pure (-1)))

theorem bindMounts_runsTo {host : String → Option Node} {base : String} :
    ∀ {specs : List MountSpec}, (∀ m ∈ specs, ∃ n, host m.host = some n ∧ n.bindable) →
      (∀ m ∈ specs, base.length + m.dest.length < PATH_MAX) →
      RunsTo (bindMounts host base specs) 0 base (specs.flatMap bindMountEntries)
  | [], _, _ => runsTo_pure 0
  | spec :: specs, hsrc, hlen => by
    obtain ⟨n, hn, hb⟩ := hsrc spec (List.mem_cons_self _ _)
    unfold bindMounts
    exact RunsTo.congr (RunsTo.nonneg_then
      (microboxBindMountCalls_runsTo hn hb (hlen spec (List.mem_cons_self _ _))) (Int.le_refl 0)
      (bindMounts_runsTo (fun m hm => hsrc m (List.mem_cons_of_mem _ hm))
        (fun m hm => hlen m (List.mem_cons_of_mem _ hm)))) (by simp)

theorem bindDevDirs_runsTo {host : String → Option Node} {base : String} :
    ∀ {ds : List String}, (∀ d ∈ ds, base.length + d.length < PATH_MAX) →
      RunsTo (bindDevDirs host base ds) () base
        (ds.flatMap fun d => if (host d).any Node.bindable then bindMountEntries ⟨d, d, .mntRw⟩ else [])
  | [], _ => runsTo_pure ()
  | d :: ds, hlen => by
    have hrest := @bindDevDirs_runsTo host base ds fun d hd => hlen d (List.mem_cons_of_mem _ hd)
    unfold bindDevDirs
    cases h : (host d).any Node.bindable
    · exact RunsTo.congr (RunsTo.bind (microboxBindMountCalls_runsTo_unbindable h) hrest) (by simp [h])
    · obtain ⟨n, hn, hb⟩ : ∃ n, host d = some n ∧ n.bindable := by
        cases hd : host d <;> simp_all
      exact RunsTo.congr (RunsTo.bind (@microboxBindMountCalls_runsTo host base ⟨d, d, .mntRw⟩ n hn hb
        (hlen d (List.mem_cons_self _ _))) hrest) (by simp [h])

theorem devDirs_length : ∀ d ∈ devDirs, d.length ≤ 12 := by decide

theorem microboxBindMountProc_runsTo {base : String} (hbase : base.length + 5 < PATH_MAX) :
    RunsTo (microboxBindMountProc base) 0 base procEntries := by
  unfold microboxBindMountProc
  rw [snprintfPath_of_lt (show (base ++ "/proc").length < PATH_MAX by
    rw [String.length_append]; exact hbase)]
  exact RunsTo.congr (RunsTo.sys_then (RunsTo.sys_then (runsTo_pure 0)))
    (by simp (disch := decide) only [mountsBeneath_cons, mountBeneath_append, List.append_nil]; rfl)

theorem microboxBindMountDev_runsTo {host : String → Option Node} {base : String}
    (hbase : base.length + 12 < PATH_MAX) :
    RunsTo (microboxBindMountDev host base) 0 base (devEntries host) := by
  unfold microboxBindMountDev
  rw [snprintfPath_of_lt (show (base ++ "/dev").length < PATH_MAX by
      rw [String.length_append]; exact (by omega : base.length + 4 < PATH_MAX)),
    snprintfPath_of_lt (show (base ++ "/dev/pts").length < PATH_MAX by
      rw [String.length_append]; exact (by omega : base.length + 8 < PATH_MAX)),
    snprintfPath_of_lt (show (base ++ "/dev/ptmx").length < PATH_MAX by
      rw [String.length_append]; exact (by omega : base.length + 9 < PATH_MAX)),
    snprintfPath_of_lt (show (base ++ "/dev/shm").length < PATH_MAX by
      rw [String.length_append]; exact (by omega : base.length + 8 < PATH_MAX))]
  have hdirs := @bindDevDirs_runsTo host base devDirs fun d hd => by
    have := devDirs_length d hd
    omega
  exact RunsTo.congr
    (RunsTo.sys_then (RunsTo.sys_then (RunsTo.sys_then
      (RunsTo.bind (runsTo_sys _) (RunsTo.getErrno_bind fun _ =>
        RunsTo.bind (runsTo_sys _) (RunsTo.sys_then (RunsTo.sys_then (RunsTo.sys_then
          (RunsTo.bind hdirs (runsTo_pure 0))))))))))
    (by simp (disch := decide) only [mountsBeneath_cons, mountBeneath_append, List.append_nil]; rfl)

theorem microsandboxCreateOverlayfs_runsTo (src mountpoint : String) :
    RunsTo (microsandboxCreateOverlayfs src mountpoint)
      (some ⟨src, pathJoin mountpoint "upper", pathJoin mountpoint "work", pathJoin mountpoint "merged"⟩)
      root (mountsBeneath root [.mount (some "overlay") (pathJoin mountpoint "merged") (some "overlay") []
        (some (overlayOptions src (pathJoin mountpoint "upper") (pathJoin mountpoint "work")))]) :=
  fun p hp =>
    have hfd : ¬ freshFd p.fds < 0 := by have := freshFd_pos p.fds; omega
    ⟨[.openFile mountpoint, .mkdirat (freshFd p.fds) "upper", .mkdirat (freshFd p.fds) "work",
      .mkdirat (freshFd p.fds) "merged", .close (freshFd p.fds),
      .mount (some "overlay") (pathJoin mountpoint "merged") (some "overlay") []
        (some (overlayOptions src (pathJoin mountpoint "upper") (pathJoin mountpoint "work")))],
      p.errno, by simp [microsandboxCreateOverlayfs, hp, hfd, Proc.extend, StateT.run_bind],
      by simp [mountBeneath]⟩

theorem pathJoin_box_overlay :
    pathJoin "/box/overlay" "upper" = "/box/overlay/upper" ∧
      pathJoin "/box/overlay" "work" = "/box/overlay/work" ∧
      pathJoin "/box/overlay" "merged" = "/box/overlay/merged" := by
  decide

theorem pivotRootInto_runsTo (dir : String) : RunsTo (pivotRootInto dir) 0 root [] := by
  unfold pivotRootInto
  exact RunsTo.sys_then (RunsTo.sys_then (RunsTo.sys_then (RunsTo.sys_then (RunsTo.sys_then
    (RunsTo.sys_then (runsTo_pure 0))))))

/-- The overlay on `/box/overlay`, with its paths written out. -/
theorem microsandboxCreateOverlayfs_box_runsTo (src : String) :
    RunsTo (microsandboxCreateOverlayfs src "/box/overlay")
      (some ⟨src, "/box/overlay/upper", "/box/overlay/work", "/box/overlay/merged"⟩) root
      (mountsBeneath root [.mount (some "overlay") "/box/overlay/merged" (some "overlay") []
        (some (overlayOptions src "/box/overlay/upper" "/box/overlay/work"))]) := by
  obtain ⟨hu, hw, hm⟩ := pathJoin_box_overlay
  simpa only [hu, hw, hm] using @microsandboxCreateOverlayfs_runsTo root src "/box/overlay"

theorem microsandboxSetupTmpfs_runsTo {host : String → Option Node} {opts : SandboxOptions}
    (hsrc : ∀ m ∈ opts.mounts, ∃ n, host m.host = some n ∧ n.bindable)
    (hlen : ∀ m ∈ opts.mounts, "/box".length + m.dest.length < PATH_MAX) :
    RunsTo (microsandboxSetupTmpfs host opts) 0 "/box" (sysEntries host opts ++ userEntries opts) := by
  have hprivate : mountsBeneath "/box" [makeRootPrivate] = [] := by decide
  have htmpfs : mountsBeneath "/box" [.mkdir "/box", .mount (some "tmpfs") "/box" (some "tmpfs")
      [.msNosuid, .msNodev] (some "mode=700,size=512m")] = [] := by decide
  unfold microsandboxSetupTmpfs
  exact RunsTo.congr
    (RunsTo.sys_then (RunsTo.nonneg_then (microsandboxCreateTmpfs_runsTo "/box") (Int.le_refl 0)
      (RunsTo.nonneg_then (RunsTo.ite (fun _ => microboxBindMountProc_runsTo (by decide))
          (fun _ => runsTo_pure 0)) (Int.le_refl 0)
        (RunsTo.nonneg_then (RunsTo.ite (fun _ => microboxBindMountDev_runsTo (by decide))
            (fun _ => runsTo_pure 0)) (Int.le_refl 0)
          (RunsTo.nonneg_then (bindMounts_runsTo hsrc hlen) (Int.le_refl 0) (pivotRootInto_runsTo _))))))
    (by simp [hprivate, htmpfs, sysEntries, userEntries])

theorem microsandboxSetupRootfs_runsTo {host : String → Option Node} {opts : SandboxOptions}
    {rootfs : String} (hroot : opts.rootfs = some rootfs) (hne : rootfs ≠ "")
    (hdir : host rootfs = some .dir) (hsrc : ∀ m ∈ opts.mounts, ∃ n, host m.host = some n ∧ n.bindable)
    (hlen : ∀ m ∈ opts.mounts, "/box/overlay/merged".length + m.dest.length < PATH_MAX) :
    RunsTo (microsandboxSetupRootfs host opts) 0 "/box/overlay/merged"
      (userEntries opts ++ sysEntries host opts) := by
  have hprivate : mountsBeneath "/box/overlay/merged" [makeRootPrivate] = [] := by decide
  have htmpfs : mountsBeneath "/box/overlay/merged" [.mkdir "/box", .mount (some "tmpfs") "/box"
      (some "tmpfs") [.msNosuid, .msNodev] (some "mode=700,size=512m")] = [] := by decide
  have hoverlay : mountsBeneath "/box/overlay/merged" [.mkdir "/box/overlay"] = [] := by decide
  unfold microsandboxSetupRootfs
  rw [hroot, Option.getD_some]
  exact RunsTo.congr
    (RunsTo.sys_then (RunsTo.bind (isDirectory_runsTo hne hdir)
      (RunsTo.nonneg_then (microsandboxCreateTmpfs_runsTo "/box") (Int.le_refl 0)
        (RunsTo.sys_then (RunsTo.bind (microsandboxCreateOverlayfs_box_runsTo rootfs)
          (RunsTo.nonneg_then (bindMounts_runsTo hsrc hlen) (Int.le_refl 0)
            (RunsTo.nonneg_then (RunsTo.ite (fun _ => microboxBindMountProc_runsTo
                (show "/box/overlay/merged".length + 5 < PATH_MAX by decide))
                (fun _ => runsTo_pure 0)) (Int.le_refl 0)
              (RunsTo.nonneg_then (RunsTo.ite (fun _ => microboxBindMountDev_runsTo
                  (show "/box/overlay/merged".length + 12 < PATH_MAX by decide))
                  (fun _ => runsTo_pure 0)) (Int.le_refl 0) (pivotRootInto_runsTo _)))))))))
    (by simp [hprivate, htmpfs, hoverlay, sysEntries, userEntries])

end FaultFree

/-! ## The order of the mounts beneath the new root -/

theorem bindMountEntries_fstype (spec : MountSpec) : ∀ m ∈ bindMountEntries spec, m.fstype = none := by
  unfold bindMountEntries
  split_ifs <;> simp

theorem userEntries_fstype (opts : SandboxOptions) : ∀ m ∈ userEntries opts, m.fstype = none := by
  simp only [userEntries, List.mem_flatMap]
  rintro m ⟨spec, -, hm⟩
  exact bindMountEntries_fstype spec m hm

/-- The builder's first mount, `/proc` or the `/dev` tmpfs, has a filesystem type. -/
theorem sysEntries_head (host : String → Option Node) (opts : SandboxOptions)
    (h : sysEntries host opts ≠ []) : ∃ m ms, sysEntries host opts = m :: ms ∧ m.fstype.isSome := by
  unfold sysEntries at *
  cases hp : opts.mount_proc <;> cases hd : opts.mount_dev <;> simp_all [procEntries, devEntries]

/-- The builder's mounts and the user's commute only when one group is empty. -/
theorem sysEntries_append_comm_iff (host : String → Option Node) (opts : SandboxOptions) :
    sysEntries host opts ++ userEntries opts = userEntries opts ++ sysEntries host opts ↔
      sysEntries host opts = [] ∨ userEntries opts = [] := by
  constructor
  · intro h
    by_contra hne
    obtain ⟨m, ms, hs, hm⟩ := sysEntries_head host opts (fun h' => hne (.inl h'))
    obtain ⟨u, us, hu⟩ := List.exists_cons_of_ne_nil fun h' => hne (.inr h')
    rw [hs, hu, List.cons_append, List.cons_append, List.cons.injEq] at h
    have hu' := userEntries_fstype opts u (by simp [hu])
    simp [h.1, hu'] at hm
  · rintro (h | h) <;> simp [h]

/-- `w` put in front of the first piece. -/
def prependPiece (w : List Char) : List (List Char) → List (List Char)
  | [] => [w]
  | v :: vs => (w ++ v) :: vs

/-- The pieces between the unescaped `sep`s, as `ovl_next_opt` and `ovl_split_lowerdirs`
cut them; escapes stay in the pieces. -/
def splitUnescaped (sep : Char) : List Char → List (List Char)
  | [] => [[]]
  | c :: rest =>
    if c = '\\' then
      match rest with
      | [] => [['\\']]
      | d :: rest => prependPiece ['\\', d] (splitUnescaped sep rest)
    else if c = sep then [] :: splitUnescaped sep rest
    else prependPiece [c] (splitUnescaped sep rest)

/-- `ovl_unescape`: each `\` goes and the character after it stays. -/
def unescape : List Char → List Char
  | [] => []
  | c :: rest =>
    if c = '\\' then
      match rest with
      | [] => []
      | d :: rest => d :: unescape rest
    else c :: unescape rest

/-- The options overlayfs takes from the data string. -/
structure OverlayParams where
  /-- The lower layers, top first. -/
  lowerdir : List String
  /-- The upper directory. -/
  upperdir : Option String
  /-- The work directory. -/
  workdir : Option String
deriving DecidableEq, Repr

/-- The value of `key%s` in one option, when the option is `key` and a non-empty value. -/
def optionValue (key : String) (opt : List Char) : Option (List Char) :=
  if key.toList.isPrefixOf opt ∧ key.length < opt.length then some (opt.drop key.length) else none

/-- One option of the data string. -/
def overlayOption (params : OverlayParams) (opt : List Char) : Option OverlayParams :=
  match optionValue "lowerdir=" opt, optionValue "upperdir=" opt, optionValue "workdir=" opt with
  | some v, _, _ => some { params with lowerdir := (splitUnescaped ':' v).map fun l => ⟨unescape l⟩ }
  | none, some v, _ => some { params with upperdir := some ⟨unescape v⟩ }
  | none, none, some v => some { params with workdir := some ⟨unescape v⟩ }
  | none, none, none => none

/-- The data string of an overlay mount, as the kernel parses it; `none` if it fails. -/
def overlayParse (data : String) : Option OverlayParams :=
  (splitUnescaped ',' data.toList).foldlM overlayOption ⟨[], none, none⟩

/-- The data string is the whole formatted text: the buffer has room for every byte of
it and the terminator. -/
theorem overlayOptions_eq (src upperdir workdir : String) :
    overlayOptions src upperdir workdir =
      "lowerdir=" ++ src ++ ",upperdir=" ++ upperdir ++ ",workdir=" ++ workdir := by
  have hlen : ("lowerdir=" ++ src ++ ",upperdir=" ++ upperdir ++ ",workdir=" ++ workdir).length =
      src.length + upperdir.length + workdir.length + "lowerdir=,".length + "upperdir=,".length +
        "workdir=".length := by
    simp only [String.length_append]
    change 9 + _ + 10 + _ + 9 + _ = _ + _ + _ + 10 + 10 + 8
    omega
  simp only [overlayOptions]
  rw [List.take_of_length_le (by rw [← hlen]; exact Nat.le_refl _)]
  rfl

theorem splitUnescaped_cons_of_ne {sep c : Char} (a : List Char) (h : c ≠ '\\') :
    splitUnescaped sep (c :: a) =
      if c = sep then [] :: splitUnescaped sep a else prependPiece [c] (splitUnescaped sep a) := by
  rw [splitUnescaped.eq_def]
  simp [h]

theorem unescape_cons_of_ne {c : Char} (a : List Char) (h : c ≠ '\\') :
    unescape (c :: a) = c :: unescape a := by
  rw [unescape.eq_def]
  simp [h]

theorem splitUnescaped_of_free {sep : Char} :
    ∀ {a : List Char}, (∀ c ∈ a, c ≠ sep ∧ c ≠ '\\') → splitUnescaped sep a = [a]
  | [], _ => rfl
  | c :: a, h => by
    have hc := h c (List.mem_cons_self _ _)
    rw [splitUnescaped_cons_of_ne a hc.2, if_neg hc.1,
      splitUnescaped_of_free fun d hd => h d (List.mem_cons_of_mem _ hd)]
    rfl

/-- A separator after a piece with no separator and no escape ends the piece. -/
theorem splitUnescaped_append_sep {sep : Char} (hsep : sep ≠ '\\') (rest : List Char) :
    ∀ {a : List Char}, (∀ c ∈ a, c ≠ sep ∧ c ≠ '\\') →
      splitUnescaped sep (a ++ sep :: rest) = a :: splitUnescaped sep rest
  | [], _ => by rw [List.nil_append, splitUnescaped_cons_of_ne rest hsep, if_pos rfl]
  | c :: a, h => by
    have hc := h c (List.mem_cons_self _ _)
    rw [List.cons_append, splitUnescaped_cons_of_ne _ hc.2, if_neg hc.1,
      splitUnescaped_append_sep hsep rest fun d hd => h d (List.mem_cons_of_mem _ hd)]
    rfl

theorem unescape_of_free : ∀ {a : List Char}, (∀ c ∈ a, c ≠ '\\') → unescape a = a
  | [], _ => rfl
  | c :: a, h => by
    rw [unescape_cons_of_ne a (h c (List.mem_cons_self _ _)),
      unescape_of_free fun d hd => h d (List.mem_cons_of_mem _ hd)]

theorem optionValue_append (key v : List Char) (hv : v ≠ []) : optionValue ⟨key⟩ (key ++ v) = some v := by
  have hlen : key.length < (key ++ v).length := by
    rw [List.length_append]
    exact Nat.lt_add_of_pos_right (List.length_pos.mpr hv)
  simp only [optionValue, String.toList, String.length, List.isPrefixOf_iff_prefix, List.prefix_append,
    true_and, hlen, if_true, List.drop_left]

/-- For every non-empty root filesystem path without `,`, `:` or `\`, the kernel reads
the overlay's data string as that one lower layer, `/box/overlay/upper` and
`/box/overlay/work`. -/
theorem overlayParse_plain {src : String} (hne : src ≠ "")
    (hsafe : ∀ c ∈ src.toList, c ≠ ',' ∧ c ≠ ':' ∧ c ≠ '\\') :
    overlayParse (overlayOptions src "/box/overlay/upper" "/box/overlay/work") =
      some ⟨[src], some "/box/overlay/upper", some "/box/overlay/work"⟩ := by
  have hkey : ∀ c ∈ "lowerdir=".toList, c ≠ ',' ∧ c ≠ '\\' := by decide
  have hpiece : ∀ c ∈ "lowerdir=".toList ++ src.toList, c ≠ ',' ∧ c ≠ '\\' := fun c hc =>
    (List.mem_append.mp hc).elim (hkey c) fun hc => ⟨(hsafe c hc).1, (hsafe c hc).2.2⟩
  have hsrc : src.toList ≠ [] := fun h => hne (String.ext h)
  have hlower : optionValue "lowerdir=" ("lowerdir=".toList ++ src.toList) = some src.toList :=
    optionValue_append _ _ hsrc
  have hlayer : (splitUnescaped ':' src.toList).map (fun l => (⟨unescape l⟩ : String)) = [src] := by
    rw [splitUnescaped_of_free fun c hc => ⟨(hsafe c hc).2.1, (hsafe c hc).2.2⟩,
      List.map_singleton, unescape_of_free fun c hc => (hsafe c hc).2.2]
    rfl
  have hrest : splitUnescaped ',' "upperdir=/box/overlay/upper,workdir=/box/overlay/work".toList =
      ["upperdir=/box/overlay/upper".toList, "workdir=/box/overlay/work".toList] := by decide
  have hupper : optionValue "lowerdir=" "upperdir=/box/overlay/upper".toList = none ∧
      optionValue "upperdir=" "upperdir=/box/overlay/upper".toList = some "/box/overlay/upper".toList ∧
      unescape "/box/overlay/upper".toList = "/box/overlay/upper".toList := by decide
  have hwork : optionValue "lowerdir=" "workdir=/box/overlay/work".toList = none ∧
      optionValue "upperdir=" "workdir=/box/overlay/work".toList = none ∧
      optionValue "workdir=" "workdir=/box/overlay/work".toList = some "/box/overlay/work".toList ∧
      unescape "/box/overlay/work".toList = "/box/overlay/work".toList := by decide
  have hdata : (overlayOptions src "/box/overlay/upper" "/box/overlay/work").toList =
      ("lowerdir=".toList ++ src.toList) ++
        ',' :: "upperdir=/box/overlay/upper,workdir=/box/overlay/work".toList := by
    rw [overlayOptions_eq]
    simp [String.toList]
  unfold overlayParse
  rw [hdata, splitUnescaped_append_sep (by decide) _ hpiece, hrest]
  simp only [List.foldlM_cons, List.foldlM_nil, overlayOption, hlower, hlayer, hupper, hwork]
  rfl

theorem overlayParse_plain_img :
    "/img" ≠ "" ∧ (∀ c ∈ "/img".toList, c ≠ ',' ∧ c ≠ ':' ∧ c ≠ '\\') ∧
      overlayParse (overlayOptions "/img" "/box/overlay/upper" "/box/overlay/work") =
        some ⟨["/img"], some "/box/overlay/upper", some "/box/overlay/work"⟩ :=
  ⟨by decide, by decide, overlayParse_plain (by decide) (by decide)⟩

/-- `--fs alpine:3.18`: the parser takes the path as the root filesystem, a fault-free
`microsandbox_create_overlayfs` mounts the overlay with the path as `lowerdir`, and the
kernel reads two lower layers, `alpine` and `3.18`. -/
theorem createOverlayfs_colon_layers (errno : Int) :
    cliParseOptions { fs := some "alpine:3.18", cmd := ["/bin/sh"] } =
        .ok { fs_mode := .fsRootfs, rootfs := some "alpine:3.18", cmd := ["/bin/sh"] } ∧
      mountsBeneath "/box/overlay"
          ((microsandboxCreateOverlayfs "alpine:3.18" "/box/overlay").run ⟨[], errno, [], []⟩).2.calls =
        [⟨"/merged", some "overlay", some "overlay", [],
          some "lowerdir=alpine:3.18,upperdir=/box/overlay/upper,workdir=/box/overlay/work"⟩] ∧
      overlayParse "lowerdir=alpine:3.18,upperdir=/box/overlay/upper,workdir=/box/overlay/work" =
        some ⟨["alpine", "3.18"], some "/box/overlay/upper", some "/box/overlay/work"⟩ := by
  obtain ⟨cs, e, h, hm⟩ := @microsandboxCreateOverlayfs_box_runsTo "/box/overlay" "alpine:3.18"
    ⟨[], errno, [], []⟩ rfl
  rw [h, Proc.extend_calls, List.nil_append, hm]
  exact ⟨rfl, by decide, by decide⟩

end Microbox
