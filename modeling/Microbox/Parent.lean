import Microbox.Builder
import Microbox.Spawn

/-!
# The parent's setup calls

After `clone3`, `microbox_sandbox_spawn` (`sandbox.c`) writes the child's user-namespace maps
with `setup_uid_gid_map`, sets up bridge networking in bridge mode, and joins the child to a
cgroup with `setup_cgroup_limits`, before it releases the child.  `Microbox.Spawn` takes each
of these as one step with a fault bit and the `errno` it returns; here they are the calls the
code makes, over `ProcM`, with the descriptors they open.

Two things follow from the calls and not from the steps.

* Descriptors: `write_file` and the `uid_map` block close their descriptor on every path
  (`writeFile_fds`, `writeUidMap_fds`), but the `gid_map` block returns on a failed `write`
  without `close`, and so do the `write`s of `setup_cgroup_limits`.  A failed
  `setup_uid_gid_map` may leave exactly the `gid_map` descriptor open
  (`setupUidGidMap_fds`), and a failed `write` in `setup_cgroup_limits` leaves the
  descriptor of the file it was writing open.
* Results: `write_file` and `microbox_sandbox_spawn` return `-errno`.  Under the faults Linux
  gives (`KernelFaults`: a `write` to these files writes all of its buffer or fails, and a
  failed call sets `errno` positive) every failure is reported negative, and the spawn returns
  `0` only after releasing the child (`spawn_kernelFaults_returns`).  A short `write`, which
  these files never give, would leave `errno` alone: with `errno` still `0` a short `setgroups`
  write counts as success, and a short `uid_map` write makes the spawn return `0` without
  releasing the child.
-/

namespace Microbox

/-- `/proc/<pid>/<name>`, as `setup_uid_gid_map` formats it into `path[128]`. -/
def procPath (pid : Int) (name : String) : String := "/proc/" ++ toString pid ++ "/" ++ name

/-- `write_file(path, data)` (`utils.c`): `-errno` when `open` fails or `write` does not
write all of `data`, after closing the descriptor.  The data only decides the bytes written,
which are not modelled. -/
def writeFile (path : String) : ProcM Int := do
  let fd ← openFile path
  if fd < 0 then negErrno else do
  let w ← writeFd fd
  if w ≠ .all then do
    closeFd fd
    negErrno
  else do
    closeFd fd
    pure 0

/-- The `uid_map` block of `setup_uid_gid_map`: `close` on both paths. -/
def writeUidMap (pid : Int) : ProcM Bool := do
  let fd ← openFile (procPath pid "uid_map")
  if fd < 0 then pure false else do
  let w ← writeFd fd
  if w ≠ .all then do
    closeFd fd
    pure false
  else do
    closeFd fd
    pure true

/-- The `gid_map` block of `setup_uid_gid_map`: a short or failed `write` returns without
`close`. -/
def writeGidMap (pid : Int) : ProcM Bool := do
  let fd ← openFile (procPath pid "gid_map")
  if fd < 0 then pure false else do
  let w ← writeFd fd
  if w ≠ .all then pure false else do
  closeFd fd
  pure true

/-- `setup_uid_gid_map(pid)`: `deny` to `setgroups`, then the two maps; `-1` at the first
failure. -/
def setupUidGidMap (pid : Int) : ProcM Int := do
  let r ← writeFile (procPath pid "setgroups")
  if r < 0 then pure (-1) else do
  let ok ← writeUidMap pid
  if !ok then pure (-1) else do
  let ok ← writeGidMap pid
  if !ok then pure (-1) else pure 0

/-- The `cgroup.subtree_control` block of `setup_cgroup_limits` on the open descriptor `fd`:
`+memory` and `+cpu`, where a failure with `EBUSY` is ignored and any other returns without
`close`. -/
def enableControllers (fd : Int) : ProcM Bool := do
  let w ← writeFd fd
  let e ← getErrno
  if w = .err ∧ e ≠ EBUSY then pure false else do
  let w ← writeFd fd
  let e ← getErrno
  if w = .err ∧ e ≠ EBUSY then pure false else do
  closeFd fd
  pure true

/-- One control file of `setup_cgroup_limits`: `open`, one `write`, `close`.  Only a `write`
that returns `-1` fails, and it returns without `close`; a short one is accepted. -/
def writeControl (path : String) : ProcM Bool := do
  let fd ← openFile path
  if fd < 0 then pure false else do
  let w ← writeFd fd
  if w = .err then pure false else do
  closeFd fd
  pure true

/-- `setup_cgroup_limits(pid, cpus, memory)`, with `cpu_limit` the test `cpus > 0.0`: the
controllers, `mkdir_safe` of `/sys/fs/cgroup/microbox-<pid>`, `cpu.max` when there is a CPU
limit, `memory.max` and `memory.swap.max` when there is a memory limit, and `cgroup.procs`;
`-errno` at the first failure. -/
def setupCgroupLimits (pid : Int) (cpu_limit : Bool) (memory : Nat) : ProcM Int := do
  let fd ← openFile "/sys/fs/cgroup/cgroup.subtree_control"
  let enabled ← (if fd < 0 then pure true else enableControllers fd : ProcM Bool)
  if !enabled then negErrno else do
  let cg_path := "/sys/fs/cgroup/microbox-" ++ toString pid
  let made ← mkdirSafe cg_path
  if !made then negErrno else do
  let ok ← (if cpu_limit then writeControl (cg_path ++ "/cpu.max") else pure true : ProcM Bool)
  if !ok then negErrno else do
  let ok ← (if 0 < memory then do
      let ok ← writeControl (cg_path ++ "/memory.max")
      if !ok then pure false else writeControl (cg_path ++ "/memory.swap.max")
    else pure true : ProcM Bool)
  if !ok then negErrno else do
  let ok ← writeControl (cg_path ++ "/cgroup.procs")
  if !ok then negErrno else pure 0

/-- The parent's half of `microbox_sandbox_spawn` after `clone3`, up to `SIGNAL_CHILD`:
`some r` when it returns `r`, `none` when it goes on to release the child.  In bridge mode
`bridge_ok` is whether `generate_interface_names`, `microbox_setup_bridge_network` and
`move_veth_to_container` all returned `0`, which `Microbox.Netns.Setup` models on the host;
each failure returns `-1`. -/
def spawnParentSetup (o : SandboxOptions) (cpu_limit : Bool) (pid : Int) (uid : Nat)
    (bridge_ok : Bool) : ProcM (Option Int) := do
  let r ← setupUidGidMap pid
  if r < 0 then do
    let e ← getErrno
    pure (some (-e))
  else if o.net_mode = .netBridge ∧ (uid ≠ 0 ∨ !bridge_ok) then pure (some (-1))
  else do
    let r ← setupCgroupLimits pid cpu_limit o.memory
    if r < 0 then do
      let e ← getErrno
      pure (some (-e))
    else pure none

/-! ## Descriptors -/

@[simp] theorem ProcM.run_pure {α : Type} (a : α) (p : Proc) : (pure a : ProcM α).run p = (a, p) :=
  rfl

/-- `m` leaves the open descriptors as it found them, from every state. -/
def KeepsFds {α : Type} (m : ProcM α) : Prop := ∀ p, (m.run p).2.fds = p.fds

/-- `m` closes `fd` and leaves the other descriptors as it found them. -/
def ClosesFd {α : Type} (m : ProcM α) (fd : Int) : Prop := ∀ p, (m.run p).2.fds = p.fds.erase fd

section Frames

variable {α β : Type} {x : ProcM α} {f : α → ProcM β} {fd : Int}

theorem keepsFds_pure (a : α) : KeepsFds (pure a : ProcM α) := fun _ => rfl

theorem KeepsFds.bind (hx : KeepsFds x) (hf : ∀ a, KeepsFds (f a)) : KeepsFds (x >>= f) :=
  fun p => by rw [StateT.run_bind, Id.bind_eq, hf, hx]

theorem KeepsFds.bind_closes (hx : KeepsFds x) (hf : ∀ a, ClosesFd (f a) fd) :
    ClosesFd (x >>= f) fd :=
  fun p => by rw [StateT.run_bind, Id.bind_eq, hf, hx]

theorem ClosesFd.bind (hx : ClosesFd x fd) (hf : ∀ a, KeepsFds (f a)) : ClosesFd (x >>= f) fd :=
  fun p => by rw [StateT.run_bind, Id.bind_eq, hf, hx]

theorem KeepsFds.ite {c : Prop} [Decidable c] {a b : ProcM α} (ha : KeepsFds a)
    (hb : KeepsFds b) : KeepsFds (if c then a else b) := by
  split <;> assumption

theorem ClosesFd.ite {c : Prop} [Decidable c] {a b : ProcM α} (ha : ClosesFd a fd)
    (hb : ClosesFd b fd) : ClosesFd (if c then a else b) fd := by
  split <;> assumption

theorem keepsFds_call (c : Syscall) : KeepsFds (call c) := fun p => by
  simp only [call, Proc.take, StateT.run]
  split <;> split <;> rfl

theorem keepsFds_writeFd (fd : Int) : KeepsFds (writeFd fd) :=
  (keepsFds_call _).bind fun _ => keepsFds_pure _

theorem keepsFds_getErrno : KeepsFds getErrno := fun _ => rfl

theorem keepsFds_negErrno : KeepsFds negErrno := fun _ => rfl

theorem closesFd_closeFd (fd : Int) : ClosesFd (closeFd fd) fd := fun _ => rfl

/-- What `open` does to the descriptors: nothing when it fails, a new one otherwise. -/
theorem openFile_fds (path : String) (p : Proc) :
    ((openFile path).run p).1 = -1 ∧ ((openFile path).run p).2.fds = p.fds ∨
      ((openFile path).run p).1 = freshFd p.fds ∧
        ((openFile path).run p).2.fds = p.fds ++ [freshFd p.fds] := by
  simp only [openFile, StateT.run_bind, Id.bind_eq]
  have hfds := keepsFds_call (.openFile path) p
  split
  · exact .inl ⟨rfl, hfds⟩
  · exact .inr ⟨show freshFd _ = _ by rw [hfds], show _ ++ [freshFd _] = _ by rw [hfds]⟩

/-- An `open` whose descriptor the rest closes on every path leaves the descriptors as they
were. -/
theorem keepsFds_openFile_bind {path : String} {g : Int → ProcM α} (hfail : KeepsFds (g (-1)))
    (hclose : ∀ fd, 0 < fd → ClosesFd (g fd) fd) : KeepsFds (openFile path >>= g) := fun p => by
  rw [StateT.run_bind, Id.bind_eq]
  rcases openFile_fds path p with ⟨h1, h2⟩ | ⟨h1, h2⟩ <;> rw [h1]
  · rw [hfail, h2]
  · rw [hclose _ (freshFd_pos _), h2, erase_freshFd]

end Frames

/-- `write_file` closes its descriptor on every path. -/
theorem writeFile_fds (path : String) : KeepsFds (writeFile path) :=
  keepsFds_openFile_bind (by simpa [writeFile] using keepsFds_negErrno) fun fd hfd => by
    simp only [show ¬fd < 0 by omega, if_false]
    exact (keepsFds_writeFd fd).bind_closes fun w =>
      .ite ((closesFd_closeFd fd).bind fun _ => keepsFds_negErrno)
        ((closesFd_closeFd fd).bind fun _ => keepsFds_pure _)

/-- The `uid_map` block closes its descriptor on every path. -/
theorem writeUidMap_fds (pid : Int) : KeepsFds (writeUidMap pid) :=
  keepsFds_openFile_bind (by simpa [writeUidMap] using keepsFds_pure false) fun fd hfd => by
    simp only [show ¬fd < 0 by omega, if_false]
    exact (keepsFds_writeFd fd).bind_closes fun w =>
      .ite ((closesFd_closeFd fd).bind fun _ => keepsFds_pure _)
        ((closesFd_closeFd fd).bind fun _ => keepsFds_pure _)

/-- The `gid_map` block leaves the descriptors as it found them, or fails with its own
descriptor still open. -/
theorem writeGidMap_fds (pid : Int) (p : Proc) :
    ((writeGidMap pid).run p).2.fds = p.fds ∨
      ((writeGidMap pid).run p).1 = false ∧
        ((writeGidMap pid).run p).2.fds = p.fds ++ [freshFd p.fds] := by
  simp only [writeGidMap, StateT.run_bind, Id.bind_eq]
  rcases openFile_fds (procPath pid "gid_map") p with ⟨h1, h2⟩ | ⟨h1, h2⟩ <;> rw [h1]
  · exact .inl h2
  · have hw := keepsFds_writeFd (freshFd p.fds) ((openFile (procPath pid "gid_map")).run p).2
    simp only [show ¬freshFd p.fds < 0 by have := freshFd_pos p.fds; omega, if_false,
      StateT.run_bind, Id.bind_eq]
    split
    · exact .inr ⟨rfl, hw.trans h2⟩
    · exact .inl (by
        rw [((closesFd_closeFd _).bind fun _ => keepsFds_pure true) _, hw, h2, erase_freshFd])

/-- A `setup_uid_gid_map` that does not fail leaves the descriptors as it found them; one that
fails may leave one more open, the `gid_map` descriptor. -/
theorem setupUidGidMap_fds (pid : Int) (p : Proc) :
    ((setupUidGidMap pid).run p).2.fds = p.fds ∨
      ((setupUidGidMap pid).run p).1 = -1 ∧
        ((setupUidGidMap pid).run p).2.fds = p.fds ++ [freshFd p.fds] := by
  simp only [setupUidGidMap, StateT.run_bind, Id.bind_eq]
  have h1 := writeFile_fds (procPath pid "setgroups") p
  split
  · exact .inl h1
  · have h2 := writeUidMap_fds pid ((writeFile (procPath pid "setgroups")).run p).2
    rw [StateT.run_bind, Id.bind_eq]
    split
    · simp only [ProcM.run_pure]; exact .inl (h2.trans h1)
    · rw [StateT.run_bind, Id.bind_eq]
      rcases writeGidMap_fds pid
        ((writeUidMap pid).run ((writeFile (procPath pid "setgroups")).run p).2).2 with h3 | ⟨h3, h4⟩
      · split <;> simp only [ProcM.run_pure] <;> exact .inl (h3.trans (h2.trans h1))
      · rw [h3]
        exact .inr ⟨rfl, by simp only [Bool.not_false, if_true, ProcM.run_pure]; rw [h4, h2, h1]⟩

/-! ## Results under the faults Linux gives

Each function reports a failure only with `errno` positive (`ErrnoOnFail`), so every `-errno`
the parent returns is negative. -/

section KernelFaults

variable {α β : Type} {bad : α → Prop} {bad' : β → Prop}

/-- Returning `-errno` after a failure. -/
theorem negErrno_fail :
    Triple (fun p => KernelScript p ∧ 0 < p.errno) negErrno (ErrnoOnFail (· < 0)) :=
  .negErrno fun _ ⟨hk, he⟩ => ⟨hk, fun _ => he⟩

/-- Returning a constant after a failure. -/
theorem ret_fail {a : α} :
    Triple (fun p => KernelScript p ∧ 0 < p.errno) (pure a) (ErrnoOnFail bad) :=
  .ret fun _ ⟨hk, he⟩ => ⟨hk, fun _ => he⟩

/-- Returning success. -/
theorem ret_true : Triple KernelScript (pure true) (ErrnoOnFail (· = false)) :=
  .ret fun _ hk => ⟨hk, nofun⟩

theorem ret_zero : Triple KernelScript (pure (0 : Int)) (ErrnoOnFail (· < 0)) :=
  .ret fun _ hk => ⟨hk, fun h => absurd h (Int.lt_irrefl 0)⟩

/-- A call, and a check of its result that returns `fail` on a failure. -/
theorem Triple.check {m : ProcM α} {c : α → Prop} [DecidablePred c] {fail : ProcM β}
    {k : α → ProcM β} (hm : Triple KernelScript m (ErrnoOnFail bad)) (hc : ∀ a, c a → bad a)
    (hfail : Triple (fun p => KernelScript p ∧ 0 < p.errno) fail (ErrnoOnFail bad'))
    (hk : ∀ a, Triple KernelScript (k a) (ErrnoOnFail bad')) :
    Triple KernelScript (m >>= fun a => if c a then fail else k a) (ErrnoOnFail bad') :=
  hm.bind fun a => .ite (fun h => hfail.weaken fun _ hp => ⟨hp.1, hp.2 (hc a h)⟩)
    fun _ => (hk a).weaken fun _ h => h.1

/-- A call with a `Bool` result, and `if !ok then fail`. -/
theorem Triple.checkOk {fail : ProcM β} {m : ProcM Bool} {k : Bool → ProcM β}
    (hm : Triple KernelScript m (ErrnoOnFail (· = false)))
    (hfail : Triple (fun p => KernelScript p ∧ 0 < p.errno) fail (ErrnoOnFail bad'))
    (hk : ∀ ok, Triple KernelScript (k ok) (ErrnoOnFail bad')) :
    Triple KernelScript (m >>= fun ok => if !ok then fail else k ok) (ErrnoOnFail bad') :=
  hm.check (fun ok => (Bool.not_eq_true' ok).mp) hfail hk

/-- `close`, then `fail`. -/
theorem closeThen_fail {fd : Int} {fail : ProcM β} {Q : β → Proc → Prop}
    (hfail : Triple (fun p => KernelScript p ∧ 0 < p.errno) fail Q) :
    Triple (fun p => KernelScript p ∧ 0 < p.errno) (closeFd fd >>= fun _ => fail) Q :=
  (Triple.closeFd fd fun _ h => h).bind fun _ => hfail

theorem writeFile_errno (path : String) :
    Triple KernelScript (writeFile path) (ErrnoOnFail (· < 0)) := by
  unfold writeFile
  exact (Triple.openFile path).check (fun _ => id) negErrno_fail fun fd =>
    (Triple.writeFd fd).check (fun _ => id) (closeThen_fail negErrno_fail) fun _ =>
      (Triple.closeFd fd fun _ h => h).bind fun _ => ret_zero

theorem writeUidMap_errno (pid : Int) :
    Triple KernelScript (writeUidMap pid) (ErrnoOnFail (· = false)) := by
  unfold writeUidMap
  exact (Triple.openFile _).check (fun _ => id) ret_fail fun fd =>
    (Triple.writeFd fd).check (fun _ => id) (closeThen_fail ret_fail) fun _ =>
      (Triple.closeFd fd fun _ h => h).bind fun _ => ret_true

theorem writeGidMap_errno (pid : Int) :
    Triple KernelScript (writeGidMap pid) (ErrnoOnFail (· = false)) := by
  unfold writeGidMap
  exact (Triple.openFile _).check (fun _ => id) ret_fail fun fd =>
    (Triple.writeFd fd).check (fun _ => id) ret_fail fun _ =>
      (Triple.closeFd fd fun _ h => h).bind fun _ => ret_true

theorem setupUidGidMap_errno (pid : Int) :
    Triple KernelScript (setupUidGidMap pid) (ErrnoOnFail (· < 0)) := by
  unfold setupUidGidMap
  exact (writeFile_errno _).check (fun _ => id) ret_fail fun _ =>
    (writeUidMap_errno pid).checkOk ret_fail fun _ =>
      (writeGidMap_errno pid).checkOk ret_fail fun _ => ret_zero

theorem enableControllers_errno (fd : Int) :
    Triple KernelScript (enableControllers fd) (ErrnoOnFail (· = false)) := by
  have write : ∀ {k : ProcM Bool}, Triple KernelScript k (ErrnoOnFail (· = false)) →
      Triple KernelScript (writeFd fd >>= fun w => getErrno >>= fun e =>
        if w = .err ∧ e ≠ EBUSY then pure false else k) (ErrnoOnFail (· = false)) :=
    fun hk => (Triple.writeFd fd).bind fun w => Triple.getErrno.bind fun _ =>
      .ite (fun h => ret_fail.weaken fun _ ⟨⟨hk', he⟩, _⟩ => ⟨hk', he (by simp [h.1])⟩)
        fun _ => hk.weaken fun _ h => h.1.1
  unfold enableControllers
  exact write (write ((Triple.closeFd fd fun _ h => h).bind fun _ => ret_true))

theorem writeControl_errno (path : String) :
    Triple KernelScript (writeControl path) (ErrnoOnFail (· = false)) := by
  unfold writeControl
  exact (Triple.openFile _).check (fun _ => id) ret_fail fun fd =>
    (Triple.writeFd fd).check (fun _ h => by simp [h]) ret_fail fun _ =>
      (Triple.closeFd fd fun _ h => h).bind fun _ => ret_true

theorem mkdirSafe_errno (path : String) :
    Triple KernelScript (mkdirSafe path) (ErrnoOnFail (· = false)) := by
  unfold mkdirSafe
  refine (Triple.sys _).bind fun made => .ite (fun _ => ?_) fun h => ?_
  · exact .ret fun _ hp => ⟨hp.1, nofun⟩
  · exact Triple.getErrno.bind fun _ =>
      .ret fun _ ⟨⟨hk, he⟩, _⟩ => ⟨hk, fun _ => he (by simpa using h)⟩

theorem setupCgroupLimits_errno (pid : Int) (cpu_limit : Bool) (memory : Nat) :
    Triple KernelScript (setupCgroupLimits pid cpu_limit memory) (ErrnoOnFail (· < 0)) := by
  unfold setupCgroupLimits
  refine (Triple.openFile _).bind fun fd =>
    Triple.weaken (Triple.checkOk ?_ negErrno_fail fun _ => ?_) fun _ h => h.1
  · exact .ite (fun _ => ret_true) fun _ => enableControllers_errno fd
  refine (mkdirSafe_errno _).checkOk negErrno_fail fun _ => ?_
  refine (Triple.ite (fun _ => writeControl_errno _) fun _ => ret_true).checkOk negErrno_fail
    fun _ => ?_
  refine (Triple.ite (fun _ => ?_) fun _ => ret_true).checkOk negErrno_fail fun _ => ?_
  · exact (writeControl_errno _).checkOk ret_fail fun _ => writeControl_errno _
  exact (writeControl_errno _).checkOk negErrno_fail fun _ => ret_zero

/-- Whatever `errno` is on entry, under the faults Linux gives every return of the parent's
setup before `SIGNAL_CHILD` is negative. -/
theorem spawnParentSetup_errno (o : SandboxOptions) (cpu_limit : Bool) (pid : Int) (uid : Nat)
    (bridge_ok : Bool) :
    Triple KernelScript (spawnParentSetup o cpu_limit pid uid bridge_ok)
      fun v _ => ∀ r ∈ v, r < 0 := by
  -- `return (-errno)` after a failure
  have retErrno : Triple (fun p => KernelScript p ∧ 0 < p.errno)
      (getErrno >>= fun e => pure (some (-e))) fun v _ => ∀ r ∈ v, r < 0 :=
    Triple.getErrno.bind fun _ => .ret fun _ ⟨⟨_, he⟩, he'⟩ r hr => by
      cases hr
      omega
  unfold spawnParentSetup
  refine (setupUidGidMap_errno pid).bind fun r => .ite (fun h => retErrno.weaken fun _ hp =>
    ⟨hp.1, hp.2 h⟩) fun _ => .ite (fun _ => .ret fun _ _ r hr => by cases hr; decide) fun _ => ?_
  exact ((setupCgroupLimits_errno _ _ _).weaken fun _ h => h.1).bind fun r => .ite
    (fun h => retErrno.weaken fun _ hp => ⟨hp.1, hp.2 h⟩) fun _ => .ret fun _ _ r hr => by cases hr

end KernelFaults

/-! ## Where the calls and the two processes disagree with the design -/

/-- Descriptors the sandbox leaves open.  A `setup_uid_gid_map` whose `gid_map` write fails
with `EPERM` returns `-1` with that descriptor open, and a `setup_cgroup_limits` whose `+memory`
write fails with `EIO` returns `-5` with `cgroup.subtree_control` open.  In a fault-free spawn the parent
returns `0` still holding `sync_pipe[0]`, the child runs the payload holding `sync_pipe[1]`, and
after `waitid` the parent still holds the pidfd. -/
theorem spawn_leaves_fds_open (pid : Int) :
    ((setupUidGidMap pid).run ⟨[.ok, .ok, .ok, .ok, .ok, .fail 1], 0, [], []⟩).1 = -1 ∧
      ((setupUidGidMap pid).run ⟨[.ok, .ok, .ok, .ok, .ok, .fail 1], 0, [], []⟩).2.fds = [3] ∧
      ((setupCgroupLimits pid false 0).run ⟨[.ok, .fail 5], 0, [], []⟩).1 = -5 ∧
      ((setupCgroupLimits pid false 0).run ⟨[.ok, .fail 5], 0, [], []⟩).2.fds = [3] ∧
      let env : SpawnEnv := ⟨{ cmd := ["/bin/true"] }, 1001, 1000, 0,
        ⟨fun _ => 0, true, fun _ _ => true, fun _ => true⟩, ⟨[], ⟨true, false, fun _ => []⟩, none⟩⟩
      let s := spawnRun env (Sys.initial env.host)
        [.parent [] 0, .parent [] 0, .parent [] 0, .parent [] 0,
          .child [] 0, .child [] 0, .child [] 0, .child [] 0, .child [] 0]
      let s' := spawnRun env s [.parent [] 0, .child [] 0, .parent [] 0]
      s.parent = .returned 0 ∧ .pipeRead ∈ s.parentFds ∧ s.child = .running ∧
        .pipeWrite ∈ s.childFds ∧ s'.parent = .cleanup ∧ .pidfd ∈ s'.parentFds :=
  ⟨rfl, rfl, rfl, rfl, by decide⟩

end Microbox
