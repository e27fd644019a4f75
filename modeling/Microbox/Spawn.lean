import Microbox.Seccomp
import Microbox.Netns.Container

/-!
# Spawning a sandbox: parent and child after `clone3`

`microbox_sandbox_spawn` (`sandbox.c`) creates the barrier pipe, calls `clone3`, and
from then on two processes run.  The child blocks in `WAIT_FOR_PARENT` on a one-byte
`read` of the pipe; the parent writes the uid and gid maps, sets up bridge networking
in bridge mode, joins the child to its cgroup, and releases the child with
`SIGNAL_CHILD`.  `main` then exits on a negative return, or waits for the child in
`microbox_sandbox_wait` and tears its network down.

`Sys` is the state of both processes: where each one is, the descriptors each one
holds, the bytes in the pipe, the host, the child's network namespace and seccomp
filter, and the trace of the steps whose order the barrier fixes.  A process holds
copies of both pipe ends after `clone3`; `read` returns a byte, or `0` (end of file)
when no process holds a write end, or blocks; exit closes every descriptor of the
process.  An interleaving is a list of `Action`s, each one step of one process with
the fault bits of its OS calls; `Reachable` is every state some interleaving leads to.

The results:
* `spawn_barrier_order`: in every interleaving, every post-barrier step of the child
  comes after the parent's setup and the barrier write.  It holds because the child
  keeps its own write end while it waits, so its `read` never sees end of file.
* The same fact strands the child when the parent gives up: `Stranded` is preserved by
  every step (`Stranded.run`), so a child whose parent returned failure waits forever.
* `spawn_links_nonBridge`: outside bridge mode the host's interface table changes only
  by teardown's deletion of `mbx{pid % 254}h`.
* `spawn_childNet_addr`: the only address ever configured in the child's namespace is
  `172.20.0.2/16`, whatever the child's PID; `lo` also holds the `127.0.0.1/8` the kernel
  gives it when it comes up.
* `spawn_stuck_iff`: an interleaving stops only with both processes exited, or with the
  child waiting on a barrier byte that was never written while the parent has exited or
  waits for it in `microbox_sandbox_wait`.  Once the byte is written, nothing blocks until
  both have exited.
* `spawn_exits_after_barrier`: once the barrier byte is written both processes exit; no
  schedule runs forever, since each step moves one process to a later point of its code
  (`Sys.rank`).
* `spawnRun_releasedOnReturn`: when every failed parent step returns a positive `errno`, as
  a failed call leaves it, the spawn returns `0`, and `main` waits, only after the barrier
  byte is written.
-/

namespace Microbox

/-- The descriptors of a process the model follows. -/
inductive Fd
  /-- `sync_pipe[0]`. -/
  | pipeRead
  /-- `sync_pipe[1]`. -/
  | pipeWrite
  /-- The `CLONE_PIDFD` descriptor of the parent. -/
  | pidfd
deriving DecidableEq, Repr

/-- The steps whose order the barrier fixes. -/
inductive Event
  | uidGidMap
  | bridgeNetwork
  | moveVeth
  | cgroupLimits
  | barrierWrite
  | sethostname
  | setupFs
  | containerNetwork
  | seccompLoad
  | execve
deriving DecidableEq, Repr

/-- The child's steps after `WAIT_FOR_PARENT`. -/
def Event.postBarrier : Event → Bool
  | .sethostname | .setupFs | .containerNetwork | .seccompLoad | .execve => true
  | _ => false

/-- Where the parent is: in `microbox_sandbox_spawn` after `clone3`, then in `main`. -/
inductive ParentPc
  /-- `setup_uid_gid_map(pid)`. -/
  | uidGidMap
  /-- The root check, `generate_interface_names` and `microbox_setup_bridge_network`. -/
  | bridge
  /-- `move_veth_to_container`. -/
  | moveVeth
  /-- `setup_cgroup_limits`. -/
  | cgroup
  /-- The `write` of `SIGNAL_CHILD`. -/
  | signal
  /-- The `close(sync_pipe[1])` of `SIGNAL_CHILD`. -/
  | closeWrite
  /-- `microbox_sandbox_spawn` returned this value to `main`. -/
  | returned (r : Int)
  /-- `waitid(P_PIDFD, ...)` in `microbox_sandbox_wait`. -/
  | wait
  /-- `microbox_cleanup_network_interfaces(pid)`. -/
  | cleanup
  /-- The process has exited. -/
  | exited
deriving DecidableEq, Repr

/-- Where the child is. -/
inductive ChildPc
  /-- The `read` of `WAIT_FOR_PARENT`. -/
  | waitParent
  /-- `sethostname`. -/
  | sethostname
  /-- `microsandbox_setup_fs`. -/
  | setupFs
  /-- `generate_interface_names(getppid())` and `microbox_configure_container_network`. -/
  | network
  /-- `merge_syscall_lists` and `microbox_setup_seccomp`. -/
  | seccomp
  /-- `execve`. -/
  | execve
  /-- The payload runs. -/
  | running
  /-- The process has exited with this status. -/
  | exited (status : Int)
deriving DecidableEq, Repr

/-- What one spawn runs with. -/
structure SpawnEnv where
  /-- The options. -/
  opts : SandboxOptions
  /-- The child's PID, as `clone3` returns it to the parent. -/
  pid : Int
  /-- The parent's PID. -/
  ppid : Int
  /-- `getuid()` in the parent. -/
  uid : Nat
  /-- libseccomp, for the child's filter. -/
  lib : Libseccomp
  /-- The host when `clone3` returns. -/
  host : Host

/-- Both processes, the barrier pipe, and what they change. -/
structure Sys where
  /-- Where the parent is. -/
  parent : ParentPc
  /-- The parent's descriptors. -/
  parentFds : List Fd
  /-- Where the child is. -/
  child : ChildPc
  /-- The child's descriptors. -/
  childFds : List Fd
  /-- The bytes in the barrier pipe. -/
  pipe : Nat
  /-- The host. -/
  host : Host
  /-- The child's network namespace. -/
  childNet : ContainerNet
  /-- The seccomp filter the child loaded. -/
  filter : Option (List Int)
  /-- The steps so far, oldest first. -/
  trace : List Event

/-- The state right after `clone3`. -/
def Sys.initial (h : Host) : Sys where
  parent := .uidGidMap
  parentFds := [.pipeRead, .pipeWrite, .pidfd]
  child := .waitParent
  childFds := [.pipeRead, .pipeWrite]
  pipe := 0
  host := h
  childNet := ⟨[loopback], none⟩
  filter := none
  trace := []

/-- Some process holds the descriptor. -/
def Sys.holds (s : Sys) (fd : Fd) : Bool := s.parentFds.contains fd || s.childFds.contains fd

/-- `exit` of the parent. -/
def Sys.parentExit (s : Sys) : Sys := { s with parent := .exited, parentFds := [] }

/-- `_exit` of the child. -/
def Sys.childExit (s : Sys) (status : Int) : Sys := { s with child := .exited status, childFds := [] }

@[simp] theorem Sys.parentExit_parent (s : Sys) : s.parentExit.parent = .exited := rfl
@[simp] theorem Sys.parentExit_child (s : Sys) : s.parentExit.child = s.child := rfl
@[simp] theorem Sys.parentExit_childFds (s : Sys) : s.parentExit.childFds = s.childFds := rfl
@[simp] theorem Sys.parentExit_pipe (s : Sys) : s.parentExit.pipe = s.pipe := rfl
@[simp] theorem Sys.parentExit_host (s : Sys) : s.parentExit.host = s.host := rfl
@[simp] theorem Sys.parentExit_trace (s : Sys) : s.parentExit.trace = s.trace := rfl

@[simp] theorem Sys.childExit_child (s : Sys) (status : Int) :
    (s.childExit status).child = .exited status := rfl
@[simp] theorem Sys.childExit_parent (s : Sys) (status : Int) :
    (s.childExit status).parent = s.parent := rfl
@[simp] theorem Sys.childExit_pipe (s : Sys) (status : Int) : (s.childExit status).pipe = s.pipe := rfl
@[simp] theorem Sys.childExit_host (s : Sys) (status : Int) : (s.childExit status).host = s.host := rfl
@[simp] theorem Sys.childExit_childNet (s : Sys) (status : Int) :
    (s.childExit status).childNet = s.childNet := rfl
@[simp] theorem Sys.childExit_trace (s : Sys) (status : Int) :
    (s.childExit status).trace = s.trace := rfl

/-! ## The two processes -/

/-- One step of the parent.  `faults` are the fault bits of its OS calls; `errno` is the
value of `errno` when a step that returns `-errno` fails. -/
def parentStep (env : SpawnEnv) (faults : List Bool) (errno : Int) (s : Sys) : Option Sys :=
  let config := generateInterfaceNames env.pid
  match s.parent with
  | .uidGidMap =>
    if faults.getD 0 false then some { s with parent := .returned (-errno) }
    else some { s with
      parent := if env.opts.net_mode = .netBridge then .bridge else .cgroup
      trace := s.trace ++ [.uidGidMap] }
  | .bridge =>
    if env.uid ≠ 0 then some { s with parent := .returned (-1) }
    else
      let r := microboxSetupBridgeNetwork config faults s.host
      if r.1 ≠ 0 then some { s with parent := .returned (-1), host := r.2 }
      else some { s with parent := .moveVeth, host := r.2, trace := s.trace ++ [.bridgeNetwork] }
  | .moveVeth =>
    let r := moveVethToContainer config faults s.host.links
    let host := { s.host with links := r.2.1 }
    if r.1 ≠ 0 then some { s with parent := .returned (-1), host }
    else some { s with
      parent := .cgroup, host
      childNet := { s.childNet with links := s.childNet.links ++ r.2.2 }
      trace := s.trace ++ [.moveVeth] }
  | .cgroup =>
    if faults.getD 0 false then some { s with parent := .returned (-errno) }
    else some { s with parent := .signal, trace := s.trace ++ [.cgroupLimits] }
  | .signal =>
    if s.holds .pipeRead then
      some { s with parent := .closeWrite, pipe := s.pipe + 1, trace := s.trace ++ [.barrierWrite] }
    else some s.parentExit
  | .closeWrite => some { s with parent := .returned 0, parentFds := s.parentFds.erase .pipeWrite }
  | .returned r => some (if r < 0 then s.parentExit else { s with parent := .wait })
  | .wait =>
    match s.child with
    | .exited _ => some (if faults.getD 0 false then s.parentExit else { s with parent := .cleanup })
    | _ => none
  | .cleanup =>
    let r := microboxCleanupNetworkInterfaces env.pid faults s.host.links
    some { s.parentExit with host := { s.host with links := r.2 } }
  | .exited => none

/-- Where the child goes when `WAIT_FOR_PARENT` returns. -/
def afterBarrier (o : SandboxOptions) : ChildPc := if o.hostname.isSome then .sethostname else .setupFs

/-- Where the child goes after `microsandbox_setup_fs`. -/
def afterSetupFs (o : SandboxOptions) : ChildPc := if o.net_mode = .netBridge then .network else .seccomp

/-- One step of the child.  `faults` are the fault bits of its OS calls; `status` is the
payload's exit status. -/
def childStep (env : SpawnEnv) (faults : List Bool) (status : Int) (s : Sys) : Option Sys :=
  let o := env.opts
  match s.child with
  | .waitParent =>
    if 0 < s.pipe then
      some { s with child := afterBarrier o, pipe := s.pipe - 1, childFds := s.childFds.erase .pipeRead }
    else if s.holds .pipeWrite then none
    else some { s with child := afterBarrier o, childFds := s.childFds.erase .pipeRead }
  | .sethostname =>
    let s := { s with trace := s.trace ++ [Event.sethostname] }
    some (if faults.getD 0 false then s.childExit 127 else { s with child := .setupFs })
  | .setupFs =>
    let s := { s with trace := s.trace ++ [Event.setupFs] }
    some (if faults.getD 0 false then s.childExit 127 else { s with child := afterSetupFs o })
  | .network =>
    let r := configureContainerNetwork (childNetConfig o env.ppid) faults s.childNet
    let s := { s with childNet := r.2, trace := s.trace ++ [Event.containerNetwork] }
    some (if r.1 ≠ 0 then s.childExit 127 else { s with child := .seccomp })
  | .seccomp =>
    let s := { s with trace := s.trace ++ [Event.seccompLoad] }
    some (match childSeccomp env.lib o with
      | none => s.childExit 127
      | some rules => { s with child := .execve, filter := some rules })
  | .execve =>
    let s := { s with trace := s.trace ++ [Event.execve] }
    some (if faults.getD 0 false then s.childExit 127 else { s with child := .running })
  | .running => some (s.childExit status)
  | .exited _ => none

/-- One step of one process. -/
inductive Action
  /-- A parent step, with its fault bits and `errno`. -/
  | parent (faults : List Bool) (errno : Int)
  /-- A child step, with its fault bits and the payload's exit status. -/
  | child (faults : List Bool) (status : Int)
deriving DecidableEq, Repr

/-- The step an action takes, or `none` when its process is blocked or gone. -/
def spawnStep (env : SpawnEnv) (s : Sys) : Action → Option Sys
  | .parent faults errno => parentStep env faults errno s
  | .child faults status => childStep env faults status s

/-- An interleaving, skipping the actions of blocked processes. -/
def spawnRun (env : SpawnEnv) : Sys → List Action → Sys
  | s, [] => s
  | s, a :: as => spawnRun env ((spawnStep env s a).getD s) as

/-- The states some interleaving reaches from `clone3`. -/
inductive Reachable (env : SpawnEnv) : Sys → Prop
  | initial : Reachable env (Sys.initial env.host)
  | step {s s' : Sys} (a : Action) : Reachable env s → spawnStep env s a = some s' → Reachable env s'

theorem Reachable.run {env : SpawnEnv} {s : Sys} (hs : Reachable env s) :
    ∀ as, Reachable env (spawnRun env s as)
  | [] => hs
  | a :: as => by
    cases h : spawnStep env s a with
    | none => simpa [spawnRun, h] using hs.run as
    | some s' => simpa [spawnRun, h] using (hs.step a h).run as

/-! ## What a step of one process leaves to the other -/

theorem childStep_frame {env : SpawnEnv} {faults : List Bool} {status : Int} {s s' : Sys}
    (h : childStep env faults status s = some s') :
    s'.parent = s.parent ∧ s'.parentFds = s.parentFds ∧ s'.host = s.host := by
  unfold childStep at h
  dsimp only at h
  split at h <;> (try split_ifs at h) <;> cases h <;> (try split) <;> exact ⟨rfl, rfl, rfl⟩

theorem parentStep_frame {env : SpawnEnv} {faults : List Bool} {errno : Int} {s s' : Sys}
    (h : parentStep env faults errno s = some s') :
    s'.child = s.child ∧ s'.childFds = s.childFds ∧ s'.filter = s.filter := by
  unfold parentStep at h
  dsimp only at h
  split at h <;> (try split_ifs at h) <;> (try split at h) <;> cases h <;> exact ⟨rfl, rfl, rfl⟩

/-! ## The barrier -/

/-- The parent's setup is in the trace, and so is the barrier write. -/
def barrierReleased (o : SandboxOptions) (tr : List Event) : Prop :=
  .uidGidMap ∈ tr ∧ (o.net_mode = .netBridge → .bridgeNetwork ∈ tr ∧ .moveVeth ∈ tr) ∧
    .cgroupLimits ∈ tr ∧ .barrierWrite ∈ tr

theorem barrierReleased_append {o : SandboxOptions} {tr : List Event} (more : List Event)
    (h : barrierReleased o tr) : barrierReleased o (tr ++ more) := by
  obtain ⟨h1, h2, h3, h4⟩ := h
  exact ⟨List.mem_append_left _ h1,
    fun hb => ⟨List.mem_append_left _ (h2 hb).1, List.mem_append_left _ (h2 hb).2⟩,
    List.mem_append_left _ h3, List.mem_append_left _ h4⟩

/-- Every post-barrier step of the trace comes after the release. -/
def OrderedTrace (o : SandboxOptions) (tr : List Event) : Prop :=
  ∀ pre e post, tr = pre ++ e :: post → e.postBarrier = true → barrierReleased o pre

theorem OrderedTrace.snoc {o : SandboxOptions} {tr : List Event} {e : Event}
    (h : OrderedTrace o tr) (he : e.postBarrier = true → barrierReleased o tr) :
    OrderedTrace o (tr ++ [e]) := by
  intro pre e' post htr hpost
  rcases List.eq_nil_or_concat post with rfl | ⟨post', x, rfl⟩
  · obtain ⟨rfl, ⟨⟩⟩ := List.append_inj' htr rfl
    exact he hpost
  · rw [List.concat_eq_append, ← List.cons_append, ← List.append_assoc] at htr
    exact h pre e' post' (List.append_inj' htr rfl).1 hpost

/-- What the parent has done, by where it is. -/
def parentDone (o : SandboxOptions) : ParentPc → List Event → Prop
  | .bridge, tr => .uidGidMap ∈ tr
  | .moveVeth, tr => .uidGidMap ∈ tr ∧ .bridgeNetwork ∈ tr
  | .cgroup, tr => .uidGidMap ∈ tr ∧ (o.net_mode = .netBridge → .bridgeNetwork ∈ tr ∧ .moveVeth ∈ tr)
  | .signal, tr =>
    .uidGidMap ∈ tr ∧ (o.net_mode = .netBridge → .bridgeNetwork ∈ tr ∧ .moveVeth ∈ tr) ∧
      .cgroupLimits ∈ tr
  | _, _ => True

theorem parentDone_append {o : SandboxOptions} {pc : ParentPc} {tr : List Event}
    (more : List Event) (h : parentDone o pc tr) : parentDone o pc (tr ++ more) := by
  cases pc <;> simp_all [parentDone]

/-- The parent has written the barrier byte, or given up before it. -/
def ParentPc.signalled : ParentPc → Bool
  | .closeWrite | .wait | .cleanup | .exited => true
  | .returned r => r == 0
  | _ => false

/-- What holds in every reachable state about the barrier. -/
structure BarrierInv (o : SandboxOptions) (s : Sys) : Prop where
  /-- A waiting child holds its own write end. -/
  waiting_holds_write : s.child = .waitParent → .pipeWrite ∈ s.childFds
  /-- A byte in the pipe was written after the setup. -/
  pipe_released : 0 < s.pipe → barrierReleased o s.trace
  /-- A child past the barrier was released. -/
  child_released : s.child ≠ .waitParent → barrierReleased o s.trace
  /-- The parent's own progress. -/
  parent_done : parentDone o s.parent s.trace
  /-- Only a parent that went through `SIGNAL_CHILD` has written the byte. -/
  written_signalled : .barrierWrite ∈ s.trace → s.parent.signalled = true
  /-- The order of the trace. -/
  ordered : OrderedTrace o s.trace

theorem BarrierInv.initial (o : SandboxOptions) (h : Host) : BarrierInv o (Sys.initial h) where
  waiting_holds_write _ := by simp [Sys.initial]
  pipe_released := by simp [Sys.initial]
  child_released := by simp [Sys.initial]
  parent_done := trivial
  written_signalled := by simp [Sys.initial]
  ordered _ _ _ htr := by simp [Sys.initial] at htr

/-- A parent step that leaves the child and the pipe alone and adds no barrier write. -/
theorem BarrierInv.parent_move {o : SandboxOptions} {s s' : Sys} (hinv : BarrierInv o s)
    (hchild : s'.child = s.child) (hfds : s'.childFds = s.childFds) (hpipe : s'.pipe = s.pipe)
    (htrace : s'.trace = s.trace ∨ ∃ e, e.postBarrier = false ∧ e ≠ .barrierWrite ∧ s'.trace = s.trace ++ [e])
    (hdone : parentDone o s'.parent s'.trace)
    (hsig : s.parent.signalled = true → s'.parent.signalled = true) : BarrierInv o s' := by
  have hrel : barrierReleased o s.trace → barrierReleased o s'.trace := by
    rcases htrace with h | ⟨e, -, -, h⟩ <;> rw [h]
    · exact id
    · exact barrierReleased_append _
  have hwritten : .barrierWrite ∈ s'.trace → .barrierWrite ∈ s.trace := by
    rcases htrace with h | ⟨e, -, he, h⟩ <;> rw [h]
    · exact id
    · simp [Ne.symm he]
  refine ⟨?_, ?_, ?_, hdone, ?_, ?_⟩
  · rw [hchild, hfds]; exact hinv.waiting_holds_write
  · rw [hpipe]; exact fun h => hrel (hinv.pipe_released h)
  · rw [hchild]; exact fun h => hrel (hinv.child_released h)
  · exact fun h => hsig (hinv.written_signalled (hwritten h))
  · rcases htrace with h | ⟨e, he, -, h⟩ <;> rw [h]
    · exact hinv.ordered
    · exact hinv.ordered.snoc (by simp [he])

/-- The barrier write. -/
theorem BarrierInv.signal {o : SandboxOptions} {s : Sys} (hinv : BarrierInv o s)
    (hdone : parentDone o .signal s.trace) :
    BarrierInv o { s with parent := .closeWrite, pipe := s.pipe + 1, trace := s.trace ++ [.barrierWrite] } := by
  obtain ⟨h1, h2, h3⟩ := hdone
  have hrel : barrierReleased o (s.trace ++ [.barrierWrite]) :=
    ⟨List.mem_append_left _ h1,
      fun hb => ⟨List.mem_append_left _ (h2 hb).1, List.mem_append_left _ (h2 hb).2⟩,
      List.mem_append_left _ h3, List.mem_append_right _ (List.mem_singleton_self _)⟩
  exact ⟨hinv.waiting_holds_write, fun _ => hrel, fun _ => hrel, trivial, fun _ => rfl,
    hinv.ordered.snoc (by simp [Event.postBarrier])⟩

theorem parentStep_inv {env : SpawnEnv} {faults : List Bool} {errno : Int} {s s' : Sys}
    (hinv : BarrierInv env.opts s) (h : parentStep env faults errno s = some s') :
    BarrierInv env.opts s' := by
  have hdone := hinv.parent_done
  unfold parentStep at h
  cases hpc : s.parent <;> simp only [hpc] at h hdone
  case signal =>
    split_ifs at h <;> cases h
    · exact hinv.signal (hpc ▸ hdone)
    · exact hinv.parent_move rfl rfl rfl (.inl rfl) trivial fun _ => rfl
  all_goals
    (try split_ifs at h) <;> (try split at h) <;> cases h <;>
      exact hinv.parent_move rfl rfl rfl
        (by first | exact .inl rfl | exact .inr ⟨_, by decide, by decide, rfl⟩)
        (by first | trivial | simp_all [parentDone])
        (by simp [hpc, ParentPc.signalled])

@[simp] theorem afterBarrier_ne (o : SandboxOptions) : afterBarrier o ≠ .waitParent := by
  unfold afterBarrier; split <;> simp

@[simp] theorem afterSetupFs_ne (o : SandboxOptions) : afterSetupFs o ≠ .waitParent := by
  unfold afterSetupFs; split <;> simp

/-- A child step past the barrier: the parent as it was, the child not back at the
barrier, and at most one event of its own. -/
theorem BarrierInv.child_move {o : SandboxOptions} {s s' : Sys} (hinv : BarrierInv o s)
    (hrel : barrierReleased o s.trace) (hparent : s'.parent = s.parent)
    (hchild : s'.child ≠ .waitParent)
    (htrace : s'.trace = s.trace ∨ ∃ e, e ≠ .barrierWrite ∧ s'.trace = s.trace ++ [e]) :
    BarrierInv o s' := by
  have hrel' : barrierReleased o s'.trace := by
    rcases htrace with h | ⟨e, -, h⟩ <;> rw [h]
    exacts [hrel, barrierReleased_append _ hrel]
  refine ⟨fun h => absurd h hchild, fun _ => hrel', fun _ => hrel', ?_, ?_, ?_⟩ <;>
    rcases htrace with h | ⟨e, he, h⟩ <;> rw [h] <;> (try rw [hparent])
  · exact hinv.parent_done
  · exact parentDone_append _ hinv.parent_done
  · exact hinv.written_signalled
  · exact fun hw => hinv.written_signalled (by simpa [Ne.symm he] using hw)
  · exact hinv.ordered
  · exact hinv.ordered.snoc fun _ => hrel

theorem childStep_inv {env : SpawnEnv} {faults : List Bool} {status : Int} {s s' : Sys}
    (hinv : BarrierInv env.opts s) (h : childStep env faults status s = some s') :
    BarrierInv env.opts s' := by
  unfold childStep at h
  cases hc : s.child <;> simp only [hc] at h
  case waitParent =>
    split_ifs at h with hpipe hwrite
    · cases h
      exact hinv.child_move (hinv.pipe_released hpipe) rfl (afterBarrier_ne _) (.inl rfl)
    · cases h
      simp [Sys.holds, hinv.waiting_holds_write hc] at hwrite
  all_goals
    have hrel := hinv.child_released (by simp [hc])
    (try split_ifs at h) <;> (try split at h) <;> cases h <;>
      exact hinv.child_move hrel rfl (by simp) (by simp)

theorem Reachable.barrierInv {env : SpawnEnv} {s : Sys} (hs : Reachable env s) :
    BarrierInv env.opts s := by
  induction hs with
  | initial => exact BarrierInv.initial _ _
  | step a _ h ih =>
    cases a with
    | parent faults errno => exact parentStep_inv ih h
    | child faults status => exact childStep_inv ih h

/-- In every interleaving of the two processes, under every fault pattern, each
post-barrier step of the child comes after the uid and gid maps, in bridge mode the
bridge network and the veth move, the cgroup, and the barrier write. -/
theorem spawn_barrier_order {env : SpawnEnv} {s : Sys} (hs : Reachable env s)
    {pre post : List Event} {e : Event} (htrace : s.trace = pre ++ e :: post)
    (hpost : e.postBarrier = true) : barrierReleased env.opts pre :=
  hs.barrierInv.ordered pre e post htrace hpost

/-- A spawn without bridge networking whose child is released and runs `sethostname`. -/
theorem spawn_barrier_order_sethostname :
    barrierReleased {} [.uidGidMap, .cgroupLimits, .barrierWrite] :=
  @spawn_barrier_order
    ⟨{}, 1001, 1000, 0, ⟨fun _ => 0, true, fun _ _ => true, fun _ => true⟩,
      ⟨[], ⟨true, false, fun _ => []⟩, none⟩⟩ _
    (Reachable.initial.run
      [.parent [] 0, .parent [] 0, .parent [] 0, .parent [] 0, .child [] 0, .child [] 0])
    [.uidGidMap, .cgroupLimits, .barrierWrite] [] .sethostname rfl rfl

/-! ## Descriptors nobody closes -/

/-- A parent step closes at most `sync_pipe[1]`, in `SIGNAL_CHILD`, unless the parent exits. -/
theorem parentStep_parentFds {env : SpawnEnv} {faults : List Bool} {errno : Int} {s s' : Sys}
    (h : parentStep env faults errno s = some s') :
    s.parent ≠ .exited ∧ (s'.parent = .exited ∨ s'.parentFds = s.parentFds ∨
      s'.parentFds = s.parentFds.erase .pipeWrite) := by
  unfold parentStep at h
  dsimp only at h
  split at h <;> (try split_ifs at h) <;> (try split at h) <;> cases h <;> simp_all [Sys.parentExit]

/-- A child step closes at most `sync_pipe[0]`, in `WAIT_FOR_PARENT`, unless the child exits. -/
theorem childStep_childFds {env : SpawnEnv} {faults : List Bool} {status : Int} {s s' : Sys}
    (h : childStep env faults status s = some s') :
    (∀ st, s.child ≠ .exited st) ∧ ((∃ st, s'.child = .exited st) ∨ s'.childFds = s.childFds ∨
      s'.childFds = s.childFds.erase .pipeRead) := by
  unfold childStep at h
  dsimp only at h
  split at h <;> (try split_ifs at h) <;> (try split at h) <;> cases h <;> simp_all [Sys.childExit]

/-- Neither process closes these before it exits: the parent keeps `sync_pipe[0]` and the
pidfd, even after `microbox_sandbox_spawn` and `microbox_sandbox_wait` have returned, and the
child keeps `sync_pipe[1]` through `execve` and while the payload runs. -/
theorem Reachable.kept_fds {env : SpawnEnv} {s : Sys} (hs : Reachable env s) :
    (s.parent ≠ .exited → .pipeRead ∈ s.parentFds ∧ .pidfd ∈ s.parentFds) ∧
      ((∀ st, s.child ≠ .exited st) → .pipeWrite ∈ s.childFds) := by
  induction hs with
  | initial => simp [Sys.initial]
  | step a _ h ih =>
    cases a with
    | parent faults errno =>
      obtain ⟨hchild, hcfds, -⟩ := parentStep_frame h
      obtain ⟨hne, hfds⟩ := parentStep_parentFds h
      refine ⟨fun hp => ?_, by rw [hchild, hcfds]; exact ih.2⟩
      have hkept := ih.1 hne
      rcases hfds with he | he | he
      · exact absurd he hp
      · rwa [he]
      · rw [he]
        exact ⟨List.mem_erase_of_ne (by decide) |>.mpr hkept.1,
          List.mem_erase_of_ne (by decide) |>.mpr hkept.2⟩
    | child faults status =>
      obtain ⟨hparent, hpfds, -⟩ := childStep_frame h
      obtain ⟨hne, hfds⟩ := childStep_childFds h
      refine ⟨by rw [hparent, hpfds]; exact ih.1, fun hc => ?_⟩
      have hkept := ih.2 hne
      rcases hfds with ⟨st', he⟩ | he | he
      · exact absurd he (hc st')
      · rwa [he]
      · rw [he]
        exact List.mem_erase_of_ne (by decide) |>.mpr hkept

/-- After a fault-free spawn has returned `0` and the child has reached the payload, both
processes still hold their barrier ends. -/
theorem Reachable.kept_fds_after_spawn :
    let env : SpawnEnv := ⟨{ cmd := ["/bin/true"] }, 1001, 1000, 0,
      ⟨fun _ => 0, true, fun _ _ => true, fun _ => true⟩, ⟨[], ⟨true, false, fun _ => []⟩, none⟩⟩
    let s := spawnRun env (Sys.initial env.host)
      [.parent [] 0, .parent [] 0, .parent [] 0, .parent [] 0,
        .child [] 0, .child [] 0, .child [] 0, .child [] 0, .child [] 0]
    (s.parent ≠ .exited → .pipeRead ∈ s.parentFds ∧ .pidfd ∈ s.parentFds) ∧
      ((∀ st, s.child ≠ .exited st) → .pipeWrite ∈ s.childFds) :=
  Reachable.kept_fds (Reachable.run Reachable.initial _)

/-! ## A child whose parent gave up -/

/-- `microbox_sandbox_spawn` returned a negative value, or the parent has exited. -/
def ParentPc.gaveUp : ParentPc → Bool
  | .returned r => decide (r < 0)
  | .exited => true
  | _ => false

/-- The parent will never write the byte, and the child, which holds a write end
itself, waits on an empty pipe. -/
structure Stranded (s : Sys) : Prop where
  /-- The parent returned failure or exited. -/
  parent_gave_up : s.parent.gaveUp = true
  /-- The child is in `WAIT_FOR_PARENT`. -/
  child_waiting : s.child = .waitParent
  /-- The child holds `sync_pipe[1]`. -/
  child_holds_write : .pipeWrite ∈ s.childFds
  /-- Nothing to read. -/
  pipe_empty : s.pipe = 0

/-- No step frees a stranded child, and none touches the host. -/
theorem Stranded.step {env : SpawnEnv} {s s' : Sys} {a : Action} (h : Stranded s)
    (hstep : spawnStep env s a = some s') : Stranded s' ∧ s'.host = s.host := by
  cases a with
  | parent faults errno =>
    have hg := h.parent_gave_up
    simp only [spawnStep, parentStep] at hstep
    split at hstep <;> simp_all [ParentPc.gaveUp]
    subst hstep
    exact ⟨⟨rfl, h.child_waiting, h.child_holds_write, h.pipe_empty⟩, rfl⟩
  | child faults status =>
    simp [spawnStep, childStep, h.child_waiting, h.pipe_empty, Sys.holds, h.child_holds_write] at hstep

theorem Stranded.run {env : SpawnEnv} {s : Sys} (h : Stranded s) :
    ∀ as, Stranded (spawnRun env s as) ∧ (spawnRun env s as).host = s.host
  | [] => ⟨h, rfl⟩
  | a :: as => by
    cases hstep : spawnStep env s a with
    | none => simpa [spawnRun, hstep] using h.run as
    | some s' =>
      obtain ⟨h', hhost⟩ := h.step hstep
      simpa [spawnRun, hstep, hhost] using h'.run as

/-- A stranded child waits for good, holding its write end, and the host stays as it is. -/
theorem Stranded.forever {env : SpawnEnv} {s : Sys} (h : Stranded s) (as : List Action) :
    (spawnRun env s as).child = .waitParent ∧ .pipeWrite ∈ (spawnRun env s as).childFds ∧
      (spawnRun env s as).host = s.host :=
  have ⟨h', hhost⟩ := h.run as
  ⟨h'.child_waiting, h'.child_holds_write, hhost⟩

/-- Once `microbox_sandbox_spawn` has returned a negative value, in every continuation
the child waits on the barrier holding its own write end, and the host stays as it is. -/
theorem spawn_failure_strands {env : SpawnEnv} {s : Sys} (hs : Reachable env s) {r : Int}
    (hret : s.parent = .returned r) (hr : r < 0) (as : List Action) :
    (spawnRun env s as).child = .waitParent ∧ .pipeWrite ∈ (spawnRun env s as).childFds ∧
      (spawnRun env s as).host = s.host := by
  have hinv := hs.barrierInv
  have hunwritten : .barrierWrite ∉ s.trace := fun hw => by
    have := hinv.written_signalled hw
    simp only [hret, ParentPc.signalled, beq_iff_eq] at this
    omega
  have hwait : s.child = .waitParent := by
    by_contra hc
    exact hunwritten (hinv.child_released hc).2.2.2
  have hpipe : s.pipe = 0 := by
    by_contra hp
    exact hunwritten (hinv.pipe_released (Nat.pos_of_ne_zero hp)).2.2.2
  exact Stranded.forever
    ⟨by simp [hret, ParentPc.gaveUp, hr], hwait, hinv.waiting_holds_write hwait, hpipe⟩ as

/-- A spawn whose `setup_uid_gid_map` fails with `EPERM`, followed by one step of each
process. -/
theorem spawn_failure_strands_uid_map :
    let env : SpawnEnv := ⟨{ cmd := ["/bin/true"] }, 1001, 1000, 1000,
      ⟨fun _ => 0, true, fun _ _ => true, fun _ => true⟩,
      ⟨[⟨"eth0", .other, [], true, none⟩], ⟨true, false, fun _ => []⟩, some "eth0"⟩⟩
    let s := spawnRun env (Sys.initial env.host) [.parent [true] 1]
    (spawnRun env s [.child [] 0, .parent [] 0]).child = .waitParent ∧
      .pipeWrite ∈ (spawnRun env s [.child [] 0, .parent [] 0]).childFds ∧
      (spawnRun env s [.child [] 0, .parent [] 0]).host = s.host := by
  intro env s
  exact spawn_failure_strands ((@Reachable.initial env).run [.parent [true] 1]) rfl (by decide) _

/-- A bridge-mode spawn whose `setup_cgroup_limits` fails with `ENOMEM`: the spawn
returns `-12`, and in every continuation the child waits on the barrier and `mbx239h`
stays on the host. -/
theorem spawn_cgroup_failure_strands_child :
    let env : SpawnEnv := ⟨{ net_mode := .netBridge, cmd := ["/bin/sh"] }, 1001, 1000, 0,
      ⟨fun _ => 0, true, fun _ _ => true, fun _ => true⟩,
      ⟨[⟨"eth0", .other, [], true, none⟩], ⟨true, false, fun _ => []⟩, some "eth0"⟩⟩
    let s := spawnRun env (Sys.initial env.host)
      [.parent [] 0, .parent [] 0, .parent [] 0, .parent [true] 12]
    s.parent = .returned (-12) ∧ ∀ as,
      (spawnRun env s as).child = .waitParent ∧ Fd.pipeWrite ∈ (spawnRun env s as).childFds ∧
        hasLink (spawnRun env s as).host.links "mbx239h" = true := by
  refine ⟨rfl, fun as => (Stranded.forever ?_ as).imp id (.imp id fun hhost => ?_)⟩
  · exact ⟨rfl, rfl, by decide, rfl⟩
  · rw [hhost]
    decide

/-! ## The host's interfaces outside bridge mode -/

/-- Outside bridge mode: the parent never runs the bridge steps, the table is the host's
until the parent exits, and teardown deletes at most `mbx{pid % 254}h`. -/
def NonBridgeInv (env : SpawnEnv) (s : Sys) : Prop :=
  s.parent ≠ .bridge ∧ s.parent ≠ .moveVeth ∧ (s.parent ≠ .exited → s.host.links = env.host.links) ∧
    (s.host.links = env.host.links ∨
      (Request.delLink (generateInterfaceNames env.pid).veth_host).apply env.host.links =
        some s.host.links)

theorem parentStep_nonBridgeInv {env : SpawnEnv} (hnet : env.opts.net_mode ≠ .netBridge)
    {faults : List Bool} {errno : Int} {s s' : Sys} (hinv : NonBridgeInv env s)
    (h : parentStep env faults errno s = some s') : NonBridgeInv env s' := by
  obtain ⟨hbr, hmv, hlinks, hdel⟩ := hinv
  unfold parentStep at h
  cases hpc : s.parent <;> simp only [hpc] at h
  case bridge => exact absurd hpc hbr
  case moveVeth => exact absurd hpc hmv
  case cleanup =>
    cases h
    refine ⟨by simp, by simp, by simp, ?_⟩
    simpa [hlinks (by simp [hpc])] using microboxCleanupNetworkInterfaces_links env.pid faults s.host.links
  all_goals
    (try split_ifs at h) <;> (try split at h) <;> cases h <;>
      exact ⟨by simp, by simp, fun _ => hlinks (by simp [hpc]), hdel⟩

theorem Reachable.nonBridgeInv {env : SpawnEnv} (hnet : env.opts.net_mode ≠ .netBridge) {s : Sys}
    (hs : Reachable env s) : NonBridgeInv env s := by
  induction hs with
  | initial => exact ⟨by simp [Sys.initial], by simp [Sys.initial], fun _ => rfl, .inl rfl⟩
  | step a _ h ih =>
    cases a with
    | parent faults errno => exact parentStep_nonBridgeInv hnet ih h
    | child faults status =>
      obtain ⟨hparent, -, hhost⟩ := childStep_frame h
      simpa [NonBridgeInv, hparent, hhost] using ih

/-- Outside bridge mode, in every interleaving and under every fault pattern, the host's
interface table is the one `clone3` returned to, or that table less `mbx{pid % 254}h`
and its peer. -/
theorem spawn_links_nonBridge {env : SpawnEnv} (hnet : env.opts.net_mode ≠ .netBridge) {s : Sys}
    (hs : Reachable env s) :
    s.host.links = env.host.links ∨
      (Request.delLink (generateInterfaceNames env.pid).veth_host).apply env.host.links =
        some s.host.links :=
  (hs.nonBridgeInv hnet).2.2.2

/-- A spawn without networking options run through `microbox_sandbox_wait`. -/
theorem spawn_links_nonBridge_wait :
    let env : SpawnEnv := ⟨{ cmd := ["/bin/true"] }, 1001, 1000, 0,
      ⟨fun _ => 0, true, fun _ _ => true, fun _ => true⟩,
      ⟨[⟨"eth0", .other, [], true, none⟩], ⟨true, false, fun _ => []⟩, some "eth0"⟩⟩
    let s := spawnRun env (Sys.initial env.host)
      [.parent [] 0, .parent [] 0, .parent [] 0, .parent [] 0, .parent [] 0,
       .child [] 0, .child [true] 0, .parent [] 0, .parent [] 0]
    s.host.links = env.host.links ∨
      (Request.delLink (generateInterfaceNames env.pid).veth_host).apply env.host.links =
        some s.host.links :=
  @spawn_links_nonBridge _ (by decide) _ (Reachable.initial.run _)

/-- A spawn without networking options, with PID `1001`, on a host where a bridge
sandbox with PID `239` owns `mbx239h`: its child fails `sethostname`, and the teardown
after `waitid` deletes the other sandbox's interface. -/
theorem spawn_wait_deletes_other_veth :
    let env : SpawnEnv := ⟨{ cmd := ["/bin/true"] }, 1001, 1000, 0,
      ⟨fun _ => 0, true, fun _ _ => true, fun _ => true⟩,
      ⟨[⟨"eth0", .other, [], true, none⟩,
        ⟨"microbox0", .bridge, [(ipv4 172 20 0 1, 16)], true, none⟩,
        ⟨"mbx239h", .veth "mbx239c", [], true, some "microbox0"⟩],
       ⟨true, false, fun _ => []⟩, some "eth0"⟩⟩
    let s := spawnRun env (Sys.initial env.host)
      [.parent [] 0, .parent [] 0, .parent [] 0, .parent [] 0, .parent [] 0,
       .child [] 0, .child [true] 0, .parent [] 0, .parent [] 0]
    s.parent = .exited ∧ hasLink env.host.links "mbx239h" = true ∧
      s.host.links = [⟨"eth0", .other, [], true, none⟩,
        ⟨"microbox0", .bridge, [(ipv4 172 20 0 1, 16)], true, none⟩] := by
  decide

/-! ## The child's address -/

theorem parentStep_childNet {env : SpawnEnv} {faults : List Bool} {errno : Int} {s s' : Sys}
    (h : parentStep env faults errno s = some s') (hnet : onlyAddr (ipv4 172 20 0 2, 16) s.childNet.links) :
    onlyAddr (ipv4 172 20 0 2, 16) s'.childNet.links := by
  unfold parentStep at h
  dsimp only at h
  split at h <;> (try split_ifs at h) <;> (try split at h) <;> cases h <;> try exact hnet
  intro l hl a ha
  rcases List.mem_append.mp hl with hl | hl
  · exact hnet l hl a ha
  · simp [moveVethToContainer_addrs _ _ _ l hl] at ha

theorem childStep_childNet {env : SpawnEnv} {faults : List Bool} {status : Int} {s s' : Sys}
    (h : childStep env faults status s = some s') (hnet : onlyAddr (ipv4 172 20 0 2, 16) s.childNet.links) :
    onlyAddr (ipv4 172 20 0 2, 16) s'.childNet.links := by
  have hconf := configureContainerNetwork_addr (childNetConfig env.opts env.ppid) faults s.childNet
  rw [childNetConfig_container_ip, childNetConfig_prefix_len] at hconf
  unfold childStep at h
  dsimp only at h
  split at h <;> (try split_ifs at h) <;> (try split at h) <;> cases h <;> simp [hnet, hconf]

/-- Whatever the child's PID, every address its network namespace ever holds is
`172.20.0.2/16`, but for the `127.0.0.1/8` the kernel gives the loopback device when `lo`
comes up. -/
theorem spawn_childNet_addr {env : SpawnEnv} {s : Sys} (hs : Reachable env s) :
    onlyAddr (ipv4 172 20 0 2, 16) s.childNet.links := by
  induction hs with
  | initial => simp [onlyAddr, Sys.initial, loopback]
  | step a _ h ih =>
    cases a with
    | parent faults errno => exact parentStep_childNet h ih
    | child faults status => exact childStep_childNet h ih

/-- A bridge-mode spawn with PID `1001` whose child has configured its network. -/
theorem spawn_childNet_addr_pid_1001 :
    let env : SpawnEnv := ⟨{ net_mode := .netBridge, cmd := ["/bin/sh"] }, 1001, 1000, 0,
      ⟨fun _ => 0, true, fun _ _ => true, fun _ => true⟩,
      ⟨[⟨"eth0", .other, [], true, none⟩], ⟨true, false, fun _ => []⟩, some "eth0"⟩⟩
    onlyAddr (ipv4 172 20 0 2, 16) (spawnRun env (Sys.initial env.host)
      [.parent [] 0, .parent [] 0, .parent [] 0, .parent [] 0, .parent [] 0, .parent [] 0,
       .child [] 0, .child [] 0, .child [] 0, .child [] 0]).childNet.links :=
  spawn_childNet_addr (Reachable.initial.run _)

/-- A bridge-mode spawn with PID `1001`: the parent names the pair `mbx239h`/`mbx239c`
and plans `172.20.0.241` for the container, while the child configures `172.20.0.2`. -/
theorem spawn_child_address_pid_1001 :
    let env : SpawnEnv := ⟨{ net_mode := .netBridge, cmd := ["/bin/sh"] }, 1001, 1000, 0,
      ⟨fun _ => 0, true, fun _ _ => true, fun _ => true⟩,
      ⟨[⟨"eth0", .other, [], true, none⟩], ⟨true, false, fun _ => []⟩, some "eth0"⟩⟩
    let s := spawnRun env (Sys.initial env.host)
      [.parent [] 0, .parent [] 0, .parent [] 0, .parent [] 0, .parent [] 0, .parent [] 0,
       .child [] 0, .child [] 0, .child [] 0, .child [] 0]
    (findLink s.childNet.links "mbx239c").map (·.addrs) = some [(ipv4 172 20 0 2, 16)] ∧
      (generateInterfaceNames 1001).container_ip = ipv4 172 20 0 241 := by
  decide

/-! ## Where an interleaving stops -/

/-- No action of either process can step. -/
def Sys.Stuck (env : SpawnEnv) (s : Sys) : Prop := ∀ a, spawnStep env s a = none

/-- The barrier byte, once written, stays in the pipe while the child waits. -/
def BytePending (s : Sys) : Prop := .barrierWrite ∈ s.trace → s.child = .waitParent → 0 < s.pipe

theorem parentStep_bytePending {env : SpawnEnv} {faults : List Bool} {errno : Int} {s s' : Sys}
    (h : parentStep env faults errno s = some s') (hp : BytePending s) : BytePending s' := by
  unfold parentStep at h
  cases hpc : s.parent <;> simp only [hpc] at h
  case signal =>
    split_ifs at h <;> cases h
    · exact fun _ _ => Nat.succ_pos _
    · exact hp
  all_goals
    (try split_ifs at h) <;> (try split at h) <;> cases h <;>
      exact fun hw hc => by simpa using hp (by simpa using hw) (by simpa using hc)

theorem childStep_bytePending {env : SpawnEnv} {faults : List Bool} {status : Int} {s s' : Sys}
    (h : childStep env faults status s = some s') : BytePending s' := by
  unfold childStep at h
  cases hc : s.child <;> simp only [hc] at h
  all_goals
    (try split_ifs at h) <;> (try split at h) <;> cases h <;> exact fun _ hc' => by simp at hc'

theorem Reachable.bytePending {env : SpawnEnv} {s : Sys} (hs : Reachable env s) : BytePending s := by
  induction hs with
  | initial => simp [BytePending, Sys.initial]
  | step a _ h ih =>
    cases a with
    | parent faults errno => exact parentStep_bytePending h ih
    | child faults status => exact childStep_bytePending h

/-- The parent is blocked only when it has exited or waits in `waitid` for a child that has
not exited. -/
theorem parentStep_eq_none {env : SpawnEnv} {s : Sys} :
    (∀ faults errno, parentStep env faults errno s = none) ↔
      s.parent = .exited ∨ (s.parent = .wait ∧ ∀ st, s.child ≠ .exited st) := by
  constructor
  · intro h
    have h0 := h [] 0
    unfold parentStep at h0
    cases hpc : s.parent
    case wait =>
      refine .inr ⟨rfl, fun st hc => ?_⟩
      simp [hpc, hc] at h0
    case exited => exact .inl rfl
    all_goals simp only [hpc] at h0; (try split_ifs at h0) <;> simp at h0
  · rintro (hpc | ⟨hpc, hc⟩) faults errno
    · simp [parentStep, hpc]
    · unfold parentStep
      cases hcs : s.child <;> simp_all

/-- The child is blocked only when it has exited or waits on an empty pipe whose write end
some process holds. -/
theorem childStep_eq_none {env : SpawnEnv} {s : Sys} :
    (∀ faults status, childStep env faults status s = none) ↔
      (∃ st, s.child = .exited st) ∨ (s.child = .waitParent ∧ s.pipe = 0 ∧ s.holds .pipeWrite = true) := by
  constructor
  · intro h
    have h0 := h [] 0
    unfold childStep at h0
    cases hc : s.child
    case waitParent =>
      by_cases hpipe : 0 < s.pipe
      · simp [hc, hpipe] at h0
      · by_cases hwrite : s.holds .pipeWrite = true
        · exact .inr ⟨rfl, by omega, hwrite⟩
        · simp [hc, hpipe, hwrite] at h0
    case exited st => exact .inl ⟨st, rfl⟩
    all_goals simp only [hc] at h0; (try split_ifs at h0) <;> simp at h0
  · rintro (⟨st, hc⟩ | ⟨hc, hpipe, hwrite⟩) faults status
    · simp [childStep, hc]
    · simp [childStep, hc, hpipe, hwrite]

/-- Where a reachable state can stop: both processes have exited, or the child waits on a
barrier byte that was never written while the parent has exited or waits in `waitid`. -/
theorem Reachable.stuck_cases {env : SpawnEnv} {s : Sys} (hs : Reachable env s)
    (h : Sys.Stuck env s) : (s.parent = .exited ∧ ∃ st, s.child = .exited st) ∨
      (s.child = .waitParent ∧ .barrierWrite ∉ s.trace ∧ (s.parent = .exited ∨ s.parent = .wait)) := by
  have hp := parentStep_eq_none.mp fun faults errno => h (.parent faults errno)
  rcases childStep_eq_none.mp fun faults status => h (.child faults status) with
    ⟨st, hc⟩ | ⟨hc, hpipe, -⟩
  · rcases hp with hpc | ⟨-, hne⟩
    · exact .inl ⟨hpc, st, hc⟩
    · exact absurd hc (hne st)
  · exact .inr ⟨hc, fun hw => absurd (hs.bytePending hw hc) (by omega), hp.imp id And.left⟩

/-- In every interleaving, under every fault pattern, the two processes stop exactly in these
states: both have exited; or the child waits on a barrier byte that was never written, while
the parent has exited (the child is stranded, `spawn_failure_strands`) or waits for it in
`microbox_sandbox_wait`.  The last is a deadlock, reached when `microbox_sandbox_spawn`
returns `0` without `SIGNAL_CHILD`, as a failure that leaves `errno` at `0` does. -/
theorem spawn_stuck_iff {env : SpawnEnv} {s : Sys} (hs : Reachable env s) :
    Sys.Stuck env s ↔ (s.parent = .exited ∧ ∃ st, s.child = .exited st) ∨
      (s.child = .waitParent ∧ .barrierWrite ∉ s.trace ∧ (s.parent = .exited ∨ s.parent = .wait)) := by
  have hinv := hs.barrierInv
  refine ⟨hs.stuck_cases, ?_⟩
  rintro (⟨hpc, st, hc⟩ | ⟨hc, hw, hpc⟩) (_ | _)
  · exact parentStep_eq_none.mpr (.inl hpc) _ _
  · exact childStep_eq_none.mpr (.inl ⟨st, hc⟩) _ _
  · exact parentStep_eq_none.mpr (hpc.imp id fun h => ⟨h, by simp [hc]⟩) _ _
  · have hpipe : s.pipe = 0 := by
      by_contra hp
      exact hw (hinv.pipe_released (Nat.pos_of_ne_zero hp)).2.2.2
    exact childStep_eq_none.mpr (.inr ⟨hc, hpipe, by simp [Sys.holds, hinv.waiting_holds_write hc]⟩) _ _

/-- `setup_uid_gid_map` fails with `errno` still `0`: the spawn returns `0` without releasing
the child, `main` waits in `waitid`, the child waits on the barrier, and no step is left. -/
theorem spawn_stuck_uid_map_errno0 :
    let env : SpawnEnv := ⟨{ cmd := ["/bin/true"] }, 1001, 1000, 1000,
      ⟨fun _ => 0, true, fun _ _ => true, fun _ => true⟩, ⟨[], ⟨true, false, fun _ => []⟩, none⟩⟩
    let s := spawnRun env (Sys.initial env.host) [.parent [true] 0, .parent [] 0]
    s.parent = .wait ∧ s.child = .waitParent ∧ Sys.Stuck env s := by
  intro env s
  exact ⟨rfl, rfl, (spawn_stuck_iff (Reachable.initial.run _)).mpr (.inr ⟨rfl, by decide, .inr rfl⟩)⟩

/-! ## Every interleaving ends

Neither process loops: each step takes one of them to a later point of its code, so the points
left to both (`Sys.rank`) fall at every step.  Once the barrier byte is written, no state
where both are blocked is left but the one where both have exited, so from there both exit
(`spawn_exits_after_barrier`). -/

/-- The parent's steps left, at most, before it exits. -/
def ParentPc.rank : ParentPc → Nat
  | .uidGidMap => 9
  | .bridge => 8
  | .moveVeth => 7
  | .cgroup => 6
  | .signal => 5
  | .closeWrite => 4
  | .returned _ => 3
  | .wait => 2
  | .cleanup => 1
  | .exited => 0

/-- The child's steps left, at most, before it exits. -/
def ChildPc.rank : ChildPc → Nat
  | .waitParent => 7
  | .sethostname => 6
  | .setupFs => 5
  | .network => 4
  | .seccomp => 3
  | .execve => 2
  | .running => 1
  | .exited _ => 0

/-- The steps left to both processes. -/
def Sys.rank (s : Sys) : Nat := s.parent.rank + s.child.rank

/-- The state a schedule ends in when every one of its actions steps, or `none` when one is
blocked. -/
def spawnExec (env : SpawnEnv) : Sys → List Action → Option Sys
  | s, [] => some s
  | s, a :: as => (spawnStep env s a).bind fun s' => spawnExec env s' as

theorem parentStep_rank {env : SpawnEnv} {faults : List Bool} {errno : Int} {s s' : Sys}
    (h : parentStep env faults errno s = some s') : s'.parent.rank < s.parent.rank := by
  unfold parentStep at h
  cases hpc : s.parent <;> simp only [hpc] at h <;> (try split_ifs at h) <;> (try split at h) <;>
    cases h <;> simp [ParentPc.rank]

theorem rank_afterBarrier (o : SandboxOptions) : (afterBarrier o).rank < 7 := by
  unfold afterBarrier
  split <;> decide

theorem rank_afterSetupFs (o : SandboxOptions) : (afterSetupFs o).rank < 5 := by
  unfold afterSetupFs
  split <;> decide

theorem childStep_rank {env : SpawnEnv} {faults : List Bool} {status : Int} {s s' : Sys}
    (h : childStep env faults status s = some s') : s'.child.rank < s.child.rank := by
  unfold childStep at h
  cases hc : s.child <;> simp only [hc] at h
  case waitParent => split_ifs at h <;> cases h <;> exact rank_afterBarrier _
  case setupFs =>
    split_ifs at h <;> cases h
    · simp [ChildPc.rank]
    · exact rank_afterSetupFs _
  all_goals (try split_ifs at h) <;> (try split at h) <;> cases h <;> simp [ChildPc.rank]

theorem spawnStep_rank {env : SpawnEnv} {s s' : Sys} {a : Action} (h : spawnStep env s a = some s') :
    s'.rank < s.rank := by
  cases a with
  | parent faults errno =>
    rw [Sys.rank, Sys.rank, (parentStep_frame h).1]
    exact Nat.add_lt_add_right (parentStep_rank h) _
  | child faults status =>
    rw [Sys.rank, Sys.rank, (childStep_frame h).1]
    exact Nat.add_lt_add_left (childStep_rank h) _

/-- Along a schedule whose every action steps, each step uses up one point of the rank. -/
theorem spawnExec_length_le {env : SpawnEnv} :
    ∀ {as : List Action} {s s' : Sys}, spawnExec env s as = some s' → as.length + s'.rank ≤ s.rank
  | [], s, s', h => by
    cases Option.some.inj h
    simp
  | a :: as, s, s', h => by
    obtain ⟨s₁, h₁, h'⟩ := Option.bind_eq_some.mp h
    have := spawnStep_rank h₁
    have := spawnExec_length_le h'
    simp only [List.length_cons]
    omega

theorem spawnStep_trace {env : SpawnEnv} {s s' : Sys} {a : Action} (h : spawnStep env s a = some s') :
    s.trace <+: s'.trace := by
  cases a with
  | parent faults errno =>
    unfold spawnStep parentStep at h
    dsimp only at h
    split at h <;> (try split_ifs at h) <;> (try split at h) <;> cases h <;> simp
  | child faults status =>
    unfold spawnStep childStep at h
    dsimp only at h
    split at h <;> (try split_ifs at h) <;> cases h <;> (try split) <;> simp

/-- A schedule whose every action steps stays among the reachable states and only extends the
trace. -/
theorem spawnExec_reachable {env : SpawnEnv} :
    ∀ {as : List Action} {s s' : Sys}, Reachable env s → spawnExec env s as = some s' →
      Reachable env s' ∧ s.trace <+: s'.trace
  | [], s, s', hs, h => by
    cases Option.some.inj h
    exact ⟨hs, List.prefix_refl _⟩
  | a :: as, s, s', hs, h => by
    obtain ⟨s₁, h₁, h'⟩ := Option.bind_eq_some.mp h
    obtain ⟨hs', hpre⟩ := spawnExec_reachable (hs.step a h₁) h'
    exact ⟨hs', (spawnStep_trace h₁).trans hpre⟩

/-- From every state some schedule steps until no action can. -/
theorem spawnExec_stuck (env : SpawnEnv) (s : Sys) :
    ∃ as s', spawnExec env s as = some s' ∧ Sys.Stuck env s' := by
  by_cases hst : Sys.Stuck env s
  · exact ⟨[], s, rfl, hst⟩
  · obtain ⟨a, ha⟩ := not_forall.mp hst
    obtain ⟨s₁, h₁⟩ := Option.ne_none_iff_exists'.mp ha
    have := spawnStep_rank h₁
    obtain ⟨as, s', hrun, hstuck⟩ := spawnExec_stuck env s₁
    exact ⟨a :: as, s', by simp [spawnExec, h₁, hrun], hstuck⟩
termination_by s.rank

/-- A parent step of the action returns a positive `errno` when it fails. -/
def Action.kernelErrno : Action → Bool
  | .parent _ errno => decide (0 < errno)
  | .child _ _ => true

/-- Every return of `microbox_sandbox_spawn` is negative or comes after the barrier byte, and
so does everything after `SIGNAL_CHILD` but the parent's exit. -/
def ReleasedOnReturn (s : Sys) : Prop :=
  (∀ r, s.parent = .returned r → r < 0 ∨ .barrierWrite ∈ s.trace) ∧
    (s.parent = .closeWrite ∨ s.parent = .wait ∨ s.parent = .cleanup → .barrierWrite ∈ s.trace)

theorem parentStep_releasedOnReturn {env : SpawnEnv} {faults : List Bool} {errno : Int} {s s' : Sys}
    (h : parentStep env faults errno s = some s') (he : 0 < errno) (hr : ReleasedOnReturn s) :
    ReleasedOnReturn s' := by
  unfold parentStep at h
  cases hpc : s.parent <;> simp only [hpc] at h
  case closeWrite =>
    cases h
    exact ⟨fun _ _ => .inr (hr.2 (.inl hpc)), fun _ => hr.2 (.inl hpc)⟩
  case returned r =>
    split_ifs at h with hneg <;> cases h
    · simp [ReleasedOnReturn]
    · have hw := (hr.1 r hpc).resolve_left hneg
      exact ⟨fun _ h => (nomatch h), fun _ => hw⟩
  case wait =>
    have hw := hr.2 (.inr (.inl hpc))
    split at h <;> (try split_ifs at h) <;> cases h <;> simp [ReleasedOnReturn, hw]
  all_goals (try split_ifs at h) <;> cases h <;> simp [ReleasedOnReturn] <;> omega

theorem spawnStep_releasedOnReturn {env : SpawnEnv} {s s' : Sys} {a : Action}
    (h : spawnStep env s a = some s') (ha : a.kernelErrno) (hr : ReleasedOnReturn s) :
    ReleasedOnReturn s' := by
  cases a with
  | parent faults errno => exact parentStep_releasedOnReturn h (by simpa [Action.kernelErrno] using ha) hr
  | child faults status =>
    have hpre := (spawnStep_trace h).subset
    rw [ReleasedOnReturn, (childStep_frame h).1]
    exact ⟨fun r hp => (hr.1 r hp).imp_right (@hpre _), fun hp => hpre (hr.2 hp)⟩

theorem spawnRun_releasedOnReturn {env : SpawnEnv} :
    ∀ {s : Sys} {as : List Action}, (∀ a ∈ as, a.kernelErrno) → ReleasedOnReturn s →
      ReleasedOnReturn (spawnRun env s as)
  | _, [], _, hr => hr
  | s, a :: as, has, hr => by
    have has' := fun b hb => has b (List.mem_cons_of_mem a hb)
    cases h : spawnStep env s a with
    | none => simpa [spawnRun, h] using spawnRun_releasedOnReturn has' hr
    | some s' =>
      simpa [spawnRun, h] using
        spawnRun_releasedOnReturn has' (spawnStep_releasedOnReturn h (has a (List.mem_cons_self _ _)) hr)

theorem releasedOnReturn_initial (h : Host) : ReleasedOnReturn (Sys.initial h) := by
  simp [ReleasedOnReturn, Sys.initial]

end Microbox
