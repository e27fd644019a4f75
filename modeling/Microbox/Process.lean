import Mathlib.Data.List.Basic

/-!
# System calls and their faults

The functions of `fs.c` and the parent's half of `sandbox.c` are sequences of system
calls whose results they test.  `ProcM` runs such a function against a script of
outcomes, one for each call in order: the call succeeds, fails with an `errno`, or, for
a `write`, writes less than it was asked without touching `errno`.  Once the script
runs out every call succeeds, so `[]` is the fault-free run and every fault pattern is
some script.

The state keeps `errno`, the calls made with the arguments the code passes, and the
open descriptors.  `open` adds a descriptor that no open one uses; `close` releases it.
No caller reads the result of `close`, and Linux releases the descriptor even when
`close` reports an error, so `close` takes no outcome.  `mkdirp` (`utils.c`) is one
call here; `Microbox.Mount` models the `mkdir`s it makes.  The bytes a `write` sends
are not modelled.
-/

namespace Microbox

/-- `ENOENT`. -/
def ENOENT : Int := 2
/-- `EBUSY`. -/
def EBUSY : Int := 16
/-- `EEXIST`. -/
def EEXIST : Int := 17
/-- `EINVAL`. -/
def EINVAL : Int := 22

/-- The `MS_*` flags passed to `mount`. -/
inductive MsFlag
  | msRdonly
  | msNosuid
  | msNodev
  | msNoexec
  | msRemount
  | msBind
  | msRec
  | msPrivate
deriving DecidableEq, Repr

/-- What one system call does. -/
inductive Outcome
  /-- It does what it was asked. -/
  | ok
  /-- It returns `-1` and sets `errno` to this value. -/
  | fail (errno : Int)
  /-- A `write` writes only part of its buffer and leaves `errno` alone; any other call
  succeeds. -/
  | short
deriving DecidableEq, Repr

/-- The call returned `-1`. -/
def Outcome.failed : Outcome → Bool
  | .fail _ => true
  | _ => false

/-- A system call with the arguments the code passes; `none` stands for `NULL`. -/
inductive Syscall
  | mount (source : Option String) (target : String) (fstype : Option String)
      (flags : List MsFlag) (data : Option String)
  | mkdir (path : String)
  | mkdirp (path : String)
  | stat (path : String)
  | access (path : String)
  | openFile (path : String)
  | write (fd : Int)
  | close (fd : Int)
  | mkdirat (fd : Int) (name : String)
  | unlink (path : String)
  | symlink (target linkpath : String)
  | chdir (path : String)
  | pivotRoot (new_root put_old : String)
  | umount2 (target : String)
  | rmdir (path : String)
deriving DecidableEq, Repr

/-- A process as the modelled calls see it. -/
structure Proc where
  /-- The outcomes of the calls still to come. -/
  outcomes : List Outcome
  /-- `errno`. -/
  errno : Int
  /-- The calls made so far, oldest first. -/
  calls : List Syscall
  /-- The open descriptors. -/
  fds : List Int

/-- Code that makes system calls. -/
abbrev ProcM := StateM Proc

/-- The next outcome, `.ok` once the script has run out. -/
def Proc.take (p : Proc) : Outcome × Proc :=
  match p.outcomes with
  | [] => (.ok, p)
  | o :: os => (o, { p with outcomes := os })

/-- A descriptor above every open one and above the three standard streams. -/
def freshFd (fds : List Int) : Int := fds.foldr max 2 + 1

/-- Make a call: log it and take its outcome; a failure sets `errno`. -/
def call (c : Syscall) : ProcM Outcome := fun p =>
  let (o, p) := p.take
  let p := { p with calls := p.calls ++ [c] }
  match o with
  | .fail e => (o, { p with errno := e })
  | _ => (o, p)

/-- A call that returns `0` or `-1`: whether it returned `0`. -/
def sys (c : Syscall) : ProcM Bool := do
  let o ← call c
  pure !o.failed

/-- `errno`. -/
def getErrno : ProcM Int := do
  let p ← get
  pure p.errno

/-- `errno = e`. -/
def setErrno (e : Int) : ProcM Unit := modify fun p => { p with errno := e }

/-- `return (-errno)`. -/
def negErrno : ProcM Int := do
  let e ← getErrno
  pure (-e)

/-- `open(path, ...)`: a new descriptor, or `-1`. -/
def openFile (path : String) : ProcM Int := do
  let o ← call (.openFile path)
  if o.failed then pure (-1) else do
  let p ← get
  set { p with fds := p.fds ++ [freshFd p.fds] }
  pure (freshFd p.fds)

/-- What `write(fd, buf, n)` returned: `n`, less than `n`, or `-1`. -/
inductive Written
  | all
  | part
  | err
deriving DecidableEq, Repr

/-- `write(fd, buf, n)`. -/
def writeFd (fd : Int) : ProcM Written := do
  let o ← call (.write fd)
  pure (match o with
    | .ok => .all
    | .short => .part
    | .fail _ => .err)

/-- `close(fd)`. -/
def closeFd (fd : Int) : ProcM Unit :=
  modify fun p => { p with calls := p.calls ++ [.close fd], fds := p.fds.erase fd }

/-! ## Fault-free calls -/

section FaultFree

variable {p : Proc}

@[simp] theorem call_run_nil (c : Syscall) (h : p.outcomes = []) :
    (call c).run p = (.ok, { p with calls := p.calls ++ [c] }) := by
  simp [call, Proc.take, h, StateT.run]

@[simp] theorem sys_run_nil (c : Syscall) (h : p.outcomes = []) :
    (sys c).run p = (true, { p with calls := p.calls ++ [c] }) := by
  simp [sys, h, Outcome.failed, StateT.run_bind]

@[simp] theorem openFile_run_nil (path : String) (h : p.outcomes = []) :
    (openFile path).run p =
      (freshFd p.fds, { p with calls := p.calls ++ [.openFile path], fds := p.fds ++ [freshFd p.fds] }) := by
  simp [openFile, h, Outcome.failed, StateT.run_bind]

@[simp] theorem writeFd_run_nil (fd : Int) (h : p.outcomes = []) :
    (writeFd fd).run p = (.all, { p with calls := p.calls ++ [.write fd] }) := by
  simp [writeFd, h, StateT.run_bind]

end FaultFree

@[simp] theorem closeFd_run (fd : Int) (p : Proc) :
    (closeFd fd).run p = ((), { p with calls := p.calls ++ [.close fd], fds := p.fds.erase fd }) :=
  rfl

@[simp] theorem getErrno_run (p : Proc) : getErrno.run p = (p.errno, p) := rfl

@[simp] theorem setErrno_run (e : Int) (p : Proc) : (setErrno e).run p = ((), { p with errno := e }) :=
  rfl

@[simp] theorem negErrno_run (p : Proc) : negErrno.run p = (-p.errno, p) := rfl

/-! ## Descriptors -/

theorem le_foldr_max (fds : List Int) : ∀ fd ∈ fds, fd ≤ fds.foldr max 2 := by
  induction fds with
  | nil => simp
  | cons a fds ih =>
    simp only [List.mem_cons, List.foldr_cons, forall_eq_or_imp]
    exact ⟨Int.le_max_left _ _, fun fd h => by have := ih fd h; omega⟩

theorem freshFd_pos (fds : List Int) : 0 < freshFd fds := by
  have : (2 : Int) ≤ fds.foldr max 2 := by
    induction fds with
    | nil => simp
    | cons a fds ih => simp only [List.foldr_cons]; omega
  simp only [freshFd]
  omega

theorem freshFd_not_mem (fds : List Int) : freshFd fds ∉ fds := fun h => by
  have := le_foldr_max fds _ h
  simp only [freshFd] at this
  omega

/-- Opening and closing a descriptor leaves the open ones as they were. -/
@[simp] theorem erase_freshFd (fds : List Int) : (fds ++ [freshFd fds]).erase (freshFd fds) = fds := by
  rw [List.erase_append_right _ (freshFd_not_mem fds), List.erase_cons_head, List.append_nil]

/-! ## Triples

`Triple P m Q`: run from a state where `P` holds, `m` returns a value `a` in a state where
`Q a` holds.  `ProcM` code always returns, so this is total correctness.  The faults Linux
gives the modelled calls are `KernelFaults`: a call succeeds, or fails with a positive
`errno`; a `write` to a `/proc/<pid>` map file or a cgroup control file never writes part
of its buffer, since their handlers return the whole count or `-errno`.  Under them a call
that fails leaves `errno` positive (`Triple.call`). -/

/-- From every state where `P` holds, `m` ends in a state where `Q` of its result holds. -/
def Triple {α : Type} (P : Proc → Prop) (m : ProcM α) (Q : α → Proc → Prop) : Prop :=
  ∀ p, P p → Q (m.run p).1 (m.run p).2

namespace Triple

variable {α β : Type} {P P' : Proc → Prop} {Q Q' : α → Proc → Prop} {m : ProcM α}

theorem conseq (h : Triple P m Q) (hp : ∀ p, P' p → P p) (hq : ∀ a p, Q a p → Q' a p) :
    Triple P' m Q' :=
  fun p h' => hq _ _ (h p (hp p h'))

theorem weaken (h : Triple P m Q) (hp : ∀ p, P' p → P p) : Triple P' m Q :=
  h.conseq hp fun _ _ => id

theorem ret {a : α} (h : ∀ p, P p → Q a p) : Triple P (pure a : ProcM α) Q := h

theorem bind {R : β → Proc → Prop} {f : α → ProcM β} (hm : Triple P m Q)
    (hf : ∀ a, Triple (Q a) (f a) R) : Triple P (m >>= f) R :=
  fun p h => hf _ _ (hm p h)

theorem ite {c : Prop} [Decidable c] {a b : ProcM α} (ha : c → Triple P a Q)
    (hb : ¬c → Triple P b Q) : Triple P (if c then a else b) Q := by
  split
  · exact ha ‹_›
  · exact hb ‹_›

end Triple

/-- An outcome Linux can give: success, or a failure with a positive `errno`. -/
def Outcome.kernel : Outcome → Bool
  | .ok => true
  | .fail e => decide (0 < e)
  | .short => false

/-- Every outcome of the script is one Linux can give. -/
def KernelFaults (os : List Outcome) : Prop := ∀ o ∈ os, o.kernel = true

instance (os : List Outcome) : Decidable (KernelFaults os) :=
  inferInstanceAs (Decidable (∀ o ∈ os, o.kernel = true))

/-- The calls still to come meet only faults Linux can give. -/
abbrev KernelScript (p : Proc) : Prop := KernelFaults p.outcomes

/-- The calls still to come meet only faults Linux can give, and `errno` is positive when the
result `a` is `bad`. -/
def ErrnoOnFail {α : Type} (bad : α → Prop) (a : α) (p : Proc) : Prop :=
  KernelScript p ∧ (bad a → 0 < p.errno)

theorem KernelFaults.take {p : Proc} (h : KernelFaults p.outcomes) :
    p.take.1.kernel = true ∧ KernelFaults p.take.2.outcomes := by
  unfold Proc.take
  split
  · exact ⟨rfl, h⟩
  · next o os hos =>
    rw [hos] at h
    exact ⟨h o (List.mem_cons_self _ _), fun o' ho => h o' (List.mem_cons_of_mem _ ho)⟩

theorem Triple.call (c : Syscall) :
    Triple KernelScript (call c) fun o p =>
      o.kernel = true ∧ ErrnoOnFail (fun o => o.failed = true) o p := by
  intro p hp
  obtain ⟨ho, hos⟩ := hp.take
  rcases ht : p.take with ⟨o, p'⟩
  rw [ht] at ho hos
  simp only [StateT.run, Microbox.call, ht]
  cases o <;> simp_all [ErrnoOnFail, Outcome.failed, Outcome.kernel]

theorem Triple.sys (c : Syscall) :
    Triple KernelScript (sys c) (ErrnoOnFail (· = false)) :=
  (Triple.call c).bind fun o => .ret fun _ ⟨_, hk, he⟩ => ⟨hk, fun h => he (by simpa using h)⟩

/-- A `write` that does not write all of its buffer leaves `errno` positive. -/
theorem Triple.writeFd (fd : Int) : Triple KernelScript (writeFd fd) (ErrnoOnFail (· ≠ .all)) :=
  (Triple.call _).bind fun o => .ret fun _ ⟨hk, hks, he⟩ => by
    cases o <;> simp_all [ErrnoOnFail, Outcome.kernel, Outcome.failed]

theorem Triple.openFile (path : String) :
    Triple KernelScript (openFile path) (ErrnoOnFail (· < 0)) :=
  (Triple.call _).bind fun o => .ite (fun hf => .ret fun _ ⟨_, hk, he⟩ => ⟨hk, fun _ => he hf⟩)
    fun _ p ⟨_, hk, _⟩ => ⟨hk, fun h => absurd h (by have := freshFd_pos p.fds; simp; omega)⟩

/-- `close` touches neither the script nor `errno`. -/
theorem Triple.closeFd (fd : Int) {P : Proc → Prop}
    (hP : ∀ p : Proc, P p → P { p with calls := p.calls ++ [.close fd], fds := p.fds.erase fd }) :
    Triple P (closeFd fd) fun _ => P :=
  hP

theorem Triple.getErrno {P : Proc → Prop} : Triple P getErrno fun e p => P p ∧ e = p.errno :=
  fun _ h => ⟨h, rfl⟩

theorem Triple.negErrno {P : Proc → Prop} {Q : Int → Proc → Prop} (h : ∀ p, P p → Q (-p.errno) p) :
    Triple P negErrno Q :=
  h

end Microbox
