import Microbox.Parse

/-!
# Bind mounts

`microbox_bind_mount(base, spec)` (`fs.c`) mounts `spec->host` at `base` followed by
`spec->dest`.  It builds the target with `snprintf(target, PATH_MAX, "%s%s", ...)`,
which truncates silently, `stat`s the source, creates the target (with `mkdirp` for a
directory source; with `mkdirp` of its `dirname` and `open(O_CREAT)` for a regular
file or device), bind-mounts the source there and, for `MNT_RO`, remounts read-only.
`base` is `/box` for a tmpfs root and the overlay's merged directory for a rootfs.

The file tree is a map from resolved paths to node types.  A path is resolved
lexically: split at `/`, `.` and empty components dropped, `..` going one level up
(never above the root); a relative path starts at the working directory.  The kernel
creates a node only under an existing directory.  Characters stand for bytes, so
`PATH_MAX` counts characters.

The parser checks a leading `/` for `--mount-rw` only, and nothing rejects `..`: a
`--mount-ro` destination `etc` makes the target `/boxetc`, next to `/box`, and a
destination `/../etc` resolves to `/etc` (`microboxBindMount_escapes`).
`microboxBindMount_beneath` is what holds: for a destination that starts with `/`, has
no `..` component and fits `PATH_MAX` with the base, the target is `base ++ dest`,
every node the call creates lies beneath `base`, and so does the mount.
-/

namespace Microbox

/-- A node's type, as `stat` reports it. -/
inductive Node
  | dir
  | reg
  | chr
  | blk
  | other
deriving DecidableEq, Repr

/-- The path split at every `/`. -/
def splitSlash : List Char → List (List Char)
  | [] => [[]]
  | c :: rest =>
    if c = '/' then [] :: splitSlash rest
    else match splitSlash rest with
      | [] => [[c]]
      | w :: ws => (c :: w) :: ws

/-- One component: an empty one and `.` stay, `..` goes up, a name goes down. -/
def resolveStep (cur : List (List Char)) (c : List Char) : List (List Char) :=
  if c = [] ∨ c = ['.'] then cur else if c = ['.', '.'] then cur.dropLast else cur ++ [c]

/-- The components of a path after `.`/`..` normalisation, from the root for an
absolute path and from `cwd` otherwise. -/
def resolve (cwd : List (List Char)) (p : List Char) : List (List Char) :=
  (splitSlash p).foldl resolveStep (if p.head? = some '/' then [] else cwd)

/-- One entry of the mount table. -/
structure MountEntry where
  /-- The bind source. -/
  source : List (List Char)
  /-- The mount point. -/
  target : List (List Char)
  /-- `MS_RDONLY` after the remount. -/
  readonly : Bool
deriving DecidableEq, Repr

/-- The child's view of the file system while it builds the new root. -/
structure FsState where
  /-- The node at each resolved path. -/
  nodes : List (List Char) → Option Node
  /-- The working directory. -/
  cwd : List (List Char)
  /-- The mounts made so far, oldest first. -/
  mounts : List MountEntry

/-- Every node's parent is a directory, and the root is one. -/
def FsState.WellFormed (st : FsState) : Prop :=
  st.nodes [] = some .dir ∧ ∀ q n, st.nodes q = some n → q ≠ [] → st.nodes q.dropLast = some .dir

/-- A node the kernel creates: under an existing directory only. -/
def FsState.create (st : FsState) (q : List (List Char)) (n : Node) : Option FsState :=
  if q ≠ [] ∧ st.nodes q.dropLast = some .dir then
    some { st with nodes := Function.update st.nodes q (some n) }
  else none

/-- `maybe_mkdir`: `mkdir`, and on `EEXIST` success only for a directory. -/
def maybeMkdir (st : FsState) (path : List Char) : Option FsState :=
  match st.nodes (resolve st.cwd path) with
  | some .dir => some st
  | some _ => none
  | none => st.create (resolve st.cwd path) .dir

/-- `maybe_mkdir` on each path in turn, up to the first failure. -/
def mkdirAll (st : FsState) : List (List Char) → Bool × FsState
  | [] => (true, st)
  | p :: ps =>
    match maybeMkdir st p with
    | none => (false, st)
    | some st' => mkdirAll st' ps

/-- The truncations `mkdirp` makes: before each `/` after position `0`. -/
def mkdirpPrefixes (path : List Char) : List (List Char) :=
  ((List.range path.length).filter fun i => 0 < i ∧ path[i]? = some '/').map path.take

/-- `mkdirp`: each truncation, then the whole path. -/
def mkdirp (st : FsState) (path : List Char) : Bool × FsState :=
  mkdirAll st (mkdirpPrefixes path ++ [path])

/-- `open(path, O_CREAT, 0644)` and `close`: an existing directory fails with `EISDIR`. -/
def openCreat (st : FsState) (path : List Char) : Option FsState :=
  match st.nodes (resolve st.cwd path) with
  | some .dir => none
  | some _ => some st
  | none => st.create (resolve st.cwd path) .reg

/-- The list without its trailing run of characters satisfying `p`. -/
def dropTrailing (p : Char → Bool) (l : List Char) : List Char := (l.reverse.dropWhile p).reverse

/-- POSIX `dirname`: trailing slashes off, the last component off, the slashes before
it off. -/
def dirname (p : List Char) : List Char :=
  if p = [] then ['.'] else
  let trimmed := dropTrailing (· == '/') p
  if trimmed = [] then ['/'] else
  let parent := dropTrailing (· != '/') trimmed
  if parent = [] then ['.'] else
  let dir := dropTrailing (· == '/') parent
  if dir = [] then ['/'] else dir

/-- `PATH_MAX`. -/
def PATH_MAX : Nat := 4096

/-- `snprintf(target, sizeof(target), "%s%s", base, spec->dest)`: what fits before the
terminator. -/
def bindTarget (base dest : String) : List Char := (base.toList ++ dest.toList).take (PATH_MAX - 1)

/-- `mount(source, target, NULL, MS_BIND | MS_REC, NULL)`: source and target must exist. -/
def bindMount (st : FsState) (fault : Bool) (source target : List Char) : Option FsState :=
  if fault ∨ st.nodes (resolve st.cwd source) = none ∨ st.nodes (resolve st.cwd target) = none then
    none
  else some { st with mounts := st.mounts ++ [⟨resolve st.cwd source, resolve st.cwd target, false⟩] }

/-- The read-only remount of the mount just made. -/
def remountReadonly (st : FsState) (fault : Bool) : Option FsState :=
  if fault then none
  else some { st with
    mounts := st.mounts.dropLast ++ st.mounts.getLast?.toList.map fun m => { m with readonly := true } }

/-- The target prepared for the source's type: `mkdirp` for a directory, `mkdirp` of
the `dirname` and `open(O_CREAT)` for a regular file or a device. -/
def prepareTarget (st : FsState) (source : Option Node) (target : List Char) : Bool × FsState :=
  match source with
  | some .dir => mkdirp st target
  | some .reg | some .chr | some .blk =>
    match mkdirp st (dirname target) with
    | (true, st') =>
      match openCreat st' target with
      | none => (false, st')
      | some st'' => (true, st'')
    | failed => failed
  | _ => (false, st)

/-- `microbox_bind_mount(base, spec)`, with fault bits for the two `mount` calls. -/
def microboxBindMount (base : String) (spec : MountSpec) (faults : List Bool) (st : FsState) :
    Int × FsState :=
  let target := bindTarget base spec.dest
  let prepared := prepareTarget st (st.nodes (resolve st.cwd spec.host.toList)) target
  if !prepared.1 then (-1, prepared.2)
  else match bindMount prepared.2 (faults.getD 0 false) spec.host.toList target with
    | none => (-1, prepared.2)
    | some st' =>
      if spec.mode = .mntRo then
        match remountReadonly st' (faults.getD 1 false) with
        | none => (-1, st')
        | some st'' => (0, st'')
      else (0, st')

/-- A `--mount-ro` destination without a leading `/`, and a `--mount-rw` destination
through `..`: the parser accepts both, the first mount creates `/boxetc` beside `/box`
and mounts there, the second mounts on `/etc`. -/
theorem microboxBindMount_escapes :
    let st : FsState := ⟨fun q => if q = [] ∨ q = ["box".toList] ∨ q = ["data".toList] ∨
      q = ["etc".toList] then some .dir else none, [], []⟩
    cliParseOptions { mount_ro := ["/data:etc"], mount_rw := ["/data:/../etc"], cmd := ["/bin/sh"] } =
        .ok { mounts := [⟨"/data", "etc", .mntRo⟩, ⟨"/data", "/../etc", .mntRw⟩], cmd := ["/bin/sh"] } ∧
      (microboxBindMount "/box" ⟨"/data", "etc", .mntRo⟩ [] st).1 = 0 ∧
      st.nodes ["boxetc".toList] = none ∧
      (microboxBindMount "/box" ⟨"/data", "etc", .mntRo⟩ [] st).2.nodes ["boxetc".toList] = some .dir ∧
      (microboxBindMount "/box" ⟨"/data", "etc", .mntRo⟩ [] st).2.mounts =
        [⟨["data".toList], ["boxetc".toList], true⟩] ∧
      (microboxBindMount "/box" ⟨"/data", "/../etc", .mntRw⟩ [] st).1 = 0 ∧
      (microboxBindMount "/box" ⟨"/data", "/../etc", .mntRw⟩ [] st).2.mounts =
        [⟨["data".toList], ["etc".toList], false⟩] := by
  refine ⟨rfl, ?_⟩
  decide

/-! ## Resolving a path through a prefix -/

theorem splitSlash_ne_nil (p : List Char) : splitSlash p ≠ [] := by
  cases p with
  | nil => simp [splitSlash]
  | cons c rest =>
    unfold splitSlash
    split
    · simp
    · split <;> simp

/-- Splitting at a `/` splits the components. -/
theorem splitSlash_append_slash (a b : List Char) :
    splitSlash (a ++ '/' :: b) = splitSlash a ++ splitSlash b := by
  induction a with
  | nil => simp [splitSlash]
  | cons c a ih =>
    by_cases hc : c = '/'
    · simp [splitSlash, hc, ih]
    · obtain ⟨w, ws, hw⟩ := List.exists_cons_of_ne_nil (splitSlash_ne_nil a)
      simp [splitSlash, hc, ih, hw]

/-- Without `..` a path only goes down. -/
theorem prefix_foldl_resolveStep :
    ∀ (cs : List (List Char)) (acc : List (List Char)), ['.', '.'] ∉ cs →
      acc <+: cs.foldl resolveStep acc
  | [], _, _ => List.prefix_refl _
  | c :: cs, acc, hdots => by
    have hc : c ≠ ['.', '.'] := fun h => hdots (h ▸ List.mem_cons_self _ _)
    have hstep : acc <+: resolveStep acc c := by
      unfold resolveStep
      split_ifs
      · exact List.prefix_refl _
      · exact List.prefix_append _ _
    exact hstep.trans (prefix_foldl_resolveStep cs _ fun h => hdots (List.mem_cons_of_mem _ h))

/-- An absolute path resolves from the root, whatever the working directory. -/
theorem resolve_of_absolute {p : List Char} (hp : p.head? = some '/') (cwd : List (List Char)) :
    resolve cwd p = resolve [] p := by
  simp [resolve, hp]

/-- The part of a path before a `/` resolves to a prefix of the whole. -/
theorem resolve_prefix_of_slash {a b : List Char}
    (hdots : ['.', '.'] ∉ splitSlash (a ++ '/' :: b)) :
    resolve [] a <+: resolve [] (a ++ '/' :: b) := by
  rw [splitSlash_append_slash] at hdots
  simp only [resolve, ite_self]
  rw [splitSlash_append_slash, List.foldl_append]
  exact prefix_foldl_resolveStep _ _ fun h => hdots (List.mem_append_right _ h)

/-- Every truncation `mkdirp` makes is a part before a `/`. -/
theorem mem_mkdirpPrefixes {t p : List Char} (hp : p ∈ mkdirpPrefixes t) :
    p ≠ [] ∧ p.head? = t.head? ∧ ∃ b, t = p ++ '/' :: b := by
  obtain ⟨i, hi, rfl⟩ := List.mem_map.mp hp
  simp only [List.mem_filter, List.mem_range, decide_eq_true_eq] at hi
  obtain ⟨hlen, hpos, hslash⟩ := hi
  have hget : t[i] = '/' := by simpa [List.getElem?_eq_getElem hlen] using hslash
  refine ⟨List.ne_nil_of_length_pos (by simp; omega), by simp [List.head?_take, hpos.ne'],
    t.drop (i + 1), ?_⟩
  conv_lhs => rw [← List.take_append_drop i t, List.drop_eq_getElem_cons hlen, hget]

/-! ## `dirname` -/

/-- A list is what `dropTrailing` keeps, then characters that satisfy `p`. -/
theorem dropTrailing_split (p : Char → Bool) (l : List Char) :
    ∃ s, l = dropTrailing p l ++ s ∧ ∀ x ∈ s, p x = true := by
  refine ⟨(l.reverse.takeWhile p).reverse, ?_, fun x hx => List.mem_takeWhile_imp (List.mem_reverse.mp hx)⟩
  rw [dropTrailing, ← List.reverse_append, List.takeWhile_append_dropWhile, List.reverse_reverse]

/-- What `dropTrailing` keeps ends with a character that fails `p`. -/
theorem dropTrailing_eq_append {p : Char → Bool} {l : List Char} (h : dropTrailing p l ≠ []) :
    ∃ init c, dropTrailing p l = init ++ [c] ∧ p c = false := by
  have hne : l.reverse.dropWhile p ≠ [] := fun h' => h (by simp [dropTrailing, h'])
  refine ⟨((l.reverse.dropWhile p).tail).reverse, (l.reverse.dropWhile p).head hne, ?_,
    List.head_dropWhile_not p _ hne⟩
  conv_lhs => rw [dropTrailing, ← List.head_cons_tail _ hne]
  simp

/-- A path's `dirname` is `/`, or the part of it before a `/`. -/
theorem dirname_cases {t : List Char} (ht : t.head? = some '/') :
    dirname t = ['/'] ∨ (dirname t).head? = some '/' ∧ ∃ b, t = dirname t ++ '/' :: b := by
  have ht0 : t ≠ [] := by rintro rfl; simp at ht
  obtain ⟨s1, h1, -⟩ := dropTrailing_split (· == '/') t
  obtain ⟨s2, h2, hs2⟩ := dropTrailing_split (· != '/') (dropTrailing (· == '/') t)
  unfold dirname
  simp only [ht0, if_false]
  split_ifs with htr hpar hdir
  · exact .inl rfl
  · -- the trimmed path would hold no `/`, yet it starts with one
    rw [hpar, List.nil_append] at h2
    obtain ⟨x, r, hx⟩ := List.exists_cons_of_ne_nil htr
    have hx' : x = '/' := by rw [h1, hx] at ht; simpa using ht
    simpa [hx'] using hs2 x (by rw [← h2, hx]; exact List.mem_cons_self _ _)
  · exact .inl rfl
  · right
    -- the parent ends with `/` and what is left of it does not, so a `/` follows it
    obtain ⟨s3, h3, hs3⟩ :=
      dropTrailing_split (· == '/') (dropTrailing (· != '/') (dropTrailing (· == '/') t))
    obtain ⟨x, b, rfl⟩ : ∃ x b, s3 = x :: b := by
      refine List.exists_cons_of_ne_nil fun hnil => ?_
      obtain ⟨init, c, hc, hcs⟩ := dropTrailing_eq_append hpar
      obtain ⟨init', c', hc', hcs'⟩ := dropTrailing_eq_append hdir
      rw [hnil, List.append_nil, hc', hc] at h3
      obtain ⟨-, hcc⟩ := List.append_inj' h3 rfl
      simp only [List.cons.injEq, and_true] at hcc
      simp only [bne_eq_false_iff_eq] at hcs
      simp [← hcc, hcs] at hcs'
    have ht' : t = dropTrailing (· == '/') (dropTrailing (· != '/') (dropTrailing (· == '/') t)) ++
        '/' :: (b ++ s2 ++ s1) := by
      have hx : x = '/' := by simpa using hs3 x (List.mem_cons_self _ _)
      conv_lhs => rw [h1, h2, h3]
      simp [hx]
    refine ⟨?_, _, ht'⟩
    obtain ⟨z, d, hz⟩ := List.exists_cons_of_ne_nil hdir
    rw [ht', hz] at ht
    rw [hz]
    simpa using ht

/-! ## The paths a call touches -/

/-- A path that starts with `/`. -/
theorem eq_slash_cons {p : List Char} (h : p.head? = some '/') : ∃ r, p = '/' :: r := by
  cases p with
  | nil => cases h
  | cons c r => cases h; exact ⟨r, rfl⟩

/-- The paths passed to `mkdir`, `open` or `mount` for the target `t`: `t` itself, `/`,
or the absolute part of `t` before a `/`. -/
def Touches (t p : List Char) : Prop :=
  p = t ∨ p = ['/'] ∨ p.head? = some '/' ∧ ∃ b, t = p ++ '/' :: b

theorem Touches.absolute {t p : List Char} (ht : t.head? = some '/') (h : Touches t p) :
    p.head? = some '/' := by
  rcases h with rfl | rfl | ⟨hp, -⟩
  exacts [ht, rfl, hp]

theorem Touches.resolve_prefix {t p : List Char} (hdots : ['.', '.'] ∉ splitSlash t)
    (h : Touches t p) : resolve [] p <+: resolve [] t := by
  rcases h with rfl | rfl | ⟨-, b, rfl⟩
  · exact List.prefix_refl _
  · exact ⟨resolve [] t, by simp [resolve, splitSlash, resolveStep]⟩
  · exact resolve_prefix_of_slash hdots

theorem Touches.mkdirpPrefixes {t d : List Char} (ht : t.head? = some '/') (hd : Touches t d) :
    ∀ p ∈ mkdirpPrefixes d, Touches t p := by
  intro p hp
  obtain ⟨hne, hhead, b', hb'⟩ := mem_mkdirpPrefixes hp
  rcases hd with rfl | rfl | ⟨hd, b, rfl⟩
  · exact .inr (.inr ⟨hhead.trans ht, b', hb'⟩)
  · obtain ⟨x, xs, rfl⟩ := List.exists_cons_of_ne_nil hne
    simp at hb'
  · exact .inr (.inr ⟨hhead.trans hd, b' ++ '/' :: b, by simp [hb']⟩)

theorem touches_dirname {t : List Char} (ht : t.head? = some '/') : Touches t (dirname t) := by
  rcases dirname_cases ht with h | ⟨h, b, hb⟩
  · exact .inr (.inl h)
  · exact .inr (.inr ⟨h, b, hb⟩)

/-! ## What a call creates -/

/-- `st'` is `st` with nodes created at paths satisfying `S` only. -/
structure CreatesOnly (S : List (List Char) → Prop) (st st' : FsState) : Prop where
  /-- The working directory is as it was. -/
  cwd_eq : st'.cwd = st.cwd
  /-- The mounts are as they were. -/
  mounts_eq : st'.mounts = st.mounts
  /-- A node that changed was created, at a path satisfying `S`. -/
  created : ∀ q, st'.nodes q ≠ st.nodes q → st.nodes q = none ∧ st'.nodes q ≠ none ∧ S q

theorem CreatesOnly.refl (S : List (List Char) → Prop) (st : FsState) : CreatesOnly S st st :=
  ⟨rfl, rfl, fun _ h => absurd rfl h⟩

theorem CreatesOnly.trans {S : List (List Char) → Prop} {st st' st'' : FsState}
    (h1 : CreatesOnly S st st') (h2 : CreatesOnly S st' st'') : CreatesOnly S st st'' := by
  refine ⟨h2.cwd_eq.trans h1.cwd_eq, h2.mounts_eq.trans h1.mounts_eq, fun q hq => ?_⟩
  by_cases hq1 : st'.nodes q = st.nodes q
  · obtain ⟨hnone, hsome, hS⟩ := h2.created q (by rwa [hq1])
    exact ⟨hq1 ▸ hnone, hsome, hS⟩
  · obtain ⟨hnone, hsome, hS⟩ := h1.created q hq1
    by_cases hq2 : st''.nodes q = st'.nodes q
    · exact ⟨hnone, hq2 ▸ hsome, hS⟩
    · exact absurd (h2.created q hq2).1 hsome

theorem CreatesOnly.mono {S S' : List (List Char) → Prop} {st st' : FsState}
    (h : CreatesOnly S st st') (hS : ∀ q, S q → S' q) : CreatesOnly S' st st' :=
  ⟨h.cwd_eq, h.mounts_eq, fun q hq => (h.created q hq).imp_right (And.imp_right (hS q))⟩

theorem FsState.create_createsOnly {st st' : FsState} {q : List (List Char)} {n : Node}
    (hq : st.nodes q = none) (h : st.create q n = some st') : CreatesOnly (· = q) st st' := by
  unfold FsState.create at h
  split_ifs at h
  cases h
  refine ⟨rfl, rfl, fun r hr => ?_⟩
  by_cases hrq : r = q
  · subst hrq; simp [hq]
  · simp [Function.update_noteq hrq] at hr

theorem maybeMkdir_createsOnly {st st' : FsState} {p : List Char} (h : maybeMkdir st p = some st') :
    CreatesOnly (· = resolve st.cwd p) st st' := by
  unfold maybeMkdir at h
  split at h
  · cases h; exact CreatesOnly.refl _ _
  · cases h
  · exact FsState.create_createsOnly ‹_› h

theorem openCreat_createsOnly {st st' : FsState} {p : List Char} (h : openCreat st p = some st') :
    CreatesOnly (· = resolve st.cwd p) st st' := by
  unfold openCreat at h
  split at h
  · cases h
  · cases h; exact CreatesOnly.refl _ _
  · exact FsState.create_createsOnly ‹_› h

theorem mkdirAll_createsOnly (st : FsState) (ps : List (List Char)) :
    CreatesOnly (fun q => ∃ p ∈ ps, q = resolve st.cwd p) st (mkdirAll st ps).2 := by
  induction ps generalizing st with
  | nil => exact CreatesOnly.refl _ _
  | cons p ps ih =>
    unfold mkdirAll
    split
    · exact CreatesOnly.refl _ _
    · next st' h =>
      have h1 := maybeMkdir_createsOnly h
      have h2 := ih st'
      rw [h1.cwd_eq] at h2
      exact (h1.mono fun q hq => ⟨p, List.mem_cons_self _ _, hq⟩).trans
        (h2.mono fun q ⟨p', hp', hq⟩ => ⟨p', List.mem_cons_of_mem _ hp', hq⟩)

/-- Preparing the target creates nodes only at paths it touches. -/
theorem prepareTarget_createsOnly (st : FsState) (source : Option Node) {t : List Char}
    (ht : t.head? = some '/') :
    CreatesOnly (fun q => ∃ p, Touches t p ∧ q = resolve st.cwd p) st
      (prepareTarget st source t).2 := by
  have hmk : ∀ d, Touches t d →
      CreatesOnly (fun q => ∃ p, Touches t p ∧ q = resolve st.cwd p) st (mkdirp st d).2 :=
    fun d hd => (mkdirAll_createsOnly st _).mono fun q ⟨p, hp, hq⟩ => by
      rcases List.mem_append.mp hp with hp | hp
      · exact ⟨p, hd.mkdirpPrefixes ht p hp, hq⟩
      · exact ⟨p, by simp only [List.mem_singleton] at hp; exact hp ▸ hd, hq⟩
  unfold prepareTarget
  split
  · exact hmk t (.inl rfl)
  all_goals first
    | have hd := hmk _ (touches_dirname ht)
      split
      · next st' heq =>
        rw [heq] at hd
        split
        · exact hd
        · next st'' hopen =>
          have ho := openCreat_createsOnly hopen
          rw [hd.cwd_eq] at ho
          exact hd.trans (ho.mono fun q hq => ⟨t, .inl rfl, hq⟩)
      · exact hd
    | exact CreatesOnly.refl _ _

/-! ## The bind mount -/

theorem bindMount_eq {st st' : FsState} {fault : Bool} {source target : List Char}
    (h : bindMount st fault source target = some st') :
    st' = { st with mounts := st.mounts ++ [⟨resolve st.cwd source, resolve st.cwd target, false⟩] } := by
  unfold bindMount at h
  split_ifs at h
  exact (Option.some.inj h).symm

theorem remountReadonly_eq {st st' : FsState} {fault : Bool} (h : remountReadonly st fault = some st') :
    st' = { st with mounts :=
      st.mounts.dropLast ++ st.mounts.getLast?.toList.map fun m => { m with readonly := true } } := by
  unfold remountReadonly at h
  split_ifs at h
  exact (Option.some.inj h).symm

/-- After the target is prepared, the mounts add entries on the target and change
nothing else. -/
theorem microboxBindMount_state (base : String) (spec : MountSpec) (faults : List Bool)
    (st : FsState) :
    ∃ added, (microboxBindMount base spec faults st).2 =
        { (prepareTarget st (st.nodes (resolve st.cwd spec.host.toList)) (bindTarget base spec.dest)).2 with
          mounts := (prepareTarget st (st.nodes (resolve st.cwd spec.host.toList))
            (bindTarget base spec.dest)).2.mounts ++ added } ∧
      ∀ m ∈ added, m.target = resolve (prepareTarget st (st.nodes (resolve st.cwd spec.host.toList))
        (bindTarget base spec.dest)).2.cwd (bindTarget base spec.dest) := by
  unfold microboxBindMount
  dsimp only
  generalize prepareTarget st _ (bindTarget base spec.dest) = prepared
  obtain ⟨_ | _, pst⟩ := prepared
  · exact ⟨[], by simp, by simp⟩
  · cases hb : bindMount pst (faults.getD 0 false) spec.host.toList (bindTarget base spec.dest) with
    | none => exact ⟨[], by simp [hb], by simp⟩
    | some st' =>
      obtain rfl := bindMount_eq hb
      simp only [hb, Bool.not_true, Bool.false_eq_true, if_false]
      split_ifs
      · split
        · exact ⟨[_], rfl, by simp⟩
        · next hr =>
          obtain rfl := remountReadonly_eq hr
          exact ⟨[⟨resolve pst.cwd spec.host.toList, resolve pst.cwd (bindTarget base spec.dest), true⟩],
            by simp, by simp⟩
      · exact ⟨[_], rfl, by simp⟩

/-- In a well-formed tree every prefix of a directory's path is a directory. -/
theorem FsState.WellFormed.prefix_dir {st : FsState} (hwf : st.WellFormed) :
    ∀ q : List (List Char), st.nodes q = some .dir → ∀ r, r <+: q → st.nodes r = some .dir := by
  intro q
  induction q using List.reverseRecOn with
  | nil => intro _ r hr; rw [List.prefix_nil.mp hr]; exact hwf.1
  | append_singleton init x ih =>
    intro hq r hr
    rcases List.prefix_concat_iff.mp hr with rfl | hr
    · exact hq
    · exact ih (by simpa using hwf.2 _ _ hq (by simp)) r hr

/-- For a destination that starts with `/`, has no `..` component and fits `PATH_MAX`
with the base, in a well-formed tree where the base is a directory: the target is
`base ++ dest`, it resolves beneath the base, every node the call creates lies beneath
the base, and the only mount it adds is on the target. -/
theorem microboxBindMount_beneath (base : String) (spec : MountSpec) (faults : List Bool)
    (st : FsState) (hbase : base.toList.head? = some '/') (hdest : spec.dest.toList.head? = some '/')
    (hdots : ['.', '.'] ∉ splitSlash (base.toList ++ spec.dest.toList))
    (hlen : base.length + spec.dest.length < PATH_MAX) (hwf : st.WellFormed)
    (hdir : st.nodes (resolve [] base.toList) = some .dir) :
    bindTarget base spec.dest = base.toList ++ spec.dest.toList ∧
      resolve [] base.toList <+: resolve [] (base.toList ++ spec.dest.toList) ∧
      (∀ q, st.nodes q = none → (microboxBindMount base spec faults st).2.nodes q ≠ none →
        resolve [] base.toList <+: q) ∧
      ∃ added, (microboxBindMount base spec faults st).2.mounts = st.mounts ++ added ∧
        ∀ m ∈ added, m.target = resolve [] (base.toList ++ spec.dest.toList) := by
  have htarget : bindTarget base spec.dest = base.toList ++ spec.dest.toList := by
    have hl : (base.toList ++ spec.dest.toList).length = base.length + spec.dest.length := by
      rw [List.length_append]; rfl
    exact List.take_of_length_le (by unfold PATH_MAX at *; omega)
  obtain ⟨b, hb⟩ := eq_slash_cons hbase
  obtain ⟨d, hd⟩ := eq_slash_cons hdest
  have hT : (base.toList ++ spec.dest.toList).head? = some '/' := by rw [hb]; rfl
  have hBT : resolve [] base.toList <+: resolve [] (base.toList ++ spec.dest.toList) := by
    rw [hd] at hdots ⊢
    exact resolve_prefix_of_slash hdots
  have hprep := prepareTarget_createsOnly st (st.nodes (resolve st.cwd spec.host.toList)) hT
  obtain ⟨added, hst, htargets⟩ := microboxBindMount_state base spec faults st
  rw [← htarget] at hprep
  refine ⟨htarget, hBT, fun q hnone hsome => ?_, added, by rw [hst, hprep.mounts_eq], fun m hm => ?_⟩
  · -- `q` was created while preparing the target, at a path the target touches
    rw [hst] at hsome
    obtain ⟨-, -, ⟨p, hp, rfl⟩⟩ := hprep.created q (by rw [hnone]; exact hsome)
    rw [htarget] at hp
    rw [resolve_of_absolute (hp.absolute hT)] at hnone ⊢
    rcases List.prefix_or_prefix_of_prefix (hp.resolve_prefix hdots) hBT with hq | hq
    · simp [hwf.prefix_dir _ hdir _ hq] at hnone
    · exact hq
  · rw [htargets m hm, hprep.cwd_eq, htarget, resolve_of_absolute hT]

/-- `/srv/www` under `/box`, in the tree of `microboxBindMount_escapes`. -/
theorem microboxBindMount_beneath_srv :
    let st : FsState := ⟨fun q => if q = [] ∨ q = ["box".toList] ∨ q = ["data".toList] ∨
      q = ["etc".toList] then some .dir else none, [], []⟩
    st.WellFormed ∧ bindTarget "/box" "/srv/www" = "/box".toList ++ "/srv/www".toList ∧
      resolve [] "/box".toList <+: resolve [] ("/box".toList ++ "/srv/www".toList) ∧
      (∀ q, st.nodes q = none → (microboxBindMount "/box" ⟨"/data", "/srv/www", .mntRw⟩ [] st).2.nodes q ≠ none →
        resolve [] "/box".toList <+: q) ∧
      ∃ added, (microboxBindMount "/box" ⟨"/data", "/srv/www", .mntRw⟩ [] st).2.mounts = st.mounts ++ added ∧
        ∀ m ∈ added, m.target = resolve [] ("/box".toList ++ "/srv/www".toList) := by
  intro st
  have hwf : st.WellFormed := by
    refine ⟨rfl, fun q n h hq => ?_⟩
    simp only [st] at h ⊢
    split_ifs at h with hc
    rcases hc with rfl | rfl | rfl | rfl <;> first | exact absurd rfl hq | rfl
  exact ⟨hwf, microboxBindMount_beneath "/box" ⟨"/data", "/srv/www", .mntRw⟩ [] st rfl rfl
    (by decide) (by decide) hwf rfl⟩

end Microbox
