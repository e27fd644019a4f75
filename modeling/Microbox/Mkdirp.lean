import Microbox.Mount
import Microbox.Memory

/-!
# `mkdirp` on its buffer

`mkdirp(path)` (`utils.c`) copies `path` with `strdup` and walks the copy `_path` with a cursor
from its second character.  At each `/` it writes a `NUL` there, calls `maybe_mkdir` on
`_path`, which then reads as the part of the path before that `/`, and writes the `/` back;
after the walk it calls `maybe_mkdir` on the whole of `_path`.  The first `maybe_mkdir` that
fails ends the function with `-1`, without writing the `/` back.

`Microbox.Mount` takes `mkdirp` as `mkdirAll` over the truncations (`mkdirpPrefixes`) and then
the path.  Here is the loop itself, over the buffer (`mkdirpLoop`, `mkdirpC`).  With the cursor
at `i`, the loop makes the calls of `mkdirAll` over the truncations at the `/`s from `i` on
(`slashPrefixes`), up to the first failure (`mkdirAllCalls`), because each `/` written back
restores the buffer before the cursor moves on (`mkdirpLoop_eq`).  So for every non-empty C
string and every file system, `mkdirpC` makes exactly the calls `mkdirp` describes, returns `0`
exactly when they all succeed, leaves the same file system, and then every path it was called
on is a directory (`mkdirpC_spec`).
-/

namespace Microbox

/-- A C string: characters without a `NUL`, as `strdup` copies them. -/
structure CStr where
  /-- The characters before the terminator. -/
  chars : List Char
  /-- The terminator is the only `NUL`. -/
  no_nul : NUL ∉ chars

/-- The C string a buffer holds: its characters before the first `NUL`. -/
def cString (buf : List Char) : List Char := buf.takeWhile (· != NUL)

/-- The loop `for (p = _path + 1; *p; p++)` of `mkdirp` from the cursor `i` over the buffer
`buf`, with the C strings `maybe_mkdir` was called on so far: `(true, ...)` when the cursor
reaches the terminator, `(false, ...)` at `goto out`, and `none` when the fuel runs out. -/
def mkdirpLoop : (fuel : Nat) → FsState → (buf : List Char) → (i : Nat) →
    (calls : List (List Char)) → Option (Bool × FsState × List Char × List (List Char))
  | 0, _, _, _, _ => none
  | fuel + 1, st, buf, i, calls =>
    if deref (buf.drop i) = NUL then some (true, st, buf, calls)
    else if deref (buf.drop i) = '/' then
      let buf := buf.set i NUL
      let calls := calls ++ [cString buf]
      match maybeMkdir st (cString buf) with
      | none => some (false, st, buf, calls)
      | some st => mkdirpLoop fuel st (buf.set i '/') (i + 1) calls
    else mkdirpLoop fuel st buf (i + 1) calls

/-- What one `mkdirp` did. -/
structure MkdirpRun where
  /-- Its return value. -/
  result : Int
  /-- The file system after it. -/
  st : FsState
  /-- `_path` when it is freed. -/
  buf : List Char
  /-- The C strings `maybe_mkdir` was called on, in order. -/
  calls : List (List Char)

/-- `mkdirp(path)`: the loop, with one round for each character from the second and one for
the terminator, then `maybe_mkdir` on the whole buffer.  `none` only for the empty path, whose
copy has no byte at `_path + 1`. -/
def mkdirpC (st : FsState) (path : CStr) : Option MkdirpRun :=
  match mkdirpLoop path.chars.length st path.chars 1 [] with
  | none => none
  | some (false, st, buf, calls) => some ⟨-1, st, buf, calls⟩
  | some (true, st, buf, calls) =>
    match maybeMkdir st (cString buf) with
    | none => some ⟨-1, st, buf, calls ++ [cString buf]⟩
    | some st => some ⟨0, st, buf, calls ++ [cString buf]⟩

/-! ## The buffer -/

theorem deref_drop (l : List Char) (i : Nat) : deref (l.drop i) = l[i]?.getD NUL := by
  rw [← List.head?_drop]
  cases l.drop i <;> rfl

/-- A C string reads back whole. -/
theorem cString_of_not_mem {l : List Char} (hnul : NUL ∉ l) : cString l = l :=
  List.takeWhile_eq_self_iff.mpr fun _ hc => bne_iff_ne.mpr fun h => hnul (h ▸ hc)

/-- A `NUL` written at `i` truncates the C string to the first `i` characters. -/
theorem cString_set_nul {l : List Char} (hnul : NUL ∉ l) {i : Nat} (hi : i < l.length) :
    cString (l.set i NUL) = l.take i := by
  rw [List.set_eq_take_append_cons_drop, if_pos hi, cString, List.takeWhile_append_of_pos]
  · simp
  · exact fun c hc => bne_iff_ne.mpr fun h => hnul (h ▸ List.mem_of_mem_take hc)

/-- Writing the `/` back over the `NUL` restores the buffer. -/
theorem set_nul_set_slash {l : List Char} {i : Nat} (hi : i < l.length) (hs : l[i] = '/') :
    (l.set i NUL).set i '/' = l := by
  rw [List.set_set, List.set_eq_take_append_cons_drop, if_pos hi, ← hs, ← List.drop_eq_getElem_cons,
    List.take_append_drop]

/-! ## The truncations -/

/-- The parts of `path` before each `/` at position `i` or later, shortest first. -/
def slashPrefixes (path : List Char) (i : Nat) : List (List Char) :=
  ((List.range' i (path.length - i)).filter fun j => path[j]? = some '/').map path.take

theorem slashPrefixes_of_le {path : List Char} {i : Nat} (hi : path.length ≤ i) :
    slashPrefixes path i = [] := by
  simp [slashPrefixes, Nat.sub_eq_zero_of_le hi]

theorem slashPrefixes_of_lt {path : List Char} {i : Nat} (hi : i < path.length) :
    slashPrefixes path i =
      (if path[i] = '/' then [path.take i] else []) ++ slashPrefixes path (i + 1) := by
  rw [slashPrefixes, show path.length - i = path.length - (i + 1) + 1 by omega, List.range'_succ,
    List.filter_cons, List.getElem?_eq_getElem hi]
  split_ifs <;> simp_all [slashPrefixes]

/-- The truncations of `mkdirp` are those at the `/`s from position `1` on. -/
theorem mkdirpPrefixes_eq_slashPrefixes (path : List Char) :
    mkdirpPrefixes path = slashPrefixes path 1 := by
  rw [mkdirpPrefixes, slashPrefixes, List.range_eq_range']
  cases h : path.length with
  | zero => rfl
  | succ n =>
    rw [List.range'_succ, List.filter_cons, if_neg (by simp), Nat.add_sub_cancel]
    congr 1
    exact List.filter_congr fun j hj => by
      have hj0 : 0 < j := (List.mem_range'_1.mp hj).1
      simp [hj0]

/-! ## `mkdirAll`, call by call -/

/-- The paths `mkdirAll` calls `maybe_mkdir` on: each in turn, up to the first failure. -/
def mkdirAllCalls (st : FsState) : List (List Char) → List (List Char)
  | [] => []
  | p :: ps =>
    match maybeMkdir st p with
    | none => [p]
    | some st' => p :: mkdirAllCalls st' ps

theorem mkdirAll_append (st : FsState) (ps qs : List (List Char)) :
    mkdirAll st (ps ++ qs) =
      if (mkdirAll st ps).1 then mkdirAll (mkdirAll st ps).2 qs else mkdirAll st ps := by
  induction ps generalizing st with
  | nil => rfl
  | cons p ps ih =>
    simp only [List.cons_append, mkdirAll]
    cases maybeMkdir st p
    · rfl
    · exact ih _

theorem mkdirAllCalls_append (st : FsState) (ps qs : List (List Char)) :
    mkdirAllCalls st (ps ++ qs) = mkdirAllCalls st ps ++
      if (mkdirAll st ps).1 then mkdirAllCalls (mkdirAll st ps).2 qs else [] := by
  induction ps generalizing st with
  | nil => simp [mkdirAll, mkdirAllCalls]
  | cons p ps ih =>
    simp only [List.cons_append, mkdirAll, mkdirAllCalls]
    cases maybeMkdir st p
    · rfl
    · simp [ih]

/-- When every call succeeds, `mkdirAll` calls `maybe_mkdir` on every path. -/
theorem mkdirAllCalls_of_mkdirAll {st : FsState} {ps : List (List Char)}
    (h : (mkdirAll st ps).1 = true) : mkdirAllCalls st ps = ps := by
  induction ps generalizing st with
  | nil => rfl
  | cons p ps ih =>
    simp only [mkdirAll, mkdirAllCalls] at h ⊢
    cases hm : maybeMkdir st p
    · simp [hm] at h
    · simp only [hm] at h ⊢
      rw [ih h]

/-- A node a call found stays. -/
theorem CreatesOnly.nodes_of_some {S : List (List Char) → Prop} {st st' : FsState}
    (h : CreatesOnly S st st') {q : List (List Char)} {n : Node} (hq : st.nodes q = some n) :
    st'.nodes q = some n := by
  by_contra hne
  rw [← hq] at hne
  simp [(h.created q hne).1] at hq

/-- A `maybe_mkdir` that succeeds leaves a directory at its path. -/
theorem maybeMkdir_dir {st st' : FsState} {p : List Char} (h : maybeMkdir st p = some st') :
    st'.nodes (resolve st'.cwd p) = some .dir := by
  rw [(maybeMkdir_createsOnly h).cwd_eq]
  unfold maybeMkdir at h
  split at h
  · cases h; assumption
  · cases h
  · unfold FsState.create at h
    split_ifs at h
    cases h
    simp

/-- When every call succeeds, every path is a directory afterwards. -/
theorem mkdirAll_dirs {st : FsState} {ps : List (List Char)} (h : (mkdirAll st ps).1 = true) :
    ∀ q ∈ ps, (mkdirAll st ps).2.nodes (resolve (mkdirAll st ps).2.cwd q) = some .dir := by
  induction ps generalizing st with
  | nil => simp
  | cons p ps ih =>
    simp only [mkdirAll] at h ⊢
    cases hm : maybeMkdir st p with
    | none => simp [hm] at h
    | some st' =>
      simp only [hm] at h ⊢
      rintro q (_ | ⟨_, hq⟩)
      · have hrest := mkdirAll_createsOnly st' ps
        rw [hrest.cwd_eq]
        exact hrest.nodes_of_some (maybeMkdir_dir hm)
      · exact ih h q hq

/-! ## The loop -/

/-- From the cursor `i` on, the loop makes the calls of `mkdirAll` over the truncations at the
`/`s from `i`, up to the first failure, with the result and the file system of `mkdirAll`;
when every call succeeds it leaves the buffer as it found it. -/
theorem mkdirpLoop_eq {path : List Char} (hnul : NUL ∉ path) :
    ∀ {fuel i : Nat} {st : FsState} {calls : List (List Char)}, path.length - i < fuel →
      ∃ buf, mkdirpLoop fuel st path i calls =
          some ((mkdirAll st (slashPrefixes path i)).1, (mkdirAll st (slashPrefixes path i)).2, buf,
            calls ++ mkdirAllCalls st (slashPrefixes path i)) ∧
        ((mkdirAll st (slashPrefixes path i)).1 = true → buf = path)
  | 0, _, _, _, h => absurd h (Nat.not_lt_zero _)
  | fuel + 1, i, st, calls, h => by
    rw [mkdirpLoop, deref_drop]
    by_cases hi : i < path.length
    · have hne : path[i] ≠ NUL := fun he => hnul (he ▸ List.getElem_mem hi)
      rw [List.getElem?_eq_getElem hi, Option.getD_some, if_neg hne, slashPrefixes_of_lt hi]
      by_cases hs : path[i] = '/'
      -- `/`: truncate, call, and on success write the `/` back
      · simp only [if_pos hs, cString_set_nul hnul hi, List.singleton_append]
        cases hm : maybeMkdir st (path.take i) with
        | none => exact ⟨path.set i NUL, by simp [mkdirAll, mkdirAllCalls, hm], by simp [mkdirAll, hm]⟩
        | some st' =>
          obtain ⟨buf, hloop, hbuf⟩ :=
            @mkdirpLoop_eq path hnul fuel (i + 1) st' (calls ++ [path.take i]) (by omega)
          simp only [set_nul_set_slash hi hs, hloop, mkdirAll, mkdirAllCalls, hm,
            List.append_assoc, List.singleton_append]
          exact ⟨buf, rfl, hbuf⟩
      -- another character: on to the next
      · simp only [if_neg hs, List.nil_append]
        exact mkdirpLoop_eq hnul (by omega)
    -- the terminator: no truncation left
    · rw [List.getElem?_eq_none (by omega), Option.getD_none, if_pos rfl,
        slashPrefixes_of_le (by omega)]
      exact ⟨path, by simp [mkdirAll, mkdirAllCalls], fun _ => rfl⟩

/-- For every non-empty C string and every file system, `mkdirp` calls `maybe_mkdir` on each
truncation at a `/` after position `0`, shortest first, and then on the whole path, up to the
first call that fails; it returns `0` exactly when every call of `mkdirp` over them succeeds,
with the same file system, and then the buffer is restored and every path it was called on is a
directory. -/
theorem mkdirpC_spec (st : FsState) (path : CStr) (hne : path.chars ≠ []) :
    ∃ r, mkdirpC st path = some r ∧
      r.calls = mkdirAllCalls st (mkdirpPrefixes path.chars ++ [path.chars]) ∧
      (r.result = 0 ↔ (mkdirp st path.chars).1 = true) ∧ r.st = (mkdirp st path.chars).2 ∧
      (r.result = 0 → r.buf = path.chars ∧ r.calls = mkdirpPrefixes path.chars ++ [path.chars] ∧
        ∀ q ∈ r.calls, r.st.nodes (resolve r.st.cwd q) = some .dir) := by
  have hlen : path.chars.length - 1 < path.chars.length := by
    have := List.length_pos.mpr hne; omega
  obtain ⟨buf, hloop, hbuf⟩ := @mkdirpLoop_eq path.chars path.no_nul _ 1 st [] hlen
  unfold mkdirpC mkdirp
  rw [hloop, mkdirpPrefixes_eq_slashPrefixes, mkdirAll_append, mkdirAllCalls_append, List.nil_append]
  cases hok : (mkdirAll st (slashPrefixes path.chars 1)).1
  -- a truncation failed: the loop jumps to `out`
  · exact ⟨_, rfl, by simp, by simp [hok], by simp [hok], by simp⟩
  -- the whole path, in the restored buffer
  · rw [hbuf hok]
    dsimp only
    rw [cString_of_not_mem path.no_nul, if_pos rfl, if_pos rfl]
    have hcalls := mkdirAllCalls_of_mkdirAll hok
    cases hm : maybeMkdir (mkdirAll st (slashPrefixes path.chars 1)).2 path.chars
    · exact ⟨_, rfl, by simp [mkdirAllCalls, hm], by simp [mkdirAll, hm], by simp [mkdirAll, hm],
        by simp⟩
    · have hall : (mkdirAll st (slashPrefixes path.chars 1 ++ [path.chars])).1 = true := by
        simp [mkdirAll_append, hok, mkdirAll, hm]
      refine ⟨_, rfl, by simp [mkdirAllCalls, hm], by simp [mkdirAll, hm], by simp [mkdirAll, hm],
        fun _ => ⟨rfl, by simp [hcalls], ?_⟩⟩
      have hdirs := mkdirAll_dirs hall
      simp only [mkdirAll_append, hok, if_true, mkdirAll, hm] at hdirs
      simpa [hcalls] using hdirs

/-- `/box/a//b/` on a root with only `/box`: repeated and trailing slashes. -/
theorem mkdirpC_spec_box :
    let st : FsState := ⟨fun q => if q = [] ∨ q = ["box".toList] then some .dir else none, [], []⟩
    let path : CStr := ⟨"/box/a//b/".toList, by decide⟩
    path.chars ≠ [] ∧ ∃ r, mkdirpC st path = some r ∧
      r.calls = mkdirAllCalls st (mkdirpPrefixes path.chars ++ [path.chars]) ∧
      (r.result = 0 ↔ (mkdirp st path.chars).1 = true) ∧ r.st = (mkdirp st path.chars).2 ∧
      (r.result = 0 → r.buf = path.chars ∧ r.calls = mkdirpPrefixes path.chars ++ [path.chars] ∧
        ∀ q ∈ r.calls, r.st.nodes (resolve r.st.cwd q) = some .dir) := by
  intro st path
  exact ⟨by decide, mkdirpC_spec st path (by decide)⟩

example : (mkdirpC ⟨fun q => if q = [] ∨ q = ["box".toList] then some .dir else none, [], []⟩
    ⟨"/box/a//b/".toList, by decide⟩).map (fun r => (r.result, r.calls)) =
      some (0, ["/box".toList, "/box/a".toList, "/box/a/".toList, "/box/a//b".toList,
        "/box/a//b/".toList]) := by
  decide

end Microbox
