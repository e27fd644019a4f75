import Mathlib.Data.List.Dedup
import Microbox.Parse

/-!
# Environment arrays in memory

`env_len` (`sandbox.c`) counts the entries of an `env_var_t` array by walking it until
an entry whose `name` is `NULL`.  Whether that walk stays inside the array depends on
what the array's allocation holds, so memory is explicit here: the slots from the
array's base to the end of the mapping, `none` for an entry whose name is `NULL`.  A
walk that runs off the mapping is `none`.

The `--env` loop of `cli_parse_options` grows `o.env` with `xrealloc` to exactly
`o.env_len` entries and writes no terminator, so the memory the child hands to `merge`
is the parsed entries followed by whatever the heap holds after the allocation.
`envLen_append_entries` says what `env_len` returns there: the number of parsed
entries plus the count it goes on to read from the heap.

`merge` copies `env1` into a `calloc`ed array of `n1 + n2 + 1` slots and then, for each
entry of `env2`, overrides the first entry of the same name or appends a new one; a store
outside the allocation is `none` here.  `overlay` states what the spec asks for, and
`merge_overlay` shows that `merge` computes it on terminated arrays whenever `env1`'s
names are distinct, as `safe_env`'s are and as `merge`'s own results are; merging the
same entries twice changes nothing (`merge_merge`).  `flatten_env` writes `NAME=VALUE`
for each entry, and a split at the first `=` gives the entry back
(`flattenEnv_splitAtEq`).  Together with the parser (`childEnvp_spec`), every `--env`
spec that no later one overrides reaches `execve` unchanged, as long as the slot after
`o.env`'s allocation holds a `NULL` name.
-/

namespace Microbox

/-- `env_len` on the memory from the array's base; it reads only whether each name is
`NULL`. -/
def envLen {α : Type} : List (Option α) → Option Nat
  | [] => none
  | none :: _ => some 0
  | some _ :: rest => (envLen rest).map (· + 1)

/-- The memory at `o.env` after the `--env` loop: the parsed entries, then the heap after
their allocation. -/
def parsedEnvMemory (env : List EnvVar) (heap : List (Option EnvVar)) : List (Option EnvVar) :=
  env.map some ++ heap

/-- Entries with non-`NULL` names never stop the walk. -/
theorem envLen_append_entries {α : Type} (env : List α) (heap : List (Option α)) :
    envLen (env.map some ++ heap) = (envLen heap).map (env.length + ·) := by
  induction env with
  | nil => simp
  | cons entry rest ih =>
    rw [List.map_cons, List.cons_append, envLen, ih]
    cases envLen heap <;> simp only [Option.map_none', Option.map_some', List.length_cons]
    congr 1
    omega

/-- For every accepted argv and every heap, `env_len(o.env)` is the number of `--env`
options plus the count it reads on from the heap after the allocation. -/
theorem envLen_cliParseOptions {a : ArgTable} {o : SandboxOptions}
    (h : cliParseOptions a = .ok o) (heap : List (Option EnvVar)) :
    envLen (parsedEnvMemory o.env heap) = (envLen heap).map (a.env.length + ·) := by
  have hlen := parseEnv_length a.env [] o.env (cliParseOptions_eq_ok h).1
  simp only [List.length_nil, Nat.zero_add] at hlen
  rw [parsedEnvMemory, envLen_append_entries, hlen]

/-- `microbox --env A=1 -- /bin/true` with a `NULL` name right after the allocation. -/
theorem envLen_cliParseOptions_A1 : envLen (parsedEnvMemory [⟨"A", "1"⟩] [none]) = some 1 :=
  @envLen_cliParseOptions { env := ["A=1"], cmd := ["/bin/true"] }
    { env := [⟨"A", "1"⟩], cmd := ["/bin/true"] } rfl [none]

/-- `microbox --env A=1 -- /bin/true`, with a non-`NULL` name in the slot after the
one-entry allocation: `env_len` reads two slots past the allocation and returns `2`. -/
theorem envLen_env_A1 :
    cliParseOptions { env := ["A=1"], cmd := ["/bin/true"] } =
        .ok { env := [⟨"A", "1"⟩], cmd := ["/bin/true"] } ∧
      envLen (parsedEnvMemory [⟨"A", "1"⟩] [some ⟨"X", "Y"⟩, none]) = some 2 :=
  ⟨rfl, by simp [parsedEnvMemory, envLen_append_entries, envLen]⟩

/-! ## `merge` -/

/-- `env[0]`, ..., `env[n - 1]`: the entries a loop `for (i = 0; i < n; ++i)` reads. -/
def envEntries {α : Type} (env : List (Option α)) (n : Nat) : List α := (env.take n).filterMap id

/-- The entries of `safe_env`, before its `{NULL, NULL}` terminator. -/
def safeEnv : List EnvVar :=
  [⟨"PATH", "/usr/bin:/bin:/usr/sbin:/sbin:/usr/local/bin"⟩, ⟨"HOME", "/root"⟩, ⟨"TERM", "xterm"⟩]

/-- `out[n] = e; n++` on the `n` entries `out` written so far, in an allocation of `size`
slots: `none` when `out[n]` lies outside it. -/
def storeNext (size : Nat) (out : List EnvVar) (e : EnvVar) : Option (List EnvVar) :=
  if out.length < size then some (out ++ [e]) else none

/-- The `j` loop of `merge`: the first entry of `out` named like `e` takes `e`'s value and
the loop breaks; `none` when it runs to `j == n`. -/
def overrideFirst (e : EnvVar) : List EnvVar → Option (List EnvVar)
  | [] => none
  | s :: rest =>
    if s.name = e.name then some ({ s with value := e.value } :: rest)
    else (overrideFirst e rest).map (s :: ·)

/-- One pass of the `env2` loop: override a variable, or add `e` as a new one. -/
def mergeEntry (size : Nat) (out : List EnvVar) (e : EnvVar) : Option (List EnvVar) :=
  match overrideFirst e out with
  | some out => some out
  | none => storeNext size out e

/-- `merge(env1, env2)`: the array it `calloc`s with `n1 + n2 + 1` slots, after the copy
of `env1`, the `env2` loop and the terminator.  `none` when a walk runs off its mapping or a
store falls outside the allocation.  The `strdup` copies are the strings themselves. -/
def merge (env1 env2 : List (Option EnvVar)) : Option (List (Option EnvVar)) := do
  let n1 ← envLen env1
  let n2 ← envLen env2
  let size := n1 + n2 + 1
  let out ← (envEntries env1 n1).foldlM (storeNext size) []
  let out ← (envEntries env2 n2).foldlM (mergeEntry size) out
  if out.length < size then some (out.map some ++ List.replicate (size - out.length) none)
  else none

section Terminated

variable {α : Type}

theorem envLen_terminated (env : List α) (heap : List (Option α)) :
    envLen (env.map some ++ none :: heap) = some env.length := by
  simp [envLen_append_entries, envLen]

theorem envEntries_terminated (env : List α) (heap : List (Option α)) :
    envEntries (env.map some ++ none :: heap) env.length = env := by
  simp [envEntries, List.take_append_eq_append_take]

end Terminated

/-- The copy loop of `merge` stores every entry of `env1` while the allocation has room. -/
theorem foldlM_storeNext {size : Nat} : ∀ (env out : List EnvVar), out.length + env.length ≤ size →
    env.foldlM (storeNext size) out = some (out ++ env)
  | [], out, _ => by simp
  | e :: env, out, h => by
    simp only [List.length_cons] at h
    rw [List.foldlM_cons, storeNext, if_pos (by omega), Option.bind_eq_bind, Option.some_bind,
      foldlM_storeNext env (out ++ [e]) (by simp; omega), List.append_assoc, List.singleton_append]

/-- Over distinct names, `overrideFirst` overrides the one entry with `e`'s name. -/
theorem overrideFirst_map {names : List String} (hd : names.Nodup) (f : String → String) (e : EnvVar) :
    overrideFirst e (names.map fun n => ⟨n, f n⟩) =
      if e.name ∈ names then some (names.map fun n => ⟨n, if n = e.name then e.value else f n⟩)
      else none := by
  induction names with
  | nil => rfl
  | cons a rest ih =>
    rw [List.nodup_cons] at hd
    by_cases ha : a = e.name
    · subst ha
      simp only [overrideFirst, List.map_cons, if_pos, List.mem_cons_self, if_true]
      congr 2
      exact List.map_congr_left fun n hn => by
        rw [if_neg fun (h : n = e.name) => hd.1 (h ▸ hn)]
    · by_cases hr : e.name ∈ rest <;> simp [overrideFirst, ha, ih hd.2, hr, Ne.symm ha]

/-! ## The overlay the spec describes -/

/-- The value of the first entry of `env` named `name`. -/
def envLookup (env : List EnvVar) (name : String) : Option String :=
  (env.find? (·.name = name)).map (·.value)

/-- The distinct elements of `l` in order of first occurrence. -/
def firstOccurrences (l : List String) : List String := l.reverse.dedup.reverse

/-- The value the overlay binds `name` to: its last value in `env2`, else its value in
`env1`. -/
def overlayValue (env1 env2 : List EnvVar) (name : String) : String :=
  match envLookup env2.reverse name with
  | some v => v
  | none => (envLookup env1 name).getD ""

/-- The overlay of `env2` onto `env1` in the spec's words: `env1`'s names, then those of
`env2` not in `env1` in order of first occurrence, each once, bound by `overlayValue`. -/
def overlay (env1 env2 : List EnvVar) : List EnvVar :=
  (firstOccurrences ((env1 ++ env2).map (·.name))).map fun name => ⟨name, overlayValue env1 env2 name⟩

@[simp] theorem envLookup_nil (name : String) : envLookup [] name = none := rfl

theorem envLookup_cons (e : EnvVar) (env : List EnvVar) (name : String) :
    envLookup (e :: env) name = if e.name = name then some e.value else envLookup env name := by
  by_cases h : e.name = name <;> simp [envLookup, List.find?_cons, h]

/-- Among distinct names, the lookup of an entry's name finds the entry. -/
theorem envLookup_of_mem {env : List EnvVar} (hd : (env.map (·.name)).Nodup) {e : EnvVar}
    (he : e ∈ env) : envLookup env e.name = some e.value := by
  induction env with
  | nil => cases he
  | cons a rest ih =>
    rw [List.map_cons, List.nodup_cons] at hd
    rw [envLookup_cons]
    rcases List.mem_cons.mp he with rfl | he
    · simp
    · have : a.name ≠ e.name := fun h => hd.1 (h ▸ List.mem_map_of_mem _ he)
      rw [if_neg this, ih hd.2 he]

theorem envLookup_map (names : List String) (f : String → String) (name : String) :
    envLookup (names.map fun n => ⟨n, f n⟩) name = if name ∈ names then some (f name) else none := by
  induction names with
  | nil => rfl
  | cons a rest ih =>
    rw [List.map_cons, envLookup_cons, ih]
    by_cases h : a = name
    · simp [h]
    · simp [h, Ne.symm h]

theorem envLookup_append_of_forall {l₁ l₂ : List EnvVar} {name : String} (h : ∀ e ∈ l₁, e.name ≠ name) :
    envLookup (l₁ ++ l₂) name = envLookup l₂ name := by
  induction l₁ with
  | nil => rfl
  | cons e l₁ ih =>
    rw [List.cons_append, envLookup_cons, if_neg (h e (List.mem_cons_self _ _)),
      ih fun e' he' => h e' (List.mem_cons_of_mem _ he')]

theorem firstOccurrences_append_singleton (l : List String) (a : String) :
    firstOccurrences (l ++ [a]) = if a ∈ l then firstOccurrences l else firstOccurrences l ++ [a] := by
  unfold firstOccurrences
  rw [List.reverse_append, List.reverse_singleton, List.singleton_append]
  split_ifs with h
  · rw [List.dedup_cons_of_mem (List.mem_reverse.mpr h)]
  · rw [List.dedup_cons_of_not_mem (mt List.mem_reverse.mp h), List.reverse_cons]

@[simp] theorem mem_firstOccurrences {l : List String} {a : String} : a ∈ firstOccurrences l ↔ a ∈ l := by
  simp [firstOccurrences]

theorem nodup_firstOccurrences (l : List String) : (firstOccurrences l).Nodup :=
  List.nodup_reverse.mpr (List.nodup_dedup _)

theorem length_firstOccurrences_le (l : List String) : (firstOccurrences l).length ≤ l.length := by
  simpa [firstOccurrences] using (List.dedup_sublist l.reverse).length_le

theorem firstOccurrences_of_nodup {l : List String} (h : l.Nodup) : firstOccurrences l = l := by
  simp [firstOccurrences, List.dedup_eq_self.mpr (List.nodup_reverse.mpr h)]

/-- Names already present leave the first occurrences alone. -/
theorem firstOccurrences_append_of_mem : ∀ {l l' : List String}, (∀ a ∈ l', a ∈ l) →
    firstOccurrences (l ++ l') = firstOccurrences l
  | l, [], _ => by simp
  | l, a :: l', h => by
    have ha : a ∈ l := h a (List.mem_cons_self _ _)
    rw [← List.singleton_append, ← List.append_assoc,
      firstOccurrences_append_of_mem fun b hb => List.mem_append_left _ (h b (List.mem_cons_of_mem _ hb)),
      firstOccurrences_append_singleton, if_pos ha]

theorem overlayValue_append_singleton (env1 p : List EnvVar) (e : EnvVar) (name : String) :
    overlayValue env1 (p ++ [e]) name = if name = e.name then e.value else overlayValue env1 p name := by
  by_cases h : e.name = name
  · simp [overlayValue, envLookup_cons, h]
  · simp [overlayValue, envLookup_cons, h, Ne.symm h]

theorem length_overlay_le (env1 env2 : List EnvVar) :
    (overlay env1 env2).length ≤ env1.length + env2.length := by
  simpa [overlay] using length_firstOccurrences_le ((env1 ++ env2).map (·.name))

theorem overlay_names (env1 env2 : List EnvVar) :
    (overlay env1 env2).map (·.name) = firstOccurrences ((env1 ++ env2).map (·.name)) := by
  simp [overlay, Function.comp_def]

/-- The entry of a name of either array is in the overlay, with the overlay's value. -/
theorem mem_overlay {env1 env2 : List EnvVar} {name : String} (h : name ∈ (env1 ++ env2).map (·.name)) :
    ⟨name, overlayValue env1 env2 name⟩ ∈ overlay env1 env2 :=
  List.mem_map_of_mem _ (mem_firstOccurrences.mpr h)

/-- Over distinct names, the overlay of nothing is the array itself. -/
theorem overlay_nil {env1 : List EnvVar} (hd : (env1.map (·.name)).Nodup) : overlay env1 [] = env1 := by
  simp only [overlay, List.append_nil, firstOccurrences_of_nodup hd, List.map_map]
  conv_rhs => rw [← List.map_id env1]
  exact List.map_congr_left fun e he => by simp [overlayValue, envLookup_of_mem hd he]

/-! ## `merge` computes the overlay -/

/-- One pass of the `env2` loop extends the overlay by one entry. -/
theorem mergeEntry_overlay {env1 p : List EnvVar} {size : Nat}
    (hsize : env1.length + p.length < size) (e : EnvVar) :
    mergeEntry size (overlay env1 p) e = some (overlay env1 (p ++ [e])) := by
  have hlen : (overlay env1 p).length < size :=
    Nat.lt_of_le_of_lt (by simpa using length_overlay_le env1 p) hsize
  have hvalue := overlayValue_append_singleton env1 p e
  unfold mergeEntry
  rw [overlay, overrideFirst_map (nodup_firstOccurrences _)]
  simp only [overlay, ← List.append_assoc, List.map_append, List.map_singleton,
    firstOccurrences_append_singleton, mem_firstOccurrences, hvalue]
  split_ifs with hmem
  · rfl
  · have hkeep : ∀ n ∈ firstOccurrences ((env1 ++ p).map (·.name)),
        (⟨n, overlayValue env1 p n⟩ : EnvVar) = ⟨n, if n = e.name then e.value else overlayValue env1 p n⟩ :=
      fun n hn => by rw [if_neg fun (h : n = e.name) => hmem (by simpa [h] using hn)]
    simp only [overlay, List.map_append, List.length_map] at hlen hkeep
    simp [storeNext, hlen, List.map_congr_left hkeep]

theorem foldlM_mergeEntry {env1 : List EnvVar} {size : Nat} : ∀ (rest p : List EnvVar),
    env1.length + (p ++ rest).length < size →
      rest.foldlM (mergeEntry size) (overlay env1 p) = some (overlay env1 (p ++ rest))
  | [], p, _ => by simp
  | e :: rest, p, h => by
    rw [List.foldlM_cons, mergeEntry_overlay (by simp at h; omega), Option.bind_eq_bind,
      Option.some_bind, foldlM_mergeEntry rest (p ++ [e]) (by simpa using h)]
    simp

/-- On terminated arrays, `merge` writes the overlay and the terminator inside its
allocation. -/
theorem merge_eq_overlay (env1 env2 : List EnvVar) (heap1 heap2 : List (Option EnvVar))
    (hd : (env1.map (·.name)).Nodup) :
    merge (env1.map some ++ none :: heap1) (env2.map some ++ none :: heap2) =
      some ((overlay env1 env2).map some ++
        none :: List.replicate (env1.length + env2.length - (overlay env1 env2).length) none) := by
  have hlen := length_overlay_le env1 env2
  have hcopy := @foldlM_storeNext (env1.length + env2.length + 1) env1 [] (by simp; omega)
  have hloop := @foldlM_mergeEntry env1 (env1.length + env2.length + 1) env2 []
    (by simp)
  rw [List.nil_append, overlay_nil hd] at hloop
  rw [List.nil_append] at hcopy
  simp only [merge, envLen_terminated, envEntries_terminated, Option.bind_eq_bind, Option.some_bind,
    hcopy, hloop]
  rw [if_pos (by omega), show env1.length + env2.length + 1 - (overlay env1 env2).length =
    env1.length + env2.length - (overlay env1 env2).length + 1 by omega, List.replicate_succ]

/-- For every `env1` with distinct names and every `env2`, both terminated inside their
mappings: `merge` returns the overlay of `env2` onto `env1`, terminated, in its allocation of
`n1 + n2 + 1` slots; the overlay has at most `n1 + n2` entries, and its names are distinct, so it
can be `env1` of another `merge`. -/
theorem merge_overlay (env1 env2 : List EnvVar) (heap1 heap2 : List (Option EnvVar))
    (hd : (env1.map (·.name)).Nodup) :
    merge (env1.map some ++ none :: heap1) (env2.map some ++ none :: heap2) =
        some ((overlay env1 env2).map some ++
          none :: List.replicate (env1.length + env2.length - (overlay env1 env2).length) none) ∧
      (overlay env1 env2).length ≤ env1.length + env2.length ∧
      ((overlay env1 env2).map (·.name)).Nodup :=
  ⟨merge_eq_overlay env1 env2 heap1 heap2 hd, length_overlay_le env1 env2,
    overlay_names env1 env2 ▸ nodup_firstOccurrences _⟩

/-- `merge(safe_env, env2)` with `PATH` overridden and `A` given twice. -/
theorem merge_overlay_safeEnv :
    let user : List EnvVar := [⟨"PATH", "/bin"⟩, ⟨"A", "1"⟩, ⟨"A", "2"⟩]
    (safeEnv.map (·.name)).Nodup ∧
      merge (safeEnv.map some ++ [none]) (user.map some ++ [none]) =
          some ((overlay safeEnv user).map some ++
            none :: List.replicate (safeEnv.length + user.length - (overlay safeEnv user).length) none) ∧
        (overlay safeEnv user).length ≤ safeEnv.length + user.length ∧
        ((overlay safeEnv user).map (·.name)).Nodup :=
  ⟨by decide, merge_overlay _ _ [] [] (by decide)⟩

example : overlay safeEnv [⟨"PATH", "/bin"⟩, ⟨"A", "1"⟩, ⟨"A", "2"⟩] =
    [⟨"PATH", "/bin"⟩, ⟨"HOME", "/root"⟩, ⟨"TERM", "xterm"⟩, ⟨"A", "2"⟩] := by decide

/-- Overlaying the same entries twice is overlaying them once. -/
theorem overlay_overlay {env1 : List EnvVar} (env2 : List EnvVar) :
    overlay (overlay env1 env2) env2 = overlay env1 env2 := by
  have hnames : firstOccurrences (((overlay env1 env2) ++ env2).map (·.name)) =
      firstOccurrences ((env1 ++ env2).map (·.name)) := by
    rw [List.map_append, overlay_names, firstOccurrences_append_of_mem fun a ha =>
        mem_firstOccurrences.mpr (by rw [List.map_append]; exact List.mem_append_right _ ha),
      firstOccurrences_of_nodup (nodup_firstOccurrences _)]
  conv_lhs => rw [overlay, hnames]
  conv_rhs => rw [overlay]
  refine List.map_congr_left fun n hn => ?_
  have hlookup : envLookup (overlay env1 env2) n = some (overlayValue env1 env2 n) := by
    rw [overlay, envLookup_map, if_pos hn]
  cases h : envLookup env2.reverse n <;> simp [overlayValue, h, hlookup]

/-- `merge` is idempotent, the spec's law: merging the same entries into its result again
gives the same entries. -/
theorem merge_merge (env1 env2 : List EnvVar) (heap1 heap2 heap3 : List (Option EnvVar))
    (hd : (env1.map (·.name)).Nodup) :
    ∃ (out : List EnvVar) (k₁ k₂ : Nat),
      merge (env1.map some ++ none :: heap1) (env2.map some ++ none :: heap2) =
          some (out.map some ++ none :: List.replicate k₁ none) ∧
        merge (out.map some ++ none :: List.replicate k₁ none) (env2.map some ++ none :: heap3) =
          some (out.map some ++ none :: List.replicate k₂ none) := by
  have hd' : ((overlay env1 env2).map (·.name)).Nodup := overlay_names env1 env2 ▸ nodup_firstOccurrences _
  refine ⟨overlay env1 env2, _, (overlay env1 env2).length + env2.length - (overlay env1 env2).length,
    merge_eq_overlay env1 env2 heap1 heap2 hd, ?_⟩
  rw [merge_eq_overlay _ env2 _ heap3 hd', overlay_overlay]

/-- `merge(merge(safe_env, user), user)` for the same `user` entries. -/
theorem merge_merge_safeEnv :
    let user : List EnvVar := [⟨"PATH", "/bin"⟩, ⟨"A", "1"⟩, ⟨"A", "2"⟩]
    (safeEnv.map (·.name)).Nodup ∧
      ∃ (out : List EnvVar) (k₁ k₂ : Nat),
        merge (safeEnv.map some ++ [none]) (user.map some ++ [none]) =
            some (out.map some ++ none :: List.replicate k₁ none) ∧
          merge (out.map some ++ none :: List.replicate k₁ none) (user.map some ++ [none]) =
            some (out.map some ++ none :: List.replicate k₂ none) :=
  ⟨by decide, merge_merge _ _ [] [] [] (by decide)⟩

/-! ## `flatten_env` -/

/-- An `env_var_t` whose `name` is not `NULL`, as `flatten_env` reads it: its `value` may be
`NULL` (`none`). -/
structure EnvSlot where
  /-- `name`. -/
  name : String
  /-- `value`. -/
  value : Option String
deriving DecidableEq, Repr

/-- The entries `merge` writes: their values are `strdup` copies, never `NULL`. -/
def EnvVar.toSlot (e : EnvVar) : EnvSlot := ⟨e.name, some e.value⟩

/-- The string `flatten_env` builds for one entry: the name, `=`, and the value, a `NULL`
value read as `""`. -/
def EnvSlot.flat (e : EnvSlot) : String := e.name ++ "=" ++ e.value.getD ""

/-- `flatten_env(env)`: the strings of the `env_len(env)` entries, then `NULL`. -/
def flattenEnv (env : List (Option EnvSlot)) : Option (List (Option String)) :=
  (envLen env).map fun n => (envEntries env n).map (some ∘ EnvSlot.flat) ++ [none]

/-- A `NAME=VALUE` string split at its first `=`, as a reader of `envp` splits it. -/
def splitAtEq (s : String) : Option (String × String) :=
  match s.toList.span (· ≠ '=') with
  | (name, _ :: value) => some (⟨name⟩, ⟨value⟩)
  | (_, []) => none

/-- A name without `=` comes back whole from the split of its string. -/
theorem splitAtEq_flat {e : EnvSlot} (h : '=' ∉ e.name.toList) :
    splitAtEq e.flat = some (e.name, e.value.getD "") := by
  have hname : ∀ c ∈ e.name.data, decide (c ≠ '=') = true := fun c hc =>
    decide_eq_true (by rintro rfl; exact h hc)
  have htake := @takeWhile_append_of_all _ _ ('=' :: (e.value.getD "").data) hname (by simp)
  have hdrop := @dropWhile_append_of_all _ _ ('=' :: (e.value.getD "").data) hname (by simp)
  simp only [splitAtEq, EnvSlot.flat, String.toList, String.data_append, List.span_eq_take_drop]
  rw [List.append_assoc, List.singleton_append, htake, hdrop]

theorem flattenEnv_terminated (env : List EnvSlot) (heap : List (Option EnvSlot)) :
    flattenEnv (env.map some ++ none :: heap) = some (env.map (some ∘ EnvSlot.flat) ++ [none]) := by
  simp [flattenEnv, envLen_terminated, envEntries_terminated]

/-- For every terminated array whose names have no `=`: `flatten_env` returns `env_len(env)`
strings and `NULL`, and splitting each string at its first `=` gives back the entry's name and
value, a `NULL` value as `""`. -/
theorem flattenEnv_splitAtEq (env : List EnvSlot) (heap : List (Option EnvSlot))
    (hname : ∀ e ∈ env, '=' ∉ e.name.toList) :
    ∃ flat : List String, flattenEnv (env.map some ++ none :: heap) = some (flat.map some ++ [none]) ∧
      envLen (env.map some ++ none :: heap) = some flat.length ∧
      flat.map splitAtEq = env.map fun e => some (e.name, e.value.getD "") :=
  ⟨env.map EnvSlot.flat, by simp [flattenEnv_terminated],
    by simp [envLen_terminated],
    by rw [List.map_map]; exact List.map_congr_left fun e he => splitAtEq_flat (hname e he)⟩

/-- `safe_env` and an entry with a `NULL` value. -/
theorem flattenEnv_splitAtEq_safeEnv :
    let env : List EnvSlot := safeEnv.map EnvVar.toSlot ++ [⟨"EMPTY", none⟩]
    (∀ e ∈ env, '=' ∉ e.name.toList) ∧
      ∃ flat : List String, flattenEnv (env.map some ++ [none]) = some (flat.map some ++ [none]) ∧
        envLen (env.map some ++ [none]) = some flat.length ∧
        flat.map splitAtEq = env.map fun e => some (e.name, e.value.getD "") :=
  ⟨by decide, flattenEnv_splitAtEq _ [] (by decide)⟩

/-! ## The child's `envp` -/

/-- The `envp` the child hands to `execve`: `flatten_env` of `merge(safe_env, opts->env)`, or of
`safe_env` itself when no `--env` was given and `opts->env` is `NULL`.  `heap` is the memory
after the allocation of `opts->env`. -/
def childEnvp (o : SandboxOptions) (heap : List (Option EnvVar)) : Option (List (Option String)) :=
  let merged :=
    if o.env = [] then some (safeEnv.map some ++ [none])
    else merge (safeEnv.map some ++ [none]) (parsedEnvMemory o.env heap)
  merged.bind fun env => flattenEnv (env.map (Option.map EnvVar.toSlot))

/-- For every accepted argv whose `o.env` allocation is followed by a `NULL` name: an `--env`
spec that no later spec overrides reaches `execve` byte for byte. -/
theorem childEnvp_spec {a : ArgTable} {o : SandboxOptions} (h : cliParseOptions a = .ok o)
    (rest : List (Option EnvVar)) {pre post : List String} {spec : String}
    (henv : a.env = pre ++ spec :: post)
    (hlast : ∀ s ∈ post, (splitSpec '=' s).map Prod.fst ≠ (splitSpec '=' spec).map Prod.fst) :
    ∃ envp, childEnvp o (none :: rest) = some envp ∧ some spec ∈ envp := by
  obtain ⟨kvs, hout, hmap⟩ := parseEnv_specs a.env [] o.env (cliParseOptions_eq_ok h).1
  rw [List.nil_append] at hout
  rw [henv, List.map_append, List.map_cons] at hmap
  obtain ⟨kpre, krest, rfl, -, hrest⟩ := List.append_eq_map_iff.mp hmap
  obtain ⟨kv, kpost, rfl, hkv, hpost⟩ := List.map_eq_cons_iff.mp hrest
  have hspec := splitSpec_eq_some hkv.symm
  have hlater : ∀ e ∈ kpost.reverse, e.name ≠ kv.name := fun e he => by
    obtain ⟨s, hs, hse⟩ := List.mem_map.mp (hpost ▸ List.mem_map_of_mem _ (List.mem_reverse.mp he))
    have := hlast s hs
    rw [hse, ← hkv] at this
    simpa using this
  have hvalue : overlayValue safeEnv o.env kv.name = kv.value := by
    rw [overlayValue, hout, List.reverse_append, List.reverse_cons, List.append_assoc,
      envLookup_append_of_forall hlater, List.singleton_append, envLookup_cons, if_pos rfl]
  have hmem := @mem_overlay safeEnv o.env kv.name (by simp [hout])
  rw [hvalue] at hmem
  have hne : o.env ≠ [] := by simp [hout]
  have hslots : ∀ k, ((overlay safeEnv o.env).map some ++ none :: List.replicate k none).map
      (Option.map EnvVar.toSlot) = ((overlay safeEnv o.env).map EnvVar.toSlot).map some ++
        none :: List.replicate k none := fun k => by simp [Function.comp_def]
  simp only [childEnvp, if_neg hne, parsedEnvMemory, merge_eq_overlay safeEnv o.env [] rest (by decide),
    Option.some_bind, hslots, flattenEnv_terminated]
  refine ⟨_, rfl, List.mem_append_left _ (List.mem_map.mpr ⟨_, List.mem_map_of_mem _ hmem, ?_⟩)⟩
  rw [← hspec.2]
  rfl

/-- `--env A=1 --env PATH=/x --env A=2`: `PATH=/x` reaches `execve`. -/
theorem childEnvp_spec_path :
    cliParseOptions { env := ["A=1", "PATH=/x", "A=2"], cmd := ["/bin/true"] } =
        .ok { env := [⟨"A", "1"⟩, ⟨"PATH", "/x"⟩, ⟨"A", "2"⟩], cmd := ["/bin/true"] } ∧
      (∀ s ∈ ["A=2"], (splitSpec '=' s).map Prod.fst ≠ (splitSpec '=' "PATH=/x").map Prod.fst) ∧
      ∃ envp, childEnvp { env := [⟨"A", "1"⟩, ⟨"PATH", "/x"⟩, ⟨"A", "2"⟩], cmd := ["/bin/true"] } [none] =
        some envp ∧ some "PATH=/x" ∈ envp :=
  ⟨rfl, by decide, @childEnvp_spec { env := ["A=1", "PATH=/x", "A=2"], cmd := ["/bin/true"] }
    { env := [⟨"A", "1"⟩, ⟨"PATH", "/x"⟩, ⟨"A", "2"⟩], cmd := ["/bin/true"] } rfl [] ["A=1"] ["A=2"]
    "PATH=/x" rfl (by decide)⟩

/-- `microbox --env A=1 -- /bin/true` with an entry named `A` in the slot after the one-entry
allocation of `o.env`: `env_len` counts it, `merge` takes it for a later `--env A=...`, and
`execve` gets `A=evil` and not `A=1`, which no spec of the command line overrides. -/
theorem childEnvp_env_A1_lost :
    cliParseOptions { env := ["A=1"], cmd := ["/bin/true"] } =
        .ok { env := [⟨"A", "1"⟩], cmd := ["/bin/true"] } ∧
      ∃ envp, childEnvp { env := [⟨"A", "1"⟩], cmd := ["/bin/true"] } [some ⟨"A", "evil"⟩, none] =
        some envp ∧ some "A=evil" ∈ envp ∧ some "A=1" ∉ envp :=
  ⟨rfl, _, rfl, by decide, by decide⟩

end Microbox
