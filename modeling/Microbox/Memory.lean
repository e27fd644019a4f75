import Mathlib.Algebra.Group.Int
import Microbox.Basic

/-!
# Memory sizes

`parse_memory` (`parse.c`) turns the `--memory` value into bytes: `strtoull(memory,
&endptr, 10)` reads the number, and the one character at `endptr` selects a multiplier.
`strtoull` is glibc's: it skips `isspace` characters, takes an optional sign and the
longest run of decimal digits, leaves `endptr` at the start of the string when there
are no digits, returns `ULLONG_MAX` with `errno = ERANGE` when the digits do not fit,
and negates modulo `2^64` after a `-`.  It leaves `errno` alone otherwise, and
`parse_memory` does not clear `errno` before testing it, so the value of `errno` on
entry is an argument of `parseMemory`.  C strings end at their first `NUL`; `deref`
reads the end of a list as `NUL`, so every Lean string is read as its C prefix.

The results:
* `parseMemory_unsigned`: blanks, decimal digits and at most one unit character give
  exactly `n * mult`, whenever that is below `2^64` and `errno` is not `ERANGE` on
  entry.
* `parseMemory_ne_zero`: what the function accepts.  A sign may stand before the digits,
  and after the unit character anything may follow, since only `*endptr` is read.

`Microbox.Parse` runs `--memory` through it (`cliParseOptions_mem_outside`).
-/

namespace Microbox

/-- `ULLONG_MAX`, which is also `UINT64_MAX`. -/
def ULLONG_MAX : Nat := 18446744073709551615

/-- `ERANGE`. -/
def ERANGE : Int := 34

/-- The character that ends a C string. -/
def NUL : Char := Char.ofNat 0

/-- `isspace` in the C locale. -/
def isspace (c : Char) : Bool :=
  c == ' ' || c == '\t' || c == '\n' || c == Char.ofNat 11 || c == Char.ofNat 12 || c == '\r'

/-- The value of a run of decimal digits. -/
def decimalValue (ds : List Char) : Nat :=
  ds.foldl (fun n c => 10 * n + (c.toNat - '0'.toNat)) 0

/-- The sign `strtoull` accepts after the blanks: whether it negates, and the rest. -/
def strtoullSign : List Char → Bool × List Char
  | '-' :: rest => (true, rest)
  | '+' :: rest => (false, rest)
  | s => (false, s)

/-- `strtoull(nptr, &endptr, 10)`: the value, `endptr`, and whether `errno` was set to
`ERANGE`. -/
def strtoull (nptr : List Char) : Nat × List Char × Bool :=
  let (neg, s) := strtoullSign (nptr.dropWhile isspace)
  let ds := s.takeWhile Char.isDigit
  if ds = [] then (0, nptr, false)
  else
    let n := decimalValue ds
    if ULLONG_MAX < n then (ULLONG_MAX, s.dropWhile Char.isDigit, true)
    else ((if neg then ULLONG_MAX + 1 - n else n) % (ULLONG_MAX + 1), s.dropWhile Char.isDigit, false)

/-- `*p` of a C string. -/
def deref : List Char → Char
  | [] => NUL
  | c :: _ => c

/-- The multiplier `parse_memory` takes from `*endptr`, `none` for an invalid suffix. -/
def unitMultiplier (c : Char) : Option Nat :=
  if c = 'k' ∨ c = 'K' then some 1024
  else if c = 'm' ∨ c = 'M' then some (1024 * 1024)
  else if c = 'g' ∨ c = 'G' then some (1024 * 1024 * 1024)
  else if c ≠ 'b' ∧ c ≠ 'B' ∧ c ≠ NUL then none
  else some 1

/-- `parse_memory(memory)`, with `errno` as it is on entry. -/
def parseMemory (memory : String) (errno : Int) : Nat :=
  let (result, endptr, erange) := strtoull memory.toList
  let errno := if erange then ERANGE else errno
  if result = ULLONG_MAX ∧ errno = ERANGE then 0
  else
    match unitMultiplier (deref endptr) with
    | none => 0
    | some multiplier =>
      if 1 < multiplier ∧ ULLONG_MAX / multiplier < result then 0 else result * multiplier

/-! ## Scanning -/

theorem dropWhile_append_of_all {p : Char → Bool} {ws rest : List Char}
    (hws : ∀ c ∈ ws, p c = true) (hrest : ∀ c ∈ rest.head?, p c = false) :
    (ws ++ rest).dropWhile p = rest := by
  rw [List.dropWhile_append_of_pos hws]
  cases rest <;> simp_all [List.dropWhile_cons]

theorem takeWhile_append_of_all {p : Char → Bool} {ws rest : List Char}
    (hws : ∀ c ∈ ws, p c = true) (hrest : ∀ c ∈ rest.head?, p c = false) :
    (ws ++ rest).takeWhile p = ws := by
  rw [List.takeWhile_append_of_pos hws]
  cases rest <;> simp_all [List.takeWhile_cons]

theorem mem_head?_dropWhile {p : Char → Bool} {l : List Char} {c : Char}
    (h : c ∈ (l.dropWhile p).head?) : p c = false := by
  have := List.head?_dropWhile_not p l
  rwa [Option.mem_def.mp h] at this

theorem isspace_of_isDigit {c : Char} (h : c.isDigit = true) : isspace c = false := by
  simp only [Char.isDigit, Bool.and_eq_true, decide_eq_true_eq] at h
  obtain ⟨h1, h2⟩ := h
  simp only [isspace, Bool.or_eq_false_iff, beq_eq_false_iff_ne, ne_eq]
  refine ⟨⟨⟨⟨⟨?_, ?_⟩, ?_⟩, ?_⟩, ?_⟩, ?_⟩ <;> rintro rfl <;> revert h1 h2 <;> decide

/-- Every character `parse_memory` takes a multiplier from ends the digits. -/
theorem isDigit_of_unitMultiplier {c : Char} {m : Nat} (h : unitMultiplier c = some m) :
    c.isDigit = false := by
  unfold unitMultiplier at h
  split_ifs at h with h1 h2 h3 h4
  · rcases h1 with rfl | rfl <;> decide
  · rcases h2 with rfl | rfl <;> decide
  · rcases h3 with rfl | rfl <;> decide
  · simp only [not_and_or, not_not] at h4
    rcases h4 with rfl | rfl | rfl <;> decide

theorem unitMultiplier_pos {c : Char} {m : Nat} (h : unitMultiplier c = some m) : 0 < m := by
  unfold unitMultiplier at h
  split_ifs at h <;> cases h <;> decide

theorem strtoullSign_spec (s : List Char) :
    ∃ sign, s = sign ++ (strtoullSign s).2 ∧
      (sign = [] ∧ (strtoullSign s).1 = false ∨ sign = ['-'] ∧ (strtoullSign s).1 = true ∨
        sign = ['+'] ∧ (strtoullSign s).1 = false) := by
  unfold strtoullSign
  split
  · exact ⟨['-'], rfl, by simp⟩
  · exact ⟨['+'], rfl, by simp⟩
  · exact ⟨[], rfl, by simp⟩

theorem strtoullSign_of_digit {s : List Char} (h : ∀ c ∈ s.head?, c.isDigit = true) :
    strtoullSign s = (false, s) := by
  unfold strtoullSign
  split <;> simp_all

/-- The digits decide what `strtoull` returns: no digits give `0` with `endptr` at the
start, too many give `ULLONG_MAX` with `ERANGE`. -/
theorem strtoull_spec (nptr : List Char) :
    strtoull nptr = (0, nptr, false) ∨
      ∃ ws sign ds, nptr = ws ++ sign ++ ds ++ (strtoull nptr).2.1 ∧ (∀ c ∈ ws, isspace c) ∧
        (sign = [] ∨ sign = ['-'] ∨ sign = ['+']) ∧ ds ≠ [] ∧ (∀ c ∈ ds, c.isDigit) ∧
        (∀ c ∈ (strtoull nptr).2.1.head?, c.isDigit = false) ∧
        ((strtoull nptr).2.2 = true ∧ (strtoull nptr).1 = ULLONG_MAX ∨
          (strtoull nptr).2.2 = false ∧ decimalValue ds ≤ ULLONG_MAX ∧
          (strtoull nptr).1 =
            (if sign = ['-'] then ULLONG_MAX + 1 - decimalValue ds else decimalValue ds) %
              (ULLONG_MAX + 1)) := by
  obtain ⟨sign, hsplit, hsign⟩ := strtoullSign_spec (nptr.dropWhile isspace)
  unfold strtoull
  generalize strtoullSign (nptr.dropWhile isspace) = r at hsplit hsign
  obtain ⟨neg, s⟩ := r
  dsimp only at hsplit hsign ⊢
  by_cases hds : s.takeWhile Char.isDigit = []
  · exact .inl (by rw [if_pos hds])
  rw [if_neg hds]
  refine .inr ⟨nptr.takeWhile isspace, sign, s.takeWhile Char.isDigit, ?_, ?_, ?_, hds, ?_, ?_, ?_⟩
  · split_ifs <;> simp only [List.append_assoc, List.takeWhile_append_dropWhile, ← hsplit]
  · exact fun c hc => List.mem_takeWhile_imp hc
  · rcases hsign with h | h | h <;> simp [h.1]
  · exact fun c hc => List.mem_takeWhile_imp hc
  · split_ifs <;> exact fun c hc => mem_head?_dropWhile hc
  -- too many digits, or the value modulo `2^64`
  by_cases hover : ULLONG_MAX < decimalValue (s.takeWhile Char.isDigit)
  · exact .inl (by rw [if_pos hover]; exact ⟨rfl, rfl⟩)
  rw [if_neg hover]
  refine .inr ⟨rfl, Nat.le_of_not_lt hover, ?_⟩
  rcases hsign with ⟨rfl, rfl⟩ | ⟨rfl, rfl⟩ | ⟨rfl, rfl⟩ <;> rfl

/-- Blanks, then digits that no digit follows: `strtoull` reads the digits. -/
theorem strtoull_digits {ws ds rest : List Char} (hws : ∀ c ∈ ws, isspace c) (hds : ds ≠ [])
    (hdig : ∀ c ∈ ds, c.isDigit) (hrest : ∀ c ∈ rest.head?, c.isDigit = false) :
    strtoull (ws ++ ds ++ rest) =
      if ULLONG_MAX < decimalValue ds then (ULLONG_MAX, rest, true)
      else (decimalValue ds, rest, false) := by
  obtain ⟨d, ds', rfl⟩ := List.exists_cons_of_ne_nil hds
  have hd : d.isDigit = true := hdig d (List.mem_cons_self _ _)
  have hblank : (ws ++ (d :: ds') ++ rest).dropWhile isspace = d :: ds' ++ rest := by
    rw [List.append_assoc]
    exact dropWhile_append_of_all hws (by simpa using isspace_of_isDigit hd)
  unfold strtoull
  rw [hblank, strtoullSign_of_digit (by simpa using hd)]
  simp only [takeWhile_append_of_all hdig hrest, dropWhile_append_of_all hdig hrest,
    List.cons_ne_nil, if_false, Bool.false_eq_true]
  split_ifs with h
  · rfl
  · rw [Nat.mod_eq_of_lt (by omega)]

/-! ## What `parse_memory` accepts -/

/-- Blanks, decimal digits and at most one unit character: `parse_memory` returns the
number times the unit's multiplier, whenever that product fits in 64 bits and `errno`
was not `ERANGE` on entry. -/
theorem parseMemory_unsigned {ws ds : List Char} {u : Option Char} {m : Nat} {errno : Int}
    (hws : ∀ c ∈ ws, isspace c) (hds : ds ≠ []) (hdig : ∀ c ∈ ds, c.isDigit)
    (hm : unitMultiplier (deref u.toList) = some m) (hfit : decimalValue ds * m ≤ ULLONG_MAX)
    (he : errno ≠ ERANGE) :
    parseMemory ⟨ws ++ ds ++ u.toList⟩ errno = decimalValue ds * m := by
  have hpos := unitMultiplier_pos hm
  have hle : decimalValue ds ≤ ULLONG_MAX / m := (Nat.le_div_iff_mul_le hpos).mpr hfit
  have hn : decimalValue ds ≤ ULLONG_MAX := le_trans (Nat.le_mul_of_pos_right _ hpos) hfit
  have hrest : ∀ c ∈ u.toList.head?, c.isDigit = false := by
    cases u with
    | none => simp
    | some c => simpa using isDigit_of_unitMultiplier hm
  unfold parseMemory
  rw [show (⟨ws ++ ds ++ u.toList⟩ : String).toList = ws ++ ds ++ u.toList from rfl,
    strtoull_digits hws hds hdig hrest, if_neg (by omega)]
  simp only [he, and_false, if_false, hm, Bool.false_eq_true]
  rw [if_neg (by omega)]

theorem parseMemory_unsigned_10M :
    (∀ c ∈ ([] : List Char), isspace c) ∧ ['1', '0'] ≠ [] ∧ (∀ c ∈ ['1', '0'], c.isDigit) ∧
      unitMultiplier (deref (some 'M').toList) = some (1024 * 1024) ∧
      decimalValue ['1', '0'] * (1024 * 1024) ≤ ULLONG_MAX ∧ (0 : Int) ≠ ERANGE ∧
      parseMemory "10M" 0 = 10 * (1024 * 1024) :=
  ⟨by decide, by decide, by decide, by decide, by decide, by decide,
    @parseMemory_unsigned [] ['1', '0'] (some 'M') (1024 * 1024) 0
      (by decide) (by decide) (by decide) (by decide) (by decide) (by decide)⟩

/-- Whatever `parse_memory` accepts is blanks, an optional sign, at most `ULLONG_MAX`
in decimal digits, and then the end of the string or a unit character followed by
anything; its value is the signed number modulo `2^64` times the unit's multiplier. -/
theorem parseMemory_ne_zero {memory : String} {errno : Int} (h : parseMemory memory errno ≠ 0) :
    ∃ ws sign ds rest m, memory.toList = ws ++ sign ++ ds ++ rest ∧ (∀ c ∈ ws, isspace c) ∧
      (sign = [] ∨ sign = ['-'] ∨ sign = ['+']) ∧ ds ≠ [] ∧ (∀ c ∈ ds, c.isDigit) ∧
      decimalValue ds ≤ ULLONG_MAX ∧ unitMultiplier (deref rest) = some m ∧
      parseMemory memory errno =
        (if sign = ['-'] then ULLONG_MAX + 1 - decimalValue ds else decimalValue ds) %
          (ULLONG_MAX + 1) * m := by
  unfold parseMemory at h ⊢
  have hspec := strtoull_spec memory.toList
  generalize strtoull memory.toList = r at h hspec ⊢
  obtain ⟨result, endptr, erange⟩ := r
  dsimp only at h hspec ⊢
  rcases hspec with hnone |
    ⟨ws, sign, ds, hsplit, hws, hsign, hds, hdig, -, ⟨rfl, rfl⟩ | ⟨rfl, hle, hval⟩⟩
  · simp only [Prod.mk.injEq] at hnone
    obtain ⟨rfl, rfl, rfl⟩ := hnone
    simp only [Bool.false_eq_true, if_false] at h
    split_ifs at h
    · exact absurd rfl h
    · split at h
      · exact absurd rfl h
      · simp at h
  · simp at h
  · simp only [Bool.false_eq_true, if_false] at h ⊢
    have herange : ¬(result = ULLONG_MAX ∧ errno = ERANGE) := fun hc => h (if_pos hc)
    rw [if_neg herange] at h ⊢
    cases hm : unitMultiplier (deref endptr) with
    | none => simp [hm] at h
    | some m =>
      simp only [hm] at h ⊢
      rw [if_neg fun hc => h (if_pos hc)]
      exact ⟨ws, sign, ds, endptr, m, hsplit, hws, hsign, hds, hdig, hle, hm, by rw [hval]⟩

/-- `10Mxyz` is accepted: no blanks, no sign, the digits `10`, and `M` then `xyz`. -/
theorem parseMemory_ne_zero_10Mxyz :
    parseMemory "10Mxyz" 0 ≠ 0 ∧
      ∃ ws sign ds rest m, "10Mxyz".toList = ws ++ sign ++ ds ++ rest ∧ (∀ c ∈ ws, isspace c) ∧
        (sign = [] ∨ sign = ['-'] ∨ sign = ['+']) ∧ ds ≠ [] ∧ (∀ c ∈ ds, c.isDigit) ∧
        decimalValue ds ≤ ULLONG_MAX ∧ unitMultiplier (deref rest) = some m ∧
        parseMemory "10Mxyz" 0 =
          (if sign = ['-'] then ULLONG_MAX + 1 - decimalValue ds else decimalValue ds) %
            (ULLONG_MAX + 1) * m :=
  have h : parseMemory "10Mxyz" 0 ≠ 0 := by decide
  ⟨h, parseMemory_ne_zero h⟩

end Microbox
