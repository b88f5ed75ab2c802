import Cloudlibc.String.Strlen

/-!
# Searching for a string

`strstr()` of `libc/string/strstr.c` and `wcsstr()` of `libc/wchar/wcsstr.c`, with the functions
they call. They do not compute the length of the haystack: `check_spaceleft` of
`common/twoway.h` moves a pointer towards its end as far as the needle reaches, so each test reads
on where the last one stopped (`checkSpaceleft_spec`).

The Two-Way search is that of `memmem()` with this test. Its comparisons are over the characters in
front of the null character alone, and a read of anything else makes the model fail. Hence the
results (`strstr_spec`, `wcsstr_spec`) also say that no comparison goes beyond the haystack.
-/

set_option autoImplicit false

namespace Cloudlibc.String

open Cloudlibc.Loop Cloudlibc.Words List Option

variable {α : Type} [Zero α] [DecidableEq α]

/-! ## The end of the haystack -/

/-- One pass of the loop of `check_spaceleft`. -/
def checkSpaceleftPass (s : NulString α) (limit haystackend : ℕ) : Option (Pass ℕ (Bool × ℕ)) :=
  if haystackend < limit then do
    let c ← s.read haystackend
    if c = 0 then return .leave (false, haystackend) else return .again (haystackend + 1)
  else
    return .leave (true, haystackend)

/-- `check_spaceleft`. -/
def checkSpaceleft (s : NulString α) (needlelen haystack haystackend : ℕ) : Option (Bool × ℕ) :=
  run (checkSpaceleftPass s (haystack + needlelen)) (haystack + needlelen + 1) haystackend

/-- `check_spaceleft` answers whether the needle fits, and its pointer stays inside. -/
theorem checkSpaceleft_spec (needle : List α) (s : NulString α) :
    IsSpaceleft needle s.chars (checkSpaceleft s needle.length)
      (fun haystackend => haystackend ≤ s.chars.length) := by
  intro haystack start inside
  have answered : ∃ answer,
      run (checkSpaceleftPass s (haystack + needle.length)) (haystack + needle.length + 1) start =
        some answer ∧ answer.2 ≤ s.chars.length ∧
          (answer.1 = true ↔ haystack + needle.length ≤ s.chars.length) := by
    refine run_spec (fun haystackend => haystackend ≤ s.chars.length)
      (fun haystackend => haystack + needle.length - haystackend) _ ?_ inside (by omega)
    intro haystackend bound
    unfold checkSpaceleftPass
    split_ifs with below
    · rcases Nat.lt_or_eq_of_le bound with before | rfl
      · obtain ⟨c, read, -, nonzero⟩ := s.read_inside before
        simp only [read, nonzero, if_false, bind_eq_bind, bind_some]
        exact ⟨_, rfl, by omega, by omega⟩
      · simp only [NulString.read_length, if_true, bind_eq_bind, bind_some]
        exact ⟨_, rfl, le_rfl, by simp; omega⟩
    · exact ⟨_, rfl, bound, by simp; omega⟩
  obtain ⟨⟨left, next⟩, ran, bound, fits⟩ := answered
  exact ⟨left, next, ran, bound, fits⟩

/-! ## Needles of a single character -/

/-- One pass of the loop of `strchr()` and `wcschr()`. -/
def strchrPass (s : NulString α) (c : α) (i : ℕ) : Option (Pass ℕ (Option ℕ)) := do
  let first ← s.read i
  if first = c then
    return .leave (some i)
  else
    let second ← s.read i
    if second = 0 then return .leave none else return .again (i + 1)

theorem run_strchrPass (s : NulString α) {c : α} (present : c ≠ 0) :
    ∃ found, run (strchrPass s c) (s.chars.length + 1) 0 = some found ∧
      IsFirstOccurrence [c] s.chars found := by
  have single : ∀ q, OccursAt [c] s.chars q ↔ s.chars[q]? = some c := by
    simp [OccursAt]
  refine run_spec (fun i => i ≤ s.chars.length ∧ ∀ q < i, ¬ OccursAt [c] s.chars q)
    (fun i => s.chars.length - i) _ ?_
    ⟨Nat.zero_le _, fun q before => absurd before (Nat.not_lt_zero q)⟩ (by omega)
  rintro i ⟨bound, passed⟩
  rcases Nat.lt_or_eq_of_le bound with before | rfl
  · obtain ⟨first, read, inChars, nonzero⟩ := s.read_inside before
    simp only [strchrPass, read, nonzero, if_false, bind_eq_bind, bind_some]
    split_ifs with same
    · exact ⟨_, rfl, (single i).mpr (by rw [inChars, same]), passed⟩
    · refine ⟨_, rfl, ⟨by omega, fun q upTo => ?_⟩, by omega⟩
      rcases Nat.lt_succ_iff_lt_or_eq.mp upTo with earlier | rfl
      · exact passed q earlier
      · rw [single, inChars, some.injEq]
        exact same
  · simp only [strchrPass, NulString.read_length, Ne.symm present, if_false, if_true,
      bind_eq_bind, bind_some]
    refine ⟨_, rfl, fun q => ?_⟩
    by_cases before : q < s.chars.length
    · exact passed q before
    · rw [single, getElem?_eq_none (by omega)]
      simp

/-- `strchr()`: the character is converted from `int` to `char`. -/
def strchr (s : NulString UInt8) (c : ℤ) : Option (Option ℕ) :=
  run (strchrPass s (UInt8.ofInt c)) (s.chars.length + 1) 0

/-! ## Strings of bytes -/

/-- `strstr()`: the offset of the needle `s2` in the haystack `s1`, or `NULL`. -/
def strstr (sign : CharSign) (s1 : NulString UInt8) (s2 : StringBuffer) : Option (Option ℕ) := do
  let s2len ← strlen s2
  if s2len = 0 then
    return some 0
  else if s2len = 1 then
    let c ← s2.read 0
    strchr s1 (charValue sign c)
  else
    let needle : Buffer := ⟨s2.address, s2.chars⟩
    @twoway UInt8 ℕ (charOrder sign) s2.chars s1.chars (checkSpaceleft s1 s2len)
      (fun first second n => memcmp (needle.advance first) (needle.advance second) n) 0

theorem NulString.chars_eq_singleton {s : NulString α} (single : s.chars.length = 1) :
    ∃ c, s.read 0 = some c ∧ s.chars = [c] ∧ c ≠ 0 := by
  obtain ⟨c, read, inChars, nonzero⟩ := s.read_inside (show 0 < s.chars.length by omega)
  obtain ⟨c', chars⟩ := length_eq_one_iff.mp single
  rw [chars, getElem?_cons_zero, some.injEq] at inChars
  exact ⟨c, read, by rw [chars, inChars], nonzero⟩

theorem strstr_spec (sign : CharSign) (s1 : NulString UInt8) (s2 : StringBuffer) :
    ∃ found, strstr sign s1 s2 = some found ∧ IsFirstOccurrence s2.chars s1.chars found := by
  simp only [strstr, strlen_spec, bind_eq_bind, bind_some]
  split_ifs with empty single
  · exact ⟨some 0, rfl, fun i below => by omega, fun q before => absurd before (Nat.not_lt_zero q)⟩
  · obtain ⟨c, read, chars, nonzero⟩ := NulString.chars_eq_singleton single
    rw [read, chars, bind_some, strchr, ofInt_charValue]
    exact run_strchrPass s1 nonzero
  · exact @twoway_spec UInt8 ℕ (charOrder sign) _ _ _ _ _ _ (by omega)
      (checkSpaceleft_spec s2.chars s1) (isMemcmp_memcmp ⟨s2.address, s2.chars⟩) (Nat.zero_le _)

/-! ## Wide strings -/

/-- One pass of the loop of `wmemcmp()`. The state is the number of characters passed and the
number left. -/
def wmemcmpPass (ws1 ws2 : List ℤ) (state : ℕ × ℕ) : Option (Pass (ℕ × ℕ) ℤ) :=
  if state.2 > 0 then do
    let a ← ws1[state.1]?
    let b ← ws2[state.1]?
    if a < b then return .leave (-1)
    else if a > b then return .leave 1
    else return .again (state.1 + 1, state.2 - 1)
  else
    return .leave 0

/-- `wmemcmp()`. -/
def wmemcmp (ws1 ws2 : List ℤ) (n : ℕ) : Option ℤ := run (wmemcmpPass ws1 ws2) (n + 1) (0, n)

/-- `wmemcmp()` compares parts of the needle. -/
theorem isMemcmp_wmemcmp (needle : List ℤ) :
    IsMemcmp needle fun first second n => wmemcmp (needle.drop first) (needle.drop second) n := by
  intro offset n fits
  refine run_spec
    (fun state : ℕ × ℕ => state.1 + state.2 = n ∧
      ∀ i < state.1, needle[i]? = needle[i + offset]?) (fun state => state.2) _ ?_
    ⟨Nat.zero_add n, fun i below => absurd below (Nat.not_lt_zero i)⟩ (by simp)
  rintro ⟨i, left⟩ ⟨total, equal⟩
  simp only [wmemcmpPass, drop_zero, getElem?_drop, Nat.add_comm offset]
  by_cases more : left > 0
  · have atFirst := getElem?_eq_getElem (show i < needle.length by omega)
    have atSecond := getElem?_eq_getElem (show i + offset < needle.length by omega)
    simp only [atFirst, atSecond, bind_eq_bind, bind_some]
    split_ifs with less greater
    · refine ⟨_, rfl, iff_of_false (by decide) fun all => ?_⟩
      have same := all i (by omega)
      rw [atFirst, atSecond, some.injEq] at same
      omega
    · refine ⟨_, rfl, iff_of_false (by decide) fun all => ?_⟩
      have same := all i (by omega)
      rw [atFirst, atSecond, some.injEq] at same
      omega
    · refine ⟨_, rfl, ⟨by omega, fun j below => ?_⟩, by omega⟩
      rcases Nat.lt_succ_iff_lt_or_eq.mp below with earlier | rfl
      · exact equal j earlier
      · rw [atFirst, atSecond, some.injEq]
        omega
  · simp only [more, if_false]
    exact ⟨_, rfl, iff_of_true rfl fun j below => equal j (by omega)⟩

/-- `wcslen()`. -/
def wcslen (ws : NulString ℤ) : Option ℕ := run (endPass ws) (ws.chars.length + 1) 0

/-- `wcschr()`. -/
def wcschr (ws : NulString ℤ) (wc : ℤ) : Option (Option ℕ) :=
  run (strchrPass ws wc) (ws.chars.length + 1) 0

/-- `wcsstr()`: the offset of the needle `ws2` in the haystack `ws1`, or `NULL`. -/
def wcsstr (ws1 ws2 : NulString ℤ) : Option (Option ℕ) := do
  let ws2len ← wcslen ws2
  if ws2len = 0 then
    return some 0
  else if ws2len = 1 then
    let c ← ws2.read 0
    wcschr ws1 c
  else
    twoway ws2.chars ws1.chars (checkSpaceleft ws1 ws2len)
      (fun first second n => wmemcmp (ws2.chars.drop first) (ws2.chars.drop second) n) 0

theorem wcsstr_spec (ws1 ws2 : NulString ℤ) :
    ∃ found, wcsstr ws1 ws2 = some found ∧ IsFirstOccurrence ws2.chars ws1.chars found := by
  simp only [wcsstr, wcslen, run_endPass ws2 (Nat.zero_le _), bind_eq_bind, bind_some]
  split_ifs with empty single
  · exact ⟨some 0, rfl, fun i below => by omega, fun q before => absurd before (Nat.not_lt_zero q)⟩
  · obtain ⟨c, read, chars, nonzero⟩ := NulString.chars_eq_singleton single
    rw [read, chars, bind_some, wcschr]
    exact run_strchrPass ws1 nonzero
  · exact twoway_spec (by omega) (checkSpaceleft_spec ws2.chars ws1)
      (isMemcmp_wmemcmp ws2.chars) (Nat.zero_le _)

/-- **`strstr()` and `wcsstr()` return the first occurrence of the needle**, or `NULL` if there
is none, and read nothing outside the two strings. -/
theorem strstr_isFirstOccurrence :
    (∀ (sign : CharSign) (s1 : NulString UInt8) (s2 : StringBuffer), ∃ found,
      strstr sign s1 s2 = some found ∧ IsFirstOccurrence s2.chars s1.chars found) ∧
    (∀ ws1 ws2 : NulString ℤ, ∃ found,
      wcsstr ws1 ws2 = some found ∧ IsFirstOccurrence ws2.chars ws1.chars found) :=
  ⟨strstr_spec, wcsstr_spec⟩

end Cloudlibc.String
