import Cloudlibc.Foundations.Words

/-!
# Grouping of digits

The functions `numeric_grouping_init()` and `numeric_grouping_step()` of `common/locale.h`, which
tell for each digit of a number whether a separator precedes it. A grouping string has the sizes of
the groups from the right to the left; its last size repeats, and a negative entry ends the
grouping (`groupSizes`). The state of the functions has the sizes from the left to the right
(`plan`), so that the digits are printed in these groups (`groupDigits_eq`).
-/

set_option autoImplicit false

namespace Cloudlibc.Locale

open List Option

/-- `struct lc_numeric`, without the radix character. The grouping string does not have the null
byte at its end. -/
structure LcNumeric where
  thousandsSep : List Char
  grouping : Option (List ℤ)
  grouping_ne_zero : ∀ sizes ∈ grouping, ∀ size ∈ sizes, size ≠ 0

theorem none_ne_zero : ∀ sizes ∈ (none : Option (List ℤ)), ∀ size ∈ sizes, size ≠ 0 := by
  simp

/-- `struct numeric_grouping`, where the pointer into the grouping string is an index. -/
structure NumericGrouping where
  grouping : ℕ
  steps : ℕ
  repetitions : ℕ

/-- The loop of `numeric_grouping_init()` from entry `i` on. -/
def numericGroupingLoop : (entries : List ℤ) → (i ndigits ngroupings : ℕ) →
    Option (NumericGrouping × ℕ)
  | [], _, _, _ => none
  | size :: entries, i, ndigits, ngroupings =>
    if ndigits < 1 then
      none
    else if size < 0 ∨ ndigits ≤ size.toNat then
      some (⟨i, ndigits, 0⟩, ngroupings)
    else if entries = [] then
      some (⟨i, (ndigits - 1) % size.toNat + 1, (ndigits - 1) / size.toNat⟩,
        ngroupings + (ndigits - 1) / size.toNat)
    else
      numericGroupingLoop entries (i + 1) (ndigits - size.toNat) (ngroupings + 1)

/-- `numeric_grouping_init()`. -/
def numericGroupingInit (grouping : Option (List ℤ)) (ndigits : ℕ) :
    Option (NumericGrouping × ℕ) :=
  match grouping with
  | none => some (⟨0, 2 ^ 64 - 1, 0⟩, 0)
  | some entries =>
    if ndigits ≤ 1 ∨ entries = [] then some (⟨0, 2 ^ 64 - 1, 0⟩, 0)
    else numericGroupingLoop entries 0 ndigits 0

/-- `numeric_grouping_step()`. -/
def numericGroupingStep (grouping : Option (List ℤ)) (ng : NumericGrouping) :
    Option (Bool × NumericGrouping) := do
  if ng.steps ≠ 0 then
    return (false, { ng with steps := ng.steps - 1 })
  else
    let ng ←
      if ng.repetitions ≠ 0 then some { ng with repetitions := ng.repetitions - 1 }
      else if 0 < ng.grouping then some { ng with grouping := ng.grouping - 1 }
      else none
    let size ← (← grouping)[ng.grouping]?
    if 0 < size then
      return (true, { ng with steps := size.toNat - 1 })
    else
      none

section Digits

variable {α : Type}

/-- Digits with the separators between them. -/
def groupDigits (thousandsSep : α) (grouping : Option (List ℤ)) :
    NumericGrouping → List α → Option (List α)
  | _, [] => some []
  | ng, digit :: digits => do
      let (separator, ng) ← numericGroupingStep grouping ng
      let rest ← groupDigits thousandsSep grouping ng digits
      return (if separator then [thousandsSep] else []) ++ digit :: rest

/-! ## The groups of a number -/

/-- The sizes of the groups of a number of `n` digits, from the right to the left. -/
def groupSizes (entries : List ℤ) (n : ℕ) : List ℕ :=
  match entries with
  | [] => [n]
  | size :: entries =>
    if 0 < size ∧ size < n then
      size.toNat :: groupSizes (if entries = [] then [size] else entries) (n - size.toNat)
    else
      [n]
termination_by n
decreasing_by omega

/-- The digits of a number with a separator between its groups. -/
def grouped (separator : α) (entries : List ℤ) (digits : List α) : List α :=
  [separator].intercalate ((groupSizes entries digits.length).reverse.splitLengths digits)

theorem length_groupSizes_pos (entries : List ℤ) (n : ℕ) :
    0 < (groupSizes entries n).length := by
  cases entries with
  | nil =>
    rw [groupSizes]
    exact Nat.one_pos
  | cons size entries =>
    rw [groupSizes]
    by_cases more : 0 < size ∧ size < n
    · rw [if_pos more]
      exact Nat.succ_pos _
    · rw [if_neg more]
      exact Nat.one_pos

theorem groupSizes_singleton {size : ℕ} (positive : 0 < size) (n : ℕ) (digits : 0 < n) :
    groupSizes [(size : ℤ)] n =
      replicate ((n - 1) / size) size ++ [(n - 1) % size + 1] := by
  induction n using Nat.strong_induction_on with
  | _ n ih =>
    rw [groupSizes]
    by_cases more : size < n
    · rw [if_pos (by omega), if_pos rfl, Int.toNat_natCast, ih (n - size) (by omega) (by omega)]
      have quotient : (n - 1) / size = (n - size - 1) / size + 1 := by
        rw [show n - 1 = n - size - 1 + size by omega, Nat.add_div_right _ positive]
      have remainder : (n - 1) % size = (n - size - 1) % size := by
        rw [show n - 1 = n - size - 1 + size by omega, Nat.add_mod_right]
      rw [quotient, remainder, replicate_succ, cons_append]
    · rw [if_neg (by omega), Nat.div_eq_of_lt (by omega), Nat.mod_eq_of_lt (by omega),
        Nat.sub_add_cancel digits]
      rfl

/-! ## The state as a list of groups -/

/-- The sizes of the groups that are left, from the left to the right. The first one is the rest of
the group that has been started. -/
def plan (entries : List ℤ) (ng : NumericGrouping) : List ℕ :=
  ng.steps :: (List.replicate ng.repetitions (entries.getD ng.grouping 0).toNat ++
    ((entries.take ng.grouping).map Int.toNat).reverse)

/-- The entries that are left are sizes. -/
structure Ready (entries : List ℤ) (ng : NumericGrouping) : Prop where
  inside : ng.grouping < entries.length
  positive : ∀ size ∈ entries.take ng.grouping, 0 < size
  repeated : ng.repetitions ≠ 0 → 0 < entries.getD ng.grouping 0

/-- Digits in groups that each have a separator in front. -/
def spread (separator : α) (sizes : List ℕ) (digits : List α) : List α :=
  (sizes.splitLengths digits).flatMap (separator :: ·)

section Plan

variable {entries : List ℤ} {ng : NumericGrouping}

section

variable (ready : Ready entries ng)

include ready

theorem Ready.tail_pos : ∀ size ∈ (plan entries ng).tail, 0 < size := by
  intro size member
  rw [plan, List.tail_cons, List.mem_append, List.mem_replicate, List.mem_reverse,
    List.mem_map] at member
  obtain ⟨more, rfl⟩ | ⟨entry, found, rfl⟩ := member
  · have := ready.repeated more
    omega
  · have := ready.positive entry found
    omega

theorem numericGroupingStep_next {size : ℕ} {sizes : List ℕ}
    (planned : plan entries ng = 0 :: size :: sizes) :
    0 < size ∧ ∃ ng', numericGroupingStep (some entries) ng = some (true, ng') ∧
      Ready entries ng' ∧ plan entries ng' = (size - 1) :: sizes := by
  obtain ⟨i, steps, repetitions⟩ := ng
  obtain ⟨inside, positive, repeated⟩ := ready
  rw [plan, cons.injEq] at planned
  dsimp only at inside positive repeated planned
  obtain ⟨rfl, planned⟩ := planned
  cases repetitions with
  | succ repetitions =>
    have found : entries[i]? = some entries[i] := getElem?_eq_getElem inside
    have same : entries.getD i 0 = entries[i] := by
      rw [getD_eq_getElem?_getD, found]
      rfl
    have large : 0 < entries[i] := same ▸ repeated (Nat.succ_ne_zero _)
    rw [replicate_succ, cons_append, cons.injEq, same] at planned
    refine ⟨by omega, ⟨i, entries[i].toNat - 1, repetitions⟩, ?_,
      ⟨inside, positive, fun _ => same ▸ large⟩, ?_⟩
    · simp only [numericGroupingStep, found, bind_eq_bind, bind_some, if_pos large, Option.pure_def]
      rfl
    · simp only [plan, same, planned.1, ← planned.2]
  | zero =>
    cases i with
    | zero => simp at planned
    | succ i =>
      have before : i < entries.length := by omega
      rw [take_succ_eq_append_getElem before] at planned positive
      have large : 0 < entries[i] :=
        positive _ (mem_append_right _ (mem_singleton_self _))
      simp only [replicate_zero, nil_append, map_append, map_cons, map_nil, reverse_append,
        reverse_cons, reverse_nil, cons_append, cons.injEq] at planned
      refine ⟨by omega, ⟨i, entries[i].toNat - 1, 0⟩, ?_, ⟨before, fun size member =>
        positive size (List.mem_append_left _ member), fun some => absurd rfl some⟩, ?_⟩
      · simp only [numericGroupingStep, ne_eq, not_true_eq_false, if_false, Nat.zero_lt_succ,
          if_true, Nat.add_sub_cancel, List.getElem?_eq_getElem before, Option.bind_eq_bind,
          Option.bind_some, if_pos large, Option.pure_def]
      · simp only [plan, planned.1, ← planned.2, List.replicate_zero, List.nil_append]

/-- A plan of no digits is finished. -/
theorem Ready.finished (total : (plan entries ng).sum = 0) :
    ng.steps = 0 ∧ (plan entries ng).tail = [] := by
  have zero := sum_eq_zero_iff.mp total
  refine ⟨zero _ mem_cons_self, eq_nil_iff_forall_not_mem.mpr fun size member => ?_⟩
  have large := ready.tail_pos size member
  have := zero size (mem_of_mem_tail member)
  omega

/-- A step takes one digit of the plan, either of the group at hand or, behind a separator, of
the next one. -/
theorem numericGroupingStep_plan {n : ℕ} (total : (plan entries ng).sum = n + 1) :
    ∃ separated ng', numericGroupingStep (some entries) ng = some (separated, ng') ∧
      Ready entries ng' ∧ (plan entries ng').sum = n ∧
      (separated = false ∧ ng.steps = ng'.steps + 1 ∧
          (plan entries ng).tail = (plan entries ng').tail ∨
        separated = true ∧ ng.steps = 0 ∧
          (plan entries ng).tail = (ng'.steps + 1) :: (plan entries ng').tail) := by
  have sum (ng : NumericGrouping) :
      (plan entries ng).sum = ng.steps + (plan entries ng).tail.sum := rfl
  cases steps : ng.steps with
  | succ k =>
    refine ⟨false, { ng with steps := k }, ?_, ⟨ready.inside, ready.positive, ready.repeated⟩, ?_,
      Or.inl ⟨rfl, rfl, rfl⟩⟩
    · simp [numericGroupingStep, steps]
    · have moved := sum { ng with steps := k }
      have before := sum ng
      simp only [plan, tail_cons] at moved before total ⊢
      omega
  | zero =>
    cases left : (plan entries ng).tail with
    | nil =>
      rw [sum, left, steps] at total
      cases total
    | cons size sizes =>
      have planned : plan entries ng = 0 :: size :: sizes := by
        rw [← left, ← steps]
        rfl
      obtain ⟨large, ng', moved, ready', planned'⟩ := numericGroupingStep_next ready planned
      have steps' : ng'.steps = size - 1 := (cons.inj planned').1
      refine ⟨true, ng', moved, ready', ?_, Or.inr ⟨rfl, rfl, ?_⟩⟩
      · rw [planned] at total
        rw [planned']
        simp only [sum_cons] at total ⊢
        omega
      · rw [planned', steps', Nat.sub_add_cancel large, tail_cons]

end

theorem groupDigits_plan (separator : α) (digits : List α) :
    ∀ {ng : NumericGrouping}, Ready entries ng → (plan entries ng).sum = digits.length →
      groupDigits separator (some entries) ng digits =
        some (digits.take ng.steps ++
          spread separator (plan entries ng).tail (digits.drop ng.steps)) := by
  induction digits with
  | nil =>
    intro ng ready total
    rw [(ready.finished total).2]
    simp [groupDigits, spread]
  | cons digit digits ih =>
    intro ng ready total
    obtain ⟨separated, ng', moved, ready', total', next⟩ := numericGroupingStep_plan ready total
    simp only [groupDigits, moved, ih ready' total', bind_eq_bind, bind_some, Option.pure_def]
    obtain ⟨rfl, steps, tail⟩ | ⟨rfl, steps, tail⟩ := next <;> rw [steps, tail] <;> simp [spread]

end Plan

/-! ## The start state -/

/-- The loop finds the groups of the number. -/
theorem numericGroupingLoop_plan {all : List ℤ} (nonzero : ∀ size ∈ all, size ≠ 0)
    (entries : List ℤ) : ∀ {i n ngroupings : ℕ}, 0 < n → entries ≠ [] → all.drop i = entries →
      (∀ size ∈ all.take i, 0 < size) →
      ∃ ng, numericGroupingLoop entries i n ngroupings =
          some (ng, ngroupings + ((groupSizes entries n).length - 1)) ∧ Ready all ng ∧
        plan all ng = (groupSizes entries n).reverse ++
          ((all.take i).map Int.toNat).reverse := by
  induction entries with
  | nil =>
    intro i n ngroupings _ nonempty
    exact absurd rfl nonempty
  | cons size entries ih =>
    intro i n ngroupings digits _ left before
    have inside : i < all.length := by
      by_contra outside
      rw [drop_eq_nil_of_le (Nat.not_lt.mp outside)] at left
      cases left
    rw [drop_eq_getElem_cons inside, cons.injEq] at left
    obtain ⟨rfl, left⟩ := left
    have entry : all[i] ≠ 0 := nonzero _ (getElem_mem inside)
    have same : all.getD i 0 = all[i] := by
      rw [getD_eq_getElem?_getD, getElem?_eq_getElem inside]
      rfl
    rw [numericGroupingLoop, if_neg (by omega)]
    by_cases last : all[i] < 0 ∨ n ≤ all[i].toNat
    · have sizes : groupSizes (all[i] :: entries) n = [n] := by
        rw [groupSizes, if_neg (by omega)]
      rw [if_pos last, sizes]
      exact ⟨_, rfl, ⟨inside, before, fun some => absurd rfl some⟩, rfl⟩
    · rw [if_neg last]
      have large : 0 < all[i] := by omega
      by_cases final : entries = []
      · obtain ⟨size, value⟩ := Int.eq_ofNat_of_zero_le large.le
        have positive : 0 < size := by omega
        rw [final, value, if_pos rfl, Int.toNat_natCast, groupSizes_singleton positive n digits]
        refine ⟨⟨i, (n - 1) % size + 1, (n - 1) / size⟩, ?_,
          ⟨inside, before, fun _ => same ▸ large⟩, ?_⟩
        · rw [length_append, length_replicate, length_singleton, Nat.add_sub_cancel]
        · simp only [plan, same, value, Int.toNat_natCast, reverse_append,
            reverse_singleton, reverse_replicate, cons_append, nil_append]
      · have sizes : groupSizes (all[i] :: entries) n =
            all[i].toNat :: groupSizes entries (n - all[i].toNat) := by
          rw [groupSizes, if_pos (by omega), if_neg final]
        have shorter : all.take (i + 1) = all.take i ++ [all[i]] :=
          take_succ_eq_append_getElem inside
        obtain ⟨ng, looped, ready, planned⟩ := @ih (i + 1) (n - all[i].toNat) (ngroupings + 1)
          (by omega) final left (by
            intro size member
            rw [shorter, mem_append, mem_singleton] at member
            obtain earlier | rfl := member
            · exact before size earlier
            · exact large)
        have nonempty := length_groupSizes_pos entries (n - all[i].toNat)
        rw [if_neg final, looped, sizes]
        refine ⟨ng, ?_, ready, ?_⟩
        · rw [length_cons]
          congr 2
          omega
        · rw [planned, shorter]
          simp only [map_append, map_cons, map_nil, reverse_append,
            reverse_cons, reverse_nil, nil_append, append_assoc]

theorem sum_groupSizes (entries : List ℤ) (n : ℕ) : (groupSizes entries n).sum = n := by
  induction n using Nat.strong_induction_on generalizing entries with
  | _ n ih =>
    cases entries with
    | nil =>
      rw [groupSizes]
      exact Nat.add_zero _
    | cons size entries =>
      rw [groupSizes]
      by_cases more : 0 < size ∧ size < n
      · rw [if_pos more, sum_cons, ih _ (by omega)]
        omega
      · rw [if_neg more]
        exact Nat.add_zero _

/-- There are not more groups than digits, if there is a digit. -/
theorem length_groupSizes_le (entries : List ℤ) (n : ℕ) :
    (groupSizes entries n).length ≤ n + 1 := by
  induction n using Nat.strong_induction_on generalizing entries with
  | _ n ih =>
    cases entries with
    | nil =>
      rw [groupSizes, length_singleton]
      omega
    | cons size entries =>
      rw [groupSizes]
      by_cases more : 0 < size ∧ size < n
      · have shorter := ih (n - size.toNat) (by omega) (if entries = [] then [size] else entries)
        rw [if_pos more, length_cons]
        omega
      · rw [if_neg more, length_singleton]
        omega

/-- A number that is too short for groups. -/
theorem groupSizes_of_le_one (entries : List ℤ) {n : ℕ} (short : n ≤ 1) :
    groupSizes entries n = [n] := by
  cases entries with
  | nil => rw [groupSizes]
  | cons size entries => rw [groupSizes, if_neg (by omega)]

/-- The digits of a number with few digits are printed without separators. -/
theorem groupDigits_of_length_le (separator : α) (grouping : Option (List ℤ))
    (digits : List α) : ∀ {ng : NumericGrouping}, digits.length ≤ ng.steps →
      groupDigits separator grouping ng digits = some digits := by
  induction digits with
  | nil => exact fun _ => rfl
  | cons digit digits ih =>
    intro ng enough
    rw [length_cons] at enough
    have moved : numericGroupingStep grouping ng =
        some (false, { ng with steps := ng.steps - 1 }) := by
      rw [numericGroupingStep, if_pos (by omega)]
      rfl
    have rest := @ih { ng with steps := ng.steps - 1 } (show digits.length ≤ ng.steps - 1 by omega)
    simp only [groupDigits, moved, rest, Option.bind_eq_bind, Option.bind_some, Option.pure_def]
    rfl

/-- Every group but the first has a separator in front, whatever is added up. -/
theorem sum_map_grouped (weight : α → ℕ) (separator : α) (entries : List ℤ) (digits : List α) :
    ((grouped separator entries digits).map weight).sum = (digits.map weight).sum +
      ((groupSizes entries digits.length).length - 1) * weight separator := by
  have sum : ((groupSizes entries digits.length).reverse.splitLengths digits).flatten = digits :=
    flatten_splitLengths _ _ (by rw [sum_reverse, sum_groupSizes])
  have lengths : ((groupSizes entries digits.length).reverse.splitLengths digits).length =
      (groupSizes entries digits.length).length := by
    rw [length_splitLengths, length_reverse]
  rw [grouped]
  cases split : (groupSizes entries digits.length).reverse.splitLengths digits with
  | nil =>
    have := length_groupSizes_pos entries digits.length
    rw [split, length_nil] at lengths
    omega
  | cons first others =>
    rw [split, length_cons] at lengths
    rw [split, flatten_cons] at sum
    rw [Words.intercalate_singleton_cons, ← lengths, Nat.add_sub_cancel, ← sum, map_append,
      map_append, sum_append, sum_append, Nat.add_assoc]
    congr 1
    clear lengths sum split
    induction others with
    | nil => simp
    | cons word words ih =>
      rw [flatMap_cons, map_append, sum_append, ih, flatten_cons, map_append, sum_append,
        map_cons, sum_cons, length_cons, Nat.succ_mul]
      omega

theorem length_grouped (separator : α) (entries : List ℤ) (digits : List α) :
    (grouped separator entries digits).length =
      digits.length + ((groupSizes entries digits.length).length - 1) := by
  simpa using sum_map_grouped (fun _ => 1) separator entries digits

/-- More digits have at least as many groups. -/
theorem length_groupSizes_mono {n m : ℕ} (entries : List ℤ) (le : n ≤ m) :
    (groupSizes entries n).length ≤ (groupSizes entries m).length := by
  induction n using Nat.strong_induction_on generalizing m entries with
  | _ n ih =>
    cases entries with
    | nil => rw [groupSizes, groupSizes]; rfl
    | cons size entries =>
      have positive := length_groupSizes_pos (size :: entries) m
      by_cases more : 0 < size ∧ size < n
      · have first : ∀ k : ℕ, size < k → (groupSizes (size :: entries) k).length = (groupSizes
            (if entries = [] then [size] else entries) (k - size.toNat)).length + 1 := by
          intro k less
          rw [groupSizes, if_pos ⟨more.1, less⟩, length_cons]
        rw [first n more.2, first m (by omega)]
        exact Nat.succ_le_succ (ih (n - size.toNat) (by omega) _ (by omega))
      · rw [groupSizes, if_neg more]
        exact positive

variable {digits : List α}

/-- A number in one group. -/
theorem grouped_of_single {separator : α} {entries : List ℤ}
    (single : groupSizes entries digits.length = [digits.length]) :
    grouped separator entries digits = digits := by
  rw [grouped, single]
  simp [splitLengths_cons]

theorem groupSizes_pos (entries : List ℤ) {n : ℕ} (positive : 0 < n) :
    ∀ size ∈ groupSizes entries n, 0 < size := by
  induction n using Nat.strong_induction_on generalizing entries with
  | _ n ih =>
    cases entries with
    | nil =>
      rw [groupSizes]
      exact forall_mem_singleton.mpr positive
    | cons size entries =>
      rw [groupSizes]
      by_cases more : 0 < size ∧ size < n
      · rw [if_pos more]
        exact forall_mem_cons.mpr ⟨by omega, ih _ (by omega) _ (by omega)⟩
      · rw [if_neg more]
        exact forall_mem_singleton.mpr positive

theorem intercalate_ends (separator : α) {pieces : List (List α)}
    (nonempty : ∀ piece ∈ pieces, piece ≠ []) :
    ([separator].intercalate pieces).head? = pieces.flatten.head? ∧
      ([separator].intercalate pieces).getLast? = pieces.flatten.getLast? := by
  induction pieces with
  | nil => exact ⟨rfl, rfl⟩
  | cons piece pieces ih =>
    obtain ⟨written, others⟩ := forall_mem_cons.mp nonempty
    cases pieces with
    | nil => simp
    | cons next rest =>
      have more : (next :: rest).flatten ≠ [] := by
        intro empty
        exact others next mem_cons_self
          (flatten_eq_nil_iff.mp empty next mem_cons_self)
      have joined : [separator].intercalate (next :: rest) ≠ [] := by
        intro empty
        have same := (ih others).1
        rw [empty] at same
        exact more (head?_eq_none_iff.mp same.symm)
      rw [intercalate_cons_cons, append_assoc, flatten_cons,
        head?_append_of_ne_nil _ written, head?_append_of_ne_nil _ written,
        getLast?_append_of_ne_nil _ (by simp), getLast?_append_of_ne_nil _ joined,
        getLast?_append_of_ne_nil _ more]
      exact ⟨rfl, (ih others).2⟩

/-- A grouped number begins and ends with its own digits. -/
theorem grouped_ends (separator : α) (entries : List ℤ) (written : digits ≠ []) :
    (grouped separator entries digits).head? = digits.head? ∧
      (grouped separator entries digits).getLast? = digits.getLast? := by
  have sum : (groupSizes entries digits.length).reverse.sum = digits.length := by
    rw [sum_reverse, sum_groupSizes]
  have nonempty : ∀ piece ∈ (groupSizes entries digits.length).reverse.splitLengths digits,
      piece ≠ [] := by
    intro piece member
    have sizes := map_splitLengths_length digits _ sum.le
    have size := sizes ▸ mem_map_of_mem (f := length) member
    have positive := groupSizes_pos entries (length_pos_iff.mpr written) _
      (mem_reverse.mp size)
    exact length_pos_iff.mp positive
  have ends := intercalate_ends separator nonempty
  rw [flatten_splitLengths _ _ sum.ge] at ends
  exact ends

/-- **The digits of a number are printed in the groups of the grouping string**, and the number of
separators is the one that `numeric_grouping_init()` returns. -/
theorem groupDigits_eq (numeric : LcNumeric) (enabled : Bool) (separator : α)
    (short : digits.length < 2 ^ 64) :
    ∃ ng, numericGroupingInit (if enabled then numeric.grouping else none) digits.length =
        some (ng, (groupSizes (if enabled then numeric.grouping.getD [] else [])
          digits.length).length - 1) ∧
      groupDigits separator (if enabled then numeric.grouping else none) ng digits =
        some (grouped separator
          (if enabled then numeric.grouping.getD [] else []) digits) := by
  have none : ∀ entries : List ℤ, groupSizes entries digits.length = [digits.length] →
      ∀ grouping, numericGroupingInit grouping digits.length = some (⟨0, 2 ^ 64 - 1, 0⟩, 0) →
      ∃ ng, numericGroupingInit grouping digits.length =
          some (ng, (groupSizes entries digits.length).length - 1) ∧
        groupDigits separator grouping ng digits = some (grouped separator entries digits) := by
    intro entries single grouping started
    refine ⟨_, by rw [started, single]; rfl, ?_⟩
    rw [grouped_of_single single]
    exact groupDigits_of_length_le separator grouping digits (Nat.le_sub_one_of_lt short)
  have empty : groupSizes [] digits.length = [digits.length] := by rw [groupSizes]
  cases enabled with
  | false => exact none [] empty _ rfl
  | true =>
    rw [if_pos rfl, if_pos rfl]
    cases found : numeric.grouping with
    | none => exact none [] empty _ rfl
    | some entries =>
      by_cases few : digits.length ≤ 1 ∨ entries = []
      · refine none entries ?_ _ (if_pos few)
        obtain few | rfl := few
        · exact groupSizes_of_le_one entries few
        · exact empty
      · rw [not_or] at few
        obtain ⟨ng, looped, ready, planned⟩ := @numericGroupingLoop_plan entries
          (numeric.grouping_ne_zero entries found) entries 0 digits.length 0 (by omega) few.2
          rfl (by simp)
        rw [Nat.zero_add] at looped
        rw [take_zero, map_nil, reverse_nil, append_nil] at planned
        refine ⟨ng, ?_, ?_⟩
        · rw [numericGroupingInit, if_neg (by tauto), looped]
          rfl
        · have total : (plan entries ng).sum = digits.length := by
            rw [planned, sum_reverse, sum_groupSizes]
          rw [groupDigits_plan separator digits ready total, grouped, getD_some, ← planned,
            show plan entries ng = ng.steps :: (plan entries ng).tail from rfl,
            splitLengths_cons, Words.intercalate_singleton_cons]
          rfl

end Digits

end Cloudlibc.Locale
