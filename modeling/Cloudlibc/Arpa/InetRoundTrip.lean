import Cloudlibc.Arpa.InetZeroes
import Cloudlibc.Foundations.Words

/-!
# Round trips of internet addresses

The parser of an IPv6 address stores the groups in front of the `::` and those behind it one after
the other, with room for two groups between them (`Phase`). It reads the text of every address back
(`Formats.accepts`), so that `inet_pton()` inverts `inet_ntop()` (`inetPton_inetNtop`). The text
itself is `addressText`: hexadecimal groups and a dotted quad at the end for addresses that hold an
IPv4 address, where the groups that are left out can reach into the quad
(`inetNtopInet6_swallows`).
-/

set_option autoImplicit false

namespace Cloudlibc.Arpa

open Cloudlibc.Loop List Option

/-! ## The array of the parser -/

/-- Byte `k` of an address. -/
def byteAt (src : In6Addr) (k : ℕ) : UInt8 :=
  if inside : k < 16 then src ⟨k, inside⟩ else 0

/-- The bytes of an address as the parser stores them: two groups stand for the series of zeroes. -/
def storedByte (src : In6Addr) (best : Zeroes) (k : ℕ) : UInt8 :=
  if k < 2 * best.start then byteAt src k
  else if k < 2 * (best.start + 2) then 0
  else byteAt src (k + 2 * best.len - 4)

/-- The array has the first groups of some contents. -/
def Holds (addr contents : ℕ → UInt8) (groups : ℕ) : Prop :=
  ∀ k < 2 * groups, addr k = contents k

/-- The parser has read the groups below `i`: there was no `::` yet, or there was one. -/
inductive Phase (src : In6Addr) (best : Zeroes) (i : ℕ) : ℕ → ℕ → (ℕ → UInt8) → Prop
  | before {addr : ℕ → UInt8} (holds : Holds addr (byteAt src) i)
      (empty : ∀ k ≥ 2 * i, addr k = 0) : Phase src best i 8 i addr
  | after {groups : ℕ} {addr : ℕ → UInt8} (long : best.len > 1)
      (passed : best.start + best.len ≤ i) (count : groups + best.len = i + 2)
      (holds : Holds addr (storedByte src best) groups) :
      Phase src best i best.start groups addr

/-- Storing bytes keeps the others. -/
theorem storeBytes_eq (addr : ℕ → UInt8) {start : ℕ} {bytes : List UInt8}
    (fits : start + bytes.length ≤ 16) :
    ∃ addr', storeBytes addr start bytes = some addr' ∧
      (∀ k < bytes.length, addr' (start + k) = (bytes[k]?).getD (addr (start + k))) ∧
      ∀ k, k < start ∨ start + bytes.length ≤ k → addr' k = addr k := by
  refine ⟨_, if_pos fits, ?_, ?_⟩
  · intro k inside
    rw [if_pos (Nat.le_add_right _ _), Nat.add_sub_cancel_left]
  · rintro k (low | high)
    · rw [if_neg (Nat.not_le.mpr low)]
    · rw [if_pos (by omega), getElem?_eq_none (by omega)]
      rfl

theorem storeBytes_holds {addr contents : ℕ → UInt8} {groups : ℕ} (count : ℕ)
    (bytes : List UInt8) (holds : Holds addr contents groups) (size : bytes.length = 2 * count)
    (fits : groups + count ≤ 8)
    (same : ∀ k < bytes.length, bytes[k]? = some (contents (groups * 2 + k))) :
    ∃ addr', storeBytes addr (groups * 2) bytes = some addr' ∧
      Holds addr' contents (groups + count) ∧
      ∀ k ≥ 2 * (groups + count), addr' k = addr k := by
  obtain ⟨addr', stored, inside, outside⟩ :=
    storeBytes_eq addr (show groups * 2 + bytes.length ≤ 16 by omega)
  refine ⟨addr', stored, ?_, fun k above => outside k (.inr (by omega))⟩
  intro k below
  by_cases low : k < groups * 2
  · rw [outside k (.inl low)]
    exact holds k (by omega)
  · obtain ⟨offset, rfl⟩ := Nat.exists_eq_add_of_le (Nat.not_lt.mp low)
    have small : offset < bytes.length := by omega
    rw [inside offset small, same offset small]
    rfl

section Reading

variable {src : In6Addr} {best : Zeroes} {i leading groups : ℕ} {addr : ℕ → UInt8}

theorem byteAt_of_lt (src : In6Addr) {k : ℕ} (inside : k < 16) : byteAt src k = src ⟨k, inside⟩ :=
  dif_pos inside

theorem lt_of_groupsOf {group : ℕ} (found : (groupsOf src)[i]? = some group) : i < 8 :=
  length_groupsOf src ▸ (List.getElem?_eq_some_iff.mp found).1

theorem groupBytes {group : ℕ} (found : (groupsOf src)[i]? = some group) :
    .ofNat (group >>> 8) = byteAt src (2 * i) ∧ .ofNat group = byteAt src (2 * i + 1) := by
  have inside := lt_of_groupsOf found
  have value := getElem?_groupsOf src ⟨i, inside⟩
  rw [found, some.injEq] at value
  dsimp only at value
  have high := (src ⟨i * 2, by omega⟩).toNat_lt
  have low := (src ⟨i * 2 + 1, by omega⟩).toNat_lt
  rw [byteAt_of_lt src (show 2 * i < 16 by omega), byteAt_of_lt src (show 2 * i + 1 < 16 by omega)]
  simp only [Nat.mul_comm 2 i]
  constructor
  · rw [← UInt8.toNat_inj, UInt8.toNat_ofNat', Nat.shiftRight_eq_div_pow, value]
    omega
  · rw [← UInt8.toNat_inj, UInt8.toNat_ofNat', value]
    omega

/-- A phase as a statement about the array. -/
theorem Phase.cases (phase : Phase src best i leading groups addr) :
    ∃ contents, Holds addr contents groups ∧ groups ≤ i ∧
      (∀ k, contents (groups * 2 + k) = byteAt src (2 * i + k)) ∧
      ∀ count addr', Holds addr' contents (groups + count) →
        (∀ k ≥ 2 * (groups + count), addr' k = addr k) →
        Phase src best (i + count) leading (groups + count) addr' := by
  cases phase with
  | before holds empty =>
    refine ⟨byteAt src, holds, le_rfl, fun k => by rw [Nat.mul_comm], ?_⟩
    intro count addr' holds' same
    refine .before holds' fun k above => ?_
    rw [same k above]
    exact empty k (by omega)
  | after long passed count holds =>
    refine ⟨storedByte src best, holds, by omega, ?_, ?_⟩
    · intro k
      rw [storedByte, if_neg (by omega), if_neg (by omega)]
      congr 1
      omega
    · intro count' addr' holds' same
      exact .after long (by omega) (by omega) holds'

/-- The parser stores the next group. -/
theorem Phase.store (phase : Phase src best i leading groups addr) {group : ℕ}
    (found : (groupsOf src)[i]? = some group) :
    ∃ addr', storeBytes addr (groups * 2) [.ofNat (group >>> 8), .ofNat group] = some addr' ∧
      Phase src best (i + 1) leading (groups + 1) addr' := by
  have inside := lt_of_groupsOf found
  obtain ⟨contents, holds, bound, bytes, next⟩ := phase.cases
  obtain ⟨high, low⟩ := groupBytes found
  obtain ⟨addr', stored, holds', same⟩ := storeBytes_holds
    1 [.ofNat (group >>> 8), .ofNat group] holds rfl (by omega) (by
      rintro (_ | _ | k) small
      · rw [bytes, Nat.add_zero, ← high]
        rfl
      · rw [bytes, ← low]
        rfl
      · simp at small)
  exact ⟨addr', stored, next 1 addr' holds' same⟩

/-- The parser stores a dotted quad, over what it has stored for the digits of its first byte. -/
theorem Phase.storeQuad (phase : Phase src best 6 leading groups addr) (number : ℕ) :
    ∃ addr' addr'',
      storeBytes addr (groups * 2) [.ofNat (number >>> 8), .ofNat number] = some addr' ∧
      storeBytes addr' (groups * 2) [src 12, src 13, src 14, src 15] = some addr'' ∧
      Phase src best 8 leading (groups + 2) addr'' := by
  obtain ⟨contents, holds, bound, bytes, next⟩ := phase.cases
  obtain ⟨addr', stored, -, outside⟩ := storeBytes_eq addr
    (show groups * 2 + [UInt8.ofNat (number >>> 8), .ofNat number].length ≤ 16 by
      simp only [length_cons, length_nil]
      omega)
  have holds' : Holds addr' contents groups := by
    intro k below
    rw [outside k (.inl (by omega))]
    exact holds k below
  obtain ⟨addr'', stored', holds'', same⟩ := storeBytes_holds 2 [src 12, src 13, src 14, src 15]
    holds' rfl (by omega) (by
      rintro (_ | _ | _ | _ | k) small
      · rw [bytes]
        rfl
      · rw [bytes]
        rfl
      · rw [bytes]
        rfl
      · rw [bytes]
        rfl
      · simp at small
        omega)
  refine ⟨addr', addr'', stored, stored', next 2 addr'' holds'' fun k above => ?_⟩
  rw [same k above]
  exact outside k (.inr (by simp only [length_cons, length_nil]; omega))

/-- The groups of the series are zero. -/
def IsZero (src : In6Addr) (best : Zeroes) : Prop :=
  best.len > 1 → best.start + best.len ≤ 8 ∧
    ∀ k, 2 * best.start ≤ k → k < 2 * (best.start + best.len) → byteAt src k = 0

/-- The address of an array with all groups. -/
theorem Phase.gather (phase : Phase src best 8 leading groups addr) (zero : IsZero src best)
    (text : List Char) : gather ⟨addr, leading, groups, text⟩ = some (some src) := by
  cases phase with
  | before holds empty =>
    rw [Arpa.gather, if_neg (Nat.lt_irrefl _), if_pos le_rfl]
    congr 2
    funext k
    dsimp only
    rw [if_neg (by omega), if_pos (by omega), holds k (by omega), byteAt_of_lt src k.isLt]
  | after long passed count holds =>
    obtain ⟨inside, zeroes⟩ := zero long
    rw [Arpa.gather, if_neg (by dsimp only; omega), if_pos (by dsimp only; omega)]
    congr 2
    funext k
    dsimp only
    have bound := k.isLt
    have byte : src k = byteAt src k := (byteAt_of_lt src bound).symm
    rw [byte]
    split_ifs with trailing front
    · rw [holds _ (by omega), storedByte, if_neg (by omega)]
      split_ifs with gap
      · exact (zeroes k (by omega) (by omega)).symm
      · congr 1
        omega
    · rw [holds k (by omega), storedByte, if_pos (by omega)]
    · exact (zeroes k (by omega) (by omega)).symm

/-- The address of an array whose groups end with the series of zeroes. -/
theorem gather_front (holds : Holds addr (byteAt src) best.start) (zero : IsZero src best)
    (long : best.len > 1) (ends : best.start + best.len = 8) (text : List Char) :
    gather ⟨addr, best.start, best.start, text⟩ = some (some src) := by
  obtain ⟨inside, zeroes⟩ := zero long
  rw [gather, if_neg (Nat.lt_irrefl _), if_pos (by dsimp only; omega)]
  congr 2
  funext k
  have bound := k.isLt
  have byte : src k = byteAt src k := (byteAt_of_lt src bound).symm
  dsimp only
  rw [byte, if_neg (by omega)]
  split_ifs with front
  · exact holds k (by omega)
  · exact (zeroes k (by omega) (by omega)).symm

/-! ## The parser reads the text of an address -/

/-- A pass leads to the address. -/
def Accepts (src : In6Addr) (fuel : ℕ) (pass : Option (Pass Pton6 (Option Pton6))) : Prop :=
  match pass with
  | some (.leave (some final)) => gather final = some (some src)
  | some (.again next) => ∃ final, run pton6Pass fuel next = some (some final) ∧
      gather final = some (some src)
  | _ => False

theorem Accepts.run {fuel : ℕ} {state : Pton6} (accepts : Accepts src fuel (pton6Pass state)) :
    ∃ final, run pton6Pass (fuel + 1) state = some (some final) ∧
      Arpa.gather final = some (some src) := by
  rw [Loop.run]
  cases pass : pton6Pass state with
  | none =>
    rw [pass] at accepts
    exact accepts.elim
  | some pass' =>
    rw [pass] at accepts
    cases pass' with
    | again next => exact accepts
    | leave final =>
      cases final with
      | none => exact accepts.elim
      | some final => exact ⟨final, rfl, accepts⟩

variable {text : List Char} {ipv4 : Bool}

/-- What follows the digits of a group in the text of an address. -/
theorem Formats.noXdigit (formats : Formats src best ipv4 i false text) : NoXdigit text := by
  cases formats <;> rfl

variable {stripColon : Bool}

theorem Formats.eq_eight (formats : Formats src best ipv4 i stripColon []) : i = 8 := by
  generalize text : ([] : List Char) = text at formats
  cases formats with
  | done => rfl
  | quad => simp [printQuad] at text
  | compress => cases text
  | @group _ group =>
    obtain ⟨digit, -, rest, split⟩ := printNumber_eq_cons group (show 1 < 16 by decide) le_rfl
    simp [split] at text

theorem Formats.lt_eight (zero : IsZero src best)
    (formats : Formats src best ipv4 i stripColon text) (nonempty : text ≠ []) : i < 8 := by
  cases formats with
  | done => exact absurd rfl nonempty
  | quad => decide
  | compress _ starts long =>
    obtain ⟨inside, -⟩ := zero long
    omega
  | group _ _ found => exact lt_of_groupsOf found

/-- The first character of a group is not a colon. -/
theorem digitChar_ne_colon : ∀ digit < 16, Nat.digitChar digit ≠ ':' := by
  decide

theorem pton6Separator_colon {base n : ℕ} (two : 1 < base) (small : base ≤ 16)
    (groupStart text : List Char) (more : groups + 1 < 8) :
    pton6Separator groupStart ⟨addr, leading, groups, ':' :: (printNumber base n ++ text)⟩ =
      some (.again ⟨addr, leading, groups + 1, printNumber base n ++ text⟩) := by
  obtain ⟨digit, xdigit, rest, split⟩ := printNumber_eq_cons n two small
  have notColon := digitChar_ne_colon digit xdigit
  rw [split, cons_append, pton6Separator]
  have more' : ¬ groups + 1 ≥ 8 := Nat.not_le.mpr more
  split
  · next found =>
      simp only [cons.injEq, true_and] at found
      exact absurd found.1 notColon
  · next found =>
      simp only [cons.injEq, true_and] at found
      subst found
      rw [nextGroup, if_neg more']
      rfl
  · next found => cases found
  · next notColon' found =>
      exact absurd (cons.inj found).1.symm notColon'

/-- The text of an address from group `i` on is accepted: behind the digits of another group, and
where a group starts. -/
def AcceptsText (src : In6Addr) (best : Zeroes) (i : ℕ) (stripColon : Bool) (text : List Char) :
    Prop :=
  (∀ fuel leading groups addr groupStart, stripColon = false →
    Phase src best i leading (groups + 1) addr → 7 - groups < fuel →
    Accepts src fuel (pton6Separator groupStart ⟨addr, leading, groups, text⟩)) ∧
  ∀ fuel leading groups addr body, text = colon stripColon ++ body → body ≠ [] →
    ¬ (i = best.start ∧ best.len > 1) → Phase src best i leading groups addr → 7 - groups < fuel →
    Accepts src fuel (pton6Pass ⟨addr, leading, groups, body⟩)

theorem acceptsText_of_head {base n : ℕ} (two : 1 < base) (small : base ≤ 16) {rest : List Char}
    (stripColon : Bool) (bound : i < 8)
    (head : ∀ fuel leading groups addr, Phase src best i leading groups addr → 7 - groups < fuel →
      Accepts src fuel (pton6Pass ⟨addr, leading, groups, printNumber base n ++ rest⟩)) :
    AcceptsText src best i stripColon (colon stripColon ++ (printNumber base n ++ rest)) := by
  constructor
  · rintro fuel leading groups addr groupStart rfl phase enough
    obtain ⟨-, -, count, -⟩ := phase.cases
    cases fuel with
    | zero => cases enough
    | succ fuel =>
      show Accepts src (fuel + 1) (pton6Separator groupStart
        ⟨addr, leading, groups, ':' :: (printNumber base n ++ rest)⟩)
      rw [pton6Separator_colon two small groupStart rest (by omega)]
      exact (head fuel leading (groups + 1) addr phase (by omega)).run
  · intro fuel leading groups addr body same _ _ phase enough
    obtain rfl := append_cancel_left same
    exact head fuel leading groups addr phase enough

/-- **The parser accepts the text of an address.** -/
theorem Formats.accepts (zero : IsZero src best)
    (formats : Formats src best ipv4 i stripColon text) :
    AcceptsText src best i stripColon text := by
  induction formats with
  | done strip =>
    constructor
    · intro fuel leading groups addr groupStart _ phase enough
      exact phase.gather zero []
    · intro fuel leading groups addr body same nonempty
      exact absurd (append_eq_nil_iff.mp same.symm).2 nonempty
  | quad strip tail =>
    refine acceptsText_of_head (by decide) (by decide) strip (by decide) ?_
    intro fuel leading groups addr phase enough
    obtain ⟨number, read⟩ := groupLoop_octet (src 12) (printNumber 10 (src 13).toNat ++
      '.' :: (printNumber 10 (src 14).toNat ++ '.' :: printNumber 10 (src 15).toNat))
    obtain ⟨addr', addr'', stored, stored', next⟩ := phase.storeQuad number
    obtain ⟨-, -, count, -⟩ := phase.cases
    have parsed := inetPton4_print (src 12) (src 13) (src 14) (src 15)
    rw [printQuad] at parsed
    rw [pton6Pass, read]
    simp only [stored, bind_eq_bind, bind_some, pton6Separator,
      if_neg (show ¬ groups > 8 - 2 by omega), parsed, stored']
    exact next.gather zero _
  | @compress i strip text noQuad starts long rest ih =>
    subst starts
    constructor
    · intro fuel leading groups addr groupStart _ phase enough
      obtain ⟨inside, -⟩ := zero long
      generalize count : groups + 1 = groups' at phase
      cases phase with
      | after _ passed => omega
      | before holds empty =>
        have once : ¬ 8 < groups + 1 := by omega
        simp only [pton6Separator, if_neg once]
        by_cases ends : text = []
        · subst ends
          have last : best.start + best.len = 8 := rest.eq_eight
          rw [if_neg (show ¬ groups + 1 > 8 - 2 by omega), count]
          exact gather_front holds zero long last []
        · have more := rest.lt_eight zero ends
          rw [if_neg ends, nextGroup, if_neg (show ¬ groups + 1 + 2 ≥ 8 by omega), count]
          cases fuel with
          | zero => cases enough
          | succ fuel =>
            refine (ih.2 fuel best.start (best.start + 2) addr text rfl ends (by omega)
              (.after long le_rfl (by omega) ?_) (by omega)).run
            intro k below
            rw [storedByte]
            split_ifs with front
            · exact holds k front
            · exact empty k (by omega)
    · intro fuel leading groups addr body _ _ noRun
      exact absurd ⟨rfl, long⟩ noRun
  | @group i group strip text noQuad noRun found rest ih =>
    have inside := lt_of_groupsOf found
    refine acceptsText_of_head (by decide) (by decide) strip inside ?_
    intro fuel leading groups addr phase enough
    obtain ⟨addr', stored, next⟩ := phase.store found
    rw [pton6Pass, groupLoop_print (group_lt found) rest.noXdigit]
    simp only [stored, bind_eq_bind, bind_some]
    exact ih.1 fuel leading groups addr' _ rfl next enough

end Reading

variable {best : Zeroes} {src : In6Addr}

/-- The parser reads the text of a whole address. -/
theorem inetPton6_formats {ipv4 : Bool} {text : List Char} (zero : IsZero src best)
    (formats : Formats src best ipv4 0 true text) : inetPton6 text = some (some src) := by
  generalize first : 0 = i at formats
  cases formats with
  | done => cases first
  | quad => cases first
  | @compress _ _ text _ starts long rest =>
    subst first
    cases text with
    | nil =>
      have all := rest.eq_eight
      obtain ⟨-, zeroes⟩ := zero long
      rw [inetPton6]
      simp only [Option.pure_def, Option.some.injEq]
      funext k
      have bound := k.isLt
      rw [← byteAt_of_lt src bound]
      exact (zeroes k (by omega) (by omega)).symm
    | cons c text =>
      have phase : Phase src best (0 + best.len) 0 2 fun _ => 0 := by
        rw [starts]
        refine .after long le_rfl (by omega) ?_
        intro k below
        rw [storedByte, if_neg (by omega), if_pos (by omega)]
      obtain ⟨final, looped, gathered⟩ := ((rest.accepts zero).2 8 0 2 _ (c :: text) rfl
        (cons_ne_nil _ _) (by omega) phase (by decide)).run
      rw [inetPton6]
      · simp [looped, gathered]
      · rintro ⟨⟩
  | @group _ group _ text noQuad noRun found rest =>
    subst first
    obtain ⟨digit, xdigit, digits, split⟩ :=
      printNumber_eq_cons group (show 1 < 16 by decide) le_rfl
    have phase : Phase src best 0 8 0 fun _ => 0 :=
      .before (fun k below => absurd below (Nat.not_lt_zero k)) fun _ _ => rfl
    have formats : Formats src best ipv4 0 true (colon true ++ (printNumber 16 group ++ text)) :=
      .group noQuad noRun found rest
    obtain ⟨final, looped, gathered⟩ := ((formats.accepts zero).2 8 8 0 _
      (printNumber 16 group ++ text) rfl (by simp [split]) noRun phase (by decide)).run
    have noColon : ∀ rest, colon true ++ (printNumber 16 group ++ text) ≠ ':' :: ':' :: rest := by
      intro rest same
      rw [split] at same
      exact digitChar_ne_colon digit xdigit (cons.inj same).1
    rw [inetPton6]
    · exact (congrArg (bind · _) looped).trans gathered
    · exact noColon []
    · exact noColon

/-! ## The text of an address -/

/-- The groups from `i` to `j` in hexadecimal notation. -/
def hexGroups (src : In6Addr) (i j : ℕ) : List (List Char) :=
  (((groupsOf src).take j).drop i).map (printNumber 16)

/-- The pieces of the text of an address from group `i` to its end. -/
def lastPieces (src : In6Addr) (ipv4 : Bool) (i : ℕ) : List (List Char) :=
  if ipv4 ∧ i ≤ 6 then
    hexGroups src i 6 ++ [printQuad (src 12) (src 13) (src 14) (src 15)]
  else
    hexGroups src i 8

/-- The pieces with colons between them, and in front if they follow other pieces. -/
def joinPieces (stripColon : Bool) (pieces : List (List Char)) : List Char :=
  if stripColon then [':'].intercalate pieces else pieces.flatMap (':' :: ·)

/-- The text of an address whose zero groups `best` are left out. -/
def addressText (src : In6Addr) (best : Zeroes) (ipv4 : Bool) : List Char :=
  if best.len > 1 then
    joinPieces true (hexGroups src 0 best.start) ++ ':' :: ':' ::
      joinPieces true (lastPieces src ipv4 (best.start + best.len))
  else
    joinPieces true (lastPieces src ipv4 0)

theorem joinPieces_cons (stripColon : Bool) (piece : List Char) (pieces : List (List Char)) :
    joinPieces stripColon (piece :: pieces) =
      colon stripColon ++ (piece ++ joinPieces false pieces) := by
  cases stripColon with
  | false => rfl
  | true => exact Words.intercalate_singleton_cons ':' piece pieces

section Text

variable {src : In6Addr} {best : Zeroes} {ipv4 : Bool} {i j group : ℕ}

theorem hexGroups_eq_cons (found : (groupsOf src)[i]? = some group) (before : i < j) :
    hexGroups src i j = printNumber 16 group :: hexGroups src (i + 1) j := by
  have found' : ((groupsOf src).take j)[i]? = some group := by
    rw [getElem?_take_of_lt before, found]
  obtain ⟨inside, rfl⟩ := List.getElem?_eq_some_iff.mp found'
  rw [hexGroups, drop_eq_getElem_cons inside]
  rfl

theorem hexGroups_self (src : In6Addr) (i : ℕ) : hexGroups src i i = [] := by
  rw [hexGroups, drop_eq_nil_of_le (length_take_le _ _), map_nil]

theorem lastPieces_eq_cons (found : (groupsOf src)[i]? = some group)
    (noQuad : ¬ (i = 6 ∧ ipv4)) :
    lastPieces src ipv4 i = printNumber 16 group :: lastPieces src ipv4 (i + 1) := by
  have inside := lt_of_groupsOf found
  rw [lastPieces, lastPieces]
  by_cases quad : ipv4 ∧ i ≤ 6
  · have next : i + 1 ≤ 6 := by
      have : i ≠ 6 := fun last => noQuad ⟨last, quad.1⟩
      omega
    rw [if_pos quad, if_pos ⟨quad.1, next⟩, hexGroups_eq_cons found next]
    rfl
  · rw [if_neg quad, if_neg fun quad' => quad ⟨quad'.1, by omega⟩, hexGroups_eq_cons found inside]

/-- The text behind the groups that are left out, or without any. -/
theorem Formats.eq_lastPieces {stripColon : Bool} {text : List Char}
    (formats : Formats src best ipv4 i stripColon text)
    (passed : best.len > 1 → best.start + best.len ≤ i) :
    text = joinPieces stripColon (lastPieces src ipv4 i) := by
  induction formats with
  | done strip =>
    have rest : lastPieces src ipv4 8 = [] := by
      rw [lastPieces, if_neg (by simp), hexGroups_self]
    rw [rest]
    cases strip <;> rfl
  | quad strip tail =>
    rw [lastPieces, if_pos ⟨tail, le_rfl⟩, hexGroups_self, nil_append, joinPieces_cons]
    simp [joinPieces]
  | compress _ starts long =>
    omega
  | group noQuad _ found _ ih =>
    rw [lastPieces_eq_cons found noQuad, joinPieces_cons,
      ← ih fun long => Nat.le_succ_of_le (passed long)]

theorem Formats.eq_append {stripColon : Bool} {text : List Char}
    (formats : Formats src best ipv4 i stripColon text) (long : best.len > 1)
    (early : ipv4 = true → best.start < 6) (inside : best.start < 8) (before : i ≤ best.start) :
    text = joinPieces stripColon (hexGroups src i best.start) ++ ':' :: ':' ::
      joinPieces true (lastPieces src ipv4 (best.start + best.len)) := by
  induction formats with
  | done => omega
  | quad _ tail =>
    have := early tail
    omega
  | @compress i strip text _ starts _ rest =>
    subst starts
    rw [hexGroups_self, rest.eq_lastPieces fun _ => le_rfl]
    cases strip <;> rfl
  | @group i _ _ _ _ noRun found _ ih =>
    have next : i < best.start := by
      omega
    rw [hexGroups_eq_cons found next, joinPieces_cons, ih next]
    simp

end Text

/-- The longest series of an address is zero. -/
theorem FirstLongest.isZero (found : FirstLongest (groupsOf src) best) : IsZero src best := by
  intro long
  have inside := found.isRun.end_le (by omega)
  rw [length_groupsOf] at inside
  refine ⟨inside, fun k low high => ?_⟩
  obtain ⟨even, odd⟩ := (getElem?_groupsOf_eq_zero src ⟨k / 2, by omega⟩).mp
    (found.isRun (k / 2) (by omega) (by omega))
  rw [byteAt_of_lt src (show k < 16 by omega)]
  obtain parity | parity := Nat.mod_two_eq_zero_or_one k
  · rw [← even]
    congr 2
    dsimp only
    omega
  · rw [← odd]
    congr 2
    dsimp only
    omega

/-- The formatter of an IPv4 address. -/
theorem inetNtopInet_eq (src : InAddr) (size : ℕ) :
    inetNtopInet src size =
      if (printQuad (src 0) (src 1) (src 2) (src 3)).length + 1 ≤ size then
        .ok (printQuad (src 0) (src 1) (src 2) (src 3))
      else .error .ENOSPC := by
  have short := length_printQuad_le (src 0) (src 1) (src 2) (src 3)
  rw [inetNtopInet, inetAddrstrlen]
  by_cases fits : (printQuad (src 0) (src 1) (src 2) (src 3)).length + 1 ≤ size
  · rw [if_pos fits, if_neg (by omega), take_of_length_le short,
      take_of_length_le (by omega)]
  · rw [if_neg fits, if_pos (by omega)]

/-- The formatter of an IPv6 address. -/
theorem inetNtopInet6_eq (src : In6Addr) :
    ∃ best text, FirstLongest (groupsOf src) best ∧
      Formats src best (in6IsAddrV4compat src || in6IsAddrV4mapped src) 0 true text ∧
      text.length + 1 ≤ inet6Addrstrlen ∧
      ∀ size, inetNtopInet6 src size =
        some (if text.length + 1 ≤ size then .ok text else .error .ENOSPC) := by
  have found := zeroesLoop_firstLongest (groupsOf src)
  obtain ⟨text, looped, formats, short⟩ := @ntopLoop_formats src _
    (in6IsAddrV4compat src || in6IsAddrV4mapped src) (fun long => (found.isZero long).1) 8
    0 true [] (by decide) (by decide) (by decide)
  have fits : text.length + 1 ≤ 46 := by
    rw [budget, Bool.toNat_true] at short
    omega
  refine ⟨_, text, found, formats, fits, fun size => ?_⟩
  rw [nil_append] at looped
  simp only [inetNtopInet6, looped, bind_eq_bind, bind_some,
    putChar_eq fits '\x00', List.length_append, List.length_singleton, Option.pure_def]
  by_cases room : text.length + 1 ≤ size
  · rw [if_pos room, if_neg (Nat.not_lt.mpr room)]
  · rw [if_neg room, if_pos (Nat.not_le.mp room)]

theorem Formats.eq_addressText {text : List Char} (found : FirstLongest (groupsOf src) best)
    (formats : Formats src best (in6IsAddrV4compat src || in6IsAddrV4mapped src) 0 true text) :
    text = addressText src best (in6IsAddrV4compat src || in6IsAddrV4mapped src) := by
  rw [addressText]
  by_cases long : best.len > 1
  · rw [if_pos long]
    obtain ⟨inside, -⟩ := found.isZero long
    refine formats.eq_append long (fun ipv4 => ?_) (by omega) (Nat.zero_le _)
    obtain compat | mapped := Bool.or_eq_true_iff.mp ipv4
    · rw [firstLongest_v4compat found compat]
      exact Nat.zero_lt_succ 5
    · rw [firstLongest_v4mapped found mapped]
      exact Nat.zero_lt_succ 5
  · rw [if_neg long]
    exact formats.eq_lastPieces fun long' => absurd long' long

/-- **Every address survives the round trip through its text.** The text fits into the buffers, and
the groups that are left out are the first of the longest series of zeroes. They reach into the
dotted quad if the address is an IPv4-compatible one and the first two bytes of the quad are
zero. -/
theorem inetPton_inetNtop :
    (∀ src : InAddr, ∃ text, text.length + 1 ≤ inetAddrstrlen ∧
      (∀ size, inetNtopInet src size =
        if text.length + 1 ≤ size then .ok text else .error .ENOSPC) ∧
      inetPton4 text = some (List.ofFn src)) ∧
    ∀ src : In6Addr, ∃ text best, text.length + 1 ≤ inet6Addrstrlen ∧
      (∀ size, inetNtopInet6 src size =
        some (if text.length + 1 ≤ size then .ok text else .error .ENOSPC)) ∧
      inetPton6 text = some (some src) ∧
      text = addressText src best (in6IsAddrV4compat src || in6IsAddrV4mapped src) ∧
      FirstLongest (groupsOf src) best ∧
      (in6IsAddrV4mapped src = true → best = ⟨0, 5⟩) ∧
      (in6IsAddrV4compat src = true →
        best = ⟨0, if src 12 = 0 ∧ src 13 = 0 then 7 else 6⟩) := by
  constructor
  · intro src
    have short := length_printQuad_le (src 0) (src 1) (src 2) (src 3)
    exact ⟨_, Nat.succ_le_succ short, inetNtopInet_eq src,
      inetPton4_print (src 0) (src 1) (src 2) (src 3)⟩
  · intro src
    obtain ⟨best, text, found, formats, fits, printed⟩ := inetNtopInet6_eq src
    exact ⟨text, best, fits, printed, inetPton6_formats found.isZero formats,
      formats.eq_addressText found, found, firstLongest_v4mapped found,
      firstLongest_v4compat found⟩

/-- The address `::0.0.1.2` is printed without a dotted quad, since the groups that are left out
reach into it. -/
theorem inetNtopInet6_swallows :
    in6IsAddrV4compat ![0, 0, 0, 0, 0, 0, 0, 0, 0, 0, 0, 0, 0, 0, 1, 2] = true ∧
    zeroesLoop (groupsOf ![0, 0, 0, 0, 0, 0, 0, 0, 0, 0, 0, 0, 0, 0, 1, 2]) 0 ⟨0, 0⟩ ⟨0, 0⟩ =
      ⟨0, 7⟩ ∧
    inetNtopInet6 ![0, 0, 0, 0, 0, 0, 0, 0, 0, 0, 0, 0, 0, 0, 1, 2] 46 =
      some (.ok "::102".toList) ∧
    addressText ![0, 0, 0, 0, 0, 0, 0, 0, 0, 0, 0, 0, 0, 0, 1, 2] ⟨0, 6⟩ true =
      "::0.0.1.2".toList := by
  decide +kernel

end Cloudlibc.Arpa
