import Cloudlibc.Arpa.InetAton
import Cloudlibc.Arpa.InetRoundTrip

/-!
# Text that is no address

What `inet_pton()` does not read as an IPv6 address: text with a character that no address has
(`inetPton6_foreign`), and the dotted quad of an IPv4 address (`inetPton6_printQuad`). The text of an
IPv6 address has a colon (`Formats.colon_mem`), so that `inet_aton()` does not read it either.
-/

set_option autoImplicit false

namespace Cloudlibc.Arpa

open Cloudlibc.Digits Cloudlibc.Loop List Option

/-! ## Foreign characters -/

/-- A character that is no part of an address. -/
structure Foreign (c : Char) : Prop where
  noDigit : isDecimal c = false
  noXdigit : xdigitValue c = none
  noDot : c ≠ '.'
  noColon : c ≠ ':'

theorem foreign_percent : Foreign '%' := ⟨by decide, by decide, by decide, by decide⟩

variable {foreign : Char}

section

variable (isForeign : Foreign foreign)

include isForeign

theorem mem_moreDigit {number : ℕ} {src : List Char}
    (member : foreign ∈ src) : foreign ∈ (moreDigit (number, src)).2 := by
  cases src with
  | nil => cases member
  | cons c src =>
    rw [moreDigit]
    split_ifs with digit
    · obtain rfl | later := mem_cons.mp member
      · rw [isForeign.noDigit] at digit
        cases digit
      · exact later
    · exact member

/-- A byte of a dotted quad that is read leaves the foreign character behind. -/
theorem mem_parseOctet {src rest : List Char} {number : UInt8}
    (member : foreign ∈ src) (parsed : parseOctet src = some (number, rest)) : foreign ∈ rest := by
  cases src with
  | nil => cases member
  | cons c src =>
    have behind : isDecimal c = true → foreign ∈ src := by
      intro digit
      obtain rfl | later := mem_cons.mp member
      · rw [isForeign.noDigit] at digit
        cases digit
      · exact later
    rw [parseOctet] at parsed
    split_ifs at parsed with zero digit
    · obtain ⟨-, rfl⟩ := Prod.mk.inj (some.inj parsed)
      exact behind (by rw [zero]; decide)
    · have decimal : isDecimal c = true := by
        rw [isDecimal, Bool.and_eq_true, decide_eq_true_iff, decide_eq_true_iff]
        exact ⟨Char.le_trans (show '0' ≤ '1' by decide) digit.1, digit.2⟩
      have remains : ∀ number, foreign ∈ (moreDigit (moreDigit (number, src))).2 :=
        fun number => mem_moreDigit isForeign (mem_moreDigit isForeign (behind decimal))
      specialize remains (c.toNat - '0'.toNat)
      dsimp only at parsed remains
      split_ifs at parsed
      obtain ⟨-, rfl⟩ := Prod.mk.inj (some.inj parsed)
      exact remains

theorem pton4Loop_foreign (left : ℕ) :
    ∀ {src : List Char}, foreign ∈ src → pton4Loop (left + 1) src = none := by
  induction left with
  | zero =>
    intro src member
    rw [pton4Loop]
    cases parsed : parseOctet src with
    | none => rfl
    | some result =>
      obtain ⟨number, rest⟩ := result
      have remains := mem_parseOctet isForeign member parsed
      cases rest with
      | nil => cases remains
      | cons c rest => simp
  | succ left ih =>
    intro src member
    rw [pton4Loop]
    cases parsed : parseOctet src with
    | none => rfl
    | some result =>
      obtain ⟨number, rest⟩ := result
      have remains := mem_parseOctet isForeign member parsed
      simp only [bind_eq_bind, bind_some, Nat.succ_ne_zero, if_false]
      split_ifs with dot
      · rfl
      · rw [not_ne_iff] at dot
        cases rest with
        | nil => cases dot
        | cons c rest =>
          obtain rfl : c = '.' := by simpa using dot
          rw [tail_cons, ih ((mem_cons.mp remains).resolve_left isForeign.noDot)]
          rfl

theorem mem_groupLoop (left : ℕ) :
    ∀ {i number number' : ℕ} {src rest : List Char}, foreign ∈ src →
      groupLoop left i src number = some (number', rest) → foreign ∈ rest := by
  induction left with
  | zero =>
    intro i number number' src rest member looped
    obtain ⟨-, rfl⟩ := Prod.mk.inj (some.inj looped)
    exact member
  | succ left ih =>
    intro i number number' src rest member looped
    rw [groupLoop] at looped
    cases src with
    | nil => cases member
    | cons c src =>
      rw [head?_cons, bind_some, tail_cons] at looped
      cases digit : xdigitValue c with
      | some value =>
        rw [digit] at looped
        refine ih ((mem_cons.mp member).resolve_left ?_) looped
        rintro rfl
        rw [isForeign.noXdigit] at digit
        cases digit
      | none =>
        rw [digit] at looped
        split_ifs at looped
        exact ih member looped

/-- A pass of the parser that leaves the foreign character behind, or that finds no address. -/
theorem pton6Pass_foreign {state : Pton6} (member : foreign ∈ state.src)
    (few : state.groups < 8) :
    ∃ pass, pton6Pass state = some pass ∧ pass.Meets (fun next =>
      (foreign ∈ next.src ∧ next.groups < 8) ∧ 8 - next.groups < 8 - state.groups) (· = none) := by
  have again : ∀ next : Pton6, foreign ∈ next.src → state.groups < next.groups →
      (nextGroup next).Meets (fun next =>
        (foreign ∈ next.src ∧ next.groups < 8) ∧ 8 - next.groups < 8 - state.groups) (· = none) := by
    intro next member more
    rw [nextGroup]
    split_ifs with all
    · exact rfl
    · exact ⟨⟨member, by omega⟩, by omega⟩
  rw [pton6Pass]
  cases looped : groupLoop 4 0 state.src 0 with
  | none => exact ⟨_, rfl, rfl⟩
  | some result =>
    obtain ⟨number, rest⟩ := result
    have remains := mem_groupLoop isForeign 4 member looped
    obtain ⟨addr, stored, -⟩ := storeBytes_eq state.addr
      (show state.groups * 2 + [UInt8.ofNat (number >>> 8), UInt8.ofNat number].length ≤ 16 by
        simp only [length_cons, length_nil]
        omega)
    simp only [stored, bind_eq_bind, bind_some]
    have behind : ∀ {more : List Char}, rest = ':' :: more → foreign ∈ more := by
      rintro more rfl
      exact (mem_cons.mp remains).resolve_left isForeign.noColon
    rw [pton6Separator]
    split
    · rename_i src isRest
      have after := (mem_cons.mp (behind isRest)).resolve_left isForeign.noColon
      have more : src ≠ [] := by
        rintro rfl
        cases after
      dsimp only
      split_ifs
      · exact ⟨_, rfl, rfl⟩
      · exact ⟨_, rfl, again _ after (by dsimp only; omega)⟩
    · rename_i src _ isRest
      exact ⟨_, rfl, again _ (behind isRest) (Nat.lt_succ_self _)⟩
    · rename_i isRest
      dsimp only at isRest
      rw [isRest] at remains
      cases remains
    · split_ifs
      · exact ⟨_, rfl, rfl⟩
      · rw [inetPton4, pton4Loop_foreign isForeign 3 member]
        exact ⟨_, rfl, rfl⟩

/-- **`inet_pton()` does not read text with a foreign character as an IPv6 address.** -/
theorem inetPton6_foreign {src : List Char}
    (member : foreign ∈ src) : inetPton6 src = some none := by
  have rejected : ∀ state : Pton6, foreign ∈ state.src → state.groups < 8 →
      run pton6Pass 9 state = some none := by
    intro state member few
    obtain ⟨result, ran, rfl⟩ := run_spec
      (fun state : Pton6 => foreign ∈ state.src ∧ state.groups < 8) (fun state => 8 - state.groups)
      (· = none) (fun state holds => pton6Pass_foreign isForeign holds.1 holds.2) ⟨member, few⟩
      (show 8 - state.groups < 9 by omega)
    exact ran
  rw [inetPton6.eq_def]
  dsimp only
  split
  · have colons : foreign ≠ ':' := isForeign.noColon
    simp [colons] at member
  · rename_i rest _
    have after : foreign ∈ rest := by
      simpa [isForeign.noColon] using member
    rw [rejected ⟨_, 0, 2, rest⟩ after (by dsimp only; omega)]
    rfl
  · rw [rejected ⟨_, 8, 0, src⟩ member (by dsimp only; omega)]
    rfl

end

/-! ## IPv4 addresses -/

/-- `inet_pton()` does not read a dotted quad as an IPv6 address. -/
theorem inetPton6_printQuad (a b c d : UInt8) : inetPton6 (printQuad a b c d) = some none := by
  obtain ⟨number, looped⟩ := groupLoop_octet a (printNumber 10 b.toNat ++
    '.' :: (printNumber 10 c.toNat ++ '.' :: printNumber 10 d.toNat))
  obtain ⟨digit, small, rest, first⟩ := printNumber_eq_cons a.toNat (show 1 < 10 by decide)
    (by decide)
  have noColon : ∀ rest, printQuad a b c d ≠ ':' :: ':' :: rest := by
    intro rest same
    rw [printQuad, first] at same
    exact digitChar_ne_colon digit small (cons.inj same).1
  obtain ⟨addr, stored, -⟩ := storeBytes_eq (fun _ => 0)
    (show 0 * 2 + [UInt8.ofNat (number >>> 8), UInt8.ofNat number].length ≤ 16 from
      (show 2 ≤ 16 by decide))
  obtain ⟨addr', stored', -⟩ := storeBytes_eq addr (show 0 * 2 + [a, b, c, d].length ≤ 16 from
    (show 4 ≤ 16 by decide))
  -- The quad has two groups only, which is not enough without a series of zeroes.
  have left : pton6Pass ⟨fun _ => 0, 8, 0, printQuad a b c d⟩ =
      some (.leave (some ⟨addr', 8, 2, '.' :: (printNumber 10 b.toNat ++
        '.' :: (printNumber 10 c.toNat ++ '.' :: printNumber 10 d.toNat))⟩)) := by
    simp only [pton6Pass, show groupLoop 4 0 (printQuad a b c d) 0 = _ from looped, stored,
      bind_eq_bind, bind_some, pton6Separator, inetPton4_print, stored']
    rfl
  rw [inetPton6]
  · simp only [run, left, bind_eq_bind, bind_some]
    rfl
  · exact noColon []
  · exact noColon

/-- The text of an IPv6 address has a colon. -/
theorem Formats.colon_mem {src : In6Addr} {best : Zeroes} {ipv4 : Bool} {text : List Char}
    (formats : Formats src best ipv4 0 true text) : ':' ∈ text := by
  generalize first : 0 = i at formats
  cases formats with
  | done => cases first
  | quad => cases first
  | compress => exact mem_cons_self
  | group _ _ _ rest =>
    subst first
    refine mem_append_right _ (mem_append_right _ ?_)
    generalize second : 0 + 1 = i at rest
    cases rest with
    | done => cases second
    | quad => cases second
    | compress => exact mem_cons_self
    | group => exact mem_append_left _ mem_cons_self

end Cloudlibc.Arpa
