import Cloudlibc.Arpa.InetRejection
import Cloudlibc.Netdb.Getaddrinfo

/-!
# Names of socket addresses are read back

What `getnameinfo()` prints for a socket address leads `getaddrinfo()` to the same socket address,
once for each of the two transport protocols (`getaddrinfo_getnameinfo`). The text of an IPv4
address is read by `inet_aton()` only. The text of an IPv6 address is read by `inet6_pton()` only,
with its scope, since a `%` makes `inet_pton()` reject the whole text.
-/

set_option autoImplicit false

namespace Cloudlibc.Netdb

open Cloudlibc.Arpa Cloudlibc.Digits List Option

/-! ## Decimal numbers -/

theorem putDigits_eq (room : ℕ) : ∀ {number : ℕ} {str : List Char},
    (printNumber 10 number).length ≤ room →
      putDigits room number str =
        some (room - (printNumber 10 number).length, printNumber 10 number ++ str) := by
  induction room with
  | zero =>
    intro number str fits
    rw [printNumber, length_map] at fits
    exact absurd (length_eq_zero_iff.mp (Nat.le_zero.mp fits)) (numeral_ne_nil 10 number)
  | succ room ih =>
    intro number str fits
    have last : printNumber 10 number =
        (if number / 10 > 0 then printNumber 10 (number / 10) else []) ++
          [Nat.digitChar (number % 10)] := by
      rw [printNumber, numeral_eq_append (by decide), map_append]
      split_ifs <;> rfl
    rw [putDigits]
    by_cases more : number / 10 = 0
    · rw [if_neg (by omega)] at last
      rw [if_neg (not_not.mpr more), last]
      rfl
    · rw [if_pos (by omega)] at last
      have length : (printNumber 10 number).length = (printNumber 10 (number / 10)).length + 1 := by
        rw [last, length_append, length_singleton]
      rw [if_pos more, ih (by omega), length, Nat.add_sub_add_right, last, append_assoc]
      rfl

theorem parseDecimal_digits {width : ℕ} (digits : List ℕ) :
    ∀ {number : ℕ}, digits ≠ [] → (∀ digit ∈ digits, digit < 10) →
      value 10 number digits < 2 ^ width →
      parseDecimal width (digits.map Nat.digitChar) number = some (value 10 number digits) := by
  induction digits with
  | nil => exact fun some_digits => absurd rfl some_digits
  | cons digit digits ih =>
    intro number _ small fits
    obtain ⟨first, others⟩ := forall_mem_cons.mp small
    obtain ⟨decimal, digitValue⟩ := digitChar_decimal digit first
    have step : number * 10 + digit ≤ value 10 number (digit :: digits) :=
      Stdlib.le_value (by decide) digits _
    have read : (Nat.digitChar digit).toNat - '0'.toNat = digit := by
      rw [digitValue]
      exact Nat.add_sub_cancel digit 48
    simp only [map_cons, parseDecimal, decimal, read, Bool.true_eq_false, false_or]
    rw [if_neg (by omega)]
    cases digits with
    | nil => rfl
    | cons next digits =>
      exact ih (cons_ne_nil _ _) others fits

theorem parseDecimal_printNumber {width n : ℕ} (fits : n < 2 ^ width) :
    parseDecimal width (printNumber 10 n) 0 = some n := by
  have read := @parseDecimal_digits width (numeral 10 n) 0 (numeral_ne_nil 10 n)
    (fun digit member => numeral_lt (by decide) member) (by rwa [value_numeral])
  rwa [value_numeral] at read

theorem htons_ntohs (port : InPort) : htons (ntohs port) = port := by
  have high := (port 0).toNat_lt
  have low := (port 1).toNat_lt
  funext i
  rw [← UInt8.toNat_inj]
  fin_cases i
  · show (UInt8.ofNat _).toNat = _
    rw [UInt8.toNat_ofNat', ntohs]
    dsimp only [Fin.zero_eta]
    omega
  · show (UInt8.ofNat _).toNat = _
    rw [UInt8.toNat_ofNat', ntohs]
    dsimp only [Fin.mk_one]
    omega

theorem ntohs_lt (port : InPort) : ntohs port < 2 ^ 16 := by
  have high := (port 0).toNat_lt
  have low := (port 1).toNat_lt
  rw [ntohs]
  omega

theorem scopeText_eq (scope : UInt32) :
    scopeText scope = some ('%' :: printNumber 10 scope.toNat) ∧
      (printNumber 10 scope.toNat).length ≤ 10 := by
  have short : (printNumber 10 scope.toNat).length ≤ 10 :=
    length_printNumber_le (by decide) (by decide) (scope.toNat_lt.trans (by decide))
  refine ⟨?_, short⟩
  rw [scopeText, putDigits_eq 11 (by omega)]
  simp only [bind_eq_bind, bind_some, append_nil]
  rw [if_neg (by omega)]
  rfl

/-! ## Services -/

/-- The flags of `getnameinfo()` for numeric services. -/
def nameFlags (dgram : Bool) : UInt32 := niNumericserv ||| if dgram then niDgram else 0

/-- The hints for numeric services of any kind. -/
def numericHints (passive : Bool) (protocol : ℤ) : Hints :=
  ⟨aiNumericserv ||| if passive then aiPassive else 0, afUnspec, 0, protocol⟩

section

variable (services : List PortEntry) (strcasecmp : List Char → List Char → ℤ)

theorem nameService_numeric (port : InPort) (dgram : Bool) :
    nameService services port niMaxserv (nameFlags dgram) =
      some (.ok (printNumber 10 (ntohs port))) := by
  have short : (printNumber 10 (ntohs port)).length ≤ 5 :=
    length_printNumber_le (by decide) (by decide) ((ntohs_lt port).trans (by decide))
  have numeric : ¬ nameFlags dgram &&& niNumericserv = 0 := by cases dgram <;> decide
  simp only [nameService, if_neg numeric, putDigits_eq 5 short, bind_eq_bind, bind_some, append_nil]
  rw [if_neg (by rw [niMaxserv]; omega)]
  rfl

theorem serviceAliases_numeric (port : InPort) (passive : Bool) (protocol : ℤ) :
    serviceAliases services strcasecmp (some (printNumber 10 (ntohs port)))
        (numericHints passive protocol) =
      some (.ok [⟨sockStream, ipprotoTcp, port⟩, ⟨sockDgram, ipprotoUdp, port⟩]) := by
  simp only [serviceAliases, parseDecimal_printNumber (ntohs_lt port), numericHints, if_true,
    htons_ntohs]

/-- What `getnameinfo()` returns for a numeric service. -/
theorem getnameinfo_numeric {sa : Sockaddr} {salen : ℕ} {text : List Char} {port : InPort}
    (dgram : Bool) (named : nameNode sa salen (some niMaxhost) = some (.ok (some text, port))) :
    getnameinfo services sa salen (some niMaxhost) (some niMaxserv) (nameFlags dgram) =
      some (.ok (some text, some (printNumber 10 (ntohs port)))) := by
  have flags : ¬ nameFlags dgram &&& ~~~(niNumericserv ||| niDgram) ≠ 0 := by
    cases dgram <;> decide
  rw [getnameinfo, if_neg flags, if_neg (by simp), named]
  simp only [nameService_numeric]
  rfl

/-- What `getaddrinfo()` returns for a numeric service. -/
theorem getaddrinfo_numeric {node : List Char} {inet : Option InAddr}
    {inet6 : Option (In6Addr × ℕ)} (port : InPort) (passive : Bool) (protocol : ℤ)
    (inetNode : inetAton node = inet) (inet6Node : inet6Pton node = some inet6)
    (found : inet.isSome ∨ inet6.isSome) :
    getaddrinfo services strcasecmp true (some node) (some (printNumber 10 (ntohs port)))
        (some (numericHints passive protocol)) =
      some (.ok (
        (inet6.elim [] fun (addr, scope) =>
          [inet6Entry (some node) addr scope ⟨sockStream, ipprotoTcp, port⟩,
            inet6Entry (some node) addr scope ⟨sockDgram, ipprotoUdp, port⟩]) ++
        inet.elim [] fun addr =>
          [inetEntry (some node) addr ⟨sockStream, ipprotoTcp, port⟩,
            inetEntry (some node) addr ⟨sockDgram, ipprotoUdp, port⟩])) := by
  have flags : ¬ (numericHints passive protocol).flags &&& ~~~(aiPassive ||| aiNumericserv) ≠ 0 := by
    dsimp only [numericHints]
    cases passive <;> decide
  have family : (numericHints passive protocol).family = afUnspec := rfl
  simp only [getaddrinfo, getD_some, if_neg flags, reduceCtorEq, false_and, if_false, family,
    ne_eq, not_true_eq_false, show ¬ afUnspec = afInet6 by decide, show ¬ afUnspec = afInet by decide,
    inetOfNode, inet6OfNode, inetNode, inet6Node, serviceAliases_numeric, bind_eq_bind,
    bind_some]
  cases inet with
  | some addr =>
    cases inet6 <;> rfl
  | none =>
    cases inet6 with
    | some result => rfl
    | none => simp at found

end

/-! ## Nodes -/

theorem nameNode_inet (sin : SockaddrIn) :
    nameNode (.inet sin) sizeofSockaddrIn (some niMaxhost) =
      some (.ok (some (printQuad (sin.addr 0) (sin.addr 1) (sin.addr 2) (sin.addr 3)), sin.port)) := by
  have short := length_printQuad_le (sin.addr 0) (sin.addr 1) (sin.addr 2) (sin.addr 3)
  rw [nameNode, if_neg (lt_irrefl _)]
  simp only [inetNtopInet_eq]
  rw [if_pos (by rw [niMaxhost]; omega)]

theorem digitChar_ne_percent : ∀ digit < 10, Nat.digitChar digit ≠ '%' := by
  decide

theorem percent_notMem_printNumber (n : ℕ) : '%' ∉ printNumber 10 n := by
  rw [printNumber, List.mem_map]
  rintro ⟨digit, member, percent⟩
  exact digitChar_ne_percent digit (numeral_lt (by decide) member) percent

/-- A dotted quad is no IPv6 address, and it has no scope either. -/
theorem inet6Pton_printQuad (a b c d : UInt8) : inet6Pton (printQuad a b c d) = some none := by
  have noScope : (printQuad a b c d).dropWhile (· ≠ '%') = [] := by
    rw [dropWhile_eq_nil_iff]
    intro c member
    rw [decide_eq_true_iff]
    rintro rfl
    simp [printQuad, percent_notMem_printNumber] at member
  rw [inet6Pton, inetPton6_printQuad]
  simp only [noScope]
  rfl

/-- **`inet_aton()` and `inet_pton()` read what `inet_ntop()` prints**, `inet6_pton()` does not. -/
theorem inetAton_inetNtop (src : InAddr) : ∃ text, inetNtopInet src inetAddrstrlen = .ok text ∧
    inetAton text = some src ∧ inetPton4 text = some (.ofFn src) ∧ inet6Pton text = some none := by
  have fits := Nat.succ_le_succ (length_printQuad_le (src 0) (src 1) (src 2) (src 3))
  exact ⟨_, (inetNtopInet_eq src _).trans (if_pos fits), inetAton_printQuad src,
    inetPton4_print .., inet6Pton_printQuad ..⟩

theorem inet6Pton_scope {text : List Char} {addr : In6Addr} (scope : UInt32)
    (read : inetPton6 text = some (some addr)) (short : text.length + 1 ≤ inet6Addrstrlen) :
    inet6Pton (text ++ '%' :: printNumber 10 scope.toNat) =
      some (some (addr, scope.toNat)) := by
  have noPercent : '%' ∉ text := by
    intro member
    rw [inetPton6_foreign foreign_percent member] at read
    cases read
  have rejected : inetPton6 (text ++ '%' :: printNumber 10 scope.toNat) = some none :=
    inetPton6_foreign foreign_percent (by simp)
  have found : (text ++ '%' :: printNumber 10 scope.toNat).dropWhile (· ≠ '%') =
      '%' :: printNumber 10 scope.toNat := by
    rw [dropWhile_append, dropWhile_eq_nil_iff.mpr]
    · rfl
    · intro c member
      rw [decide_eq_true_iff]
      rintro rfl
      exact noPercent member
  have addrlen : (text ++ '%' :: printNumber 10 scope.toNat).length -
      (printNumber 10 scope.toNat).length = text.length + 1 := by
    rw [length_append, length_cons]
    omega
  rw [inet6Pton, rejected]
  simp only [bind_eq_bind, bind_some, found, addrlen]
  rw [if_neg (by omega), Nat.add_sub_cancel, take_left, read, bind_some,
    parseDecimal_printNumber scope.toNat_lt]
  rfl

theorem nameNode_inet6 (sin6 : SockaddrIn6) :
    ∃ node, nameNode (.inet6 sin6) sizeofSockaddrIn6 (some niMaxhost) =
        some (.ok (some node, sin6.port)) ∧
      inetAton node = none ∧ inet6Pton node = some (some (sin6.addr, sin6.scopeId.toNat)) := by
  obtain ⟨best, text, longest, formats, short, printed⟩ := inetNtopInet6_eq sin6.addr
  have read := inetPton6_formats longest.isZero formats
  have size : inet6Addrstrlen = 46 := rfl
  rw [nameNode, if_neg (lt_irrefl _)]
  simp only [printed niMaxhost, bind_eq_bind, bind_some]
  rw [if_pos (by rw [niMaxhost]; omega)]
  by_cases noScope : sin6.scopeId = 0
  · refine ⟨text, ?_, ?_, ?_⟩
    · simp only [if_pos noScope]
      rfl
    · exact inetAton_colon formats.colon_mem
    · rw [inet6Pton, read, noScope]
      rfl
  · obtain ⟨scopestr, length⟩ := scopeText_eq sin6.scopeId
    refine ⟨text ++ '%' :: printNumber 10 sin6.scopeId.toNat, ?_, ?_,
      inet6Pton_scope sin6.scopeId read short⟩
    · simp only [if_neg noScope, scopestr, bind_some]
      rw [if_neg (by rw [niMaxhost, length_cons]; omega)]
      rfl
    · exact inetAton_colon (mem_append_left _ formats.colon_mem)

/-! ## The round trip -/

/-- **The names of a socket address lead to the same socket address.** -/
theorem getaddrinfo_getnameinfo (services : List PortEntry)
    (strcasecmp : List Char → List Char → ℤ) (dgram passive : Bool) (protocol : ℤ) :
    (∀ sin : SockaddrIn, ∃ node service,
      getnameinfo services (.inet sin) sizeofSockaddrIn (some niMaxhost) (some niMaxserv)
        (nameFlags dgram) = some (.ok (some node, some service)) ∧
      getaddrinfo services strcasecmp true (some node) (some service)
          (some (numericHints passive protocol)) =
        some (.ok [
          ⟨afInet, sockStream, ipprotoTcp, sizeofSockaddrIn, .inet sin, some node⟩,
          ⟨afInet, sockDgram, ipprotoUdp, sizeofSockaddrIn, .inet sin, some node⟩])) ∧
    ∀ sin6 : SockaddrIn6, ∃ node service,
      getnameinfo services (.inet6 sin6) sizeofSockaddrIn6 (some niMaxhost) (some niMaxserv)
        (nameFlags dgram) = some (.ok (some node, some service)) ∧
      getaddrinfo services strcasecmp true (some node) (some service)
          (some (numericHints passive protocol)) =
        some (.ok [
          ⟨afInet6, sockStream, ipprotoTcp, sizeofSockaddrIn6, .inet6 sin6, some node⟩,
          ⟨afInet6, sockDgram, ipprotoUdp, sizeofSockaddrIn6, .inet6 sin6, some node⟩]) := by
  constructor
  · intro sin
    refine ⟨_, _, getnameinfo_numeric services dgram (nameNode_inet sin), ?_⟩
    rw [getaddrinfo_numeric services strcasecmp sin.port passive protocol
      (inetAton_printQuad sin.addr) (inet6Pton_printQuad _ _ _ _) (Or.inl rfl)]
    rfl
  · intro sin6
    obtain ⟨node, named, noInet, found⟩ := nameNode_inet6 sin6
    refine ⟨node, _, getnameinfo_numeric services dgram named, ?_⟩
    rw [getaddrinfo_numeric services strcasecmp sin6.port passive protocol noInet found
      (Or.inr rfl)]
    simp only [Option.elim, inet6Entry, UInt32.ofNat_toNat, List.append_nil]

end Cloudlibc.Netdb
