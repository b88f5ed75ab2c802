import Cloudlibc.Errno
import Cloudlibc.Foundations.Digits
import Cloudlibc.Foundations.Loop

/-!
# Printing and parsing of internet addresses

The functions `inet_ntop()` and `inet_pton()` of `libc/arpa/inet`, for both address families. A
string is the list of its characters without the null byte that ends it, and a pointer into it is
the part of the list behind the pointer. A write or a read outside an array makes the model fail.
-/

set_option autoImplicit false

namespace Cloudlibc.Arpa

open Cloudlibc.Digits Cloudlibc.Loop

/-! ## Printing -/

/-- `INET_ADDRSTRLEN`. -/
def inetAddrstrlen : ℕ := 16

/-- `INET6_ADDRSTRLEN`. -/
def inet6Addrstrlen : ℕ := 46

/-- What `snprintf()` prints for `%u` and for `%x`. -/
def printNumber (base n : ℕ) : List Char :=
  (numeral base n).map Nat.digitChar

/-- What `snprintf()` prints for four bytes with dots between them. -/
def printQuad (a b c d : UInt8) : List Char :=
  printNumber 10 a.toNat ++ '.' :: (printNumber 10 b.toNat ++ '.' :: (printNumber 10 c.toNat ++
    '.' :: printNumber 10 d.toNat))

/-- `struct in_addr`, in network byte order. -/
abbrev InAddr := Fin 4 → UInt8

/-- `struct in6_addr`. -/
abbrev In6Addr := Fin 16 → UInt8

/-- `inet_ntop_inet()`. The buffer has `size` bytes, and the result is the string in it. -/
def inetNtopInet (src : InAddr) (size : ℕ) : Except Errno (List Char) :=
  let text := printQuad (src 0) (src 1) (src 2) (src 3)
  let buf := text.take (inetAddrstrlen - 1)
  let len := text.length
  if len ≥ size then
    .error .ENOSPC
  else
    .ok (buf.take (size - 1))

scoped instance neZero16 : NeZero 16 := ⟨by decide⟩

/-- The groups of an address. -/
def groupsOf (src : In6Addr) : List ℕ :=
  List.ofFn fun i : Fin 8 =>
    (src ⟨i * 2, by omega⟩).toNat <<< 8 ||| (src ⟨i * 2 + 1, by omega⟩).toNat

/-- A series of groups that are zero. -/
structure Zeroes where
  start : ℕ
  len : ℕ
  deriving DecidableEq

/-- One pass of the loop that looks for the longest series, on the group with index `i`. -/
def zeroesStep (i group : ℕ) (cur best : Zeroes) : Zeroes × Zeroes :=
  if group = 0 then
    let cur := { cur with len := cur.len + 1 }
    (cur, if best.len < cur.len then cur else best)
  else
    (⟨i + 1, 0⟩, best)

/-- The loop that looks for the longest series. -/
def zeroesLoop : (groups : List ℕ) → (i : ℕ) → (cur best : Zeroes) → Zeroes
  | [], _, _, best => best
  | group :: groups, i, cur, best =>
    let (cur, best) := zeroesStep i group cur best
    zeroesLoop groups (i + 1) cur best

/-- `IN6_IS_ADDR_V4MAPPED()`. -/
def in6IsAddrV4mapped (a : In6Addr) : Bool :=
  a 0 == 0x00 && a 1 == 0x00 && a 2 == 0x00 && a 3 == 0x00 && a 4 == 0x00 && a 5 == 0x00 &&
    a 6 == 0x00 && a 7 == 0x00 && a 8 == 0x00 && a 9 == 0x00 && a 10 == 0xff && a 11 == 0xff

/-- `IN6_IS_ADDR_V4COMPAT()`. -/
def in6IsAddrV4compat (a : In6Addr) : Bool :=
  a 0 == 0x00 && a 1 == 0x00 && a 2 == 0x00 && a 3 == 0x00 && a 4 == 0x00 && a 5 == 0x00 &&
    a 6 == 0x00 && a 7 == 0x00 && a 8 == 0x00 && a 9 == 0x00 && a 10 == 0x00 && a 11 == 0x00 &&
    (a 12 != 0x00 || a 13 != 0x00 || a 14 != 0x00 || a 15 != 0x00 && a 15 != 0x01)

/-- `*bufend++ = c`, where `buf` has what is stored before `bufend`. -/
def putChar (buf : List Char) (c : Char) : Option (List Char) :=
  if buf.length < inet6Addrstrlen then some (buf ++ [c]) else none

/-- `bufend += snprintf(bufend, bufsize, …)`. If the text does not fit, `bufend` leaves the
buffer. -/
def putText (buf : List Char) (text : List Char) : Option (List Char) :=
  if text.length < inet6Addrstrlen - buf.length then some (buf ++ text) else none

/-- The colon of a format that may be stripped. -/
def colon (stripColon : Bool) : List Char :=
  if stripColon then [] else [':']

/-- The loop that formats an address. -/
def ntopLoop (src : In6Addr) (groups : List ℕ) (best : Zeroes) (ipv4 : Bool) :
    (fuel : ℕ) → (i : ℕ) → (stripColon : Bool) → (buf : List Char) → Option (List Char)
  | 0, _, _, _ => none
  | fuel + 1, i, stripColon, buf => do
      if i = 6 ∧ ipv4 then
        putText buf (colon stripColon ++ printQuad (src 12) (src 13) (src 14) (src 15))
      else
        let (i, stripColon, buf) ←
          if i = best.start ∧ best.len > 1 then
            (do return (i + best.len, true, ← putChar (← putChar buf ':') ':'))
          else
            (do
              let group ← groups[i]?
              return (i + 1, false, ← putText buf (colon stripColon ++ printNumber 16 group)))
        if i < 8 then ntopLoop src groups best ipv4 fuel i stripColon buf else return buf

/-- `inet_ntop_inet6()`. -/
def inetNtopInet6 (src : In6Addr) (size : ℕ) : Option (Except Errno (List Char)) := do
  let groups := groupsOf src
  let best := zeroesLoop groups 0 ⟨0, 0⟩ ⟨0, 0⟩
  let ipv4 := in6IsAddrV4compat src || in6IsAddrV4mapped src
  let buf ← ntopLoop src groups best ipv4 8 0 true []
  let terminated ← putChar buf '\x00'
  let len := terminated.length
  if len > size then
    return .error .ENOSPC
  else
    return .ok buf

/-! ## Parsing of dotted quads -/

/-- The character is a decimal digit. -/
def isDecimal (c : Char) : Bool := '0' ≤ c && c ≤ '9'

/-- One more digit of a number, if there is one. -/
def moreDigit (state : ℕ × List Char) : ℕ × List Char :=
  match state with
  | (number, c :: src) =>
    if isDecimal c then (number * 10 + c.toNat - '0'.toNat, src) else (number, c :: src)
  | state => state

/-- A number between 0 and 255. -/
def parseOctet : List Char → Option (UInt8 × List Char)
  | [] => none
  | c :: src =>
    if c = '0' then
      some (0, src)
    else if '1' ≤ c ∧ c ≤ '9' then
      let (number, src) := moreDigit (moreDigit (c.toNat - '0'.toNat, src))
      if number > 255 then none else some (.ofNat number, src)
    else
      none

/-- The loop of `inet_pton4()`, with the number of groups that are left. -/
def pton4Loop : (left : ℕ) → (src : List Char) → Option (List UInt8)
  | 0, _ => some []
  | left + 1, src => do
      let (number, src) ← parseOctet src
      if src.head? ≠ (if left = 0 then none else some '.') then
        none
      else
        return number :: (← pton4Loop left src.tail)

/-- `inet_pton4()`. -/
def inetPton4 (src : List Char) : Option (List UInt8) :=
  pton4Loop 4 src

/-! ## Parsing of IPv6 addresses -/

/-- The value of a hexadecimal digit. -/
def xdigitValue (c : Char) : Option ℕ :=
  if '0' ≤ c ∧ c ≤ '9' then some (c.toNat - '0'.toNat)
  else if 'A' ≤ c ∧ c ≤ 'F' then some (c.toNat - 'A'.toNat + 10)
  else if 'a' ≤ c ∧ c ≤ 'f' then some (c.toNat - 'a'.toNat + 10)
  else none

/-- The loop over the digits of a group, from digit `i` on. -/
def groupLoop : (left : ℕ) → (i : ℕ) → (src : List Char) → (number : ℕ) → Option (ℕ × List Char)
  | 0, _, src, number => some (number, src)
  | left + 1, i, src, number =>
    match src.head?.bind xdigitValue with
    | some digit => groupLoop left (i + 1) src.tail (number * 16 + digit)
    | none => if i = 0 then none else groupLoop left (i + 1) src number

/-- The state of the loop of `inet_pton6()`. -/
structure Pton6 where
  addr : ℕ → UInt8
  leadingGroups : ℕ
  groups : ℕ
  src : List Char

/-- Store bytes in the array `addr`. -/
def storeBytes (addr : ℕ → UInt8) (at_ : ℕ) (bytes : List UInt8) : Option (ℕ → UInt8) :=
  if at_ + bytes.length ≤ 16 then
    some fun k => if at_ ≤ k then (bytes[k - at_]?).getD (addr k) else addr k
  else
    none

/-- The check at the end of a pass. -/
def nextGroup (state : Pton6) : Pass Pton6 (Option Pton6) :=
  if state.groups ≥ 8 then .leave none else .again state

/-- The part of a pass behind the digits of a group, where `groupStart` is the text of the group.
To leave the loop with `none` is to return 0. -/
def pton6Separator (groupStart : List Char) (state : Pton6) :
    Option (Pass Pton6 (Option Pton6)) := do
  match state.src with
  | ':' :: ':' :: src =>
    let groups := state.groups + 1
    if state.leadingGroups < groups then
      return .leave none
    else if src = [] then
      if groups > 8 - 2 then
        return .leave none
      else
        return .leave (some { state with leadingGroups := groups, groups := groups, src := src })
    else
      return nextGroup { state with leadingGroups := groups, groups := groups + 2, src := src }
  | ':' :: src => return nextGroup { state with groups := state.groups + 1, src := src }
  | [] => return .leave (some { state with groups := state.groups + 1 })
  | _ :: _ =>
    if state.groups > 8 - 2 then
      return .leave none
    else
      match inetPton4 groupStart with
      | none => return .leave none
      | some bytes =>
        let addr ← storeBytes state.addr (state.groups * 2) bytes
        return .leave (some { state with addr := addr, groups := state.groups + 2 })

/-- One pass of the loop of `inet_pton6()`. -/
def pton6Pass (state : Pton6) : Option (Pass Pton6 (Option Pton6)) := do
  match groupLoop 4 0 state.src 0 with
  | none => return .leave none
  | some (number, src) =>
    let addr ← storeBytes state.addr (state.groups * 2) [.ofNat (number >>> 8), .ofNat number]
    pton6Separator state.src { state with addr := addr, src := src }

/-- The address from the leading and the trailing groups. -/
def gather (state : Pton6) : Option (Option In6Addr) :=
  if state.groups < state.leadingGroups then
    some none
  else
    let trailingGroups := state.groups - state.leadingGroups
    if state.groups ≤ 8 then
      some (some fun k =>
        if (8 - trailingGroups) * 2 ≤ k then
          state.addr (state.leadingGroups * 2 + (k - (8 - trailingGroups) * 2))
        else if k < state.leadingGroups * 2 then state.addr k
        else 0)
    else
      none

/-- `inet_pton6()`. The result is `some none` if the string is not an address. -/
def inetPton6 (src : List Char) : Option (Option In6Addr) := do
  let zero : ℕ → UInt8 := fun _ => 0
  match src with
  | [':', ':'] => return some fun _ => 0
  | ':' :: ':' :: rest =>
    match ← run pton6Pass 9 ⟨zero, 0, 2, rest⟩ with
    | none => return none
    | some state => gather state
  | src =>
    match ← run pton6Pass 9 ⟨zero, 8, 0, src⟩ with
    | none => return none
    | some state => gather state

end Cloudlibc.Arpa
