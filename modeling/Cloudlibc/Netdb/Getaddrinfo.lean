import Cloudlibc.Arpa.InetAton

/-!
# Names of socket addresses

The functions `getnameinfo()` and `getaddrinfo()` of `libc/netdb`. No host names are looked up: the
name of a host is the text of its address. The database of the port numbers and the comparison of
the names in it are parameters, and a write or a read outside an array makes the model fail.
-/

set_option autoImplicit false

namespace Cloudlibc.Netdb

open Cloudlibc.Arpa

/-! ## Socket addresses -/

/-- The error codes of `getaddrinfo()` and `getnameinfo()`. -/
inductive Eai
  | badflags
  | family
  | memory
  | noname
  | overflow
  | socktype
  deriving DecidableEq, Repr

/-- `in_port_t`, in network byte order. -/
abbrev InPort := Fin 2 → UInt8

/-- `ntohs()`. -/
def ntohs (port : InPort) : ℕ := (port 0).toNat * 256 + (port 1).toNat

/-- `htons()`. -/
def htons (n : ℕ) : InPort := ![.ofNat (n / 256), .ofNat n]

/-- `struct sockaddr_in`. -/
structure SockaddrIn where
  port : InPort
  addr : InAddr

/-- `struct sockaddr_in6`, without the flow information. -/
structure SockaddrIn6 where
  port : InPort
  addr : In6Addr
  scopeId : UInt32

/-- `struct sockaddr`, by its family. -/
inductive Sockaddr
  | inet (sin : SockaddrIn)
  | inet6 (sin6 : SockaddrIn6)
  | other

/-- `sizeof(struct sockaddr_in)`. -/
def sizeofSockaddrIn : ℕ := 16

/-- `sizeof(struct sockaddr_in6)`. -/
def sizeofSockaddrIn6 : ℕ := 32

/-! ## The database of port numbers -/

/-- An entry of `__iana_port_numbers`. -/
structure PortEntry where
  port : InPort
  protoid : UInt8
  name : List Char

/-- `PORTSTR_TCP`. -/
def portstrTcp : UInt8 := 0x1

/-- `PORTSTR_UDP`. -/
def portstrUdp : UInt8 := 0x2

/-- `portstr_match_protoid()`. -/
def PortEntry.matchProtoid (entry : PortEntry) (protoid : UInt8) : Bool :=
  entry.protoid &&& protoid != 0

/-! ## `getnameinfo()` -/

/-- `NI_NUMERICSERV`. -/
def niNumericserv : UInt32 := 0x1

/-- `NI_DGRAM`. -/
def niDgram : UInt32 := 0x2

/-- `NI_MAXHOST`. -/
def niMaxhost : ℕ := 57

/-- `NI_MAXSERV`. -/
def niMaxserv : ℕ := 64

/-- The loop that writes the digits of a number from right to left in front of a string, into a
buffer with some room. -/
def putDigits : (room : ℕ) → (number : ℕ) → (str : List Char) → Option (ℕ × List Char)
  | 0, _, _ => none
  | room + 1, number, str =>
    let str := Nat.digitChar (number % 10) :: str
    if number / 10 ≠ 0 then putDigits room (number / 10) str else some (room, str)

/-- The decimal scope identifier that is appended to an address. -/
def scopeText (scope : UInt32) : Option (List Char) := do
  let (room, scopestr) ← putDigits 11 scope.toNat []
  if room = 0 then none else return '%' :: scopestr

/-- The name of a node. The pointer may be null, and else there is the size of the buffer. -/
def nameNode (sa : Sockaddr) (salen : ℕ) (node : Option ℕ) :
    Option (Except Eai (Option (List Char) × InPort)) :=
  match sa with
  | .inet sin =>
    if salen < sizeofSockaddrIn then
      some (.error .family)
    else
      match node with
      | none => some (.ok (none, sin.port))
      | some nodelen =>
        match inetNtopInet sin.addr nodelen with
        | .error _ => some (.error .overflow)
        | .ok text => some (.ok (some text, sin.port))
  | .inet6 sin6 =>
    if salen < sizeofSockaddrIn6 then
      some (.error .family)
    else
      match node with
      | none => some (.ok (none, sin6.port))
      | some nodelen => do
          match ← inetNtopInet6 sin6.addr nodelen with
          | .error _ => return .error .overflow
          | .ok text =>
            if sin6.scopeId = 0 then
              return .ok (some text, sin6.port)
            else
              let scopestr ← scopeText sin6.scopeId
              if scopestr.length + 1 > nodelen - text.length then
                return .error .overflow
              else
                return .ok (some (text ++ scopestr), sin6.port)
  | .other => some (.error .family)

/-- The entry of a port in the database, which ends at the port zero. -/
def findPort (port : InPort) (protoid : UInt8) : List PortEntry → Option (List Char)
  | [] => none
  | entry :: entries =>
    if entry.port = htons 0 then none
    else if entry.port = port ∧ entry.matchProtoid protoid then some entry.name
    else findPort port protoid entries

/-- The name of a service in a buffer. -/
def nameService (services : List PortEntry) (port : InPort) (servicelen : ℕ) (flags : UInt32) :
    Option (Except Eai (List Char)) :=
  let protoid := if flags &&& niDgram ≠ 0 then portstrUdp else portstrTcp
  let found := if flags &&& niNumericserv = 0 then findPort port protoid services else none
  match found with
  | some str => some (if str.length + 1 > servicelen then .error .overflow else .ok str)
  | none => do
      let (_, portstr) ← putDigits 5 (ntohs port) []
      return if portstr.length + 1 > servicelen then .error .overflow else .ok portstr

/-- `getnameinfo()`. The pointers `node` and `service` may be null, and else there are the sizes of
the buffers. The result has the strings in the buffers. -/
def getnameinfo (services : List PortEntry) (sa : Sockaddr) (salen : ℕ) (node service : Option ℕ)
    (flags : UInt32) : Option (Except Eai (Option (List Char) × Option (List Char))) :=
  if flags &&& ~~~(niNumericserv ||| niDgram) ≠ 0 then
    some (.error .badflags)
  else if node = none ∧ service = none then
    some (.error .noname)
  else do
    match ← nameNode sa salen node with
    | .error eai => return .error eai
    | .ok (text, port) =>
      match service with
      | none => return .ok (text, none)
      | some servicelen =>
        match ← nameService services port servicelen flags with
        | .error eai => return .error eai
        | .ok str => return .ok (text, some str)

/-! ## `getaddrinfo()` -/

/-- `AI_PASSIVE`. -/
def aiPassive : UInt32 := 0x1

/-- `AI_NUMERICSERV`. -/
def aiNumericserv : UInt32 := 0x2

/-- `AF_UNSPEC`. -/
def afUnspec : ℤ := 0

/-- `AF_INET`. -/
def afInet : ℤ := 1

/-- `AF_INET6`. -/
def afInet6 : ℤ := 2

/-- `SOCK_DGRAM`. -/
def sockDgram : ℤ := 0x80

/-- `SOCK_STREAM`. -/
def sockStream : ℤ := 0x82

/-- `IPPROTO_TCP`. -/
def ipprotoTcp : ℤ := 6

/-- `IPPROTO_UDP`. -/
def ipprotoUdp : ℤ := 17

/-- The members of `struct addrinfo` that `getaddrinfo()` reads. -/
structure Hints where
  flags : UInt32
  family : ℤ
  socktype : ℤ
  protocol : ℤ

/-- The default hints. -/
def defaultHints : Hints := ⟨0, afUnspec, 0, 0⟩

/-- An entry of the result. -/
structure Addrinfo where
  family : ℤ
  socktype : ℤ
  protocol : ℤ
  addrlen : ℕ
  addr : Sockaddr
  canonname : Option (List Char)

/-- The loop over decimal digits of an unsigned number. There is no number if there is another
character, no digit at all or an overflow. -/
def parseDecimal (width : ℕ) : (s : List Char) → (number : ℕ) → Option ℕ
  | [], _ => none
  | c :: s, number =>
    if isDecimal c = false ∨ 2 ^ width ≤ number * 10 ∨
        2 ^ width ≤ number * 10 + (c.toNat - '0'.toNat) then
      none
    else if s = [] then
      some (number * 10 + (c.toNat - '0'.toNat))
    else
      parseDecimal width s (number * 10 + (c.toNat - '0'.toNat))

/-- `inet6_pton()`. -/
def inet6Pton (nodename : List Char) : Option (Option (In6Addr × ℕ)) := do
  match ← inetPton6 nodename with
  | some addr => return some (addr, 0)
  | none =>
    match nodename.dropWhile (· ≠ '%') with
    | [] => return none
    | _ :: s =>
      let addrlen := nodename.length - s.length
      if addrlen > inet6Addrstrlen then
        return none
      else
        match ← inetPton6 (nodename.take (addrlen - 1)) with
        | none => return none
        | some addr => return (parseDecimal 32 s 0).map (addr, ·)

/-- The kind and the port of a service. -/
structure Alias where
  socktype : ℤ
  protocol : ℤ
  port : InPort

/-- `NALIASES_MAX`. -/
def naliasesMax : ℕ := 16

/-- `ADD_ALIAS()`. -/
def addAlias (aliases : List Alias) (socktype protocol : ℤ) (port : InPort) : Option (List Alias) :=
  if aliases.length < naliasesMax then some (aliases ++ [⟨socktype, protocol, port⟩]) else none

/-- The loop that looks for the name of a service in the database. -/
def findAliases (strcasecmp : List Char → List Char → ℤ) (servname : List Char)
    (wantTcp wantUdp : Bool) : List PortEntry → List Alias → Option (List Alias)
  | [], aliases => some aliases
  | entry :: entries, aliases =>
    if entry.port = htons 0 then
      some aliases
    else if strcasecmp entry.name servname = 0 then do
      let aliases ←
        if wantTcp && entry.matchProtoid portstrTcp then
          addAlias aliases sockStream ipprotoTcp entry.port
        else some aliases
      let aliases ←
        if wantUdp && entry.matchProtoid portstrUdp then
          addAlias aliases sockDgram ipprotoUdp entry.port
        else some aliases
      findAliases strcasecmp servname wantTcp wantUdp entries aliases
    else
      findAliases strcasecmp servname wantTcp wantUdp entries aliases

/-- The protocols that are wanted: the first component is for TCP, the second one for UDP. -/
def wantedProtocols (hints : Hints) : Except Eai (Bool × Bool) :=
  if hints.socktype = 0 then
    .ok (true, true)
  else if hints.socktype = sockStream then
    if hints.protocol ≠ 0 ∧ hints.protocol ≠ ipprotoTcp then .error .socktype else .ok (true, false)
  else if hints.socktype = sockDgram then
    if hints.protocol ≠ 0 ∧ hints.protocol ≠ ipprotoUdp then .error .socktype else .ok (false, true)
  else
    .error .socktype

/-- The aliases of a service name. -/
def serviceAliases (services : List PortEntry) (strcasecmp : List Char → List Char → ℤ)
    (servname : Option (List Char)) (hints : Hints) : Option (Except Eai (List Alias)) :=
  match servname with
  | none => some (.ok [⟨sockStream, ipprotoTcp, htons 0⟩])
  | some servname =>
    match parseDecimal 16 servname 0 with
    | some port =>
      if hints.socktype = 0 then
        some (.ok [⟨sockStream, ipprotoTcp, htons port⟩, ⟨sockDgram, ipprotoUdp, htons port⟩])
      else
        some (.ok [⟨hints.socktype, hints.protocol, htons port⟩])
    | none =>
      if hints.flags &&& aiNumericserv = 0 then
        match wantedProtocols hints with
        | .error eai => some (.error eai)
        | .ok (wantTcp, wantUdp) =>
          (findAliases strcasecmp servname wantTcp wantUdp services []).map .ok
      else
        some (.ok [])

/-- The IPv4 address of a node name, if there is one. -/
def inetOfNode (nodename : Option (List Char)) (hints : Hints) : Option InAddr :=
  match nodename with
  | none => some (if hints.flags &&& aiPassive ≠ 0 then htonl 0 else htonl 0x7f000001)
  | some nodename => inetAton nodename

/-- The IPv6 address and the scope of a node name, if there are some. -/
def inet6OfNode (nodename : Option (List Char)) (hints : Hints) : Option (Option (In6Addr × ℕ)) :=
  match nodename with
  | none =>
    some (some (fun k => if hints.flags &&& aiPassive = 0 ∧ k = 15 then 1 else 0, 0))
  | some nodename => inet6Pton nodename

/-- The entry for an IPv6 address. -/
def inet6Entry (nodename : Option (List Char)) (addr : In6Addr) (scope : ℕ) (alias_ : Alias) :
    Addrinfo where
  family := afInet6
  socktype := alias_.socktype
  protocol := alias_.protocol
  addrlen := sizeofSockaddrIn6
  addr := .inet6 ⟨alias_.port, addr, .ofNat scope⟩
  canonname := nodename

/-- The entry for an IPv4 address. -/
def inetEntry (nodename : Option (List Char)) (addr : InAddr) (alias_ : Alias) : Addrinfo where
  family := afInet
  socktype := alias_.socktype
  protocol := alias_.protocol
  addrlen := sizeofSockaddrIn
  addr := .inet ⟨alias_.port, addr⟩
  canonname := nodename

/-- `getaddrinfo()`. The entries are those of the linked list, and `allocated` tells whether
`calloc()` succeeds. -/
def getaddrinfo (services : List PortEntry) (strcasecmp : List Char → List Char → ℤ)
    (allocated : Bool) (nodename servname : Option (List Char)) (hints : Option Hints) :
    Option (Except Eai (List Addrinfo)) :=
  let hints := hints.getD defaultHints
  if hints.flags &&& ~~~(aiPassive ||| aiNumericserv) ≠ 0 then
    some (.error .badflags)
  else if nodename = none ∧ servname = none then
    some (.error .noname)
  else if hints.family ≠ afUnspec ∧ hints.family ≠ afInet ∧ hints.family ≠ afInet6 then
    some (.error .family)
  else do
    let inet := if hints.family = afInet6 then none else inetOfNode nodename hints
    let inet6 ← if hints.family = afInet then some none else inet6OfNode nodename hints
    match ← serviceAliases services strcasecmp servname hints with
    | .error eai => return .error eai
    | .ok aliases =>
      let entries :=
        (inet6.elim [] fun (addr, scope) => aliases.map (inet6Entry nodename addr scope)) ++
          inet.elim [] fun addr => aliases.map (inetEntry nodename addr)
      if entries = [] then return .error .noname
      else if allocated = false then return .error .memory
      else return .ok entries

end Cloudlibc.Netdb
