import Cloudlibc.Stdlib.Strtoint

/-!
# Hashing of passwords

`crypt_r()` with the three algorithms of the Modular Crypt Format that it has. The hash functions
are parameters: `MD5_Init()`, `MD5_Update()` and `MD5_Final()` together compute a function of the
bytes that have been fed, and so do the functions for SHA-256 and SHA-512. A string is the list of
its bytes without the null byte at its end, and a result of `none` stands for an access outside of
an array.
-/

set_option autoImplicit false

namespace Cloudlibc.Unistd

open Cloudlibc.Stdio Cloudlibc.Stdlib

/-! ## Salts and Base64 -/

/-- The Base64 character set. -/
def base64 : List UInt8 :=
  "./0123456789ABCDEFGHIJKLMNOPQRSTUVWXYZabcdefghijklmnopqrstuvwxyz".toList.map byteOf

/-- `crypt_saltlen()`. -/
def cryptSaltlen : (salt : List UInt8) → (max : ℕ) → ℕ
  | c :: salt, max + 1 => if c ∈ base64 then cryptSaltlen salt max + 1 else 0
  | _, _ => 0

/-- `crypt_base64_1()`. -/
def cryptBase641 (c1 : UInt8) : Option (List UInt8) := do
  let v := c1.toNat
  return [← base64[v &&& 0x3f]?, ← base64[v >>> 6]?]

/-- `crypt_base64_2()`. -/
def cryptBase642 (c1 c2 : UInt8) : Option (List UInt8) := do
  let v := c2.toNat <<< 8 ||| c1.toNat
  return [← base64[v &&& 0x3f]?, ← base64[(v >>> 6) &&& 0x3f]?, ← base64[v >>> 12]?]

/-- `crypt_base64_3()`. -/
def cryptBase643 (c1 c2 c3 : UInt8) : Option (List UInt8) := do
  let v := c3.toNat <<< 16 ||| c2.toNat <<< 8 ||| c1.toNat
  return [← base64[v &&& 0x3f]?, ← base64[(v >>> 6) &&& 0x3f]?, ← base64[(v >>> 12) &&& 0x3f]?,
    ← base64[v >>> 18]?]

/-! ## Parts that the algorithms share -/

/-- What `MD5_Update_sequence()` and `SHAX_Update_sequence()` feed for a digest of `n` bytes and a
total length of `l`. -/
def updateSequence (n : ℕ) (buf : List UInt8) : (fuel : ℕ) → (l : ℕ) → List UInt8
  | 0, l => buf.take l
  | fuel + 1, l => if l > n then buf ++ updateSequence n buf fuel (l - n) else buf.take l

/-- What is fed for the bits of the length of the key. -/
def keyBits (odd even : List UInt8) (i : ℕ) : List UInt8 :=
  if 0 < i then (if i % 2 ≠ 0 then odd else even) ++ keyBits odd even (i >>> 1) else []
termination_by i
decreasing_by
  rw [Nat.shiftRight_one]
  omega

/-- What round `r` feeds, where `p` and `s` stand for the key and for the salt. -/
def roundInput (p s aC : List UInt8) (r : ℕ) : List UInt8 :=
  (if r % 2 ≠ 0 then p else aC) ++ (if r % 3 ≠ 0 then s else []) ++
    (if r % 7 ≠ 0 then p else []) ++ if r % 2 ≠ 0 then aC else p

/-- The loop over the rounds. -/
def cryptRounds {n : ℕ} (hash : List UInt8 → Vector UInt8 n) (p s : List UInt8) (rounds : ℕ)
    (aC : Vector UInt8 n) : Vector UInt8 n :=
  (List.range rounds).foldl (fun aC r => hash (roundInput p s aC.toList r)) aC

/-- The string at the start of the buffer of `struct crypt_data`, which has 256 bytes. -/
def storeString (out : List UInt8) : Option (List UInt8) :=
  if out.length + 1 ≤ 256 then some out else none

/-! ## MD5 -/

/-- The digest that `crypt_mcf_md5()` computes. -/
def md5Digest (hash : List UInt8 → Vector UInt8 16) (key salt : List UInt8) : Vector UInt8 16 :=
  let b := hash (key ++ salt ++ key)
  let aC := hash (key ++ "$1$".toList.map byteOf ++ salt ++
    updateSequence 16 b.toList key.length key.length ++ keyBits [0] (key.take 1) key.length)
  cryptRounds hash key salt 1000 aC

/-- `crypt_mcf_md5()`. -/
def cryptMcfMd5 (hash : List UInt8 → Vector UInt8 16) (key salt : List UInt8) :
    Option (List UInt8) := do
  let salt := salt.take (cryptSaltlen salt 8)
  let aC := md5Digest hash key salt
  storeString ("$1$".toList.map byteOf ++ salt ++ [byteOf '$'] ++
    (← cryptBase643 aC[12] aC[6] aC[0]) ++ (← cryptBase643 aC[13] aC[7] aC[1]) ++
    (← cryptBase643 aC[14] aC[8] aC[2]) ++ (← cryptBase643 aC[15] aC[9] aC[3]) ++
    (← cryptBase643 aC[5] aC[10] aC[4]) ++ (← cryptBase641 aC[11]))

/-! ## SHA-256 and SHA-512 -/

def roundsMin : ℕ := 1000

def roundsDefault : ℕ := 5000

def roundsMax : ℕ := 999999999

def roundsPrefix : List UInt8 := "rounds=".toList.map byteOf

/-- The variables that the "rounds=" attribute sets. -/
structure Rounds where
  rounds : ℕ
  roundsSpecified : Bool
  salt : List UInt8

/-- The parser of the "rounds=" attribute. -/
def parseRounds (salt : List UInt8) : Option Rounds := do
  if roundsPrefix.isPrefixOf salt then
    let ⟨r, ending, _⟩ ← strtoul (salt.drop roundsPrefix.length) 10
    if peek ending 0 = byteOf '$' then
      let rounds := if r < roundsMin then roundsMin else if r > roundsMax then roundsMax else r.toNat
      return ⟨rounds, true, ending.drop 1⟩
    else
      return ⟨roundsDefault, false, salt⟩
  else
    return ⟨roundsDefault, false, salt⟩

/-- The digest that `crypt_mcf_shaX()` computes. -/
def shaXDigest {n : ℕ} (hash : List UInt8 → Vector UInt8 n) (key salt : List UInt8) (rounds : ℕ) :
    Option (Vector UInt8 n) := do
  let sequence := fun digest : Vector UInt8 n => fun length =>
    updateSequence n digest.toList length length
  let b := hash (key ++ salt ++ key)
  let aC := hash (key ++ salt ++ sequence b key.length ++ keyBits b.toList key key.length)
  let dp := hash (List.replicate key.length key).flatten
  let ds := hash (List.replicate (16 + (← aC.toList[0]?).toNat) salt).flatten
  return cryptRounds hash (sequence dp key.length) (sequence ds salt.length) rounds aC

/-- The loop that writes the digits of the number of rounds to `str`, from its end. -/
def roundsLoop : (room : ℕ) → (rounds : ℕ) → (s : List UInt8) → Option (List UInt8)
  | 0, _, _ => none
  | room + 1, rounds, s =>
    let s := decimalByte (rounds % 10) :: s
    if rounds / 10 > 0 then roundsLoop room (rounds / 10) s else some s

/-- The loop that encodes groups of three bytes. -/
def encodeLoop (aC : List UInt8) (map1 map2 map3 : List ℕ) :
    (count : ℕ) → (i : ℕ) → Option (List UInt8)
  | 0, _ => some []
  | count + 1, i => do
      let group ← cryptBase643 (← aC[← map1[i]?]?) (← aC[← map2[i]?]?) (← aC[← map3[i]?]?)
      return group ++ (← encodeLoop aC map1 map2 map3 count (i + 1))

/-- The Base64 encoding of a digest. -/
def encodeDigest (aC : List UInt8) (map1 map2 map3 : List ℕ) : Option (List UInt8) := do
  let groups ← encodeLoop aC map1 map2 map3 (aC.length / 3) 0
  let i := aC.length / 3
  match aC.length % 3 with
  | 1 => return groups ++ (← cryptBase641 (← aC[← map1[i]?]?))
  | 2 => return groups ++ (← cryptBase642 (← aC[← map1[i]?]?) (← aC[← map2[i]?]?))
  | _ => return groups

/-- The attribute in the result. -/
def roundsAttribute (rounds : Rounds) : Option (List UInt8) := do
  if rounds.roundsSpecified then
    return roundsPrefix ++ (← roundsLoop 16 rounds.rounds []) ++ [byteOf '$']
  else
    return []

/-- `crypt_mcf_shaX()`. -/
def cryptMcfShaX {n : ℕ} (hash : List UInt8 → Vector UInt8 n) (map1 map2 map3 : List ℕ)
    (key salt : List UInt8) : Option (List UInt8) := do
  let rounds ← parseRounds salt
  let salt := rounds.salt.take (cryptSaltlen rounds.salt 16)
  let aC ← shaXDigest hash key salt rounds.rounds
  storeString ([byteOf '$', byteOf (if n = 32 then '5' else '6'), byteOf '$'] ++
    (← roundsAttribute rounds) ++ salt ++ [byteOf '$'] ++
    (← encodeDigest aC.toList map1 map2 map3))

/-- `crypt_mcf_sha256()`. -/
def cryptMcfSha256 (hash : List UInt8 → Vector UInt8 32) (key salt : List UInt8) :
    Option (List UInt8) :=
  cryptMcfShaX hash [20, 11, 2, 23, 14, 5, 26, 17, 8, 29, 30]
    [10, 1, 22, 13, 4, 25, 16, 7, 28, 19, 31] [0, 21, 12, 3, 24, 15, 6, 27, 18, 9] key salt

/-- `crypt_mcf_sha512()`. -/
def cryptMcfSha512 (hash : List UInt8 → Vector UInt8 64) (key salt : List UInt8) :
    Option (List UInt8) :=
  cryptMcfShaX hash
    [42, 1, 23, 45, 4, 26, 48, 7, 29, 51, 10, 32, 54, 13, 35, 57, 16, 38, 60, 19, 41, 63]
    [21, 43, 2, 24, 46, 5, 27, 49, 8, 30, 52, 11, 33, 55, 14, 36, 58, 17, 39, 61, 20]
    [0, 22, 44, 3, 25, 47, 6, 28, 50, 9, 31, 53, 12, 34, 56, 15, 37, 59, 18, 40, 62] key salt

/-! ## The function itself -/

/-- The hash functions. -/
structure Hashes where
  md5 : List UInt8 → Vector UInt8 16
  sha256 : List UInt8 → Vector UInt8 32
  sha512 : List UInt8 → Vector UInt8 64

/-- The setting starts with the header of an algorithm. -/
def HasHeader (salt : List UInt8) (algorithm : Char) : Prop :=
  peek salt 0 = byteOf '$' ∧ peek salt 1 = byteOf algorithm ∧ peek salt 2 = byteOf '$'

instance (salt : List UInt8) (algorithm : Char) : Decidable (HasHeader salt algorithm) :=
  inferInstanceAs (Decidable (_ ∧ _ ∧ _))

/-- `crypt_r()`. -/
def cryptR (hashes : Hashes) (key salt : List UInt8) : Option (Except Errno (List UInt8)) := do
  if HasHeader salt '1' then
    return .ok (← cryptMcfMd5 hashes.md5 key (salt.drop 3))
  else if HasHeader salt '5' then
    return .ok (← cryptMcfSha256 hashes.sha256 key (salt.drop 3))
  else if HasHeader salt '6' then
    return .ok (← cryptMcfSha512 hashes.sha512 key (salt.drop 3))
  else
    return .error .ENOSYS

end Cloudlibc.Unistd
