import Cloudlibc.Foundations.Sha2

/-!
# SHA-256 and SHA-512

The functions of `crypt_hash_sha256.h` and `crypt_hash_sha512.h`. The two files differ in the width
of the words, in their constants, in the parser of a block and in the counter for the length; the
rest is one definition with these as parameters. The registers are those of the standard, with the
array `H` in the place of the hash value. A result of `none` stands for an access outside of an
array, or for a loop that does not end.
-/

set_option autoImplicit false

namespace Cloudlibc.Unistd

open Cloudlibc.Sha2

/-! ## Logical functions -/

section Logical

variable {w : ℕ}

/-- `S()`. -/
def rotate (x : BitVec w) (y : ℕ) : BitVec w := x <<< (w - y) ||| x >>> y

/-- `Ch()`. -/
def chMacro (x y z : BitVec w) : BitVec w := (x &&& y) ^^^ (~~~x &&& z)

/-- `Maj()`. -/
def majMacro (x y z : BitVec w) : BitVec w := (x &&& y) ^^^ (x &&& z) ^^^ (y &&& z)

end Logical

/-- What the two files differ in: words of `w` bits, a buffer of `size` bytes and a counter `L` of
the bytes. -/
structure Variant (w size : ℕ) (L : Type) where
  initial : Registers w
  bigSigma0 : BitVec w → BitVec w
  bigSigma1 : BitVec w → BitVec w
  sigma0 : BitVec w → BitVec w
  sigma1 : BitVec w → BitVec w
  constants : List (BitVec w)
  lastPass : ℕ
  parse : List UInt8 → ℕ → Option (BitVec w)
  zero : L
  used : L → ℕ
  count : L → ℕ → L
  sizeofLength : ℕ
  lengthBits : L → List (BitVec 64)

/-- The hash computation state. -/
structure Context (w size : ℕ) (L : Type) where
  H : Registers w
  length : L
  buffer : Vector UInt8 size

namespace Variant

variable {w size : ℕ} {L : Type} (sha : Variant w size L)

/-! ## The compression function -/

/-- The two statements of a round. They change the registers that are called `d` and `h` here. -/
def round (k x a b c d e f g h : BitVec w) : BitVec w × BitVec w :=
  let h := h + (sha.bigSigma1 e + chMacro e f g + k + x)
  let d := d + h
  let h := h + (sha.bigSigma0 a + majMacro a b c)
  (d, h)

scoped instance neZero16 : NeZero 16 := ⟨by decide⟩

/-- Eight rounds, with the constants from `i + j` and the words from `j` on. -/
def eightRounds (W : Vector (BitVec w) 16) (i : ℕ) (j : Fin 16) (r : Registers w) :
    Option (Registers w) := do
  let ⟨a, b, c, d, e, f, g, h⟩ := r
  let (d, h) := sha.round (← sha.constants[i + j]?) (W.get j) a b c d e f g h
  let (c, g) := sha.round (← sha.constants[i + j + 1]?) (W.get (j + 1)) h a b c d e f g
  let (b, f) := sha.round (← sha.constants[i + j + 2]?) (W.get (j + 2)) g h a b c d e f
  let (a, e) := sha.round (← sha.constants[i + j + 3]?) (W.get (j + 3)) f g h a b c d e
  let (h, d) := sha.round (← sha.constants[i + j + 4]?) (W.get (j + 4)) e f g h a b c d
  let (g, c) := sha.round (← sha.constants[i + j + 5]?) (W.get (j + 5)) d e f g h a b c
  let (f, b) := sha.round (← sha.constants[i + j + 6]?) (W.get (j + 6)) c d e f g h a b
  let (e, a) := sha.round (← sha.constants[i + j + 7]?) (W.get (j + 7)) b c d e f g h a
  return ⟨a, b, c, d, e, f, g, h⟩

/-- The expansion of word `j`. -/
def expandWord (W : Vector (BitVec w) 16) (j : Fin 16) : Vector (BitVec w) 16 :=
  W.set j (W.get j + (sha.sigma1 (W.get (j + 14)) + W.get (j + 9) + sha.sigma0 (W.get (j + 1))))

/-- The expanded message block. -/
def expand (W : Vector (BitVec w) 16) : Vector (BitVec w) 16 :=
  (List.finRange 16).foldl sha.expandWord W

/-- The main loop. -/
def mainLoop : (fuel : ℕ) → (i : ℕ) → (W : Vector (BitVec w) 16) → (r : Registers w) →
    Option (Registers w)
  | 0, _, _, _ => none
  | fuel + 1, i, W, r => do
      let r ← sha.eightRounds W i 8 (← sha.eightRounds W i 0 r)
      if i = sha.lastPass then return r else mainLoop fuel (i + 16) (sha.expand W) r

/-- The words of a block. -/
def parseBlock (block : List UInt8) : Option (Vector (BitVec w) 16) := do
  let words ← (List.range 16).mapM (sha.parse block)
  return .ofFn fun j => words.getD j 0

/-- `SHAX_Transform()`. -/
def transform (H : Registers w) (block : List UInt8) : Option (Registers w) := do
  let W ← sha.parseBlock block
  let r ← sha.mainLoop (sha.lastPass + 1) 0 W H
  return H.add r

/-! ## Buffering -/

/-- `SHAX_Init()`. The buffer keeps what it has. -/
def init (ctx : Context w size L) : Context w size L :=
  { ctx with H := sha.initial, length := sha.zero }

/-- Copying the first `len` bytes of an array to the buffer. -/
def copy (buffer : Vector UInt8 size) (start : ℕ) (bytes : List UInt8) (len : ℕ) :
    Option (Vector UInt8 size) :=
  if start + len ≤ size ∧ len ≤ bytes.length then
    some <| .ofFn fun k =>
      if start ≤ k then ((bytes.take len)[k - start]?).getD (buffer.get k) else buffer.get k
  else
    none

/-- The loop over the blocks that are not copied. -/
def blocksLoop : (fuel : ℕ) → (H : Registers w) → (d : List UInt8) →
    Option (Registers w × List UInt8)
  | 0, _, _ => none
  | fuel + 1, H, d => do
      if d.length ≥ size then
        blocksLoop fuel (← sha.transform H (d.take size)) (d.drop size)
      else
        return (H, d)

/-- `SHAX_Update()`. -/
def update (ctx : Context w size L) (data : List UInt8) : Option (Context w size L) := do
  let len := data.length
  let used := sha.used ctx.length
  let remaining := size - used
  if len < remaining then
    let buffer ← copy ctx.buffer used data len
    return { ctx with buffer := buffer, length := sha.count ctx.length len }
  else
    let buffer ← copy ctx.buffer used data remaining
    let H ← sha.transform ctx.H buffer.toList
    let (H, d) ← sha.blocksLoop (len + 1) H (data.drop remaining)
    let buffer ← copy buffer 0 d d.length
    return ⟨H, sha.count ctx.length len, buffer⟩

/-- The macro `encode()`, on words of `v` bits. -/
def encode {v : ℕ} (words : List (BitVec v)) : List UInt8 :=
  words.flatMap fun x : BitVec v =>
    (List.range (v / 8)).map fun j => UInt8.ofNat (x >>> ((v / 8 - 1 - j) * 8)).toNat

/-- `SHAX_Final()`. -/
def final (ctx : Context w size L) : Option (List UInt8) := do
  let used := sha.used ctx.length
  let padding : List UInt8 := 0x80 :: List.replicate (size - sha.sizeofLength - 1) 0
  let (H, buffer) ←
    if used < padding.length then
      (do return (ctx.H, ← copy ctx.buffer used padding (padding.length - used)))
    else
      (do
        let buffer ← copy ctx.buffer used padding (size - used)
        let H ← sha.transform ctx.H buffer.toList
        return (H, ← copy buffer 0 (List.replicate padding.length 0) padding.length))
  let length := encode (sha.lengthBits ctx.length)
  let buffer ← copy buffer (size - sha.sizeofLength) length length.length
  let H ← sha.transform H buffer.toList
  return encode H.words

/-- The digest of the data of successive calls of `SHAX_Update()`. -/
def hash (ctx : Context w size L) (chunks : List (List UInt8)) : Option (List UInt8) := do
  sha.final (← chunks.foldlM sha.update (sha.init ctx))

end Variant

/-! ## SHA-256 -/

/-- Byte `i` of a block as a word. -/
def byteWord (w : ℕ) (block : List UInt8) (i : ℕ) : Option (BitVec w) := do
  return .ofNat w (← block[i]?).toNat

/-- Word `j` of a block of `SHA256_Transform()`. -/
def sha256Word (block : List UInt8) (j : ℕ) : Option (BitVec 32) := do
  return (← byteWord 32 block (j * 4 + 0)) <<< 24 ||| (← byteWord 32 block (j * 4 + 1)) <<< 16 |||
    (← byteWord 32 block (j * 4 + 2)) <<< 8 ||| (← byteWord 32 block (j * 4 + 3)) <<< 0

/-- `crypt_hash_sha256.h`. -/
def sha256 : Variant 32 64 (BitVec 64) where
  initial := ⟨0x6a09e667, 0xbb67ae85, 0x3c6ef372, 0xa54ff53a, 0x510e527f, 0x9b05688c,
    0x1f83d9ab, 0x5be0cd19⟩
  bigSigma0 x := rotate x 2 ^^^ rotate x 13 ^^^ rotate x 22
  bigSigma1 x := rotate x 6 ^^^ rotate x 11 ^^^ rotate x 25
  sigma0 x := rotate x 7 ^^^ rotate x 18 ^^^ x >>> 3
  sigma1 x := rotate x 17 ^^^ rotate x 19 ^^^ x >>> 10
  constants := [
    0x428a2f98, 0x71374491, 0xb5c0fbcf, 0xe9b5dba5, 0x3956c25b, 0x59f111f1, 0x923f82a4,
    0xab1c5ed5, 0xd807aa98, 0x12835b01, 0x243185be, 0x550c7dc3, 0x72be5d74, 0x80deb1fe,
    0x9bdc06a7, 0xc19bf174, 0xe49b69c1, 0xefbe4786, 0x0fc19dc6, 0x240ca1cc, 0x2de92c6f,
    0x4a7484aa, 0x5cb0a9dc, 0x76f988da, 0x983e5152, 0xa831c66d, 0xb00327c8, 0xbf597fc7,
    0xc6e00bf3, 0xd5a79147, 0x06ca6351, 0x14292967, 0x27b70a85, 0x2e1b2138, 0x4d2c6dfc,
    0x53380d13, 0x650a7354, 0x766a0abb, 0x81c2c92e, 0x92722c85, 0xa2bfe8a1, 0xa81a664b,
    0xc24b8b70, 0xc76c51a3, 0xd192e819, 0xd6990624, 0xf40e3585, 0x106aa070, 0x19a4c116,
    0x1e376c08, 0x2748774c, 0x34b0bcb5, 0x391c0cb3, 0x4ed8aa4a, 0x5b9cca4f, 0x682e6ff3,
    0x748f82ee, 0x78a5636f, 0x84c87814, 0x8cc70208, 0x90befffa, 0xa4506ceb, 0xbef9a3f7,
    0xc67178f2]
  lastPass := 48
  parse := sha256Word
  zero := 0
  used length := length.toNat % 64
  count length len := length + .ofNat 64 len
  sizeofLength := 8
  lengthBits length := [length <<< 3]

/-- `SHA256_CTX`. -/
abbrev Sha256Ctx := Context 32 64 (BitVec 64)

/-- `SHA256_Init()`. -/
def sha256Init : Sha256Ctx → Sha256Ctx := sha256.init

/-- `SHA256_Transform()`. -/
def sha256Transform : Registers 32 → List UInt8 → Option (Registers 32) := sha256.transform

/-- `SHA256_Update()`. -/
def sha256Update : Sha256Ctx → List UInt8 → Option Sha256Ctx := sha256.update

/-- `SHA256_Final()`. -/
def sha256Final : Sha256Ctx → Option (List UInt8) := sha256.final

/-! ## SHA-512 -/

/-- Word `j` of a block of `SHA512_Transform()`. -/
def sha512Word (block : List UInt8) (j : ℕ) : Option (BitVec 64) := do
  return (← byteWord 64 block (j * 8 + 0)) <<< 56 ||| (← byteWord 64 block (j * 8 + 1)) <<< 48 |||
    (← byteWord 64 block (j * 8 + 2)) <<< 40 ||| (← byteWord 64 block (j * 8 + 3)) <<< 32 |||
    (← byteWord 64 block (j * 8 + 4)) <<< 24 ||| (← byteWord 64 block (j * 8 + 5)) <<< 16 |||
    (← byteWord 64 block (j * 8 + 6)) <<< 8 ||| (← byteWord 64 block (j * 8 + 7)) <<< 0

/-- The counter of 128 bits in `SHA512_Update()`. -/
def sha512Count (length : BitVec 64 × BitVec 64) (len : ℕ) : BitVec 64 × BitVec 64 :=
  let high := length.1 + .ofNat 64 (len >>> 32 >>> 32)
  let overflow := length.2.toNat + len % 2 ^ 64 ≥ 2 ^ 64
  (if overflow then high + 1 else high, length.2 + .ofNat 64 len)

/-- `crypt_hash_sha512.h`. -/
def sha512 : Variant 64 128 (BitVec 64 × BitVec 64) where
  initial := ⟨0x6a09e667f3bcc908, 0xbb67ae8584caa73b, 0x3c6ef372fe94f82b, 0xa54ff53a5f1d36f1,
    0x510e527fade682d1, 0x9b05688c2b3e6c1f, 0x1f83d9abfb41bd6b, 0x5be0cd19137e2179⟩
  bigSigma0 x := rotate x 28 ^^^ rotate x 34 ^^^ rotate x 39
  bigSigma1 x := rotate x 14 ^^^ rotate x 18 ^^^ rotate x 41
  sigma0 x := rotate x 1 ^^^ rotate x 8 ^^^ x >>> 7
  sigma1 x := rotate x 19 ^^^ rotate x 61 ^^^ x >>> 6
  constants := [
    0x428a2f98d728ae22, 0x7137449123ef65cd, 0xb5c0fbcfec4d3b2f, 0xe9b5dba58189dbbc,
    0x3956c25bf348b538, 0x59f111f1b605d019, 0x923f82a4af194f9b, 0xab1c5ed5da6d8118,
    0xd807aa98a3030242, 0x12835b0145706fbe, 0x243185be4ee4b28c, 0x550c7dc3d5ffb4e2,
    0x72be5d74f27b896f, 0x80deb1fe3b1696b1, 0x9bdc06a725c71235, 0xc19bf174cf692694,
    0xe49b69c19ef14ad2, 0xefbe4786384f25e3, 0x0fc19dc68b8cd5b5, 0x240ca1cc77ac9c65,
    0x2de92c6f592b0275, 0x4a7484aa6ea6e483, 0x5cb0a9dcbd41fbd4, 0x76f988da831153b5,
    0x983e5152ee66dfab, 0xa831c66d2db43210, 0xb00327c898fb213f, 0xbf597fc7beef0ee4,
    0xc6e00bf33da88fc2, 0xd5a79147930aa725, 0x06ca6351e003826f, 0x142929670a0e6e70,
    0x27b70a8546d22ffc, 0x2e1b21385c26c926, 0x4d2c6dfc5ac42aed, 0x53380d139d95b3df,
    0x650a73548baf63de, 0x766a0abb3c77b2a8, 0x81c2c92e47edaee6, 0x92722c851482353b,
    0xa2bfe8a14cf10364, 0xa81a664bbc423001, 0xc24b8b70d0f89791, 0xc76c51a30654be30,
    0xd192e819d6ef5218, 0xd69906245565a910, 0xf40e35855771202a, 0x106aa07032bbd1b8,
    0x19a4c116b8d2d0c8, 0x1e376c085141ab53, 0x2748774cdf8eeb99, 0x34b0bcb5e19b48a8,
    0x391c0cb3c5c95a63, 0x4ed8aa4ae3418acb, 0x5b9cca4f7763e373, 0x682e6ff3d6b2b8a3,
    0x748f82ee5defb2fc, 0x78a5636f43172f60, 0x84c87814a1f0ab72, 0x8cc702081a6439ec,
    0x90befffa23631e28, 0xa4506cebde82bde9, 0xbef9a3f7b2c67915, 0xc67178f2e372532b,
    0xca273eceea26619c, 0xd186b8c721c0c207, 0xeada7dd6cde0eb1e, 0xf57d4f7fee6ed178,
    0x06f067aa72176fba, 0x0a637dc5a2c898a6, 0x113f9804bef90dae, 0x1b710b35131c471b,
    0x28db77f523047d84, 0x32caab7b40c72493, 0x3c9ebe0a15c9bebc, 0x431d67c49c100d4c,
    0x4cc5d4becb3e42b6, 0x597f299cfc657e2a, 0x5fcb6fab3ad6faec, 0x6c44198c4a475817]
  lastPass := 64
  parse := sha512Word
  zero := (0, 0)
  used length := length.2.toNat % 128
  count := sha512Count
  sizeofLength := 16
  lengthBits length := [length.1 <<< 3 ||| length.2 >>> 61, length.2 <<< 3]

/-- `SHA512_CTX`. -/
abbrev Sha512Ctx := Context 64 128 (BitVec 64 × BitVec 64)

/-- `SHA512_Init()`. -/
def sha512Init : Sha512Ctx → Sha512Ctx := sha512.init

/-- `SHA512_Transform()`. -/
def sha512Transform : Registers 64 → List UInt8 → Option (Registers 64) := sha512.transform

/-- `SHA512_Update()`. -/
def sha512Update : Sha512Ctx → List UInt8 → Option Sha512Ctx := sha512.update

/-- `SHA512_Final()`. -/
def sha512Final : Sha512Ctx → Option (List UInt8) := sha512.final

end Cloudlibc.Unistd
