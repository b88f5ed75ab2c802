import Cloudlibc.Foundations.BlockHash
import Cloudlibc.Foundations.Digits

/-!
# The Secure Hash Algorithms

The hash functions of the SHA-2 family as the standard defines them: the message schedule is a
sequence of words that is defined by recursion, and a round moves every register to the next one.
The members of the family differ in their parameters.
-/

set_option autoImplicit false

namespace Cloudlibc.Sha2

open Cloudlibc.BlockHash Cloudlibc.Digits

/-- The eight words of a hash value, or of the working variables. -/
@[ext]
structure Registers (w : ℕ) where
  a : BitVec w
  b : BitVec w
  c : BitVec w
  d : BitVec w
  e : BitVec w
  f : BitVec w
  g : BitVec w
  h : BitVec w
  deriving DecidableEq

/-- The words in their order. -/
def Registers.words {w : ℕ} (r : Registers w) : List (BitVec w) :=
  [r.a, r.b, r.c, r.d, r.e, r.f, r.g, r.h]

/-- The sum of two hash values. -/
def Registers.add {w : ℕ} (r s : Registers w) : Registers w :=
  ⟨r.a + s.a, r.b + s.b, r.c + s.c, r.d + s.d, r.e + s.e, r.f + s.f, r.g + s.g, r.h + s.h⟩

def ch {w : ℕ} (x y z : BitVec w) : BitVec w := (x &&& y) ^^^ (~~~x &&& z)

def maj {w : ℕ} (x y z : BitVec w) : BitVec w := (x &&& y) ^^^ (x &&& z) ^^^ (y &&& z)

/-- What the members of the family differ in. There is one constant for each round. -/
structure Parameters (w : ℕ) where
  constants : List (BitVec w)
  initial : Registers w
  bigSigma0 : BitVec w → BitVec w
  bigSigma1 : BitVec w → BitVec w
  sigma0 : BitVec w → BitVec w
  sigma1 : BitVec w → BitVec w
  lengthSize : ℕ

variable {w : ℕ}

/-- Word `t` of a block. -/
def blockWord (block : List UInt8) (t : ℕ) : BitVec w :=
  .ofNat w (value 256 0 (((block.drop (t * (w / 8))).take (w / 8)).map UInt8.toNat))

namespace Parameters

variable (sha : Parameters w)

/-- The message schedule. -/
def schedule (message : ℕ → BitVec w) (t : ℕ) : BitVec w :=
  if t < 16 then message t
  else
    sha.sigma1 (schedule message (t - 2)) + schedule message (t - 7) +
      sha.sigma0 (schedule message (t - 15)) + schedule message (t - 16)
termination_by t

/-- A round with constant `k` and word `x` of the message schedule. -/
def step (r : Registers w) (k x : BitVec w) : Registers w :=
  let t1 := r.h + sha.bigSigma1 r.e + ch r.e r.f r.g + k + x
  let t2 := sha.bigSigma0 r.a + maj r.a r.b r.c
  ⟨t1 + t2, r.a, r.b, r.c, r.d + t1, r.e, r.f, r.g⟩

/-- The first rounds. -/
def steps (message : ℕ → BitVec w) (start : Registers w) (count : ℕ) : Registers w :=
  (List.range count).foldl
    (fun r t => sha.step r (sha.constants.getD t 0) (sha.schedule message t)) start

/-- The compression function. -/
def compress (hash : Registers w) (block : List UInt8) : Registers w :=
  hash.add (sha.steps (blockWord block) hash sha.constants.length)

/-- The size of a block is that of 16 words. -/
def blockSize (_ : Parameters w) : ℕ := 16 * (w / 8)

/-- The digest of a message. -/
def digest (message : List UInt8) : List UInt8 :=
  let text := padded sha.blockSize sha.lengthSize message
  let hash := absorb sha.blockSize sha.compress sha.initial text (text.length / sha.blockSize)
  hash.words.flatMap fun x => bigEndian (w / 8) x.toNat

section

variable (message : ℕ → BitVec w)

include message

theorem schedule_of_lt {t : ℕ} (early : t < 16) :
    sha.schedule message t = message t := by
  rw [schedule, if_pos early]

theorem schedule_add (t : ℕ) :
    sha.schedule message (t + 16) =
      sha.sigma1 (sha.schedule message (t + 14)) + sha.schedule message (t + 9) +
        sha.sigma0 (sha.schedule message (t + 1)) + sha.schedule message t := by
  rw [schedule, if_neg (by omega)]
  rfl

theorem steps_zero (start : Registers w) :
    sha.steps message start 0 = start := rfl

theorem steps_succ (start : Registers w) (count : ℕ) :
    sha.steps message start (count + 1) =
      sha.step (sha.steps message start count) (sha.constants.getD count 0)
        (sha.schedule message count) := by
  rw [steps, List.range_succ, List.foldl_append]
  rfl

end

end Parameters

end Cloudlibc.Sha2
