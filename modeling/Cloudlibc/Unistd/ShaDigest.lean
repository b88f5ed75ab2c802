import Cloudlibc.Unistd.ShaTransform

/-!
# The digests of SHA-256 and SHA-512

However a message is split into calls of `SHAX_Update()`, the context has compressed the full blocks
of it, and the buffer has the bytes behind them (`Absorbed`). `SHAX_Final()` then compresses the one
or two blocks that the padding completes, so that the result is the digest of the standard
(`hash_eq_digest`). The two headers are instances of that (`sha_hash_eq_digest`).
-/

set_option autoImplicit false

namespace Cloudlibc.Unistd.Variant

open Cloudlibc.BlockHash Cloudlibc.Digits Cloudlibc.Sha2 Option
open List hiding Vector pure_def

variable {w size : ℕ} {L : Type}

/-- The code has the parameters of the standard and `total` is the value of its counter, for
messages that are shorter than `2 ^ 61` bytes. -/
structure Implements (sha : Variant w size L) (standard : Parameters w) (total : L → ℕ) : Prop
    extends Computes sha standard where
  initial : sha.initial = standard.initial
  blockSize : standard.blockSize = size
  sizeofLength : sha.sizeofLength = standard.lengthSize
  room : 2 * sha.sizeofLength < size
  zero : total sha.zero = 0
  used : ∀ length, sha.used length = total length % size
  count : ∀ length len, total length + len < 2 ^ 61 → total (sha.count length len) = total length + len
  lengthBits : ∀ length, total length < 2 ^ 61 →
    encode (sha.lengthBits length) = bigEndian standard.lengthSize (8 * total length)

/-! ## Copying and encoding -/

theorem copy_toList (buffer : Vector UInt8 size) {start len : ℕ} {bytes : List UInt8}
    (fits : start + len ≤ size) (enough : len ≤ bytes.length) :
    ∃ buffer', copy buffer start bytes len = some buffer' ∧ buffer'.toList =
      buffer.toList.take start ++ bytes.take len ++ buffer.toList.drop (start + len) := by
  refine ⟨_, if_pos ⟨fits, enough⟩, ?_⟩
  have length : (bytes.take len).length = len := List.length_take_of_le enough
  have length' : (buffer.toList.take start).length = start :=
    length_take_of_le (by rw [Vector.length_toList]; omega)
  have total : buffer.toList.length = size := Vector.length_toList
  have read : ∀ k (inside : k < size), buffer.toList[k]? = some (buffer.get ⟨k, inside⟩) := by
    intro k inside
    rw [getElem?_eq_getElem (by rwa [total]), Vector.getElem_toList]
    rfl
  rw [Vector.toList_ofFn]
  apply ext_getElem?
  intro k
  rw [List.getElem?_ofFn, List.append_assoc]
  by_cases inside : k < size
  · rw [dif_pos inside]
    dsimp only
    by_cases front : k < start
    · rw [if_neg (Nat.not_le.mpr front), getElem?_append_left (by omega),
        getElem?_take_of_lt front, read k inside]
    · rw [if_pos (Nat.not_lt.mp front), getElem?_append_right (by omega), length']
      by_cases copied : k - start < len
      · rw [getElem?_append_left (by omega)]
        obtain ⟨b, found⟩ : ∃ b, (bytes.take len)[k - start]? = some b :=
          ⟨_, getElem?_eq_getElem (by omega)⟩
        rw [found]
        rfl
      · rw [getElem?_append_right (by omega), getElem?_drop, length,
          show start + len + (k - start - len) = k by omega, read k inside,
          getElem?_eq_none (by omega)]
        rfl
  · rw [dif_neg inside, getElem?_eq_none]
    simp only [length_append, length, length', length_drop, total]
    omega

theorem encode_eq {v : ℕ} (words : List (BitVec v)) :
    encode words = words.flatMap fun x => bigEndian (v / 8) x.toNat := by
  rw [encode]
  congr 1
  funext x
  refine map_congr_left fun j _ => ?_
  rw [BitVec.toNat_ushiftRight, Nat.shiftRight_eq_div_pow, Nat.mul_comm, Nat.pow_mul]

section Buffering

variable {sha : Variant w size L} {standard : Parameters w} {total : L → ℕ}

/-- The context has absorbed a message. -/
structure Absorbed (standard : Parameters w) (total : L → ℕ) (ctx : Context w size L)
    (message : List UInt8) : Prop where
  hash : ctx.H = absorb size standard.compress standard.initial message (message.length / size)
  length : total ctx.length = message.length
  buffer : ctx.buffer.toList.take (message.length % size) =
    message.drop (message.length / size * size)

theorem init_absorbed (implements : Implements sha standard total) (ctx : Context w size L) :
    Absorbed standard total (sha.init ctx) [] := by
  refine ⟨?_, implements.zero, ?_⟩
  · rw [length_nil, Nat.zero_div]
    exact implements.initial
  · simp

variable {ctx : Context w size L} {message : List UInt8}

/-- A message as its full blocks and the rest, which is in the buffer. -/
theorem Absorbed.split (absorbed : Absorbed standard total ctx message) :
    ∃ front rest, message = front ++ rest ∧ front.length = message.length / size * size ∧
      rest.length = message.length % size ∧
      ctx.buffer.toList.take (message.length % size) = rest ∧
      ctx.H = absorb size standard.compress standard.initial front (message.length / size) := by
  have whole := Nat.div_add_mod' message.length size
  have length : (message.take (message.length / size * size)).length =
      message.length / size * size := length_take_of_le (by omega)
  refine ⟨message.take (message.length / size * size), message.drop (message.length / size * size),
    (take_append_drop _ _).symm, length, ?_, absorbed.buffer, ?_⟩
  · rw [length_drop]
    omega
  · calc ctx.H = absorb size standard.compress standard.initial
          (message.take (message.length / size * size) ++
            message.drop (message.length / size * size)) (message.length / size) := by
          rw [take_append_drop, absorbed.hash]
      _ = _ := absorb_append length.ge

section

variable (implements : Implements sha standard total)

include implements

theorem blocksLoop_eq (fuel : ℕ) :
    ∀ {message d : List UInt8} {count : ℕ}, message.length = count * size → d.length < fuel →
      sha.blocksLoop fuel (absorb size standard.compress standard.initial message count) d =
        some (absorb size standard.compress standard.initial (message ++ d)
          (count + d.length / size), d.drop (d.length / size * size)) := by
  have positive : 0 < size := by have := implements.room; omega
  induction fuel with
  | zero =>
    intro message d count _ enough
    cases enough
  | succ fuel ih =>
    intro message d count whole enough
    rw [blocksLoop]
    by_cases more : d.length ≥ size
    · have full : (d.take size).length = size := length_take_of_le more
      have next : absorb size standard.compress standard.initial (message ++ d.take size)
          (count + 1) = standard.compress (absorb size standard.compress standard.initial message
            count) (d.take size) := by
        have block := @absorb_block _ _ size count standard.compress standard.initial message []
          (d.take size) whole full
        rwa [append_nil] at block
      have rest := @ih (message ++ d.take size) (d.drop size) (count + 1)
        (by rw [length_append, whole, full]; ring)
        (by rw [length_drop]; omega)
      have quotient : d.length / size = (d.drop size).length / size + 1 := by
        rw [length_drop, ← Nat.sub_add_cancel more, Nat.add_div_right _ positive,
          Nat.add_sub_cancel]
      rw [if_pos more, transform_eq implements.toComputes _ full, ← next]
      refine rest.trans ?_
      rw [append_assoc, take_append_drop, quotient, drop_drop]
      congr 2
      · congr 1
        omega
      · ring
    · have none : d.length / size = 0 := Nat.div_eq_of_lt (Nat.not_le.mp more)
      rw [if_neg more, none, Nat.add_zero, Nat.zero_mul, drop_zero, absorb_append whole.ge]
      rfl

/-- **`SHAX_Update()` absorbs its data.** -/
theorem update_absorbed {data : List UInt8}
    (absorbed : Absorbed standard total ctx message) (short : (message ++ data).length < 2 ^ 61) :
    ∃ ctx', sha.update ctx data = some ctx' ∧ Absorbed standard total ctx' (message ++ data) := by
  have positive : 0 < size := by have := implements.room; omega
  obtain ⟨front, rest, split, whole, size', buffered, hash⟩ := absorbed.split
  have used : sha.used ctx.length = message.length % size := by
    rw [implements.used, absorbed.length]
  have counted : total (sha.count ctx.length data.length) = (message ++ data).length := by
    rw [length_append] at short ⊢
    rw [implements.count _ _ (by rwa [absorbed.length]), absorbed.length]
  have below := Nat.mod_lt message.length positive
  have quotient := Nat.div_add_mod' message.length size
  rw [update, used]
  generalize message.length / size = q at *
  generalize message.length % size = u at *
  by_cases fits : data.length < size - u
  · obtain ⟨buffer, copied, contents⟩ :=
      copy_toList ctx.buffer (show u + data.length ≤ size by omega) (le_refl data.length)
    have div : (message ++ data).length / size = q := by
      rw [length_append]
      exact Nat.div_eq_of_lt_le (by omega) (by rw [Nat.add_mul, Nat.one_mul]; omega)
    have mod : (message ++ data).length % size = u + data.length := by
      have := Nat.div_add_mod' (message ++ data).length size
      rw [div, length_append] at this
      rw [length_append]
      omega
    simp only [if_pos fits, copied, bind_eq_bind, bind_some]
    refine ⟨_, rfl, ?_, counted, ?_⟩
    · rw [div, hash, split, append_assoc, absorb_append whole.ge]
    · rw [mod, div, split, append_assoc, ← whole, drop_left, contents, buffered,
        take_length]
      exact take_left' (by rw [length_append, size'])
  · obtain ⟨buffer, copied, contents⟩ :=
      copy_toList ctx.buffer (show u + (size - u) ≤ size by omega) (Nat.not_lt.mp fits)
    have length : (data.take (size - u)).length = size - u := length_take_of_le (by omega)
    have full : buffer.toList = rest ++ data.take (size - u) := by
      rw [contents, buffered, drop_eq_nil_of_le, append_nil]
      rw [Vector.length_toList]
      omega
    have first : standard.compress ctx.H buffer.toList = absorb size standard.compress
        standard.initial (message ++ data.take (size - u)) (q + 1) := by
      have block := @absorb_block _ _ size q standard.compress standard.initial front []
        buffer.toList whole Vector.length_toList
      rw [append_nil, full, ← append_assoc, ← split] at block
      rw [hash, full, block]
    have aligned : (message ++ data.take (size - u)).length = (q + 1) * size := by
      rw [length_append, length, Nat.add_mul, Nat.one_mul]
      omega
    have looped := blocksLoop_eq implements (data.length + 1) aligned
      (show (data.drop (size - u)).length < _ by rw [length_drop]; omega)
    have joined : message ++ data.take (size - u) ++ data.drop (size - u) = message ++ data := by
      rw [append_assoc, take_append_drop]
    rw [joined] at looped
    have total' : (message ++ data).length = (q + 1) * size + (data.drop (size - u)).length := by
      rw [← joined, length_append, aligned]
    generalize data.drop (size - u) = d at looped joined total'
    have div : (message ++ data).length / size = q + 1 + d.length / size := by
      rw [total', Nat.add_comm, Nat.add_mul_div_right _ _ positive, Nat.add_comm]
    have mod : (message ++ data).length % size = d.length % size := by
      rw [total', Nat.add_comm, Nat.add_mul_mod_self_right]
    have left : (d.drop (d.length / size * size)).length = d.length % size := by
      have := Nat.div_add_mod' d.length size
      rw [length_drop]
      omega
    have small := Nat.mod_lt d.length positive
    obtain ⟨buffer', copied', contents'⟩ := copy_toList buffer
      (show 0 + (d.drop (d.length / size * size)).length ≤ size by omega)
      (le_refl (d.drop (d.length / size * size)).length)
    simp only [if_neg fits, copied, transform_eq implements.toComputes _ Vector.length_toList,
      first, looped, copied', bind_eq_bind, bind_some]
    refine ⟨_, rfl, ?_, counted, ?_⟩
    · rw [div]
    · rw [mod, div, contents', take_zero, nil_append, take_length,
        take_left' left, ← joined, Nat.add_mul, ← aligned, ← drop_drop, drop_left]

theorem foldlM_absorbed (chunks : List (List UInt8)) :
    ∀ {ctx : Context w size L} {message : List UInt8}, Absorbed standard total ctx message →
      (message ++ chunks.flatten).length < 2 ^ 61 →
      ∃ ctx', chunks.foldlM sha.update ctx = some ctx' ∧
        Absorbed standard total ctx' (message ++ chunks.flatten) := by
  induction chunks with
  | nil =>
    intro ctx message absorbed _
    exact ⟨ctx, rfl, by rwa [flatten_nil, append_nil]⟩
  | cons data chunks ih =>
    intro ctx message absorbed short
    rw [flatten_cons, ← append_assoc] at short ⊢
    have shorter : (message ++ data).length < 2 ^ 61 := by
      rw [length_append] at short
      omega
    obtain ⟨ctx', updated, absorbed'⟩ := update_absorbed implements absorbed shorter
    obtain ⟨ctx'', folded, absorbed''⟩ := ih absorbed' short
    refine ⟨ctx'', ?_, absorbed''⟩
    rw [foldlM_cons, updated]
    exact folded

end

theorem padding_take {p n : ℕ} (positive : 0 < n) (inside : n ≤ p) :
    (0x80 :: replicate (p - 1) 0 : List UInt8).take n =
      0x80 :: replicate (n - 1) 0 := by
  obtain ⟨n, rfl⟩ := Nat.exists_eq_add_of_lt positive
  rw [take_succ_cons, take_replicate, Nat.min_eq_left (by omega), Nat.add_sub_cancel]

/-- **`SHAX_Final()` returns the digest.** -/
theorem final_eq (implements : Implements sha standard total)
    (absorbed : Absorbed standard total ctx message) (short : message.length < 2 ^ 61) :
    sha.final ctx = some (standard.digest message) := by
  have room := implements.room
  have positive : 0 < size := by omega
  obtain ⟨front, rest, split, whole, size', buffered, hash⟩ := absorbed.split
  have used : sha.used ctx.length = message.length % size := by
    rw [implements.used, absorbed.length]
  have stored : encode (sha.lengthBits ctx.length) =
      bigEndian sha.sizeofLength (8 * message.length) := by
    rw [implements.lengthBits _ (by rwa [absorbed.length]), absorbed.length,
      implements.sizeofLength]
  have length := length_bigEndian sha.sizeofLength (8 * message.length)
  have below := Nat.mod_lt message.length positive
  have padding : (0x80 :: replicate (size - sha.sizeofLength - 1) 0 : List UInt8).length =
      size - sha.sizeofLength := by
    rw [length_cons, length_replicate]
    omega
  rw [Parameters.digest, implements.blockSize, ← implements.sizeofLength, padded, zeros]
  simp only [final, used, stored, padding, length, ← encode_eq]
  generalize bigEndian sha.sizeofLength (8 * message.length) = bits at length
  generalize message.length / size = q at *
  generalize message.length % size = u at *
  generalize sha.sizeofLength = s at *
  by_cases fits : u < size - s
  · obtain ⟨buffer, copied, contents⟩ := @copy_toList size ctx.buffer u (size - s - u)
      (0x80 :: replicate (size - s - 1) 0) (by omega) (by rw [padding]; omega)
    obtain ⟨buffer', copied', contents'⟩ := @copy_toList size buffer (size - s) s bits (by omega)
      length.ge
    simp only [if_pos fits, copied, copied', bind_eq_bind, bind_some,
      pure_def, transform_eq implements.toComputes _ Vector.length_toList]
    have zeroes : (2 * size - s - 1 - u) % size = size - s - u - 1 := by
      rw [show 2 * size - s - 1 - u = size - s - u - 1 + size by omega, Nat.add_mod_right,
        Nat.mod_eq_of_lt (by omega)]
    have filled : buffer.toList.take (size - s) =
        rest ++ 0x80 :: replicate (size - s - u - 1) 0 := by
      rw [contents, buffered, padding_take (by omega) (by omega)]
      refine take_left' ?_
      simp only [length_append, length_cons, length_replicate, size']
      omega
    have block : buffer'.toList = rest ++ 0x80 :: replicate (size - s - u - 1) 0 ++ bits := by
      rw [contents', filled, take_of_length_le length.le, drop_eq_nil_of_le,
        append_nil]
      rw [Vector.length_toList]
      omega
    have text : message ++ 0x80 :: replicate (size - s - u - 1) 0 ++ bits =
        front ++ (buffer'.toList ++ []) := by
      rw [block, split]
      simp
    have count : (front ++ (buffer'.toList ++ [])).length / size = q + 1 := by
      rw [append_nil, length_append, Vector.length_toList, whole,
        ← Nat.succ_mul, Nat.mul_div_cancel _ positive]
    rw [zeroes, text, count, absorb_block whole Vector.length_toList, hash]
  · obtain ⟨buffer, copied, contents⟩ := @copy_toList size ctx.buffer u (size - u)
      (0x80 :: replicate (size - s - 1) 0) (by omega) (by rw [padding]; omega)
    obtain ⟨buffer', copied', contents'⟩ := @copy_toList size buffer 0 (size - s)
      (replicate (size - s) 0) (by omega) (by rw [length_replicate])
    obtain ⟨buffer'', copied'', contents''⟩ := @copy_toList size buffer' (size - s) s bits
      (by omega) length.ge
    simp only [if_neg fits, copied, copied', copied'', bind_eq_bind, bind_some,
      pure_def, transform_eq implements.toComputes _ Vector.length_toList]
    have zeroes : (2 * size - s - 1 - u) % size = size - u - 1 + (size - s) := by
      rw [Nat.mod_eq_of_lt (by omega)]
      omega
    have first : buffer.toList = rest ++ 0x80 :: replicate (size - u - 1) 0 := by
      rw [contents, buffered, padding_take (by omega) (by omega), drop_eq_nil_of_le,
        append_nil]
      rw [Vector.length_toList]
      omega
    have second : buffer''.toList = replicate (size - s) 0 ++ bits := by
      rw [contents'', contents', take_zero, nil_append, take_of_length_le length.le,
        take_of_length_le (length_replicate.le), take_left' length_replicate,
        drop_eq_nil_of_le, append_nil]
      simp only [length_append, length_replicate, length_drop, Vector.length_toList]
      omega
    have text : message ++ 0x80 :: replicate (size - u - 1 + (size - s)) 0 ++ bits =
        front ++ buffer.toList ++ (buffer''.toList ++ []) := by
      rw [first, second, split, replicate_add]
      simp only [append_assoc, append_nil, cons_append]
    have whole' : (front ++ buffer.toList).length = (q + 1) * size := by
      rw [length_append, Vector.length_toList, whole, Nat.succ_mul]
    have count : (front ++ buffer.toList ++ (buffer''.toList ++ [])).length / size = q + 1 + 1 := by
      rw [append_nil, length_append, Vector.length_toList, whole',
        ← Nat.succ_mul, Nat.mul_div_cancel _ positive]
    have compressed := @absorb_block _ _ size q standard.compress standard.initial front []
      buffer.toList whole Vector.length_toList
    rw [append_nil] at compressed
    rw [zeroes, text, count, absorb_block whole' Vector.length_toList, compressed, hash]

/-- **The digest of a message that is fed in pieces.** -/
theorem hash_eq_digest (implements : Implements sha standard total) (ctx : Context w size L)
    {chunks : List (List UInt8)} (short : chunks.flatten.length < 2 ^ 61) :
    sha.hash ctx chunks = some (standard.digest chunks.flatten) := by
  obtain ⟨ctx', updated, absorbed⟩ :=
    foldlM_absorbed implements chunks (init_absorbed implements ctx) short
  rw [hash, updated]
  exact final_eq implements absorbed short

end Buffering

end Cloudlibc.Unistd.Variant

namespace Cloudlibc.Unistd

open Cloudlibc.BlockHash Cloudlibc.Digits Cloudlibc.Sha2

/-! ## The two members of the family -/

/-- SHA-256, with the constants of the code. -/
def standard256 : Parameters 32 where
  constants := sha256.constants
  initial := sha256.initial
  bigSigma0 x := x.rotateRight 2 ^^^ x.rotateRight 13 ^^^ x.rotateRight 22
  bigSigma1 x := x.rotateRight 6 ^^^ x.rotateRight 11 ^^^ x.rotateRight 25
  sigma0 x := x.rotateRight 7 ^^^ x.rotateRight 18 ^^^ x >>> 3
  sigma1 x := x.rotateRight 17 ^^^ x.rotateRight 19 ^^^ x >>> 10
  lengthSize := 8

/-- SHA-512, with the constants of the code. -/
def standard512 : Parameters 64 where
  constants := sha512.constants
  initial := sha512.initial
  bigSigma0 x := x.rotateRight 28 ^^^ x.rotateRight 34 ^^^ x.rotateRight 39
  bigSigma1 x := x.rotateRight 14 ^^^ x.rotateRight 18 ^^^ x.rotateRight 41
  sigma0 x := x.rotateRight 1 ^^^ x.rotateRight 8 ^^^ x >>> 7
  sigma1 x := x.rotateRight 19 ^^^ x.rotateRight 61 ^^^ x >>> 6
  lengthSize := 16

variable {w : ℕ}

theorem rotate_eq (x : BitVec w) {y : ℕ} (small : y < w) : rotate x y = x.rotateRight y := by
  rw [rotate, BitVec.rotateRight_def, Nat.mod_eq_of_lt small, BitVec.or_comm]

theorem ofNat_value (bytes : List UInt8) : ∀ v,
    BitVec.ofNat w (value 256 v (bytes.map UInt8.toNat)) =
      bytes.foldl (fun (x : BitVec w) b => x <<< 8 ||| .ofNat w b.toNat) (.ofNat w v) := by
  induction bytes with
  | nil => exact fun v => rfl
  | cons b bytes ih =>
    intro v
    have bound : b.toNat < 2 ^ 8 := b.toNat_lt
    have next : BitVec.ofNat w (v * 256 + b.toNat) =
        BitVec.ofNat w v <<< 8 ||| BitVec.ofNat w b.toNat := by
      rw [show v * 256 + b.toNat = v <<< 8 ||| b.toNat by
        rw [← Nat.shiftLeft_add_eq_or_of_lt bound, Nat.shiftLeft_eq], BitVec.ofNat_or]
      apply BitVec.eq_of_toNat_eq
      simp [Nat.shiftLeft_eq, Nat.mul_mod]
    rw [List.foldl_cons, ← next]
    exact ih _

variable {block : List UInt8}

theorem byteWord_eq {front rest : List UInt8} {start : ℕ} (split : block.drop start = front ++ rest)
    {k : ℕ} {b : UInt8} (found : front[k]? = some b) :
    byteWord w block (start + k) = some (.ofNat w b.toNat) := by
  have inside := (getElem?_eq_some_iff.mp found).1
  have read : block[start + k]? = some b := by
    rw [← List.getElem?_drop, split, List.getElem?_append_left inside, found]
  rw [byteWord, read]
  rfl

theorem exists_append {start n : ℕ} (inside : start + n ≤ block.length) :
    ∃ front rest, block.drop start = front ++ rest ∧ front.length = n :=
  ⟨(block.drop start).take n, (block.drop start).drop n, (List.take_append_drop _ _).symm, by
    rw [List.length_take, List.length_drop]
    omega⟩

theorem sha256Word_eq (full : block.length = 64) {j : ℕ} (inside : j < 16) :
    sha256Word block j = some (blockWord block j) := by
  obtain ⟨front, rest, split, length⟩ :=
    exists_append (show j * 4 + 4 ≤ block.length by omega)
  rw [blockWord, show 32 / 8 = 4 from rfl, split, List.take_left' length, ofNat_value]
  match front, length with
  | [b0, b1, b2, b3], _ =>
    simp only [sha256Word, byteWord_eq split (show [b0, b1, b2, b3][0]? = some b0 from rfl),
      byteWord_eq split (show [b0, b1, b2, b3][1]? = some b1 from rfl), byteWord_eq split (show [b0,
      b1, b2, b3][2]? = some b2 from rfl), byteWord_eq split (show [b0, b1, b2,
      b3][3]? = some b3 from rfl), Option.bind_eq_bind, Option.bind_some, Option.pure_def,
      List.foldl_cons, List.foldl_nil, BitVec.shiftLeft_or_distrib, ← BitVec.shiftLeft_add]
    simp

theorem sha512Word_eq (full : block.length = 128) {j : ℕ} (inside : j < 16) :
    sha512Word block j = some (blockWord block j) := by
  obtain ⟨front, rest, split, length⟩ :=
    exists_append (show j * 8 + 8 ≤ block.length by omega)
  rw [blockWord, show 64 / 8 = 8 from rfl, split, List.take_left' length, ofNat_value]
  match front, length with
  | [b0, b1, b2, b3, b4, b5, b6, b7], _ =>
    have byte : ∀ k b, [b0, b1, b2, b3, b4, b5, b6, b7][k]? = some b →
        byteWord 64 block (j * 8 + k) = some (.ofNat 64 b.toNat) :=
      fun k b => byteWord_eq split
    simp only [sha512Word, byte 0 b0 rfl, byte 1 b1 rfl, byte 2 b2 rfl, byte 3 b3 rfl,
      byte 4 b4 rfl, byte 5 b5 rfl, byte 6 b6 rfl, byte 7 b7 rfl, Option.bind_eq_bind,
      Option.bind_some, Option.pure_def, List.foldl_cons, List.foldl_nil,
      BitVec.shiftLeft_or_distrib, ← BitVec.shiftLeft_add]
    simp

theorem sha256_implements : sha256.Implements standard256 BitVec.toNat where
  bigSigma0 := by
    simp (disch := decide) only [sha256, standard256, rotate_eq]
  bigSigma1 := by
    simp (disch := decide) only [sha256, standard256, rotate_eq]
  sigma0 := by
    simp (disch := decide) only [sha256, standard256, rotate_eq]
  sigma1 := by
    simp (disch := decide) only [sha256, standard256, rotate_eq]
  constants := rfl
  passes := rfl
  aligned := rfl
  parse block full j inside := sha256Word_eq full inside
  initial := rfl
  blockSize := rfl
  sizeofLength := rfl
  room := by decide
  zero := rfl
  used length := rfl
  count length len short := by
    show (length + BitVec.ofNat 64 len).toNat = _
    rw [BitVec.toNat_add, BitVec.toNat_ofNat]
    omega
  lengthBits length short := by
    show Variant.encode [length <<< 3] = _
    rw [Variant.encode_eq, List.flatMap_singleton, BitVec.toNat_shiftLeft, Nat.shiftLeft_eq]
    congr 1
    omega

theorem sha512_implements :
    sha512.Implements standard512 fun length => length.1.toNat * 2 ^ 64 + length.2.toNat where
  bigSigma0 := by
    funext x
    simp (disch := decide) only [sha512, standard512, rotate_eq]
  bigSigma1 := by
    funext x
    simp (disch := decide) only [sha512, standard512, rotate_eq]
  sigma0 := by
    funext x
    simp (disch := decide) only [sha512, standard512, rotate_eq]
  sigma1 := by
    funext x
    simp (disch := decide) only [sha512, standard512, rotate_eq]
  constants := rfl
  passes := rfl
  aligned := rfl
  parse block full j inside := sha512Word_eq full inside
  initial := rfl
  blockSize := rfl
  sizeofLength := rfl
  room := by decide
  zero := rfl
  used length := by
    show length.2.toNat % 128 = _
    omega
  count length len short := by
    show (sha512Count length len).1.toNat * 2 ^ 64 + (sha512Count length len).2.toNat = _
    obtain ⟨high, low⟩ := length
    dsimp only at short
    have small : len < 2 ^ 61 := by omega
    have none : len >>> 32 >>> 32 = 0 := by
      rw [Nat.shiftRight_eq_div_pow]
      omega
    rw [sha512Count, none, if_neg (by dsimp only; omega)]
    simp only [BitVec.toNat_add, BitVec.toNat_ofNat]
    omega
  lengthBits length short := by
    show Variant.encode [length.1 <<< 3 ||| length.2 >>> 61, length.2 <<< 3] =
      bigEndian (8 + 8) _
    obtain ⟨high, low⟩ := length
    dsimp only at short ⊢
    have none : high.toNat = 0 := by omega
    have first : (high <<< 3 ||| low >>> 61).toNat = 0 := by
      rw [BitVec.toNat_or, BitVec.toNat_shiftLeft, none, BitVec.toNat_ushiftRight,
        Nat.shiftRight_eq_div_pow, Nat.div_eq_of_lt (by omega)]
      rfl
    have second : (low <<< 3).toNat = 8 * low.toNat := by
      rw [BitVec.toNat_shiftLeft, Nat.shiftLeft_eq]
      omega
    rw [Variant.encode_eq, bigEndian_add, none, Nat.zero_mul, Nat.zero_add,
      Nat.div_eq_of_lt (show 8 * low.toNat < 256 ^ 8 by omega)]
    simp [first, second]

/-- **SHA-256 and SHA-512 are the hash functions of the standard**, for every way in which a message
is split into calls of the update functions. -/
theorem sha_hash_eq_digest (chunks : List (List UInt8)) (short : chunks.flatten.length < 2 ^ 61) :
    (∀ ctx, (do sha256Final (← chunks.foldlM sha256Update (sha256Init ctx))) =
      some (standard256.digest chunks.flatten)) ∧
    ∀ ctx, (do sha512Final (← chunks.foldlM sha512Update (sha512Init ctx))) =
      some (standard512.digest chunks.flatten) :=
  ⟨fun ctx => Variant.hash_eq_digest sha256_implements ctx short,
    fun ctx => Variant.hash_eq_digest sha512_implements ctx short⟩

/-- A message of three bytes in four pieces, one of them empty. -/
theorem sha_hash_eq_digest_pieces :
    (∀ ctx, (do sha256Final (← [[0x61], [], [0x62], [0x63]].foldlM sha256Update (sha256Init ctx))) =
      some (standard256.digest [0x61, 0x62, 0x63])) ∧
    ∀ ctx, (do sha512Final (← [[0x61], [], [0x62], [0x63]].foldlM sha512Update (sha512Init ctx))) =
      some (standard512.digest [0x61, 0x62, 0x63]) :=
  sha_hash_eq_digest [[0x61], [], [0x62], [0x63]] (by decide)

end Cloudlibc.Unistd
