import Cloudlibc.Stdlib.StrtointConversion
import Cloudlibc.Unistd.Crypt

/-!
# Verification of passwords

A password is checked by hashing it again, with the stored string as the setting. That works
because the algorithm, the rounds and the salt that the parser finds in a result are those that the
result has been computed from: the salt only has characters from the Base64 character set and a
dollar sign follows it (`takeSalt_append`), and the attribute for the rounds is read back
(`parseRounds_attribute`). So a result is its own setting, and it fits in the buffer
(`cryptR_idempotent`).
-/

set_option autoImplicit false

namespace Cloudlibc.Unistd

open Cloudlibc.Digits Cloudlibc.Stdio Cloudlibc.Stdlib Option
open List hiding Vector pure_def

/-! ## Sequences of a digest -/

/-! ## Base64 -/

theorem exists_base64 {v : ℕ} (small : v < 64) : ∃ c, base64[v]? = some c :=
  ⟨_, getElem?_eq_getElem (l := base64) small⟩

theorem and_lt (v : ℕ) : v &&& 0x3f < 64 :=
  Nat.lt_succ_of_le Nat.and_le_right

theorem cryptBase641_length (c1 : UInt8) :
    ∃ text, cryptBase641 c1 = some text ∧ text.length = 2 := by
  have bound := c1.toNat_lt
  obtain ⟨a, first⟩ := exists_base64 (and_lt c1.toNat)
  obtain ⟨b, second⟩ := exists_base64 (show c1.toNat >>> 6 < 64 by
    omega)
  exact ⟨[a, b], by simp [cryptBase641, first, second], rfl⟩

theorem cryptBase642_length (c1 c2 : UInt8) :
    ∃ text, cryptBase642 c1 c2 = some text ∧ text.length = 3 := by
  have bound : c2.toNat <<< 8 ||| c1.toNat < 2 ^ 16 :=
    Nat.or_lt_two_pow (by have := c2.toNat_lt; rw [Nat.shiftLeft_eq]; omega)
      (by have := c1.toNat_lt; omega)
  generalize value : c2.toNat <<< 8 ||| c1.toNat = v at bound
  obtain ⟨a, first⟩ := exists_base64 (and_lt v)
  obtain ⟨b, second⟩ := exists_base64 (and_lt (v >>> 6))
  obtain ⟨c, third⟩ := exists_base64 (show v >>> 12 < 64 by
    omega)
  exact ⟨[a, b, c], by simp [cryptBase642, value, first, second, third], rfl⟩

theorem cryptBase643_length (c1 c2 c3 : UInt8) :
    ∃ text, cryptBase643 c1 c2 c3 = some text ∧ text.length = 4 := by
  have bound : c3.toNat <<< 16 ||| c2.toNat <<< 8 ||| c1.toNat < 2 ^ 24 := by
    refine Nat.or_lt_two_pow (Nat.or_lt_two_pow ?_ ?_) (by have := c1.toNat_lt; omega)
    · have := c3.toNat_lt
      omega
    · have := c2.toNat_lt
      omega
  generalize value : c3.toNat <<< 16 ||| c2.toNat <<< 8 ||| c1.toNat = v at bound
  obtain ⟨a, first⟩ := exists_base64 (and_lt v)
  obtain ⟨b, second⟩ := exists_base64 (and_lt (v >>> 6))
  obtain ⟨c, third⟩ := exists_base64 (and_lt (v >>> 12))
  obtain ⟨d, fourth⟩ := exists_base64 (show v >>> 18 < 64 by
    omega)
  exact ⟨[a, b, c, d], by simp [cryptBase643, value, first, second, third, fourth], rfl⟩

section Encoding

variable {aC : List UInt8} {map1 map2 map3 : List ℕ}

theorem exists_mapped {map : List ℕ} (inside : ∀ index ∈ map, index < aC.length) {i : ℕ}
    (bound : i < map.length) : ∃ index c, map[i]? = some index ∧ aC[index]? = some c :=
  ⟨_, _, getElem?_eq_getElem bound,
    getElem?_eq_getElem (inside _ (getElem_mem bound))⟩

theorem encodeLoop_length (inside1 : ∀ index ∈ map1, index < aC.length)
    (inside2 : ∀ index ∈ map2, index < aC.length) (inside3 : ∀ index ∈ map3, index < aC.length)
    (count : ℕ) : ∀ i, i + count ≤ map1.length → i + count ≤ map2.length →
      i + count ≤ map3.length →
      ∃ text, encodeLoop aC map1 map2 map3 count i = some text ∧ text.length = 4 * count := by
  induction count with
  | zero => exact fun i _ _ _ => ⟨[], rfl, rfl⟩
  | succ count ih =>
    intro i bound1 bound2 bound3
    obtain ⟨index1, c1, mapped1, read1⟩ := exists_mapped inside1 (show i < _ by omega)
    obtain ⟨index2, c2, mapped2, read2⟩ := exists_mapped inside2 (show i < _ by omega)
    obtain ⟨index3, c3, mapped3, read3⟩ := exists_mapped inside3 (show i < _ by omega)
    obtain ⟨group, encoded, size⟩ := cryptBase643_length c1 c2 c3
    obtain ⟨rest, looped, size'⟩ := ih (i + 1) (by omega) (by omega) (by omega)
    refine ⟨group ++ rest, ?_, ?_⟩
    · simp [encodeLoop, mapped1, mapped2, mapped3, read1, read2, read3, encoded, looped]
    · rw [length_append, size, size']
      omega

theorem encodeDigest_length (inside1 : ∀ index ∈ map1, index < aC.length)
    (inside2 : ∀ index ∈ map2, index < aC.length) (inside3 : ∀ index ∈ map3, index < aC.length)
    (bound1 : (aC.length + 2) / 3 ≤ map1.length) (bound2 : (aC.length + 1) / 3 ≤ map2.length)
    (bound3 : aC.length / 3 ≤ map3.length) :
    ∃ text, encodeDigest aC map1 map2 map3 = some text ∧
      text.length = (aC.length * 8 + 5) / 6 := by
  obtain ⟨groups, looped, size⟩ := encodeLoop_length inside1 inside2 inside3 (aC.length / 3) 0
    (by omega) (by omega) (by omega)
  have remainder : aC.length % 3 = 0 ∨ aC.length % 3 = 1 ∨ aC.length % 3 = 2 := by omega
  obtain zero | one | two := remainder
  · refine ⟨groups, ?_, by omega⟩
    simp [encodeDigest, looped, zero]
  · obtain ⟨index1, c1, mapped1, read1⟩ := exists_mapped inside1 (show aC.length / 3 < _ by omega)
    obtain ⟨last, encoded, size'⟩ := cryptBase641_length c1
    refine ⟨groups ++ last, ?_, ?_⟩
    · simp [encodeDigest, looped, one, mapped1, read1, encoded]
    · rw [length_append]
      omega
  · obtain ⟨index1, c1, mapped1, read1⟩ := exists_mapped inside1 (show aC.length / 3 < _ by omega)
    obtain ⟨index2, c2, mapped2, read2⟩ := exists_mapped inside2 (show aC.length / 3 < _ by omega)
    obtain ⟨last, encoded, size'⟩ := cryptBase642_length c1 c2
    refine ⟨groups ++ last, ?_, ?_⟩
    · simp [encodeDigest, looped, two, mapped1, read1, mapped2, read2, encoded]
    · rw [length_append]
      omega

end Encoding

/-! ## Salts -/

/-- The salt at the start of a string. -/
def takeSalt (max : ℕ) (s : List UInt8) : List UInt8 := s.take (cryptSaltlen s max)

theorem cryptSaltlen_le (s : List UInt8) : ∀ max, cryptSaltlen s max ≤ max := by
  induction s with
  | nil => exact fun max => Nat.zero_le max
  | cons c s ih =>
    intro max
    cases max with
    | zero => exact le_rfl
    | succ max =>
      rw [cryptSaltlen]
      split_ifs
      · exact Nat.succ_le_succ (ih max)
      · exact Nat.zero_le _

theorem takeSalt_length_le (max : ℕ) (s : List UInt8) : (takeSalt max s).length ≤ max :=
  (length_take_le _ _).trans (cryptSaltlen_le s max)

theorem mem_takeSalt (s : List UInt8) : ∀ max, ∀ c ∈ takeSalt max s, c ∈ base64 := by
  induction s with
  | nil =>
    intro max c member
    cases max <;> cases member
  | cons b s ih =>
    intro max c member
    cases max with
    | zero => cases member
    | succ max =>
      rw [takeSalt, cryptSaltlen] at member
      split_ifs at member with first
      · rw [take_succ_cons, mem_cons] at member
        obtain rfl | later := member
        · exact first
        · exact ih max c later
      · cases member

variable {salt : List UInt8}

theorem takeSalt_append (members : ∀ c ∈ salt, c ∈ base64) :
    ∀ {max : ℕ}, salt.length ≤ max → ∀ rest,
      takeSalt max (salt ++ byteOf '$' :: rest) = salt := by
  induction salt with
  | nil =>
    intro max _ rest
    cases max with
    | zero => rfl
    | succ max =>
      rw [takeSalt, nil_append, cryptSaltlen, if_neg (by decide)]
      rfl
  | cons c salt ih =>
    intro max short rest
    obtain ⟨first, others⟩ := forall_mem_cons.mp members
    cases max with
    | zero => cases short
    | succ max =>
      rw [takeSalt, cons_append, cryptSaltlen, if_pos first, take_succ_cons]
      exact congrArg (c :: ·) (ih others (Nat.le_of_succ_le_succ short) rest)

/-! ## Rounds -/

theorem roundsLoop_eq (room : ℕ) : ∀ {rounds : ℕ} (s : List UInt8), 0 < room →
    rounds < 10 ^ room →
    roundsLoop room rounds s = some ((numeral 10 rounds).map decimalByte ++ s) := by
  induction room with
  | zero =>
    intro rounds s positive
    cases positive
  | succ room ih =>
    intro rounds s _ small
    rw [roundsLoop, numeral_eq_append (by decide)]
    split_ifs with more
    · have small' : rounds / 10 < 10 ^ room := by
        rw [Nat.pow_succ] at small
        omega
      have positive : 0 < room := by
        by_contra empty
        obtain rfl : room = 0 := by omega
        omega
      rw [ih _ positive small', map_append, append_assoc]
      rfl
    · rfl

/-- The rounds that the parser returns, with what is left of the setting. -/
structure Rounds.Valid (rounds : Rounds) : Prop where
  specified : rounds.roundsSpecified = true →
    roundsMin ≤ rounds.rounds ∧ rounds.rounds ≤ roundsMax
  default : rounds.roundsSpecified = false → rounds.rounds = roundsDefault

theorem parseRounds_valid (s : List UInt8) : ∃ rounds, parseRounds s = some rounds ∧
    rounds.Valid := by
  have unspecified : Rounds.Valid ⟨roundsDefault, false, s⟩ := ⟨by rintro ⟨⟩, fun _ => rfl⟩
  have ordered : roundsMin ≤ roundsMax := by decide
  rw [parseRounds]
  split_ifs with starts
  · obtain ⟨⟨r, ending, errno⟩, converted⟩ : ∃ result,
        strtoul (s.drop roundsPrefix.length) 10 = some result := by
      rw [strtoul, strtoint, skipWhitespace_usAscii]
      exact ⟨_, rfl⟩
    simp only [converted, bind_eq_bind, bind_some, pure_def]
    split_ifs with dollar low high
    · exact ⟨_, rfl, fun _ => ⟨le_rfl, ordered⟩, by rintro ⟨⟩⟩
    · exact ⟨_, rfl, fun _ => ⟨ordered, le_rfl⟩, by rintro ⟨⟩⟩
    · refine ⟨_, rfl, fun _ => ?_, by rintro ⟨⟩⟩
      dsimp only
      omega
    · exact ⟨_, rfl, unspecified⟩
  · exact ⟨_, rfl, unspecified⟩

variable {n : ℕ}

theorem parseRounds_attribute (low : roundsMin ≤ n) (high : n ≤ roundsMax) (s : List UInt8) :
    parseRounds (roundsPrefix ++ (numeral 10 n).map decimalByte ++ [byteOf '$'] ++ s) =
      some ⟨n, true, s⟩ := by
  have converted : strtoul ((numeral 10 n).map decimalByte ++ byteOf '$' :: s) 10 =
      some ⟨n, byteOf '$' :: s, none⟩ :=
    strtoul_numeral (by rintro b ⟨⟩; decide) (high.trans_lt (by decide))
  rw [append_assoc, append_assoc, singleton_append, parseRounds,
    if_pos ( isPrefixOf_iff_prefix.mpr (prefix_append _ _)), drop_left]
  simp only [converted, bind_eq_bind, bind_some, pure_def]
  rw [if_pos (show peek (byteOf '$' :: s) 0 = byteOf '$' from rfl), if_neg (by omega),
    if_neg (by omega)]
  rfl

/-- Text with a character outside of the character set does not start at a salt. -/
theorem not_prefix_salt (members : ∀ c ∈ salt, c ∈ base64) (s : List UInt8) :
    ∀ text : List UInt8, byteOf '$' ∉ text → (∃ c ∈ text, c ∉ base64) →
      ¬ text <+: salt ++ byteOf '$' :: s := by
  induction salt with
  | nil =>
    rintro (_ | ⟨c, text⟩) noDollar ⟨other, member, _⟩ starts
    · cases member
    · rw [nil_append, cons_prefix_cons] at starts
      exact noDollar (by simp [starts.1])
  | cons b salt ih =>
    obtain ⟨first, others⟩ := forall_mem_cons.mp members
    rintro (_ | ⟨c, text⟩) noDollar ⟨other, member, outside⟩ starts
    · cases member
    · rw [cons_append, cons_prefix_cons] at starts
      obtain ⟨rfl, starts⟩ := starts
      obtain rfl | later := mem_cons.mp member
      · exact outside first
      · exact ih others text (fun dollar => noDollar (.tail _ dollar)) ⟨other, later, outside⟩
          starts

theorem parseRounds_salt (members : ∀ c ∈ salt, c ∈ base64) (s : List UInt8) :
    parseRounds (salt ++ byteOf '$' :: s) =
      some ⟨roundsDefault, false, salt ++ byteOf '$' :: s⟩ := by
  have noAttribute : ¬ roundsPrefix.isPrefixOf (salt ++ byteOf '$' :: s) = true := by
    rw [ isPrefixOf_iff_prefix]
    exact not_prefix_salt members s roundsPrefix (by decide) ⟨byteOf '=', by decide, by decide⟩
  rw [parseRounds, if_neg noAttribute]
  rfl

/-! ## Results -/

/-- The attribute of a result, and what the parser makes of it. -/
theorem parseRounds_result {rounds : Rounds} (valid : rounds.Valid)
    (members : ∀ c ∈ salt, c ∈ base64) :
    ∃ text, roundsAttribute rounds = some text ∧ text.length ≤ 17 ∧
      ∀ rest, parseRounds (text ++ salt ++ byteOf '$' :: rest) =
        some ⟨rounds.rounds, rounds.roundsSpecified, salt ++ byteOf '$' :: rest⟩ := by
  obtain ⟨n, roundsSpecified, s⟩ := rounds
  cases roundsSpecified with
  | false =>
    obtain rfl : n = roundsDefault := valid.default rfl
    refine ⟨[], rfl, Nat.zero_le _, fun rest => ?_⟩
    exact parseRounds_salt members rest
  | true =>
    obtain ⟨low, high⟩ := valid.specified rfl
    have digits : (numeral 10 n).length ≤ 9 :=
      numeral_length_le (by decide) (by decide) (Nat.lt_succ_of_le high)
    refine ⟨roundsPrefix ++ (numeral 10 n).map decimalByte ++ [byteOf '$'], ?_, ?_, fun rest => ?_⟩
    · have printed : roundsLoop 16 n [] = some ((numeral 10 n).map decimalByte ++ []) :=
        roundsLoop_eq 16 [] (by decide) (high.trans_lt (by decide))
      rw [append_nil] at printed
      simp [roundsAttribute, printed]
    · rw [length_append, length_append, length_map]
      exact Nat.add_le_add_right (Nat.add_le_add_left digits 7) 1
    · rw [append_assoc, parseRounds_attribute low high]

theorem shaXDigest_isSome (positive : 0 < n) (hash : List UInt8 → Vector UInt8 n)
    (key salt : List UInt8) (rounds : ℕ) : ∃ aC, shaXDigest hash key salt rounds = some aC := by
  have first : ∀ digest : Vector UInt8 n, ∃ c, digest.toList[0]? = some c := fun digest =>
    ⟨_, getElem?_eq_getElem (by rwa [Vector.length_toList])⟩
  obtain ⟨c, read⟩ := first (hash (key ++ salt ++
    updateSequence n (hash (key ++ salt ++ key)).toList key.length key.length ++
    keyBits (hash (key ++ salt ++ key)).toList key key.length))
  simp only [shaXDigest, read, bind_eq_bind, bind_some, pure_def]
  exact ⟨_, rfl⟩

theorem cryptMcfShaX_eq {hash : List UInt8 → Vector UInt8 n} {map1 map2 map3 : List ℕ}
    {key s text digits : List UInt8} {rounds : Rounds} {aC : Vector UInt8 n}
    (parsed : parseRounds s = some rounds) (salted : takeSalt 16 rounds.salt = salt)
    (hashed : shaXDigest hash key salt rounds.rounds = some aC)
    (printed : roundsAttribute rounds = some text)
    (encoded : encodeDigest aC.toList map1 map2 map3 = some digits)
    (fits : (text ++ salt ++ byteOf '$' :: digits).length + 4 ≤ 256) :
    cryptMcfShaX hash map1 map2 map3 key s =
      some ([byteOf '$', byteOf (if n = 32 then '5' else '6'), byteOf '$'] ++
        (text ++ salt ++ byteOf '$' :: digits)) := by
  rw [takeSalt] at salted
  simp only [cryptMcfShaX, parsed, salted, hashed, printed, encoded, bind_eq_bind, bind_some]
  rw [storeString, if_pos]
  · simp
  · simp only [length_append, length_cons, length_nil] at fits ⊢
    omega

theorem cryptMcfShaX_idempotent (hash : List UInt8 → Vector UInt8 n) {map1 map2 map3 : List ℕ}
    (positive : 0 < n)
    (encodes : ∀ digest : Vector UInt8 n, ∃ text,
      encodeDigest digest.toList map1 map2 map3 = some text ∧ text.length ≤ 86)
    (key s : List UInt8) :
    ∃ out, cryptMcfShaX hash map1 map2 map3 key s =
        some ([byteOf '$', byteOf (if n = 32 then '5' else '6'), byteOf '$'] ++ out) ∧
      out.length + 4 ≤ 256 ∧
      cryptMcfShaX hash map1 map2 map3 key out =
        some ([byteOf '$', byteOf (if n = 32 then '5' else '6'), byteOf '$'] ++ out) := by
  obtain ⟨rounds, parsed, valid⟩ := parseRounds_valid s
  have members := mem_takeSalt rounds.salt 16
  have short := takeSalt_length_le 16 rounds.salt
  obtain ⟨text, printed, small, reparsed⟩ := parseRounds_result valid members
  obtain ⟨aC, hashed⟩ :=
    shaXDigest_isSome positive hash key (takeSalt 16 rounds.salt) rounds.rounds
  obtain ⟨digits, encoded, size⟩ := encodes aC
  have fits : (text ++ takeSalt 16 rounds.salt ++ byteOf '$' :: digits).length + 4 ≤ 256 := by
    simp only [length_append, length_cons]
    omega
  refine ⟨text ++ takeSalt 16 rounds.salt ++ byteOf '$' :: digits,
    cryptMcfShaX_eq parsed rfl hashed printed encoded fits, fits, ?_⟩
  exact cryptMcfShaX_eq (reparsed digits) (takeSalt_append members short digits) hashed
    printed encoded fits

theorem cryptMcfMd5_idempotent (hash : List UInt8 → Vector UInt8 16) (key s : List UInt8) :
    ∃ out, cryptMcfMd5 hash key s = some ([byteOf '$', byteOf '1', byteOf '$'] ++ out) ∧
      out.length + 4 ≤ 256 ∧
      cryptMcfMd5 hash key out = some ([byteOf '$', byteOf '1', byteOf '$'] ++ out) := by
  have members := mem_takeSalt s 8
  have short := takeSalt_length_le 8 s
  generalize salted : takeSalt 8 s = salt at members short
  generalize hashed : md5Digest hash key salt = aC
  obtain ⟨digits1, encoded1, size1⟩ := cryptBase643_length aC[12] aC[6] aC[0]
  obtain ⟨digits2, encoded2, size2⟩ := cryptBase643_length aC[13] aC[7] aC[1]
  obtain ⟨digits3, encoded3, size3⟩ := cryptBase643_length aC[14] aC[8] aC[2]
  obtain ⟨digits4, encoded4, size4⟩ := cryptBase643_length aC[15] aC[9] aC[3]
  obtain ⟨digits5, encoded5, size5⟩ := cryptBase643_length aC[5] aC[10] aC[4]
  obtain ⟨digits6, encoded6, size6⟩ := cryptBase641_length aC[11]
  -- What the function returns for a setting with this salt.
  have result : ∀ s', takeSalt 8 s' = salt → cryptMcfMd5 hash key s' =
      some ([byteOf '$', byteOf '1', byteOf '$'] ++ (salt ++ byteOf '$' ::
        (digits1 ++ digits2 ++ digits3 ++ digits4 ++ digits5 ++ digits6))) := by
    intro s' same
    rw [takeSalt] at same
    simp only [cryptMcfMd5, same, hashed, encoded1, encoded2, encoded3, encoded4, encoded5,
      encoded6, bind_eq_bind, bind_some]
    rw [storeString, if_pos]
    · simp
    · simp only [length_append, length_map, String.length_toList, length_singleton,
        size1, size2, size3, size4, size5, size6]
      have header : "$1$".length = 3 := rfl
      omega
  refine ⟨_, result s salted, ?_, result _ (takeSalt_append members short _)⟩
  simp only [length_append, length_cons, size1, size2, size3, size4, size5, size6]
  omega

theorem encodeDigest_sha256 (digest : Vector UInt8 32) : ∃ text,
    encodeDigest digest.toList [20, 11, 2, 23, 14, 5, 26, 17, 8, 29, 30]
      [10, 1, 22, 13, 4, 25, 16, 7, 28, 19, 31] [0, 21, 12, 3, 24, 15, 6, 27, 18, 9] = some text ∧
      text.length ≤ 86 := by
  have size : digest.toList.length = 32 := Vector.length_toList
  obtain ⟨text, encoded, short⟩ := @encodeDigest_length digest.toList
    [20, 11, 2, 23, 14, 5, 26, 17, 8, 29, 30] [10, 1, 22, 13, 4, 25, 16, 7, 28, 19, 31]
    [0, 21, 12, 3, 24, 15, 6, 27, 18, 9] (by rw [size]; decide) (by rw [size]; decide)
    (by rw [size]; decide) (by rw [size]; decide) (by rw [size]; decide) (by rw [size]; decide)
  exact ⟨text, encoded, by omega⟩

theorem encodeDigest_sha512 (digest : Vector UInt8 64) : ∃ text, encodeDigest digest.toList
      [42, 1, 23, 45, 4, 26, 48, 7, 29, 51, 10, 32, 54, 13, 35, 57, 16, 38, 60, 19, 41, 63]
      [21, 43, 2, 24, 46, 5, 27, 49, 8, 30, 52, 11, 33, 55, 14, 36, 58, 17, 39, 61, 20]
      [0, 22, 44, 3, 25, 47, 6, 28, 50, 9, 31, 53, 12, 34, 56, 15, 37, 59, 18, 40, 62] =
        some text ∧ text.length ≤ 86 := by
  have size : digest.toList.length = 64 := Vector.length_toList
  obtain ⟨text, encoded, short⟩ := @encodeDigest_length digest.toList
    [42, 1, 23, 45, 4, 26, 48, 7, 29, 51, 10, 32, 54, 13, 35, 57, 16, 38, 60, 19, 41, 63]
    [21, 43, 2, 24, 46, 5, 27, 49, 8, 30, 52, 11, 33, 55, 14, 36, 58, 17, 39, 61, 20]
    [0, 22, 44, 3, 25, 47, 6, 28, 50, 9, 31, 53, 12, 34, 56, 15, 37, 59, 18, 40, 62]
    (by rw [size]; decide) (by rw [size]; decide) (by rw [size]; decide) (by rw [size]; decide)
    (by rw [size]; decide) (by rw [size]; decide)
  exact ⟨text, encoded, by omega⟩

/-- A setting with the header of one algorithm has no other header. -/
theorem HasHeader.eq {setting : List UInt8} {a b : Char} (header : HasHeader setting a)
    (header' : HasHeader setting b) : byteOf a = byteOf b :=
  header.2.1.symm.trans header'.2.1

section Dispatch

variable {hashes : Hashes} {key setting out : List UInt8}

theorem cryptR_md5 (header : HasHeader setting '1')
    (result : cryptMcfMd5 hashes.md5 key (setting.drop 3) = some out) :
    cryptR hashes key setting = some (.ok out) := by
  rw [cryptR, if_pos header, result]
  rfl

theorem cryptR_sha256 (header : HasHeader setting '5')
    (result : cryptMcfSha256 hashes.sha256 key (setting.drop 3) = some out) :
    cryptR hashes key setting = some (.ok out) := by
  rw [cryptR, if_neg fun md5 => absurd (md5.eq header) (by decide), if_pos header, result]
  rfl

theorem cryptR_sha512 (header : HasHeader setting '6')
    (result : cryptMcfSha512 hashes.sha512 key (setting.drop 3) = some out) :
    cryptR hashes key setting = some (.ok out) := by
  rw [cryptR, if_neg fun md5 => absurd (md5.eq header) (by decide),
    if_neg fun sha256 => absurd (sha256.eq header) (by decide), if_pos header, result]
  rfl

end Dispatch

/-- **A result is its own setting**, and it fits in the buffer. -/
theorem cryptR_idempotent (hashes : Hashes) (key setting : List UInt8)
    (supported : HasHeader setting '1' ∨ HasHeader setting '5' ∨ HasHeader setting '6') :
    ∃ out, cryptR hashes key setting = some (.ok out) ∧ out.length + 1 ≤ 256 ∧
      cryptR hashes key out = some (.ok out) := by
  obtain md5 | sha256 | sha512 := supported
  · obtain ⟨out, first, fits, second⟩ :=
      cryptMcfMd5_idempotent hashes.md5 key (setting.drop 3)
    exact ⟨_, cryptR_md5 md5 first, fits, cryptR_md5 ⟨rfl, rfl, rfl⟩ second⟩
  · obtain ⟨out, first, fits, second⟩ :=
      cryptMcfShaX_idempotent hashes.sha256 (by decide) encodeDigest_sha256 key (setting.drop 3)
    exact ⟨_, cryptR_sha256 sha256 first, fits, cryptR_sha256 ⟨rfl, rfl, rfl⟩ second⟩
  · obtain ⟨out, first, fits, second⟩ :=
      cryptMcfShaX_idempotent hashes.sha512 (by decide) encodeDigest_sha512 key (setting.drop 3)
    exact ⟨_, cryptR_sha512 sha512 first, fits, cryptR_sha512 ⟨rfl, rfl, rfl⟩ second⟩

/-- A setting with malformed rounds, for hash functions that sum up the bytes. -/
theorem cryptR_idempotent_malformed :
    ∃ out, cryptR ⟨fun s => .replicate 16 s.sum, fun s => .replicate 32 s.sum,
        fun s => .replicate 64 s.sum⟩ ("key".toList.map byteOf)
        ("$5$rounds=x$salt".toList.map byteOf) = some (.ok out) ∧ out.length + 1 ≤ 256 ∧
      cryptR ⟨fun s => .replicate 16 s.sum, fun s => .replicate 32 s.sum,
        fun s => .replicate 64 s.sum⟩ ("key".toList.map byteOf) out = some (.ok out) :=
  cryptR_idempotent _ _ _ (.inr (.inl (by decide)))

end Cloudlibc.Unistd
