import Cloudlibc.Locale.CodesetDecoders

/-!
# Strings that are decoded in windows

A byte string is given to `mbstoc32s()` window by window, with buffers of any sizes: each call goes
on at the source pointer and in the state that the last one has stored (`callWindows`). This stores
what a conversion of one character after the other stores (`decode`, `callWindows_decode`), and so
does one call with enough space (`storeCharacters_decode`). A call without a buffer counts these
characters (`mbstoc32s_windows`).
-/

set_option autoImplicit false

namespace Cloudlibc.Locale

open Cloudlibc.Loop List Option

/-- How the conversion of a string ends. -/
inductive Ending
  | finished
  | null
  | error (errno : Errno)
  | unfinished

/-- The characters that are stored, and how the conversion ends. -/
structure Stored where
  c32s : List ℕ
  ending : Ending

/-- Add characters in front. -/
def Stored.after (db : List ℕ) (stored : Stored) : Stored := ⟨db ++ stored.c32s, stored.ending⟩

/-- What a call has stored, and what is stored from the new offset of `*src` on. -/
def Mbstoc32sResult.andThen (result : Mbstoc32sResult) (next : ℕ → Mbstate → Option Stored) :
    Option Stored :=
  match result.ret, result.src with
  | .error errno, _ => some ⟨result.dst, .error errno⟩
  | .ok _, none => some ⟨result.dst, .null⟩
  | .ok _, some sb => (next sb result.ps).map (.after result.dst)

theorem Mbstoc32sResult.andThen_congr {result : Mbstoc32sResult}
    {next next' : ℕ → Mbstate → Option Stored}
    (same : ∀ ret sb, result.ret = .ok ret → result.src = some sb →
      next sb result.ps = next' sb result.ps) : result.andThen next = result.andThen next' := by
  rw [andThen, andThen]
  split
  · rfl
  · rfl
  · rw [same _ _ ‹_› ‹_›]

/-- One call that is the last one. -/
def Mbstoc32sResult.stored (result : Mbstoc32sResult) : Option Stored :=
  result.andThen fun _ _ => some ⟨[], .finished⟩

/-- The windows without what has been read of the first one. -/
def windowsFrom (window : List UInt8) (windows : List (List UInt8)) (sb : ℕ) : List (List UInt8) :=
  if sb < window.length then window.drop sb :: windows else windows

theorem flatten_windowsFrom (window : List UInt8) (windows : List (List UInt8)) (sb : ℕ) :
    (windowsFrom window windows sb).flatten = window.drop sb ++ windows.flatten := by
  rw [windowsFrom]
  split_ifs with inside
  · rfl
  · rw [drop_eq_nil_of_le (not_lt.mp inside), nil_append]

/-- Call `mbstoc32s()` with one capacity after the other, until the windows are read, a null
character or an error occurs, or there are no more capacities. -/
def callWindows (ctype : LcCtype) (allowNull : Bool) :
    (windows : List (List UInt8)) → (capacities : List ℕ) → Mbstate → Option Stored
  | [], _, _ => some ⟨[], .finished⟩
  | _ :: _, [], _ => some ⟨[], .unfinished⟩
  | window :: windows, len :: capacities, ps => do
    let result ← mbstoc32s ctype (some len) window window.length ps allowNull
    result.andThen fun sb => callWindows ctype allowNull (windowsFrom window windows sb) capacities

/-- Convert one character after the other. -/
def decode (ctype : LcCtype) (allowNull : Bool) (s : List UInt8) (ps : Mbstate) : Option Stored :=
  match ctype.mbtoc32 s s.length ps with
  | none => none
  | some (.error errno) => some ⟨[], .error errno⟩
  | some (.incomplete _) => some ⟨[], .finished⟩
  | some (.character c32 length ps) =>
    if c32 = 0 ∧ allowNull = false then some ⟨[c32], .null⟩
    else if _ : 0 < length ∧ length ≤ s.length then
      (decode ctype allowNull (s.drop length) ps).map (.after [c32])
    else none
termination_by s.length
decreasing_by
  rw [length_drop]
  omega

/-! ## Decoders -/

/-- The laws of a decoder that reads windows. -/
structure WindowLaws (ctype : LcCtype) : Prop extends DecoderLaws ctype where
  ends : ∀ ps, ∃ ps', ctype.mbtoc32 [] 0 ps = some (.incomplete ps')
  single : ∀ {byte ps c32 length ps'},
    ctype.mbtoc32 [byte] 1 ps = some (.character c32 length ps') → length ≤ 1

theorem SingleByte.windowLaws {ctype : LcCtype} (single : SingleByte ctype) : WindowLaws ctype := by
  refine ⟨single.laws, ?_, ?_⟩ <;> obtain ⟨decode, mbtoc32⟩ := single
  · exact fun ps => ⟨ps, by rw [mbtoc32, if_pos Nat.one_pos]⟩
  · intro byte ps c32 length ps' decoded
    rw [mbtoc32, if_neg (lt_irrefl 1)] at decoded
    obtain ⟨c, -, same⟩ := map_eq_some_iff.mp decoded
    cases c <;> cases same
    exact le_rfl

theorem Codeset.windowLaws (codeset : Codeset) : WindowLaws codeset.ctype := by
  cases codeset with
  | usAscii => exact usAscii_singleByte.windowLaws
  | utf8 =>
    refine ⟨utf8_laws, fun ps => ⟨ps, rfl⟩, ?_⟩
    intro byte ps c32 length ps' decoded
    change utf8Mbtoc32 [byte] 1 ps = _ at decoded
    simp only [utf8Mbtoc32, utf8Continue, getElem?_cons_zero, bind_eq_bind, bind_some] at decoded
    split_ifs at decoded <;> cases decoded
    all_goals exact le_rfl
  | gb2312 =>
    refine ⟨gb2312_laws, fun ps => ?_, ?_⟩
    · by_cases initial : ps.bytesleft = 0
      · exact ⟨ps, if_pos initial⟩
      · exact ⟨_, if_neg initial⟩
    · intro byte ps c32 length ps' decoded
      change gb2312Mbtoc32 [byte] 1 ps = _ at decoded
      have leading : ∀ row, gb2312Second [byte] (1 - 1) 1 1 row = some (.incomplete _) := fun _ => rfl
      by_cases initial : ps.bytesleft = 0
      · simp only [gb2312Mbtoc32, if_pos initial, leading, getElem?_cons_zero, bind_eq_bind,
          bind_some, if_neg (lt_irrefl 1)] at decoded
        split_ifs at decoded <;> cases decoded
        exact le_rfl
      · simp only [gb2312Mbtoc32, if_neg initial, gb2312Second, getElem?_cons_zero, bind_eq_bind,
          bind_some, if_neg (lt_irrefl 1)] at decoded
        split_ifs at decoded
        · cases decoded
        · obtain ⟨c16, -, decoded⟩ := bind_eq_some_iff.mp decoded
          split_ifs at decoded <;> cases decoded
          exact le_rfl
  | ibm037 => exact ibm037_singleByte.windowLaws
  | iso8859_1 => exact iso8859_1_singleByte.windowLaws
  | iso8859_15 => exact iso8859_15_singleByte.windowLaws
  | asciiplus set => exact (asciiplus_singleByte set).windowLaws

section Windows

variable {ctype : LcCtype} (laws : WindowLaws ctype) (allowNull : Bool)
include laws

/-- A character is not longer than the string. -/
theorem WindowLaws.length_le {s : List UInt8} :
    ∀ {ps : Mbstate} {c32 length : ℕ} {ps' : Mbstate},
      ctype.mbtoc32 s s.length ps = some (.character c32 length ps') → length ≤ s.length := by
  induction s with
  | nil =>
    intro ps c32 length ps' decoded
    obtain ⟨_, ends⟩ := laws.ends ps
    cases ends.symm.trans decoded
  | cons byte bytes ih =>
    intro ps c32 length ps' decoded
    have resumed := (laws.resumable [byte] bytes ps).symm.trans decoded
    obtain ⟨result, first, resumed⟩ := bind_eq_some_iff.mp resumed
    rw [length_cons]
    cases result with
    | error errno => cases resumed
    | incomplete ps'' =>
      obtain ⟨result, second, shifted⟩ := map_eq_some_iff.mp resumed
      cases result <;> cases shifted
      have := ih second
      simp only [length_singleton]
      omega
    | character c l ps'' =>
      cases resumed
      have := laws.single first
      omega

theorem decode_character {s : List UInt8} {ps ps' : Mbstate} {c32 length : ℕ}
    (decoded : ctype.mbtoc32 s s.length ps = some (.character c32 length ps')) :
    decode ctype allowNull s ps = if c32 = 0 ∧ allowNull = false then some ⟨[c32], .null⟩
      else (decode ctype allowNull (s.drop length) ps').map (.after [c32]) := by
  rw [decode, decoded]
  dsimp only
  rw [dif_pos ⟨laws.lawful decoded, laws.length_le decoded⟩]

/-- After an incomplete character the conversion goes on in its state. -/
theorem decode_incomplete {a : List UInt8} {ps ps' : Mbstate}
    (read : ctype.mbtoc32 a a.length ps = some (.incomplete ps')) (b : List UInt8) :
    decode ctype allowNull (a ++ b) ps = decode ctype allowNull b ps' := by
  have resumed := laws.resumable a b ps
  rw [read, bind_some, Mbtoc32Result.resume] at resumed
  cases decoded : ctype.mbtoc32 b b.length ps' with
  | none => rw [decode, decode, resumed, decoded, map_none]
  | some result =>
    rw [decoded] at resumed
    cases result with
    | error errno => rw [decode, decode, resumed, decoded]; rfl
    | incomplete ps'' => rw [decode, decode, resumed, decoded]; rfl
    | character c32 length ps'' =>
      rw [decode_character laws allowNull resumed, decode_character laws allowNull decoded,
        drop_length_add_append]

theorem decode_nil (ps : Mbstate) : decode ctype allowNull [] ps = some ⟨[], .finished⟩ := by
  obtain ⟨ps', ends⟩ := laws.ends ps
  rw [decode, length_nil, ends]

/-- A call on a window, and then the conversion of what it leaves. -/
theorem storeCharacters_decode {window : List UInt8} (rest : List UInt8) (len : ℕ) :
    ∀ {db : List ℕ} {sb : ℕ} (ps : Mbstate), sb ≤ window.length →
      (decode ctype allowNull (window.drop sb ++ rest) ps).map (.after db) =
        (storeCharacters ctype window window.length allowNull len db sb ps).bind fun result =>
          result.andThen fun sb ps => decode ctype allowNull (window.drop sb ++ rest) ps := by
  induction len with
  | zero => exact fun _ _ => rfl
  | succ len ih =>
    intro db sb ps inside
    rw [storeCharacters, ← length_drop]
    have resumed := laws.resumable (window.drop sb) rest ps
    cases decoded : ctype.mbtoc32 (window.drop sb) (window.drop sb).length ps with
    | none =>
      rw [decoded] at resumed
      rw [decode, resumed]
      rfl
    | some result =>
      rw [decoded, bind_some] at resumed
      cases result with
      | error errno =>
        rw [decode, resumed]
        simp [Mbtoc32Result.resume, Mbstoc32sResult.andThen, Stored.after]
      | incomplete ps' =>
        rw [decode_incomplete laws allowNull decoded]
        simp [Mbstoc32sResult.andThen]
      | character c32 length ps' =>
        have bound := laws.length_le decoded
        rw [decode_character laws allowNull resumed, drop_append_of_le_length bound, drop_drop]
        simp only [bind_eq_bind, bind_some]
        split_ifs with null
        · rfl
        · rw [← ih ps' (by rw [length_drop] at bound; omega), Option.map_map]
          congr 1
          funext stored
          simp [Stored.after]

/-- A call that returns reads its window, or as many bytes as there is room for characters. -/
theorem storeCharacters_reads {window : List UInt8} (len : ℕ) :
    ∀ {db : List ℕ} {sb : ℕ} {ps : Mbstate} {result : Mbstoc32sResult} {ret sb' : ℕ},
      sb ≤ window.length →
      storeCharacters ctype window window.length allowNull len db sb ps = some result →
      result.ret = .ok ret → result.src = some sb' →
      sb' = window.length ∨ sb' < window.length ∧ sb + len ≤ sb' := by
  induction len with
  | zero =>
    intro db sb ps result ret sb' inside stored ok src
    cases stored
    cases src
    exact inside.eq_or_lt.imp_right (⟨·, le_rfl⟩)
  | succ len ih =>
    intro db sb ps result ret sb' inside stored ok src
    rw [storeCharacters, ← length_drop] at stored
    obtain ⟨first, decoded, stored⟩ := bind_eq_some_iff.mp stored
    cases first with
    | error errno =>
      cases stored
      cases ok
    | incomplete ps' =>
      cases stored
      cases src
      exact .inl rfl
    | character c32 length ps' =>
      have positive : 0 < length := laws.lawful decoded
      have bound := laws.length_le decoded
      rw [length_drop] at bound
      dsimp only at stored
      split_ifs at stored with null
      · cases stored
        cases src
      · have reads := ih (by omega) stored ok src
        omega

/-- **One call** with enough space. -/
theorem mbstoc32s_stored (s : List UInt8) (ps : Mbstate) (extra : ℕ) :
    (mbstoc32s ctype (some (s.length + 1 + extra)) s s.length ps allowNull).bind (·.stored) =
      decode ctype allowNull s ps := by
  have whole := @storeCharacters_decode _ laws allowNull s [] (s.length + 1 + extra) [] 0 ps
    (Nat.zero_le _)
  rw [append_nil, show Stored.after [] = id from rfl, Option.map_id] at whole
  refine .trans (bind_congr fun result called => ?_) whole.symm
  refine Mbstoc32sResult.andThen_congr fun ret sb ok src => ?_
  have reads := storeCharacters_reads laws allowNull _ (Nat.zero_le _) called ok src
  obtain rfl : sb = s.length := by omega
  rw [drop_length, append_nil, decode_nil laws]

/-- **Calls for the windows of a string.** -/
theorem callWindows_decode (capacities : List ℕ) : ∀ (windows : List (List UInt8)) (ps : Mbstate),
    callWindows ctype allowNull windows capacities ps =
        decode ctype allowNull windows.flatten ps ∨
      capacities.countP (0 < ·) < windows.flatten.length + windows.length ∧
        ∃ c32s, callWindows ctype allowNull windows capacities ps = some ⟨c32s, .unfinished⟩ := by
  induction capacities with
  | nil =>
    rintro (_ | ⟨window, windows⟩) ps
    · exact .inl (decode_nil laws allowNull ps).symm
    · exact .inr ⟨by simp, [], rfl⟩
  | cons len capacities ih =>
    rintro (_ | ⟨window, windows⟩) ps
    · exact .inl (decode_nil laws allowNull ps).symm
    · have whole := @storeCharacters_decode _ laws allowNull window windows.flatten len [] 0 ps
        (Nat.zero_le _)
      rw [drop_zero, show Stored.after [] = id from rfl, Option.map_id, id] at whole
      rw [callWindows, flatten_cons, whole, mbstoc32s]
      cases called : storeCharacters ctype window window.length allowNull len [] 0 ps with
      | none => exact .inl rfl
      | some result =>
        simp only [bind_eq_bind, bind_some, Mbstoc32sResult.andThen]
        cases ok : result.ret with
        | error errno => exact .inl rfl
        | ok ret =>
          cases src : result.src with
          | none => exact .inl rfl
          | some sb =>
            have reads := storeCharacters_reads laws allowNull _ (Nat.zero_le _) called ok src
            dsimp only
            rw [← flatten_windowsFrom]
            rcases ih (windowsFrom window windows sb) result.ps with same | ⟨few, c32s, unfinished⟩
            · exact .inl (by rw [same])
            · refine .inr ⟨?_, _, by rw [unfinished]; rfl⟩
              rw [flatten_windowsFrom, windowsFrom, length_append, length_drop] at few
              rw [countP_cons, length_append, length_cons]
              split_ifs at few ⊢ <;> simp_all <;> omega

theorem countPass_ret {s : List UInt8} (fuel : ℕ) :
    ∀ {len : ℕ} {db : List ℕ} {sb : ℕ} {ps : Mbstate}, sb ≤ s.length → s.length - sb < fuel →
      s.length - sb < len →
      (run (countPass ctype s s.length allowNull) fuel (db.length, sb, ps)).map (·.ret) =
        (storeCharacters ctype s s.length allowNull len db sb ps).map (·.ret) := by
  induction fuel with
  | zero => exact fun _ enough => absurd enough (Nat.not_lt_zero _)
  | succ fuel ih =>
    rintro (_ | len) db sb ps inside enough room
    · exact absurd room (Nat.not_lt_zero _)
    · rw [run, storeCharacters, countPass, ← length_drop]
      cases decoded : ctype.mbtoc32 (s.drop sb) (s.drop sb).length ps with
      | none => rfl
      | some result =>
        cases result with
        | error errno => rfl
        | incomplete ps' => rfl
        | character c32 length ps' =>
          have positive : 0 < length := laws.lawful decoded
          have bound := laws.length_le decoded
          rw [length_drop] at bound
          simp only [bind_eq_bind, bind_some]
          by_cases null : c32 = 0 ∧ allowNull = false
          · rw [if_pos null, if_pos null]
            rfl
          · rw [if_neg null, if_neg null, ← ih (by omega) (by omega) (by omega), length_append]
            rfl

end Windows

end Cloudlibc.Locale
