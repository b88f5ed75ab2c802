import Cloudlibc.Dirent.Readdir
import Cloudlibc.Foundations.Digits

/-!
# What the loads of a directory lead to

The kernel stores the entries from a cookie on, and a load is the size of the buffer with these
entries. The entries that are whole inside the buffer are walked over (`whole`). Then the kernel is
asked again, from the cookie of the last entry that has been delivered: entries that have been
skipped since are stored once more (`nextLoad`). A load that leads to itself is repeated forever.

The functions deliver the entries of a directory if and only if no load that they reach leads to
itself (`readdir_delivers_iff`). There is one in a directory with two entries
(`readdir_repeats_load`).
-/

set_option autoImplicit false

namespace Cloudlibc.Dirent

open Cloudlibc.Digits Cloudlibc.Loop Cloudlibc.SparseArray List Option

/-! ## Loads -/

variable (layout : Layout)

/-- The number of bytes of an entry. -/
def Entry.size (entry : Entry) : ℕ := layout.size + entry.name.length

/-- The number of bytes of entries. -/
def totalSize (entries : List Entry) : ℕ := (entries.map (Entry.size layout)).sum

/-- The entries that are whole inside a number of bytes, and the others. -/
def whole : (size : ℕ) → List Entry → List Entry × List Entry
  | _, [] => ([], [])
  | size, entry :: rest =>
    if entry.size layout ≤ size then
      let (front, more) := whole (size - entry.size layout) rest
      (entry :: front, more)
    else
      ([], entry :: rest)

/-- The size of a buffer and the entries that are stored in it from its start on. -/
structure Load where
  size : ℕ
  rest : List Entry
  deriving DecidableEq

/-- The entries at the end that are not delivered. -/
def skippedAtEnd (entries : List Entry) : List Entry :=
  entries.rtakeWhile fun entry => ¬ entry.Valid

/-- The size of the buffer that is asked for when `left` bytes have not been processed. -/
def nextSize (size left : ℕ) : List Entry → ℕ
  | [] => size
  | entry :: _ =>
    if layout.size ≤ left then (grow size (entry.size layout)).getD size else size

/-- The load that follows, unless the end of the directory is inside the buffer. -/
def nextLoad (load : Load) : Option Load :=
  if totalSize layout load.rest < load.size then
    none
  else
    let (front, more) := whole layout load.size load.rest
    some ⟨nextSize layout load.size (load.size - totalSize layout front) more,
      skippedAtEnd front ++ more⟩

/-- A load is reached from another one. -/
def Reached (load load' : Load) : Prop :=
  Relation.ReflTransGen (fun load load' => nextLoad layout load = some load') load load'

/-- **No load that is reached leads to itself.** -/
def NeverStalls (load : Load) : Prop :=
  ∀ load', Reached layout load load' → nextLoad layout load' ≠ some load'

/-! ## Walks -/

variable (directory : Directory)

/-- Passes of the loop, with the entries that they find. -/
inductive Walk : Reader → List Dirent → Reader → Prop
  | refl (reader : Reader) : Walk reader [] reader
  | silent {reader next last : Reader} {dirents : List Dirent}
      (passed : advance layout directory reader = some (.silent next))
      (rest : Walk next dirents last) : Walk reader dirents last
  | entry {reader next last : Reader} {dirent : Dirent} {dirents : List Dirent}
      (passed : advance layout directory reader = some (.entry dirent next))
      (rest : Walk next dirents last) : Walk reader (dirent :: dirents) last

/-- Passes of the loop until there are no entries any more. -/
def Ends (reader : Reader) (dirents : List Dirent) : Prop :=
  ∃ last, Walk layout directory reader dirents last ∧
    advance layout directory last = some .endOfFile

section Walks

variable {layout directory} {reader next last : Reader} {dirents dirents' : List Dirent}

section

variable (first : Walk layout directory reader dirents next)

include first

/-- Walks are put together. -/
theorem Walk.trans (second : Walk layout directory next dirents' last) :
    Walk layout directory reader (dirents ++ dirents') last := by
  induction first with
  | refl => exact second
  | silent passed _ ih => exact .silent passed (ih second)
  | entry passed _ ih => exact .entry passed (ih second)

theorem Walk.ends (rest : Ends layout directory next dirents') :
    Ends layout directory reader (dirents ++ dirents') := by
  obtain ⟨last, walk, ended⟩ := rest
  exact ⟨last, first.trans walk, ended⟩

theorem Walk.ends_rest :
    ∀ {all : List Dirent}, Ends layout directory reader all →
      ∃ rest, Ends layout directory next rest := by
  induction first with
  | refl => exact fun ends => ⟨_, ends⟩
  | silent passed _ ih =>
    rintro all ⟨last, walk, ended⟩
    cases walk with
    | refl =>
      rw [passed] at ended
      cases ended
    | silent passed' walk =>
      obtain ⟨rfl⟩ := some.inj (passed.symm.trans passed')
      exact ih ⟨last, walk, ended⟩
    | entry passed' walk => cases passed.symm.trans passed'
  | entry passed _ ih =>
    rintro all ⟨last, walk, ended⟩
    cases walk with
    | refl =>
      rw [passed] at ended
      cases ended
    | silent passed' walk => cases passed.symm.trans passed'
    | entry passed' walk =>
      obtain ⟨rfl⟩ := some.inj (passed.symm.trans passed')
      exact ih ⟨last, walk, ended⟩

end

theorem not_ends {Stuck : Reader → Prop}
    (step : ∀ reader, Stuck reader →
      ∃ next, advance layout directory reader = some (.silent next) ∧ Stuck next)
    (stuck : Stuck reader) : ¬ Ends layout directory reader dirents := by
  rintro ⟨last, walk, ended⟩
  induction walk with
  | refl =>
    obtain ⟨next, passed, -⟩ := step _ stuck
    rw [passed] at ended
    cases ended
  | silent passed _ ih =>
    obtain ⟨next, passed', stuck'⟩ := step _ stuck
    obtain ⟨rfl⟩ := some.inj (passed.symm.trans passed')
    exact ih stuck' ended
  | entry passed _ _ =>
    obtain ⟨next, passed', -⟩ := step _ stuck
    cases passed.symm.trans passed'

end Walks

/-! ## The two functions -/

section Functions

variable {layout directory}

theorem grow_pos {size target : ℕ} (positive : 0 < size) :
    ∃ size', grow size target = some size' ∧ size ≤ size' ∧ target ≤ size' ∧
      (target ≤ size → size' = size) := by
  have loop : ∀ fuel size : ℕ, 0 < size → target ≤ size + fuel →
      ∃ size', growLoop target (fuel + 1) size = some size' ∧ size ≤ size' ∧ target ≤ size' ∧
        (target ≤ size → size' = size) := by
    intro fuel
    induction fuel with
    | zero =>
      intro size positive bound
      rw [growLoop, if_neg (by omega)]
      exact ⟨size, rfl, le_rfl, by omega, fun _ => rfl⟩
    | succ fuel ih =>
      intro size positive bound
      rw [growLoop]
      split_ifs with small
      · obtain ⟨size', grown, larger, enough, -⟩ := ih (size * 2) (by omega) (by omega)
        exact ⟨size', grown, by omega, enough, fun fits => absurd small (by omega)⟩
      · exact ⟨size, rfl, le_rfl, by omega, fun _ => rfl⟩
  exact loop target size positive (by omega)

/-- A pass of `readdir()` without an entry. -/
theorem ReadsAll.silent {dirp dirp' : Dir} {dirents : List Dirent}
    (passed : readdirPass layout directory dirp = some (.again dirp'))
    (rest : ReadsAll layout directory dirp' dirents) : ReadsAll layout directory dirp dirents := by
  have later : ∀ fuel, readdir layout directory (fuel + 1) dirp =
      readdir layout directory fuel dirp' := by
    simp [readdir, run, passed]
  cases rest with
  | @done fuel _ _ ended => exact .done ((later fuel).trans ended)
  | @more fuel _ _ _ _ returned rest => exact .more ((later fuel).trans returned) rest

/-- The calls of `readdir()` return what a walk finds. -/
theorem readsAll_iff {dirp : Dir} (positive : 0 < dirp.direntSize) {dirents : List Dirent} :
    ReadsAll layout directory dirp dirents ↔ Ends layout directory dirp.toReader dirents := by
  constructor
  · intro reads
    -- One call is a walk up to an entry or to the end.
    have call : ∀ fuel (dirp : Dir) result, 0 < dirp.direntSize →
        readdir layout directory fuel dirp = some result →
        match result with
        | (none, _) => Ends layout directory dirp.toReader []
        | (some dirent, dirp') => 0 < dirp'.direntSize ∧
            Walk layout directory dirp.toReader [dirent] dirp'.toReader := by
      intro fuel
      induction fuel with
      | zero =>
        intro dirp result positive ran
        cases ran
      | succ fuel ih =>
        intro dirp result positive ran
        rw [readdir, run, readdirPass] at ran
        cases passed : advance layout directory dirp.toReader with
        | none =>
          rw [passed] at ran
          cases ran
        | some advanced =>
          rw [passed] at ran
          cases advanced with
          | endOfFile =>
            obtain rfl := some.inj ran
            exact ⟨_, .refl _, passed⟩
          | silent next =>
            have rest := ih { dirp with toReader := next } result positive ran
            rcases result with ⟨_ | dirent, dirp'⟩
            · obtain ⟨last, walk, ended⟩ := rest
              exact ⟨last, .silent passed walk, ended⟩
            · exact ⟨rest.1, .silent passed rest.2⟩
          | entry dirent next =>
            obtain ⟨size', grown, larger, -⟩ :=
              @grow_pos _ (offsetofName + dirent.name.length + 1) positive
            simp only [bind_eq_bind, bind_some, grown] at ran
            obtain rfl := some.inj ran
            exact ⟨by dsimp only; omega, .entry passed (.refl _)⟩
    induction reads with
    | done ended => exact call _ _ _ positive ended
    | more returned _ ih =>
      obtain ⟨positive', walk⟩ := call _ _ _ positive returned
      exact walk.ends (ih positive')
  · rintro ⟨last, walk, ended⟩
    obtain ⟨reader, direntSize⟩ := dirp
    dsimp only at walk positive
    induction walk generalizing direntSize with
    | refl reader =>
      refine @ReadsAll.done _ _ 1 _ ⟨reader, direntSize⟩ ?_
      simp only [readdir, run, readdirPass, ended, bind_eq_bind, bind_some]
      rfl
    | silent passed _ ih =>
      refine .silent ?_ (ih ended direntSize positive)
      simp only [readdirPass, passed, bind_eq_bind, bind_some]
      rfl
    | @entry _ next _ dirent _ passed _ ih =>
      obtain ⟨size', grown, larger, -⟩ :=
        @grow_pos _ (offsetofName + dirent.name.length + 1) positive
      refine @ReadsAll.more _ _ 1 _ ⟨next, size'⟩ _ _ ?_ (ih ended size' (by omega))
      simp only [readdir, run, readdirPass, passed, grown, bind_eq_bind, bind_some]
      rfl

/-- The loop of `scandirat()` appends what a walk finds. -/
theorem scandirat_iff (sel : Dirent → Bool) {scan : Scan} {result : List Dirent} :
    (∃ fuel, run (scandiratPass layout directory sel) fuel scan = some result) ↔
      ∃ dirents, Ends layout directory scan.toReader dirents ∧
        result = scan.dirents ++ dirents.filter sel := by
  constructor
  · rintro ⟨fuel, ran⟩
    induction fuel generalizing scan with
    | zero => cases ran
    | succ fuel ih =>
      rw [run, scandiratPass] at ran
      cases passed : advance layout directory scan.toReader with
      | none =>
        rw [passed] at ran
        cases ran
      | some advanced =>
        rw [passed] at ran
        cases advanced with
        | endOfFile =>
          obtain rfl := some.inj ran
          exact ⟨[], ⟨_, .refl _, passed⟩, by simp⟩
        | silent next =>
          obtain ⟨dirents, ⟨last, walk, ended⟩, rfl⟩ := ih ran
          exact ⟨dirents, ⟨last, .silent passed walk, ended⟩, rfl⟩
        | entry dirent next =>
          obtain ⟨dirents, ⟨last, walk, ended⟩, rfl⟩ := ih ran
          refine ⟨dirent :: dirents, ⟨last, .entry passed walk, ended⟩, ?_⟩
          dsimp only
          rw [filter_cons]
          split_ifs <;> simp
  · rintro ⟨dirents, ⟨last, walk, ended⟩, rfl⟩
    obtain ⟨reader, found⟩ := scan
    dsimp only at walk
    induction walk generalizing found with
    | refl reader =>
      refine ⟨1, ?_⟩
      simp [run, scandiratPass, ended]
    | silent passed _ ih =>
      obtain ⟨fuel, ran⟩ := ih ended found
      refine ⟨fuel + 1, ?_⟩
      simp only [run, scandiratPass, passed, map_some]
      exact ran
    | @entry _ next _ dirent dirents passed _ ih =>
      obtain ⟨fuel, ran⟩ := ih ended (if sel dirent then found ++ [dirent] else found)
      refine ⟨fuel + 1, ?_⟩
      simp only [run, scandiratPass, passed, map_some]
      rw [ran, filter_cons]
      split_ifs <;> simp

end Functions

/-! ## The bytes of entries -/

section Bytes

variable {layout}

theorem length_encode (entry : Entry) : (entry.encode layout).length = entry.size layout := by
  rw [Entry.encode, length_append, layout.length_encode, Entry.size]

theorem length_flatMap_encode (entries : List Entry) :
    (entries.flatMap (Entry.encode layout)).length = totalSize layout entries := by
  rw [length_flatMap, totalSize]
  exact congrArg sum (map_congr_left fun entry _ => length_encode entry)

theorem totalSize_append (front more : List Entry) :
    totalSize layout (front ++ more) = totalSize layout front + totalSize layout more := by
  rw [totalSize, map_append, sum_append]
  rfl

theorem totalSize_cons (entry : Entry) (more : List Entry) :
    totalSize layout (entry :: more) = entry.size layout + totalSize layout more := by
  rfl

theorem totalSize_nil : totalSize layout [] = 0 := rfl

theorem toNat_namlen (entry : Entry) : entry.header.namlen.toNat = entry.name.length := by
  have short := entry.length_lt
  rw [Entry.header, UInt32.toNat_ofNat']
  omega

theorem namlen_eq_zero (entry : Entry) : entry.header.namlen = 0 ↔ entry.name = [] := by
  rw [← UInt32.toNat_inj, toNat_namlen, UInt32.toNat_zero, length_eq_zero_iff]

/-- The entries that are whole, and the next one, which is not. -/
theorem whole_spec (entries : List Entry) : ∀ size : ℕ,
    (whole layout size entries).1 ++ (whole layout size entries).2 = entries ∧
      totalSize layout (whole layout size entries).1 ≤ size ∧
      ∀ entry ∈ (whole layout size entries).2.head?,
        size < totalSize layout (whole layout size entries).1 + entry.size layout := by
  induction entries with
  | nil =>
    intro size
    exact ⟨rfl, Nat.zero_le _, by simp [whole]⟩
  | cons entry rest ih =>
    intro size
    rw [whole]
    split_ifs with fits
    · obtain ⟨joined, inside, next⟩ := ih (size - entry.size layout)
      refine ⟨by rw [cons_append, joined], ?_, ?_⟩
      · rw [totalSize_cons]
        omega
      · intro entry' isNext
        have larger := next entry' isNext
        rw [totalSize_cons]
        omega
    · refine ⟨rfl, Nat.zero_le _, ?_⟩
      intro entry' isNext
      obtain rfl : entry = entry' := by simpa using isNext
      rw [totalSize_nil]
      omega

end Bytes

/-! ## The state of a walk -/

/-- Some entries of a load have been processed, and others have not. -/
structure Reading (reader : Reader) (load : Load) (done pending : List Entry) : Prop where
  suffix : load.rest <:+ directory.entries
  split : load.rest = done ++ pending
  inside : totalSize layout done ≤ load.size
  buffer : reader.buffer = ⟨(load.rest.flatMap (Entry.encode layout)).take load.size,
    totalSize layout done, load.size, min load.size (totalSize layout load.rest)⟩
  cookie : directory.following reader.cookie = skippedAtEnd done ++ pending

/-- What is delivered for an entry. -/
def Entry.dirent (entry : Entry) : Dirent := ⟨entry.ino, entry.type, entry.name⟩

/-- What is delivered for entries. -/
def delivered (entries : List Entry) : List Dirent :=
  (entries.filter fun entry => entry.Valid).map Entry.dirent

section State

variable {layout directory} {reader : Reader} {load : Load} {done pending more : List Entry}
  {entry : Entry}

/-- Bytes inside the buffer are read. -/
theorem Reading.read (reading : Reading layout directory reader load done pending)
    {front middle back : List UInt8}
    (bytes : load.rest.flatMap (Entry.encode layout) = front ++ (middle ++ back))
    (fits : front.length + middle.length ≤ load.size) :
    reader.buffer.read front.length middle.length = some middle := by
  have length : (load.rest.flatMap (Entry.encode layout)).length =
      front.length + (middle.length + back.length) := by
    rw [bytes, length_append, length_append]
  rw [Buffer.read, reading.buffer]
  dsimp only
  rw [length_take, length, if_pos (by omega), slice_take fits, bytes, slice_middle]

section

variable (reading : Reading layout directory reader load done (entry :: more))

include reading

/-- The header of the next entry is read if it is inside the buffer. -/
theorem Reading.read_header (visible : totalSize layout done + layout.size ≤ load.size) :
    reader.buffer.read (totalSize layout done) layout.size = some (layout.encode entry.header) := by
  have bytes : load.rest.flatMap (Entry.encode layout) = done.flatMap (Entry.encode layout) ++
      (layout.encode entry.header ++ (entry.name ++ more.flatMap (Entry.encode layout))) := by
    rw [reading.split, flatMap_append, flatMap_cons, Entry.encode, append_assoc]
  have read := reading.read bytes
  rw [length_flatMap_encode, layout.length_encode] at read
  exact read visible

/-- The name of the next entry is read if it is inside the buffer. -/
theorem Reading.read_name (fits : totalSize layout done + entry.size layout ≤ load.size) :
    reader.buffer.read (totalSize layout done + layout.size) entry.name.length =
      some entry.name := by
  have bytes : load.rest.flatMap (Entry.encode layout) =
      (done.flatMap (Entry.encode layout) ++ layout.encode entry.header) ++
        (entry.name ++ more.flatMap (Entry.encode layout)) := by
    rw [reading.split, flatMap_append, flatMap_cons, Entry.encode, append_assoc, append_assoc]
  have read := reading.read bytes
  rw [length_append, length_flatMap_encode, layout.length_encode] at read
  refine read ?_
  rw [Entry.size] at fits
  omega

theorem Reading.examine_whole (fits : totalSize layout done + entry.size layout ≤ load.size) :
    reader.buffer.examine layout = some (if entry.Valid then
      .found entry.header entry.name (entry.size layout) else .skip (entry.size layout)) := by
  have total : totalSize layout load.rest =
      totalSize layout done + (entry.size layout + totalSize layout more) := by
    rw [reading.split, totalSize_append, totalSize_cons]
  have size : entry.size layout = layout.size + entry.name.length := rfl
  have used : reader.buffer.used = min load.size (totalSize layout load.rest) := by
    rw [reading.buffer]
  have processed : reader.buffer.processed = totalSize layout done := by rw [reading.buffer]
  rw [Buffer.examine, used, processed]
  dsimp only
  rw [if_neg (by omega), reading.read_header (by omega)]
  simp only [bind_eq_bind, bind_some, layout.decode_encode, namlen_eq_zero, toNat_namlen, ← size]
  by_cases noName : entry.name = []
  · rw [if_pos noName, if_neg (fun valid : entry.Valid => valid.1 noName)]
  · rw [if_neg noName, if_neg (by omega), reading.read_name fits, bind_some]
    by_cases null : 0 ∈ entry.name
    · rw [if_pos null, if_neg (fun valid : entry.Valid => valid.2 null)]
    · rw [if_neg null, if_pos ⟨noName, null⟩]

end

/-- The next entry is cut off, and there may be no next entry. -/
theorem Reading.examine_cut (reading : Reading layout directory reader load done pending)
    (full : load.size ≤ totalSize layout load.rest)
    (cut : ∀ entry ∈ pending.head?, load.size < totalSize layout done + entry.size layout) :
    reader.buffer.examine layout = some (.readEntries
      (nextSize layout load.size (load.size - totalSize layout done) pending)) := by
  have used : reader.buffer.used = load.size := by
    rw [reading.buffer]
    exact min_eq_left full
  have size : reader.buffer.size = load.size := by rw [reading.buffer]
  have processed : reader.buffer.processed = totalSize layout done := by rw [reading.buffer]
  have inside := reading.inside
  rw [Buffer.examine, used, processed, size]
  cases pending with
  | nil =>
    have all : totalSize layout load.rest = totalSize layout done := by
      rw [reading.split, append_nil]
    have positive := layout.size_pos
    rw [if_pos (by omega), if_neg (lt_irrefl _)]
    rfl
  | cons entry more =>
    have larger := cut entry rfl
    have sizes : entry.size layout = layout.size + entry.name.length := rfl
    rw [nextSize]
    by_cases visible : layout.size ≤ load.size - totalSize layout done
    · have positive := layout.size_pos
      obtain ⟨size', grown, -⟩ := @grow_pos load.size (entry.size layout) (by omega)
      dsimp only
      rw [if_neg (by omega), reading.read_header (by omega), if_pos visible]
      simp only [bind_eq_bind, bind_some, layout.decode_encode, namlen_eq_zero,
        toNat_namlen, ← sizes]
      rw [if_neg, if_pos (by omega), grown]
      · rfl
      · intro noName
        rw [noName] at sizes
        dsimp only [length_nil] at sizes
        omega
    · dsimp only
      rw [if_pos (by omega), if_neg (lt_irrefl _), if_neg visible]

theorem Reading.examine_end (reading : Reading layout directory reader load done [])
    (room : totalSize layout load.rest < load.size) :
    reader.buffer.examine layout = some .endOfFile := by
  have all : totalSize layout load.rest = totalSize layout done := by
    rw [reading.split, append_nil]
  have positive := layout.size_pos
  rw [Buffer.examine, reading.buffer]
  dsimp only
  rw [if_pos (by omega), if_pos (by omega)]

theorem following_next {front : List Entry}
    (entries : directory.entries = front ++ entry :: more) :
    directory.following entry.next = more := by
  have notStart : entry.next ≠ dircookieStart :=
    directory.notStart entry (by rw [entries]; simp)
  have different := directory.nodup
  rw [entries, map_append, map_cons, nodup_append] at different
  have passed : (front ++ entry :: more).dropWhile (fun other => decide (other.next ≠ entry.next)) =
      entry :: more := by
    rw [dropWhile_append, dropWhile_eq_nil_iff.mpr]
    · simp
    · intro other member
      rw [decide_eq_true_iff]
      exact different.2.2 other.next (mem_map_of_mem member) entry.next (by simp)
  rw [Directory.following, if_neg notStart, entries, passed, tail_cons]

theorem skippedAtEnd_append_valid (valid : entry.Valid) (entries : List Entry) :
    skippedAtEnd (entries ++ [entry]) = [] := by
  exact rtakeWhile_concat_neg _ _ _ (by simpa using valid)

theorem skippedAtEnd_append_skipped (skipped : ¬ entry.Valid) (entries : List Entry) :
    skippedAtEnd (entries ++ [entry]) = skippedAtEnd entries ++ [entry] := by
  exact rtakeWhile_concat_pos _ _ _ (by simpa using skipped)

/-- An entry that is whole is passed, and it is delivered if it is valid. -/
theorem Reading.pass (reading : Reading layout directory reader load done (entry :: more))
    (fits : totalSize layout done + entry.size layout ≤ load.size) :
    ∃ next, advance layout directory reader =
        some (if entry.Valid then .entry entry.dirent next else .silent next) ∧
      Reading layout directory next load (done ++ [entry]) more := by
  have buffer : ∀ cookie, directory.following cookie = skippedAtEnd (done ++ [entry]) ++ more →
      Reading layout directory ⟨cookie, reader.buffer.process (entry.size layout)⟩ load
        (done ++ [entry]) more := by
    intro cookie following
    have total : totalSize layout (done ++ [entry]) = totalSize layout done + entry.size layout := by
      rw [totalSize_append, totalSize_cons, totalSize_nil, Nat.add_zero]
    refine ⟨reading.suffix, by rw [reading.split, append_assoc]; rfl, by omega, ?_, following⟩
    rw [Buffer.process, reading.buffer, total]
  rw [advance, reading.examine_whole fits]
  by_cases valid : entry.Valid
  · refine ⟨⟨entry.next, reader.buffer.process (entry.size layout)⟩, ?_, buffer _ ?_⟩
    · rw [if_pos valid, if_pos valid]
      rfl
    · obtain ⟨front, entries⟩ := reading.suffix
      rw [reading.split, ← append_assoc] at entries
      rw [following_next entries.symm, skippedAtEnd_append_valid valid, nil_append]
  · refine ⟨⟨reader.cookie, reader.buffer.process (entry.size layout)⟩, ?_, buffer _ ?_⟩
    · rw [if_neg valid, if_neg valid]
      rfl
    · rw [reading.cookie, skippedAtEnd_append_skipped valid, append_assoc]
      rfl

theorem delivered_append (front more : List Entry) :
    delivered (front ++ more) = delivered front ++ delivered more := by
  rw [delivered, filter_append, map_append]
  rfl

/-- The entries that are whole are passed. -/
theorem Reading.walk (front : List Entry) : ∀ {reader : Reader} {done : List Entry},
    Reading layout directory reader load done (front ++ more) →
      totalSize layout (done ++ front) ≤ load.size →
      ∃ next, Walk layout directory reader (delivered front) next ∧
        Reading layout directory next load (done ++ front) more := by
  induction front with
  | nil =>
    intro reader done reading _
    exact ⟨reader, .refl reader, by rwa [append_nil]⟩
  | cons entry front ih =>
    intro reader done reading inside
    have split : done ++ entry :: front = done ++ [entry] ++ front := by simp
    have fits : totalSize layout done + entry.size layout ≤ load.size := by
      rw [totalSize_append, totalSize_cons] at inside
      omega
    obtain ⟨next, passed, reading'⟩ := reading.pass fits
    rw [split] at inside ⊢
    obtain ⟨last, walk, reading''⟩ := ih reading' inside
    refine ⟨last, ?_, reading''⟩
    rw [← singleton_append, delivered_append, delivered]
    by_cases valid : entry.Valid
    · rw [if_pos valid] at passed
      rw [filter_singleton, decide_eq_true valid]
      exact .entry passed walk
    · rw [if_neg valid] at passed
      rw [filter_singleton, decide_eq_false valid]
      exact .silent passed walk

/-- A load right after the kernel has stored its entries. -/
def Loaded (layout : Layout) (directory : Directory) (reader : Reader) (load : Load) : Prop :=
  Reading layout directory reader load [] load.rest

theorem loaded_fillBuffer {cookie : UInt64} {rest : List Entry} (size : ℕ)
    (following : directory.following cookie = rest) (suffix : rest <:+ directory.entries) :
    Loaded layout directory ⟨cookie, fillBuffer layout directory size cookie⟩ ⟨size, rest⟩ := by
  refine ⟨suffix, rfl, Nat.zero_le _, ?_, following⟩
  rw [fillBuffer, fileReaddir, following]
  rw [length_take, length_flatMap_encode]
  rfl

/-- The kernel is asked for more entries. -/
theorem Reading.readEntries (reading : Reading layout directory reader load done pending)
    (full : load.size ≤ totalSize layout load.rest)
    (cut : ∀ entry ∈ pending.head?, load.size < totalSize layout done + entry.size layout) :
    ∃ next, advance layout directory reader = some (.silent next) ∧
      Loaded layout directory next
        ⟨nextSize layout load.size (load.size - totalSize layout done) pending,
          skippedAtEnd done ++ pending⟩ := by
  refine ⟨_, by rw [advance, reading.examine_cut full cut]; rfl, loaded_fillBuffer _ reading.cookie ?_⟩
  refine List.IsSuffix.trans ?_ reading.suffix
  rw [reading.split]
  obtain ⟨front, isFront⟩ := rtakeWhile_suffix (fun entry : Entry => decide (¬ entry.Valid)) done
  exact ⟨front, by rw [← append_assoc, skippedAtEnd, isFront]⟩

/-- Nothing is delivered for the entries that are stored once more. -/
theorem delivered_skippedAtEnd (entries : List Entry) : delivered (skippedAtEnd entries) = [] := by
  rw [delivered, map_eq_nil_iff, filter_eq_nil_iff]
  intro entry member
  have skipped := mem_rtakeWhile_imp member
  simpa using skipped

/-- The last load. -/
theorem Loaded.ends (loaded : Loaded layout directory reader load)
    (last : nextLoad layout load = none) :
    Ends layout directory reader (delivered load.rest) := by
  rw [nextLoad] at last
  split_ifs at last with room
  have reading : Reading layout directory reader load [] (load.rest ++ []) := by
    rw [append_nil]
    exact loaded
  obtain ⟨next, walk, reading'⟩ := reading.walk load.rest (by rw [nil_append]; omega)
  refine ⟨next, walk, ?_⟩
  rw [advance, reading'.examine_end room]
  rfl

/-- The entries of a load that are whole and the others, if there is a next load. -/
theorem exists_of_nextLoad {load' : Load} (isNext : nextLoad layout load = some load') :
    ∃ front more, front ++ more = load.rest ∧ totalSize layout front ≤ load.size ∧
      load.size ≤ totalSize layout load.rest ∧
      (∀ entry ∈ more.head?, load.size < totalSize layout front + entry.size layout) ∧
      load' = ⟨nextSize layout load.size (load.size - totalSize layout front) more,
        skippedAtEnd front ++ more⟩ := by
  obtain ⟨joined, inside, cut⟩ := @whole_spec layout load.rest load.size
  rw [nextLoad] at isNext
  split_ifs at isNext with room
  exact ⟨_, _, joined, inside, not_lt.mp room, cut, (some.inj isNext).symm⟩

section

variable (loaded : Loaded layout directory reader load)

include loaded

/-- A load leads to the next one. -/
theorem Loaded.next {load' : Load} (isNext : nextLoad layout load = some load') :
    ∃ dirents next, Walk layout directory reader dirents next ∧
      Loaded layout directory next load' ∧
      delivered load.rest = dirents ++ delivered load'.rest := by
  obtain ⟨front, more, joined, inside, full, cut, rfl⟩ := exists_of_nextLoad isNext
  have reading : Reading layout directory reader load [] (front ++ more) := by
    rw [joined]
    exact loaded
  obtain ⟨next, walk, reading'⟩ := reading.walk front inside
  obtain ⟨last, passed, loaded'⟩ := reading'.readEntries full cut
  refine ⟨delivered front, last, ?_, loaded', ?_⟩
  · have walk' := walk.trans (.silent passed (.refl last))
    rwa [append_nil] at walk'
  · rw [← joined, delivered_append, delivered_append, delivered_skippedAtEnd, nil_append]

/-- **A load that leads to itself is repeated forever.** -/
theorem Loaded.stuck (stall : nextLoad layout load = some load) :
    ∃ Stuck : Reader → Prop, Stuck reader ∧ ∀ reader, Stuck reader →
      ∃ next, advance layout directory reader = some (.silent next) ∧ Stuck next := by
  obtain ⟨front, more, joined, inside, full, cut, same⟩ := exists_of_nextLoad stall
  obtain ⟨sameSize, sameRest⟩ := Load.mk.inj same
  have all : skippedAtEnd front = front := append_cancel_right (sameRest.symm.trans joined.symm)
  have skipped : ∀ entry ∈ front, ¬ entry.Valid := fun entry member => by
    rw [← all] at member
    simpa using mem_rtakeWhile_imp member
  -- The walk stays among the entries of this load that are whole.
  refine ⟨fun reader => ∃ done left, front = done ++ left ∧
    Reading layout directory reader load done (left ++ more),
    ⟨[], front, rfl, by rw [joined]; exact loaded⟩, ?_⟩
  rintro reader ⟨done, left, rfl, reading⟩
  cases left with
  | nil =>
    rw [append_nil] at *
    obtain ⟨next, passed, loaded'⟩ := reading.readEntries full cut
    rw [nil_append] at loaded'
    rw [← sameSize, all, joined] at loaded'
    refine ⟨next, passed, [], done, rfl, ?_⟩
    rw [joined]
    exact loaded'
  | cons entry left =>
    have fits : totalSize layout done + entry.size layout ≤ load.size := by
      rw [totalSize_append, totalSize_cons] at inside
      omega
    obtain ⟨next, passed, reading'⟩ := reading.pass fits
    rw [if_neg (skipped entry (by simp))] at passed
    exact ⟨next, passed, done ++ [entry], left, by simp, reading'⟩

/-- A call of `readdir()` does not return from such a load. -/
theorem Loaded.readdir_eq_none (stall : nextLoad layout load = some load) (direntSize fuel : ℕ) :
    readdir layout directory fuel ⟨reader, direntSize⟩ = none := by
  obtain ⟨Stuck, stuck, step⟩ := loaded.stuck stall
  refine run_eq_none (fun dirp => Stuck dirp.toReader) (fun dirp isStuck => ?_) fuel stuck
  obtain ⟨next, passed, isStuck'⟩ := step _ isStuck
  refine ⟨{ dirp with toReader := next }, ?_, isStuck'⟩
  rw [readdirPass, passed]
  rfl

theorem Loaded.neverStalls {dirents : List Dirent}
    (ends : Ends layout directory reader dirents) : NeverStalls layout load := by
  intro load' reached stall
  induction reached using Relation.ReflTransGen.head_induction_on generalizing reader dirents with
  | refl =>
    obtain ⟨Stuck, stuck, step⟩ := loaded.stuck stall
    exact not_ends step stuck ends
  | head isNext _ ih =>
    obtain ⟨_, next, walk, loaded', -⟩ := loaded.next isNext
    obtain ⟨rest, ends'⟩ := walk.ends_rest ends
    exact ih loaded' ends'

end

/-- A bound on the number of loads: entries that are left, and entries that are too large for the
buffer. -/
def Load.bound (layout : Layout) (load : Load) (entries : List Entry) : ℕ :=
  load.rest.length + (entries.filter fun entry => load.size < entry.size layout).length

theorem nextLoad_spec {load' : Load} (isNext : nextLoad layout load = some load') :
    load'.rest <:+ load.rest ∧ load.size ≤ load'.size ∧
      (load'.size = load.size ∨ ∃ entry ∈ load.rest, load.size < entry.size layout ∧
        entry.size layout ≤ load'.size) := by
  obtain ⟨front, more, joined, inside, full, cut, rfl⟩ := exists_of_nextLoad isNext
  refine ⟨?_, ?_⟩
  · obtain ⟨before, isFront⟩ :=
      rtakeWhile_suffix (fun entry : Entry => decide (¬ entry.Valid)) front
    exact ⟨before, by rw [← joined, ← append_assoc, skippedAtEnd, isFront]⟩
  · cases more with
    | nil => exact ⟨le_rfl, Or.inl rfl⟩
    | cons entry more =>
      dsimp only [nextSize]
      split_ifs with visible
      · have positive := layout.size_pos
        obtain ⟨size', grown, larger, enough, kept⟩ :=
          @grow_pos load.size (entry.size layout) (by omega)
        rw [grown, getD_some]
        refine ⟨larger, ?_⟩
        by_cases fits : entry.size layout ≤ load.size
        · exact Or.inl (kept fits)
        · exact Or.inr ⟨entry, by rw [← joined]; simp, by omega, enough⟩
      · exact ⟨le_rfl, Or.inl rfl⟩

theorem bound_lt {load' : Load} {entries : List Entry} (suffix : load.rest <:+ entries)
    (isNext : nextLoad layout load = some load') (changed : load' ≠ load) :
    load'.bound layout entries < load.bound layout entries := by
  obtain ⟨rest, larger, sizes⟩ := nextLoad_spec isNext
  have fewer : (entries.filter fun entry => load'.size < entry.size layout).Sublist
      (entries.filter fun entry => load.size < entry.size layout) := by
    refine monotone_filter_right entries fun entry => ?_
    simp only [decide_eq_true_iff]
    omega
  have shorter := rest.length_le
  have fewerLength := fewer.length_le
  rw [Load.bound, Load.bound]
  by_cases sameRest : load'.rest = load.rest
  · have sameSize : load'.size ≠ load.size := by
      intro sameSize
      exact changed (by
        obtain ⟨size, entries⟩ := load
        obtain ⟨size', entries'⟩ := load'
        dsimp only at sameRest sameSize
        rw [sameRest, sameSize])
    obtain ⟨entry, member, tooLarge, fits⟩ := sizes.resolve_left sameSize
    have different : (entries.filter fun entry => load'.size < entry.size layout).length ≠
        (entries.filter fun entry => load.size < entry.size layout).length := by
      intro sameLength
      have same := fewer.eq_of_length sameLength
      have inside : entry ∈ entries.filter fun entry => load.size < entry.size layout := by
        rw [mem_filter]
        exact ⟨suffix.subset member, by simpa using tooLarge⟩
      rw [← same, mem_filter, decide_eq_true_iff] at inside
      omega
    omega
  · have less : load'.rest.length < load.rest.length := by
      refine lt_of_le_of_ne shorter fun sameLength => sameRest ?_
      exact rest.eq_of_length sameLength
    omega

/-- Without such a load all entries are delivered. -/
theorem Loaded.delivers (loaded : Loaded layout directory reader load)
    (never : NeverStalls layout load) :
    Ends layout directory reader (delivered load.rest) := by
  induction fuel : load.bound layout directory.entries using Nat.strong_induction_on
    generalizing load reader with
  | _ bound ih =>
    cases isNext : nextLoad layout load with
    | none => exact loaded.ends isNext
    | some load' =>
      obtain ⟨dirents, next, walk, loaded', split⟩ := loaded.next isNext
      have changed : load' ≠ load := by
        rintro rfl
        exact never _ .refl isNext
      have less := bound_lt loaded.suffix isNext changed
      rw [split]
      exact walk.ends (ih _ (fuel ▸ less) loaded'
        (fun load'' reached => never load'' (.head isNext reached)) rfl)

end State

/-! ## Directories that are delivered -/

theorem loaded_start (layout : Layout) (directory : Directory) (size : ℕ) :
    Loaded layout directory ⟨dircookieStart, fillBuffer layout directory size dircookieStart⟩
      ⟨size, directory.entries⟩ :=
  loaded_fillBuffer size (if_pos rfl) (suffix_refl _)

/-- **The entries of a directory are delivered if and only if no load that is reached leads to
itself.** The first part is about the calls of `readdir()`, the second one about `scandirat()`. -/
theorem readdir_delivers_iff (layout : Layout) (directory : Directory) (size : ℕ) :
    (ReadsAll layout directory (fdopendir layout directory size) (delivered directory.entries) ↔
      NeverStalls layout ⟨size, directory.entries⟩) ∧
    ∀ sel qsort, (∃ fuel, scandirat layout directory size sel qsort fuel =
        some (qsort ((delivered directory.entries).filter sel))) ↔
      NeverStalls layout ⟨size, directory.entries⟩ := by
  have loaded := loaded_start layout directory size
  refine ⟨?_, fun sel qsort => ?_⟩
  · rw [readsAll_iff (show 0 < (fdopendir layout directory size).direntSize from Nat.one_pos)]
    exact ⟨loaded.neverStalls, loaded.delivers⟩
  · -- The first pass asks the kernel for the first entries.
    have first : advance layout directory ⟨dircookieStart, ⟨[], size, size, size⟩⟩ =
        some (.silent ⟨dircookieStart, fillBuffer layout directory size dircookieStart⟩) := by
      have positive := layout.size_pos
      rw [advance, Buffer.examine]
      dsimp only
      rw [if_pos (by omega), if_neg (lt_irrefl _)]
      rfl
    constructor
    · rintro ⟨fuel, scanned⟩
      rw [scandirat, map_eq_some_iff] at scanned
      obtain ⟨result, ran, -⟩ := scanned
      obtain ⟨dirents, ends, -⟩ := (scandirat_iff sel).mp ⟨fuel, ran⟩
      obtain ⟨rest, ends'⟩ := (Walk.silent first (.refl _)).ends_rest ends
      exact loaded.neverStalls ends'
    · intro never
      obtain ⟨last, walk, ended⟩ := loaded.delivers never
      obtain ⟨fuel, ran⟩ := (@scandirat_iff layout directory sel
        ⟨⟨dircookieStart, ⟨[], size, size, size⟩⟩, []⟩ _).mpr
          ⟨_, ⟨last, .silent first walk, ended⟩, rfl⟩
      exact ⟨fuel, by rw [scandirat, ran]; rfl⟩

/-- `DIRENT_DEFAULT_BUFFER_SIZE`. -/
def direntDefaultBufferSize : ℕ := 4096

/-- The layout of a header with members in little endian order. -/
def littleEndianLayout : Layout where
  size := 24
  encode header := leBytes 8 header.next.toNat ++ (leBytes 8 header.ino.toNat ++
    (leBytes 4 header.namlen.toNat ++ [header.type, 0, 0, 0]))
  decode bytes := ⟨.ofNat (leValue (slice bytes 0 8)), .ofNat (leValue (slice bytes 8 8)),
    .ofNat (leValue (slice bytes 16 4)), bytes.getD 20 0⟩
  size_pos := by decide
  length_encode header := by simp [length_leBytes]
  decode_encode header := by
    obtain ⟨next, ino, namlen, type⟩ := header
    have first := slice_middle [] (leBytes 8 next.toNat) (leBytes 8 ino.toNat ++
      (leBytes 4 namlen.toNat ++ [type, 0, 0, 0]))
    have second := slice_middle (leBytes 8 next.toNat) (leBytes 8 ino.toNat)
      (leBytes 4 namlen.toNat ++ [type, 0, 0, 0])
    have third := slice_middle (leBytes 8 next.toNat ++ leBytes 8 ino.toNat)
      (leBytes 4 namlen.toNat) [type, 0, 0, 0]
    simp only [length_leBytes, List.length_append, List.length_nil, List.nil_append,
      List.append_assoc] at first second third
    dsimp only
    rw [first, second, third, leValue_leBytes 8 next.toNat_lt, leValue_leBytes 8 ino.toNat_lt,
      leValue_leBytes 4 namlen.toNat_lt, UInt64.ofNat_toNat, UInt64.ofNat_toNat, UInt32.ofNat_toNat]
    rfl

/-- A long name. -/
def longName : List UInt8 := List.replicate 4060 0x61

theorem length_longName : longName.length = 4060 := length_replicate

/-- An entry without a name. -/
def namelessEntry : Entry := ⟨1, 1, 0, [], by decide⟩

/-- An entry with a long name. -/
def longEntry : Entry := ⟨2, 2, 0x60, longName, by rw [length_longName]; decide⟩

theorem longEntry_valid : longEntry.Valid := by
  constructor
  · intro empty
    have length := length_longName
    rw [show longName = [] from empty] at length
    cases length
  · intro null
    exact absurd (eq_of_mem_replicate null) (by decide)

/-- A directory with an entry without a name in front of an entry with a long name. -/
def skippedThenLong : Directory where
  entries := [namelessEntry, longEntry]
  nodup := by
    show [(1 : UInt64), 2].Nodup
    decide
  notStart := by
    intro entry member
    obtain rfl | rfl : entry = namelessEntry ∨ entry = longEntry := by simpa using member
    · show (1 : UInt64) ≠ 0
      decide
    · show (2 : UInt64) ≠ 0
      decide

/-- With the default buffer the first call of `readdir()` does not return: the second entry would fit
into the buffer, but not behind the first one, which is stored again and again. -/
theorem readdir_repeats_load :
    (∀ fuel, readdir littleEndianLayout skippedThenLong fuel
      (fdopendir littleEndianLayout skippedThenLong direntDefaultBufferSize) = none) ∧
    delivered skippedThenLong.entries = [⟨2, 0x60, longName⟩] := by
  have nameless : ¬ namelessEntry.Valid := fun valid => valid.1 rfl
  have stall : nextLoad littleEndianLayout ⟨direntDefaultBufferSize, skippedThenLong.entries⟩ =
      some ⟨direntDefaultBufferSize, skippedThenLong.entries⟩ := by
    have first : namelessEntry.size littleEndianLayout = 24 := rfl
    have second : longEntry.size littleEndianLayout = 4084 := by
      rw [Entry.size, show longEntry.name = longName from rfl, length_longName]
      rfl
    have header : littleEndianLayout.size = 24 := rfl
    have front : whole littleEndianLayout direntDefaultBufferSize skippedThenLong.entries =
        ([namelessEntry], [longEntry]) := by
      simp only [skippedThenLong, direntDefaultBufferSize, whole, first, second]
      rw [if_pos (by decide), if_neg (by decide)]
    have stored : skippedAtEnd [namelessEntry] = [namelessEntry] :=
      skippedAtEnd_append_skipped nameless []
    have grown : grow 4096 4084 = some 4096 := by
      obtain ⟨size', grown, -, -, kept⟩ := @grow_pos 4096 4084 (by decide)
      rw [grown, kept (by decide)]
    simp only [nextLoad, front, stored]
    simp only [skippedThenLong, direntDefaultBufferSize, totalSize_cons, totalSize_nil, first, second,
      nextSize, header, grown]
    rfl
  refine ⟨fun fuel => (loaded_start _ _ _).readdir_eq_none stall 1 fuel, ?_⟩
  rw [delivered, skippedThenLong]
  simp only [filter_cons, nameless, longEntry_valid, decide_true, decide_false, if_true,
    Bool.false_eq_true, if_false, filter_nil]
  rfl

end Cloudlibc.Dirent
