import Cloudlibc.Stdio.ScanFormat

/-!
# The directives of a `scanf()` format in the POSIX locale

In the POSIX locale every byte is a character or an error. The pass of `vsscanf_l()` over a directive
other than a `%s` conversion is then defined. It returns, or goes on behind the directive with no
more input than before (`GoesOn`).
-/

set_option autoImplicit false

namespace Cloudlibc.Stdio

open Cloudlibc.Locale Cloudlibc.Loop List Option

/-! ## White space -/

/-- The byte is white space in the POSIX locale. -/
def isSpace (b : UInt8) : Bool := iswspace b.toNat

theorem isSpace_eq_false_of_high {b : UInt8} (high : b.toNat > 127) : isSpace b = false := by
  have range := b.toNat_lt
  simp only [isSpace, iswspace, Bool.or_eq_false_iff, Bool.and_eq_false_iff, beq_eq_false_iff_ne,
    decide_eq_false_iff_not]
  omega

theorem nextCharacter_usAscii (s : List UInt8) (fuel : ℕ) (mbs : Mbstate) :
    nextCharacter ctypeUsAscii s (fuel + 1) 0 mbs =
      some (1, if (peek s 0).toNat > 127 then .error .EILSEQ
        else .character (peek s 0).toNat 1 .setInit) := by
  by_cases high : (peek s 0).toNat > 127 <;>
    simp [nextCharacter, ctypeUsAscii, usAsciiMbtoc32, high]

theorem skipWhitespaceLoop_usAscii (s : List UInt8) :
    ∀ fuel skipped mbs, s.length - skipped < fuel →
      skipWhitespaceLoop ctypeUsAscii s fuel skipped mbs =
        some (skipped + ((s.drop skipped).takeWhile isSpace).length) := by
  intro fuel
  induction fuel with
  | zero => exact fun skipped mbs enough => absurd enough (by omega)
  | succ fuel ih =>
    intro skipped mbs enough
    rw [skipWhitespaceLoop, nextCharacter_usAscii]
    cases left : s.drop skipped with
    | nil => rfl
    | cons b left' =>
      have first : peek (b :: left') 0 = b := rfl
      have more : s.drop (skipped + 1) = left' := by
        rw [← drop_drop, left]
        rfl
      have inside : skipped < s.length := by
        by_contra outside
        rw [drop_eq_nil_of_le (by omega)] at left
        cases left
      rw [first]
      by_cases space : isSpace b
      · have low : ¬b.toNat > 127 := fun high => by
          rw [isSpace_eq_false_of_high high] at space
          cases space
        have isSpc : iswspace b.toNat := space
        have rest := ih (skipped + 1) .setInit (by omega)
        rw [more] at rest
        simp only [low, if_false, bind_eq_bind, bind_some, isSpc, if_true, rest,
          takeWhile_cons, space, length_cons]
        congr 1
        omega
      · have notSpace : iswspace b.toNat = false := by simpa [isSpace] using space
        by_cases high : b.toNat > 127 <;> simp [high, notSpace, space]

/-- In the POSIX locale the white space at the start is skipped. -/
theorem skipWhitespace_usAscii (s : List UInt8) :
    skipWhitespace ctypeUsAscii s = some (s.takeWhile isSpace).length := by
  rw [skipWhitespace, skipWhitespaceLoop_usAscii s _ _ _ (by omega), drop_zero, Nat.zero_add]

theorem drop_takeWhile_length (s : List UInt8) :
    s.drop (s.takeWhile isSpace).length = s.dropWhile isSpace := by
  have split : s.takeWhile isSpace ++ s.dropWhile isSpace = s := takeWhile_append_dropWhile
  calc s.drop (s.takeWhile isSpace).length
      = (s.takeWhile isSpace ++ s.dropWhile isSpace).drop (s.takeWhile isSpace).length := by
        rw [split]
    _ = s.dropWhile isSpace := drop_left

/-! ## Directives -/

/-- The specifiers that `vsscanf_l()` ignores. They stand for the conversions of `x`, `a`, `e`, `f`
and `g`. -/
def ignoredLetters : List Char := ['X', 'A', 'E', 'F', 'G']

/-- The number of assignments that `vsscanf_l()` counts for a directive. -/
def Directive.assigns : Directive → ℕ
  | .conversion spec =>
    if spec.suppress ∨ spec.specifier.char ∈ 'n' :: ignoredLetters then 0 else 1
  | _ => 0

def assignments (directives : List Directive) : ℕ := (directives.map Directive.assigns).sum

theorem assignments_append (front rest : List Directive) :
    assignments (front ++ rest) = assignments front + assignments rest := by
  rw [assignments, map_append, sum_append]
  rfl

/-- The number of assignments of a conversion. -/
def Conversion.assigns (conversion : Conversion) : ℕ := if conversion.suppress then 0 else 1

/-- The pass goes on with the format `rest` and no more input than before, and has counted `n`
assignments, or it leaves, and not with `EOF` unless an allocation has failed. -/
def GoesOn (env : ScanEnvironment) (scan : Scan) (rest : List UInt8) (n : ℕ)
    (pass : Pass ScanState ScanResult) : Prop :=
  pass.Meets (fun next => ∃ scan', next = .main scan' ∧ scan'.format = rest ∧
      scan'.input.length ≤ scan.input.length ∧
      scan'.conversionsPerformed = scan.conversionsPerformed + n)
    fun result => (∀ call, env.reallocarray call) → 0 ≤ result.ret

section

variable (scan : Scan)

include scan

@[simp]
theorem Scan.store_format (conversion : Conversion) (value : Stored) :
    (scan.store conversion value).format = scan.format := by
  rw [store]
  split_ifs <;> rfl

@[simp]
theorem Scan.store_input (conversion : Conversion) (value : Stored) :
    (scan.store conversion value).input = scan.input := by
  rw [store]
  split_ifs <;> rfl

@[simp]
theorem Scan.performed_format (conversion : Conversion) :
    (scan.performed conversion).format = scan.format := by
  rw [performed]
  split_ifs <;> rfl

@[simp]
theorem Scan.performed_input (conversion : Conversion) :
    (scan.performed conversion).input = scan.input := by
  rw [performed]
  split_ifs <;> rfl

@[simp]
theorem Scan.skip_format (n : ℕ) : (scan.skip n).format = scan.format := rfl

@[simp]
theorem Scan.skip_input (n : ℕ) : (scan.skip n).input = scan.input.drop n := rfl

@[simp]
theorem Scan.store_conversionsPerformed (conversion : Conversion) (value : Stored) :
    (scan.store conversion value).conversionsPerformed = scan.conversionsPerformed := by
  rw [store]
  split_ifs <;> rfl

@[simp]
theorem Scan.skip_conversionsPerformed (n : ℕ) :
    (scan.skip n).conversionsPerformed = scan.conversionsPerformed := rfl

@[simp]
theorem Scan.performed_conversionsPerformed (conversion : Conversion) :
    (scan.performed conversion).conversionsPerformed =
      scan.conversionsPerformed + conversion.assigns := by
  rw [performed, Conversion.assigns]
  split_ifs <;> rfl

end

section

variable {env : ScanEnvironment} {scan scan' : Scan} {rest : List UInt8} {n : ℕ}

theorem goesOn_next (format : scan'.format = rest)
    (input : scan'.input.length ≤ scan.input.length)
    (counted : scan'.conversionsPerformed = scan.conversionsPerformed + n) :
    GoesOn env scan rest n (next scan') :=
  ⟨scan', rfl, format, input, counted⟩

theorem goesOn_done : GoesOn env scan rest n (.leave scan'.done) := fun _ => Int.natCast_nonneg _

theorem goesOn_bad {call : ℕ} (failed : env.reallocarray call = false) :
    GoesOn env scan rest n (.leave scan'.bad) := fun granted => by
  rw [granted call] at failed
  cases failed

end

/-- Appending to a string changes the number of allocations only. -/
theorem stringAppend_scan (env : ScanEnvironment) (conversion : Conversion) (scan : Scan)
    (output : StringOutput) (c : UInt8) :
    ∃ reallocs, (stringAppend env conversion scan output c).1 = { scan with reallocs := reallocs } := by
  rw [stringAppend]
  split_ifs <;> exact ⟨_, rfl⟩

theorem stringAppendAll_scan (env : ScanEnvironment) (conversion : Conversion) (bytes : List UInt8) :
    ∀ scan output, ∃ reallocs, (stringAppendAll env conversion scan output bytes).1 =
      { scan with reallocs := reallocs } := by
  induction bytes with
  | nil => exact fun scan output => ⟨_, rfl⟩
  | cons c bytes ih =>
    intro scan output
    obtain ⟨reallocs, first⟩ := stringAppend_scan env conversion scan output c
    rw [stringAppendAll]
    cases appended : stringAppend env conversion scan output c with
    | mk scan' output' =>
      obtain rfl : scan' = { scan with reallocs := reallocs } := by rw [← first, appended]
      cases output' with
      | none => exact ⟨_, rfl⟩
      | some output' =>
        obtain ⟨reallocs', others⟩ := ih { scan with reallocs := reallocs } output'
        exact ⟨reallocs', others⟩

/-- Appending fails only if an allocation does. -/
theorem exists_failed_of_stringAppendAll {env : ScanEnvironment} {conversion : Conversion}
    {bytes : List UInt8} : ∀ {scan scan' : Scan} {output : StringOutput},
      stringAppendAll env conversion scan output bytes = (scan', none) →
        ∃ call, env.reallocarray call = false := by
  induction bytes with
  | nil => exact fun failed => by cases failed
  | cons c bytes ih =>
    intro scan scan' output failed
    rw [stringAppendAll] at failed
    split at failed
    case h_1 appended =>
      rw [stringAppend] at appended
      split_ifs at appended with suppressed full granted small
      · cases appended
      · cases appended
      · cases appended
      · exact ⟨_, Bool.eq_false_of_not_eq_true granted⟩
      · cases appended
    case h_2 => exact ih failed

section

variable (env : ScanEnvironment)

include env

theorem stringAppendAll_cases (conversion : Conversion) (scan : Scan)
    (output : StringOutput) (bytes : List UInt8) :
    (∃ scan' call, stringAppendAll env conversion scan output bytes = (scan', none) ∧
      env.reallocarray call = false) ∨
      ∃ reallocs output', stringAppendAll env conversion scan output bytes =
        ({ scan with reallocs := reallocs }, some output') := by
  obtain ⟨reallocs, kept⟩ := stringAppendAll_scan env conversion bytes scan output
  cases appended : stringAppendAll env conversion scan output bytes with
  | mk scan' output' =>
    rw [appended] at kept
    subst kept
    cases output' with
    | none =>
      obtain ⟨call, failed⟩ := exists_failed_of_stringAppendAll appended
      exact .inl ⟨_, call, rfl, failed⟩
    | some output' => exact .inr ⟨_, _, rfl⟩

variable {rest : List UInt8}

theorem goesOn_stringFinish (conversion : Conversion) {scan scan' : Scan}
    (bytes : List UInt8) (skipped : ℕ) (format : scan'.format = rest)
    (input : scan'.input.length ≤ scan.input.length)
    (same : scan'.conversionsPerformed = scan.conversionsPerformed) :
    GoesOn env scan rest conversion.assigns (stringFinish env conversion scan' bytes skipped) := by
  have finished : ∀ (last : Scan) (value : Stored), last.format = rest →
      last.input = scan'.input → last.conversionsPerformed = scan.conversionsPerformed →
      GoesOn env scan rest conversion.assigns
        (next (((last.store conversion value).performed conversion).skip skipped)) := by
    intro last value sameFormat sameInput kept
    refine goesOn_next (by simpa using sameFormat) ?_ (by simp [kept])
    simp only [Scan.skip_input, Scan.performed_input, Scan.store_input, length_drop, sameInput]
    omega
  rw [stringFinish]
  split
  · split
    · split
      case isTrue => exact finished _ _ format rfl same
      case isFalse refused => exact goesOn_bad (Bool.eq_false_of_not_eq_true refused)
    · exact finished _ _ format rfl same
  · exact finished _ _ format rfl same

theorem goesOn_convertCharacters (scan : Scan) (conversion : Conversion) :
    GoesOn env scan scan.format conversion.assigns (convertCharacters env scan conversion) := by
  rw [convertCharacters]
  generalize (if conversion.fieldWidth = 0 then 1 else conversion.fieldWidth) = fieldWidth
  split
  · obtain ⟨scan', call, failed, refused⟩ | ⟨reallocs, output, appended⟩ :=
      stringAppendAll_cases env conversion scan (stringStart conversion) (scan.input.take fieldWidth)
    · rw [failed]
      exact goesOn_bad refused
    · rw [appended]
      exact goesOn_stringFinish env conversion _ _ rfl le_rfl rfl
  · exact goesOn_done

theorem goesOn_convertScanset (scan : Scan) (conversion : Conversion)
    {bs : Byteset} (read : scanset scan.format = some (bs, rest)) :
    ∃ pass, convertScanset env scan conversion = some pass ∧
      GoesOn env scan rest conversion.assigns pass := by
  simp only [convertScanset, read, bind_eq_bind, bind_some]
  generalize (scan.input.take _).takeWhile bs = bytes
  obtain ⟨scan', call, failed, refused⟩ | ⟨reallocs, output, appended⟩ := stringAppendAll_cases env
    conversion { scan with format := rest } (stringStart conversion) bytes
  · simp only [failed]
    exact ⟨_, rfl, goesOn_bad refused⟩
  · simp only [appended]
    split
    · exact ⟨_, rfl, goesOn_done⟩
    · exact ⟨_, rfl, goesOn_stringFinish env conversion _ _ rfl le_rfl rfl⟩

theorem convert_ignored (scan : Scan) (conversion : Conversion) {c : Char}
    (ignored : c ∈ ignoredLetters) : convert env scan conversion c = some (next scan) := by
  simp only [ignoredLetters, mem_cons, not_mem_nil, or_false] at ignored
  rcases ignored with rfl | rfl | rfl | rfl | rfl <;> rfl

theorem mainPass_conversion (scan : Scan) (spec : ConversionSpec)
    (format : scan.format = byteOf '%' :: (spec.text ++ rest)) :
    mainPass env scan = convert env (spec.behind scan (spec.specifier.tail ++ rest))
      (spec.conversion scan.ap) spec.specifier.char := by
  rw [mainPass, format]
  simp only [if_neg (spec.peek_text rest)]
  exact conversionPass_text env _ spec rfl

end

/-- The white space at the start of a format consists of whole directives, which assign nothing. -/
theorem dropWhile_formatText (directives : List Directive) :
    ∃ consumed directives', directives = consumed ++ directives' ∧ assignments consumed = 0 ∧
      (formatText directives).dropWhile isSpace = formatText directives' := by
  induction directives with
  | nil => exact ⟨[], [], rfl, rfl, rfl⟩
  | cons directive directives ih =>
    cases directive with
    | literal c notPercent notNull =>
      by_cases space : isSpace c
      · obtain ⟨consumed, directives', rfl, none', rest⟩ := ih
        refine ⟨.literal c notPercent notNull :: consumed, directives', rfl,
          (Nat.zero_add _).trans none', ?_⟩
        rw [← rest]
        simp [formatText, Directive.text, space]
      · refine ⟨[], .literal c notPercent notNull :: directives, rfl, rfl, ?_⟩
        simp [formatText, Directive.text, space]
    | percent => exact ⟨[], .percent :: directives, rfl, rfl, rfl⟩
    | conversion spec => exact ⟨[], .conversion spec :: directives, rfl, rfl, rfl⟩

section Posix

variable {env : ScanEnvironment} (posix : env.ctype = ctypeUsAscii)

include posix

theorem skipWhitespace_posix (s : List UInt8) :
    skipWhitespace env.ctype s = some (s.takeWhile isSpace).length := by
  rw [posix, skipWhitespace_usAscii]

theorem goesOn_convertInteger (scan : Scan) (conversion : Conversion) (isSigned : Bool) (base : ℕ) :
    ∃ pass, convertInteger env scan conversion isSigned base = some pass ∧
      GoesOn env scan scan.format conversion.assigns pass := by
  simp only [convertInteger, skipWhitespace_posix posix, bind_eq_bind, bind_some]
  generalize parserStrtoint isSigned _ _ true base _ = result
  cases result.haveNumber with
  | true => exact ⟨_, rfl, goesOn_next (by simp) (by simp) (by simp)⟩
  | false => exact ⟨_, rfl, goesOn_done⟩

theorem goesOn_convertFloat (scan : Scan) (conversion : Conversion) :
    ∃ pass, convertFloat env scan conversion = some pass ∧
      GoesOn env scan scan.format conversion.assigns pass := by
  simp only [convertFloat, skipWhitespace_posix posix, bind_eq_bind, bind_some]
  generalize parserStrtofloat _ _ _ = result
  cases result.haveNumber with
  | true => exact ⟨_, rfl, goesOn_next (by simp) (by simp) (by simp)⟩
  | false => exact ⟨_, rfl, goesOn_done⟩

/-- A conversion other than `%s` goes on behind its specification. -/
theorem goesOn_convert (scan : Scan) (spec : ConversionSpec) {rest : List UInt8}
    (format : scan.format = spec.specifier.tail ++ rest) (ap : ℕ)
    (notString : spec.specifier.char ≠ 's' ∧ spec.specifier.char ≠ 'S') :
    ∃ pass, convert env scan (spec.conversion ap) spec.specifier.char = some pass ∧
      GoesOn env scan rest (Directive.conversion spec).assigns pass := by
  by_cases uncounted : spec.specifier.char ∈ 'n' :: ignoredLetters
  · have none' : (Directive.conversion spec).assigns = 0 := if_pos (.inr uncounted)
    have letter : scan.format = rest := by
      rw [format]
      cases known : spec.specifier with
      | letter c member => rfl
      | scanset =>
        have bracket : '[' ∉ 'n' :: ignoredLetters := by decide
        rw [known] at uncounted
        exact absurd uncounted bracket
    rw [none']
    rcases mem_cons.mp uncounted with position | ignored
    · rw [position]
      exact ⟨_, rfl, goesOn_next (by simpa using letter) (by simp) (by simp)⟩
    · exact ⟨_, convert_ignored env scan _ ignored, goesOn_next letter le_rfl rfl⟩
  · have assigns : (Directive.conversion spec).assigns = (spec.conversion ap).assigns := by
      simp only [Directive.assigns, uncounted, or_false]
      rfl
    rw [assigns]
    generalize spec.conversion ap = conversion
    cases specifier : spec.specifier with
    | scanset negated first others notCircumflex notClosed =>
      rw [specifier] at format
      obtain ⟨bs, read, -⟩ := scanset_text rest notCircumflex notClosed
      exact goesOn_convertScanset _ scan conversion (by rw [format]; exact read)
    | letter c known =>
      rw [specifier] at format notString uncounted
      obtain rfl : scan.format = rest := format
      simp only [Specifier.char] at notString uncounted ⊢
      rw [convert.eq_def]
      split
      · exact goesOn_convertInteger posix scan _ _ _
      · exact goesOn_convertInteger posix scan _ _ _
      · exact goesOn_convertInteger posix scan _ _ _
      · exact goesOn_convertInteger posix scan _ _ _
      · exact goesOn_convertInteger posix scan _ _ _
      · exact goesOn_convertInteger posix scan { conversion with length := .long } _ _
      · exact goesOn_convertFloat posix scan _
      · exact goesOn_convertFloat posix scan _
      · exact goesOn_convertFloat posix scan _
      · exact goesOn_convertFloat posix scan _
      · exact absurd rfl notString.2
      · exact absurd rfl notString.1
      · exact absurd known (by decide)
      · exact ⟨_, rfl, goesOn_convertCharacters _ scan { conversion with length := .long }⟩
      · exact ⟨_, rfl, goesOn_convertCharacters _ scan _⟩
      · exact absurd mem_cons_self uncounted
      · have letters := known
        simp only [specifierLetters, mem_cons, not_mem_nil, or_false] at letters
        simp_all [ignoredLetters]

theorem goesOn_percentPass (scan : Scan) :
    ∃ pass, percentPass env scan = some pass ∧ GoesOn env scan scan.format 0 pass := by
  simp only [percentPass, skipWhitespace_posix posix, bind_eq_bind, bind_some]
  split
  · exact ⟨_, rfl, goesOn_next (by simp) (by simp) rfl⟩
  · exact ⟨_, rfl, goesOn_done⟩

theorem goesOn_literalPass (scan : Scan) (c : UInt8) {directives : List Directive}
    (format : scan.format = c :: formatText directives) :
    ∃ pass consumed directives', directives = consumed ++ directives' ∧
      assignments consumed = 0 ∧
      literalPass env scan c (formatText directives) = some pass ∧
      GoesOn env scan (formatText directives') 0 pass := by
  simp only [literalPass, skipWhitespace_posix posix, bind_eq_bind, bind_some]
  by_cases space : isSpace c
  · obtain ⟨consumed, directives', split, literals, rest⟩ := dropWhile_formatText directives
    have dropped : scan.format.drop (scan.format.takeWhile isSpace).length =
        formatText directives' := by
      rw [drop_takeWhile_length, format, dropWhile_cons_of_pos space, rest]
    have some' : (scan.format.takeWhile isSpace).length > 0 := by
      rw [format, takeWhile_cons_of_pos space]
      exact Nat.succ_pos _
    exact ⟨_, consumed, directives', split, literals, if_pos some',
      goesOn_next dropped (by simp) rfl⟩
  · have none' : ¬(scan.format.takeWhile isSpace).length > 0 := by
      rw [format, takeWhile_cons_of_neg space]
      exact lt_irrefl 0
    rw [if_neg none']
    split
    · exact ⟨_, [], directives, rfl, rfl, rfl, goesOn_next rfl (by simp) rfl⟩
    · exact ⟨_, [], directives, rfl, rfl, rfl, goesOn_done⟩

end Posix

end Cloudlibc.Stdio
