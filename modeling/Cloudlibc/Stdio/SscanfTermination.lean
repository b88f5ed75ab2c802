import Cloudlibc.Stdio.ScanDirectives

/-!
# Termination of `sscanf()`

`sscanf()` uses the POSIX locale. Every pass of `vsscanf_l()` on a well-formed format is then
defined, and either lowers the measure `passesLeft` or leads back to the state it started from. The
second happens in the `%s` conversion only: as soon as the field is used up, the inner loop finds a
character of no bytes, which is appended over and over.

So `sscanf()` returns if and only if no `%s` conversion that it gets to finds at least as many bytes
as its field is wide (`exists_vsscanfL_iff`).
-/

set_option autoImplicit false

namespace Cloudlibc.Stdio

open Cloudlibc.Locale Cloudlibc.Loop List Option

/-! ## Strings -/

/-- The bytes behind the white space at the start, up to the next white space. -/
def token (s : List UInt8) : List UInt8 := (s.dropWhile isSpace).takeWhile fun b => !isSpace b

theorem getElem?_takeWhile_add (s : List UInt8) (i : ℕ) :
    s[(s.takeWhile isSpace).length + i]? = (s.dropWhile isSpace)[i]? := by
  rw [← drop_takeWhile_length, getElem?_drop]

variable {i : ℕ}

theorem getElem?_token {s : List UInt8} {b : UInt8} (found : (token s)[i]? = some b) :
    s[(s.takeWhile isSpace).length + i]? = some b ∧ isSpace b = false := by
  have member : b ∈ token s := mem_of_getElem? found
  obtain ⟨inside, same⟩ := List.getElem?_eq_some_iff.mp found
  refine ⟨?_, by simpa using mem_takeWhile_imp member⟩
  rw [getElem?_takeWhile_add, ← same]
  exact prefix_iff_getElem?.mp ( takeWhile_prefix _) i inside

theorem isSpace_of_getElem?_token_length {s : List UInt8} {b : UInt8}
    (found : s[(s.takeWhile isSpace).length + (token s).length]? = some b) : isSpace b := by
  have split : token s ++ (s.dropWhile isSpace).dropWhile (fun b => !isSpace b) =
      s.dropWhile isSpace := takeWhile_append_dropWhile
  have stops := head?_dropWhile_not (fun b => !isSpace b) (s.dropWhile isSpace)
  rw [getElem?_takeWhile_add, ← split, getElem?_append_right le_rfl, Nat.sub_self,
    ← head?_eq_getElem?] at found
  rw [found] at stops
  simpa using stops

variable {conversion : Conversion}

/-- Once the field is used up, the inner loop finds a character of no bytes. -/
theorem stringPass_full (env : ScanEnvironment) (scan : Scan) (idx : ℕ) (output : StringOutput)
    (full : conversion.fieldWidth ≤ i) :
    stringPass env scan conversion idx i output =
      some (.again (.string scan conversion idx i output)) := by
  have noRoom : conversion.fieldWidth - i = 0 := by omega
  simp [stringPass, peekCharacter, noRoom, stringAppendAll]

/-- Of a conversion, appending depends on whether it is suppressed only. -/
theorem stringAppend_congr (env : ScanEnvironment) {conversion' : Conversion}
    (same : conversion.suppress = conversion'.suppress) :
    stringAppend env conversion = stringAppend env conversion' := by
  funext scan output c
  rw [stringAppend, stringAppend, same]

theorem stringAppendAll_concat (env : ScanEnvironment) (conversion : Conversion)
    (bytes : List UInt8) (c : UInt8) :
    ∀ scan output, stringAppendAll env conversion scan output (bytes ++ [c]) =
      match stringAppendAll env conversion scan output bytes with
      | (scan, none) => (scan, none)
      | (scan, some output) => stringAppend env conversion scan output c := by
  induction bytes with
  | nil =>
    intro scan output
    change _ = stringAppend env conversion scan output c
    rw [nil_append, stringAppendAll]
    cases stringAppend env conversion scan output c with
    | mk scan' output' => cases output' <;> rfl
  | cons b bytes ih =>
    intro scan output
    rw [cons_append, stringAppendAll, stringAppendAll]
    cases stringAppend env conversion scan output b with
    | mk scan' output' =>
      cases output' with
      | none => rfl
      | some output' => exact ih scan' output'

/-- The width of the field of a `%s` conversion. -/
def ConversionSpec.stringWidth (spec : ConversionSpec) : ℕ :=
  if decimalValue spec.width = 0 then 2 ^ 64 - 1 else decimalValue spec.width

/-- The state of the `%s` conversion `spec`, met in the state `first`, when `i` bytes have been
converted. -/
structure StringAt (env : ScanEnvironment) (first : Scan) (spec : ConversionSpec)
    (rest : List UInt8) (scan : Scan) (conversion : Conversion) (idx i : ℕ)
    (output : StringOutput) : Prop where
  format : first.format = byteOf '%' :: (spec.text ++ rest)
  specifier : spec.specifier.char = 's' ∨ spec.specifier.char = 'S'
  suppress : conversion.suppress = spec.suppress
  width : conversion.fieldWidth = spec.stringWidth
  whitespace : idx = (first.input.takeWhile isSpace).length
  inside : i ≤ (token first.input).length
  room : i ≤ spec.stringWidth
  appended : stringAppendAll env (spec.conversion first.ap) (spec.behind first rest)
    (stringStart (spec.conversion first.ap)) ((token first.input).take i) = (scan, some output)

theorem StringAt.scan_eq {env : ScanEnvironment} {first : Scan} {spec : ConversionSpec}
    {rest : List UInt8} {scan : Scan} {idx : ℕ} {output : StringOutput}
    (here : StringAt env first spec rest scan conversion idx i output) :
    scan.format = rest ∧ scan.input = first.input := by
  obtain ⟨reallocs, kept⟩ := stringAppendAll_scan env (spec.conversion first.ap)
    ((token first.input).take i) (spec.behind first rest) (stringStart (spec.conversion first.ap))
  rw [here.appended] at kept
  subst kept
  exact ⟨rfl, rfl⟩

section Posix

variable {env : ScanEnvironment} (posix : env.ctype = ctypeUsAscii)

include posix

variable {conversion : Conversion} {idx i : ℕ}

theorem stringPass_token (scan : Scan) (output : StringOutput) {b : UInt8}
    (room : i < conversion.fieldWidth) (found : scan.input[idx + i]? = some b)
    (notSpace : isSpace b = false) :
    stringPass env scan conversion idx i output =
      match stringAppend env conversion scan output b with
      | (scan, none) => some (.leave scan.bad)
      | (scan, some output) => some (.again (.string scan conversion idx (i + 1) output)) := by
  have someRoom : ¬conversion.fieldWidth - i = 0 := by omega
  have first : (scan.input.drop (idx + i))[0]? = some b := by
    rw [getElem?_drop]
    exact found
  have isSpc : iswspace b.toNat = false := notSpace
  have peeked : peekCharacter env.ctype
      (scan.input.drop (idx + i)) (conversion.fieldWidth - i) (scan.input.length + 1) 0 .setInit =
        some (some 1) := by
    by_cases high : b.toNat > 127 <;>
      simp [peekCharacter, someRoom, first, posix, ctypeUsAscii, usAsciiMbtoc32, high, isSpc]
  have taken : (scan.input.drop (idx + i)).take 1 = [b] := by
    rw [take_one, head?_eq_getElem?, first]
    rfl
  simp only [stringPass, peeked, bind_eq_bind, bind_some, taken, stringAppendAll]
  cases stringAppend _ conversion scan output b with
  | mk scan' output' => cases output' <;> rfl

theorem stringPass_end (scan : Scan) (output : StringOutput) (room : i < conversion.fieldWidth)
    (ended : ∀ b, scan.input[idx + i]? = some b → isSpace b) :
    stringPass env scan conversion idx i output =
      some (if i = 0 then .leave scan.done
        else stringFinish env conversion scan
          (output.out ++ [0]) (idx + i)) := by
  have someRoom : ¬conversion.fieldWidth - i = 0 := by omega
  have peeked : peekCharacter env.ctype
      (scan.input.drop (idx + i)) (conversion.fieldWidth - i) (scan.input.length + 1) 0 .setInit =
        some none := by
    cases first : (scan.input.drop (idx + i))[0]? with
    | none => simp [peekCharacter, someRoom, first]
    | some b =>
      have space := ended b (by rw [← first, getElem?_drop]; rfl)
      have isSpc : iswspace b.toNat := space
      have low : ¬b.toNat > 127 := fun high => by
        rw [isSpace_eq_false_of_high high] at space
        cases space
      simp [peekCharacter, someRoom, first, posix, ctypeUsAscii, usAsciiMbtoc32, low, isSpc]
  simp only [stringPass, peeked, bind_eq_bind, bind_some]
  split <;> rfl

/-- The pass of the loop over the format that meets a `%s` conversion. -/
theorem mainPass_string {first : Scan} {spec : ConversionSpec} {rest : List UInt8}
    (format : first.format = byteOf '%' :: (spec.text ++ rest))
    (specifier : spec.specifier.char = 's' ∨ spec.specifier.char = 'S') :
    ∃ conversion idx output,
      mainPass env first =
        some (.again (.string (spec.behind first rest) conversion idx 0 output)) ∧
      StringAt env first spec rest (spec.behind first rest)
        conversion idx 0 output := by
  have letter : spec.specifier.tail = [] := by
    cases known : spec.specifier with
    | letter c member => rfl
    | scanset =>
      rw [known] at specifier
      have bracket : ¬('[' = 's' ∨ '[' = 'S') := by decide
      exact absurd specifier bracket
  rw [mainPass_conversion _ first spec format, letter, nil_append]
  rcases specifier with lower | upper
  · refine ⟨{ spec.conversion first.ap with fieldWidth := spec.stringWidth }, _, _, ?_,
      ⟨format, .inl lower, rfl, rfl, rfl, Nat.zero_le _, Nat.zero_le _, rfl⟩⟩
    simp only [lower, convert, convertString, skipWhitespace_posix posix, bind_eq_bind, bind_some]
    rfl
  · refine ⟨{ spec.conversion first.ap with fieldWidth := spec.stringWidth, length := .long }, _, _,
      ?_, ⟨format, .inr upper, rfl, rfl, rfl, Nat.zero_le _, Nat.zero_le _, rfl⟩⟩
    simp only [upper, convert, convertString, skipWhitespace_posix posix, bind_eq_bind, bind_some]
    rfl

/-- **A pass of the loop over the format** leaves at the end, goes on behind some directives and
counts their assignments, or starts a `%s` conversion. -/
theorem mainPass_directives {scan : Scan} {directives : List Directive}
    (format : scan.format = formatText directives) :
    ∃ pass, mainPass env scan = some pass ∧
      (pass = .leave scan.done ∨
        (∃ consumed rest, directives = consumed ++ rest ∧ consumed ≠ [] ∧
          GoesOn env scan (formatText rest) (assignments consumed) pass) ∨
        ∃ spec rest conversion idx output, directives = .conversion spec :: rest ∧
          pass = .again (.string (spec.behind scan (formatText rest)) conversion idx 0 output) ∧
          StringAt env scan spec (formatText rest) (spec.behind scan (formatText rest)) conversion
            idx 0 output) := by
  cases directives with
  | nil =>
    refine ⟨.leave scan.done, ?_, .inl rfl⟩
    rw [mainPass, format]
    rfl
  | cons directive directives =>
    cases directive with
    | literal c notPercent notNull =>
      obtain ⟨pass, consumed, rest, rfl, none', ran, goesOn⟩ :=
        goesOn_literalPass posix scan c format
      refine ⟨pass, ?_, .inr (.inl ⟨.literal c notPercent notNull :: consumed, rest, rfl,
        cons_ne_nil _ _, ?_⟩)⟩
      · rw [mainPass, format]
        exact (if_neg notPercent).trans ran
      · have same : assignments (.literal c notPercent notNull :: consumed) = 0 :=
          (Nat.zero_add _).trans none'
        rwa [same]
    | percent =>
      obtain ⟨pass, ran, goesOn⟩ := goesOn_percentPass posix
        { scan with format := formatText directives }
      refine ⟨pass, ?_, .inr (.inl ⟨[.percent], directives, rfl, cons_ne_nil _ _, goesOn⟩)⟩
      rw [mainPass, format]
      exact ran
    | conversion spec =>
      have text : scan.format = byteOf '%' :: (spec.text ++ formatText directives) := format
      by_cases string : spec.specifier.char = 's' ∨ spec.specifier.char = 'S'
      · obtain ⟨conversion, idx, output, ran, here⟩ := mainPass_string posix text string
        exact ⟨_, ran, .inr (.inr ⟨spec, directives, conversion, idx, output, rfl, rfl, here⟩)⟩
      · rw [not_or] at string
        obtain ⟨pass, ran, goesOn⟩ := goesOn_convert posix
          (spec.behind scan (spec.specifier.tail ++ formatText directives)) spec rfl scan.ap string
        exact ⟨pass, (mainPass_conversion _ scan spec text).trans ran,
          .inr (.inl ⟨[.conversion spec], directives, rfl, cons_ne_nil _ _, goesOn⟩)⟩

/-- A pass of the `%s` conversion: the field is used up, a byte is converted, or the string ends. -/
theorem StringAt.pass_cases {first : Scan} {spec : ConversionSpec} {rest : List UInt8} {scan : Scan}
    {output : StringOutput} (here : StringAt env first spec rest scan conversion idx i output) :
    (i = spec.stringWidth ∧
      stringPass env scan conversion idx i output =
        some (.again (.string scan conversion idx i output))) ∨
    (i < spec.stringWidth ∧ i < (token first.input).length ∧
      stringPass env scan conversion idx i output =
        match stringAppendAll env (spec.conversion first.ap)
          (spec.behind first rest) (stringStart (spec.conversion first.ap))
          ((token first.input).take (i + 1)) with
        | (scan, none) => some (.leave scan.bad)
        | (scan, some output) => some (.again (.string scan conversion idx (i + 1) output))) ∨
    (i = (token first.input).length ∧ ∃ pass,
      stringPass env scan conversion idx i output =
        some pass ∧ GoesOn env scan rest conversion.assigns pass) := by
  obtain ⟨sameFormat, sameInput⟩ := here.scan_eq
  rcases here.room.eq_or_lt with full | room
  · exact .inl ⟨full, stringPass_full _ scan idx output (by rw [here.width, full])⟩
  · have room' : i < conversion.fieldWidth := by rw [here.width]; exact room
    rcases here.inside.eq_or_lt with ended | inside
    · refine .inr (.inr ⟨ended, _, stringPass_end posix scan output room' ?_, ?_⟩)
      · intro b found
        rw [sameInput, here.whitespace, ended] at found
        exact isSpace_of_getElem?_token_length found
      · split
        · exact goesOn_done
        · exact goesOn_stringFinish _ conversion _ _ sameFormat le_rfl rfl
    · obtain ⟨b, found⟩ : ∃ b, (token first.input)[i]? = some b :=
        ⟨_, getElem?_eq_getElem inside⟩
      obtain ⟨atInput, notSpace⟩ := getElem?_token found
      refine .inr (.inl ⟨room, inside, ?_⟩)
      rw [stringPass_token posix scan output room'
        (by rw [sameInput, here.whitespace]; exact atInput) notSpace, take_add_one, found,
        toList_some, stringAppendAll_concat, here.appended]
      rw [stringAppend_congr _ (show conversion.suppress = (spec.conversion first.ap).suppress from
        here.suppress)]

end Posix

/-! ## Termination -/

/-- The state is at a `%s` conversion that finds at least as many bytes as its field is wide, and no
allocation for them fails. -/
def UsesUpField (env : ScanEnvironment) (scan : Scan) : Prop :=
  ∃ (spec : ConversionSpec) (rest : List UInt8),
    scan.format = byteOf '%' :: (spec.text ++ rest) ∧
    (spec.specifier.char = 's' ∨ spec.specifier.char = 'S') ∧
    spec.stringWidth ≤ (token scan.input).length ∧
    (stringAppendAll env (spec.conversion scan.ap) (spec.behind scan rest)
      (stringStart (spec.conversion scan.ap)) ((token scan.input).take spec.stringWidth)).2.isSome

/-- A bound on the passes that do not repeat their state. -/
def passesLeft : ScanState → ℕ
  | .main scan => scan.format.length * (scan.input.length + 2)
  | .string scan _ idx i _ =>
    scan.format.length * (scan.input.length + 2) + (scan.input.length - (idx + i)) + 1

/-- What holds in the states that are reached from `start`. -/
def Reached (env : ScanEnvironment) (start : ScanState) : ScanState → Prop
  | .main scan => ∃ directives, scan.format = formatText directives
  | .string scan conversion idx i output => ∃ first spec directives,
      Reaches (scanPass env) start (.main first) ∧
        StringAt env first spec (formatText directives) scan conversion idx i output

/-- A pass lowers the measure, or a field is used up and the pass repeats its state. -/
def Progress (env : ScanEnvironment) (start state next : ScanState) : Prop :=
  Reached env start next ∧ (passesLeft next < passesLeft state ∨
    next = state ∧ ∃ first, Reaches (scanPass env) start (.main first) ∧ UsesUpField env first)

theorem GoesOn.progress {env : ScanEnvironment} {start state : ScanState} {scan : Scan}
    {directives : List Directive} {pass : Pass ScanState ScanResult}
    {n : ℕ} (goesOn : GoesOn env scan (formatText directives) n pass)
    (lower : (formatText directives).length * (scan.input.length + 2) < passesLeft state) :
    pass.Meets (Progress env start state) fun _ => True := by
  cases pass with
  | leave result => exact trivial
  | again next =>
    obtain ⟨scan', rfl, format, shorter, -⟩ := goesOn
    refine ⟨⟨directives, format⟩, .inl ?_⟩
    rw [passesLeft, format]
    exact (Nat.mul_le_mul_left _ (by omega)).trans_lt lower

section Posix

variable {env : ScanEnvironment} (posix : env.ctype = ctypeUsAscii)

include posix

variable {start : ScanState} {scan : Scan}

theorem mainPass_progress (reaches : Reaches (scanPass env) start (.main scan))
    (reached : Reached env start (.main scan)) :
    ∃ pass, mainPass env scan = some pass ∧
      pass.Meets (Progress env start (.main scan))
        fun _ => True := by
  obtain ⟨directives, format⟩ := reached
  obtain ⟨pass, ran, rfl | ⟨consumed, rest, rfl, some', goesOn⟩ |
    ⟨spec, rest, conversion, idx, output, rfl, rfl, here⟩⟩ := mainPass_directives posix format
  · exact ⟨_, ran, trivial⟩
  · refine ⟨pass, ran, goesOn.progress (Nat.mul_lt_mul_of_pos_right ?_ (Nat.succ_pos _))⟩
    obtain ⟨directive, others, rfl⟩ := exists_cons_of_ne_nil some'
    have positive := directive.text_length_pos
    simp only [format, formatText, flatMap_cons, flatMap_append, length_append]
    omega
  · refine ⟨_, ran, ⟨scan, spec, rest, reaches, here⟩, .inl ?_⟩
    have shorter : (formatText rest).length < scan.format.length := by
      rw [here.format, length_cons, length_append]
      omega
    have lessText := Nat.mul_le_mul_right (scan.input.length + 2) shorter
    rw [Nat.succ_mul] at lessText
    simp only [passesLeft, ConversionSpec.behind]
    omega

theorem stringPass_progress {conversion : Conversion} {idx i : ℕ} {output : StringOutput}
    (reached : Reached env start (.string scan conversion idx i output)) :
    ∃ pass, stringPass env scan conversion idx i output =
        some pass ∧
      pass.Meets (Progress env start
        (.string scan conversion idx i output)) fun _ => True := by
  obtain ⟨first, spec, directives, reaches, here⟩ := reached
  obtain ⟨sameFormat, sameInput⟩ := here.scan_eq
  rcases here.pass_cases posix with ⟨full, ran⟩ | ⟨room, inside, ran⟩ | ⟨-, pass, ran, goesOn⟩
  · refine ⟨_, ran, ⟨first, spec, directives, reaches, here⟩, .inr ⟨rfl, first, reaches, ?_⟩⟩
    refine ⟨spec, _, here.format, here.specifier, full ▸ here.inside, ?_⟩
    rw [← full, here.appended]
    rfl
  · cases appended : stringAppendAll env
      (spec.conversion first.ap) (spec.behind first (formatText directives))
      (stringStart (spec.conversion first.ap)) ((token first.input).take (i + 1)) with
    | mk scan' output' =>
      rw [appended] at ran
      cases output' with
      | none => exact ⟨_, ran, trivial⟩
      | some output' =>
        have here' : StringAt env first spec
            (formatText directives) scan' conversion idx (i + 1) output' :=
          { here with inside := inside, room := room, appended := appended }
        refine ⟨_, ran, ⟨first, spec, directives, reaches, here'⟩, .inl ?_⟩
        have atInput := (getElem?_token (getElem?_eq_getElem inside)).1
        have bound := (List.getElem?_eq_some_iff.mp atInput).1
        rw [← here.whitespace] at bound
        simp only [passesLeft, sameFormat, sameInput, here'.scan_eq]
        omega
  · refine ⟨pass, ran, goesOn.progress ?_⟩
    simp only [passesLeft, sameFormat]
    omega

theorem scanPass_progress {state : ScanState} (reaches : Reaches (scanPass env) start state)
    (reached : Reached env start state) :
    ∃ pass, scanPass env state = some pass ∧
      pass.Meets (Progress env start state)
        fun _ => True := by
  cases state with
  | main scan => exact mainPass_progress posix reaches reached
  | string => exact stringPass_progress posix reached

theorem reached_of_reaches {state : ScanState} (initial : Reached env start start)
    (reaches : Reaches (scanPass env) start state) : Reached env start state := by
  refine reaches.invariant (Reached _ start) initial ?_
  intro state next before kept ran
  obtain ⟨pass, ran', meets⟩ := scanPass_progress posix before kept
  rw [ran, some.injEq] at ran'
  subst ran'
  exact meets.1

/-- The bytes of a token are converted one by one while the field has room for them. -/
theorem reaches_string {first : Scan} {spec : ConversionSpec} {rest : List UInt8}
    (format : first.format = byteOf '%' :: (spec.text ++ rest))
    (specifier : spec.specifier.char = 's' ∨ spec.specifier.char = 'S') {i : ℕ}
    {output : StringOutput} (inside : i ≤ (token first.input).length) (room : i ≤ spec.stringWidth)
    (appended : stringAppendAll env (spec.conversion first.ap) (spec.behind first rest)
      (stringStart (spec.conversion first.ap)) ((token first.input).take i) = (scan, some output)) :
    ∃ conversion idx, Reaches (scanPass env) (.main first)
        (.string scan conversion idx i output) ∧
      StringAt env first spec rest scan conversion idx i
        output := by
  induction i generalizing scan output with
  | zero =>
    obtain ⟨conversion, idx, output', ran, here⟩ :=
      mainPass_string posix format specifier
    obtain ⟨rfl, rfl⟩ : spec.behind first rest = scan ∧ output' = output := by
      have same := here.appended.symm.trans appended
      rw [Prod.mk.injEq, some.injEq] at same
      exact same
    exact ⟨conversion, idx, .single ran, here⟩
  | succ i ih =>
    obtain ⟨scan', output', before⟩ : ∃ scan' output',
        stringAppendAll env (spec.conversion first.ap)
          (spec.behind first rest) (stringStart (spec.conversion first.ap))
          ((token first.input).take i) = (scan', some output') := by
      rw [take_succ_eq_append_getElem inside, stringAppendAll_concat] at appended
      split at appended
      · cases appended
      · exact ⟨_, _, by assumption⟩
    obtain ⟨conversion, idx, reaches, here⟩ := ih (by omega) (by omega) before
    rcases here.pass_cases posix with ⟨full, -⟩ | ⟨-, -, ran⟩ | ⟨ended, -⟩
    · omega
    · rw [appended] at ran
      exact ⟨conversion, idx, reaches.tail ran,
        { here with inside := inside, room := room, appended := appended }⟩
    · omega

/-- A `%s` conversion that uses up its field gets to a state that is repeated. -/
theorem UsesUpField.reaches_repeated {first : Scan}
    (usesUp : UsesUpField env first) :
    ∃ state, Reaches (scanPass env) (.main first) state ∧
      scanPass env state = some (.again state) := by
  obtain ⟨spec, rest, format, specifier, long, allocated⟩ := usesUp
  obtain ⟨output, isOutput⟩ := isSome_iff_exists.mp allocated
  obtain ⟨conversion, idx, reaches, here⟩ := reaches_string posix format specifier
    long le_rfl (Prod.ext rfl isOutput)
  exact ⟨_, reaches, stringPass_full _ _ idx output here.width.le⟩

end Posix

/-- **Every pass of `sscanf()` on a well-formed format is defined, and `sscanf()` returns if and
only if no `%s` conversion that it gets to uses up its field.** -/
theorem exists_vsscanfL_iff (decimalDig : ℕ) (reallocarray : ℕ → Bool) (s : List UInt8)
    (directives : List Directive) :
    let env := posixEnvironment decimalDig reallocarray
    let start := scanStart s (formatText directives)
    (∀ state, Reaches (scanPass env) start state → ∃ pass, scanPass env state = some pass) ∧
    ((∃ fuel result, vsscanfL env s (formatText directives) fuel = some result) ↔
      ∀ scan, Reaches (scanPass env) start (.main scan) → ¬UsesUpField env scan) := by
  intro env start
  have progress : ∀ state, Reaches (scanPass env) start state → ∃ pass,
      scanPass env state = some pass ∧ pass.Meets (Progress env start state) fun _ => True :=
    fun state reaches => scanPass_progress rfl reaches
      (reached_of_reaches rfl ⟨directives, rfl⟩ reaches)
  refine ⟨fun state reaches => (progress state reaches).imp fun pass ran => ran.1, ?_⟩
  refine (exists_run_iff passesLeft ?_).trans ⟨?_, ?_⟩
  · intro state reaches
    obtain ⟨pass, ran, meets⟩ := progress state reaches
    refine ⟨pass, ran, ?_⟩
    cases pass with
    | again next => exact meets.2.symm.imp And.left id
    | leave result => exact trivial
  · intro notRepeated scan reaches usesUp
    obtain ⟨state, later, repeated⟩ := usesUp.reaches_repeated rfl
    exact notRepeated state (reaches.trans later) repeated
  · intro notUsedUp state reaches repeated
    obtain ⟨pass, ran, meets⟩ := progress state reaches
    rw [repeated, some.injEq] at ran
    subst ran
    rcases meets.2 with lower | ⟨-, first, reachesFirst, usesUp⟩
    · exact lt_irrefl _ lower
    · exact notUsedUp first reachesFirst usesUp

/-- The conversion specification `%2s`. -/
def twoCharacters : ConversionSpec where
  numarg := []
  suppress := false
  width := [byteOf '2']
  allocate := false
  length := .none
  specifier := .letter 's' (by decide)
  numarg_digits := nil_digits
  numarg_nonzero := nil_nonzero
  width_digits := List.forall_mem_singleton.mpr rfl
  width_fits := by decide

/-- In the input `a` the conversion `%2s` does not use up its field. -/
theorem exists_vsscanfL_twoCharacters :
    ∀ scan, Reaches (scanPass (posixEnvironment 21 fun _ => true))
        (scanStart [byteOf 'a'] (formatText [.conversion twoCharacters])) (.main scan) →
      ¬UsesUpField (posixEnvironment 21 fun _ => true) scan :=
  (exists_vsscanfL_iff 21 (fun _ => true) [byteOf 'a'] [.conversion twoCharacters]).2.mp
    ⟨4, ⟨1, [(0, .string false [byteOf 'a', 0])]⟩, by decide⟩

/-- **`sscanf("abc", "%2s", …)` gets to a state that is repeated, and does not return.** -/
theorem vsscanfL_twoCharacters_endless :
    let env := posixEnvironment 21 fun _ => true
    let s := [byteOf 'a', byteOf 'b', byteOf 'c']
    let format := [byteOf '%', byteOf '2', byteOf 's']
    formatText [.conversion twoCharacters] = format ∧
    (∃ state, Reaches (scanPass env) (scanStart s format) state ∧
      scanPass env state = some (.again state)) ∧
    ∀ fuel, vsscanfL env s format fuel = none := by
  intro env s format
  have usesUp : UsesUpField env ⟨format, s, 0, 0, 0, 0, 0, 0, []⟩ :=
    ⟨twoCharacters, [], by decide, .inl rfl, by decide, by decide⟩
  obtain ⟨state, reaches, repeated⟩ := usesUp.reaches_repeated rfl
  exact ⟨by decide, ⟨state, reaches, repeated⟩, run_eq_none_of_repeated reaches repeated⟩

end Cloudlibc.Stdio
