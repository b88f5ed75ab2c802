import Cloudlibc.Stdio.ScanFailures

/-!
# The return value of `sscanf()`

After a failure to match `sscanf()` returns the number of assignments that it has made. So it does if
the input fails, where `EOF` is asked for as long as no conversion has been completed: all conversions
jump to `done:`, and `EOF` is returned at `bad:` only, when an allocation fails (`vsscanfL_nonneg`).

A failure to match a conversion that is ignored does not end the scan, and more may be assigned
behind it. The result is `sscanf_return_iff`.
-/

set_option autoImplicit false

namespace Cloudlibc.Stdio

open Cloudlibc.Locale Cloudlibc.Loop List

/-! ## Counting the assignments -/

variable {env : ScanEnvironment} {scan : Scan}

theorem StringAt.conversionsPerformed_eq {first : Scan} {spec : ConversionSpec} {rest : List UInt8}
    {conversion : Conversion} {idx i : ℕ} {output : StringOutput}
    (here : StringAt env first spec rest scan conversion idx i output) :
    scan.conversionsPerformed = first.conversionsPerformed := by
  obtain ⟨reallocs, kept⟩ := stringAppendAll_scan env (spec.conversion first.ap)
    ((token first.input).take i) (spec.behind first rest) (stringStart (spec.conversion first.ap))
  rw [here.appended] at kept
  subst kept
  rfl

theorem StringAt.assigns_eq {first : Scan} {spec : ConversionSpec} {rest : List UInt8}
    {conversion : Conversion} {idx i : ℕ} {output : StringOutput}
    (here : StringAt env first spec rest scan conversion idx i output) :
    assignments [.conversion spec] = conversion.assigns := by
  have counted : spec.specifier.char ∉ 'n' :: ignoredLetters := by
    rcases here.specifier with lower | upper
    · rw [lower]
      decide
    · rw [upper]
      decide
  simp [assignments, Directive.assigns, Conversion.assigns, counted, here.suppress]

/-- What holds in the states that are reached: a front of the directives has been read, and its
assignments have been counted. -/
def Counted (env : ScanEnvironment) (directives : List Directive) : ScanState → Prop
  | .main scan => ∃ front rest, directives = front ++ rest ∧ scan.format = formatText rest ∧
      scan.conversionsPerformed = assignments front
  | .string scan conversion idx i output => ∃ first front spec rest,
      directives = front ++ .conversion spec :: rest ∧
      first.conversionsPerformed = assignments front ∧
      StringAt env first spec (formatText rest) scan conversion idx i output

/-- What a pass from such a state meets. -/
def CountsOn (env : ScanEnvironment) (directives : List Directive)
    (pass : Pass ScanState ScanResult) : Prop :=
  pass.Meets (Counted env directives) fun result => (∀ call, env.reallocarray call) → 0 ≤ result.ret

variable {front rest : List Directive}

theorem GoesOn.countsOn {consumed : List Directive} {pass : Pass ScanState ScanResult}
    (goesOn : GoesOn env scan (formatText rest) (assignments consumed) pass)
    (counted : scan.conversionsPerformed = assignments front) :
    CountsOn env (front ++ (consumed ++ rest)) pass := by
  cases pass with
  | leave result => exact goesOn
  | again next =>
    obtain ⟨scan', rfl, format, -, more⟩ := goesOn
    refine ⟨front ++ consumed, rest, (append_assoc ..).symm, format, ?_⟩
    rw [more, counted, assignments_append]

section Posix

variable {env : ScanEnvironment} (posix : env.ctype = ctypeUsAscii)

include posix

variable {directives : List Directive}

theorem mainPass_countsOn {scan : Scan} (here : Counted env directives (.main scan)) :
    ∃ pass, mainPass env scan = some pass ∧ CountsOn env directives pass := by
  obtain ⟨front, rest, rfl, format, counted⟩ := here
  obtain ⟨pass, ran, rfl | ⟨consumed, rest', rfl, -, goesOn⟩ |
    ⟨spec, rest', conversion, idx, output, rfl, rfl, here⟩⟩ := mainPass_directives posix format
  · exact ⟨_, ran, fun _ => Int.natCast_nonneg _⟩
  · exact ⟨pass, ran, goesOn.countsOn counted⟩
  · exact ⟨_, ran, scan, front, spec, rest', rfl, counted, here⟩

theorem stringPass_countsOn {scan : Scan} {conversion : Conversion} {idx i : ℕ}
    {output : StringOutput} (here : Counted env directives (.string scan conversion idx i output)) :
    ∃ pass, stringPass env scan conversion idx i output = some pass ∧
      CountsOn env directives pass := by
  obtain ⟨first, front, spec, rest, rfl, counted, here⟩ := here
  rcases here.pass_cases posix with ⟨full, ran⟩ | ⟨room, inside, ran⟩ | ⟨-, pass, ran, goesOn⟩
  · exact ⟨_, ran, first, front, spec, rest, rfl, counted, here⟩
  · cases appended : stringAppendAll env
      (spec.conversion first.ap) (spec.behind first (formatText rest))
      (stringStart (spec.conversion first.ap)) ((token first.input).take (i + 1)) with
    | mk scan' output' =>
      rw [appended] at ran
      cases output' with
      | none =>
        obtain ⟨call, refused⟩ := exists_failed_of_stringAppendAll appended
        exact ⟨_, ran, @goesOn_bad env scan scan' [] 0 call refused⟩
      | some output' =>
        exact ⟨_, ran, first, front, spec, rest, rfl, counted,
          { here with inside := inside, room := room, appended := appended }⟩
  · rw [← here.assigns_eq] at goesOn
    exact ⟨pass, ran, goesOn.countsOn (here.conversionsPerformed_eq.trans counted)⟩

theorem scanPass_countsOn {state : ScanState} (here : Counted env directives state) :
    ∃ pass, scanPass env state = some pass ∧ CountsOn env directives pass := by
  cases state with
  | main scan => exact mainPass_countsOn posix here
  | string => exact stringPass_countsOn posix here

/-- In every state that is reached the assignments have been counted. -/
theorem counted_of_reaches {s : List UInt8} {state : ScanState}
    (reaches : Reaches (scanPass env) (scanStart s (formatText directives)) state) :
    Counted env directives state := by
  refine reaches.invariant (Counted env directives) ⟨[], directives, rfl, rfl, rfl⟩ ?_
  intro state next _ kept ran
  obtain ⟨pass, ran', countsOn⟩ := scanPass_countsOn posix kept
  rw [ran, Option.some.injEq] at ran'
  subst ran'
  exact countsOn

/-- If no allocation fails, `EOF` is not returned. -/
theorem vsscanfL_nonneg {s : List UInt8} {fuel : ℕ} {result : ScanResult}
    (granted : ∀ call, env.reallocarray call)
    (ran : vsscanfL env s (formatText directives) fuel = some result) : 0 ≤ result.ret := by
  obtain ⟨state, reaches, left⟩ := exists_reaches_of_run ran
  obtain ⟨pass, ran', countsOn⟩ := scanPass_countsOn posix (counted_of_reaches posix reaches)
  rw [left, Option.some.injEq] at ran'
  subst ran'
  exact countsOn granted

end Posix

/-! ## The return value -/

/-- The scan gets to the directive behind `front`, and it fails to match. -/
def FailsToMatch (env : ScanEnvironment) (s : List UInt8) (front : List Directive)
    (directive : Directive) (rest : List Directive) : Prop :=
  ∃ scan, Reaches (scanPass env) (scanStart s (formatText (front ++ directive :: rest)))
      (.main scan) ∧
    scan.format = formatText (directive :: rest) ∧ directive.mismatch scan.input

/-- `sscanf()` returns the value. -/
def SscanfReturns (env : ScanEnvironment) (s : List UInt8) (directives : List Directive)
    (ret : ℤ) : Prop :=
  ∃ fuel result, vsscanfL env s (formatText directives) fuel = some result ∧ result.ret = ret

/-- The front that has been read is determined by the text of the rest. -/
theorem eq_of_formatText_eq {front' rest' : List Directive}
    (split : front ++ rest = front' ++ rest') (text : formatText rest = formatText rest') :
    front = front' := by
  have empty : ∀ more directives : List Directive,
      formatText (more ++ directives) = formatText directives → more = [] := by
    intro more directives same
    have lengths := congrArg length same
    simp only [formatText, flatMap_append, length_append] at lengths
    cases more with
    | nil => rfl
    | cons directive more =>
      have positive := directive.text_length_pos
      simp only [flatMap_cons, length_append] at lengths
      omega
  rcases append_eq_append_iff.mp split with ⟨more, longer, rfl⟩ | ⟨more, longer, rfl⟩
  · rw [longer, empty more rest' text, append_nil]
  · rw [longer, empty more rest text.symm, append_nil]

/-- After a failure to match `sscanf()` returns the number of assignments, unless the conversion is
ignored. -/
theorem FailsToMatch.returns {decimalDig : ℕ} {reallocarray : ℕ → Bool} {s : List UInt8}
    {directive : Directive}
    (fails : FailsToMatch (posixEnvironment decimalDig reallocarray) s front directive rest)
    (notIgnored : directive.isIgnored = false) :
    SscanfReturns (posixEnvironment decimalDig reallocarray) s (front ++ directive :: rest)
      (assignments front) := by
  obtain ⟨scan, reaches, format, mismatch⟩ := fails
  obtain ⟨front', rest', split, format', counted⟩ := counted_of_reaches rfl reaches
  obtain rfl : front = front' := eq_of_formatText_eq split (format.symm.trans format')
  obtain ⟨result, left, ret⟩ := @mainPass_leaves (posixEnvironment decimalDig reallocarray) rfl rfl
    scan directive rest format mismatch notIgnored
  obtain ⟨fuel, ran⟩ := reaches.exists_run left
  exact ⟨fuel, result, ran, by rw [ret, counted]⟩

/-- A conversion specification without flags, width and length modifier. -/
def plainSpec (c : Char) (known : c ∈ specifierLetters) : ConversionSpec where
  numarg := []
  suppress := false
  width := []
  allocate := false
  length := .none
  specifier := .letter c known
  numarg_digits := nil_digits
  numarg_nonzero := nil_nonzero
  width_digits := nil_digits
  width_fits := by decide

/-- The conversion `%X` is ignored, and the next one takes what does not match it. -/
example : vsscanfL (posixEnvironment 21 fun _ => true) [byteOf 'z']
    (formatText [.conversion (plainSpec 'X' (by decide)), .conversion (plainSpec 'c' (by decide))]) 3 =
      some ⟨1, [(1, .string false [byteOf 'z'])]⟩ := by
  decide

end Cloudlibc.Stdio
