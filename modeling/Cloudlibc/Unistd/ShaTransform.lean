import Cloudlibc.Unistd.ShaHash

/-!
# The compression function of SHA-256 and SHA-512

The code keeps 16 words of the message schedule and expands them in place: word `s` of the schedule
is at index `s % 16` (`Window`). It does not move the registers but changes their names from one
round to the next, so that after eight rounds they have their own names again (`eightRounds_eq`).
Therefore `SHAX_Transform()` is the compression function of the standard (`transform_eq`).
-/

set_option autoImplicit false

namespace Cloudlibc.Unistd.Variant

open Cloudlibc.BlockHash Cloudlibc.Sha2

variable {w size : ℕ} {L : Type}

/-- The code has the parameters of the standard. -/
structure Computes (sha : Variant w size L) (standard : Parameters w) : Prop where
  bigSigma0 : sha.bigSigma0 = standard.bigSigma0
  bigSigma1 : sha.bigSigma1 = standard.bigSigma1
  sigma0 : sha.sigma0 = standard.sigma0
  sigma1 : sha.sigma1 = standard.sigma1
  constants : sha.constants = standard.constants
  passes : sha.lastPass + 16 = standard.constants.length
  aligned : sha.lastPass % 16 = 0
  parse : ∀ block : List UInt8, block.length = size → ∀ j < 16,
    sha.parse block j = some (blockWord block j)

section Compression

variable {sha : Variant w size L} {standard : Parameters w}

/-! ## Rounds -/

/-- The two statements compute the registers of a round that change. -/
theorem step_eq_round (computes : Computes sha standard) (k x a b c d e f g h : BitVec w) :
    standard.step ⟨a, b, c, d, e, f, g, h⟩ k x =
      ⟨(sha.round k x a b c d e f g h).2, a, b, c, (sha.round k x a b c d e f g h).1, e, f, g⟩ := by
  rw [Parameters.step, round, computes.bigSigma0, computes.bigSigma1]
  simp only [ch, maj, chMacro, majMacro, BitVec.add_assoc]

/-- Eight rounds with the words of the schedule from `t` on. -/
theorem eightRounds_eq (computes : Computes sha standard) {W : Vector (BitVec w) 16}
    {message : ℕ → BitVec w} {start : Registers w} {i : ℕ} {j : Fin 16}
    (words : ∀ n : Fin 16, n < 8 → W.get (j + n) = standard.schedule message (i + j + n))
    (more : i + j + 8 ≤ standard.constants.length) :
    sha.eightRounds W i j (standard.steps message start (i + j)) =
      some (standard.steps message start (i + j + 8)) := by
  have constant : ∀ n < 8, sha.constants[i + j + n]? =
      some (standard.constants.getD (i + j + n) 0) := by
    intro n small
    have inside : i + j + n < standard.constants.length := by omega
    rw [computes.constants, List.getD_eq_getElem?_getD, List.getElem?_eq_getElem inside]
    rfl
  simp only [eightRounds, show sha.constants[i + j]? = _ from constant 0 (by decide),
    constant 1 (by decide), constant 2 (by decide), constant 3 (by decide),
    constant 4 (by decide), constant 5 (by decide), constant 6 (by decide),
    constant 7 (by decide), show W.get j = _ by simpa using words 0 (by decide),
    words 1 (by decide), words 2 (by decide), words 3 (by decide), words 4 (by decide),
    words 5 (by decide), words 6 (by decide), words 7 (by decide), Option.bind_eq_bind,
    Option.bind_some, Option.pure_def, Parameters.steps_succ]
  generalize standard.steps message start (i + j) = r
  obtain ⟨a, b, c, d, e, f, g, h⟩ := r
  -- One round after the other: the code and the standard call the new registers differently.
  rw [step_eq_round computes _ _ a b c d e f g h]
  generalize sha.round _ _ a b c d e f g h = changed
  obtain ⟨d, h⟩ := changed
  rw [step_eq_round computes _ _ h a b c d e f g]
  generalize sha.round _ _ h a b c d e f g = changed
  obtain ⟨c, g⟩ := changed
  rw [step_eq_round computes _ _ g h a b c d e f]
  generalize sha.round _ _ g h a b c d e f = changed
  obtain ⟨b, f⟩ := changed
  rw [step_eq_round computes _ _ f g h a b c d e]
  generalize sha.round _ _ f g h a b c d e = changed
  obtain ⟨a, e⟩ := changed
  rw [step_eq_round computes _ _ e f g h a b c d]
  generalize sha.round _ _ e f g h a b c d = changed
  obtain ⟨h, d⟩ := changed
  rw [step_eq_round computes _ _ d e f g h a b c]
  generalize sha.round _ _ d e f g h a b c = changed
  obtain ⟨g, c⟩ := changed
  rw [step_eq_round computes _ _ c d e f g h a b]
  generalize sha.round _ _ c d e f g h a b = changed
  obtain ⟨f, b⟩ := changed
  rw [step_eq_round computes _ _ b c d e f g h a]
  rfl

/-! ## The message schedule in 16 words -/

theorem get_eq_getElem {α : Type} {n : ℕ} (W : Vector α n) (j : Fin n) : W.get j = W[j.val] := rfl

/-- The array has the words of the schedule from `t` on, each at its index modulo 16. -/
def Window (W : Vector (BitVec w) 16) (words : ℕ → BitVec w) (t : ℕ) : Prop :=
  ∀ s, t ≤ s → s < t + 16 → W.get (Fin.ofNat 16 s) = words s

/-- The expansion of the oldest word moves the window by one. -/
theorem Window.expandWord (computes : Computes sha standard) {W : Vector (BitVec w) 16}
    {message : ℕ → BitVec w} {t : ℕ} (window : Window W (standard.schedule message) t) :
    Window (sha.expandWord W (Fin.ofNat 16 t)) (standard.schedule message) (t + 1) := by
  have shifted : ∀ n < 16, W.get (Fin.ofNat 16 t + Fin.ofNat 16 n) =
      standard.schedule message (t + n) := by
    intro n small
    rw [← window (t + n) (by omega) (by omega)]
    congr 1
    ext
    simp [Fin.val_add]
  intro s low high
  rw [Variant.expandWord, computes.sigma0, computes.sigma1]
  by_cases last : s = t + 16
  · subst last
    have index : (Fin.ofNat 16 (t + 16)) = Fin.ofNat 16 t := by
      ext
      simp
    have oldest : W.get (Fin.ofNat 16 t) = standard.schedule message t :=
      window t le_rfl (by omega)
    rw [index, get_eq_getElem, Vector.getElem_set_self, oldest,
      show (14 : Fin 16) = Fin.ofNat 16 14 from rfl, show (9 : Fin 16) = Fin.ofNat 16 9 from rfl,
      show (1 : Fin 16) = Fin.ofNat 16 1 from rfl, shifted 14 (by decide), shifted 9 (by decide),
      shifted 1 (by decide), BitVec.add_comm, Parameters.schedule_add]
  · have other : (Fin.ofNat 16 t).val ≠ (Fin.ofNat 16 s).val := by
      simp only [Fin.val_ofNat]
      omega
    rw [get_eq_getElem, Vector.getElem_set_ne _ _ other, ← get_eq_getElem]
    exact window s (by omega) (by omega)

/-- The expanded block. -/
theorem Window.expand (computes : Computes sha standard) {W : Vector (BitVec w) 16}
    {message : ℕ → BitVec w} {t : ℕ} (window : Window W (standard.schedule message) t)
    (aligned : t % 16 = 0) :
    Window (sha.expand W) (standard.schedule message) (t + 16) := by
  have prefixes : ∀ n ≤ 16, Window (((List.range n).map (Fin.ofNat 16)).foldl sha.expandWord W)
      (standard.schedule message) (t + n) := by
    intro n
    induction n with
    | zero => exact fun _ => window
    | succ n ih =>
      intro bound
      have next := (ih (by omega)).expandWord computes
      rw [List.range_succ, List.map_append, List.foldl_append]
      have index : Fin.ofNat 16 (t + n) = Fin.ofNat 16 n := by
        ext
        simp only [Fin.val_ofNat]
        omega
      rw [index] at next
      exact next
  exact prefixes 16 le_rfl

/-! ## The main loop -/

theorem mainLoop_eq (computes : Computes sha standard) {message : ℕ → BitVec w}
    {start : Registers w} (fuel : ℕ) : ∀ {i : ℕ} {W : Vector (BitVec w) 16}, i % 16 = 0 →
      i ≤ sha.lastPass → sha.lastPass < i + fuel →
      Window W (standard.schedule message) i →
      sha.mainLoop fuel i W (standard.steps message start i) =
        some (standard.steps message start standard.constants.length) := by
  induction fuel with
  | zero =>
    intro i W _ before enough
    omega
  | succ fuel ih =>
    intro i W aligned before enough window
    have passes := computes.passes
    have words : ∀ j n : Fin 16, j.val + n.val < 16 →
        W.get (j + n) = standard.schedule message (i + j + n) := by
      intro j n small
      rw [← window (i + j + n) (by omega) (by omega)]
      congr 1
      ext
      simp only [Fin.val_ofNat]
      omega
    have first : sha.eightRounds W i 0 (standard.steps message start i) =
        some (standard.steps message start (i + 8)) :=
      @eightRounds_eq w size L sha standard computes W message start i 0
        (fun n small => words 0 n (by simp)) (by simp; omega)
    have second : sha.eightRounds W i 8 (standard.steps message start (i + 8)) =
        some (standard.steps message start (i + 16)) :=
      @eightRounds_eq w size L sha standard computes W message start i 8
        (fun n small => words 8 n (by simp; omega)) (by simp; omega)
    simp only [mainLoop, first, second, Option.bind_eq_bind, Option.bind_some]
    by_cases last : i = sha.lastPass
    · rw [if_pos last, last, passes]
      rfl
    · rw [if_neg last]
      have aligned' := computes.aligned
      exact ih (by omega) (by omega) (by omega) (window.expand computes aligned)

/-! ## The compression function -/

theorem mapM_eq_some {α β : Type} {f : α → Option β} {g : α → β} (l : List α)
    (same : ∀ x ∈ l, f x = some (g x)) : l.mapM f = some (l.map g) := by
  induction l with
  | nil => rfl
  | cons x l ih =>
    obtain ⟨first, others⟩ := List.forall_mem_cons.mp same
    rw [List.mapM_cons, first, ih others]
    rfl

theorem parseBlock_window (computes : Computes sha standard) {block : List UInt8}
    (full : block.length = size) :
    ∃ W, sha.parseBlock block = some W ∧ Window W (standard.schedule (blockWord block)) 0 := by
  have parsed : (List.range 16).mapM (sha.parse block) =
      some ((List.range 16).map (blockWord block)) :=
    mapM_eq_some _ fun j inside => computes.parse block full j (List.mem_range.mp inside)
  refine ⟨.ofFn fun j => ((List.range 16).map (blockWord block)).getD j 0, ?_, ?_⟩
  · rw [parseBlock, parsed]
    rfl
  · intro s _ high
    rw [Parameters.schedule_of_lt _ _ (by omega), get_eq_getElem, Vector.getElem_ofFn]
    simp [Nat.mod_eq_of_lt (show s < 16 by omega), List.getElem?_range (show s < 16 by omega)]

/-- **`SHAX_Transform()` is the compression function.** -/
theorem transform_eq (computes : Computes sha standard) (H : Registers w) {block : List UInt8}
    (full : block.length = size) : sha.transform H block = some (standard.compress H block) := by
  obtain ⟨W, parsed, window⟩ := parseBlock_window computes full
  have looped := @mainLoop_eq w size L sha standard computes (blockWord block) H (sha.lastPass + 1) 0 W rfl
    (Nat.zero_le _) (by omega) window
  rw [Parameters.steps_zero] at looped
  simp only [transform, parsed, looped, Option.bind_eq_bind, Option.bind_some, Option.pure_def]
  rfl

end Compression

end Cloudlibc.Unistd.Variant
