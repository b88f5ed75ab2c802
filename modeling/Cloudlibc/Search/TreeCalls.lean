import Cloudlibc.Search.Tdelete
import Cloudlibc.Search.Tsearch

/-!
# Sequences of calls on a search tree

A tree is used through `tsearch()`, `tdelete()` and `tfind()`. Against any sequence of calls on an
empty tree stands the list of the keys that have been inserted and not deleted (`present`).
`runCalls_searchTree` relates the two: no call goes wrong, the tree in memory is always a balanced
search tree of these keys, and every call returns what the list says.
-/

set_option autoImplicit false

namespace Cloudlibc.Search

open Cloudlibc.AvlTree Cloudlibc.Comparison Cloudlibc.Loop Cloudlibc.Memory List

variable {κ : Type} {compar : κ → κ → ℤ} {t : NodeTree κ}

/-! ## Lookup -/

/-- What `tfind()` returns: the node with an equal key, or a null pointer if there is none. -/
def TfindReturns (compar : κ → κ → ℤ) (t : NodeTree κ) (key : κ) (result : Pointer) : Prop :=
  (∃ v ∈ inorder t, v.1 = result ∧ compar key v.2 = 0) ∨
    (result = 0 ∧ ∀ v ∈ inorder t, compar key v.2 ≠ 0)

/-- One pass of `__tfind()` goes down one level. -/
theorem tfindDescend_spec {base : Slot} (total : IsComparison compar) (tree : SearchTree compar t)
    (key : κ) {frames : List (NodeFrame κ)} {s : NodeTree κ} (plugged : plug frames s = t)
    (separates : Separates compar key frames) :
    Triple (treeCells base t) (tfindDescend compar key (rootPointer s)) fun pass cells =>
      pass.Meets
        (fun root => ∃ n < s.height, cells = treeCells base t ∧ ∃ frames s',
          plug frames s' = t ∧ Separates compar key frames ∧ rootPointer s' = root ∧
            n = s'.height)
        (fun result => cells = treeCells base t ∧ TfindReturns compar t key result) := by
  have cells : treeCells base t = frameCells base frames + treeCells (hole base frames) s := by
    rw [← plugged, treeCells_plug]
  unfold tfindDescend
  cases s with
  | nil =>
    have absent := separates.absent total
    rw [plugged] at absent
    exact Triple.pure ⟨rfl, .inr ⟨rfl, absent⟩⟩
  | node entry l r =>
    have ordered := tree.ordered
    rw [← plugged] at ordered
    simp only [rootPointer_node, ne_eq, tree.address_ne_zero plugged, not_false_eq_true, if_true]
    rw [cells, treeCells_node]
    refine Triple.load ?_
    by_cases less : compar key entry.value.2 < 0
    · simp only [less, if_true]
      refine Triple.load (Triple.pure ⟨l.height, by simp [BinaryTree.height], rfl, _, l, ?_,
        separates.goLeft total ordered less, rfl, rfl⟩)
      rw [plug_append]
      exact plugged
    · by_cases more : compar key entry.value.2 > 0
      · simp only [less, more, if_true, if_false]
        refine Triple.load (Triple.pure ⟨r.height, by simp [BinaryTree.height], rfl, _, r, ?_,
          separates.goRight total ordered ((total.neg_iff _ _).mpr more), rfl, rfl⟩)
        rw [plug_append]
        exact plugged
      · simp only [less, more, if_false]
        refine Triple.pure ⟨rfl, .inl ⟨entry.value, ?_, rfl, by omega⟩⟩
        rw [← plugged, inorder_plug]
        simp [inorder]

/-- **`tfind()` finds the node with an equal key, if there is one.** -/
theorem tfind_spec {base : Slot} (total : IsComparison compar) (tree : SearchTree compar t)
    (low : t.height < 128) (key : κ) :
    Triple (treeCells base t) (tfind compar key (some base)) fun result cells =>
      cells = treeCells base t ∧ TfindReturns compar t key result := by
  refine Triple.load ?_
  refine Triple.loop
    (fun n root cells => cells = treeCells base t ∧ ∃ frames s, plug frames s = t ∧
      Separates compar key frames ∧ rootPointer s = root ∧ n = s.height) ?_
    ⟨rfl, [], t, rfl, Separates.nil _ _, rfl, rfl⟩ (low.trans (by decide))
  rintro n _ _ ⟨rfl, frames, s, plugged, separates, rfl, rfl⟩
  exact tfindDescend_spec total tree key plugged separates

/-! ## Calls -/

/-- A call on the tree. `path` is what the local variable of that name holds on entry, and `choice`
is the memory that `malloc()` may hand out. -/
inductive Call (κ : Type)
  | tsearch (key : κ) (path : Path) (choice : Option (Pointer × PosixTnode κ))
  | tdelete (key : κ) (path : Path)
  | tfind (key : κ)

/-- The program of a call. -/
def Call.run (compar : κ → κ → ℤ) : Call κ → TreeProgram κ Pointer
  | .tsearch key path choice => Search.tsearch compar path choice key (some .root)
  | .tdelete key path => Search.tdelete compar path key (some .root)
  | .tfind key => Search.tfind compar key (some .root)

/-- The keys that are present after a call, from those before it and the pointer returned. -/
def Call.effect (compar : κ → κ → ℤ) (S : List κ) : Call κ → Pointer → List κ
  | .tsearch key _ _, result =>
    if (∃ k ∈ S, compar key k = 0) ∨ result = 0 then S else key :: S
  | .tdelete key _, _ => S.filter fun k => compar key k ≠ 0
  | .tfind _, _ => S

/-- Several calls, with the pointers they return. -/
def runCalls (compar : κ → κ → ℤ) : List (Call κ) → TreeProgram κ (List (Call κ × Pointer))
  | [] => pure []
  | call :: calls => do
      let result ← call.run compar
      let history ← runCalls compar calls
      return (call, result) :: history

/-- The keys that the calls of a history have inserted and not deleted. -/
def present (compar : κ → κ → ℤ) (history : List (Call κ × Pointer)) : List κ :=
  history.foldl (fun S step => step.1.effect compar S step.2) []

/-- The memory holds a search tree of the keys `S`, and besides it the cells `rest`. -/
structure Represents (compar : κ → κ → ℤ) (rest : Cells (Location.Value κ)) (S : List κ)
    (m : Mem (Location.Value κ)) (t : NodeTree κ) : Prop where
  holds : Holds m (treeCells .root t + rest)
  tree : SearchTree compar t
  keys_perm : (keys t).Perm S

/-- What a call promises about the pointer it returns and the memory it leaves, where `S` are the
keys before the call and `t'` is the tree behind it. -/
def Call.Returns (compar : κ → κ → ℤ) (S : List κ) (m m' : Mem (Location.Value κ))
    (t' : NodeTree κ) : Call κ → Pointer → Prop
  | .tsearch key _ choice, result =>
    (∀ k ∈ S, compar key k = 0 → (result, k) ∈ inorder t' ∧ m' = m) ∧
    ((∀ k ∈ S, compar key k ≠ 0) →
      (MallocFails choice m → result = 0 ∧ m' = m) ∧
      (¬ MallocFails choice m → (result, key) ∈ inorder t'))
  | .tdelete key _, result =>
    (result ≠ 0 ↔ ∃ k ∈ S, compar key k = 0) ∧ ((∀ k ∈ S, compar key k ≠ 0) → m' = m)
  | .tfind key, result =>
    m' = m ∧ (∀ k ∈ S, compar key k = 0 → (result, k) ∈ inorder t') ∧
      ((∀ k ∈ S, compar key k ≠ 0) → result = 0)

/-- A call succeeds, keeps the tree and the list of keys together and returns what it promises. -/
def Call.Keeps (compar : κ → κ → ℤ) (rest : Cells (Location.Value κ)) (S : List κ)
    (m : Mem (Location.Value κ)) (call : Call κ) : Prop :=
  ∃ result m' t', call.run compar m = some (result, m') ∧
    Represents compar rest (call.effect compar S result) m' t' ∧
    call.Returns compar S m m' t' result

namespace Represents

variable {rest : Cells (Location.Value κ)} {S : List κ} {m : Mem (Location.Value κ)}
  (represents : Represents compar rest S m t)
include represents

theorem mem_iff (k : κ) : k ∈ S ↔ ∃ v ∈ inorder t, v.2 = k := by
  rw [← represents.keys_perm.mem_iff, keys, mem_map]

theorem keys_sorted : (keys t).Pairwise fun k k' => compar k k' < 0 := by
  rw [keys, pairwise_map]
  exact represents.tree.ordered

/-- No key of `S` equals the key if no node of the tree does. -/
theorem absent {key : κ} (none : ∀ v ∈ inorder t, compar key v.2 ≠ 0) :
    ∀ k ∈ S, compar key k ≠ 0 := by
  intro k member
  obtain ⟨v, present, rfl⟩ := (represents.mem_iff k).mp member
  exact none v present

/-- The node with an equal key is the one of the key that is in `S`. -/
theorem node_of_equal (total : IsComparison compar) {key : κ} {v : Pointer × κ}
    (member : v ∈ inorder t) (equal : compar key v.2 = 0) :
    ∀ k ∈ S, compar key k = 0 → (v.1, k) ∈ inorder t := by
  intro k present equal'
  have inKeys : v.2 ∈ keys t := mem_map_of_mem member
  have same := total.eq_of_sorted represents.keys_sorted inKeys
    (represents.keys_perm.mem_iff.mpr present) equal equal'
  rw [← same]
  exact member

end Represents

/-! ## One call -/

section Step

variable {rest : Cells (Location.Value κ)} {S : List κ} {m : Mem (Location.Value κ)}

section

variable (total : IsComparison compar)

include total

section

variable (represents : Represents compar rest S m t)

include represents

/-- The step lemma for `tsearch()`. -/
theorem tsearch_represents (key : κ) (path : Path) (choice : Option (Pointer × PosixTnode κ)) :
    (Call.tsearch key path choice).Keeps compar rest S m := by
  obtain ⟨result, m', ran, outcome⟩ :=
    tsearch_spec total represents.tree represents.holds path choice key
  cases outcome with
  | found v member equal =>
    have inS : v.2 ∈ S := (represents.mem_iff _).mpr ⟨v, member, rfl⟩
    refine ⟨v.1, m, t, ran, ?_, fun k present equal' =>
      ⟨represents.node_of_equal total member equal k present equal', rfl⟩, fun none => ?_⟩
    · rw [Call.effect, if_pos (.inl ⟨v.2, inS, equal⟩)]
      exact represents
    · exact absurd equal (none _ inS)
  | failed none fails =>
    have absent := represents.absent none
    refine ⟨0, m, t, ran, ?_, fun k present equal => absurd equal (absent k present), fun _ =>
      ⟨fun _ => ⟨rfl, rfl⟩, fun succeeds => absurd fails succeeds⟩⟩
    rw [Call.effect, if_pos (.inr rfl)]
    exact represents
  | inserted t' l r _ _ none succeeds holds tree before_eq after_eq =>
    have absent := represents.absent none
    have member : (result, key) ∈ inorder t' := by simp [after_eq]
    refine ⟨result, m', t', ran, ?_, fun k present equal => absurd equal (absent k present),
      fun _ => ⟨fun fails => absurd fails succeeds, fun _ => member⟩⟩
    rw [Call.effect, if_neg]
    · refine ⟨holds, tree, ?_⟩
      have perm := represents.keys_perm
      rw [keys, before_eq, map_append] at perm
      rw [keys, after_eq, map_append, map_cons]
      exact perm_middle.trans (perm.cons key)
    · rintro (⟨k, present, equal⟩ | null)
      · exact absent k present equal
      · exact tree.nonnull _ member null

/-- The step lemma for `tdelete()`. -/
theorem tdelete_represents (key : κ) (path : Path) :
    (Call.tdelete key path).Keeps compar rest S m := by
  have holds := represents.holds
  obtain ⟨result, m', cells, ran, holds', ⟨rfl, rfl, none⟩ |
      ⟨nonzero, t', rfl, tree, l, k, r, equal, removed, kept⟩⟩ :=
    tdelete_spec total represents.tree (height_lt holds represents.tree.avl) path key rest m holds
  · obtain rfl := holds'.unique holds
    have absent := represents.absent none
    refine ⟨0, m', t, ran, ⟨holds, represents.tree, ?_⟩, ?_, fun _ => rfl⟩
    · rw [Call.effect, filter_eq_self.mpr fun k member => decide_eq_true (absent k member)]
      exact represents.keys_perm
    · exact ⟨fun impossible => absurd rfl impossible,
        fun ⟨k, member, equal⟩ => absurd equal (absent k member)⟩
  · have sorted := represents.keys_sorted
    have perm := represents.keys_perm
    rw [removed] at sorted perm
    have inS : k ∈ S := perm.mem_iff.mp (by simp)
    refine ⟨result, m', t', ran, ⟨holds', tree, ?_⟩,
      ⟨fun _ => ⟨k, inS, equal⟩, fun _ => nonzero⟩, fun none => absurd equal (none k inS)⟩
    rw [kept, ← total.filter_sorted equal sorted]
    exact perm.filter _

/-- The step lemma for `tfind()`. -/
theorem tfind_represents (key : κ) : (Call.tfind key).Keeps compar rest S m := by
  have holds := represents.holds
  obtain ⟨result, m', cells, ran, holds', rfl, ⟨v, member, rfl, equal⟩ | ⟨rfl, none⟩⟩ :=
    tfind_spec total represents.tree (height_lt holds represents.tree.avl) key rest m holds
  · obtain rfl := holds'.unique holds
    refine ⟨v.1, m', t, ran, represents, rfl, represents.node_of_equal total member equal,
      fun none => ?_⟩
    exact absurd equal (none _ ((represents.mem_iff _).mpr ⟨v, member, rfl⟩))
  · obtain rfl := holds'.unique holds
    have absent := represents.absent none
    exact ⟨0, m', t, ran, represents, rfl,
      fun k present equal => absurd equal (absent k present), fun _ => rfl⟩

/-- **Every call keeps the tree and the list of keys together**, and returns what it promises. -/
theorem Call.run_represents (call : Call κ) : call.Keeps compar rest S m := by
  cases call with
  | tsearch key path choice => exact tsearch_represents total represents key path choice
  | tdelete key path => exact tdelete_represents total represents key path
  | tfind key => exact tfind_represents total represents key

end

end

end Step

/-- **The path holds every step.** It replays all steps that it has room for, whatever it held before,
and a tree in the address space is less high than that. -/
theorem path_capacity (compar : κ → κ → ℤ) :
    (∀ (garbage : Path) (sides : List Side), sides.length ≤ 2 * 64 →
      ∃ p, sides.foldlM Path.takingSide garbage.init = some p ∧
        p.tookLefts sides.length = sides.map fun side => decide (side = .left)) ∧
    (∀ (t : NodeTree κ) (stepsBit sizeof : ℕ), IsAvl t → 2 ≤ stepsBit →
      t.numNodes < 2 ^ stepsBit / sizeof → t.height < 2 * stepsBit) ∧
    (IsComparison compar → ∀ rest S m t, Represents compar rest S m t →
      ∀ call : Call κ, (call.run compar m).isSome) := by
  refine ⟨fun garbage sides room => ?_, fun t stepsBit sizeof avl two few => ?_,
    fun total rest S m t represents call => ?_⟩
  · obtain ⟨p, taken, records⟩ :=
      Path.takingSides_spec sides (p := garbage.init) (Path.records_nil _) rfl room
    exact ⟨p, taken, Path.tookLefts_spec sides records⟩
  · exact avl.height_lt two (few.le.trans (Nat.div_le_self _ _))
  · obtain ⟨_, _, -, ran, -⟩ := call.run_represents total represents
    exact Option.isSome_of_eq_some ran

/-! ## Runs -/

theorem runCalls_represents (total : IsComparison compar) {rest : Cells (Location.Value κ)}
    (calls : List (Call κ)) : ∀ {S : List κ} {m : Mem (Location.Value κ)} {t : NodeTree κ},
      Represents compar rest S m t →
      ∃ history m' t', runCalls compar calls m = some (history, m') ∧
        Represents compar rest
          (history.foldl (fun S step => step.1.effect compar S step.2) S) m' t' := by
  induction calls with
  | nil =>
    intro S m t represents
    exact ⟨[], m, t, rfl, represents⟩
  | cons call calls ih =>
    intro S m t represents
    obtain ⟨result, m₁, t₁, ran, represents₁, -⟩ := call.run_represents total represents
    obtain ⟨history, m₂, t₂, rest_ran, represents₂⟩ := ih represents₁
    exact ⟨(call, result) :: history, m₂, t₂, (bind_eq ran).trans (bind_eq rest_ran), represents₂⟩

/-- **All sequences of calls.** Started on an empty tree, any sequence of calls succeeds and leaves
a balanced search tree that holds the keys inserted and not deleted. So does any further call,
which returns what it promises. -/
theorem runCalls_searchTree (total : IsComparison compar) {rest : Cells (Location.Value κ)}
    {m₀ : Mem (Location.Value κ)} (empty : Holds m₀ (pointsTo (.ptr .root) (0 : Pointer) + rest))
    (calls : List (Call κ)) (call : Call κ) :
    ∃ history m t result m' t',
      runCalls compar calls m₀ = some (history, m) ∧
      Represents compar rest (present compar history) m t ∧
      call.run compar m = some (result, m') ∧
      Represents compar rest (present compar (history ++ [(call, result)])) m' t' ∧
      call.Returns compar (present compar history) m m' t' result := by
  have start : Represents compar rest [] m₀ .nil := by
    refine ⟨?_, ⟨trivial, List.Pairwise.nil, by simp [inorder]⟩, List.Perm.nil⟩
    rw [treeCells_nil]
    exact empty
  obtain ⟨history, m, t, ran, represents⟩ := runCalls_represents total calls start
  obtain ⟨result, m', t', ran', represents', returns⟩ := call.run_represents total represents
  refine ⟨history, m, t, result, m', t', ran, represents, ran', ?_, returns⟩
  rw [present, foldl_append]
  exact represents'

/-- Memory in which a root pointer exists and is null. -/
def emptyRoot : Mem (Location.Value κ)
  | .ptr .root => some (0 : Pointer)
  | _ => none

theorem holds_emptyRoot :
    Holds emptyRoot (pointsTo (.ptr .root) (0 : Pointer) + 0 : Cells (Location.Value κ)) := by
  refine ⟨by simp [pointsTo], fun l v => ?_⟩
  rw [add_zero, pointsTo, Multiset.mem_singleton]
  cases l with
  | ptr slot =>
    cases slot with
    | root =>
      rw [emptyRoot, Option.some_inj, Sigma.mk.injEq, heq_eq_eq, eq_comm]
      exact (and_iff_right rfl).symm
    | left n => simp [emptyRoot]
    | right n => simp [emptyRoot]
  | key n => simp [emptyRoot]
  | balance n => simp [emptyRoot]

theorem isComparison_sub : IsComparison fun a b : ℤ => a - b :=
  ⟨fun a b => by omega, fun a b c => by omega⟩

/-- Two insertions and a deletion of integers. -/
theorem runCalls_searchTree_integers :
    ∃ history m t result m' t',
      runCalls (fun a b : ℤ => a - b)
        [.tsearch 7 ⟨0, 0, 0⟩ (some (16, ⟨0, 0, 0, 0⟩)),
          .tsearch 3 ⟨0, 0, 0⟩ (some (48, ⟨0, 0, 0, 0⟩))] emptyRoot = some (history, m) ∧
      Represents (fun a b : ℤ => a - b) 0 (present (fun a b : ℤ => a - b) history) m t ∧
      (Call.tdelete 7 ⟨0, 0, 0⟩).run (fun a b : ℤ => a - b) m = some (result, m') ∧
      Represents (fun a b : ℤ => a - b) 0
        (present (fun a b : ℤ => a - b) (history ++ [(.tdelete 7 ⟨0, 0, 0⟩, result)])) m' t' ∧
      (Call.tdelete 7 ⟨0, 0, 0⟩).Returns (fun a b : ℤ => a - b)
        (present (fun a b : ℤ => a - b) history) m m' t' result :=
  runCalls_searchTree isComparison_sub holds_emptyRoot _ _

/-! ## The end of a tree -/

/-- `tdestroy()`, with a bound on the depth, and the keys for the destructor. -/
def tdestroy : ℕ → Pointer → TreeProgram κ (List κ)
  | 0, _ => failure
  | depth + 1, root =>
    if root = 0 then pure []
    else do
      let before ← tdestroy depth (← load (.ptr (.left root)))
      let key : κ ← load (Location.key root)
      let behind ← tdestroy depth (← load (.ptr (.right root)))
      free root
      return before ++ key :: behind

theorem tdestroy_spec : ∀ {depth : ℕ} {t : NodeTree κ}, t.height < depth →
    (∀ v ∈ inorder t, v.1 ≠ 0) → Triple (bodyCells t) (tdestroy depth (rootPointer t))
      fun destroyed cells => destroyed = keys t ∧ cells = 0
  | _ + 1, .nil, _, _ => Triple.pure ⟨rfl, rfl⟩
  | depth + 1, .node entry l r, low, nonnull => by
    simp only [BinaryTree.height] at low
    rw [inorder, forall_mem_append, forall_mem_cons] at nonnull
    obtain ⟨inLeft, nonzero, inRight⟩ := nonnull
    rw [tdestroy, rootPointer_node, if_neg nonzero, bodyCells, ← add_assoc (entryCells _)]
    refine Triple.load ((tdestroy_spec (by omega) inLeft).call _
      (by rw [add_right_comm, add_comm]) ?_)
    rintro _ _ ⟨rfl, rfl⟩
    refine Triple.load (Triple.load ((tdestroy_spec (by omega) inRight).call _
      (by rw [zero_add, ← add_assoc, add_comm]) ?_))
    rintro _ _ ⟨rfl, rfl⟩
    refine (free_spec _ entry.value.2 _ _ entry.balance).call 0 (by rw [entryCells]; abel) ?_
    rintro _ _ rfl
    exact Triple.pure ⟨by simp [keys, inorder], rfl⟩

/-- **Nothing leaks.** After any calls, `tdestroy()` hands every key to the destructor once, in
ascending order, and leaves only the root pointer and what was there before. -/
theorem runCalls_tdestroy (total : IsComparison compar) {rest : Cells (Location.Value κ)}
    {m₀ : Mem (Location.Value κ)} (empty : Holds m₀ (pointsTo (.ptr .root) (0 : Pointer) + rest))
    (calls : List (Call κ)) :
    ∃ history m root destroyed m', runCalls compar calls m₀ = some (history, m) ∧
      m (.ptr .root) = some root ∧ tdestroy 128 root m = some (destroyed, m') ∧
      destroyed.Perm (present compar history) ∧ (destroyed.Pairwise fun k k' => compar k k' < 0) ∧
      Holds m' (pointsTo (.ptr .root) root + rest) := by
  have start : Represents compar rest [] m₀ .nil :=
    ⟨treeCells_nil .root ▸ empty, ⟨trivial, .nil, nofun⟩, .nil⟩
  obtain ⟨history, m, t, ran, represents⟩ := runCalls_represents total calls start
  have low := height_lt represents.holds represents.tree.avl
  have holds := represents.holds
  rw [treeCells, add_assoc] at holds
  obtain ⟨_, m', _, ran', holds', rfl, rfl⟩ := tdestroy_spec low represents.tree.nonnull _ m
    (add_left_comm (pointsTo _ _) _ rest ▸ holds)
  exact ⟨history, m, _, _, m', ran, holds.eq_some, ran', represents.keys_perm,
    represents.keys_sorted, zero_add (pointsTo _ _ + _) ▸ holds'⟩

theorem runCalls_tdestroy_integers :
    ∃ history m, runCalls (fun a b : ℤ => a - b)
        [.tsearch 7 ⟨0, 0, 0⟩ (some (16, ⟨0, 0, 0, 0⟩))] emptyRoot = some (history, m) ∧
      ∃ root result, tdestroy 128 root m = some result := by
  obtain ⟨history, m, root, _, _, ran, -, ran', -⟩ :=
    runCalls_tdestroy isComparison_sub holds_emptyRoot _
  exact ⟨history, m, ran, root, _, ran'⟩

end Cloudlibc.Search
