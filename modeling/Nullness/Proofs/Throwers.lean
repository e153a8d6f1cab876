import Mathlib.Tactic
import Nullness.Descriptor.Reader
import Nullness.Thrower
import Nullness.Proofs.Dataflow
import Nullness.Proofs.Paths
import Nullness.Proofs.Reachability

/-!
# Throwers

A method with a conditional summary completes normally only after an edge has found one of its
parameters not to be null. So it throws when all its parameters are null, which is less than its
summary is read to tell: that it throws when any of the listed parameters is null.

A method that is summarized as always throwing completes normally on no path. But a method that throws
on every path need not be summarized so: an edge into the exit counts although no path leads to it.

* `FlowGraph.NonNullEdge`, `FlowGraph.NormalPath`, `FlowGraph.ThrowsOnNull`: null tests, the paths on
  which a method completes normally, and the parameters on which it insists;
* `FlowGraph.throwsOnNull_iff`: on which parameters a method insists, from the blocks on the null side of
  its tests;
* `FlowGraph.guardedParameters?_eq_some_iff`: **when a summary is conditional, and which parameters it
  lists**;
* `alwaysThrows_iff_paths`: **when a method is summarized as always throwing**;
* `not_alwaysThrows_deadReturn`: a return that no path reaches hides that a method always throws;
* `conditional_throws_iff`: **when a method insists on a listed parameter**;
* `conditional_single`: a method with one parameter insists on it;
* `conditional_returns_nestedGuards`: a method with two parameters need not insist on either.
-/

namespace Nullness

namespace FlowGraph

variable {g : FlowGraph} {slots : List Nat} {slot : Nat}

/-! ### Null tests -/

/-- An edge that is taken only when a local variable is not null: its source ends by testing the
variable, and the edge is the one for values that are not null. -/
def NonNullEdge (g : FlowGraph) (slot : Nat) (e : g.Arc) : Prop :=
  ∃ before, g.ops e.source = before ++ [.load slot, .ifNull] ∧ e.kind = .fallThrough ∨
    g.ops e.source = before ++ [.load slot, .ifNonNull] ∧ e.kind = .branch

lemma ops_ends_iff {b : g.Node} {last penultimate : Opcode} :
    lastOp? (g.instructions b) = some last ∧ penultimateOp? (g.instructions b) = some penultimate ↔
      ∃ before, g.ops b = before ++ [penultimate, last] := by
  have hlast : ∀ code : List Instruction, lastOp? code = (code.map (·.op)).getLast? := fun code =>
    List.getLast?_map.symm
  rw [penultimateOp?, hlast, hlast, List.map_dropLast, ← FlowGraph.ops]
  constructor
  · rintro ⟨hend, hbefore⟩
    obtain ⟨front, hfront⟩ := List.getLast?_eq_some_iff.1 hend
    rw [hfront, List.dropLast_concat] at hbefore
    obtain ⟨before, rfl⟩ := List.getLast?_eq_some_iff.1 hbefore
    exact ⟨before, by rw [hfront, List.append_assoc, List.singleton_append]⟩
  · rintro ⟨before, hops⟩
    rw [hops, ← List.singleton_append, ← List.append_assoc]
    simp

/-- A block tests the parameter whose slot it loads in front of a null test at its end. -/
lemma testedParameter?_eq_some {b : g.Node} {i : Nat} : g.testedParameter? slots b = some i ↔
    ∃ slot before, slots.idxOf? slot = some i ∧ (g.ops b = before ++ [.load slot, .ifNull] ∨
      g.ops b = before ++ [.load slot, .ifNonNull]) := by
  constructor
  · intro h
    unfold testedParameter? at h
    split at h
    · rename_i slot hlast hload
      obtain ⟨before, hops⟩ := ops_ends_iff.1 ⟨hlast, hload⟩
      exact ⟨slot, before, h, .inl hops⟩
    · rename_i slot hlast hload
      obtain ⟨before, hops⟩ := ops_ends_iff.1 ⟨hlast, hload⟩
      exact ⟨slot, before, h, .inr hops⟩
    · cases h
  · rintro ⟨slot, before, hslot, hops | hops⟩
    · obtain ⟨hlast, hload⟩ := ops_ends_iff.2 ⟨before, hops⟩
      rw [testedParameter?, hlast, hload]
      exact hslot
    · obtain ⟨hlast, hload⟩ := ops_ends_iff.2 ⟨before, hops⟩
      rw [testedParameter?, hlast, hload]
      exact hslot

lemma needsNonNull_iff {e : g.Arc} :
    g.needsNonNull slots e = true ↔ ∃ slot ∈ slots, g.NonNullEdge slot e := by
  rw [needsNonNull, Bool.and_eq_true, decide_eq_true_iff, Option.isSome_iff_exists]
  constructor
  · rintro ⟨⟨i, htested⟩, hkind⟩
    obtain ⟨slot, before, hslot, hops⟩ := testedParameter?_eq_some.1 htested
    refine ⟨slot, List.isSome_idxOf?.1 (by rw [hslot]; rfl), before, hops.imp ?_ ?_⟩
    · intro hops
      rw [(ops_ends_iff.2 ⟨before, hops⟩).1] at hkind
      exact ⟨hops, hkind⟩
    · intro hops
      rw [(ops_ends_iff.2 ⟨before, hops⟩).1] at hkind
      exact ⟨hops, hkind⟩
  · rintro ⟨slot, hslot, before, hops⟩
    obtain ⟨i, hi⟩ := Option.isSome_iff_exists.1 (List.isSome_idxOf?.2 hslot)
    refine ⟨⟨i, testedParameter?_eq_some.2 ⟨slot, before, hi, hops.imp And.left And.left⟩⟩, ?_⟩
    rcases hops with ⟨hops, hkind⟩ | ⟨hops, hkind⟩
    · rw [(ops_ends_iff.2 ⟨before, hops⟩).1]
      exact hkind
    · rw [(ops_ends_iff.2 ⟨before, hops⟩).1]
      exact hkind

lemma needsNonNull_eq_false_iff {e : g.Arc} :
    g.needsNonNull slots e = false ↔ ∀ slot ∈ slots, ¬ g.NonNullEdge slot e := by
  rw [← Bool.not_eq_true, needsNonNull_iff]
  simp only [not_exists, not_and]

/-! ### Blocks on the null side of all tests -/

lemma mem_nullSideEdges {b : g.Node} {e : g.Arc} : e ∈ g.nullSideEdges slots b ↔
    e ∈ g.edges ∧ e.source = b ∧ ∀ slot ∈ slots, ¬ g.NonNullEdge slot e := by
  rw [nullSideEdges, List.mem_filter, mem_outgoing, Bool.not_eq_true', needsNonNull_eq_false_iff,
    and_assoc]

/-- The blocks on the null side are those to which a path leads that takes no edge for a parameter
that is not null. -/
lemma mem_nullSideBlocks {b : g.Node} : b ∈ g.nullSideBlocks slots ↔
    ∃ path, g.Path g.entry path b ∧ ∀ e ∈ path, ∀ slot ∈ slots, ¬ g.NonNullEdge slot e := by
  simp only [← needsNonNull_eq_false_iff, ← Bool.not_eq_true']
  exact mem_reachableAlong

/-! ### Paths on which the method completes -/

/-- A path on which the method completes normally: its last edge leads to the exit, is not that of
an exception, and does not leave a block that ends by throwing. -/
def NormalPath (g : FlowGraph) (path : List g.Arc) : Prop :=
  g.Path g.entry path g.exit ∧
    ∃ e, path.getLast? = some e ∧ e.kind ≠ .unhandledException ∧ g.throwsAtEnd e.source = false

/-- The method does not complete normally while a variable is null: every path on which it does
takes an edge on which the variable is not null. -/
def ThrowsOnNull (g : FlowGraph) (slot : Nat) : Prop :=
  ¬ ∃ path, g.NormalPath path ∧ ∀ e ∈ path, ¬ g.NonNullEdge slot e

lemma completesNormally_iff {e : g.Arc} : g.completesNormally e = true ↔
    e.target = g.exit ∧ e.kind ≠ .unhandledException ∧ g.throwsAtEnd e.source = false := by
  simp [completesNormally, and_assoc]

lemma normalPath_iff {path : List g.Arc} : g.NormalPath path ↔ ∃ front e, path = front ++ [e] ∧
    g.Path g.entry front e.source ∧ e ∈ g.edges ∧ g.completesNormally e = true := by
  constructor
  · rintro ⟨hpath, e, hlast, hkind, hthrows⟩
    obtain ⟨front, rfl⟩ := List.getLast?_eq_some_iff.1 hlast
    obtain ⟨hfront, he, ht⟩ := path_append_singleton_iff.1 hpath
    exact ⟨front, e, rfl, hfront, he, completesNormally_iff.2 ⟨ht, hkind, hthrows⟩⟩
  · rintro ⟨front, e, rfl, hfront, he, hcomplete⟩
    obtain ⟨ht, hkind, hthrows⟩ := completesNormally_iff.1 hcomplete
    exact ⟨path_append_singleton_iff.2 ⟨hfront, he, ht⟩, e, by simp, hkind, hthrows⟩

/-- **Whether a method completes while a variable is null can be read off the blocks on the null
side of its tests.** -/
theorem throwsOnNull_iff : g.ThrowsOnNull slot ↔
    ∀ b ∈ g.nullSideBlocks [slot], ∀ e ∈ g.nullSideEdges [slot] b, g.completesNormally e = false := by
  simp only [mem_nullSideBlocks, mem_nullSideEdges, List.mem_singleton, forall_eq]
  constructor
  · rintro hthrows _ ⟨path, hpath, hnull⟩ e ⟨he, rfl, hedge⟩
    by_contra hcomplete
    refine hthrows ⟨path ++ [e], normalPath_iff.2 ⟨path, e, rfl, hpath, he, by simpa using hcomplete⟩, ?_⟩
    exact List.forall_mem_append.2 ⟨hnull, by simpa using hedge⟩
  · rintro hall ⟨path, hnormal, hnull⟩
    obtain ⟨front, e, rfl, hfront, he, hcomplete⟩ := normalPath_iff.1 hnormal
    obtain ⟨hbefore, hedge⟩ := List.forall_mem_append.1 hnull
    have hnever := hall _ ⟨front, hfront, hbefore⟩ e ⟨he, rfl, hedge e (List.mem_singleton_self e)⟩
    rw [hcomplete] at hnever
    cases hnever

instance : Decidable (g.ThrowsOnNull slot) :=
  decidable_of_iff (((g.nullSideBlocks [slot]).all fun b =>
      (g.nullSideEdges [slot] b).all fun e => !g.completesNormally e) = true) <| by
    simp only [throwsOnNull_iff, List.all_eq_true, Bool.not_eq_true']

/-! ### Guarded parameters -/

/-- A method has no guarded parameters when it may complete normally while all of them are null. -/
lemma any_completesNormally :
    ((g.nullSideBlocks slots).any fun b => (g.outgoing b).any g.completesNormally) = true ↔
      ∃ front e, g.Path g.entry front e.source ∧ e ∈ g.edges ∧ g.completesNormally e = true ∧
        ∀ e' ∈ front, ∀ slot ∈ slots, ¬ g.NonNullEdge slot e' := by
  simp only [List.any_eq_true, mem_nullSideBlocks, mem_outgoing]
  constructor
  · rintro ⟨_, ⟨front, hfront, hnull⟩, e, ⟨he, rfl⟩, hcomplete⟩
    exact ⟨front, e, hfront, he, hcomplete, hnull⟩
  · rintro ⟨front, e, hfront, he, hcomplete, hnull⟩
    exact ⟨_, ⟨front, hfront, hnull⟩, e, ⟨he, rfl⟩, hcomplete⟩

/-- **The parameters of a conditional summary.** A graph has guarded parameters when the method
never completes normally before an edge has found some parameter not to be null; these are then the
parameters that are tested where all tests so far have found null, in a block that can be left so.
-/
theorem guardedParameters?_eq_some_iff {S : SortedSet Nat} : g.guardedParameters? slots = some S ↔
    (∀ front e, g.Path g.entry front e.source → e ∈ g.edges → g.completesNormally e = true →
      ∃ e' ∈ front, ∃ slot ∈ slots, g.NonNullEdge slot e') ∧
    ∀ i, SortedSet.mem S i = true ↔ ∃ b ∈ g.nullSideBlocks slots, g.nullSideEdges slots b ≠ [] ∧
      g.testedParameter? slots b = some i := by
  have hnormal : ¬ ((g.nullSideBlocks slots).any fun b => (g.outgoing b).any g.completesNormally) = true
      ↔ ∀ front e, g.Path g.entry front e.source → e ∈ g.edges → g.completesNormally e = true →
        ∃ e' ∈ front, ∃ slot ∈ slots, g.NonNullEdge slot e' := by
    rw [any_completesNormally]
    push Not
    exact Iff.rfl
  have htested : ∀ i, SortedSet.mem (.ofList <| (g.nullSideBlocks slots).filterMap fun b =>
      if (g.nullSideEdges slots b).isEmpty then none else g.testedParameter? slots b) i = true ↔
        ∃ b ∈ g.nullSideBlocks slots, g.nullSideEdges slots b ≠ [] ∧
          g.testedParameter? slots b = some i := by
    intro i
    simp [SortedSet.mem_ofList, List.mem_filterMap]
  rw [guardedParameters?, ← hnormal]
  constructor
  · intro h
    split at h
    · cases h
    · rename_i hnever
      obtain rfl := Option.some.inj h
      exact ⟨hnever, htested⟩
  · rintro ⟨hnever, hS⟩
    rw [if_neg hnever]
    exact congrArg some (SortedSet.ext_mem fun i => Bool.eq_iff_iff.2 ((htested i).trans (hS i).symm))

/-- With guarded parameters every path to a normal completion finds one of them not to be null. -/
lemma NormalPath.finds_nonNull {S : SortedSet Nat} (hS : g.guardedParameters? slots = some S)
    {path : List g.Arc} (hpath : g.NormalPath path) : ∃ e ∈ path, ∃ slot ∈ slots, g.NonNullEdge slot e := by
  obtain ⟨front, e, rfl, hfront, he, hcomplete⟩ := normalPath_iff.1 hpath
  obtain ⟨e', he', hnonNull⟩ := (guardedParameters?_eq_some_iff.1 hS).1 front e hfront he hcomplete
  exact ⟨e', List.mem_append_left _ he', hnonNull⟩

instance : Decidable (∃ path, g.NormalPath path) :=
  decidable_of_iff (((g.nullSideBlocks []).any fun b =>
      (g.outgoing b).any g.completesNormally) = true) <| by
    rw [any_completesNormally]
    simp [normalPath_iff]

/-! ### Methods that always throw -/

/-- Some path completes normally exactly when one leads to the source of such an edge. -/
lemma exists_normalPath_iff : (∃ path, g.NormalPath path) ↔
    ∃ e ∈ g.edges, g.completesNormally e = true ∧ g.Reachable e.source := by
  simp only [normalPath_iff]
  constructor
  · rintro ⟨_, front, e, rfl, hfront, he, hcomplete⟩
    exact ⟨e, he, hcomplete, hfront.reachable⟩
  · rintro ⟨e, he, hcomplete, hreachable⟩
    obtain ⟨front, hfront⟩ := hreachable.exists_path
    exact ⟨front ++ [e], front, e, rfl, hfront, he, hcomplete⟩

/-- The check looks at the edges into the exit, whether or not a path leads to them. -/
lemma alwaysThrows_iff : g.alwaysThrows = true ↔ ∀ e ∈ g.edges, g.completesNormally e = false := by
  have hnever : ∀ e : g.Arc, g.completesNormally e = false ↔
      (e.target = g.exit → e.kind = .unhandledException ∨ g.throwsAtEnd e.source = true) := by
    intro e
    rw [← Bool.not_eq_true, completesNormally_iff]
    grind
  simp only [alwaysThrows, List.all_eq_true, mem_incoming, Bool.or_eq_true, decide_eq_true_eq, hnever,
    and_imp]

end FlowGraph

/-! ### Summaries -/

variable {c : ClassDecl} {m : Method} {S : SortedSet Nat}

/-- A summary is that of the body of an eligible method. -/
lemma summarize_eq_some_iff [DescriptorReader] {summary : MethodSummary} : summarize c m = .ok
    (some summary) ↔
    isEligible c m = true ∧ ∃ body, m.body = some body ∧ summarizeBody m body = .ok summary := by
  have hmap : ∀ r : Except Error MethodSummary, r.map some = .ok (some summary) ↔ r = .ok summary := by
    intro r
    cases r <;> simp [Except.map]
  unfold summarize
  split
  · rename_i heligible
    cases m.body with
    | none => simp
    | some body => simp [hmap, heligible]
  · rename_i hnot
    simp [hnot]

/-- A body is summarized so exactly when all edges into the exit throw. -/
lemma summarizeBody_eq_alwaysThrows_iff [DescriptorReader] {body : Body} {g : FlowGraph}
    (hg : FlowGraph.ofBody body = .ok g) :
    summarizeBody m body = .ok .alwaysThrows ↔ g.alwaysThrows = true := by
  constructor
  · intro h
    obtain ⟨g', hg', h⟩ := bind_eq_ok_iff.1 h
    obtain rfl := Except.ok.inj (hg.symm.trans hg')
    dsimp only at h
    split at h
    · assumption
    · obtain ⟨d, -, h⟩ := bind_eq_ok_iff.1 h
      split at h
      · cases h
      · split at h
        · cases h
        · rw [pure_eq_ok_iff] at h
          split at h <;> cases h
  · intro h
    refine bind_eq_ok_iff.2 ⟨g, hg, ?_⟩
    dsimp only
    rw [if_pos h]
    rfl

/-- **What it takes to be summarized as always throwing.** No path completes normally, and neither would
an edge into the exit from a block to which no path leads. -/
theorem alwaysThrows_iff_paths [DescriptorReader] {body : Body} {g : FlowGraph}
    (heligible : isEligible c m = true)
    (hbody : m.body = some body) (hg : FlowGraph.ofBody body = .ok g) :
    summarize c m = .ok (some .alwaysThrows) ↔ (¬ ∃ path, g.NormalPath path) ∧
      ∀ e ∈ g.edges, e.target = g.exit → e.kind ≠ .unhandledException →
        g.throwsAtEnd e.source = false → g.Reachable e.source := by
  have hsummary : summarize c m = .ok (some .alwaysThrows) ↔ g.alwaysThrows = true := by
    rw [summarize_eq_some_iff, and_iff_right heligible, hbody,
      ← summarizeBody_eq_alwaysThrows_iff (m := m) hg]
    simp
  rw [hsummary, FlowGraph.alwaysThrows_iff, FlowGraph.exists_normalPath_iff]
  constructor
  · intro hnever
    refine ⟨fun ⟨e, he, hcomplete, _⟩ => ?_, fun e he ht hkind hthrows => ?_⟩
    · rw [hnever e he] at hcomplete
      cases hcomplete
    · have hcomplete := FlowGraph.completesNormally_iff.2 ⟨ht, hkind, hthrows⟩
      rw [hnever e he] at hcomplete
      cases hcomplete
  · rintro ⟨hnone, hreached⟩ e he
    rw [← Bool.not_eq_true]
    intro hcomplete
    obtain ⟨ht, hkind, hthrows⟩ := FlowGraph.completesNormally_iff.1 hcomplete
    exact hnone ⟨e, he, hcomplete, hreached e he ht hkind hthrows⟩

/-- Throws on its only path, in front of a loop to which no path leads. -/
def deadLoop : Method where
  name := "fail"
  descriptor := "()V"
  isPublic := true
  isStatic := true
  isAbstract := false
  returnMark := .unknown
  parameterMarks := []
  maxLocals := 0
  maxStack := 1
  body := some {
    entry := 0
    exit := 2
    blocks := [⟨0, [⟨0, .new "E"⟩, ⟨1, .throw⟩]⟩, ⟨1, [⟨2, .goto⟩]⟩, ⟨2, []⟩]
    edges := [⟨0, 2, .unhandledException⟩, ⟨1, 1, .branch⟩] }
  dereferencedParameters := []

/-- The same in front of a return. -/
def deadReturn : Method :=
  { deadLoop with body := deadLoop.body.map fun body =>
    { body with
      blocks := [⟨0, [⟨0, .new "E"⟩, ⟨1, .throw⟩]⟩, ⟨1, [⟨2, .return⟩]⟩, ⟨2, []⟩]
      edges := [⟨0, 2, .unhandledException⟩, ⟨1, 2, .fallThrough⟩] } }

/-- The class of one of these methods. -/
def deadCodeClass (m : Method) : ClassDecl where
  name := "A"
  superName := none
  interfaces := []
  isInterface := false
  isAbstract := false
  isApplication := true
  fields := []
  methods := [m]

/-- The loop does not count. -/
theorem alwaysThrows_iff_paths_deadLoop :
    isEligible (deadCodeClass deadLoop) deadLoop = true ∧
    ∃ body g, deadLoop.body = some body ∧ FlowGraph.ofBody body = .ok g ∧
      summarize (deadCodeClass deadLoop) deadLoop = .ok (some .alwaysThrows) ∧
      (¬ ∃ path, g.NormalPath path) ∧
      ∀ e ∈ g.edges, e.target = g.exit → e.kind ≠ .unhandledException →
        g.throwsAtEnd e.source = false → g.Reachable e.source := by
  have hsummary : summarize (deadCodeClass deadLoop) deadLoop = .ok (some .alwaysThrows) := by
    decide +kernel
  refine ⟨rfl, _, _, rfl, eq_ok_get (by decide +kernel), hsummary, ?_⟩
  exact (alwaysThrows_iff_paths rfl rfl (eq_ok_get (by decide +kernel))).1 hsummary

/-- **The return counts although no path leads to it.** The method throws on its only path, and its
summary is `none`. -/
theorem not_alwaysThrows_deadReturn :
    isEligible (deadCodeClass deadReturn) deadReturn = true ∧
    ∃ body g, deadReturn.body = some body ∧ FlowGraph.ofBody body = .ok g ∧
      (¬ ∃ path, g.NormalPath path) ∧
      summarize (deadCodeClass deadReturn) deadReturn = .ok (some .none) :=
  ⟨rfl, _, _, rfl, eq_ok_get (by decide +kernel), by decide +kernel, by decide +kernel⟩

/-! ### Conditional summaries -/

/-- A conditional summary lists the guarded parameters of the body. -/
lemma summarizeBody_eq_conditional [DescriptorReader] {body : Body}
    (h : summarizeBody m body = .ok (.conditional S)) :
    ∃ g d, FlowGraph.ofBody body = .ok g ∧ MethodDescriptor.parse m.descriptor = .ok d ∧
      g.guardedParameters? (d.parameterSlots m.isStatic) = some S := by
  obtain ⟨g, hg, h⟩ := bind_eq_ok_iff.1 h
  refine ⟨g, ?_⟩
  dsimp only at h
  split at h
  · simp at h
  · obtain ⟨d, hd, h⟩ := bind_eq_ok_iff.1 h
    refine ⟨d, hg, inContext_eq_ok.1 hd, ?_⟩
    split at h
    · simp at h
    · split at h
      · simp at h
      · rename_i parameters hparameters
        rw [pure_eq_ok_iff] at h
        split at h
        · cases h
        · cases h
          exact hparameters

/-- **What a conditional summary tells.** The method never completes normally while all its
parameters are null. It does not complete while a listed parameter is null exactly when, wherever it
completes after finding another parameter not to be null, it has found the listed one not to be null
as well. -/
theorem conditional_throws_iff [DescriptorReader] {i : Nat}
    (h : summarize c m = .ok (some (.conditional S)))
    (hi : SortedSet.mem S i = true) :
    ∃ body g d slot, m.body = some body ∧ FlowGraph.ofBody body = .ok g ∧
      MethodDescriptor.parse m.descriptor = .ok d ∧
      (d.parameterSlots m.isStatic)[i]? = some slot ∧
      (∀ path, g.NormalPath path →
        ∃ other ∈ d.parameterSlots m.isStatic, ∃ e ∈ path, g.NonNullEdge other e) ∧
      (g.ThrowsOnNull slot ↔
        ∀ path, g.NormalPath path → ∀ other ∈ d.parameterSlots m.isStatic, other ≠ slot →
          (∃ e ∈ path, g.NonNullEdge other e) → ∃ e ∈ path, g.NonNullEdge slot e) := by
  obtain ⟨-, body, hbody, hsummary⟩ := summarize_eq_some_iff.1 h
  obtain ⟨g, d, hg, hd, hS⟩ := summarizeBody_eq_conditional hsummary
  obtain ⟨b, -, -, htested⟩ := ((FlowGraph.guardedParameters?_eq_some_iff.1 hS).2 i).1 hi
  obtain ⟨slot, -, hslot, -⟩ := FlowGraph.testedParameter?_eq_some.1 htested
  have hfinds : ∀ path, g.NormalPath path →
      ∃ other ∈ d.parameterSlots m.isStatic, ∃ e ∈ path, g.NonNullEdge other e := by
    intro path hpath
    obtain ⟨e, he, other, hother, hedge⟩ := hpath.finds_nonNull hS
    exact ⟨other, hother, e, he, hedge⟩
  refine ⟨body, g, d, slot, hbody, hg, hd, ?_, hfinds, ?_, ?_⟩
  · obtain ⟨hlt, hget, -⟩ := List.idxOf?_eq_some_iff.1 hslot
    rw [List.getElem?_eq_getElem hlt, hget]
  · intro hthrows path hpath other _ _ _
    by_contra hnone
    push Not at hnone
    exact hthrows ⟨path, hpath, hnone⟩
  · rintro hall ⟨path, hpath, hnone⟩
    obtain ⟨other, hother, e, he, hedge⟩ := hfinds path hpath
    by_cases hsame : other = slot
    · exact hnone e he (hsame ▸ hedge)
    · obtain ⟨e', he', hedge'⟩ := hall path hpath other hother hsame ⟨e, he, hedge⟩
      exact hnone e' he' hedge'

/-- A conditional summary of a method with one parameter is right. -/
theorem conditional_single [DescriptorReader] {body : Body} {g : FlowGraph} {d : MethodDescriptor}
    {slot : Nat}
    (h : summarizeBody m body = .ok (.conditional S)) (hg : FlowGraph.ofBody body = .ok g)
    (hd : MethodDescriptor.parse m.descriptor = .ok d)
    (hslots : d.parameterSlots m.isStatic = [slot]) : g.ThrowsOnNull slot := by
  obtain ⟨g', d', hg', hd', hS⟩ := summarizeBody_eq_conditional h
  obtain rfl := Except.ok.inj (hg.symm.trans hg')
  obtain rfl := Except.ok.inj (hd.symm.trans hd')
  rintro ⟨path, hpath, hnone⟩
  obtain ⟨e, he, other, hother, hedge⟩ := hpath.finds_nonNull hS
  rw [hslots, List.mem_singleton] at hother
  exact hnone e he (hother ▸ hedge)

/-- Throws when both its parameters are null, which it tests one after the other. -/
def nestedGuards : Method where
  name := "m"
  descriptor := "(LA;LA;)V"
  isPublic := true
  isStatic := true
  isAbstract := false
  returnMark := .unknown
  parameterMarks := []
  maxLocals := 2
  maxStack := 1
  body := some {
    entry := 0
    exit := 4
    blocks := [⟨0, [⟨0, .load 0⟩, ⟨1, .ifNonNull⟩]⟩, ⟨1, [⟨2, .load 1⟩, ⟨3, .ifNonNull⟩]⟩,
      ⟨2, [⟨4, .new "E"⟩, ⟨5, .throw⟩]⟩, ⟨3, [⟨6, .return⟩]⟩, ⟨4, []⟩]
    edges := [⟨0, 1, .fallThrough⟩, ⟨0, 3, .branch⟩, ⟨1, 2, .fallThrough⟩, ⟨1, 3, .branch⟩,
      ⟨2, 4, .unhandledException⟩, ⟨3, 4, .fallThrough⟩] }
  dereferencedParameters := []

/-- The class of the method. -/
def nestedGuardsClass : ClassDecl where
  name := "A"
  superName := none
  interfaces := []
  isInterface := false
  isAbstract := false
  isApplication := true
  fields := []
  methods := [nestedGuards]

lemma summarize_nestedGuards :
    summarize nestedGuardsClass nestedGuards = .ok (some (.conditional (.ofList [0, 1]))) := by
  decide +kernel

/-- The method completes after finding the second parameter not to be null, whether or not it has
found the first not to be null. -/
theorem conditional_throws_iff_nestedGuards :
    ∃ body g d slot, nestedGuards.body = some body ∧ FlowGraph.ofBody body = .ok g ∧
      MethodDescriptor.parse nestedGuards.descriptor = .ok d ∧
      (d.parameterSlots nestedGuards.isStatic)[0]? = some slot ∧
      (∀ path, g.NormalPath path →
        ∃ other ∈ d.parameterSlots nestedGuards.isStatic, ∃ e ∈ path, g.NonNullEdge other e) ∧
      (g.ThrowsOnNull slot ↔
        ∀ path, g.NormalPath path → ∀ other ∈ d.parameterSlots nestedGuards.isStatic, other ≠ slot →
          (∃ e ∈ path, g.NonNullEdge other e) → ∃ e ∈ path, g.NonNullEdge slot e) :=
  conditional_throws_iff summarize_nestedGuards (by decide +kernel)

/-- **A conditional summary may list a parameter that may be null when the method returns.** The
summary of the method lists both parameters, but with the first null and the second not the method
returns. -/
theorem conditional_returns_nestedGuards :
    ∃ body g d, nestedGuards.body = some body ∧ FlowGraph.ofBody body = .ok g ∧
      MethodDescriptor.parse nestedGuards.descriptor = .ok d ∧
      (∀ b, ∀ op ∈ g.ops b, ∀ slot ∈ d.parameterSlots nestedGuards.isStatic, op ≠ .store slot) ∧
      summarize nestedGuardsClass nestedGuards = .ok (some (.conditional (.ofList [0, 1]))) ∧
      SortedSet.mem (.ofList [0, 1]) 0 = true ∧
      (d.parameterSlots nestedGuards.isStatic)[0]? = some 0 ∧
      ∃ path, g.NormalPath path ∧ ∀ e ∈ path, ¬ g.NonNullEdge 0 e := by
  refine ⟨_, _, _, rfl, eq_ok_get (by decide +kernel), eq_ok_get (by decide +kernel), ?_,
    summarize_nestedGuards, by decide +kernel, by decide +kernel, ?_⟩
  · decide +kernel
  · exact not_not.1 (by decide +kernel : ¬ FlowGraph.ThrowsOnNull _ 0)

end Nullness
