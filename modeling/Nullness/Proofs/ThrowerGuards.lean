import Mathlib.Tactic
import Nullness.Descriptor.Reader
import Nullness.Proofs.DefiniteValues
import Nullness.Proofs.Throwers

/-!
# Calls of throwers

A call of a thrower without arguments guards a local variable, on the ground that the method would have
left before if the variable were null. That is so where every path to the call falls through from a test
of the variable. The variable is that of the nearest test, though, whichever way leads from the test to
the call.

* `FlowGraph.NullBefore`, `FlowGraph.nullBefore_iff`: variables that are found to be null on every path to
  a block, and how to tell;
* `NullModel.nearestTest?_eq_some`: the test that is found is on a shortest way;
* `NullModel.thrower_guards_iff`: **which variable a call of a thrower guards, and when it is the right
  one**;
* `NullModel.thrower_guards_unguardedFail`: a call guards a variable that may be null there.
-/

namespace Nullness

namespace FlowGraph

variable {g : FlowGraph} {slot : Nat} {b : g.Node}

/-! ### Tests on the way -/

/-- A block ends by testing a local variable, and falls through when it is null. -/
def TestsNull (g : FlowGraph) (slot : Nat) (b : g.Node) : Prop :=
  ∃ before, g.ops b = before ++ [.load slot, .ifNonNull]

/-- A variable is found to be null before a block: every path from the entry falls through from one
test of the variable. -/
def NullBefore (g : FlowGraph) (slot : Nat) (b : g.Node) : Prop :=
  ∃ test, g.TestsNull slot test ∧
    ∀ path, g.Path g.entry path b → ∃ e ∈ path, e.source = test ∧ e.kind = .fallThrough

/-- The blocks to which control may come without falling through from a block. -/
def blocksAround (g : FlowGraph) (test : g.Node) : List g.Node :=
  reachableFrom (fun b => ((g.outgoing b).filter fun e =>
    !(e.source = test && e.kind = .fallThrough)).map (·.target)) g.edges.length g.entry

lemma nullBefore_iff :
    g.NullBefore slot b ↔ ∃ test, g.TestsNull slot test ∧ b ∉ g.blocksAround test := by
  have haround : ∀ test, b ∉ g.blocksAround test ↔
      ∀ path, g.Path g.entry path b → ∃ e ∈ path, e.source = test ∧ e.kind = .fallThrough := by
    intro test
    rw [blocksAround, mem_reachableAlong]
    simp
  simp only [NullBefore, haround]

end FlowGraph

namespace NullModel

open FlowGraph

variable {g : FlowGraph} {m : NullModel g} {b : g.Node} {index slot : Nat} {call : CallSite}
  {f f' : NullFrame}

/-! ### The nearest test -/

lemma guardLocal?_eq_some_iff : guardLocal? b = some slot ↔ g.TestsNull slot b := by
  rw [TestsNull, ← ops_ends_iff]
  constructor
  · intro h
    unfold guardLocal? at h
    split at h
    · rename_i hlast hload
      obtain rfl := Option.some.inj h
      exact ⟨hlast, hload⟩
    · cases h
  · rintro ⟨hlast, hload⟩
    rw [guardLocal?, hlast, hload]

/-- The variable of the nearest test on a way to a block. -/
def nearestTest? (b : g.Node) : Option Nat :=
  (reachableFrom (fun b => (g.incoming b).map (·.source)) g.edges.length b).findSome? guardLocal?

lemma nearestTest?_eq_none_iff : nearestTest? b = none ↔
    ∀ slot test path, g.TestsNull slot test → ¬ g.Path test path b := by
  simp only [nearestTest?, List.findSome?_eq_none_iff, mem_reachableBack]
  constructor
  · intro hnone slot test path htest hpath
    rw [← guardLocal?_eq_some_iff, hnone test ⟨path, hpath⟩] at htest
    cases htest
  · rintro hnone test ⟨path, hpath⟩
    refine Option.eq_none_iff_forall_ne_some.2 fun slot hslot => ?_
    exact hnone slot test path (guardLocal?_eq_some_iff.1 hslot) hpath

/-- No way from a test to the block is shorter. -/
lemma nearestTest?_eq_some (h : nearestTest? b = some slot) :
    ∃ test path, g.TestsNull slot test ∧ g.Path test path b ∧
      ∀ slot' test' path', g.TestsNull slot' test' → g.Path test' path' b →
        path.length ≤ path'.length := by
  obtain ⟨before, test, after, hlist, htest, hbefore⟩ := List.findSome?_eq_some_iff.1 h
  have hlisted : test ∈ reachableFrom (fun b => (g.incoming b).map (·.source)) g.edges.length b := by
    rw [hlist]
    exact List.mem_append_right _ List.mem_cons_self
  -- every test with a path to the block bounds the number of steps to the listed one
  have hnear : ∀ slot' test' path', g.TestsNull slot' test' → g.Path test' path' b →
      ∃ path, g.Path test path b ∧ path.length ≤ path'.length := by
    intro slot' test' path' htest' hpath'
    have hnot : test' ∉ before := by
      intro hmem
      have hnone := hbefore test' hmem
      rw [guardLocal?_eq_some_iff.2 htest'] at hnone
      cases hnone
    obtain ⟨k, hk, hsteps⟩ :=
      reachableFrom_nearest hlist hnot (stepsTo_incoming_iff.2 ⟨path', hpath', rfl⟩)
    obtain ⟨path, hpath, rfl⟩ := stepsTo_incoming_iff.1 hsteps
    exact ⟨path, hpath, hk⟩
  have hexists : ∃ n path, g.Path test path b ∧ path.length = n := by
    obtain ⟨path, hpath⟩ := mem_reachableBack.1 hlisted
    exact ⟨_, path, hpath, rfl⟩
  classical
  obtain ⟨path, hpath, hlength⟩ := Nat.find_spec hexists
  refine ⟨test, path, guardLocal?_eq_some_iff.1 htest, hpath, ?_⟩
  intro slot' test' path' htest' hpath'
  obtain ⟨shorter, hshorter, hle⟩ := hnear slot' test' path' htest' hpath'
  rw [hlength]
  exact (Nat.find_min' hexists ⟨shorter, hshorter, rfl⟩).trans hle

/-! ### The guarded variable -/

lemma guardBeforeThrower_eq : guardBeforeThrower b f =
    match nearestTest? b with
    | none => .ok f
    | some slot => f.setLocal slot .nonNullGuarded := rfl

/-- What a static call of a thrower without arguments tells. -/
lemma summarized_thrower [DescriptorReader] (hstatic : call.kind = .static)
    (hthrows : m.summaries.get ((m.hierarchy.targets call).head?.getD call.declared) = .alwaysThrows)
    (hcount : call.consumed = .ok 0) :
    m.summarized b index call f = guardBeforeThrower b f := by
  rw [summarized, if_pos hstatic, applySummary, hthrows, hcount]
  rfl

/-- What a call has done to the variables is right: where a variable has changed, it was found to be
null on every path to the call. Without such variables nothing has changed. -/
def RightlyGuarded (b : g.Node) (f f' : NullFrame) : Prop :=
  (∀ slot, f'.locals[slot]? ≠ f.locals[slot]? → g.NullBefore slot b) ∧
    ((∀ slot, ¬ g.NullBefore slot b) → f' = f)

/-- A write to one variable is right if the variable had the value or was found to be null. -/
lemma rightlyGuarded_setLocal {v : Nullity} (h : slot < f.numLocals) :
    RightlyGuarded b f { f with locals := f.locals.set slot v } ↔
      f.locals[slot]? = some v ∨ g.NullBefore slot b := by
  have hslot : (f.locals.set slot v)[slot]? = some v := List.getElem?_set_self h
  constructor
  · rintro ⟨hchanged, -⟩
    rw [or_iff_not_imp_left]
    intro hne
    exact hchanged slot fun heq => hne (heq ▸ hslot)
  · rintro (hsame | hnull)
    · have hset : f.locals.set slot v = f.locals := by
        obtain ⟨_, rfl⟩ := List.getElem?_eq_some_iff.1 hsame
        exact List.set_getElem_self _
      exact ⟨fun _ hne => absurd (by rw [hset]) hne, fun _ => by rw [hset]⟩
    · refine ⟨fun other hne => ?_, fun hnone => absurd hnull (hnone slot)⟩
      by_cases hother : slot = other
      · exact hother ▸ hnull
      · exact absurd (List.getElem?_set_ne hother) hne

/-- **Which variable a call of a thrower guards.** It is the variable of a test from which a path
leads to the call, and no path from another test is shorter. That is right exactly when the variable
was guarded already, or control cannot come to the call without falling through from some test of
the variable. -/
theorem thrower_guards_iff [DescriptorReader] (hstatic : call.kind = .static)
    (hthrows : m.summaries.get ((m.hierarchy.targets call).head?.getD call.declared) = .alwaysThrows)
    (hcount : call.consumed = .ok 0) (h : m.summarized b index call f = .ok f') :
    ((∀ slot test path, g.TestsNull slot test → ¬ g.Path test path b) ∧ f' = f) ∨
      ∃ slot test path, g.TestsNull slot test ∧ g.Path test path b ∧
        (∀ slot' test' path', g.TestsNull slot' test' → g.Path test' path' b →
          path.length ≤ path'.length) ∧
        slot < f.numLocals ∧ f' = { f with locals := f.locals.set slot .nonNullGuarded } ∧
        (RightlyGuarded b f f' ↔ f.locals[slot]? = some .nonNullGuarded ∨
          ∃ test', g.TestsNull slot test' ∧ b ∉ g.blocksAround test') := by
  rw [summarized_thrower hstatic hthrows hcount, guardBeforeThrower_eq] at h
  cases hnearest : nearestTest? b with
  | none =>
      rw [hnearest] at h
      exact .inl ⟨nearestTest?_eq_none_iff.1 hnearest, (Except.ok.inj h).symm⟩
  | some slot =>
      rw [hnearest] at h
      obtain ⟨hslot, rfl⟩ := Frame.setLocal_eq_ok_iff.1 h
      obtain ⟨test, path, htest, hpath, hmin⟩ := nearestTest?_eq_some hnearest
      refine .inr ⟨slot, test, path, htest, hpath, hmin, hslot, rfl, ?_⟩
      rw [rightlyGuarded_setLocal hslot, nullBefore_iff]

end NullModel

namespace MethodAnalysis

open NullModel

/-- A method that tests its parameter and calls a thrower where it is null. -/
def guardedFail : Method where
  name := "m"
  descriptor := "(LA;)V"
  isPublic := true
  isStatic := true
  isAbstract := false
  returnMark := .unknown
  parameterMarks := []
  maxLocals := 1
  maxStack := 1
  body := some {
    entry := 0
    exit := 3
    blocks := [⟨0, [⟨0, .load 0⟩, ⟨1, .ifNonNull⟩]⟩,
      ⟨1, [⟨2, .invoke ⟨"A", "fail", "()V", .static⟩⟩]⟩, ⟨2, [⟨3, .return⟩]⟩, ⟨3, []⟩]
    edges := [⟨0, 2, .branch⟩, ⟨0, 1, .fallThrough⟩, ⟨1, 2, .branch⟩, ⟨2, 3, .fallThrough⟩] }
  dereferencedParameters := []

/-- The same, where the call follows when the two ways have met again. -/
def unguardedFail : Method :=
  { guardedFail with body := guardedFail.body.map fun body =>
    { body with blocks := [⟨0, [⟨0, .load 0⟩, ⟨1, .ifNonNull⟩]⟩, ⟨1, [⟨2, .goto⟩]⟩,
        ⟨2, [⟨3, .invoke ⟨"A", "fail", "()V", .static⟩⟩, ⟨4, .return⟩]⟩, ⟨3, []⟩] } }

/-- The call of the thrower. -/
def failCall : CallSite := ⟨"A", "fail", "()V", .static⟩

/-- The program with the summary of the thrower. -/
def failContext : AnalysisContext :=
  ⟨.default, ⟨[shortcutClass]⟩, ⟨.ofList [(failCall.declared, .alwaysThrows)]⟩⟩

/-- The analysis of the method that calls the thrower in the branch. -/
def guardedFailAnalysis : MethodAnalysis :=
  (ofMethod failContext shortcutClass guardedFail).toOption.get (by decide +kernel)

/-- The analysis of the method that calls the thrower behind the branch. -/
def unguardedFailAnalysis : MethodAnalysis :=
  (ofMethod failContext shortcutClass unguardedFail).toOption.get (by decide +kernel)

/-- Where the thrower is called only when the parameter is null, guarding the parameter is right. -/
theorem thrower_guards_iff_guardedFail :
    ofMethod failContext shortcutClass guardedFail = .ok guardedFailAnalysis ∧
      ∃ (b : guardedFailAnalysis.graph.Node) (f' : NullFrame),
        guardedFailAnalysis.model.summarized b 0 failCall (guardedFailAnalysis.factAt b 0) = .ok f' ∧
          (guardedFailAnalysis.factAt b 0).locals = [.definitelyNull] ∧
          f'.locals = [.nonNullGuarded] ∧ RightlyGuarded b (guardedFailAnalysis.factAt b 0) f' := by
  let b : guardedFailAnalysis.graph.Node := ⟨1, by decide +kernel⟩
  obtain ⟨f', hf', hlocals⟩ : ∃ f',
      guardedFailAnalysis.model.summarized b 0 failCall (guardedFailAnalysis.factAt b 0) = .ok f' ∧
        f'.locals = [.nonNullGuarded] := ⟨_, eq_ok_get (by decide +kernel), by decide +kernel⟩
  refine ⟨eq_ok_get (by decide +kernel), b, f', hf', by decide +kernel, hlocals, ?_⟩
  rcases thrower_guards_iff rfl (by decide +kernel) (by decide +kernel) hf' with
    ⟨-, hsame⟩ | ⟨slot, -, -, -, -, -, hslot, -, hiff⟩
  · rw [hsame] at hlocals
    exact absurd hlocals (by decide +kernel)
  · obtain rfl : slot = 0 := Nat.lt_one_iff.1 hslot
    exact hiff.2 (.inr ⟨guardedFailAnalysis.graph.entry, ⟨[], by decide +kernel⟩, by decide +kernel⟩)

/-- **A call of a thrower guards a variable that may be null there.** No test decides whether the
thrower is called, and yet the parameter counts as not null behind the call. -/
theorem thrower_guards_unguardedFail :
    ofMethod failContext shortcutClass unguardedFail = .ok unguardedFailAnalysis ∧
      ∃ (b : unguardedFailAnalysis.graph.Node) (f' : NullFrame),
        (unguardedFailAnalysis.graph.ops b)[0]? = some (.invoke failCall) ∧
          failCall.kind = .static ∧ failCall.consumed = .ok 0 ∧
          failContext.summaries.get failCall.declared = .alwaysThrows ∧
          (unguardedFailAnalysis.factAt b 0).locals = [.nullOnSomePath] ∧
          unguardedFailAnalysis.model.summarized b 0 failCall (unguardedFailAnalysis.factAt b 0)
            = .ok f' ∧
          f'.locals = [.nonNullGuarded] ∧
          ¬ unguardedFailAnalysis.graph.NullBefore 0 b := by
  let b : unguardedFailAnalysis.graph.Node := ⟨2, by decide +kernel⟩
  let e : unguardedFailAnalysis.graph.Arc := ⟨unguardedFailAnalysis.graph.entry, b, .branch⟩
  have he : e ∈ unguardedFailAnalysis.graph.edges := by decide +kernel
  refine ⟨eq_ok_get (by decide +kernel), b, _, by decide +kernel, rfl, by decide +kernel,
    by decide +kernel, by decide +kernel, eq_ok_get (by decide +kernel), by decide +kernel, ?_⟩
  rintro ⟨test, -, hall⟩
  obtain ⟨e', he', -, hkind⟩ := hall [e] (FlowGraph.Path.stay.cross he)
  obtain rfl := List.mem_singleton.1 he'
  cases hkind

end MethodAnalysis

end Nullness
