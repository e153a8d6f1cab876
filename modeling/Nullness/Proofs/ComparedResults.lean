import Mathlib.Tactic
import Nullness.Descriptor.Reader
import Nullness.CheckedCall
import Nullness.Proofs.Execution
import Nullness.Proofs.Transfer

/-!
# Compared results

Which value a block compares with null where it is taken to check a call. The code of a block runs
straight through, so every cell of the operand stack was there at first or has been pushed by one
instruction. Walking backwards over the effects of the instructions finds the null constant wherever
it lies. That the call has pushed a value is taken for granted: behind a call that returns nothing
the comparison is about a cell that the call has not pushed.

* `cellsAfter`: the stack behind straight-line code, cell by cell where it comes from;
* `fromNull_of_isNullAt`: the walk backwards finds a cell that the null constant has pushed;
* `ComparesWithNull`: the test at the end of some code compares a cell with null;
* `CheckedCalls.compares_result_iff`: **a block that checks a call compares what its last call has
  pushed, exactly if that call returns a value.**
-/

namespace Nullness

/-! ### Where cells come from -/

/-- Where a cell of the operand stack comes from while straight-line code runs. -/
inductive StackCell
  /-- It lay so many cells below the top at first. -/
  | given (fromTop : Nat)
  /-- The instruction at a position has pushed it, so many cells below the top. -/
  | pushed (position fromTop : Nat)
deriving DecidableEq

/-- The stack, top first, behind the instruction at a position: it takes its operands off and pushes
cells of its own. -/
def exchangeCells [DescriptorReader] (s : List StackCell) (op : Opcode) (position : Nat) : Option
    (List StackCell) :=
  match op.effect with
  | .error _ => none
  | .ok effect =>
    if effect.pops ≤ s.length then
      some ((List.range effect.pushes).map (.pushed position) ++ s.drop effect.pops)
    else none

/-- The stack behind straight-line code that starts with so many cells. There is none if these are
too few or an instruction has no effect. -/
def cellsAfter [DescriptorReader] (ops : List Opcode) (depth : Nat) : Option (List StackCell) :=
  ops.zipIdx.foldlM (fun s (op, position) => exchangeCells s op position)
    ((List.range depth).map .given)

lemma exchangeCells_eq_some_iff [DescriptorReader] {s s' : List StackCell} {op : Opcode}
    {position : Nat} :
    exchangeCells s op position = some s' ↔ ∃ effect, op.effect = .ok effect ∧
      effect.pops ≤ s.length ∧
      s' = (List.range effect.pushes).map (.pushed position) ++ s.drop effect.pops := by
  unfold exchangeCells
  cases op.effect with
  | error e => simp
  | ok effect => simp [eq_comm]

variable {ops : List Opcode} {depth : Nat} {s : List StackCell}

/-- The last instruction runs on what the code in front of it has left. -/
lemma cellsAfter_concat [DescriptorReader] {op : Opcode} : cellsAfter (ops ++ [op]) depth = some s ↔
    ∃ before effect, cellsAfter ops depth = some before ∧ op.effect = .ok effect ∧
      effect.pops ≤ before.length ∧
      s = (List.range effect.pushes).map (.pushed ops.length) ++ before.drop effect.pops := by
  rw [cellsAfter, List.zipIdx_append, List.foldlM_append]
  simp only [List.zipIdx_singleton, List.foldlM_cons, List.foldlM_nil, bind_pure, zero_add]
  rw [← cellsAfter, Option.bind_eq_bind, Option.bind_eq_some_iff]
  simp only [exchangeCells_eq_some_iff, exists_and_left]

/-- A pushed cell is an output of the instruction at its position. -/
lemma pushed_mem_cellsAfter [DescriptorReader] {position fromTop : Nat} :
    ∀ {ops : List Opcode} {s : List StackCell}, cellsAfter ops depth = some s →
      .pushed position fromTop ∈ s →
      ∃ op effect, ops[position]? = some op ∧ op.effect = .ok effect ∧ fromTop < effect.pushes := by
  intro ops
  induction ops using List.reverseRecOn with
  | nil =>
      intro s hs hmem
      obtain rfl : (List.range depth).map .given = s := Option.some.inj hs
      simp at hmem
  | append_singleton ops op ih =>
      intro s hs hmem
      obtain ⟨before, effect, hbefore, heffect, -, rfl⟩ := cellsAfter_concat.1 hs
      rcases List.mem_append.1 hmem with hnew | hold
      · obtain ⟨output, houtput, heq⟩ := List.mem_map.1 hnew
        cases heq
        exact ⟨op, effect, List.getElem?_concat_length, heffect, List.mem_range.1 houtput⟩
      · obtain ⟨op', effect', hop', heffect', hlt⟩ := ih hbefore (List.mem_of_mem_drop hold)
        refine ⟨op', effect', ?_, heffect', hlt⟩
        rw [List.getElem?_append_left (List.getElem?_eq_some_iff.1 hop').1, hop']

/-! ### The null constant -/

/-- A cell that the null constant has pushed. -/
def FromNull (ops : List Opcode) (c : StackCell) : Prop :=
  ∃ position, c = .pushed position 0 ∧ ops[position]? = some .constNull

lemma FromNull.append {c : StackCell} (h : FromNull ops c) (rest : List Opcode) :
    FromNull (ops ++ rest) c := by
  obtain ⟨position, hc, hop⟩ := h
  exact ⟨position, hc, by rw [List.getElem?_append_left (List.getElem?_eq_some_iff.1 hop).1, hop]⟩

/-- The walk backwards finds a cell that the null constant has pushed. An instruction that pushes
less than is still looked for has left the cell where it was, below its operands. -/
lemma fromNull_of_isNullAt [DescriptorReader] : ∀ {backwards : List Opcode} {needed : Nat}
    {s : List StackCell},
    isNullAt needed backwards = .ok true → cellsAfter backwards.reverse depth = some s →
    ∃ c, s[needed - 1]? = some c ∧ FromNull backwards.reverse c
  | [], _, _, h, _ => by simp [isNullAt] at h
  | op :: backwards, needed, s, h, hs => by
      rw [List.reverse_cons] at hs ⊢
      obtain ⟨before, effect, hbefore, heffect, hpops, rfl⟩ := cellsAfter_concat.1 hs
      rw [isNullAt, heffect] at h
      simp only at h
      split at h
      · cases h
      · split at h
        · -- the instruction has pushed the cell
          obtain rfl := of_decide_eq_true (Except.ok.inj h)
          cases heffect
          rename_i hneeded
          subst hneeded
          exact ⟨_, rfl, _, rfl, List.getElem?_concat_length⟩
        · obtain ⟨below, hword, h⟩ := bind_eq_ok_iff.1 h
          obtain ⟨-, rfl⟩ := word_eq_ok_iff.1 hword
          obtain ⟨c, hc, hnull⟩ := fromNull_of_isNullAt h hbefore
          refine ⟨c, ?_, hnull.append _⟩
          rw [List.getElem?_append_right (by simp; omega), List.getElem?_drop, List.length_map,
            List.length_range, ← hc]
          congr 1
          omega

/-! ### Comparisons with null -/

/-- The kind of edge on which a test finds its operands to differ, or its operand not to be null. -/
def nonNullEdge? : Opcode → Option EdgeKind
  | .ifNull | .ifRefEq => some .fallThrough
  | .ifNonNull | .ifRefNe => some .branch
  | _ => none

/-- The test at the end of some code compares a cell of the stack in front of it with null. -/
structure ComparesWithNull (ops : List Opcode) (s : List StackCell) (c : StackCell)
    (kind : EdgeKind) : Prop where
  /-- The cell is the only operand, or the null constant has pushed the other one. -/
  operands : ∃ test rest, ops.getLast? = some test ∧
    (test.isNullTest = true ∧ s = c :: rest ∨ (test = .ifRefEq ∨ test = .ifRefNe) ∧
      ∃ null, FromNull ops null ∧ (s = c :: null :: rest ∨ s = null :: c :: rest))
  /-- Values other than null are those that pick an edge of the kind. -/
  picks : ∀ value : StackCell → Value, (∀ null, FromNull ops null → value null = .null) →
    ∀ test, ops.getLast? = some test →
      (Machine.picked? ops.dropLast.getLast? test (s.map fun c => some (value c)) = some kind ↔
        value c ≠ .null)

lemma picked?_isNullTest {test : Opcode} {kind : EdgeKind} (htest : test.isNullTest = true)
    (hkind : nonNullEdge? test = some kind) (before : Option Opcode) (v : Cell) (rest : List Cell) :
    Machine.picked? before test (v :: rest) = some kind ↔ v ≠ some .null := by
  cases test with
  | ifNull | ifNonNull =>
      cases hkind
      by_cases hv : v = some .null <;> simp [Machine.picked?, hv]
  | _ => cases htest

lemma picked?_comparison {test : Opcode} {kind : EdgeKind}
    (htest : test = .ifRefEq ∨ test = .ifRefNe) (hkind : nonNullEdge? test = some kind)
    (before : Option Opcode) (v w : Cell) (rest : List Cell) :
    Machine.picked? before test (v :: w :: rest) = some kind ↔ v ≠ w := by
  rcases htest with rfl | rfl <;> cases hkind <;> by_cases hv : v = w <;> simp [Machine.picked?, hv]

lemma comparesWithNull_isNullTest {test : Opcode} {kind : EdgeKind} {c : StackCell}
    (htest : test.isNullTest = true) (hkind : nonNullEdge? test = some kind)
    (rest : List StackCell) : ComparesWithNull (ops ++ [test]) (c :: rest) c kind where
  operands := ⟨test, rest, List.getLast?_concat, .inl ⟨htest, rfl⟩⟩
  picks value _ test' htest' := by
    obtain rfl := Option.some.inj (List.getLast?_concat.symm.trans htest')
    rw [List.map_cons, picked?_isNullTest htest hkind, Ne, Option.some_inj]

lemma comparesWithNull_comparison {test : Opcode} {kind : EdgeKind} {c null : StackCell}
    (htest : test = .ifRefEq ∨ test = .ifRefNe) (hkind : nonNullEdge? test = some kind)
    (hnull : FromNull ops null) {rest : List StackCell}
    (hs : s = c :: null :: rest ∨ s = null :: c :: rest) :
    ComparesWithNull (ops ++ [test]) s c kind where
  operands := ⟨test, rest, List.getLast?_concat, .inr ⟨htest, null, hnull.append _, hs⟩⟩
  picks value hvalue test' htest' := by
    obtain rfl := Option.some.inj (List.getLast?_concat.symm.trans htest')
    have hvalue := hvalue null (hnull.append _)
    rcases hs with rfl | rfl
    · rw [List.map_cons, List.map_cons, picked?_comparison htest hkind, hvalue, Ne, Option.some_inj]
    · rw [List.map_cons, List.map_cons, picked?_comparison htest hkind, hvalue, Ne, Option.some_inj,
        eq_comm]

lemma ComparesWithNull.mem {c : StackCell} {kind : EdgeKind} (h : ComparesWithNull ops s c kind) :
    c ∈ s := by
  obtain ⟨_, _, -, ⟨-, rfl⟩ | ⟨-, _, -, rfl | rfl⟩⟩ := h.operands <;> simp

/-! ### The last call -/

/-- The last call of some code, at its position. -/
def LastCall (ops : List Opcode) (position : Nat) (call : CallSite) : Prop :=
  ∃ before rest, ops = before ++ .invoke call :: rest ∧ before.length = position ∧
    ∀ other, .invoke other ∉ rest

/-- A call pushes one cell, or none if it returns nothing. -/
lemma effect_invoke_pushes [DescriptorReader] {call : CallSite} {effect : StackEffect}
    (heffect : (Opcode.invoke call).effect = .ok effect) :
    effect.pushes = 1 ∧ call.returnKind ≠ .ok .void ∨
      effect.pushes = 0 ∧ call.returnKind = .ok .void := by
  cases hd : MethodDescriptor.parse call.descriptor with
  | error e =>
      rw [Opcode.effect, hd] at heffect
      cases heffect
  | ok d =>
      obtain rfl := Except.ok.inj ((Opcode.effect_invoke hd).symm.trans heffect)
      rw [CallSite.returnKind_eq hd]
      by_cases hvoid : d.returnKind = .void <;> simp [hvoid]

/-- The code that is taken to check a call: the call comes right before the test, or only the null
constant comes between, or lies below the arguments of the call. -/
lemma checkedEdge?_reverse [DescriptorReader] {d : CheckedEdge}
    (h : checkedEdge? ops.reverse = .ok (some d)) :
    ∃ before call test, call.name = d.name ∧ nonNullEdge? test = some d.kind ∧
      (test.isNullTest = true ∧ ops = before ++ [.invoke call] ++ [test] ∨
      (test = .ifRefEq ∨ test = .ifRefNe) ∧
        (ops = before ++ [.invoke call] ++ [.constNull] ++ [test] ∨
        ops = before ++ [.invoke call] ++ [test] ∧ ∃ effect,
          (Opcode.invoke call).effect = .ok effect ∧
          isNullAt (2 + effect.pops - effect.pushes) before.reverse = .ok true)) := by
  have hops : ∀ {backwards : List Opcode}, ops.reverse = backwards → ops = backwards.reverse :=
    fun hback => by rw [← hback, List.reverse_reverse]
  obtain ⟨test, call, before, hname, ⟨hback, htest⟩ | ⟨hback, hcall, htest⟩⟩ := checkedEdge?_cases h
  · refine ⟨before.reverse, call, test, hname, ?_, .inl ⟨?_, by simpa using hops hback⟩⟩
    · obtain ⟨rfl, hkind⟩ | ⟨rfl, hkind⟩ := htest <;> rw [hkind] <;> rfl
    · obtain ⟨rfl, -⟩ | ⟨rfl, -⟩ := htest <;> rfl
  · have hkind : nonNullEdge? test = some d.kind := by
      obtain ⟨rfl, hkind⟩ | ⟨rfl, hkind⟩ := htest <;> rw [hkind] <;> rfl
    have hcomparison : test = .ifRefEq ∨ test = .ifRefNe := htest.imp And.left And.left
    obtain ⟨rest, rfl | ⟨rfl, effect, heffect, hnull⟩⟩ := comparedCall?_cases hcall
    · exact ⟨rest.reverse, call, test, hname, hkind,
        .inr ⟨hcomparison, .inl (by simpa using hops hback)⟩⟩
    · refine ⟨rest.reverse, call, test, hname, hkind,
        .inr ⟨hcomparison, .inr ⟨by simpa using hops hback, effect, heffect, ?_⟩⟩⟩
      rwa [List.reverse_reverse]

/-- A call that returns a value leaves it on top of what lay below its arguments. -/
lemma cellsAfter_invoke [DescriptorReader] {before : List Opcode} {call : CallSite}
    (hs : cellsAfter (before ++ [.invoke call]) depth = some s)
    (hreturns : call.returnKind ≠ .ok .void) : ∃ effect s₀,
      (Opcode.invoke call).effect = .ok effect ∧ effect.pushes = 1 ∧
      cellsAfter before depth = some s₀ ∧
      s = .pushed before.length 0 :: s₀.drop effect.pops := by
  obtain ⟨s₀, effect, hbefore, heffect, -, rfl⟩ := cellsAfter_concat.1 hs
  obtain ⟨hpushes, -⟩ | ⟨-, hvoid⟩ := effect_invoke_pushes heffect
  · exact ⟨effect, s₀, heffect, hpushes, hbefore, by rw [hpushes]; rfl⟩
  · exact absurd hvoid hreturns

/-- A comparison of the cell that a call pushes is one of a value that the call returns. -/
lemma ComparesWithNull.returns [DescriptorReader] {before rest : List Opcode} {call : CallSite}
    {fromTop : Nat}
    {kind : EdgeKind}
    (hs : cellsAfter (before ++ .invoke call :: rest) depth = some s)
    (h : ComparesWithNull ops s (.pushed before.length fromTop) kind) :
    call.returnKind ≠ .ok .void := by
  obtain ⟨op, effect, hop, heffect, hlt⟩ := pushed_mem_cellsAfter hs h.mem
  rw [List.getElem?_append_right le_rfl, Nat.sub_self, List.getElem?_cons_zero] at hop
  obtain rfl := Option.some.inj hop
  obtain ⟨-, hreturns⟩ | ⟨hpushes, -⟩ := effect_invoke_pushes heffect
  · exact hreturns
  · omega

namespace CheckedCalls

variable {g : FlowGraph} {b : g.Node} {d : CheckedEdge}

/-- **A block that checks a call compares what its last call has pushed, exactly if that call
returns a value.** The name and the edge are those of this call and of this comparison. -/
theorem compares_result_iff [DescriptorReader] (hd : checkedAtEnd? g b = some d) :
    ∃ position call, LastCall (g.ops b) position call ∧ call.name = d.name ∧
      ∀ depth s, cellsAfter (g.ops b).dropLast depth = some s →
        (ComparesWithNull (g.ops b) s (.pushed position 0) d.kind ↔
          call.returnKind ≠ .ok .void) := by
  obtain ⟨before, call, test, hname, hkind, hforms⟩ :=
    checkedEdge?_reverse (checkedAtEnd?_eq_some_iff.1 hd)
  have htest : ∀ other, .invoke other ≠ test := by
    rintro other rfl
    cases hkind
  refine ⟨before.length, call, ?_, hname, fun depth s hs => ?_⟩
  · obtain ⟨-, hops⟩ | ⟨-, hops | ⟨hops, -⟩⟩ := hforms
    · exact ⟨before, [test], by rw [hops, List.append_assoc]; rfl, rfl, by simpa using htest⟩
    · exact ⟨before, [.constNull, test],
        by rw [hops, List.append_assoc, List.append_assoc]; rfl, rfl, by simpa using htest⟩
    · exact ⟨before, [test], by rw [hops, List.append_assoc]; rfl, rfl, by simpa using htest⟩
  · obtain ⟨hnull, hops⟩ | ⟨hcomparison, hops | ⟨hops, effect, heffect, hfound⟩⟩ := hforms
    · rw [hops, List.dropLast_concat] at hs
      refine ⟨fun h => h.returns hs, fun hreturns => ?_⟩
      obtain ⟨_, _, -, -, -, rfl⟩ := cellsAfter_invoke hs hreturns
      rw [hops]
      exact comparesWithNull_isNullTest hnull hkind _
    · rw [hops, List.dropLast_concat] at hs
      refine ⟨fun h => h.returns (by simpa using hs), fun hreturns => ?_⟩
      -- the null constant lies on top of the result
      obtain ⟨s₁, _, hs₁, hconst, -, rfl⟩ := cellsAfter_concat.1 hs
      cases hconst
      obtain ⟨_, _, -, -, -, rfl⟩ := cellsAfter_invoke hs₁ hreturns
      rw [hops]
      exact comparesWithNull_comparison hcomparison hkind ⟨_, rfl, List.getElem?_concat_length⟩
        (.inr rfl)
    · rw [hops, List.dropLast_concat] at hs
      refine ⟨fun h => h.returns hs, fun hreturns => ?_⟩
      -- the null constant lies below what the call has taken
      obtain ⟨effect', s₀, heffect', hpushes, hs₀, rfl⟩ := cellsAfter_invoke hs hreturns
      obtain rfl := Except.ok.inj (heffect.symm.trans heffect')
      obtain ⟨null, hnull, hfrom⟩ := fromNull_of_isNullAt hfound
        (by rwa [List.reverse_reverse])
      rw [List.reverse_reverse] at hfrom
      have hbelow : s₀.drop effect.pops = null :: s₀.drop (effect.pops + 1) := by
        have hindex : 2 + effect.pops - effect.pushes - 1 = effect.pops := by omega
        rw [hindex] at hnull
        obtain ⟨hlt, heq⟩ := List.getElem?_eq_some_iff.1 hnull
        rw [List.drop_eq_getElem_cons hlt, heq]
      rw [hops, hbelow]
      exact comparesWithNull_comparison hcomparison hkind (hfrom.append _) (.inl rfl)

/-- A body that starts with a call and a test, and goes on one way or the other. -/
def testedCallBody (front : List Opcode) (call : CallSite) (test : Opcode) : Body where
  entry := 0
  exit := 3
  blocks := [⟨0, (front ++ [.invoke call, test]).map (⟨0, ·⟩)⟩, ⟨1, [⟨0, .return⟩]⟩,
    ⟨2, [⟨0, .return⟩]⟩, ⟨3, []⟩]
  edges := [⟨0, 1, .fallThrough⟩, ⟨0, 2, .branch⟩, ⟨1, 3, .fallThrough⟩, ⟨2, 3, .fallThrough⟩]

/-- Compares null with the result of a call. -/
def testedGetter : FlowGraph :=
  (FlowGraph.ofBody (testedCallBody [.constNull, .load 0]
    ⟨"A", "get", "()LA;", .virtual⟩ .ifRefNe)).toOption.get (by decide +kernel)

/-- Loads a local variable, calls a method that returns nothing, and then tests the variable. -/
def testedProcedure : FlowGraph :=
  (FlowGraph.ofBody (testedCallBody [.load 0]
    ⟨"A", "run", "()V", .static⟩ .ifNull)).toOption.get (by decide +kernel)

/-- The result of the getter is compared. -/
theorem compares_result_iff_testedGetter :
    checkedAtEnd? testedGetter testedGetter.entry = some ⟨"get", .branch⟩ ∧
    ∃ position call s, LastCall (testedGetter.ops testedGetter.entry) position call ∧
      cellsAfter (testedGetter.ops testedGetter.entry).dropLast 0 = some s ∧
      ComparesWithNull (testedGetter.ops testedGetter.entry) s (.pushed position 0) .branch := by
  have hd : checkedAtEnd? testedGetter testedGetter.entry = some ⟨"get", .branch⟩ := by
    decide +kernel
  obtain ⟨position, call, hlast, -, hcompares⟩ := compares_result_iff hd
  have hcall : call = ⟨"A", "get", "()LA;", .virtual⟩ := by
    obtain ⟨before, rest, hops, -, -⟩ := hlast
    have hmem : .invoke call ∈ testedGetter.ops testedGetter.entry := by rw [hops]; simp
    have hall : ∀ op ∈ testedGetter.ops testedGetter.entry,
        op = .constNull ∨ op = .load 0 ∨ op = .invoke ⟨"A", "get", "()LA;", .virtual⟩ ∨
          op = .ifRefNe := by decide +kernel
    simpa using hall _ hmem
  obtain ⟨s, hs⟩ : ∃ s, cellsAfter (testedGetter.ops testedGetter.entry).dropLast 0 = some s :=
    Option.isSome_iff_exists.1 (by decide +kernel)
  exact ⟨hd, position, call, s, hlast, hs, (hcompares 0 s hs).2 (by rw [hcall]; decide +kernel)⟩

/-- **A call that returns nothing may count as checked.** The test is about the local variable,
which lay on the stack before the call. -/
theorem compares_local_testedProcedure :
    checkedAtEnd? testedProcedure testedProcedure.entry = some ⟨"run", .fallThrough⟩ ∧
    LastCall (testedProcedure.ops testedProcedure.entry) 1 ⟨"A", "run", "()V", .static⟩ ∧
    ∃ s, cellsAfter (testedProcedure.ops testedProcedure.entry).dropLast 0 = some s ∧
      ComparesWithNull (testedProcedure.ops testedProcedure.entry) s (.pushed 0 0) .fallThrough ∧
      ∀ fromTop kind, ¬ ComparesWithNull (testedProcedure.ops testedProcedure.entry) s
        (.pushed 1 fromTop) kind := by
  have hops : testedProcedure.ops testedProcedure.entry
      = [.load 0, .invoke ⟨"A", "run", "()V", .static⟩] ++ [.ifNull] := by decide +kernel
  rw [hops]
  refine ⟨by decide +kernel, ⟨[.load 0], [.ifNull], rfl, rfl, by simp⟩, [.pushed 0 0],
    by decide +kernel, comparesWithNull_isNullTest rfl rfl _, fun fromTop kind h => ?_⟩
  simpa using h.mem

end CheckedCalls

end Nullness
