import Mathlib.Tactic
import Nullness.Proofs.CheckedCalls
import Nullness.Proofs.FrameDepths
import Nullness.Proofs.NumberedDepths
import Nullness.Proofs.SessionReports

/-!
# Sizes

The analysis of a method ends the run when a count is no machine word, or a size is one that no
object can have. All of these numbers are bounded by what a program says of its methods: how many
local variables and stack cells a method has, how many blocks and instructions, and how many cells
the instructions take. All other failures concern the method alone.

* `FlowGraph.Fits`, `Method.Fits`, `Program.Fits`: the numbers are small enough;
* `RunsOn`: a computation that does not end the run, and its rules;
* `MethodAnalysis.runsOn_ofMethod`: **the analysis of a method that fits does not end the run;**
* `analyse_of_fits`: a session reports on all methods of a program that fits.
-/

namespace Nullness

/-! ### Computations that do not end the run -/

/-- A computation that may fail, but does not end the run. -/
def RunsOn {α : Type} (x : Except Error α) : Prop := ∀ e, x = .error e → e.endsRun = false

namespace RunsOn

variable {α β : Type}

lemma ok (a : α) : RunsOn (.ok a : Except Error α) := nofun

lemma error {e : Error} (h : e.endsRun = false) : RunsOn (.error e : Except Error α) := by
  rintro _ ⟨⟩
  exact h

lemma bind {x : Except Error α} {f : α → Except Error β} (hx : RunsOn x)
    (hf : ∀ a, x = .ok a → RunsOn (f a)) : RunsOn (x >>= f) := fun e he =>
  (bind_eq_error_iff.1 he).elim (hx e) fun ⟨a, ha, h⟩ => hf a ha e h

lemma inContext {x : Except Error α} (hx : RunsOn x) (context : Context) :
    RunsOn (Nullness.inContext context x) := by
  cases x with
  | error cause => exact .error (hx cause rfl)
  | ok a => exact .ok a

lemma foldlM {f : β → α → Except Error β} (hf : ∀ b a, RunsOn (f b a)) :
    ∀ (l : List α) (b : β), RunsOn (l.foldlM f b)
  | [], b => .ok b
  | a :: l, b => (hf b a).bind fun b' _ => foldlM hf l b'

end RunsOn

/-! ### Graphs -/

variable [DescriptorReader]

/-- The numbers of a graph are small enough for a method with so many local variables and stack
cells: those of the passes that an iteration may take, and those of the cells that each block
takes. -/
structure FlowGraph.Fits (g : FlowGraph) (numLocals maxStack : Nat) : Prop where
  passes : max g.size 1 *
    ((numLocals + maxStack + g.instructionCount) * (Nullity.height + 1) + 3) + 1 < wordSize
  cells : ∀ b, 2 + CheckedCalls.cellsTaken (g.ops b) < wordSize

instance (g : FlowGraph) (numLocals maxStack : Nat) : Decidable (g.Fits numLocals maxStack) :=
  decidable_of_iff (_ ∧ _) ⟨fun h => ⟨h.1, h.2⟩, fun h => ⟨h.passes, h.cells⟩⟩

omit [DescriptorReader] in
/-- A set has no more members than the list that it is made of. -/
lemma SortedSet.size_ofList_le (l : List String) : (SortedSet.ofList l).size ≤ l.length := by
  have hnodup : (SortedSet.ofList l).toList.Nodup :=
    (SortedSet.ofList l).toList_ascending.imp fun hlt heq => by simp [heq] at hlt
  have hsub : ∀ n ∈ (SortedSet.ofList l).toList, n ∈ l := fun n hn =>
    SortedSet.mem_ofList.1 (SortedSet.mem_toList.1 hn)
  calc (SortedSet.ofList l).size = (SortedSet.ofList l).toList.length := (List.length_map _).symm
    _ ≤ l.length := (hnodup.subperm hsub).length_le

omit [DescriptorReader] in
/-- There are no more names of calls than instructions. -/
lemma CheckedCalls.size_callNames_le (g : FlowGraph) : (callNames g).size ≤ g.instructionCount :=
  (SortedSet.size_ofList_le _).trans (List.length_filterMap_le _ _)

namespace FlowGraph.Fits

variable {g : FlowGraph} {numLocals maxStack : Nat} (hfit : g.Fits numLocals maxStack)
include hfit

/-- An analysis whose facts ascend by no more steps than nullness frames may take as many passes as
it is allowed. -/
lemma passLimit_lt {Fact Decision : Type} {A : FlowAnalysis g Fact Decision}
    (hheight : A.height ≤ (numLocals + maxStack + g.instructionCount) * (Nullity.height + 1) + 2) :
    A.passLimit < wordSize :=
  lt_of_le_of_lt (Nat.succ_le_succ (Nat.mul_le_mul_left _ (Nat.succ_le_succ hheight))) hfit.passes

lemma numbering_lt : (ValueNumbering.analysis g numLocals maxStack).passLimit < wordSize := by
  refine hfit.passLimit_lt ?_
  simp only [ValueNumbering.analysis, Nullity.height]
  omega

lemma nullness_lt {m : NullModel g} {entry : NullFrame} (hlocals : entry.numLocals = numLocals)
    (hstack : entry.maxStack = maxStack) : (m.analysis entry).passLimit < wordSize := by
  refine hfit.passLimit_lt (le_of_eq ?_)
  rw [NullModel.analysis, hlocals, hstack]

lemma countsFit : CheckedCalls.CountsFit g where
  passes := by
    refine hfit.passLimit_lt ?_
    have hnames := CheckedCalls.size_callNames_le g
    simp only [CheckedCalls.analysis, Nullity.height]
    omega
  cells {b} _ := CheckedCalls.exists_checkedEdge? (by
    rw [CheckedCalls.cellsTaken_reverse]
    exact hfit.cells b)

end FlowGraph.Fits

/-! ### The parts of an analysis -/

section Parts

variable {g : FlowGraph}

omit [DescriptorReader] in
lemma FlowGraph.runsOn_ofBody (body : Body) : RunsOn (ofBody body) := by
  unfold ofBody
  split
  · exact .error rfl
  · split
    · split
      · split
        · exact .error rfl
        · exact .ok _
      · exact .error rfl
    · exact .error rfl

omit [DescriptorReader] in
/-- An iteration does not end the run if what refuses its visits does not. -/
lemma FlowAnalysis.runsOn_solve {Fact Decision : Type} [DecidableEq Fact]
    {A : FlowAnalysis g Fact Decision} {P : g.Node → Nat → Fact → Prop} (hP : A.PointInvariant P)
    (htop : A.isTop A.top = true) (hrefused : ∀ b e, A.Refused P b e → e.endsRun = false) :
    RunsOn A.solve := by
  intro e h
  rcases solve_error_cases h with ⟨n, t, -, hafter, hpass⟩ | ⟨rfl, -⟩
  · obtain ⟨b, hb⟩ := pass_refused hP htop hafter hpass
    exact hrefused b e hb
  · rfl

/-- Value numbering fails where frames of different sizes meet, or gives up. -/
lemma ValueNumbering.runsOn_solve {numLocals maxStack : Nat} :
    RunsOn (analysis g numLocals maxStack).solve := by
  refine FlowAnalysis.runsOn_solve pointInvariant_arrived rfl fun b e hrefused => ?_
  obtain ⟨⟨_, _, _, rfl⟩, -⟩ := of_refused hrefused
  rfl

lemma ValueTable.runsOn_compute {numLocals maxStack : Nat} (hfit : g.Fits numLocals maxStack)
    (hlocals : numLocals * numberBytes ≤ maxBytes) : RunsOn (compute g numLocals maxStack) := by
  have htable : RunsOn (ofGraph g numLocals maxStack) :=
    (ValueNumbering.runsOn_solve.inContext _).bind fun s _ => .ok _
  rw [compute, word_of_lt hfit.numbering_lt, allocate_of_le hlocals]
  exact htable

/-- The nullness analysis fails where frames cannot be joined, or gives up. -/
lemma NullModel.runsOn_solve {m : NullModel g} {entry : NullFrame} (hstack : entry.stack = []) :
    RunsOn (m.analysis entry).solve := by
  refine FlowAnalysis.runsOn_solve (pointInvariant_arrivedFrame hstack) rfl fun b e hrefused => ?_
  obtain ⟨_, rfl⟩ := frame_of_refused hrefused
  rfl

omit [DescriptorReader] in
lemma Frame.runsOn_setLocal (f : NullFrame) (slot : Nat) (v : Nullity) :
    RunsOn (f.setLocal slot v) := by
  unfold Frame.setLocal
  split
  · exact .ok _
  · exact .error rfl

omit [DescriptorReader] in
lemma runsOn_writeParameters (f : NullFrame) (values : List (Nat × Nullity)) :
    RunsOn (writeParameters f values) := by
  refine .foldlM (fun f x => ?_) values f
  exact Frame.runsOn_setLocal f x.1 x.2

lemma MethodDescriptor.runsOn_parse (text : String) : RunsOn (parse text) := by
  unfold parse
  split
  · exact .ok _
  · exact .error rfl

/-- The frame on entry fails where a parameter has no local variable, or the descriptor cannot be
read. -/
lemma runsOn_entryFrame (h : Hierarchy) (id : MethodId) (m : Method) :
    RunsOn (entryFrame h id m) := by
  have hparameters : ∀ f : NullFrame, RunsOn (do
      let d ← MethodDescriptor.parse m.descriptor
      let values := d.parameters.mapIdx fun index t => entryValue h id index t
      writeParameters f ((d.parameterSlots m.isStatic).zip values)) := fun f =>
    (MethodDescriptor.runsOn_parse m.descriptor).bind fun d _ => runsOn_writeParameters f _
  unfold entryFrame
  dsimp only
  split
  · exact .bind (.ok _) fun f _ => hparameters f
  · exact (Frame.runsOn_setLocal _ _ _).bind fun f _ => hparameters f

end Parts

/-! ### Methods and programs -/

/-- The numbers of a method are small enough: its local variables and stack cells have room, and the
graph of its body fits. -/
structure Method.Fits (m : Method) : Prop where
  locals : m.maxLocals * ValueTable.numberBytes ≤ maxBytes
  cells : (m.maxLocals + m.maxStack) * Nullity.bytes ≤ maxBytes
  graph : ∀ body ∈ m.body, ∀ g ∈ (FlowGraph.ofBody body).toOption, g.Fits m.maxLocals m.maxStack

instance (m : Method) : Decidable m.Fits :=
  decidable_of_iff (_ ∧ _ ∧ _) ⟨fun h => ⟨h.1, h.2.1, h.2.2⟩, fun h => ⟨h.locals, h.cells, h.graph⟩⟩

/-- **The analysis of a method that fits does not end the run.** -/
theorem MethodAnalysis.runsOn_ofMethod (ctx : AnalysisContext) (c : ClassDecl) {m : Method}
    (hfit : m.Fits) : RunsOn (ofMethod ctx c m) := by
  unfold ofMethod
  cases hbody : m.body with
  | none => exact .error rfl
  | some body =>
      refine (FlowGraph.runsOn_ofBody body).bind fun g hgraph => ?_
      have hg : g.Fits m.maxLocals m.maxStack :=
        hfit.graph body hbody g (by rw [hgraph]; rfl)
      refine (ValueTable.runsOn_compute hg hfit.locals).bind fun numbers _ => ?_
      -- what remains is the same for any checked calls
      have hrest : ∀ checked, RunsOn (do
          allocate (m.maxLocals + m.maxStack) Nullity.bytes
          let entry ← inContext (.entryFrame (c.idOf m)) (entryFrame ctx.hierarchy (c.idOf m) m)
          let model : NullModel g := ⟨ctx.config, ctx.hierarchy, ctx.summaries, numbers, checked⟩
          let solution ← inContext .nullnessDataflow (model.analysis entry).execute
          return (⟨g, model, entry, solution⟩ : MethodAnalysis)) := by
        intro checked
        rw [allocate_of_le hfit.cells]
        refine .bind (.ok ()) fun _ _ => .bind ((runsOn_entryFrame _ _ _).inContext _) ?_
        intro entry hentry
        obtain ⟨-, hlocals, hstack, hmaxStack, -⟩ := entryFrame_shape (inContext_eq_ok.1 hentry)
        dsimp only
        rw [FlowAnalysis.execute_eq_solve _ (hg.nullness_lt hlocals hmaxStack)]
        exact ((NullModel.runsOn_solve hstack).inContext _).bind fun solution _ => .ok _
      dsimp only
      split
      · obtain ⟨t, ht⟩ := CheckedCalls.exists_ofGraph_iff.2 hg.countsFit
        rw [ht]
        exact .bind (.ok (some t)) fun checked _ => hrest checked
      · exact .bind (.ok none) fun checked _ => hrest checked

/-- All methods with a body have numbers that are small enough. -/
def Program.Fits (p : Program) : Prop := ∀ x ∈ p.bodies, x.2.Fits

instance (p : Program) : Decidable p.Fits := inferInstanceAs (Decidable (∀ x ∈ p.bodies, x.2.Fits))

/-- A session reports on all methods of a program that fits. -/
theorem analyse_of_fits {p : Program} (hfits : p.Fits) (config : Config) :
    analyse config p = .ok (p.fullReport config) := by
  rw [analyse_eq, if_neg]
  intro hends
  obtain ⟨report, hmem, hends⟩ := List.any_eq_true.1 hends
  obtain ⟨x, hx, rfl⟩ := List.mem_map.1 hmem
  have hruns := MethodAnalysis.runsOn_ofMethod ⟨config, ⟨p.classes⟩, summaries p⟩ x.1 (hfits x hx)
  rw [methodReport] at hends
  cases hanalysis : MethodAnalysis.ofMethod ⟨config, ⟨p.classes⟩, summaries p⟩ x.1 x.2 with
  | error e =>
      rw [hanalysis] at hends
      exact Bool.false_ne_true ((hruns e hanalysis).symm.trans hends)
  | ok a =>
      rw [hanalysis] at hends
      cases hends

end Nullness
