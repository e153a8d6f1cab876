import Nullness.BranchDecision
import Nullness.Model

/-!
# Nullness analysis of a method

The nullness frames of a method body by forward dataflow: instructions act through `NullModel`, and
null tests, reference comparisons and `instanceof` tests refine the tested class on the edges that
leave them.

* `NullModel.analysis`: the dataflow analysis;
* `MethodAnalysis.ofMethod`: the analysis of a method of a program, with its queries.
-/

namespace Nullness

variable [DescriptorReader]

/-! ### What a comparison tells -/

/-- The values on the edge where a tested value is null and on the edge where it is not. -/
def nullTestOutcomes (v : Nullity) : Option Nullity × Option Nullity :=
  if v.isDefinitelyNull then (some .definitelyNull, none)
  else if v.isDefinitelyNotNull then (none, some v)
  else (some .definitelyNull, some .nonNullProven)

/-- The value on an edge where a tested value is not null. -/
def nonNullOutcome (v : Nullity) : Option Nullity :=
  if v.isDefinitelyNull then none
  else if v.isDefinitelyNotNull then some v
  else some .nonNullProven

/-- The values of a reference on the edges where it equals and where it differs from one that is
decided: definitely null or definitely not. -/
def comparisonOutcomes (decided other : Nullity) : Option Nullity × Option Nullity :=
  if decided.isDefinitelyNull then nullTestOutcomes other else (nonNullOutcome other, some other)

/-- Whether a value is definitely null or definitely not. -/
def Nullity.isDecided (v : Nullity) : Bool := v.isDefinitelyNull || v.isDefinitelyNotNull

namespace NullModel

variable {g : FlowGraph} (m : NullModel g)

/-- The decision of a block that ends in a null test, given the values of the tested reference on
the edges where it is null and where it is not. -/
def decideNullTest (b : g.Node) (last : Nat) (branchIfNull : Bool) (f : NullFrame) :
    Option (BranchDecision Nullity) := do
  let (null, nonNull) := nullTestOutcomes (← f.topValue.toOption)
  let number ← m.operand? b last 0
  let (taken, fallThrough) := if branchIfNull then (null, nonNull) else (nonNull, null)
  BranchDecision.ofSides? number taken fallThrough

/-- The decision of a block that ends by comparing two references, of which one is decided. -/
def decideComparison (b : g.Node) (last : Nat) (branchIfEqual : Bool) (f : NullFrame) :
    Option (BranchDecision Nullity) := do
  let right ← (f.stackValue 0).toOption
  let left ← (f.stackValue 1).toOption
  let (fromTop, (equal, different)) ←
    match left.isDecided, right.isDecided with
    | true, false => some (0, comparisonOutcomes left right)
    | false, true => some (1, comparisonOutcomes right left)
    | _, _ => none
  let number ← m.operand? b last fromTop
  let (taken, fallThrough) := if branchIfEqual then (equal, different) else (different, equal)
  BranchDecision.ofSides? number taken fallThrough

/-- The decision of a block that ends by branching on the outcome of `instanceof`: a null reference
is an instance of nothing. -/
def decideInstance (b : g.Node) (last : Nat) (branchIfNot : Bool) (f : NullFrame) :
    Option (BranchDecision Nullity) := do
  let v ← f.topValue.toOption
  let number ← m.operand? b (last - 1) 0
  if branchIfNot then BranchDecision.ofSides? number (some v) (nonNullOutcome v)
  else BranchDecision.ofSides? number (nonNullOutcome v) (some v)

/-- The decision at the end of a block. -/
def decide (b : g.Node) (beforeLast : NullFrame) (beforePenultimate : Option NullFrame) :
    Option (BranchDecision Nullity) := do
  let last := (g.instructions b).length - 1
  let _ ← m.numbers.factAt? b last
  match opsBackwards b with
  | .ifNull :: _ => m.decideNullTest b last true beforeLast
  | .ifNonNull :: _ => m.decideNullTest b last false beforeLast
  | .ifRefEq :: _ => m.decideComparison b last true beforeLast
  | .ifRefNe :: _ => m.decideComparison b last false beforeLast
  | .ifEq :: .instanceOf :: _ => m.decideInstance b last true (← beforePenultimate)
  | .ifNe :: .instanceOf :: _ => m.decideInstance b last false (← beforePenultimate)
  | _ => none

/-- The frame that a normal edge carries after a decision. -/
def refine (e : g.Arc) (d : BranchDecision Nullity) (f : NullFrame) : NullFrame :=
  let before := m.numbers.factAt? e.source ((g.instructions e.source).length - 1)
  let target := m.numbers.startFact? e.target
  let refined := d.apply e.kind before target f
  if m.config.trackValueNumbers then refined else refined.clearKnown

/-- The nullness analysis of a body from the frame on entry. -/
def analysis (entry : NullFrame) : FlowAnalysis g NullFrame (BranchDecision Nullity) where
  top := .fresh entry.numLocals entry.maxStack
  isTop f := !f.valid
  entry := entry
  height := (entry.numLocals + entry.maxStack + g.instructionCount) * (Nullity.height + 1) + 2
  step b index i f := do return (← m.apply b index i.op f).frame
  decide := m.decide
  refine e d f := if e.kind.isException then f else m.refine e d f
  enterHandler _ f := f.resetStackTo .nonNullProven
  join _ sofar carried := sofar.merge carried

end NullModel

/-! ### The frame on entry -/

/-- The value of a parameter on entry. -/
def entryValue (h : Hierarchy) (id : MethodId) (index : Nat) (t : JvmType) : Nullity :=
  if t.isReference then (h.parameterMark id index).nullity else .nonNullSilent

/-- Writes the parameters into their slots. -/
def writeParameters (f : NullFrame) (values : List (Nat × Nullity)) : Except Error NullFrame :=
  values.foldlM (fun f (slot, v) => f.setLocal slot v) f

/-- The frame on entry: a receiver is not null, and parameters follow their annotations. -/
def entryFrame (h : Hierarchy) (id : MethodId) (m : Method) : Except Error NullFrame := do
  let f := (Frame.fresh m.maxLocals m.maxStack).setValid
  let f ← if m.isStatic then pure f else f.setLocal 0 .nonNullProven
  let d ← MethodDescriptor.parse m.descriptor
  let values := d.parameters.mapIdx fun index t => entryValue h id index t
  writeParameters f ((d.parameterSlots m.isStatic).zip values)

/-! ### Methods of a program -/

/-- What the analysis of a method draws on beside the method. -/
structure AnalysisContext where
  config : Config
  hierarchy : Hierarchy
  summaries : SummaryStore

/-- The settled nullness frames of a method body. -/
structure MethodAnalysis where
  graph : FlowGraph
  model : NullModel graph
  entry : NullFrame
  solution : Solution graph NullFrame (BranchDecision Nullity)

namespace MethodAnalysis

/-- Analyses a method of a class. -/
def ofMethod (ctx : AnalysisContext) (c : ClassDecl) (m : Method) : Except Error MethodAnalysis :=
  match m.body with
  | none => .error .noBody
  | some body => do
    let g ← FlowGraph.ofBody body
    let numbers ← ValueTable.compute g m.maxLocals m.maxStack
    let checked ←
      if ctx.config.trackCheckedCalls then some <$> CheckedCalls.ofGraph g else pure none
    let model : NullModel g := ⟨ctx.config, ctx.hierarchy, ctx.summaries, numbers, checked⟩
    let id := c.idOf m
    allocate (m.maxLocals + m.maxStack) Nullity.bytes
    let entry ← inContext (.entryFrame id) (entryFrame ctx.hierarchy id m)
    let solution ← inContext .nullnessDataflow (model.analysis entry).execute
    return ⟨g, model, entry, solution⟩

variable (a : MethodAnalysis)

/-- The dataflow analysis that was solved. -/
def analysis : FlowAnalysis a.graph NullFrame (BranchDecision Nullity) := a.model.analysis a.entry

/-- The number of passes that the iteration took. -/
def passes : Nat := a.solution.passes

/-- The frame at the start of a block. -/
def startFact (b : a.graph.Node) : NullFrame := a.solution.startFact b

/-- The frame before the instruction at a position. -/
def factAt (b : a.graph.Node) (index : Nat) : NullFrame := a.analysis.factAt a.solution b index

/-- The frame after the instruction at a position. -/
def factAfter (b : a.graph.Node) (index : Nat) : NullFrame :=
  a.analysis.factAfter a.solution b index

/-- The frames between the instructions of a block. -/
def blockFacts (b : a.graph.Node) : List NullFrame := a.analysis.blockFacts a.solution b

/-- The slot of the definitely null value that the instruction at a position makes. -/
def newNullSlot? (b : a.graph.Node) (index : Nat) : Option Nat :=
  (a.graph.instructions b)[index]?.bind fun i =>
    (a.model.apply b index i.op (a.factAt b index)).toOption.bind (·.newNull)

end MethodAnalysis

end Nullness
