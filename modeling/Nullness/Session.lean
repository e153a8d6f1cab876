import Nullness.Analysis
import Nullness.Thrower

/-!
# Analysis of a program

A session summarizes the throwers of a program and then analyses every method with a body. A method
that cannot be summarized or analysed does not keep the others from being so; only a body with
numbers too large for the machine does, and there is no report then.

* `summaries`: the thrower summaries of a program;
* `analyse`: the report of a session.
-/

namespace Nullness

variable [DescriptorReader]

/-- The frames around one instruction. -/
structure LocationReport where
  block : Nat
  index : Nat
  offset : Nat
  before : NullFrame
  after : NullFrame
  newNullSlot : Option Nat

/-- How the analysis of one method ended. -/
inductive MethodStatus
  | ok (passes : Nat) (locations : List LocationReport)
  | failed (cause : Error)

/-- The report on one method. -/
structure MethodReport where
  method : MethodId
  status : MethodStatus

/-- The report of a session. -/
structure Report where
  summaries : SummaryStore
  methods : List MethodReport

/-- The methods with a body, in program order. -/
def Program.bodies (p : Program) : List (ClassDecl × Method) :=
  p.classes.flatMap fun c => (c.methods.filter fun m => m.body.isSome).map fun m => (c, m)

/-- Adds the summary of a method, should it have one and not be summarized yet. -/
def recordSummary (s : SummaryStore) (c : ClassDecl) (m : Method) : SummaryStore :=
  match summarize c m with
  | .ok (some summary) =>
    match s.record (c.idOf m) summary with
    | .ok s' => s'
    | .error _ => s
  | _ => s

/-- The thrower summaries of a program. -/
def summaries (p : Program) : SummaryStore :=
  p.bodies.foldl (fun s (c, m) => recordSummary s c m) .empty

/-- The frames around the instructions of a block. -/
def blockReport (a : MethodAnalysis) (b : a.graph.Node) : List LocationReport :=
  let facts := a.blockFacts b
  ((a.graph.instructions b).zip (facts.zip facts.tail)).mapIdx fun index (i, before, after) =>
    ⟨b, index, i.offset, before, after, a.newNullSlot? b index⟩

/-- The report on an analysed method: blocks in order, those without control included. -/
def MethodStatus.ofAnalysis : Except Error MethodAnalysis → MethodStatus
  | .error e => .failed e
  | .ok a => .ok a.passes (a.graph.nodes.flatMap (blockReport a))

/-- Whether the analysis of a method ends the run. -/
def MethodStatus.endsRun : MethodStatus → Bool
  | .ok .. => false
  | .failed cause => cause.endsRun

/-- The report on one method. -/
def methodReport (ctx : AnalysisContext) (c : ClassDecl) (m : Method) : MethodReport where
  method := c.idOf m
  status := .ofAnalysis (MethodAnalysis.ofMethod ctx c m)

/-- Analyses one method, unless the run ends in it. -/
def analyseMethod (ctx : AnalysisContext) (c : ClassDecl) (m : Method) :
    Except Error MethodReport :=
  let report := methodReport ctx c m
  if report.status.endsRun then .error .overflow else .ok report

/-- Analyses a program. -/
def analyse (config : Config) (p : Program) : Except Error Report := do
  let store := summaries p
  let ctx : AnalysisContext := ⟨config, ⟨p.classes⟩, store⟩
  return ⟨store, ← p.bodies.mapM fun (c, m) => analyseMethod ctx c m⟩

end Nullness
