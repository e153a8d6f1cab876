import Nullness.FlowGraph.Order
import Nullness.Word

/-!
# Forward dataflow

A fixpoint iteration over a flow graph, shared by all analyses. An analysis says how an instruction
changes a fact and how facts meet; the iteration visits the blocks in reverse postorder, pass after
pass, until a pass changes nothing.

A normal edge carries the fact at the end of its source, refined by what the last comparison of the
source tells about the edge. An exception edge carries the facts before all instructions of its
source that may throw, or the fact at its start when none may. A fact that is *top* says that no
control has been seen to arrive, and is never carried.

* `FlowAnalysis.startOf`, `FlowAnalysis.through`: the two halves of a dataflow equation, the fact at
  the start of a block in terms of its predecessors, and everything else about the block in terms of
  that fact;
* `FlowAnalysis.solve`: the iteration;
* `FlowAnalysis.execute`: the iteration as it is run, with a pass limit that is a machine word;
* `FlowAnalysis.factAt`, `FlowAnalysis.blockFacts`: the facts between the instructions of a
  solution.
-/

namespace Nullness

/-- What an analysis has to say about a flow graph. -/
structure FlowAnalysis (g : FlowGraph) (Fact Decision : Type) where
  /-- The fact of a point that no control has been seen to reach. -/
  top : Fact
  isTop : Fact → Bool
  /-- The fact on entry to the method. -/
  entry : Fact
  /-- The length of the longest strictly ascending chain of facts, as far as the analysis knows. -/
  height : Nat
  /-- How the instruction at a position of a block changes a fact. -/
  step : g.Node → Nat → Instruction → Fact → Except Error Fact
  /-- What the end of a block decides about its outgoing edges, from the fact before the last
  instruction and the fact before the instruction in front of it. -/
  decide : g.Node → Fact → Option Fact → Option Decision
  /-- The fact that a normal edge carries, from the decision and the fact at the end of its
  source. -/
  refine : g.Arc → Decision → Fact → Fact
  /-- The fact on entry to a handler, from the fact where the exception was raised. -/
  enterHandler : g.Arc → Fact → Except Error Fact
  /-- The fact at the target of an edge so far, joined with a fact that the edge carries. -/
  join : g.Arc → (sofar carried : Fact) → Except Error Fact

/-- What is known of one block. -/
structure BlockFacts (Fact Decision : Type) where
  start : Fact
  /-- The fact at the end. -/
  result : Fact
  /-- The facts before the instructions that may throw. -/
  throwing : List Fact
  decision : Option Decision

/-- What is known of every block. -/
abbrev FactTable (g : FlowGraph) (Fact Decision : Type) : Type :=
  Vector (BlockFacts Fact Decision) g.size

/-- A table that an iteration has settled on, and the number of passes that it took. -/
structure Solution (g : FlowGraph) (Fact Decision : Type) where
  table : FactTable g Fact Decision
  passes : Nat

namespace BlockFacts

variable {Fact Decision : Type}

/-- The facts that an exception edge may carry out of a block. -/
def thrown (s : BlockFacts Fact Decision) : List Fact :=
  if s.throwing.isEmpty then [s.start] else s.throwing

/-- Whether two states of a block differ in a fact. Decisions follow from the facts and are not
compared. -/
def differs [DecidableEq Fact] (s t : BlockFacts Fact Decision) : Bool :=
  s.start ≠ t.start || s.result ≠ t.result || s.throwing ≠ t.throwing

end BlockFacts

namespace FlowAnalysis

variable {g : FlowGraph} {Fact Decision : Type} (A : FlowAnalysis g Fact Decision)

/-! ### Through a block -/

/-- The fact after an instruction; top when the instruction cannot be followed. -/
def advance (b : g.Node) (index : Nat) (i : Instruction) (f : Fact) : Fact :=
  match A.step b index i f with
  | .ok f' => f'
  | .error _ => A.top

/-- The instructions that control is seen to reach, each with the fact before it, and the fact at
the end. -/
def traverse (b : g.Node) : Nat → List Instruction → Fact → List (Instruction × Fact) × Fact
  | _, [], f => ([], f)
  | index, i :: rest, f =>
    if A.isTop f then ([], f)
    else
      let (reached, result) := traverse b (index + 1) rest (A.advance b index i f)
      ((i, f) :: reached, result)

/-- The decision at the end of a block, from the reached instructions, the last one first. -/
def decisionAfter (b : g.Node) : List (Instruction × Fact) → Option Decision
  | [] => none
  | last :: before => A.decide b last.2 (before.head?.map (·.2))

/-- Everything about a block that follows from the fact at its start. -/
def through (b : g.Node) (start : Fact) : BlockFacts Fact Decision :=
  let (reached, result) := A.traverse b 0 (g.instructions b) start
  { start, result
    throwing := (reached.filter (·.1.op.mayThrow)).map (·.2)
    decision := if A.isTop result then none else A.decisionAfter b reached.reverse }

/-! ### Along an edge -/

/-- The fact that a normal edge carries, or `none` when it carries none. -/
def carried? (e : g.Arc) (s : BlockFacts Fact Decision) : Option Fact :=
  if A.isTop s.result then none
  else
    match s.decision with
    | none => some s.result
    | some d =>
      let refined := A.refine e d s.result
      if A.isTop refined then none else some refined

/-- Joins one fact of an exception edge into the fact at its target so far. -/
def joinThrown (e : g.Arc) (sofar f : Fact) : Except Error Fact :=
  if A.isTop f then .ok sofar else do A.join e sofar (← A.enterHandler e f)

/-- Joins what an edge carries into the fact at its target so far. -/
def joinAlong (t : FactTable g Fact Decision) (sofar : Fact) (e : g.Arc) : Except Error Fact :=
  let s := t.get e.source
  if e.kind.isException then s.thrown.foldlM (A.joinThrown e) sofar
  else
    match A.carried? e s with
    | none => .ok sofar
    | some f => A.join e sofar f

/-- The fact at the start of a block before any edge has been joined. -/
def initial (b : g.Node) : Fact := if b = g.entry then A.entry else A.top

/-- The fact at the start of a block, from what is known of all blocks. -/
def startOf (t : FactTable g Fact Decision) (b : g.Node) : Except Error Fact :=
  (g.incoming b).foldlM (A.joinAlong t) (A.initial b)

/-! ### The iteration -/

/-- What is known of a block after visiting it. -/
def visit (t : FactTable g Fact Decision) (b : g.Node) :
    Except Error (BlockFacts Fact Decision) := do
  return A.through b (← A.startOf t b)

/-- The table in which nothing is known yet. -/
def initialTable : FactTable g Fact Decision :=
  Vector.replicate g.size ⟨A.top, A.top, [], none⟩

variable [DecidableEq Fact]

/-- Visits blocks in turn, each under the table that the visits before it have left, and tells
whether a fact changed. -/
def visitAll : List g.Node → FactTable g Fact Decision → Bool →
    Except Error (FactTable g Fact Decision × Bool)
  | [], t, changed => .ok (t, changed)
  | b :: rest, t, changed => do
    let s ← A.visit t b
    visitAll rest (t.set b s) (changed || s.differs (t.get b))

/-- One pass over all blocks that the entry leads to. -/
def pass (t : FactTable g Fact Decision) : Except Error (FactTable g Fact Decision × Bool) :=
  A.visitAll g.reversePostorder t false

/-- The number of passes after which the iteration gives up. It has to be a machine word for the
iteration to be run. -/
def passLimit : Nat := max g.size 1 * (A.height + 1) + 1

/-- Makes passes until one changes nothing, or until as many as allowed have been made. -/
def iterate : Nat → FactTable g Fact Decision → Except Error (Solution g Fact Decision)
  | 0, _ => .error (.notConverged A.passLimit)
  | remaining + 1, t => do
    let (t', changed) ← A.pass t
    if changed then iterate remaining t' else return ⟨t', A.passLimit - remaining⟩

/-- Iterates from the table in which nothing is known. -/
def solve : Except Error (Solution g Fact Decision) := A.iterate A.passLimit A.initialTable

/-- Runs the iteration, which starts by computing the number of passes it may take. -/
def execute : Except Error (Solution g Fact Decision) := do
  let _ ← word A.passLimit
  A.solve

theorem execute_eq_solve (h : A.passLimit < wordSize) : A.execute = A.solve := by
  rw [execute, word_of_lt h]
  rfl

theorem execute_eq_ok_iff {s : Solution g Fact Decision} :
    A.execute = .ok s ↔ A.passLimit < wordSize ∧ A.solve = .ok s := by
  by_cases h : A.passLimit < wordSize
  · rw [execute_eq_solve A h, and_iff_right h]
  · rw [execute, word_of_not_lt h]
    exact iff_of_false (fun hbind => nomatch hbind) fun hsolve => h hsolve.1

/-- The visits of some passes in their order: each block with the table under which it is
visited. -/
def visits : Nat → FactTable g Fact Decision →
    Except Error (List (g.Node × FactTable g Fact Decision))
  | 0, _ => .ok []
  | passes + 1, t => do
    let (first, t') ← passVisits g.reversePostorder t
    return first ++ (← visits passes t')
where
  /-- The visits of one pass, and the table after it. -/
  passVisits : List g.Node → FactTable g Fact Decision →
      Except Error (List (g.Node × FactTable g Fact Decision) × FactTable g Fact Decision)
    | [], t => .ok ([], t)
    | b :: rest, t => do
      let s ← A.visit t b
      let (later, t') ← passVisits rest (t.set b s)
      return ((b, t) :: later, t')

end FlowAnalysis

/-! ### Facts between instructions -/

namespace Solution

variable {g : FlowGraph} {Fact Decision : Type}

/-- The fact at the start of a block. -/
def startFact (s : Solution g Fact Decision) (b : g.Node) : Fact := (s.table.get b).start

/-- The fact at the end of a block. -/
def resultFact (s : Solution g Fact Decision) (b : g.Node) : Fact := (s.table.get b).result

/-- The decision at the end of a block. -/
def decision (s : Solution g Fact Decision) (b : g.Node) : Option Decision :=
  (s.table.get b).decision

end Solution

namespace FlowAnalysis

variable {g : FlowGraph} {Fact Decision : Type} (A : FlowAnalysis g Fact Decision)

/-- The fact after some instructions. -/
def replay (b : g.Node) : Nat → List Instruction → Fact → Fact
  | _, [], f => f
  | index, i :: rest, f =>
    if A.isTop f then f else replay b (index + 1) rest (A.advance b index i f)

/-- The facts before each of some instructions and after the last. -/
def factsBetween (b : g.Node) : Nat → List Instruction → Fact → List Fact
  | _, [], f => [f]
  | index, i :: rest, f =>
    f :: factsBetween b (index + 1) rest (if A.isTop f then f else A.advance b index i f)

/-- The fact before the instruction at a position; past the end, the fact after the last one. -/
def factAt (s : Solution g Fact Decision) (b : g.Node) (index : Nat) : Fact :=
  A.replay b 0 ((g.instructions b).take index) (s.startFact b)

/-- The fact after the instruction at a position. -/
def factAfter (s : Solution g Fact Decision) (b : g.Node) (index : Nat) : Fact :=
  A.factAt s b (index + 1)

/-- The facts between the instructions of a block, one more than there are instructions. -/
def blockFacts (s : Solution g Fact Decision) (b : g.Node) : List Fact :=
  A.factsBetween b 0 (g.instructions b) (s.startFact b)

end FlowAnalysis

end Nullness
