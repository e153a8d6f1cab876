import Nullness.Program

/-!
# Flow graphs

A flow graph is a method body in which every block is named by its position, every edge joins two
blocks, and no edge leaves the exit. `FlowGraph.ofBody` checks a declared body; from there on a
block is a value of `g.Node` and no look-up can miss.

* `FlowGraph.mem_incoming`, `FlowGraph.mem_outgoing`: the two views of the list of edges;
* `FlowGraph.Reachable`: what a path of edges from the entry leads to.
-/

namespace Nullness

/-- A method body whose blocks are numbered from zero. -/
structure FlowGraph where
  size : Nat
  entry : Fin size
  exit : Fin size
  code : Vector (List Instruction) size
  edges : List (Edge (Fin size))
  /-- Control does not continue after the exit. -/
  exit_final : ∀ e ∈ edges, e.source ≠ exit

namespace FlowGraph

/-- A block of the graph. -/
abbrev Node (g : FlowGraph) : Type := Fin g.size

/-- An edge of the graph. -/
abbrev Arc (g : FlowGraph) : Type := Edge g.Node

/-- The position of the first block that is declared under another number. -/
def misplaced? (blocks : List Block) : Option (Block × Nat) :=
  blocks.zipIdx.find? fun (b, index) => b.id ≠ index

/-- Checks that an edge joins two of `size` blocks and does not leave the exit. -/
def checkEdge (size : Nat) (exit : Fin size) (e : Edge Nat) :
    Except GraphError { a : Edge (Fin size) // a.source ≠ exit } :=
  if h : e.source < size ∧ e.target < size then
    if h' : (⟨e.source, h.1⟩ : Fin size) ≠ exit then
      .ok ⟨⟨⟨e.source, h.1⟩, ⟨e.target, h.2⟩, e.kind⟩, h'⟩
    else .error (.edgeFromExit exit)
  else .error (.danglingEdge e.source e.target)

/-- Checks a declared body. -/
def ofBody (body : Body) : Except Error FlowGraph :=
  match misplaced? body.blocks with
  | some (b, index) => .error (.graph (.misplacedBlock b.id index))
  | none =>
    if hentry : body.entry < body.blocks.length then
      if hexit : body.exit < body.blocks.length then
        match body.edges.mapM (checkEdge body.blocks.length ⟨body.exit, hexit⟩) with
        | .error e => .error (.graph e)
        | .ok arcs => .ok {
            size := body.blocks.length
            entry := ⟨body.entry, hentry⟩
            exit := ⟨body.exit, hexit⟩
            code := ⟨(body.blocks.map (·.code)).toArray, by simp⟩
            edges := arcs.map (·.1)
            exit_final := by
              intro e he
              obtain ⟨a, _, rfl⟩ := List.mem_map.1 he
              exact a.2 }
      else .error (.graph (.missingExit body.exit))
    else .error (.graph (.missingEntry body.entry))

/-- The blocks in order. -/
def nodes (g : FlowGraph) : List g.Node := List.finRange g.size

/-- The block of a number, if there is one. -/
def node? (g : FlowGraph) (n : Nat) : Option g.Node := if h : n < g.size then some ⟨n, h⟩ else none

/-- The instructions of a block. -/
def instructions (g : FlowGraph) (b : g.Node) : List Instruction := g.code.get b

/-- The opcodes of a block. -/
def ops (g : FlowGraph) (b : g.Node) : List Opcode := (g.instructions b).map (·.op)

/-- The edges into a block, in the order of the declaration. -/
def incoming (g : FlowGraph) (b : g.Node) : List g.Arc := g.edges.filter fun e => e.target = b

/-- The edges out of a block, in the order of the declaration. -/
def outgoing (g : FlowGraph) (b : g.Node) : List g.Arc := g.edges.filter fun e => e.source = b

theorem mem_incoming {g : FlowGraph} {b : g.Node} {e : g.Arc} :
    e ∈ g.incoming b ↔ e ∈ g.edges ∧ e.target = b := by
  simp [incoming]

theorem mem_outgoing {g : FlowGraph} {b : g.Node} {e : g.Arc} :
    e ∈ g.outgoing b ↔ e ∈ g.edges ∧ e.source = b := by
  simp [outgoing]

/-- The number of instructions in the whole graph. -/
def instructionCount (g : FlowGraph) : Nat := g.code.toList.flatten.length

/-- The predecessor of a block whose only incoming edge is a fall-through. -/
def fallThroughPredecessor? (g : FlowGraph) (b : g.Node) : Option g.Node :=
  match g.incoming b with
  | [e] => if e.kind = .fallThrough then some e.source else none
  | _ => none

/-- Whether the block ends by throwing. -/
def throwsAtEnd (g : FlowGraph) (b : g.Node) : Bool := endsInThrow (g.instructions b)

/-- A block to which a path of edges leads from the entry. -/
inductive Reachable (g : FlowGraph) : g.Node → Prop
  | entry : Reachable g g.entry
  | step {e : g.Arc} : Reachable g e.source → e ∈ g.edges → Reachable g e.target

end FlowGraph

end Nullness
