import Nullness.FlowGraph

/-!
# Reverse postorder

The order in which an iteration visits the blocks of a flow graph: depth-first search from the
entry follows the edges of a block in their order, and a block is listed in front of everything
that was finished before it. Blocks that the entry does not lead to are not listed.
-/

namespace Nullness

namespace FlowGraph

variable (g : FlowGraph)

/-- The state of a depth-first search: the blocks met so far, and the finished ones with the last
finished first. -/
structure Search where
  met : List g.Node
  finished : List g.Node

/-- Searches from a block. The bound limits the length of the path that is followed; along a path
all blocks differ, so the number of blocks is enough. -/
def search : Nat → g.Node → Search g → Search g
  | 0, _, s => s
  | bound + 1, b, s =>
    if b ∈ s.met then s
    else
      let after := (g.outgoing b).foldl (fun s e => search bound e.target s)
        { s with met := b :: s.met }
      { after with finished := b :: after.finished }

/-- The blocks to which the entry leads, in reverse postorder. -/
def reversePostorder : List g.Node := (search g g.size g.entry ⟨[], []⟩).finished

end FlowGraph

end Nullness
