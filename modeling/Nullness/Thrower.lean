import Nullness.FlowGraph
import Nullness.Reachability
import Nullness.Summary

/-!
# Exception throwers

A method is summarized when callers can rely on its body: it belongs to an application class, cannot
be overridden by way of an interface or an abstract class, and is static or public.

* `alwaysThrows`: every way into the exit throws;
* `guardedParameters?`: the parameters whose null check guards a throwing path;
* `summarize`: the summary of a method.
-/

namespace Nullness

variable [DescriptorReader]

namespace FlowGraph

variable (g : FlowGraph)

/-- An edge that ends the method without throwing. -/
def completesNormally (e : g.Arc) : Bool :=
  e.target = g.exit && e.kind ≠ .unhandledException && !g.throwsAtEnd e.source

/-- Every edge into the exit throws. -/
def alwaysThrows : Bool := (g.incoming g.exit).all fun e =>
  e.kind = .unhandledException || g.throwsAtEnd e.source

/-- The parameter that a block tests at its end by loading it and branching on null. -/
def testedParameter? (slots : List Nat) (b : g.Node) : Option Nat :=
  match lastOp? (g.instructions b), penultimateOp? (g.instructions b) with
  | some .ifNull, some (.load slot) | some .ifNonNull, some (.load slot) => slots.idxOf? slot
  | _, _ => none

/-- The kind of edge on which a null test finds a value that is not null. -/
def nonNullSide : Option Opcode → EdgeKind
  | some .ifNull => .fallThrough
  | _ => .branch

/-- Whether an edge is taken only when the parameter that its source tests is not null. -/
def needsNonNull (slots : List Nat) (e : g.Arc) : Bool :=
  (g.testedParameter? slots e.source).isSome &&
    e.kind = nonNullSide (lastOp? (g.instructions e.source))

/-- The edges out of a block that may be taken while every tested parameter is null. -/
def nullSideEdges (slots : List Nat) (b : g.Node) : List g.Arc :=
  (g.outgoing b).filter fun e => !g.needsNonNull slots e

/-- The blocks that may be reached while every tested parameter is null. -/
def nullSideBlocks (slots : List Nat) : List g.Node :=
  reachableFrom (fun b => (g.nullSideEdges slots b).map (·.target)) g.edges.length g.entry

/-- The parameters whose null check guards a throwing path, or `none` when the method may complete
normally without finding any of them to be not null. -/
def guardedParameters? (slots : List Nat) : Option (SortedSet Nat) :=
  let blocks := g.nullSideBlocks slots
  if blocks.any fun b => (g.outgoing b).any g.completesNormally then none
  else
    some <| .ofList <| blocks.filterMap fun b =>
      if (g.nullSideEdges slots b).isEmpty then none else g.testedParameter? slots b

end FlowGraph

/-- Whether a method is summarized at all. -/
def isEligible (c : ClassDecl) (m : Method) : Bool :=
  c.isApplication && !c.isInterface && !c.isAbstract && !m.isAbstract && (m.isStatic || m.isPublic)

/-- The summary of a method body. -/
def summarizeBody (m : Method) (body : Body) : Except Error MethodSummary := do
  let g ← FlowGraph.ofBody body
  if g.alwaysThrows then return .alwaysThrows
  let d ← inContext (.parametersOf m.name m.descriptor) (MethodDescriptor.parse m.descriptor)
  let slots := d.parameterSlots m.isStatic
  if slots.isEmpty then return .none
  match g.guardedParameters? slots with
  | none => return .none
  | some parameters => return if parameters.isEmpty then .none else .conditional parameters

/-- The summary of a method, or `none` for a method that is not summarized or has no body. -/
def summarize (c : ClassDecl) (m : Method) : Except Error (Option MethodSummary) :=
  if isEligible c m then
    match m.body with
    | none => .ok none
    | some body => (summarizeBody m body).map some
  else .ok none

end Nullness
