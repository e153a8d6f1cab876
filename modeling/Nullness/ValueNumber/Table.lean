import Nullness.ValueNumber.Analysis

/-!
# Value numbers

A value number names a congruence class of values. Numbers are given to origins in the order in
which the origins appear while the iteration computes its facts, so the numbers in a table tell how
the iteration went.

* `ValueTable.ofGraph`: the numbered facts of a method;
* `ValueTable.compute`: the same as they are computed, in machine words;
* `ValueNumbering.facts_numbered`: every label of a final fact has a number, hence different labels
  have different ones.
-/

namespace Nullness

/-- A value frame with numbered classes. -/
abbrev NumberedFrame : Type := ValueFrame Nat

/-- The numbered facts of a method: for each block those between its instructions, `none` where no
control is seen to arrive. -/
structure ValueTable (g : FlowGraph) where
  facts : Vector (List (Option NumberedFrame)) g.size

namespace ValueNumbering

variable {g : FlowGraph} (A : FlowAnalysis g OriginFact Unit)

/-! ### The facts in the order of their computation -/

/-- The facts computed while an exception edge is joined, and the fact at its target afterwards. -/
def thrownTrace (e : g.Arc) :
    List OriginFact → OriginFact → Except Error (List OriginFact × OriginFact)
  | [], sofar => .ok ([], sofar)
  | f :: rest, sofar =>
    if A.isTop f then thrownTrace e rest sofar
    else do
      let entered ← A.enterHandler e f
      let joined ← A.join e sofar entered
      let (later, final) ← thrownTrace e rest joined
      return (entered :: joined :: later, final)

/-- The facts computed while edges into a block are joined, and the fact at its start. -/
def edgesTrace (t : FactTable g OriginFact Unit) :
    List g.Arc → OriginFact → Except Error (List OriginFact × OriginFact)
  | [], sofar => .ok ([], sofar)
  | e :: rest, sofar => do
    let (first, joined) ←
      if e.kind.isException then thrownTrace A e (t.get e.source).thrown sofar
      else do
        let joined ← A.joinAlong t sofar e
        pure ([joined], joined)
    let (later, final) ← edgesTrace t rest joined
    return (first ++ later, final)

/-- The facts computed by a visit to a block. -/
def visitTrace (t : FactTable g OriginFact Unit) (b : g.Node) : Except Error (List OriginFact) := do
  let (joined, start) ← edgesTrace A t (g.incoming b) (A.initial b)
  return A.initial b :: joined ++ A.factsBetween b 0 (g.instructions b) start

/-- The facts computed by some passes. -/
def trace (passes : Nat) : Except Error (List OriginFact) := do
  let visits ← A.visits passes A.initialTable
  let facts ← visits.mapM fun (b, t) => visitTrace A t b
  return facts.flatten

/-! ### Numbering -/

/-- The labels in the slots of a fact. -/
def slotLabels (f : OriginFact) : List ValueOrigin :=
  match f with
  | none => []
  | some f => f.slots

/-- All labels that a fact mentions. -/
def factLabels (f : OriginFact) : List ValueOrigin :=
  match f with
  | none => []
  | some f => f.labels

/-- The facts between the instructions of all blocks of a solution. -/
def finalFacts (s : Solution g OriginFact Unit) : List OriginFact :=
  g.nodes.flatMap fun b => A.blockFacts s b

/-- The origins in the order of their numbers: first as the iteration met them, then whatever else
the final facts mention. -/
def numbering (s : Solution g OriginFact Unit) : List ValueOrigin :=
  let met := match trace A s.passes with
    | .ok facts => facts.flatMap slotLabels
    | .error _ => []
  (met ++ (finalFacts A s).flatMap factLabels).eraseDups

/-- The number of an origin. -/
def numberOf (order : List ValueOrigin) (origin : ValueOrigin) : Nat := order.idxOf origin

/-- Every label of a final fact has a number. -/
theorem facts_numbered (s : Solution g OriginFact Unit) {b : g.Node} {f : OriginFact}
    (hf : f ∈ A.blockFacts s b) {origin : ValueOrigin} (ho : origin ∈ factLabels f) :
    origin ∈ numbering A s := by
  rw [numbering, List.mem_eraseDups, List.mem_append]
  refine .inr (List.mem_flatMap.2 ⟨f, List.mem_flatMap.2 ⟨b, ?_, hf⟩, ho⟩)
  exact List.mem_finRange b

/-- Numbered labels with one number are one label. -/
theorem numberOf_injective {order : List ValueOrigin} {a b : ValueOrigin} (ha : a ∈ order)
    (h : numberOf order a = numberOf order b) : a = b := by
  have hlt : numberOf order a < order.length := List.idxOf_lt_length_of_mem ha
  have ha' : order[numberOf order a]? = some a := by
    rw [List.getElem?_eq_getElem hlt]
    exact congrArg some (List.getElem_idxOf hlt)
  have hlt' : numberOf order b < order.length := h ▸ hlt
  have hb' : order[numberOf order b]? = some b := by
    rw [List.getElem?_eq_getElem hlt']
    exact congrArg some (List.getElem_idxOf hlt')
  rw [h, hb'] at ha'
  exact (Option.some.inj ha').symm

end ValueNumbering

namespace ValueTable

open ValueNumbering

variable {g : FlowGraph}

/-- The numbered facts of a flow graph. -/
def ofGraph [DescriptorReader] (g : FlowGraph) (numLocals maxStack : Nat) :
    Except Error (ValueTable g) := do
  let A := analysis g numLocals maxStack
  let s ← inContext .valueNumbering A.solve
  let order := numbering A s
  return ⟨.ofFn fun b => (A.blockFacts s b).map fun f => f.map (·.map (numberOf order))⟩

/-- The size of a value number, in bytes. -/
def numberBytes : Nat := 4

/-- Computes the numbered facts of a flow graph: the entry fact has a number for every local. -/
def compute [DescriptorReader] (g : FlowGraph) (numLocals maxStack : Nat) :
    Except Error (ValueTable g) := do
  let _ ← word (analysis g numLocals maxStack).passLimit
  allocate numLocals numberBytes
  ofGraph g numLocals maxStack

theorem compute_eq_ok_iff [DescriptorReader] {numLocals maxStack : Nat} {t : ValueTable g} :
    compute g numLocals maxStack = .ok t ↔
      (analysis g numLocals maxStack).passLimit < wordSize ∧
      numLocals * numberBytes ≤ maxBytes ∧ ofGraph g numLocals maxStack = .ok t := by
  unfold compute
  by_cases hlimit : (analysis g numLocals maxStack).passLimit < wordSize
  · rw [word_of_lt hlimit, and_iff_right hlimit]
    by_cases hlocals : numLocals * numberBytes ≤ maxBytes
    · rw [allocate_of_le hlocals, and_iff_right hlocals]
      rfl
    · rw [allocate_of_not_le hlocals]
      exact iff_of_false (fun hbind => nomatch hbind) fun h => hlocals h.1
  · rw [word_of_not_lt hlimit]
    exact iff_of_false (fun hbind => nomatch hbind) fun h => hlimit h.1

/-- The fact before the instruction at a position, and after the last one at the end of the block,
provided that control is seen to arrive there. -/
def factAt? (t : ValueTable g) (b : g.Node) (index : Nat) : Option NumberedFrame :=
  (t.facts.get b)[index]?.join

/-- The fact after the instruction at a position. -/
def factAfter? (t : ValueTable g) (b : g.Node) (index : Nat) : Option NumberedFrame :=
  t.factAt? b (index + 1)

/-- The fact at the start of a block. -/
def startFact? (t : ValueTable g) (b : g.Node) : Option NumberedFrame := t.factAt? b 0

end ValueTable

end Nullness
