import Nullness.Dataflow
import Nullness.ValueNumber.Origin

/-!
# Value numbering as a dataflow analysis

Value frames over the origins of values are propagated through a flow graph. Where frames with
different labels in a slot meet, the slot gets the label of the meeting point; of the available
loads those stay that both frames have under one label.

A fact is a value frame, or `none` at a point that no control has been seen to reach.
-/

namespace Nullness

/-- A fact of value numbering: the value frame, if the point is reached. -/
abbrev OriginFact : Type := Option (ValueFrame ValueOrigin)

namespace ValueNumbering

/-- The frame on entry to a method: every local holds a value of its own. -/
def entryFrame (numLocals : Nat) : ValueFrame ValueOrigin :=
  ⟨(List.range numLocals).map .entry, [], .empty⟩

/-- The label of a slot where two frames meet at a block. -/
def meetLabel (block slot : Nat) (mine theirs : ValueOrigin) : ValueOrigin :=
  if mine = theirs then mine else .merge block slot

/-- Joins a frame into the frame at the start of a block so far. -/
def meetFrames (block : Nat) (sofar carried : ValueFrame ValueOrigin) :
    Except Error (ValueFrame ValueOrigin) :=
  if sofar.numSlots ≠ carried.numSlots then
    .error (.numbering (.slotCountsDiffer sofar.numSlots carried.numSlots block))
  else
    let slots := (sofar.slots.zip carried.slots).mapIdx fun slot labels =>
      meetLabel block slot labels.1 labels.2
    let loads := sofar.loads.filter fun l label => carried.available? l = some label
    .ok (.ofSlots sofar.numLocals slots loads)

/-- Joins a fact into the fact at the start of a block so far. -/
def meetFacts (block : Nat) : (sofar carried : OriginFact) → Except Error OriginFact
  | sofar, none => .ok sofar
  | none, some carried => .ok (some carried)
  | some sofar, some carried => (meetFrames block sofar carried).map some

/-- The frame on entry to a handler: the locals as they were, and the exception on the stack. -/
def handlerFrame (block : Nat) (f : ValueFrame ValueOrigin) : ValueFrame ValueOrigin :=
  { f with stack := [.handler block] }

/-- Value numbering of a method with the given numbers of locals and stack cells. -/
def analysis [DescriptorReader] (g : FlowGraph) (numLocals maxStack : Nat) :
    FlowAnalysis g OriginFact Unit where
  top := none
  isTop f := f.isNone
  entry := some (entryFrame numLocals)
  height := 2 * (numLocals + maxStack) + g.instructionCount + 2
  step b index i
    | none => .ok none
    | some f => (f.step (.produced b index) i.op).map some
  decide _ _ _ := none
  refine _ _ f := f
  enterHandler e f := .ok (f.map (handlerFrame e.target))
  join e := meetFacts e.target

end ValueNumbering

end Nullness
