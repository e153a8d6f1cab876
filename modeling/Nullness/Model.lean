import Nullness.Annotations
import Nullness.Assertion
import Nullness.CheckedCall
import Nullness.Nullity
import Nullness.Summary
import Nullness.ValueNumber.Table

/-!
# Instructions as transformers of nullness frames

What one instruction does to a frame of nullness values. Beside moving values it may learn from what
must hold for the instruction to complete: a dereferenced value was not null, nor was an argument
that every possible target needs, nor a local that a called thrower has checked.

* `NullModel.apply`: the effect of an instruction;
* `NullModel.tighten`: the values of a class once it is known not to be null;
* `NullModel.guardArguments`: the arguments that all targets of a call need.
-/

namespace Nullness

variable [DescriptorReader]

/-- The value of a source with an annotation. -/
def NullMark.nullity : NullMark → Nullity
  | .nonNull => .nonNullProven
  | .checkForNull => .nullOnSimplePath
  | .nullable | .unknown => .nonNullSilent

/-- What the effect of an instruction depends on beside the frame. -/
structure NullModel (g : FlowGraph) where
  config : Config
  hierarchy : Hierarchy
  summaries : SummaryStore
  numbers : ValueTable g
  /-- The calls checked on every path, unless they are not tracked. -/
  checked : Option (CheckedCalls g)

/-- The frame after an instruction, and the slot of a value that the instruction has just made and
that is definitely null. -/
structure Modeled where
  frame : NullFrame
  newNull : Option Nat
deriving DecidableEq

namespace NullModel

variable {g : FlowGraph} (m : NullModel g)

/-! ### Producing values -/

/-- The class of the value on top of the stack after an instruction, if classes are used. -/
def resultNumber? (b : g.Node) (index : Nat) : Option Nat :=
  if m.config.trackValueNumbers then
    (m.numbers.factAfter? b index).bind (·.topValue?)
  else none

/-- Pushes a value that the instruction makes and keeps it as the known value of its class. -/
def produce (b : g.Node) (index : Nat) (f : NullFrame) (v : Nullity) : Except Error Modeled := do
  let f ← f.push v
  let newNull := if v.isDefinitelyNull then some (f.numSlots - 1) else none
  let f := match m.resultNumber? b index with
    | none => f
    | some number => f.setKnown number v
  return ⟨f, newNull⟩

/-- Takes operands and leaves values about which nothing is claimed. -/
def applyEffect (op : Opcode) (f : NullFrame) : Except Error NullFrame := do
  let effect ← op.effect
  let f ← f.popN effect.pops
  f.pushN .nonNullSilent effect.pushes

/-! ### Heap reads and writes -/

/-- The value known of the class that the instruction pushes. -/
def knownResult? (b : g.Node) (index : Nat) (f : NullFrame) : Option Nullity :=
  (m.resultNumber? b index).bind f.knownValue?

/-- The value of a field whose content is not known. -/
def readField (b : g.Node) (index : Nat) (isStatic : Bool) (field : FieldRef) (f : NullFrame) :
    Except Error Modeled := do
  let silent := do return ⟨← f.push .nonNullSilent, none⟩
  if !isReferenceField field.descriptor then silent
  else if isStatic && "class$".toList.isPrefixOf field.name.toList then
    m.produce b index f .nonNullProven
  else
    match m.hierarchy.fieldMark field with
    | .nonNull => m.produce b index f .nonNullProven
    | .checkForNull => m.produce b index f .nullOnSimplePath
    | .nullable | .unknown => silent

/-- Reads a field of an object or a static field. -/
def loadField (b : g.Node) (index : Nat) (isStatic : Bool) (field : FieldRef) (f : NullFrame) :
    Except Error Modeled := do
  let popped ← f.popN (if isStatic then 0 else 1)
  match m.knownResult? b index f with
  | some known => m.produce b index popped known
  | none => m.readField b index isStatic field popped

/-- Keeps a stored value as the known value of the load that the store makes available. -/
def remember (b : g.Node) (index : Nat) (load : Option (Load Nat)) (stored : Nullity)
    (f : NullFrame) : NullFrame :=
  if m.config.trackValueNumbers then
    match load.bind fun l => (m.numbers.factAfter? b index).bind (·.available? l) with
    | none => f
    | some number => f.setKnown number stored
  else f

/-- The class of the operand that lies `fromTop` cells below the top before an instruction. -/
def operand? (b : g.Node) (index fromTop : Nat) : Option Nat :=
  (m.numbers.factAt? b index).bind (·.stackValue? fromTop)

/-- Writes a field of an object. -/
def storeField (b : g.Node) (index : Nat) (field : FieldRef) (f : NullFrame) :
    Except Error NullFrame := do
  let stored ← f.topValue
  let f ← f.popN 2
  let load := (m.operand? b index 1).map fun reference => .field (some reference) field
  return m.remember b index load stored f

/-- Writes a static field. -/
def storeStatic (b : g.Node) (index : Nat) (field : FieldRef) (f : NullFrame) :
    Except Error NullFrame := do
  let stored ← f.topValue
  let f ← f.popN 1
  return m.remember b index (some (.field none field)) stored f

/-- Writes an element of an array. -/
def storeElement (b : g.Node) (index : Nat) (f : NullFrame) : Except Error NullFrame := do
  let stored ← f.topValue
  let f ← f.popN 3
  let load := (m.operand? b index 2).bind fun array =>
    (m.operand? b index 1).map fun position => .element array position
  return m.remember b index load stored f

/-! ### Values that cannot be null -/

/-- The class of a value that has turned out not to be null: undecided cells of the class become
guarded, and so does its known value. -/
def tighten (numbers : NumberedFrame) (number : Nat) (f : NullFrame) : NullFrame :=
  let f := match f.knownValue? number with
    | none => f
    | some v =>
      if v.isDefinitelyNull || v.isDefinitelyNotNull then f
      else f.setKnown number .nonNullGuarded
  f.mapSlots fun i v =>
    if numbers.slot? i = some number && v.isUndecided then .nonNullGuarded else v

/-- Whether a value of the class is definitely null. -/
def classIsNull (numbers : NumberedFrame) (number : Nat) (f : NullFrame) : Bool :=
  f.knownValue? number = some .definitelyNull ||
    (f.slots.zipIdx.any fun (v, i) => numbers.slot? i = some number && v.isDefinitelyNull)

/-- Tightens the class of one argument of a call, counted from the first, or finds that the call
cannot complete. -/
def guardArgument (before : NumberedFrame) (count : Nat) (f : NullFrame) (argument : Nat) :
    Option NullFrame :=
  match before.stackValue? (count - 1 - argument) with
  | none => some f
  | some number => if classIsNull before number f then none else some (tighten before number f)

/-- Tightens the arguments that every target of a call needs, or finds that the call cannot
complete because one of them is null. -/
def guardArguments (b : g.Node) (index : Nat) (call : CallSite) (targets : List MethodId)
    (f : NullFrame) : Except Error (Option NullFrame) :=
  let required := m.hierarchy.requiredParameters call targets
  if required.isEmpty then .ok (some f)
  else
    match m.numbers.factAt? b index with
    | none => .ok (some f)
    | some before => do
      let count ← call.parameterCount
      return (required.toList.filter (· < count)).foldlM (guardArgument before count) f

/-- The local that a block tests at its end by loading it and branching when it is not null. -/
def guardLocal? (b : g.Node) : Option Nat :=
  match lastOp? (g.instructions b), penultimateOp? (g.instructions b) with
  | some .ifNonNull, some (.load slot) => some slot
  | _, _ => none

/-- The call of a thrower in the branch where a local is null: had the local been null, the method
would have left. The nearest test on a way to the call counts. -/
def guardBeforeThrower (b : g.Node) (f : NullFrame) : Except Error NullFrame :=
  let blocks := reachableFrom (fun b => (g.incoming b).map (·.source)) g.edges.length b
  match blocks.findSome? guardLocal? with
  | none => .ok f
  | some slot => f.setLocal slot .nonNullGuarded

/-- Takes up to `count` loads off a list of opcodes: their slots and how many are still to come, or
`none` when something else comes first. -/
def takeLoads : Nat → List Opcode → Option (List Nat × Nat)
  | 0, _ => some ([], 0)
  | count, [] => some ([], count)
  | count + 1, .load slot :: rest =>
    (takeLoads count rest).map fun (slots, missing) => (slot :: slots, missing)
  | _ + 1, _ :: _ => none

/-- The opcodes of a block, the last one first. -/
def opsBackwards (b : g.Node) : List Opcode := (g.ops b).reverse

/-- The slots loaded by the last `count` instructions of a list of opcodes, the last one first,
and of the blocks from which control falls through. The bound limits the number of those blocks. -/
def loadsBackwards : Nat → g.Node → Nat → List Opcode → Option (List Nat)
  | blocks, b, count, ops =>
    match takeLoads count ops with
    | none => none
    | some (slots, 0) => some slots
    | some (slots, missing + 1) =>
      match blocks with
      | 0 => none
      | blocks + 1 =>
        (g.fallThroughPredecessor? b).bind fun p =>
          (loadsBackwards blocks p (missing + 1) (opsBackwards p)).map (slots ++ ·)

/-- The slots loaded by the `count` instructions in front of a position, nearest first. -/
def argumentLoads (b : g.Node) (index count : Nat) : Option (List Nat) :=
  loadsBackwards g.size b count ((g.ops b).take index).reverse

/-- Guards the locals that are passed for parameters which the called method checks. -/
def guardCheckedArguments (b : g.Node) (index : Nat) (call : CallSite) (parameters : SortedSet Nat)
    (f : NullFrame) : Except Error NullFrame := do
  let consumed ← call.consumed
  match argumentLoads b index consumed with
  | none => return f
  | some slots =>
    slots.zipIdx.foldlM (fun f (slot, distance) =>
      if SortedSet.mem parameters (consumed - 1 - distance) then f.setLocal slot .nonNullGuarded
      else .ok f) f

/-- What a static call tells by its summary. -/
def applySummary (b : g.Node) (index : Nat) (call : CallSite) (targets : List MethodId)
    (f : NullFrame) : Except Error NullFrame :=
  match m.summaries.get (targets.head?.getD call.declared) with
  | .none => .ok f
  | .alwaysThrows => do
    if (← call.consumed) = 0 then guardBeforeThrower b f else return f
  | .conditional parameters => guardCheckedArguments b index call parameters f

/-! ### Calls -/

/-- The value of a returned reference. -/
def returnValue (b : g.Node) (call : CallSite) (targets : List MethodId) : Nullity :=
  if !m.config.modelReturnValues then .nonNullSilent
  else if m.checked.any fun t => t.contains b call.name then .nonNullSilent
  else
    let targets := if targets.isEmpty then [call.declared] else targets
    match targets.map fun id => (m.hierarchy.returnMark id).nullity with
    | [] => .nonNullSilent
    | v :: vs => vs.foldl join v

/-- Takes the arguments of a call and leaves what it returns. -/
def finishCall (b : g.Node) (index : Nat) (call : CallSite) (targets : List MethodId)
    (f : NullFrame) : Except Error Modeled := do
  let f ← f.popN (← call.consumed)
  match ← call.returnKind with
  | .reference => m.produce b index f (m.returnValue b call targets)
  | .primitive => return ⟨← f.push .nonNullSilent, none⟩
  | .void => return ⟨f, none⟩

/-- A call. It cannot complete when an argument is null that every target needs. -/
def invoke (b : g.Node) (index : Nat) (call : CallSite) (f : NullFrame) : Except Error Modeled := do
  let targets := m.hierarchy.targets call
  let guarded ←
    if m.config.trackValueNumbers then m.guardArguments b index call targets f else pure (some f)
  match guarded with
  | none => return ⟨f.setTop, none⟩
  | some f =>
    let f ← if call.kind = .static then m.applySummary b index call targets f else pure f
    m.finishCall b index call targets f

/-! ### All instructions -/

/-- The frame after an instruction that makes no value of interest. -/
def unremarkable (x : Except Error NullFrame) : Except Error Modeled := do return ⟨← x, none⟩

/-- The effect of an instruction on a valid frame, before it is known to have completed. -/
def applyOp (b : g.Node) (index : Nat) (op : Opcode) (f : NullFrame) : Except Error Modeled :=
  match op with
  | .nop | .goto | .return | .checkCast => .ok ⟨f, none⟩
  | .constNull => m.produce b index f .definitelyNull
  | .constReference | .new _ => m.produce b index f .nonNullProven
  | .newArray => do m.produce b index (← f.popN 1) .nonNullProven
  | .multiNewArray dimensions => do m.produce b index (← f.popN dimensions) .nonNullProven
  | .load slot => unremarkable do f.push (← f.localValue slot)
  | .store slot => unremarkable do
    let (v, f) ← f.pop
    f.setLocal slot v
  | .pop => unremarkable (f.popN 1)
  | .dup => unremarkable do f.push (← f.topValue)
  | .dupX1 => unremarkable do
    let (first, f) ← f.pop
    let (second, f) ← f.pop
    let f ← f.push first
    let f ← f.push second
    f.push first
  | .swap => unremarkable do
    let (first, f) ← f.pop
    let (second, f) ← f.pop
    let f ← f.push first
    f.push second
  | .getField field => m.loadField b index false field f
  | .getStatic field => m.loadField b index true field f
  | .putField field => unremarkable (m.storeField b index field f)
  | .putStatic field => unremarkable (m.storeStatic b index field f)
  | .invoke call => m.invoke b index call f
  | .arrayLoad =>
    match m.knownResult? b index f with
    | some known => do m.produce b index (← f.popN 2) known
    | none => unremarkable (applyEffect op f)
  | .arrayStore => unremarkable (m.storeElement b index f)
  | _ => unremarkable (applyEffect op f)

/-- The distance from the top of the stack of the reference that an instruction dereferences. -/
def dereferenced? : Opcode → Option Nat
  | .getField _ | .arrayLength | .monitorEnter | .monitorExit | .throw => some 0
  | .putField _ | .arrayLoad => some 1
  | .arrayStore => some 2
  | .invoke call => if call.kind = .static then none else call.parameterCount.toOption
  | _ => none

/-- The class that an instruction dereferences, if its value is undecided. -/
def dereferencedClass? (b : g.Node) (index : Nat) (op : Opcode) (f : NullFrame) : Option Nat := do
  if !m.config.modelDereferences || !m.config.trackValueNumbers then failure
  let fromTop ← dereferenced? op
  let v ← (f.stackValue fromTop).toOption
  if v.isUndecided then m.operand? b index fromTop else failure

/-- Tightens the class that an instruction has dereferenced. -/
def afterDereference (b : g.Node) (index : Nat) (number : Option Nat) (f : NullFrame) : NullFrame :=
  match number, m.numbers.factAfter? b index with
  | some number, some after => tighten after number f
  | _, _ => f

/-- A value that an assertion let through is not null any more. -/
def suppressNull (v : Nullity) : Nullity :=
  if v.isDefinitelyNull || v.isNullOnSomePath then .nonNullSilent else v

/-- Frees a frame from null values after a call that asserts something. -/
def afterAssertion (op : Opcode) (f : NullFrame) : NullFrame :=
  match op with
  | .invoke call =>
    if m.config.suppressAssertionNulls && isAssertion m.config.assertionMethods.toList call then
      (f.mapSlots fun _ v => suppressNull v).mapKnown suppressNull
    else f
  | _ => f

/-- The effect of an instruction. A top frame is left alone. -/
def apply (b : g.Node) (index : Nat) (op : Opcode) (f : NullFrame) : Except Error Modeled := do
  if !f.valid then return ⟨f, none⟩
  let number := m.dereferencedClass? b index op f
  let out ← m.applyOp b index op f
  if !out.frame.valid then return out
  return { out with frame := m.afterAssertion op (m.afterDereference b index number out.frame) }

end NullModel

end Nullness
