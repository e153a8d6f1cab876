import Nullness.Descriptor

/-!
# Bytecode instructions

Instructions in the categories that the analyses distinguish, with what each takes from and leaves
on the operand stack. A stack cell holds one value, so a `long` or `double` is a single cell.
-/

namespace Nullness

variable [DescriptorReader]

/-- A field as an instruction names it. -/
structure FieldRef where
  owner : String
  name : String
  descriptor : String
deriving DecidableEq, Inhabited

/-- How a call selects the method that runs. -/
inductive CallKind
  | virtual
  | interface
  | special
  | static
deriving DecidableEq, Inhabited

/-- A method as a call instruction names it. -/
structure CallSite where
  owner : String
  name : String
  descriptor : String
  kind : CallKind
deriving DecidableEq, Inhabited

namespace CallSite

/-- The method that the instruction names, before dispatch. -/
def declared (call : CallSite) : MethodId := ⟨call.owner, call.name, call.descriptor⟩

/-- The stack cells of a receiver: one, unless the call is static. -/
def receivers (call : CallSite) : Nat := if call.kind = .static then 0 else 1

/-- The number of declared parameters. -/
def parameterCount (call : CallSite) : Except Error Nat := do
  let d ← MethodDescriptor.parse call.descriptor
  return d.parameters.length

/-- The stack cells that the call takes: its arguments and its receiver. -/
def consumed (call : CallSite) : Except Error Nat := do
  return (← call.parameterCount) + call.receivers

/-- What the called method returns. -/
def returnKind (call : CallSite) : Except Error ReturnKind := do
  return (← MethodDescriptor.parse call.descriptor).returnKind

end CallSite

/-- What an instruction does. -/
inductive Opcode
  | nop
  | constNull
  | constPrimitive
  /-- A string, class or method-handle constant. -/
  | constReference
  | load (slot : Nat)
  | store (slot : Nat)
  | pop
  | dup
  | dupX1
  | swap
  | new (className : String)
  | newArray
  | multiNewArray (dimensions : Nat)
  | getField (field : FieldRef)
  | putField (field : FieldRef)
  | getStatic (field : FieldRef)
  | putStatic (field : FieldRef)
  | arrayLoad
  | arrayStore
  | arrayLength
  | invoke (call : CallSite)
  | checkCast
  | instanceOf
  /-- A computation on primitives. -/
  | arithmetic (pops pushes : Nat)
  | ifNull
  | ifNonNull
  | ifRefEq
  | ifRefNe
  /-- Branches when the popped integer is zero. -/
  | ifEq
  /-- Branches when the popped integer is not zero. -/
  | ifNe
  /-- Any other comparison of integers. -/
  | ifCompare (operands : Nat)
  | goto
  | switch
  | return
  | returnValue
  | throw
  | monitorEnter
  | monitorExit
deriving DecidableEq, Inhabited

/-- The stack cells that an instruction takes and leaves. -/
structure StackEffect where
  pops : Nat
  pushes : Nat
deriving DecidableEq, Inhabited

namespace Opcode

/-- The effect on the depth of the stack. Only a call can fail to have one: its descriptor may not
be readable. -/
def effect : Opcode → Except Error StackEffect
  | .nop | .goto | .return | .checkCast => .ok ⟨0, 0⟩
  | .constNull | .constPrimitive | .constReference => .ok ⟨0, 1⟩
  | .load _ | .new _ | .getStatic _ => .ok ⟨0, 1⟩
  | .store _ | .pop | .putStatic _ => .ok ⟨1, 0⟩
  | .dup => .ok ⟨1, 2⟩
  | .dupX1 => .ok ⟨2, 3⟩
  | .swap => .ok ⟨2, 2⟩
  | .newArray | .getField _ | .arrayLength | .instanceOf => .ok ⟨1, 1⟩
  | .multiNewArray dimensions => .ok ⟨dimensions, 1⟩
  | .putField _ => .ok ⟨2, 0⟩
  | .arrayLoad => .ok ⟨2, 1⟩
  | .arrayStore => .ok ⟨3, 0⟩
  | .invoke call => do
    let d ← MethodDescriptor.parse call.descriptor
    let pushes := match d.returnKind with
      | .void => 0
      | .primitive | .reference => 1
    return ⟨d.parameters.length + call.receivers, pushes⟩
  | .arithmetic pops pushes => .ok ⟨pops, pushes⟩
  | .ifNull | .ifNonNull | .ifEq | .ifNe | .switch => .ok ⟨1, 0⟩
  | .returnValue | .throw | .monitorEnter | .monitorExit => .ok ⟨1, 0⟩
  | .ifRefEq | .ifRefNe => .ok ⟨2, 0⟩
  | .ifCompare operands => .ok ⟨operands, 0⟩

/-- Whether the instruction can raise an exception that a handler may catch. -/
def mayThrow : Opcode → Bool
  | .new _ | .newArray | .multiNewArray _ => true
  | .getField _ | .putField _ | .getStatic _ | .putStatic _ => true
  | .arrayLoad | .arrayStore | .arrayLength => true
  | .invoke _ | .checkCast | .arithmetic _ _ | .throw | .monitorEnter | .monitorExit => true
  | _ => false

/-- Whether the instruction branches on a reference being null. -/
def isNullTest : Opcode → Bool
  | .ifNull | .ifNonNull => true
  | _ => false

end Opcode

/-- An instruction at its offset in the method's bytecode. -/
structure Instruction where
  offset : Nat
  op : Opcode
deriving DecidableEq, Inhabited

/-! ### Ends of a straight-line sequence -/

/-- The last opcode of a sequence of instructions. -/
def lastOp? (code : List Instruction) : Option Opcode := code.getLast?.map (·.op)

/-- The opcode before the last one. -/
def penultimateOp? (code : List Instruction) : Option Opcode := lastOp? code.dropLast

/-- Whether a sequence of instructions ends by throwing. -/
def endsInThrow (code : List Instruction) : Bool := lastOp? code = some .throw

end Nullness
